import CallScript.Capture.Frame
import CallScript.Capture.Record
import CallScript.Proofs.Bytes
import CallScript.Proofs.Result
import CallScript.Proofs.Rtp.Wire

/-!
# Reading captures

What a reader finds in a capture that has been written: record by record, the time at which a
frame was seen and the frame itself, and in the frame the packet that was sent.

Main statements:
* `readRecords?_append`: a record that stands before others is read first, and the others after it.
* `sighting?_recordOf`: the record of a framed packet shows the packet and its time.
-/

namespace CallScript
namespace Capture

/-- What is seen of a record: its capture time in microseconds and the packet in its frame. -/
structure Sighting where
  time : Int
  packet : Rtp.Packet
  deriving Repr, DecidableEq

/-- The bytes of a frame before its payload: the headers of Ethernet, IPv4 and the datagram. -/
def payloadOffset : Nat := 42

namespace Record

/-- The capture time of a record in microseconds. -/
def time (r : Record) : Int :=
  r.seconds * Capture.microseconds + r.microseconds

/-- What is seen of a record, if its frame holds a packet. -/
def sighting? (r : Record) : Option Sighting :=
  match Rtp.Packet.decode (r.frame.drop payloadOffset) with
  | .ok packet => some ⟨r.time, packet⟩
  | .error _ => none

end Record

/-- What is seen in a capture: the packet and the time of every record. -/
def sightings? (bytes : Bytes) : Option (List Sighting) :=
  (read? bytes).bind fun records => records.mapM Record.sighting?

/-- The record in which a frame of a time is found. -/
def recordOf (frame : Bytes) (time : Int) : Record where
  seconds := (Int.fdiv time microseconds).toNat
  microseconds := (Int.fmod time microseconds).toNat
  captured := frame.length
  onWire := frame.length
  frame := frame

theorem fieldBytes_eq_ok
    {width : Nat} {n : Int} {bytes : Bytes}
    (h : fieldBytes width n = .ok bytes) :
    ∃ k : Nat, n = k ∧ k < 256 ^ width ∧ bytes = Bytes.littleEndian width k := by
  unfold fieldBytes at h
  cases hfit : Bytes.fit? width n with
  | none =>
      rw [hfit] at h
      cases h
  | some k =>
      rw [hfit] at h
      cases h
      obtain ⟨hk, hlt⟩ := Bytes.fit?_eq_some_iff.mp hfit
      exact ⟨k, hk, hlt, rfl⟩

theorem wordBytes_eq_ok
    {n : Int} {bytes : Bytes}
    (h : wordBytes n = .ok bytes) :
    ∃ k : Nat, n = k ∧ k < 256 ^ 2 ∧ bytes = Bytes.bigEndian 2 k := by
  unfold wordBytes at h
  cases hfit : Bytes.fit? 2 n with
  | none =>
      rw [hfit] at h
      cases h
  | some k =>
      rw [hfit] at h
      cases h
      obtain ⟨hk, hlt⟩ := Bytes.fit?_eq_some_iff.mp hfit
      exact ⟨k, hk, hlt, rfl⟩

@[simp] theorem length_fill (length : Nat) (bytes : Bytes) :
    (Bytes.fill length bytes).length = length := by
  simp only [Bytes.fill, List.length_append, List.length_take, List.length_replicate]
  omega

/-- A frame is its headers, the one of the packet with its checksum, and the payload after them. -/
theorem frame_eq_ok
    {source destination : Party} {payload bytes : Bytes} {ident : Int}
    (h : frame source destination payload ident = .ok bytes) :
    ∃ (sourcePort destinationPort : Nat) (parts : HeaderParts) (sum : Nat),
      source.port = sourcePort ∧ sourcePort < 256 ^ 2 ∧
      destination.port = destinationPort ∧ destinationPort < 256 ^ 2 ∧
      28 + payload.length < 256 ^ 2 ∧
      headerParts source.address destination.address
        (Bytes.bigEndian 2 (28 + payload.length)) ident = parts ∧
      checksum (parts.withChecksum 0) = .ok sum ∧
      bytes =
        ethernetHeader ++ parts.withChecksum sum ++
          (Bytes.bigEndian 2 sourcePort ++ Bytes.bigEndian 2 destinationPort ++
            Bytes.bigEndian 2 (8 + payload.length) ++ [0, 0]) ++ payload := by
  unfold frame at h
  obtain ⟨_, hsource, h⟩ := Result.bind_eq_ok h
  obtain ⟨_, hdestination, h⟩ := Result.bind_eq_ok h
  obtain ⟨_, hdatagram, h⟩ := Result.bind_eq_ok h
  obtain ⟨_, htotal, h⟩ := Result.bind_eq_ok h
  obtain ⟨sum, hsum, h⟩ := Result.bind_eq_ok h
  obtain ⟨sourcePort, hfirst, hfirst', rfl⟩ := wordBytes_eq_ok hsource
  obtain ⟨destinationPort, hsecond, hsecond', rfl⟩ := wordBytes_eq_ok hdestination
  obtain ⟨inner, hinner, _, rfl⟩ := wordBytes_eq_ok hdatagram
  obtain ⟨outer, houter, houter', rfl⟩ := wordBytes_eq_ok htotal
  obtain rfl : 8 + payload.length = inner := by
    omega
  obtain rfl : 28 + payload.length = outer := by
    omega
  cases h
  exact ⟨sourcePort, destinationPort, _, sum, hfirst, hfirst', hsecond, hsecond', houter', rfl, hsum,
    rfl⟩

/-- The payload of a frame stands behind its headers. -/
theorem drop_frame
    {source destination : Party} {payload bytes : Bytes} {ident : Int}
    (h : frame source destination payload ident = .ok bytes) :
    bytes.drop payloadOffset = payload := by
  obtain ⟨sourcePort, destinationPort, parts, sum, _, _, _, _, _, rfl, _, rfl⟩ := frame_eq_ok h
  apply List.drop_left'
  simp [ethernetHeader, HeaderParts.withChecksum, headerParts, payloadOffset]

/-- A record is its header and the frame after it. -/
theorem record_eq_ok
    {frame bytes : Bytes} {time : Int}
    (h : record frame time = .ok bytes) :
    ∃ seconds rest : Nat,
      Int.fdiv time microseconds = seconds ∧ seconds < 256 ^ 4 ∧
      Int.fmod time microseconds = rest ∧ rest < 256 ^ 4 ∧
      frame.length < 256 ^ 4 ∧
      bytes =
        Bytes.littleEndian 4 seconds ++ (Bytes.littleEndian 4 rest ++
          (Bytes.littleEndian 4 frame.length ++ (Bytes.littleEndian 4 frame.length ++ frame))) := by
  unfold record at h
  obtain ⟨_, first, h⟩ := Result.bind_eq_ok h
  obtain ⟨_, second, h⟩ := Result.bind_eq_ok h
  obtain ⟨_, third, h⟩ := Result.bind_eq_ok h
  obtain ⟨seconds, hseconds, hseconds', rfl⟩ := fieldBytes_eq_ok first
  obtain ⟨rest, hrest, hrest', rfl⟩ := fieldBytes_eq_ok second
  obtain ⟨length, hlength, hlength', rfl⟩ := fieldBytes_eq_ok third
  obtain rfl := Int.ofNat_inj.mp hlength
  cases h
  refine ⟨seconds, rest, hseconds, hseconds', hrest, hrest', hlength', ?_⟩
  simp only [List.append_assoc]

/-- The record that was written for a frame holds the time at which the frame was seen. -/
theorem time_recordOf
    {frame bytes : Bytes} {time : Int}
    (h : record frame time = .ok bytes) :
    (recordOf frame time).time = time := by
  obtain ⟨seconds, rest, hseconds, _, hrest, _, _, _⟩ := record_eq_ok h
  simp only [Record.time, recordOf, hseconds, hrest, Int.toNat_natCast]
  rw [← hseconds, ← hrest]
  exact Int.fdiv_mul_add_fmod time microseconds

/-- The records behind the four fields of a header are read when the header announces them. -/
theorem readRecords?_header
    {seconds rest captured onWire : Bytes}
    (hseconds : seconds.length = 4)
    (hrest : rest.length = 4)
    (hcaptured : captured.length = 4)
    (honWire : onWire.length = 4)
    (frame others : Bytes)
    (hframe : Bytes.toNatLittle captured = frame.length) :
    readRecords? (seconds ++ (rest ++ (captured ++ (onWire ++ (frame ++ others))))) =
      (readRecords? others).map fun records =>
        { seconds := Bytes.toNatLittle seconds
          microseconds := Bytes.toNatLittle rest
          captured := frame.length
          onWire := Bytes.toNatLittle onWire
          frame := frame } :: records := by
  generalize hbytes : seconds ++ (rest ++ (captured ++ (onWire ++ (frame ++ others)))) = bytes
  have hlength : bytes.length = recordHeaderLength + (frame.length + others.length) := by
    rw [← hbytes]
    simp only [List.length_append, hseconds, hrest, hcaptured, honWire, recordHeaderLength]
    omega
  have hfirst : bytes.take 4 = seconds := by
    rw [← hbytes, List.take_left' hseconds]
  have hsecond : (bytes.drop 4).take 4 = rest := by
    rw [← hbytes, Bytes.take_drop_field hseconds hrest]
  have hthird : (bytes.drop 8).take 4 = captured := by
    rw [← hbytes, ← List.append_assoc]
    exact Bytes.take_drop_field (by simp [hseconds, hrest]) hcaptured
  have hfourth : (bytes.drop 12).take 4 = onWire := by
    rw [← hbytes, ← List.append_assoc, ← List.append_assoc]
    exact Bytes.take_drop_field (by simp [hseconds, hrest, hcaptured]) honWire
  have htail : bytes.drop recordHeaderLength = frame ++ others := by
    rw [← hbytes, ← List.append_assoc, ← List.append_assoc, ← List.append_assoc]
    exact List.drop_left' (by simp [hseconds, hrest, hcaptured, honWire, recordHeaderLength])
  have hfilled : bytes.isEmpty = false := by
    rw [List.isEmpty_eq_false_iff, ← List.length_pos_iff, hlength]
    exact Nat.lt_add_right _ (by decide)
  have hwhole : ¬ (frame ++ others).length < frame.length := by
    rw [List.length_append]
    omega
  rw [readRecords?, hfilled, if_neg Bool.false_ne_true, if_neg (by omega)]
  simp only [hfirst, hsecond, hthird, hfourth, htail, hframe]
  rw [if_neg hwhole, List.drop_left, List.take_left]

/-- A record that stands before others is read first, and the others after it. -/
theorem readRecords?_append
    {frame bytes : Bytes} {time : Int}
    (h : record frame time = .ok bytes)
    (others : Bytes) :
    readRecords? (bytes ++ others) = (readRecords? others).map (recordOf frame time :: ·) := by
  obtain ⟨seconds, rest, hseconds, hseconds', hrest, hrest', hlength, rfl⟩ := record_eq_ok h
  have hread : ∀ {k : Nat}, k < 256 ^ 4 → Bytes.toNatLittle (Bytes.littleEndian 4 k) = k := by
    intro k hk
    rw [Bytes.toNatLittle_littleEndian, Nat.mod_eq_of_lt hk]
  simp only [List.append_assoc]
  rw [readRecords?_header (Bytes.length_littleEndian 4 _) (Bytes.length_littleEndian 4 _)
    (Bytes.length_littleEndian 4 _) (Bytes.length_littleEndian 4 _) frame others (hread hlength),
    hread hseconds', hread hrest', hread hlength]
  simp only [recordOf, hseconds, hrest, Int.toNat_natCast]

/-- The record of a framed packet shows the packet as it is read back, and its time. -/
theorem sighting?_recordOf
    {source destination : Party} {packet : Rtp.Packet} {ident time : Int}
    {datagram bytes : Bytes}
    (hframe : frame source destination packet.encode ident = .ok datagram)
    (hrecord : record datagram time = .ok bytes) :
    (recordOf datagram time).sighting? = some ⟨time, packet.onWire⟩ := by
  have hpayload : (recordOf datagram time).frame.drop payloadOffset = packet.encode := by
    exact drop_frame hframe
  rw [Record.sighting?, hpayload, Rtp.Packet.decode_encode, time_recordOf hrecord]

/-- The header of a capture file has its length. -/
theorem fileHeader_eq_ok
    {snapLength linkType : Int} {header : Bytes}
    (h : fileHeader snapLength linkType = .ok header) :
    header.length = fileHeaderLength := by
  unfold fileHeader at h
  obtain ⟨_, hsnap, h⟩ := Result.bind_eq_ok h
  obtain ⟨_, hlink, h⟩ := Result.bind_eq_ok h
  obtain ⟨snap, _, _, rfl⟩ := fieldBytes_eq_ok hsnap
  obtain ⟨link, _, _, rfl⟩ := fieldBytes_eq_ok hlink
  cases h
  simp [fileHeaderLength]

/-- The records behind the header of a capture file are those of the capture. -/
theorem read?_append
    {header : Bytes}
    (h : header.length = fileHeaderLength)
    (bytes : Bytes) :
    read? (header ++ bytes) = readRecords? bytes := by
  unfold read?
  rw [List.drop_left' h, if_neg]
  rw [List.length_append, h]
  omega

end Capture
end CallScript
