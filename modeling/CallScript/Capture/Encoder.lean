import CallScript.Capture.Address
import CallScript.Capture.Frame
import CallScript.Capture.Record
import CallScript.MuLaw
import CallScript.Media.Profile
import CallScript.Media.Timeline
import CallScript.Rtp.Event
import CallScript.Rtp.Stream
import CallScript.Text.Numeral

/-!
# Encoding media

A timeline becomes a capture: silence is sent as mu-law packets of one frame each, a tone as
telephone events that report its growing duration, the last one three times.  The place of every
packet is counted in samples from the start of the capture, and both its RTP timestamp and its
capture time follow from that place.

The packets of a silence and the reports of a tone are given in closed form, and a silence or a tone
whose loop would never end is a fault.  `CallScript.Proofs.Capture.Loops` has the loops themselves.
-/

namespace CallScript
namespace Capture

/-- Where a capture takes its clocks and random numbers from. -/
structure Clock where
  ssrc : Int
  sequence : Int
  timestamp : Int
  time : Value

/-- What an encoder is set to: the two ends, the profile, and perhaps a source and a start. -/
structure Encoder where
  source : Party
  destination : Party
  profile : Media.Profile
  ssrc : Option Int
  startTime : Value

/-- The fixed part of one encoding. -/
structure Session where
  source : Party
  destination : Party
  profile : Media.Profile
  startUsec : Int

/-- What has been written so far, and the clocks after it. -/
structure Progress where
  stream : Rtp.Stream
  elapsed : Int
  talkspurt : Bool
  records : Array Bytes

/-- How often the end of a tone is reported. -/
def endReports : Nat := 3

/-- A text is read after it has been repeated as often as a second has microseconds. -/
def textToMicroseconds (t : Text) : Except Fault Int :=
  match Text.integerOfCopies microseconds.toNat t with
  | .ok n => .ok n
  | .error (.length digits) => .error (.numeralLong digits)
  | .error .form =>
      .error (.notWhole 10 (Text.copies (Fault.longestExcerpt / max 1 t.length + 1) t))

/-- A number of seconds in whole microseconds, rounded toward zero. -/
def toMicroseconds : Value → Except Fault Int
  | .real x =>
      match x.mul (.ofInt microseconds) with
      | .nan => .error .notANumberToWhole
      | .infinite _ => .error .overflow
      | product =>
          match product.trunc? with
          | some n => .ok n
          | none => .error .overflow
  | .text t => textToMicroseconds t
  | value =>
      match value.number? with
      | some (.whole n) => .ok (n * microseconds)
      | _ => .error .argument

namespace Session

/-- The capture time of a place. -/
def timeAt (session : Session) (place : Int) : Int :=
  session.startUsec + Int.fdiv (place * microseconds) session.profile.sampleRate

/-- The progress after a packet at a place. -/
def emit (session : Session) (progress : Progress) (packet : Rtp.Packet) (place : Int) :
    Except Fault Progress := do
  let datagram ← frame session.source session.destination packet.encode progress.records.size
  let bytes ← record datagram (session.timeAt place)
  return { progress with records := progress.records.push bytes }

/-- One packet of audio at the current place, which moves on by its samples. -/
def emitAudio (session : Session) (progress : Progress) (audio : Bytes) :
    Except Fault Progress := do
  let (packet, stream) :=
    progress.stream.packet session.profile.audioPayloadType audio progress.talkspurt none
  let progress ← session.emit { progress with stream := stream } packet progress.elapsed
  return { progress with
    stream := progress.stream.advance audio.length
    elapsed := progress.elapsed + audio.length
    talkspurt := false }

/-- The silent audio of the packets that fill `total` samples with frames of `frame` samples. -/
def silentAudio (total frame : Nat) : List Bytes :=
  List.replicate (total / frame) (MuLaw.silence frame) ++
    (if total % frame = 0 then [] else [MuLaw.silence (total % frame)])

/-- A stretch of silence.  Without a frame of positive length it cannot be filled. -/
def silence (session : Session) (progress : Progress) (milliseconds : Int) :
    Except Fault Progress := do
  let total := session.profile.samplesFor milliseconds
  let frame := session.profile.frameSamples
  if total ≤ 0 then
    return progress
  else if frame < 0 then
    throw .negativeLength
  else if frame = 0 then
    let _ ← session.emitAudio progress []
    throw .endless
  else
    (silentAudio total.toNat frame.toNat).foldlM session.emitAudio progress

/-- The durations that the packets of a tone report: one frame more each time, up to the end. -/
def durations (total frame : Nat) : List Nat :=
  (List.range ((total - 1) / frame)).map (fun k => (k + 1) * frame) ++
    List.replicate endReports total

/-- One report of a tone that started at a timestamp, sent when the duration has passed. -/
def emitEvent (session : Session) (code : Nat) (timestamp : Int) (total : Int)
    (progress : Progress × Bool) (duration : Int) : Except Fault (Progress × Bool) := do
  let (progress, first) := progress
  let event : Rtp.Event :=
    { code := code
      ended := duration = total
      volume := session.profile.volume
      duration := duration }
  let (packet, stream) :=
    progress.stream.packet session.profile.eventPayloadType event.encode first (some timestamp)
  let progress ←
    session.emit { progress with stream := stream } packet (progress.elapsed + duration)
  return (progress, false)

/-- The tone of a key.  Without a frame of positive length it never reaches its end. -/
def tone (session : Session) (progress : Progress) (digit : Media.Digit) :
    Except Fault Progress := do
  let total := session.profile.toneSamples
  let frame := session.profile.frameSamples
  let report := session.emitEvent digit.code progress.stream.timestamp total
  let progress ←
    if total ≤ 0 then
      pure progress
    else if frame < 0 then
      throw .field
    else if frame = 0 then do
      let _ ← report (progress, true) 0
      throw .endless
    else do
      let (progress, _) ←
        ((durations total.toNat frame.toNat).map Int.ofNat).foldlM report (progress, true)
      pure progress
  return { progress with
    stream := progress.stream.advance total
    elapsed := progress.elapsed + total
    talkspurt := true }

/-- The progress after one entry of a timeline. -/
def entry (session : Session) (progress : Progress) : Media.Entry → Except Fault Progress
  | .token (.silence milliseconds) => session.silence progress milliseconds
  | .token (.tone digit) => session.tone progress digit
  | .foreign value => .error (Fault.showing value (.tokenForeign value))

end Session

/-- A finished capture: its bytes, the number of its packets and the milliseconds they cover. -/
structure Encoded where
  bytes : Bytes
  packets : Nat
  coveredMs : Int

/-- The bytes of the header and the records. -/
def assemble (header : Bytes) (records : Array Bytes) : Bytes :=
  header ++ records.toList.flatten

namespace Encoder

/-- The encoder between two hosts. -/
def between (sourceHost : Text) (sourcePort : Int) (destinationHost : Text)
    (destinationPort : Int) (profile : Media.Profile) : Encoder where
  source := ⟨addressOf sourceHost, sourcePort⟩
  destination := ⟨addressOf destinationHost, destinationPort⟩
  profile := profile
  ssrc := none
  startTime := .null

/-- The stream with which an encoding begins. -/
def stream (encoder : Encoder) (clock : Clock) : Rtp.Stream where
  ssrc := encoder.ssrc.getD clock.ssrc
  sequence := clock.sequence
  timestamp := clock.timestamp

/-- The capture of a timeline.  A clock that stands still cannot tell how much it covers. -/
def encode (encoder : Encoder) (clock : Clock) (timeline : Media.Timeline) :
    Except Fault Encoded := do
  let startUsec ←
    toMicroseconds (if encoder.startTime.isNull then clock.time else encoder.startTime)
  let header ← fileHeader longestFrame ethernetLink
  let session : Session :=
    { source := encoder.source
      destination := encoder.destination
      profile := encoder.profile
      startUsec := startUsec }
  let start : Progress :=
    { stream := encoder.stream clock
      elapsed := 0
      talkspurt := true
      records := #[] }
  let progress ← timeline.entries.foldlM session.entry start
  if encoder.profile.sampleRate = 0 then
    throw .zeroDivision
  return { bytes := assemble header progress.records
           packets := progress.records.size
           coveredMs := Int.fdiv (progress.elapsed * 1000) encoder.profile.sampleRate }

end Encoder
end Capture
end CallScript
