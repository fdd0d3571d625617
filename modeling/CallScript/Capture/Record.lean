import CallScript.Bytes
import CallScript.Fault

/-!
# Capture files

A capture file is a header of twenty-four bytes and a row of records.  A record is a header of
sixteen bytes, with the time of the frame and its length twice, and the frame itself.  All fields
have their least significant byte first.
-/

namespace CallScript
namespace Capture

/-- The number of microseconds in a second. -/
def microseconds : Int := 1000000

/-- A number in a field of `width` bytes, which it has to fit into. -/
def fieldBytes (width : Nat) (n : Int) : Except Fault Bytes :=
  match Bytes.fit? width n with
  | some k => .ok (Bytes.littleEndian width k)
  | none => .error .field

/-- The longest frame that a reader is told to expect. -/
def longestFrame : Int := 65535

/-- The link type of Ethernet frames. -/
def ethernetLink : Int := 1

/-- The header of a capture file: version 2.4, times in universal time. -/
def fileHeader (snapLength linkType : Int) : Except Fault Bytes := do
  let snap ← fieldBytes 4 snapLength
  let link ← fieldBytes 4 linkType
  return Bytes.littleEndian 4 0xa1b2c3d4 ++ Bytes.littleEndian 2 2 ++ Bytes.littleEndian 2 4 ++
    Bytes.littleEndian 4 0 ++ Bytes.littleEndian 4 0 ++ snap ++ link

/-- The record of a frame that was seen at a time in microseconds. -/
def record (frame : Bytes) (time : Int) : Except Fault Bytes := do
  let seconds ← fieldBytes 4 (Int.fdiv time microseconds)
  let rest ← fieldBytes 4 (Int.fmod time microseconds)
  let length ← fieldBytes 4 frame.length
  return seconds ++ rest ++ length ++ length ++ frame

/-- A record that has been read. -/
structure Record where
  seconds : Nat
  microseconds : Nat
  captured : Nat
  onWire : Nat
  frame : Bytes
  deriving Repr, DecidableEq

/-- The length of the header of a capture file. -/
def fileHeaderLength : Nat := 24

/-- The length of the header of a record. -/
def recordHeaderLength : Nat := 16

/-- The records in a byte string, which they must fill to its end. -/
def readRecords? (bs : Bytes) : Option (List Record) :=
  if bs.isEmpty then
    some []
  else if bs.length < recordHeaderLength then
    none
  else
    let captured := Bytes.toNatLittle ((bs.drop 8).take 4)
    let rest := bs.drop recordHeaderLength
    if rest.length < captured then
      none
    else
      (readRecords? (rest.drop captured)).map fun records =>
        { seconds := Bytes.toNatLittle (bs.take 4)
          microseconds := Bytes.toNatLittle ((bs.drop 4).take 4)
          captured := captured
          onWire := Bytes.toNatLittle ((bs.drop 12).take 4)
          frame := rest.take captured } :: records
termination_by bs.length
decreasing_by
  simp only [recordHeaderLength] at *
  simp only [List.length_drop]
  omega

/-- The records of a capture file. -/
def read? (bs : Bytes) : Option (List Record) :=
  if bs.length < fileHeaderLength then none else readRecords? (bs.drop fileHeaderLength)

end Capture
end CallScript
