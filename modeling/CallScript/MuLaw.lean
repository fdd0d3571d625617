import CallScript.Bytes

/-!
# Mu-law companding

Sixteen-bit samples as single bytes.  The magnitude of a sample is clipped and shifted up by a
bias; the segment is the position of its leading bit, and four bits below it are kept.
-/

namespace CallScript
namespace MuLaw

/-- What is added to a magnitude, so that the first segment has a leading bit too. -/
def bias : Nat := 132

/-- The greatest magnitude that is told apart from the greater ones. -/
def clip : Nat := 32635

/-- The last of the eight segments whose lower end a biased magnitude reaches. -/
def segment (biased : Nat) : Nat :=
  (List.range 8).foldl (fun found e => if Nat.pow 2 (e + 7) ≤ biased then e else found) 0

/-- The byte of a sample: sign, segment and four bits, all inverted. -/
def encodeSample (sample : Int) : UInt8 :=
  let biased := min sample.natAbs clip + bias
  let e := segment biased
  let mantissa := biased / Nat.pow 2 (e + 3) % 16
  let sign := if sample < 0 then 128 else 0
  UInt8.ofNat (255 - (sign + 16 * e + mantissa))

/-- The sample of a byte, in the middle of the samples that share it. -/
def decodeByte (byte : UInt8) : Int :=
  let inverted := 255 - byte.toNat
  let e := inverted / 16 % 8
  let mantissa := inverted % 16
  let magnitude : Int := ((8 * mantissa + bias) * Nat.pow 2 e : Nat) - (bias : Int)
  if 128 ≤ inverted then -magnitude else magnitude

/-- The bytes of samples. -/
def encode (samples : List Int) : Bytes :=
  samples.map encodeSample

/-- The samples of bytes. -/
def decode (bytes : Bytes) : List Int :=
  bytes.map decodeByte

/-- The byte of a silent sample. -/
def silentByte : UInt8 :=
  encodeSample 0

/-- The bytes of a number of silent samples. -/
def silence (samples : Nat) : Bytes :=
  List.replicate samples silentByte

end MuLaw
end CallScript
