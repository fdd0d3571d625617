import CallScript.Media.Digit

/-!
# Media timelines

What a call plays, in order: stretches of silence and tones.  A timeline only grows at its end.
It also accepts values that are no tokens; they count as long as a tone, and no encoder takes
them.
-/

namespace CallScript
namespace Media

/-- A stretch of silence of whole milliseconds, or the tone of a key. -/
inductive Token where
  | silence (milliseconds : Nat)
  | tone (digit : Digit)
  deriving Repr, DecidableEq, Inhabited

namespace Token

/-- Silence whose length is a whole number that is not negative; a truth value is no number here. -/
def silence? : Value → Except Fault Token
  | .integer n =>
      if n < 0 then
        .error (Fault.showing (.integer n) (.silenceNegative n))
      else
        .ok (.silence n.toNat)
  | value => .error (Fault.showing value (.silenceNotWhole value))

/-- The tone of a key, which a text of one character names. -/
def tone? : Value → Except Fault Token
  | .text s =>
      match Digit.ofText? s with
      | some digit => .ok (.tone digit)
      | none => .error (.digitUnsupported (.text s))
  | value => .error (Fault.showing value (.digitUnsupported value))

end Token

/-- What stands in a timeline. -/
inductive Entry where
  | token (token : Token)
  | foreign (value : Value)
  deriving Inhabited

/-- The length of an entry when a tone takes `toneMs` milliseconds. -/
def Entry.nominalMs (toneMs : Int) : Entry → Int
  | .token (.silence milliseconds) => milliseconds
  | _ => toneMs

/-- The length of entries one after the other. -/
def Entry.totalMs (toneMs : Int) : List Entry → Int
  | [] => 0
  | entry :: rest => entry.nominalMs toneMs + totalMs toneMs rest

/-- A timeline. -/
structure Timeline where
  entries : List Entry
  deriving Inhabited

namespace Timeline

/-- The timeline of a call in which nothing has happened. -/
def empty : Timeline := ⟨[]⟩

/-- The number of entries. -/
def length (t : Timeline) : Nat :=
  t.entries.length

/-- The timeline with an entry at its end. -/
def append (t : Timeline) (entry : Entry) : Timeline :=
  ⟨t.entries ++ [entry]⟩

/-- The timeline with some entries at its end. -/
def extend (t : Timeline) (entries : List Entry) : Timeline :=
  ⟨t.entries ++ entries⟩

/-- The length of the whole timeline when a tone takes `toneMs` milliseconds. -/
def nominalMs (t : Timeline) (toneMs : Int) : Int :=
  Entry.totalMs toneMs t.entries

end Timeline
end Media
end CallScript
