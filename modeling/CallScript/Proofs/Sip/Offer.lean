import CallScript.Sip.Message
import CallScript.Text.Numeral
import Mathlib.Data.List.DropRight

/-!
# Offers in messages

What a reader finds in the session description of a message: the formats that its line for audio
lists, and the encodings that its attributes map payload types to.

Main statements:
* `description_ofLines`: the description of a message stands behind its last empty line.
* `offer?_invite`: what an INVITE offers, whoever the caller is.
-/

namespace CallScript
namespace Sip

/-- What an attribute maps a payload type to: the name of an encoding and its clock rate. -/
structure Mapping where
  payloadType : Int
  encoding : Text
  rate : Int
  deriving DecidableEq

/-- What a session description offers: the formats of its audio, and what types are mapped to. -/
structure Offer where
  formats : List Int
  mappings : List Mapping
  deriving DecidableEq

/-- The lines of a message, each of which ends with a line feed. -/
def linesOf (message : Text) : List Text :=
  (message.splitOn (.char '\n')).dropLast

/-- The lines of the session description of a message: those behind its last empty line. -/
def description (message : Text) : List Text :=
  (linesOf message).rtakeWhile fun line => !line.isEmpty

/-- The number that a text of decimal digits stands for. -/
def number? (t : Text) : Option Int :=
  t.chars?.bind fun cs =>
    if cs.isEmpty || !cs.all Text.isAsciiDigit then none else some (Text.digitsToNat cs)

/-- The formats that a line lists for audio, behind the port and the protocol. -/
def formats? (line : Text) : Option (List Int) :=
  match line.splitOn (.char ' ') with
  | kind :: _ :: _ :: formats => if kind = "m=audio" then formats.mapM number? else none
  | _ => none

/-- The mapping that an attribute states. -/
def mapping? (line : Text) : Option Mapping :=
  match line.splitOn (.char ' ') with
  | [label, format] =>
      match label.splitOn (.char ':'), format.splitOn (.char '/') with
      | [key, payloadType], encoding :: rate :: _ =>
          if key = "a=rtpmap" then
            (number? payloadType).bind fun payloadType =>
              (number? rate).map fun rate => ⟨payloadType, encoding, rate⟩
          else
            none
      | _, _ => none
  | _ => none

/-- What the session description of a message offers, if it has a line for audio. -/
def offer? (message : Text) : Option Offer :=
  ((description message).findSome? formats?).map fun formats =>
    ⟨formats, (description message).filterMap mapping?⟩

/-- The text of some lines is split into them, with nothing behind the last line feed. -/
theorem splitOnP_join
    {breaks : Mark → Bool} {lines : List Text}
    (hfeed : breaks (.char '\n') = true)
    (hplain : ∀ line ∈ lines, ∀ mark ∈ line, breaks mark = false) :
    (Text.join (lines.map (· ++ [.char '\n']))).splitOnP breaks = lines ++ [[]] := by
  induction lines with
  | nil =>
      rfl
  | cons line rest ih =>
      obtain ⟨hline, hrest⟩ := List.forall_mem_cons.mp hplain
      have hjoin :
          Text.join ((line :: rest).map (· ++ [.char '\n'])) =
            line ++ .char '\n' :: Text.join (rest.map (· ++ [.char '\n'])) := by
        simp [Text.join]
      rw [hjoin, List.splitOnP_append_cons_of_forall_mem hline _ hfeed, ih hrest]
      rfl

/-- Some lines end with a line feed, or there is only the one before them. -/
theorem exists_ofLines_eq (lines : List Text) :
    ∃ front, ofLines lines = front ++ [.char '\n'] := by
  rcases lines.eq_nil_or_concat with rfl | ⟨first, last, rfl⟩
  · exact ⟨[], rfl⟩
  · refine ⟨.char '\n' :: Text.join (first.map (· ++ [.char '\n'])) ++ last, ?_⟩
    simp [ofLines, Text.join]

/-- The description of a message stands behind its last empty line, whatever its headers hold. -/
theorem description_ofLines
    (headers : List Text)
    {offer : List Text}
    (hplain : ∀ line ∈ offer, .char '\n' ∉ line)
    (hfilled : ∀ line ∈ offer, line ≠ []) :
    description (ofLines (headers ++ [] :: offer)) = offer := by
  obtain ⟨front, hfront⟩ := exists_ofLines_eq headers
  have hmessage :
      ofLines (headers ++ [] :: offer) =
        front ++ .char '\n' :: Text.join (([] :: offer).map (· ++ [.char '\n'])) := by
    have happend :
        ofLines (headers ++ [] :: offer) =
          ofLines headers ++ Text.join (([] :: offer).map (· ++ [.char '\n'])) := by
      simp [ofLines, Text.join]
    rw [happend, hfront, List.append_assoc]
    rfl
  have hlines :
      linesOf (ofLines (headers ++ [] :: offer)) =
        front.splitOn (.char '\n') ++ [] :: offer := by
    have hrest :
        (Text.join (([] :: offer).map (· ++ [.char '\n']))).splitOn (.char '\n') =
          ([] :: offer) ++ [[]] := by
      refine splitOnP_join (beq_self_eq_true _) (List.forall_mem_cons.mpr ⟨by simp, ?_⟩)
      intro line hline mark hmark
      exact beq_false_of_ne fun hsame => hplain line hline (hsame ▸ hmark)
    unfold List.splitOn at hrest
    rw [linesOf, hmessage]
    unfold List.splitOn
    rw [List.splitOnP_append_cons _ _ (by simp), hrest, ← List.append_assoc, List.dropLast_concat]
  have hall : ∀ line ∈ offer.reverse, (!line.isEmpty) = true := by
    intro line hline
    simpa using hfilled line (List.mem_reverse.mp hline)
  rw [description, hlines, List.rtakeWhile, List.reverse_append, List.reverse_cons,
    List.append_assoc, List.takeWhile_append_of_pos hall, List.singleton_append,
    List.takeWhile_cons_of_neg (by simp), List.append_nil, List.reverse_reverse]

/-- The offer of audio, with encodings for audio and for telephone events. -/
def audioOffer : Offer where
  formats := [Media.audioType]
  mappings :=
    [ ⟨Media.audioType, "PCMU", Media.clockRate⟩,
      ⟨Media.eventType, "telephone-event", Media.clockRate⟩ ]

/-- What an INVITE offers, whoever the caller is. -/
theorem offer?_invite (caller : Text) :
    offer? (invite caller) = some audioOffer := by
  have hlines : inviteLines caller = (inviteLines caller).take 10 ++ [] :: offerLines := by
    rfl
  have hplain : ∀ line ∈ offerLines, .char '\n' ∉ line := by
    decide +kernel
  have hfilled : ∀ line ∈ offerLines, line ≠ [] := by
    decide +kernel
  rw [offer?, invite, hlines, description_ofLines _ hplain hfilled]
  decide +kernel

end Sip
end CallScript
