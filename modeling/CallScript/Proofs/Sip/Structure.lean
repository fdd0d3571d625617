import CallScript.Proofs.Sip.Offer
import CallScript.Scenario

/-!
# Structures of messages

The identity of the caller is put into a message as it is.  What a reader finds besides, the lines
with what they start with and the names in brackets, stays the same for the identities that neither
break a line nor open a bracket.

What a search for names finds at its place is said by `placeholders_other`, `placeholders_enclosed`,
`placeholders_empty` and `placeholders_unclosed`.

Main statements:
* `Form.IsSound.heads_eq`: an identity without a line break leaves what the lines start with.
* `Form.IsSound.placeholders_eq_iff`: bare identities only leave the names in brackets.
* `structure_of_caller`: which identities leave the structure of an INVITE and of an ACK.
-/

namespace CallScript
namespace Sip

section Lines

/-- The lines of a message, when some marks break lines: every line ends with such a mark. -/
def linesAt (breaks : Mark → Bool) (message : Text) : List Text :=
  (message.splitOnP breaks).dropLast

/-- What a line starts with: all that stands before its first colon or space. -/
def head (line : Text) : Text :=
  line.takeWhile fun mark => mark != .char ':' && mark != .char ' '

/-- Holds of the printable characters of ASCII. -/
def isPrintable (mark : Mark) : Bool :=
  mark.satisfies fun c => ' ' ≤ c && c ≤ '~'

variable {breaks : Mark → Bool}

theorem length_linesAt (breaks : Mark → Bool) (message : Text) :
    (linesAt breaks message).length = message.countP breaks := by
  have hpieces : (message.splitOnP breaks).length = message.countP breaks + 1 := by
    induction message with
    | nil =>
        rfl
    | cons mark rest ih =>
        rw [List.splitOnP_cons_eq_if_modifyHead, List.countP_cons]
        split <;> simp [*]
  rw [linesAt, List.length_dropLast, hpieces, Nat.add_sub_cancel]

/-- A message of lines that are not broken has these lines, and a blank one before them. -/
theorem linesAt_ofLines
    {lines : List Text}
    (hfeed : breaks (.char '\n') = true)
    (hplain : ∀ line ∈ lines, ∀ mark ∈ line, breaks mark = false) :
    linesAt breaks (ofLines lines) = [] :: lines := by
  have hsplit : (ofLines lines).splitOnP breaks = [] :: (lines ++ [[]]) := by
    rw [ofLines, List.splitOnP_cons_eq_if_modifyHead, if_pos hfeed, splitOnP_join hfeed hplain]
  rw [linesAt, hsplit, ← List.cons_append, List.dropLast_concat]

/-- What a line starts with is settled by the text up to its first colon or space. -/
theorem head_append
    {line : Text}
    (h : head line ≠ line)
    (rest : Text) :
    head (line ++ rest) = head line := by
  unfold head at h ⊢
  rw [List.takeWhile_append, if_neg]
  intro hlength
  exact h ((List.takeWhile_prefix _).eq_of_length hlength)

end Lines

section Placeholders

/-- The text behind a bracket that is open after a mark, when it was open before it or not. -/
def track : Option Text → Mark → Option Text
  | none, mark => if mark = .char '[' then some [] else none
  | some inside, mark => if mark = .char ']' then none else some (inside ++ [mark])

/-- The name that a mark ends.  No marks between brackets are no name. -/
def ended : Option Text → Mark → List Text
  | some (first :: rest), .char ']' => [.char '[' :: first :: rest ++ [.char ']']]
  | _, _ => []

theorem ended_some
    {inside : Text}
    (h : inside ≠ []) :
    ended (some inside) (.char ']') = [.char '[' :: (inside ++ [.char ']'])] := by
  cases inside with
  | nil =>
      exact absurd rfl h
  | cons first rest =>
      rfl

/-- The names in brackets that end in a text, when a bracket was open before it or not. -/
def placeholdersFrom (opened : Option Text) : Text → List Text
  | [] => []
  | mark :: rest => ended opened mark ++ placeholdersFrom (track opened mark) rest

/--
The names in brackets of a text from left to right: an opening bracket, one or more marks that are
no closing bracket, and a closing bracket.
-/
def placeholders (t : Text) : List Text :=
  placeholdersFrom none t

theorem placeholdersFrom_append (opened : Option Text) (s t : Text) :
    placeholdersFrom opened (s ++ t) =
      placeholdersFrom opened s ++ placeholdersFrom (s.foldl track opened) t := by
  induction s generalizing opened with
  | nil =>
      rfl
  | cons mark rest ih =>
      simp only [List.cons_append, placeholdersFrom, ih, List.append_assoc, List.foldl_cons]

/-- Inside a bracket all marks are kept until it is closed. -/
theorem foldl_track
    {inside : Text}
    (before : Text)
    (h : .char ']' ∉ inside) :
    inside.foldl track (some before) = some (before ++ inside) := by
  induction inside generalizing before with
  | nil =>
      simp
  | cons mark rest ih =>
      simp only [List.mem_cons, not_or] at h
      rw [List.foldl_cons, track, if_neg (Ne.symm h.1), ih _ h.2, List.append_assoc]
      rfl

/-- No name ends before its bracket is closed. -/
theorem placeholdersFrom_inside
    {inside : Text}
    (opened : Option Text)
    (h : .char ']' ∉ inside) :
    placeholdersFrom opened inside = [] := by
  induction inside generalizing opened with
  | nil =>
      rfl
  | cons mark rest ih =>
      simp only [List.mem_cons, not_or] at h
      have hended : ended opened mark = [] := by
        unfold ended
        split
        · exact absurd rfl h.1
        · rfl
      rw [placeholdersFrom, hended, ih _ h.2]
      rfl

/-- A name in brackets is found, and the search goes on behind it. -/
theorem placeholders_enclosed
    {inside : Text}
    (hsome : inside ≠ [])
    (hinside : .char ']' ∉ inside)
    (rest : Text) :
    placeholders (.char '[' :: (inside ++ .char ']' :: rest)) =
      (.char '[' :: (inside ++ [.char ']'])) :: placeholders rest := by
  have hopened : placeholders (.char '[' :: (inside ++ .char ']' :: rest)) =
      placeholdersFrom (some []) (inside ++ .char ']' :: rest) := by
    rfl
  rw [hopened, placeholdersFrom_append, placeholdersFrom_inside _ hinside, foldl_track _ hinside,
    placeholdersFrom]
  simp only [List.nil_append, ended_some hsome]
  rfl

/-- No marks between brackets are passed over. -/
theorem placeholders_empty (rest : Text) :
    placeholders (.char '[' :: .char ']' :: rest) = placeholders rest := by
  rfl

/-- Without a closing bracket behind it an opening one begins no name. -/
theorem placeholders_unclosed
    {rest : Text}
    (h : .char ']' ∉ rest) :
    placeholders (.char '[' :: rest) = [] := by
  exact placeholdersFrom_inside (some []) h

/-- A mark that is no opening bracket begins no name. -/
theorem placeholders_other
    {mark : Mark}
    (h : mark ≠ .char '[')
    (rest : Text) :
    placeholders (mark :: rest) = placeholders rest := by
  have htrack : track none mark = none := by
    exact if_neg h
  rw [placeholders, placeholdersFrom, htrack]
  rfl

/-- A bracket that holds some marks and is closed in the end gives a name. -/
theorem placeholdersFrom_ne_nil
    {inside t : Text}
    (hsome : inside ≠ [])
    (hclosed : t.foldl track (some inside) = none) :
    placeholdersFrom (some inside) t ≠ [] := by
  induction t generalizing inside with
  | nil =>
      cases hclosed
  | cons mark rest ih =>
      by_cases hmark : mark = .char ']'
      · rw [hmark, placeholdersFrom, ended_some hsome]
        exact List.cons_ne_nil _ _
      · rw [List.foldl_cons, track, if_neg hmark] at hclosed
        rw [placeholdersFrom, track, if_neg hmark]
        exact List.append_ne_nil_of_right_ne_nil _ (ih (List.concat_ne_nil mark inside) hclosed)

/-- Holds of texts in which every opening bracket is closed at once. -/
def IsBare (t : Text) : Prop :=
  ∀ before behind, t = before ++ .char '[' :: behind → ∃ rest, behind = .char ']' :: rest

/-- A bare text has no name and leaves no bracket open. -/
theorem IsBare.untracked
    {t : Text}
    (h : IsBare t) :
    placeholders t = [] ∧ t.foldl track none = none := by
  match t with
  | [] =>
      exact ⟨rfl, rfl⟩
  | mark :: rest =>
      by_cases hopened : mark = .char '['
      · obtain ⟨others, rfl⟩ := h [] rest (by rw [hopened]; rfl)
        have hothers : IsBare others := by
          intro before behind hsplit
          exact h (mark :: .char ']' :: before) behind (by rw [hsplit]; rfl)
        rw [hopened, placeholders_empty]
        exact hothers.untracked
      · have hrest : IsBare rest := by
          intro before behind hsplit
          exact h (mark :: before) behind (by rw [hsplit]; rfl)
        rw [placeholders_other hopened, List.foldl_cons, track, if_neg hopened]
        exact hrest.untracked
termination_by t.length

/-- Only a bare text has no name and leaves no bracket open. -/
theorem isBare_of_untracked
    {t : Text}
    (hnames : placeholders t = [])
    (hclosed : t.foldl track none = none) :
    IsBare t := by
  rintro before behind rfl
  rw [placeholders, placeholdersFrom_append, List.append_eq_nil_iff, placeholdersFrom] at hnames
  rw [List.foldl_append, List.foldl_cons] at hclosed
  obtain ⟨_, hrest⟩ := List.append_eq_nil_iff.mp hnames.2
  cases hbefore : before.foldl track none with
  | some inside =>
      -- The bracket stands in an open one, so that one ends as a name.
      rw [hbefore, track, if_neg (by decide)] at hclosed hrest
      exact absurd hrest (placeholdersFrom_ne_nil (List.concat_ne_nil _ inside) hclosed)
  | none =>
      rw [hbefore, track, if_pos rfl] at hclosed hrest
      cases behind with
      | nil =>
          cases hclosed
      | cons mark rest =>
          by_cases hmark : mark = .char ']'
          · exact ⟨rest, by rw [hmark]⟩
          · rw [List.foldl_cons, track, if_neg hmark] at hclosed
            rw [placeholdersFrom, track, if_neg hmark, List.append_eq_nil_iff] at hrest
            exact absurd hrest.2 (placeholdersFrom_ne_nil (List.cons_ne_nil mark []) hclosed)

end Placeholders

section Forms

/-- The name of the address that stands behind the identity of the caller. -/
def hostName : Text := "[local_ip]"

/-- What stands behind the identity of the caller. -/
def host : Text :=
  .char '@' :: hostName

theorem host_eq :
    host = host.dropLast ++ [.char ']'] := by
  decide

/--
The names in brackets of an identity and the address behind it.  Either the address is named as it
is, or a bracket of the identity is still open and reaches into it.
-/
theorem exists_placeholder (caller : Text) :
    ∃ name,
      placeholders (caller ++ host) = placeholders caller ++ [name] ∧
      (name = hostName ↔ caller.foldl track none = none) := by
  have happend := placeholdersFrom_append none caller host
  cases hopened : caller.foldl track none with
  | none =>
      rw [hopened] at happend
      exact ⟨hostName, happend, by simp⟩
  | some inside =>
      have hplain : .char ']' ∉ host.dropLast := by
        decide
      have hended : placeholdersFrom (some inside) host =
          [.char '[' :: (inside ++ host)] := by
        have hsome : inside ++ host.dropLast ≠ [] := by
          exact List.append_ne_nil_of_right_ne_nil inside (by decide)
        rw [host_eq, placeholdersFrom_append, placeholdersFrom_inside _ hplain,
          foldl_track _ hplain, placeholdersFrom, ended_some hsome, List.append_assoc, ← host_eq]
        rfl
      rw [hopened, hended] at happend
      refine ⟨_, happend, ?_⟩
      have hother : .char '[' :: (inside ++ host) ≠ hostName := by
        intro hsame
        have hmem : .char '@' ∈ hostName := by
          rw [← hsame]
          simp [host]
        exact absurd hmem (by decide)
      simp [hother]

/-- Only a bare identity leaves the name of the address behind it as it is, and adds no other. -/
theorem placeholders_host_iff (caller : Text) :
    placeholders (caller ++ host) = [hostName] ↔ IsBare caller := by
  obtain ⟨name, hnames, hname⟩ := exists_placeholder caller
  rw [hnames]
  constructor
  · intro h
    have happend : placeholders caller ++ [name] = [] ++ [hostName] := by
      exact h
    obtain ⟨hnone, hsame⟩ := List.append_inj' happend rfl
    exact isBare_of_untracked hnone (hname.mp (List.singleton_inj.mp hsame))
  · intro h
    obtain ⟨hnone, hclosed⟩ := h.untracked
    rw [hnone, hname.mpr hclosed]
    rfl

/--
A message in which the identity of the caller and the address behind it stand in two lines, each of
them between other text.
-/
structure Form where
  opening : List Text
  sender : Text × Text
  between : List Text
  contact : Text × Text
  closing : List Text

namespace Form

/-- The lines of the message with the identity of a caller. -/
def lines (form : Form) (caller : Text) : List Text :=
  form.opening ++
    (form.sender.1 ++ (caller ++ host) ++ form.sender.2) ::
      (form.between ++ (form.contact.1 ++ (caller ++ host) ++ form.contact.2) :: form.closing)

/-- The text in front of the first identity. -/
def front (form : Form) : Text :=
  ofLines form.opening ++ form.sender.1

/-- The text between the identities. -/
def middle (form : Form) : Text :=
  form.sender.2 ++ ofLines form.between ++ form.contact.1

/-- The text behind the second identity. -/
def rear (form : Form) : Text :=
  form.contact.2 ++ ofLines form.closing

/-- The message with the identity of a caller. -/
theorem ofLines_lines (form : Form) (caller : Text) :
    ofLines (form.lines caller) =
      form.front ++ ((caller ++ host) ++ (form.middle ++ ((caller ++ host) ++ form.rear))) := by
  simp [ofLines, lines, front, middle, rear, Text.join]

/--
Holds of forms whose text is printable, whose slots are not at the start of their lines and whose
brackets are closed before them.
-/
structure IsSound (form : Form) : Prop where
  plain : ∀ line ∈ form.lines [], ∀ mark ∈ line, isPrintable mark = true
  sender : head form.sender.1 ≠ form.sender.1
  contact : head form.contact.1 ≠ form.contact.1
  front : form.front.foldl track none = none
  middle : form.middle.foldl track none = none

variable {form : Form} {breaks : Mark → Bool} {caller : Text}

/-- An identity breaks no line of a message when it holds no mark that breaks lines. -/
theorem IsSound.unbroken
    (h : form.IsSound)
    (hprintable : ∀ mark, isPrintable mark = true → breaks mark = false)
    (hcaller : ∀ mark ∈ caller, breaks mark = false) :
    ∀ line ∈ form.lines caller, ∀ mark ∈ line, breaks mark = false := by
  have hplain : ∀ line ∈ form.lines [], ∀ mark ∈ line, breaks mark = false := by
    intro line hline mark hmark
    exact hprintable mark (h.plain line hline mark hmark)
  simp only [lines, List.forall_mem_append, List.forall_mem_cons] at hplain ⊢
  obtain ⟨hopening, ⟨⟨hsender, _, hhost⟩, hsender'⟩, hbetween, ⟨⟨hcontact, _⟩, hcontact'⟩,
    hclosing⟩ := hplain
  exact ⟨hopening, ⟨⟨hsender, hcaller, hhost⟩, hsender'⟩, hbetween,
    ⟨⟨hcontact, hcaller, hhost⟩, hcontact'⟩, hclosing⟩

/-- What the lines of a message start with does not depend on the identity. -/
theorem IsSound.map_head
    (h : form.IsSound)
    (caller other : Text) :
    (form.lines caller).map head = (form.lines other).map head := by
  simp only [lines, List.append_assoc, List.map_append, List.map_cons, head_append h.sender,
    head_append h.contact]

/-- An identity without a line break leaves the lines and what they start with. -/
theorem IsSound.heads_eq
    (h : form.IsSound)
    (hfeed : breaks (.char '\n') = true)
    (hprintable : ∀ mark, isPrintable mark = true → breaks mark = false)
    {caller other : Text}
    (hcaller : ∀ mark ∈ caller, breaks mark = false)
    (hother : ∀ mark ∈ other, breaks mark = false) :
    (linesAt breaks (ofLines (form.lines caller))).map head =
      (linesAt breaks (ofLines (form.lines other))).map head := by
  rw [linesAt_ofLines hfeed (h.unbroken hprintable hcaller),
    linesAt_ofLines hfeed (h.unbroken hprintable hother), List.map_cons, List.map_cons,
    h.map_head caller other]

/-- Every line break in an identity adds two lines to a message. -/
theorem length_linesAt_lines (form : Form) (caller : Text) :
    (linesAt breaks (ofLines (form.lines caller))).length =
      (linesAt breaks (ofLines (form.lines []))).length + 2 * caller.countP breaks := by
  simp only [length_linesAt, ofLines_lines, List.countP_append, List.countP_nil]
  omega

/-- The names in brackets of a message. -/
theorem IsSound.placeholders_eq
    (h : form.IsSound)
    (caller : Text) :
    placeholders (ofLines (form.lines caller)) =
      placeholders form.front ++
        (placeholders (caller ++ host) ++
          (placeholders form.middle ++
            (placeholders (caller ++ host) ++ placeholders form.rear))) := by
  have hhost : (caller ++ host).foldl track none = none := by
    rw [host_eq, ← List.append_assoc, List.foldl_append]
    cases (caller ++ host.dropLast).foldl track none <;> rfl
  simp only [ofLines_lines, placeholders, placeholdersFrom_append, h.front, hhost, h.middle]

/-- The names in brackets of a message stay the same for bare identities only. -/
theorem IsSound.placeholders_eq_iff
    (h : form.IsSound)
    {other : Text}
    (hother : IsBare other) :
    placeholders (ofLines (form.lines caller)) = placeholders (ofLines (form.lines other)) ↔
      IsBare caller := by
  rw [h.placeholders_eq, h.placeholders_eq, (placeholders_host_iff other).mpr hother,
    ← placeholders_host_iff caller]
  constructor
  · intro hsame
    have hlength := congrArg List.length hsame
    simp only [List.length_append] at hlength
    have hrest := List.append_cancel_left hsame
    exact (List.append_inj hrest (by omega)).1
  · intro hsame
    rw [hsame]

end Form

/-- An INVITE as a form. -/
def inviteForm : Form where
  opening := (inviteLines []).take 2
  sender := ("From: sipp <sip:", ">;tag=[call_number]")
  between := ((inviteLines []).drop 3).take 3
  contact := ("Contact: sip:", ":[local_port]")
  closing := (inviteLines []).drop 7

/-- An ACK as a form. -/
def ackForm : Form where
  opening := (ackLines []).take 2
  sender := ("From: <sip:", ">;tag=[call_number]")
  between := ((ackLines []).drop 3).take 4
  contact := ("Contact: sip:", ":[local_port]")
  closing := (ackLines []).drop 8

theorem sender_eq :
    Text.ofString "@[local_ip]>;tag=[call_number]" = host ++ ">;tag=[call_number]" := by
  decide

theorem contact_eq :
    Text.ofString "@[local_ip]:[local_port]" = host ++ ":[local_port]" := by
  decide

theorem lines_inviteForm (caller : Text) :
    inviteForm.lines caller = inviteLines caller := by
  simp [Form.lines, inviteForm, inviteLines, sender_eq, contact_eq]

theorem lines_ackForm (caller : Text) :
    ackForm.lines caller = ackLines caller := by
  simp [Form.lines, ackForm, ackLines, sender_eq, contact_eq]

theorem isSound_inviteForm :
    inviteForm.IsSound := by
  constructor <;> decide +kernel

theorem isSound_ackForm :
    ackForm.IsSound := by
  constructor <;> decide +kernel

/-- The messages with the identity of the caller are forms that are filled in. -/
theorem exists_form
    {message : Text → Text}
    (h : message ∈ [invite, ack]) :
    ∃ form : Form, form.IsSound ∧ ∀ caller, message caller = ofLines (form.lines caller) := by
  rcases List.mem_pair.mp h with rfl | rfl
  · exact ⟨inviteForm, isSound_inviteForm, fun caller => by rw [lines_inviteForm, invite]⟩
  · exact ⟨ackForm, isSound_ackForm, fun caller => by rw [lines_ackForm, ack]⟩

end Forms

/--
**The identity of the caller fills its slots as it is.**  An INVITE and an ACK have as many lines
as those of any other caller, and lines that start with the same, exactly when the identity breaks
no line, whichever marks beside the line feed break lines.  They have the same names in brackets
exactly when every bracket that the identity opens is closed at once.
-/
theorem structure_of_caller
    {breaks : Mark → Bool}
    (hfeed : breaks (.char '\n') = true)
    (hprintable : ∀ mark, isPrintable mark = true → breaks mark = false)
    {message : Text → Text}
    (hmessage : message ∈ [invite, ack])
    (caller : Text) :
    ((linesAt breaks (message caller)).length = (linesAt breaks (message "sipp")).length ↔
      ∀ mark ∈ caller, breaks mark = false) ∧
    ((linesAt breaks (message caller)).map head = (linesAt breaks (message "sipp")).map head ↔
      ∀ mark ∈ caller, breaks mark = false) ∧
    (placeholders (message caller) = placeholders (message "sipp") ↔ IsBare caller) := by
  obtain ⟨form, hform, hfilled⟩ := exists_form hmessage
  have hplain : ∀ mark ∈ Text.ofString "sipp", isPrintable mark = true := by
    decide
  have hsipp : ∀ mark ∈ Text.ofString "sipp", breaks mark = false := by
    intro mark hmark
    exact hprintable mark (hplain mark hmark)
  have hbare : IsBare "sipp" := by
    exact isBare_of_untracked (by decide) (by decide)
  have hlength :
      (linesAt breaks (message caller)).length = (linesAt breaks (message "sipp")).length ↔
        ∀ mark ∈ caller, breaks mark = false := by
    have hcount : (Text.ofString "sipp").countP breaks = 0 := by
      simpa [List.countP_eq_zero] using hsipp
    rw [hfilled, hfilled, form.length_linesAt_lines, form.length_linesAt_lines "sipp", hcount]
    have hnone : caller.countP breaks = 0 ↔ ∀ mark ∈ caller, breaks mark = false := by
      simp [List.countP_eq_zero]
    rw [← hnone]
    omega
  refine ⟨hlength, ⟨?_, ?_⟩, ?_⟩
  · intro hheads
    have hsame := congrArg List.length hheads
    rw [List.length_map, List.length_map] at hsame
    exact hlength.mp hsame
  · intro hcaller
    rw [hfilled, hfilled]
    exact hform.heads_eq hfeed hprintable hcaller hsipp
  · rw [hfilled, hfilled]
    exact hform.placeholders_eq_iff hbare

/-- An identity with braces and brackets around no marks leaves the structure of an ACK. -/
theorem structure_of_caller_with_braces :
    let breaks : Mark → Bool := (· == .char '\n')
    (linesAt breaks (ack "[]{from_user}<")).map head = (linesAt breaks (ack "sipp")).map head ∧
    placeholders (ack "[]{from_user}<") = placeholders (ack "sipp") := by
  intro breaks
  have hprintable : ∀ mark, isPrintable mark = true → breaks mark = false := by
    intro mark hmark
    refine beq_false_of_ne ?_
    rintro rfl
    exact absurd hmark (by decide)
  have hmessage : ack ∈ [invite, ack] := by
    simp
  obtain ⟨_, hheads, hnames⟩ := structure_of_caller rfl hprintable hmessage "[]{from_user}<"
  refine ⟨hheads.mpr (by decide), hnames.mpr (isBare_of_untracked (by decide) (by decide))⟩

/-- A scenario takes an identity that adds a line to its messages, and a name in brackets. -/
theorem structure_of_caller_broken :
    let breaks : Mark → Bool := (· == .char '\n')
    let caller : Text := "a\nX: [y]"
    (∃ s : Scenario,
      Scenario.create .standard (some "call") (.text "a:1") (.text "b:2") (.text caller) = .ok s ∧
      s.fromUser = .text caller) ∧
    ∀ message ∈ [invite, ack],
      (linesAt breaks (message caller)).length ≠ (linesAt breaks (message "sipp")).length ∧
      (linesAt breaks (message caller)).map head ≠ (linesAt breaks (message "sipp")).map head ∧
      placeholders (message caller) ≠ placeholders (message "sipp") := by
  intro breaks caller
  refine ⟨⟨_, rfl, rfl⟩, ?_⟩
  simp only [List.forall_mem_cons]
  decide +kernel

end Sip
end CallScript
