import CallScript.Proofs.Manifest.Escapes
import CallScript.Proofs.Text.Blank
import Mathlib.Data.List.Permutation
import Mathlib.Logic.Relation

/-!
# Spellings of a step

A step of a manifest can be written in several ways: as a text with the argument behind the name,
as a mapping from the name to a value, with arguments by position or by name.  What it does depends
on the action and on the values of its parameters alone, not on the way in which they are written.

Main statements:
* `Manifest.ofText_of_isPhrase`, `Manifest.ofText_of_numeral`, `Manifest.ofText_of_isWord`: what is
  read from a text.
* `Manifest.Respelled.exists_lines`: two spellings of a step are read as the same call.
* `Manifest.agree_of_sameStep`: spellings agree, as steps and in whole manifests.
-/

namespace CallScript
namespace Manifest

open Building

/-- A mapping from the name of an action to a value. -/
def IsEntry (step : Value) (action : Text) (value : Value) : Prop :=
  step.entries? = some [(.text action, value)]

/-- A text of a name and an argument, with a space between them and any blanks around both. -/
structure IsPhrase (text action argument : Text) : Prop where
  word : action.IsWord
  trimmed : argument.IsTrimmed
  layout : ∃ before gap after : Text,
    before.IsBlanks ∧ gap.IsBlanks ∧ after.IsBlanks ∧
    text = before ++ (action ++ (.char ' ' :: gap ++ argument)) ++ after

/-- Holds of the values that hold no argument. -/
inductive HoldsNothing : Value → Prop
  | null : HoldsNothing .null
  | list {value : Value} (empty : value.items? = some []) : HoldsNothing value
  | map {value : Value} (empty : value.entries? = some []) : HoldsNothing value

/-- A value that is one argument: it is there, and it is no list and no mapping. -/
structure IsSingle (value : Value) : Prop where
  present : value.isNull = false
  noList : value.items? = none
  noMap : value.entries? = none

/-- The actions that take one argument, with the name of its parameter. -/
def soleParameters : List (String × String) :=
  [ ("sleep", "seconds"),
    ("receive_trying", "optional"),
    ("receive_100", "optional"),
    ("receive_ringing", "optional"),
    ("receive_180", "optional"),
    ("receive_progress", "optional"),
    ("receive_183", "optional") ]

/-- The arguments of an action that sends digits, by the names of its parameters. -/
def namedDigits (digits delay : Value) : List (Value × Value) :=
  [(.text "digits", digits), (.text "delay", delay)]

/-- Two spellings of a step. -/
inductive Respelled : Value → Value → Prop
  /-- The argument stands behind the name, or it is the value of the name. -/
  | phrase {text action argument : Text} {second : Value}
      (phrase : IsPhrase text action argument)
      (plain : action ≠ "sleep")
      (entry : IsEntry second action (.text argument)) :
      Respelled (.text text) second
  /-- A numeral stands behind the name, or its number is the value of the name. -/
  | number {text argument : Text} {x : Binary64} {second : Value}
      (phrase : IsPhrase text "sleep" argument)
      (reads : Text.real? argument = some x)
      (entry : IsEntry second "sleep" (.real x)) :
      Respelled (.text text) second
  /-- The name stands alone between blanks, or it has a value that holds nothing. -/
  | bare {before action after : Text} {value second : Value}
      (blanks : before.IsBlanks ∧ after.IsBlanks)
      (word : action.IsWord)
      (nothing : HoldsNothing value)
      (entry : IsEntry second action value) :
      Respelled (.text (before ++ action ++ after)) second
  /-- The name has the one value or the other that holds nothing. -/
  | nothing {action : Text} {value other first second : Value}
      (nothing : HoldsNothing value)
      (empty : HoldsNothing other)
      (entry : IsEntry first action value)
      (respelled : IsEntry second action other) :
      Respelled first second
  /-- The argument is the only member of a list, or it stands alone. -/
  | single {action : Text} {list value first second : Value}
      (single : IsSingle value)
      (one : list.items? = some [value])
      (entry : IsEntry first action list)
      (respelled : IsEntry second action value) :
      Respelled first second
  /-- The one argument of an action is given by name, or it stands alone. -/
  | sole {action parameter : String} {map value first second : Value}
      (known : (action, parameter) ∈ soleParameters)
      (single : IsSingle value)
      (one : map.entries? = some [(.text parameter, value)])
      (entry : IsEntry first action map)
      (respelled : IsEntry second action value) :
      Respelled first second
  /-- The digits and the delay are given by name, in any order, or one behind the other. -/
  | digits {digits delay map list first second : Value} {entries : List (Value × Value)}
      (named : map.entries? = some entries)
      (order : entries.Perm (namedDigits digits delay))
      (listed : list.items? = some [digits, delay])
      (entry : IsEntry first "send_digits" map)
      (respelled : IsEntry second "send_digits" list) :
      Respelled first second

/-- Spellings of the same step. -/
def SameStep : Value → Value → Prop :=
  Relation.EqvGen Respelled

/-- Lines that call the same action with the same values of its parameters. -/
structure SameCall (first second : Line) : Prop where
  action : first.action = second.action
  values : ∀ action,
    Action.ofName? second.action = some action →
    first.arguments.bind action.parameters = second.arguments.bind action.parameters
  digits : Action.ofName? second.action = some .sendDigits →
    ∀ index, requireDigits first index = requireDigits second index

theorem SameCall.refl (line : Line) :
    SameCall line line :=
  ⟨rfl, fun _ _ => rfl, fun _ _ => rfl⟩

section Reading

variable {text action argument : Text} {step value : Value} {items : List Value}
  {entries : List (Value × Value)}

/-- A name in front of a text that is empty or begins with a space is its first word. -/
theorem takeWhile_word
    (h : action.IsWord)
    (rest : Text)
    (hrest : ∀ mark ∈ rest.head?, mark = .char ' ') :
    (action ++ rest).takeWhile (· ≠ .char ' ') = action ∧
      (action ++ rest).dropWhile (· ≠ .char ' ') = rest := by
  have hletters : ∀ mark ∈ action, decide (mark ≠ .char ' ') = true := by
    intro mark hmark
    rw [decide_eq_true_eq]
    rintro rfl
    exact absurd (h.bare _ hmark) (by decide)
  rw [List.takeWhile_append_of_pos hletters, List.dropWhile_append_of_pos hletters]
  cases rest with
  | nil =>
      simp
  | cons mark rest =>
      simp [hrest mark rfl]

/-- The name and the argument of a text are what stands around the first space in it. -/
theorem parts_of_isPhrase
    (h : IsPhrase text action argument) :
    text.strip.takeWhile (· ≠ .char ' ') = action ∧
      Text.strip (text.strip.dropWhile (· ≠ .char ' ')) = argument ∧
      argument.isEmpty = false := by
  obtain ⟨hword, htrimmed, before, gap, after, hbefore, hgap, hafter, rfl⟩ := h
  have hbody : Text.strip (before ++ (action ++ (.char ' ' :: gap ++ argument)) ++ after) =
      action ++ (.char ' ' :: gap ++ argument) := by
    exact Text.strip_between hbefore (hword.isTrimmed.append htrimmed _) hafter
  have hspaces : Text.IsBlanks (.char ' ' :: gap) := by
    exact List.forall_mem_cons.mpr ⟨by decide, hgap⟩
  have hnothing : Text.IsBlanks [] := by
    decide
  have hgiven : Text.strip (.char ' ' :: gap ++ argument) = argument := by
    simpa using Text.strip_between hspaces htrimmed hnothing
  obtain ⟨hname, hrest⟩ := takeWhile_word hword (.char ' ' :: gap ++ argument) (by simp)
  obtain ⟨mark, rest, hfirst, -⟩ := htrimmed.first
  rw [hbody, hname, hrest, hgiven, hfirst]
  exact ⟨rfl, rfl, rfl⟩

/-- A text of a name and an argument is read as both of them. -/
theorem ofText_of_isPhrase
    (h : IsPhrase text action argument)
    (hplain : Line.isNumeric action = false)
    (index : Nat) :
    Line.ofText text index = .ok ⟨action, [.text argument], []⟩ := by
  obtain ⟨hname, hgiven, hpresent⟩ := parts_of_isPhrase h
  simp only [Line.ofText, hname, hgiven, hpresent, hplain, Bool.false_eq_true, if_false]

/-- A text of a name and a numeral is read as the name and the number. -/
theorem ofText_of_numeral
    {x : Binary64}
    (h : IsPhrase text action argument)
    (hnumeric : Line.isNumeric action = true)
    (hreads : Text.real? argument = some x)
    (index : Nat) :
    Line.ofText text index = .ok ⟨action, [.real x], []⟩ := by
  obtain ⟨hname, hgiven, hpresent⟩ := parts_of_isPhrase h
  simp only [Line.ofText, hname, hgiven, hpresent, hnumeric, hreads, Bool.false_eq_true, if_false,
    if_true]

/-- A text of a name alone is read as the name. -/
theorem ofText_of_isWord
    {before after : Text}
    (hblanks : before.IsBlanks ∧ after.IsBlanks)
    (h : action.IsWord)
    (index : Nat) :
    Line.ofText (before ++ action ++ after) index = .ok ⟨action, [], []⟩ := by
  have hbody : Text.strip (before ++ action ++ after) = action := by
    exact Text.strip_between hblanks.1 h.isTrimmed hblanks.2
  obtain ⟨hname, hrest⟩ := takeWhile_word h [] (by simp)
  rw [List.append_nil] at hname hrest
  simp only [Line.ofText, hbody, hname, hrest]
  rfl

/-- A mapping from a name to a value is read as both of them. -/
theorem ofValue_of_isEntry
    (h : IsEntry step action value)
    (index : Nat) :
    Line.ofValue step index = .ok (Line.ofEntry action value) := by
  unfold Line.ofValue
  split
  · cases h
  · rw [show step.entries? = _ from h]
    rfl

theorem ofEntry_of_entries
    (h : value.entries? = some entries) :
    Line.ofEntry action value = ⟨action, [], entries⟩ := by
  simp only [Line.ofEntry, h]

/-- No list is a mapping. -/
theorem entries?_of_items
    (h : value.items? = some items) :
    value.entries? = none := by
  unfold Value.items? at h
  unfold Value.entries?
  split at h
  · rfl
  · next cells place =>
      split at h
      · next hcell =>
          simp [hcell]
      · cases h
  · cases h

theorem ofEntry_of_items
    (h : value.items? = some items) :
    Line.ofEntry action value = ⟨action, items, []⟩ := by
  simp only [Line.ofEntry, h, entries?_of_items h]

theorem ofEntry_of_isSingle
    (h : IsSingle value) :
    Line.ofEntry action value = ⟨action, [value], []⟩ := by
  simp [Line.ofEntry, h.noMap, h.noList, h.present]

theorem ofEntry_of_holdsNothing
    (h : HoldsNothing value) :
    Line.ofEntry action value = ⟨action, [], []⟩ := by
  cases h with
  | null =>
      rfl
  | list hempty =>
      exact ofEntry_of_items hempty
  | map hempty =>
      exact ofEntry_of_entries hempty

end Reading

section Calls

/-- An action that takes one argument has one parameter with the name beside it. -/
theorem parameters_of_known
    {name parameter : String}
    (h : (name, parameter) ∈ soleParameters) :
    ∃ action default,
      Action.ofName? name = some action ∧
      action ≠ .sendDigits ∧
      action.parameters = [⟨parameter, default, true⟩] := by
  simp only [soleParameters, List.mem_cons, Prod.mk.injEq, List.not_mem_nil, or_false] at h
  rcases h with ⟨rfl, rfl⟩ | ⟨rfl, rfl⟩ | ⟨rfl, rfl⟩ | ⟨rfl, rfl⟩ | ⟨rfl, rfl⟩ | ⟨rfl, rfl⟩ |
    ⟨rfl, rfl⟩ <;> exact ⟨_, _, rfl, by decide, rfl⟩

/-- One argument by name and one by position give the one parameter the same value. -/
theorem bind_sole
    (parameter : String) (default : Option Value) (value : Value) :
    Arguments.bind ⟨[], [(.text parameter, value)]⟩ [⟨parameter, default, true⟩] =
      Arguments.bind ⟨[value], []⟩ [⟨parameter, default, true⟩] := by
  simp [Arguments.bind, Arguments.isNameOf, Arguments.fill, Arguments.valueOf, Value.get?,
    Value.sameKey, Value.number?]

/-- Lines of one action that takes one argument, by name or by position. -/
theorem sameCall_sole
    {name parameter : String}
    (h : (name, parameter) ∈ soleParameters)
    (value : Value) :
    SameCall ⟨name, [], [(.text parameter, value)]⟩ ⟨name, [value], []⟩ := by
  obtain ⟨action, default, hname, hother, hparameters⟩ := parameters_of_known h
  constructor
  · rfl
  · intro known hknown
    obtain rfl : action = known := by
      simpa [hname] using hknown
    rw [hparameters]
    exact bind_sole parameter default value
  · intro hdigits
    rw [hname, Option.some.injEq] at hdigits
    exact absurd hdigits hother

/-- Lines that send digits with a delay, by name in any order or by position. -/
theorem sameCall_digits
    {entries : List (Value × Value)} {digits delay : Value}
    (h : entries.Perm (namedDigits digits delay)) :
    SameCall ⟨"send_digits", [], entries⟩ ⟨"send_digits", [digits, delay], []⟩ := by
  have hname : Action.ofName? "send_digits" = some .sendDigits := by
    decide
  have hbind :
      Arguments.bind ⟨[], entries⟩ Action.sendDigits.parameters = .ok [digits, delay] ∧
        Value.get? entries "digits" = some digits := by
    rcases List.perm_pair.mp h with rfl | rfl <;> exact ⟨rfl, rfl⟩
  constructor
  · rfl
  · intro action haction
    obtain rfl : Action.sendDigits = action := by
      simpa [hname] using haction
    exact hbind.1
  · intro _ index
    simp only [requireDigits, hbind.2, Option.getD_some]

variable {s : Scenario} {step other : Value} {index : Nat} {first second : Line}

/-- Steps that are read as the same call do the same. -/
theorem on_applyStep_of_sameCall
    (hfirst : Line.ofValue step index = .ok first)
    (hsecond : Line.ofValue other index = .ok second)
    (h : SameCall first second) :
    on s (applyStep step index) = on s (applyStep other index) := by
  unfold applyStep
  rw [hfirst, hsecond, on_bind_ok (on_lift s (.ok first)), on_bind_ok (on_lift s (.ok second)),
    h.action]
  cases haction : Action.ofName? second.action with
  | none =>
      rfl
  | some action =>
      have hcall : call action first.arguments = call action second.arguments := by
        rw [call, h.values action haction]
        rfl
      simp only [Line.arguments] at hcall
      by_cases hdigits : action = .sendDigits
      · simp only [hcall, h.digits (hdigits ▸ haction) index]
      · simp only [hcall, hdigits, if_false]

end Calls

section Spellings

variable {step other : Value}

/-- Two spellings of a step are read, and as the same call. -/
theorem Respelled.exists_lines
    (h : Respelled step other)
    (index : Nat) :
    ∃ first second,
      Line.ofValue step index = .ok first ∧
      Line.ofValue other index = .ok second ∧
      SameCall first second := by
  cases h with
  | phrase phrase plain entry =>
      refine ⟨_, _, ?_, ofValue_of_isEntry entry index, .refl _⟩
      have hplain : Line.isNumeric _ = false := decide_eq_false plain
      rw [Line.ofValue, ofText_of_isPhrase phrase hplain]
      rfl
  | number phrase reads entry =>
      refine ⟨_, _, ?_, ofValue_of_isEntry entry index, .refl _⟩
      rw [Line.ofValue, ofText_of_numeral phrase (by simp [Line.isNumeric]) reads]
      rfl
  | bare blanks word nothing entry =>
      refine ⟨_, _, ?_, ofValue_of_isEntry entry index, .refl _⟩
      rw [Line.ofValue, ofText_of_isWord blanks word, ofEntry_of_holdsNothing nothing]
  | nothing nothing empty entry respelled =>
      refine ⟨_, _, ofValue_of_isEntry entry index, ofValue_of_isEntry respelled index, ?_⟩
      rw [ofEntry_of_holdsNothing nothing, ofEntry_of_holdsNothing empty]
      exact .refl _
  | single single one entry respelled =>
      refine ⟨_, _, ofValue_of_isEntry entry index, ofValue_of_isEntry respelled index, ?_⟩
      rw [ofEntry_of_items one, ofEntry_of_isSingle single]
      exact .refl _
  | sole known single one entry respelled =>
      refine ⟨_, _, ofValue_of_isEntry entry index, ofValue_of_isEntry respelled index, ?_⟩
      rw [ofEntry_of_entries one, ofEntry_of_isSingle single]
      exact sameCall_sole known _
  | digits named order listed entry respelled =>
      refine ⟨_, _, ofValue_of_isEntry entry index, ofValue_of_isEntry respelled index, ?_⟩
      rw [ofEntry_of_entries named, ofEntry_of_items listed]
      exact sameCall_digits order

/-- Steps with a common spelling, or with a chain of them, do the same. -/
theorem on_applyStep_of_sameStep
    (h : SameStep step other)
    (s : Scenario) (index : Nat) :
    on s (applyStep step index) = on s (applyStep other index) := by
  induction h with
  | rel step other hspelled =>
      obtain ⟨first, second, hfirst, hsecond, hsame⟩ := hspelled.exists_lines index
      exact on_applyStep_of_sameCall hfirst hsecond hsame
  | refl step =>
      rfl
  | symm step other _ ih =>
      exact ih.symm
  | trans step middle other _ _ ihFirst ihSecond =>
      exact ihFirst.trans ihSecond

/-- Steps do the same in a row when each of them is spelled in whatever way. -/
theorem on_applyFrom_of_sameSteps
    {steps others : List Value}
    (h : List.Forall₂ SameStep steps others)
    (s : Scenario) (index : Nat) :
    on s (applyFrom index steps) = on s (applyFrom index others) := by
  induction h generalizing s index with
  | nil =>
      rfl
  | cons hstep _ ih =>
      rw [applyFrom, applyFrom, on_bind, on_bind, on_applyStep_of_sameStep hstep]
      split
      · exact ih _ _
      · rfl

/--
**Spellings agree.**  The spellings of a step do the same to every scenario at every place in a
manifest: they add the same steps and media and report the same, or they fail with the same fault.
So do all steps of a manifest together, in whatever way each of them is spelled.
-/
theorem agree_of_sameStep :
    (∀ step other, SameStep step other →
      ∀ (s : Scenario) (index : Nat),
        on s (applyStep step index) = on s (applyStep other index)) ∧
    (∀ steps others, List.Forall₂ SameStep steps others →
      ∀ s : Scenario, on s (applySteps steps) = on s (applySteps others)) := by
  constructor
  · intro step other h
    exact on_applyStep_of_sameStep h
  · intro steps others h s
    exact on_applyFrom_of_sameSteps h s 1

/-- A rest of half a second as a text between blanks, and by the name of its parameter. -/
theorem agree_of_sameStep_by_name :
    let seconds : Value := .real (.finite false 4503599627370496 (-53))
    let text : Value := .text "\t sleep  0.5\n"
    let named : Value := .map [(.text "sleep", .map [(.text "seconds", seconds)])]
    on .sample (applyStep text 1) = on .sample (applyStep named 1) ∧
      on .sample (applySteps [text, named]) = on .sample (applySteps [named, text]) := by
  intro seconds text named
  have hphrase : IsPhrase "\t sleep  0.5\n" "sleep" "0.5" :=
    { word := ⟨by decide, by decide⟩
      trimmed := ⟨⟨.char '0', ".5", rfl, by decide⟩, ⟨"0.", .char '5', rfl, by decide⟩⟩
      layout := ⟨"\t ", " ", "\n", by decide, by decide, by decide, rfl⟩ }
  have hreads : Text.real? "0.5" = some (.finite false 4503599627370496 (-53)) := by
    decide +kernel
  have hposition : Respelled text (.map [(.text "sleep", seconds)]) := by
    exact .number hphrase hreads rfl
  have hname : Respelled named (.map [(.text "sleep", seconds)]) := by
    exact .sole (by decide) ⟨rfl, rfl, rfl⟩ rfl rfl rfl
  have hsame : SameStep text named := by
    exact .trans _ _ _ (.rel _ _ hposition) (.symm _ _ (.rel _ _ hname))
  have hother : SameStep named text := by
    exact .symm _ _ hsame
  obtain ⟨hstep, hsteps⟩ := agree_of_sameStep
  exact ⟨hstep text named hsame .sample 1,
    hsteps [text, named] [named, text] (.cons hsame (.cons hother .nil)) .sample⟩

end Spellings

end Manifest
end CallScript
