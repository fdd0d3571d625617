import CallScript.Proofs.Manifest.Grammar
import CallScript.Proofs.Scenario.Makeup
import CallScript.Proofs.Scenario.Naming
import CallScript.Proofs.Script.Characters
import CallScript.Proofs.Sip.Structure

/-!
# Legal scripts of scenarios

A scenario writes what it is given: its name, the identity of its caller, the name of its capture
and the values of its calls.  Whether its script may be read as a document is up to these.

Main statements:
* `Step.Added.isLegal`: a step that a call adds shows legal texts when all it is made of is legal.
* `Scenario.legal_of_run`: which scripts of scenarios are legal, and how their name is read back.
-/

namespace CallScript

namespace Sip

open Text

theorem isLegal_of_isPrintable
    {mark : Mark}
    (h : isPrintable mark = true) :
    mark.isLegal = true := by
  cases mark with
  | half n =>
      cases h
  | char c =>
      have hbounds : ' ' ≤ c ∧ c ≤ '~' := by
        simpa [isPrintable, Mark.satisfies] using h
      exact Mark.isLegal_of_le hbounds.1 hbounds.2

/-- Lines of legal marks make a legal message. -/
theorem isLegal_ofLines
    {lines : List Text}
    (h : ∀ line ∈ lines, ∀ mark ∈ line, mark.isLegal = true) :
    isLegal (ofLines lines) = true := by
  have hfeed : (Mark.char '\n').isLegal = true := by
    decide
  refine List.all_eq_true.mpr fun mark hmark => ?_
  simp only [ofLines, Text.join, List.mem_cons, List.mem_flatten, List.mem_map] at hmark
  rcases hmark with rfl | ⟨_, ⟨line, hline, rfl⟩, hmark⟩
  · exact hfeed
  · rcases List.mem_append.mp hmark with hinside | hend
    · exact h line hline mark hinside
    · rw [List.mem_singleton.mp hend]
      exact hfeed

/-- A message with the identity of its caller is legal when the identity is. -/
theorem isLegal_message
    {message : Text → Text} {caller : Text}
    (hmessage : message ∈ [invite, ack])
    (hcaller : isLegal caller = true) :
    isLegal (message caller) = true := by
  obtain ⟨form, hform, hfilled⟩ := exists_form hmessage
  rw [hfilled]
  have hlines : ∀ line ∈ form.lines caller, ∀ mark ∈ line, (!mark.isLegal) = false := by
    apply hform.unbroken
    · intro mark hmark
      rw [isLegal_of_isPrintable hmark]
      rfl
    · intro mark hmark
      rw [List.all_eq_true.mp hcaller mark hmark]
      rfl
  refine isLegal_ofLines fun line hline mark hmark => ?_
  simpa using hlines line hline mark hmark

end Sip

namespace Script

open Text

theorem isLegal_attributeValue
    {value : Value}
    (h : value.IsLegal) :
    isLegal (attributeValue value) = true := by
  cases value with
  | bool b =>
      cases b <;> decide
  | _ =>
      exact h.plain

/-- Attributes of legal values show legal texts. -/
theorem isLegal_of_mem_shownAttributes
    {pairs : List (String × Value)}
    (h : ∀ pair ∈ pairs, pair.2.IsLegal) :
    ∀ text ∈ (shownAttributes pairs).map Prod.snd, isLegal text = true := by
  intro text htext
  obtain ⟨shown, hshown, rfl⟩ := List.mem_map.mp htext
  obtain ⟨pair, hpair, rfl⟩ := exists_of_mem_shownAttributes hshown
  exact isLegal_attributeValue (h pair hpair)

end Script

namespace Step

open Text

/-- A step shows legal texts when its message and the values of its attributes are legal. -/
theorem isLegal_texts
    {step : Step}
    (hmessage : isLegal (Script.messageOf step) = true)
    (hattributes : ∀ pair ∈ step.attributes, pair.2.IsLegal) :
    ∀ text ∈ step.texts, isLegal text = true :=
  List.forall_mem_cons.mpr ⟨hmessage, Script.isLegal_of_mem_shownAttributes hattributes⟩

variable {capture : String} {caller : Value} {step : Step}

/-- A step that a call adds shows legal texts when all that it is made of is legal. -/
theorem Added.isLegal
    (h : step.Added capture caller Value.IsLegal)
    (hcapture : Text.isLegal capture = true)
    (hcaller : caller.IsLegal) :
    ∀ text ∈ step.texts, Text.isLegal text = true := by
  have hshown {text : Text} (hplain : Fault.plainText caller = .ok text) :
      Text.isLegal text = true := by
    unfold Fault.plainText at hplain
    split at hplain
    · cases hplain
      exact hcaller.plain
    · cases hplain
  cases h with
  | invite shown =>
      have hinvite : Sip.invite ∈ [Sip.invite, Sip.ack] := by
        simp
      have hmessage := Sip.isLegal_message hinvite (hshown shown)
      exact isLegal_texts hmessage (by simp [Step.attributes, Value.IsLegal])
  | ack shown =>
      have hack : Sip.ack ∈ [Sip.invite, Sip.ack] := by
        simp
      have hmessage := Sip.isLegal_message hack (hshown shown)
      exact isLegal_texts hmessage (by simp [Step.attributes, Value.IsLegal])
  | bye =>
      exact isLegal_texts (by decide +kernel) (by simp [Step.attributes, Value.IsLegal])
  | okToBye =>
      exact isLegal_texts (by decide +kernel) (by simp [Step.attributes, Value.IsLegal])
  | @receive response request optional rrs one values =>
      have hrrs : (if rrs.isSet then Value.bool true else .null).IsLegal := by
        split <;> exact trivial
      refine isLegal_texts rfl ?_
      simp_all [Step.attributes]
  | pause milliseconds =>
      exact isLegal_texts rfl (by simp [Step.attributes, Value.IsLegal])
  | play =>
      exact isLegal_texts rfl (by simpa [Step.attributes, Value.IsLegal] using hcapture)

end Step

namespace Scenario

open Text

theorem isLegal_of_isWordChar
    {c : Char}
    (h : isWordChar c = true) :
    (Mark.char c).isLegal = true := by
  rcases Bool.or_eq_true_iff.mp h with halphanum | hunderscore
  · simp only [Char.isAlphanum, Char.isAlpha, Char.isUpper, Char.isLower, Char.isDigit,
      Bool.or_eq_true, Bool.and_eq_true, decide_eq_true_eq, UInt32.le_iff_toNat_le, ge_iff_le]
      at halphanum
    change ((65 ≤ c.toNat ∧ c.toNat ≤ 90) ∨ (97 ≤ c.toNat ∧ c.toNat ≤ 122)) ∨
      (48 ≤ c.toNat ∧ c.toNat ≤ 57) at halphanum
    exact Mark.isLegal_of_le (by omega) (by omega)
  · rw [of_decide_eq_true hunderscore]
    decide

/-- The name of a capture is legal when its extension is. -/
theorem isLegal_captureName
    {settings : Settings} {name : Option Text} {source destination fromUser : Value}
    {s : Scenario}
    (h : create settings name source destination fromUser = .ok s)
    (hextension : isLegal settings.captureExtension = true) :
    isLegal s.captureName = true := by
  obtain ⟨hsettings, _, hstem⟩ := names_of_create h
  have hwords : isLegal (ofString s.stem) = true := by
    rw [hstem, stemOf]
    refine isLegal_ofList_iff.mpr fun c hc => ?_
    exact isLegal_of_isWordChar (isWordChar_of_mem_joinWords false _ c hc)
  rw [captureName, isLegal_ofString_append, isLegal_ofString_append, hwords, hsettings, hextension]
  decide

/-- The steps of a scenario show legal texts when all that it is given is legal. -/
theorem isLegal_texts_of_run
    {settings : Settings} {name : Option Text} {source destination fromUser : Value}
    {start : Scenario}
    (hstart : create settings name source destination fromUser = .ok start)
    (hcaller : start.fromUser.IsLegal)
    (hextension : isLegal settings.captureExtension = true)
    {moves : List Move}
    (hgives : ∀ move ∈ moves, move.Gives Value.IsLegal) :
    ∀ step ∈ (start.run moves).steps, ∀ text ∈ step.texts, isLegal text = true := by
  obtain ⟨hnone, _, _⟩ := fresh_of_create hstart
  have hadded : ∀ step, Step.Added start.captureName start.fromUser Value.IsLegal step →
      ∀ text ∈ step.texts, isLegal text = true := by
    intro step hstep
    exact hstep.isLegal (isLegal_captureName hstart hextension) hcaller
  have hmethod : isLegal (ofString "BYE") = true := by
    decide
  have husual : Action.IsUsual Value.IsLegal :=
    ⟨trivial, fun _ => trivial, fun _ => trivial, hmethod⟩
  have hsteps :
      start.HasSteps start.captureName start.fromUser
        fun step => ∀ text ∈ step.texts, isLegal text = true := by
    refine ⟨rfl, rfl, ?_⟩
    rw [hnone]
    simp
  exact (hsteps.run hadded husual hgives).steps

/--
**Which scripts are legal.**  All that a scenario writes by itself is legal: its script is legal
exactly when its name and the texts that its steps show are.  So it is when the name, the identity
of the caller and the extension of the capture are legal, and the calls are given legal texts and
numbers.  A name without tabs and ends of lines is read back from its attribute.
-/
theorem legal_of_run
    {settings : Settings} {name : Text} {source destination fromUser : Value} {start : Scenario}
    (hstart : create settings (some name) source destination fromUser = .ok start)
    (calls : List (Action × Arguments))
    {document : Text}
    (hdocument :
      (start.run (calls.map fun call => .call call.1 call.2)).document = .ok document) :
    (isLegal document = true ↔
      isLegal name = true ∧
      ∀ step ∈ (start.run (calls.map fun call => .call call.1 call.2)).steps,
        ∀ text ∈ step.texts, isLegal text = true) ∧
    (isLegal name = true →
      start.fromUser.IsLegal →
      isLegal settings.captureExtension = true →
      (∀ call ∈ calls, ∀ value ∈ call.2.values, value.IsLegal) →
      isLegal document = true) ∧
    ((∀ mark ∈ name, mark ∉ Script.blanks) → Script.readName? document = some name) := by
  obtain ⟨_, hname, _⟩ := names_of_create hstart
  generalize hmoves : calls.map (fun call => Move.call call.1 call.2) = moves at hdocument ⊢
  have hkept : (start.run moves).name = name := by
    obtain ⟨passages, hrun, _⟩ := run_eq_extended start moves
    rw [hrun]
    exact hname
  have hbuilt := isBuilt_of_run (isBuilt_of_create hstart) moves
  rw [document_eq_of_isBuilt hbuilt, hkept] at hdocument
  split at hdocument
  · cases hdocument
    have hexact :
        isLegal (Script.documentText name (start.run moves).steps) = true ↔
          isLegal name = true ∧
          ∀ step ∈ (start.run moves).steps, ∀ text ∈ step.texts, isLegal text = true := by
      simp only [Script.isLegal_documentText, Bool.and_eq_true, List.all_eq_true]
    refine ⟨hexact, ?_, fun hplain => Script.readName?_documentText hplain _⟩
    intro hlegal hcaller hextension hvalues
    have hgives : ∀ move ∈ moves, move.Gives Value.IsLegal := by
      rw [← hmoves]
      intro move hmove
      obtain ⟨call, hcall, rfl⟩ := List.mem_map.mp hmove
      exact hvalues call hcall
    exact hexact.mpr ⟨hlegal, isLegal_texts_of_run hstart hcaller hextension hgives⟩
  · cases hdocument

/-- A call whose script shows markup that it is given, and a number. -/
theorem legal_of_run_with_markup :
    let calls : List (Action × Arguments) :=
      [ (.invite, ⟨[], []⟩),
        (.receive, ⟨[], [(.text "request", .text "]]></a>"), (.text "rrs", .integer 7)]⟩) ]
    ∃ document,
      (sample.run (calls.map fun call => .call call.1 call.2)).document = .ok document ∧
      isLegal document = true ∧
      Script.readName? document = some "call" := by
  intro calls
  have hbuilt :=
    isBuilt_of_run (isBuilt_of_create create_sample) (calls.map fun call => .call call.1 call.2)
  obtain ⟨document, hdocument⟩ := (document_eq_ok_iff hbuilt).mpr (by decide +kernel)
  obtain ⟨_, hlegal, hread⟩ := legal_of_run create_sample calls hdocument
  have hrequest : isLegal (ofString "]]></a>") = true := by
    decide
  have hvalues : ∀ call ∈ calls, ∀ value ∈ call.2.values, value.IsLegal := by
    intro call hcall value hvalue
    rcases List.mem_pair.mp hcall with rfl | rfl
    · cases hvalue
    · rcases List.mem_pair.mp hvalue with rfl | rfl
      · exact hrequest
      · trivial
  have hcaller : isLegal (ofString "sipp") = true := by
    decide
  exact ⟨document, hdocument, hlegal (by decide) hcaller (by decide) hvalues, hread (by decide)⟩

/-- A scenario takes a name with a mark that no document may hold, and one that is not read back. -/
theorem legal_of_run_broken :
    (∃ s document,
      create .standard (some "a\x01") (.text "a:1") (.text "b:2") .null = .ok s ∧
      s.document = .ok document ∧
      isLegal document = false) ∧
    ∃ s document,
      create .standard (some "a\nb") (.text "a:1") (.text "b:2") .null = .ok s ∧
      s.document = .ok document ∧
      Script.readName? document = some "a b" := by
  refine ⟨⟨_, _, rfl, rfl, ?_⟩, ⟨_, _, rfl, rfl, ?_⟩⟩
  · decide +kernel
  · decide +kernel

end Scenario
end CallScript
