import CallScript.Proofs.Manifest.Faults
import CallScript.Proofs.Scenario.Makeup
import CallScript.Proofs.Script.Pieces

/-!
# The scripts of manifests

A manifest may give an action values of any kind, and they reach the attributes of its script as
they are.  The calls of the actions see to the form of the script: which elements it has, in which
order, and which attributes each of them has.  What they do not see to is what the status of an
expected response and the flag of an optional message say.

Main statement: `Manifest.grammar_of_buildMap`.  The script of a manifest that is built always
follows the grammar but for these two attributes, and it follows all of the grammar exactly where
the two are what they should be.
-/

namespace CallScript
namespace Script

section Forms

/-- Holds of the texts that are made of decimal digits. -/
def IsNatural (t : Text) : Prop :=
  t ≠ [] ∧ ∀ mark ∈ t, mark.satisfies Char.isDigit = true

/-- Holds of the texts that are made of decimal digits, perhaps after a sign. -/
def IsInteger (t : Text) : Prop :=
  IsNatural t ∨ ∃ digits, t = .char '-' :: digits ∧ IsNatural digits

theorem isNatural_repr (n : Nat) :
    IsNatural (Text.ofString n.repr) := by
  rw [Text.ofString, Nat.toList_repr]
  refine ⟨by simp [Text.ofChars, Nat.toDigits_ne_nil], fun mark hmark => ?_⟩
  obtain ⟨c, hc, rfl⟩ := List.mem_map.mp hmark
  exact Nat.isDigit_of_mem_toDigits (by decide) (by decide) hc

theorem isInteger_toString (n : Int) :
    IsInteger (Text.ofString (toString n)) := by
  cases n with
  | ofNat n =>
      exact .inl (isNatural_repr n)
  | negSucc n =>
      refine .inr ⟨Text.ofString (n + 1).repr, ?_, isNatural_repr (n + 1)⟩
      have hsign : toString (Int.negSucc n) = "-" ++ (n + 1).repr := by
        rfl
      simp [hsign, Text.ofString, Text.ofChars]

/-- Holds of what the flag of an optional message may say. -/
def IsFlag (optional : Option Text) : Prop :=
  optional = some "true" ∨ optional = some "false"

end Forms

/-- The attributes of an expected message: what is expected, and the flags that are written. -/
def recvAttributes (expected : String × Text) (optional : Option Text) (rrs : Bool) :
    List (String × Text) :=
  let flags := optional.toList.map fun flag => ("optional", flag)
  let routes := if rrs then [("rrs", Text.ofString "true")] else []
  expected :: (flags ++ routes)

/--
The markup that an element of a script may have, where the status of a response and the flag of an
optional message are subject to two conditions.
-/
inductive Grammar (isStatus : Text → Prop) (isFlag : Option Text → Prop) : List Piece → Prop
  | send (message : Text) :
      Grammar isStatus isFlag [.opening "send" [], .sections message, .closing "send"]
  | resend (retrans message : Text) (whole : IsInteger retrans) :
      Grammar isStatus isFlag
        [.opening "send" [("retrans", retrans)], .sections message, .closing "send"]
  | response (status : Text) (optional : Option Text) (rrs : Bool)
      (statusOk : isStatus status) (flagOk : isFlag optional) :
      Grammar isStatus isFlag [.empty "recv" (recvAttributes ("response", status) optional rrs)]
  | request (method : Text) (optional : Option Text) (rrs : Bool) (flagOk : isFlag optional) :
      Grammar isStatus isFlag [.empty "recv" (recvAttributes ("request", method) optional rrs)]
  | pause (milliseconds : Text) (natural : IsNatural milliseconds) :
      Grammar isStatus isFlag [.empty "pause" [("milliseconds", milliseconds)]]
  | play (capture : Text) :
      Grammar isStatus isFlag
        [ .opening "nop" [], .opening "action" [],
          .empty "exec" [("play_pcap_audio", capture)], .closing "action", .closing "nop" ]

theorem recvAttributes_inj
    {expected other : String × Text} {optional flag : Option Text} {rrs routes : Bool}
    (h : recvAttributes expected optional rrs = recvAttributes other flag routes) :
    expected = other ∧ optional = flag := by
  obtain ⟨rfl, h⟩ := List.cons.inj h
  cases optional <;> cases flag <;> cases rrs <;> cases routes <;> simp_all

/-- What the grammar asks of an element that expects a message. -/
theorem grammar_recv_iff
    {isStatus : Text → Prop} {isFlag : Option Text → Prop}
    {key : String} {text : Text} {optional : Option Text} {rrs : Bool} :
    Grammar isStatus isFlag [.empty "recv" (recvAttributes (key, text) optional rrs)] ↔
      (key = "request" ∨ (key = "response" ∧ isStatus text)) ∧ isFlag optional := by
  constructor
  · intro h
    generalize hpieces : [Piece.empty "recv" (recvAttributes (key, text) optional rrs)] = pieces at h
    cases h with
    | response status flag routes statusOk flagOk =>
        simp only [List.cons.injEq, Piece.empty.injEq, true_and, and_true] at hpieces
        obtain ⟨hexpected, rfl⟩ := recvAttributes_inj hpieces
        cases hexpected
        exact ⟨.inr ⟨rfl, statusOk⟩, flagOk⟩
    | request method flag routes flagOk =>
        simp only [List.cons.injEq, Piece.empty.injEq, true_and, and_true] at hpieces
        obtain ⟨hexpected, rfl⟩ := recvAttributes_inj hpieces
        cases hexpected
        exact ⟨.inl rfl, flagOk⟩
    | _ =>
        simp at hpieces
  · rintro ⟨rfl | ⟨rfl, statusOk⟩, flagOk⟩
    · exact .request text optional rrs flagOk
    · exact .response text optional rrs statusOk flagOk

/-- The grammar as it is documented: the status is a whole number, and the flag a truth value. -/
abbrev Documented : List Piece → Prop := Grammar IsInteger IsFlag

/-- The grammar without a condition on the status and the flag. -/
abbrev Formed : List Piece → Prop := Grammar (fun _ => True) (fun _ => True)

end Script

namespace Step

open Script

/-- What the attribute of a value says, if it is written. -/
def shown? (value : Value) : Option Text :=
  if value.isNull then none else some (attributeValue value)

/-- Holds of the steps that expect no message, or one with a status and a flag as they should be. -/
def Meets (isStatus : Text → Prop) (isFlag : Option Text → Prop) : Step → Prop
  | .receive response _ optional _ =>
      (∀ status ∈ shown? response, isStatus status) ∧ isFlag (shown? optional)
  | _ => True

theorem shownAttributes_cons (name : String) (value : Value) (rest : List (String × Value)) :
    shownAttributes ((name, value) :: rest) =
      (shown? value).toList.map (fun text => (name, text)) ++ shownAttributes rest := by
  rw [shownAttributes, shown?]
  split <;> rfl

theorem shownAttributes_routes (rrs : Bool) :
    shownAttributes [("rrs", if rrs then Value.bool true else .null)] =
      if rrs then [("rrs", Text.ofString "true")] else [] := by
  cases rrs <;> rfl

/-- An element that expects a message names the one discriminator that its step has. -/
theorem shownAttributes_receive
    {response request : Value}
    (one : response.isNull = !request.isNull)
    (optional rrs : Value) :
    shownAttributes (Step.attributes (.receive response request optional rrs)) =
      recvAttributes
        (if response.isNull then ("request", attributeValue request)
          else ("response", attributeValue response))
        (shown? optional) rrs.isSet := by
  rw [Step.attributes, shownAttributes_cons, shownAttributes_cons, shownAttributes_cons,
    shownAttributes_routes, shown?, shown?, one]
  cases request.isNull <;> rfl

/-- The markup of a step that calls add follows the grammar where its two attributes do. -/
theorem grammar_pieces_iff
    {capture : String} {step : Step} {isStatus : Text → Prop} {isFlag : Option Text → Prop}
    (h : step.Built capture) :
    Grammar isStatus isFlag step.pieces ↔ step.Meets isStatus isFlag := by
  cases h with
  | send message =>
      exact iff_of_true (.send message) trivial
  | resend message =>
      exact iff_of_true (.resend _ message (isInteger_toString Building.inviteRetransMs)) trivial
  | receive response request optional rrs one =>
      rw [Step.pieces, shownAttributes_receive one, Step.Meets]
      cases hresponse : response.isNull with
      | true =>
          rw [if_pos rfl, grammar_recv_iff]
          simp [shown?, hresponse]
      | false =>
          rw [if_neg Bool.false_ne_true, grammar_recv_iff]
          simp [shown?, hresponse]
  | pause milliseconds =>
      exact iff_of_true (.pause _ (isNatural_repr milliseconds)) trivial
  | play =>
      exact iff_of_true (.play _) trivial

theorem Built.isWorded
    {capture : String} {step : Step}
    (h : step.Built capture) :
    step.IsWorded := by
  cases h with
  | send message =>
      exact ⟨message, rfl⟩
  | resend message =>
      exact ⟨message, rfl⟩
  | _ =>
      exact trivial

/-- A whole number as the status and a truth value as the flag are what they should be. -/
theorem meets_of_typed (status : Int) (optional : Bool) (request rrs : Value) :
    Meets IsInteger IsFlag (.receive (.integer status) request (.bool optional) rrs) := by
  refine ⟨fun text htext => ?_, ?_⟩
  · cases htext
    exact isInteger_toString status
  · cases optional
    · exact .inr rfl
    · exact .inl rfl

end Step

namespace Script

/-- The markup of a script around that of its elements. -/
def around (name : Text) (elements : List (List Piece)) : List Piece :=
  .opening "scenario" [("name", name)] :: (elements.flatten ++ [.closing "scenario"])

end Script

namespace Scenario

open Script

/-- What is read in the script of a scenario is the markup of its steps. -/
theorem document_eq_of_isBuilt
    {s : Scenario}
    (h : s.IsBuilt) :
    s.document =
      if s.steps.all Step.isWritable then
        .ok (documentText s.name s.steps)
      else
        .error .numberLong :=
  render_eq_of_isWorded s.name fun step hstep => (h step hstep).isWorded

theorem document_eq_ok_iff
    {s : Scenario}
    (h : s.IsBuilt) :
    (∃ script, s.document = .ok script) ↔ ∀ step ∈ s.steps, step.isWritable = true := by
  rw [document_eq_of_isBuilt h, ← List.all_eq_true]
  split
  · next hwritable =>
      exact iff_of_true ⟨_, rfl⟩ hwritable
  · next hlong =>
      refine iff_of_false ?_ hlong
      rintro ⟨script, hscript⟩
      cases hscript

end Scenario

namespace Manifest

open Script

/-- The steps of a manifest that is built are steps that calls add. -/
theorem isBuilt_of_buildMap
    {data : List (Value × Value)} {settings : Except Fault Settings} {s : Scenario}
    (h : (buildMap data settings).result = .ok s) :
    s.IsBuilt := by
  unfold buildMap at h
  split at h
  · cases h
  · split at h
    · cases h
    · next steps _ =>
        split at h
        · cases h
        · next start hcreate =>
            obtain ⟨name, _, hcreate⟩ := Result.bind_eq_ok hcreate
            obtain ⟨source, _, hcreate⟩ := Result.bind_eq_ok hcreate
            obtain ⟨destination, _, hcreate⟩ := Result.bind_eq_ok hcreate
            obtain ⟨given, _, hcreate⟩ := Result.bind_eq_ok hcreate
            have hbuilt :=
              (preserves_applyFrom (fun _ hstep => hstep.built) 1 steps start
                (Scenario.isBuilt_of_create hcreate).hasSteps).isBuilt
            have hfinish : (finish start steps).2 = (Building.on start (applyFrom 1 steps)).2 := by
              rfl
            rw [← hfinish] at hbuilt
            split at h
            · cases h
            · next after hrun =>
                rw [hrun] at hbuilt
                cases h
                exact hbuilt

/--
**Scripts of manifests.**  The script of a manifest that is built holds the elements of its steps in
their order, and each of them is formed by the grammar.  There is a script unless an attribute holds
a number with too many digits.  It follows the documented grammar exactly where every response has a
whole number as its status and every expected message has a truth value as its flag.
-/
theorem grammar_of_buildMap
    {data : List (Value × Value)} {settings : Except Fault Settings} {s : Scenario}
    (h : (buildMap data settings).result = .ok s) :
    (∀ script, s.document = .ok script →
      read? script = some (around s.name (s.steps.map Step.pieces))) ∧
    (∀ step ∈ s.steps, Formed step.pieces) ∧
    ((∃ script, s.document = .ok script) ↔ ∀ step ∈ s.steps, step.isWritable = true) ∧
    ((∀ step ∈ s.steps, Documented step.pieces) ↔
      ∀ step ∈ s.steps, step.Meets IsInteger IsFlag) := by
  have hbuilt := isBuilt_of_buildMap h
  refine ⟨fun script hscript => ?_, fun step hstep => ?_, Scenario.document_eq_ok_iff hbuilt, ?_⟩
  · rw [Scenario.document_eq_of_isBuilt hbuilt] at hscript
    split at hscript
    · cases hscript
      rw [read?_documentText, around, List.flatMap_def]
    · cases hscript
  · refine (Step.grammar_pieces_iff (hbuilt step hstep)).mpr ?_
    cases step with
    | receive response request optional rrs =>
        exact ⟨fun _ _ => trivial, trivial⟩
    | _ =>
        exact trivial
  · exact forall₂_congr fun step hstep => Step.grammar_pieces_iff (hbuilt step hstep)

/-- A call that expects a provisional response with some flag. -/
def expecting (optional : Value) : List (Value × Value) :=
  callOf [.map [(.text "receive_trying", optional)]]

/-- The scenario of such a call. -/
def expectant (optional : Value) : Scenario :=
  let step := Step.receive (.integer 100) .null optional (.bool false)
  { Scenario.sample with
    steps := [step]
    journal := Scenario.sample.journal ++ [.appended "call" step, .built "call" 1] }

theorem buildMap_expecting_false :
    (buildMap (expecting (.bool false)) (.ok .standard)).result = .ok (expectant (.bool false)) := by
  rfl

/-- The script of a call that insists on a provisional response. -/
theorem grammar_of_expecting_false :
    (∃ script,
      (expectant (.bool false)).document = .ok script ∧
      read? script = some (around "call"
        [[.empty "recv" [("response", "100"), ("optional", "false")]]])) ∧
    ∀ step ∈ (expectant (.bool false)).steps, Documented step.pieces := by
  obtain ⟨hread, _, hscript, hgrammar⟩ := grammar_of_buildMap buildMap_expecting_false
  obtain ⟨script, hscript⟩ := hscript.mpr (by decide +kernel)
  refine ⟨⟨script, hscript, hread script hscript⟩, hgrammar.mpr fun step hstep => ?_⟩
  rw [List.mem_singleton.mp hstep]
  exact Step.meets_of_typed 100 false .null (.bool false)

theorem buildMap_expecting_maybe :
    (buildMap (expecting (.text "maybe")) (.ok .standard)).result =
      .ok (expectant (.text "maybe")) := by
  rfl

/-- A flag that is no truth value is accepted, and the script says it. -/
theorem undocumented_of_expecting_maybe :
    (buildMap (expecting (.text "maybe")) (.ok .standard)).result =
      .ok (expectant (.text "maybe")) ∧
    (expectant (.text "maybe")).document =
      .ok (Text.ofString "<?xml version=\x221.0\x22?>\n<scenario name=\x22call\x22>\n" ++
        Text.ofString "  <recv response=\x22100\x22 optional=\x22maybe\x22/>\n</scenario>\n") ∧
    ¬ ∀ step ∈ (expectant (.text "maybe")).steps, Documented step.pieces := by
  have hbuilt := isBuilt_of_buildMap buildMap_expecting_maybe
  refine ⟨buildMap_expecting_maybe, ?_, fun h => ?_⟩
  · rw [Scenario.document_eq_of_isBuilt hbuilt, if_pos (by decide +kernel)]
    exact congrArg Except.ok (by decide +kernel)
  · have hmeets := (Step.grammar_pieces_iff (hbuilt _ List.mem_cons_self)).mp
      (h _ List.mem_cons_self)
    rcases hmeets.2 with hflag | hflag
    · revert hflag
      decide
    · revert hflag
      decide

end Manifest
end CallScript
