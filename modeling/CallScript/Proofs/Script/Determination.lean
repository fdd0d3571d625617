import CallScript.Proofs.Result
import CallScript.Proofs.Script.Reading
import CallScript.Script.Document
import Mathlib

/-!
# Scripts and their steps

A script is written without a loss: its text determines the name and the steps that it was made
from.  Every part of it ends by itself, so that no text that a caller gives, whatever it holds, is
taken for another part.

Main statements:
* `Script.render_eq`: how a script of well-typed steps is written, and when it cannot be.
* `Script.determined_of_render`: scripts with the same text have the same name and the same steps.
-/

namespace CallScript

namespace Step

/-- The steps whose fields hold what their kinds ask for. -/
inductive WellTyped : Step → Prop
  | send (message : Text) :
      WellTyped (.send (.text message) .null)
  | resend (message : Text) (retrans : Int) :
      WellTyped (.send (.text message) (.integer retrans))
  | response (status : Int) (optional rrs : Bool) :
      WellTyped (.receive (.integer status) .null (.bool optional) (.bool rrs))
  | request (method : Text) (optional rrs : Bool) :
      WellTyped (.receive .null (.text method) (.bool optional) (.bool rrs))
  | pause (milliseconds : Nat) :
      WellTyped (.pause (.integer milliseconds))
  | play (capture : Text) :
      WellTyped (.play (.text capture))

/-- Holds of the steps whose message, if they send one, is a text. -/
def IsWorded : Step → Prop
  | .send message _ => ∃ text, message = .text text
  | _ => True

theorem WellTyped.isWorded
    {step : Step}
    (h : step.WellTyped) :
    step.IsWorded := by
  cases h with
  | send message =>
      exact ⟨message, rfl⟩
  | resend message retrans =>
      exact ⟨message, rfl⟩
  | _ =>
      exact trivial

/-- The element of a step up to its attributes. -/
def opening : Step → String
  | .send .. => "  <send"
  | .receive .. => "  <recv"
  | .pause .. => "  <pause"
  | .play .. => "  <nop>\n    <action>\n      <exec"

/-- The attributes of the element of a step. -/
def attributes : Step → List (String × Value)
  | .send _ retrans => [("retrans", retrans)]
  | .receive response request optional rrs =>
      [("request", request), ("response", response), ("optional", optional),
        ("rrs", if rrs.isSet then .bool true else .null)]
  | .pause milliseconds => [("milliseconds", milliseconds)]
  | .play capture => [("play_pcap_audio", capture)]

/-- Holds of the steps of which every attribute has a text. -/
def isWritable (step : Step) : Bool :=
  step.attributes.all fun pair => pair.2.isShowable

/-- The element of a step after its attributes. -/
def closing : Step → Text
  | .send message _ => ">\n" ++ Script.enclose message.plain ++ "\n  </send>"
  | .receive .. => "/>"
  | .pause .. => "/>"
  | .play .. => "/>\n    </action>\n  </nop>"

end Step

namespace Script

/-- What an attribute says of a value. -/
def attributeValue : Value → Text
  | .bool b => if b then "true" else "false"
  | value => value.plain

/-- The attributes that are written, with what they say. -/
def shownAttributes : List (String × Value) → List (String × Text)
  | [] => []
  | (name, value) :: rest =>
      if value.isNull then
        shownAttributes rest
      else
        (name, attributeValue value) :: shownAttributes rest

/-- Attributes as they are written. -/
def markup : List (String × Text) → Text
  | [] => []
  | (name, text) :: rest => " " ++ name ++ "=\x22" ++ escape text ++ "\x22" ++ markup rest

/-- The element of a step as it is written. -/
def elementText (step : Step) : Text :=
  step.opening ++ (markup (shownAttributes step.attributes) ++ step.closing)

/-- The elements of some steps as they are written. -/
def elementTexts (steps : List Step) : Text :=
  Text.join (steps.map fun step => elementText step ++ "\n")

/-- The script of some steps as it is written. -/
def documentText (name : Text) (steps : List Step) : Text :=
  "<?xml version=\x221.0\x22?>\n<scenario" ++ (markup [("name", name)] ++
    (">\n" ++ (elementTexts steps ++ "</scenario>\n")))

section Writing

theorem attributeText_eq (value : Value) :
    attributeText value =
      if value.isShowable then .ok (escape (attributeValue value)) else .error .numberLong := by
  cases value with
  | bool b =>
      cases b <;> rfl
  | _ =>
      simp only [attributeText, Fault.plainText, attributeValue]
      split <;> rfl

theorem attributes_eq (pairs : List (String × Value)) :
    attributes pairs =
      if pairs.all fun pair => pair.2.isShowable then
        .ok (markup (shownAttributes pairs))
      else
        .error .numberLong := by
  induction pairs with
  | nil =>
      rfl
  | cons pair rest ih =>
      obtain ⟨name, value⟩ := pair
      rw [attributes, shownAttributes, ih, attributeText_eq, List.all_cons]
      cases hnull : value.isNull with
      | true =>
          cases value with
          | null =>
              rfl
          | _ =>
              cases hnull
      | false =>
          cases value.isShowable <;> cases rest.all fun pair => pair.2.isShowable <;> rfl

/-- The element of a step is written around its attributes. -/
theorem renderStep_eq_map
    {step : Step}
    (h : step.IsWorded) :
    renderStep step =
      (attributes step.attributes).map fun written =>
        step.opening ++ (written ++ step.closing) := by
  cases step with
  | send message retrans =>
      obtain ⟨text, rfl⟩ := h
      rw [renderStep, Step.attributes]
      cases attributes [("retrans", retrans)] with
      | error fault =>
          rfl
      | ok written =>
          simp [messageText, Step.opening, Step.closing, Value.plain, indent, Text.join,
            Text.ofString, Text.ofChars, pure, Except.pure]
  | receive response request optional rrs =>
      rw [renderStep, Step.attributes]
      cases attributes _ with
      | error fault =>
          rfl
      | ok written =>
          simp [Step.opening, Step.closing, indent, Text.join, Text.ofString, Text.ofChars, pure,
            Except.pure]
  | pause milliseconds =>
      rw [renderStep, Step.attributes]
      cases attributes [("milliseconds", milliseconds)] with
      | error fault =>
          rfl
      | ok written =>
          simp [Step.opening, Step.closing, indent, Text.join, Text.ofString, Text.ofChars, pure,
            Except.pure]
  | play capture =>
      rw [renderStep, Step.attributes]
      cases attributes [("play_pcap_audio", capture)] with
      | error fault =>
          rfl
      | ok written =>
          simp [Step.opening, Step.closing, indent, Text.join, Text.ofString, Text.ofChars, pure,
            Except.pure]

theorem renderStep_eq
    {step : Step}
    (h : step.IsWorded) :
    renderStep step =
      if step.isWritable then .ok (elementText step) else .error .numberLong := by
  rw [renderStep_eq_map h, attributes_eq, ← Step.isWritable]
  split <;> rfl

theorem mapM_renderItem_eq
    {steps : List Step}
    (h : ∀ step ∈ steps, step.IsWorded) :
    (steps.map Item.step).mapM renderItem =
      if steps.all Step.isWritable then .ok (steps.map elementText) else .error .numberLong := by
  induction steps with
  | nil =>
      rfl
  | cons step rest ih =>
      rw [List.map_cons, List.mapM_cons, renderItem, renderStep_eq (h step List.mem_cons_self),
        ih fun other hother => h other (List.mem_cons_of_mem step hother), List.all_cons]
      cases step.isWritable <;> cases rest.all Step.isWritable <;> rfl

/-- The script of steps with texts for messages is the text of its document, if it has one. -/
theorem render_eq_of_isWorded
    (name : Text)
    {steps : List Step}
    (h : ∀ step ∈ steps, step.IsWorded) :
    render name steps =
      if steps.all Step.isWritable then .ok (documentText name steps) else .error .numberLong := by
  rw [render, renderItems, attributes_eq, mapM_renderItem_eq h]
  cases steps.all Step.isWritable with
  | false =>
      rfl
  | true =>
      simp [documentText, elementTexts, shownAttributes, Value.isShowable, attributeValue,
        Value.isNull, Value.plain, Function.comp_def, pure, Except.pure]

theorem isWritable_of_wellTyped
    {step : Step}
    (h : step.WellTyped) :
    step.isWritable = step.isShowable := by
  cases h with
  | response status optional rrs =>
      cases rrs <;>
        simp [Step.isWritable, Step.attributes, Step.isShowable, Step.fields, Value.isShowable,
          Value.isSet]
  | request method optional rrs =>
      cases rrs <;>
        simp [Step.isWritable, Step.attributes, Step.isShowable, Step.fields, Value.isShowable,
          Value.isSet]
  | _ =>
      simp [Step.isWritable, Step.attributes, Step.isShowable, Step.fields, Value.isShowable]

/--
**How scripts are written.**  The script of well-typed steps is the text of its document, unless
it holds a number with more digits than a text may have.
-/
theorem render_eq
    (name : Text)
    {steps : List Step}
    (h : ∀ step ∈ steps, step.WellTyped) :
    render name steps =
      if steps.all Step.isShowable then .ok (documentText name steps) else .error .numberLong := by
  have hall : steps.all Step.isWritable = steps.all Step.isShowable := by
    rw [Bool.eq_iff_iff, List.all_eq_true, List.all_eq_true]
    exact forall₂_congr fun step hstep => by rw [isWritable_of_wellTyped (h step hstep)]
  rw [render_eq_of_isWorded name fun step hstep => (h step hstep).isWorded, hall]

end Writing

section Reading

variable {s t : Text}

theorem markup_cons_append (name : String) (text : Text) (rest : List (String × Text)) (s : Text) :
    markup ((name, text) :: rest) ++ s =
      .char ' ' :: (Text.ofString name ++ .char '=' :: .char '\x22' ::
        (escape text ++ .char '\x22' :: (markup rest ++ s))) := by
  simp [markup, Text.ofString, Text.ofChars]

/-- Attributes end by themselves in front of anything but a space. -/
theorem markup_append_inj
    {first second : List (String × Text)}
    (hfirst : ∀ shown ∈ first, '=' ∉ shown.1.toList)
    (hsecond : ∀ shown ∈ second, '=' ∉ shown.1.toList)
    (hs : s.head? ≠ some (.char ' '))
    (ht : t.head? ≠ some (.char ' '))
    (h : markup first ++ s = markup second ++ t) :
    first = second ∧ s = t := by
  induction first generalizing second with
  | nil =>
      cases second with
      | nil =>
          exact ⟨rfl, h⟩
      | cons other others =>
          rw [markup_cons_append] at h
          cases h
          exact absurd rfl hs
  | cons shown rest ih =>
      cases second with
      | nil =>
          rw [markup_cons_append] at h
          cases h
          exact absurd rfl ht
      | cons other others =>
          obtain ⟨hname, hrest⟩ := List.forall_mem_cons.mp hfirst
          obtain ⟨hother, hothers⟩ := List.forall_mem_cons.mp hsecond
          rw [markup_cons_append, markup_cons_append, List.cons.injEq] at h
          rw [← Text.char_mem_ofString] at hname hother
          obtain ⟨hsame, h⟩ := Text.append_cons_inj hname hother h.2
          rw [List.cons.injEq] at h
          obtain ⟨htext, h⟩ :=
            Text.append_cons_inj (quote_notMem_escape _) (quote_notMem_escape _) h.2
          obtain ⟨rfl, hafter⟩ := ih hrest hothers h
          exact ⟨by rw [Prod.ext (Text.ofString_inj hsame) (escape_inj htext)], hafter⟩

/-- A written attribute is a given one with what it says of its value. -/
theorem exists_of_mem_shownAttributes
    {pairs : List (String × Value)} {shown : String × Text}
    (h : shown ∈ shownAttributes pairs) :
    ∃ pair ∈ pairs, shown = (pair.1, attributeValue pair.2) := by
  induction pairs with
  | nil =>
      cases h
  | cons pair rest ih =>
      unfold shownAttributes at h
      split at h
      · obtain ⟨other, hother, hshown⟩ := ih h
        exact ⟨other, List.mem_cons_of_mem pair hother, hshown⟩
      · rcases List.mem_cons.mp h with rfl | hrest
        · exact ⟨pair, List.mem_cons_self, rfl⟩
        · obtain ⟨other, hother, hshown⟩ := ih hrest
          exact ⟨other, List.mem_cons_of_mem pair hother, hshown⟩

theorem equals_notMem_attributes (step : Step) :
    ∀ shown ∈ shownAttributes step.attributes, '=' ∉ shown.1.toList := by
  intro shown hshown
  obtain ⟨pair, hpair, rfl⟩ := exists_of_mem_shownAttributes hshown
  cases step with
  | receive response request optional rrs =>
      simp only [Step.attributes, List.mem_cons, List.not_mem_nil, or_false] at hpair
      rcases hpair with rfl | rfl | rfl | rfl <;> simp
  | _ =>
      simp only [Step.attributes, List.mem_singleton] at hpair
      simp [hpair]

theorem opening_append_inj
    {first second : Step}
    (h : Text.ofString first.opening ++ s = Text.ofString second.opening ++ t) :
    first.name = second.name ∧ s = t := by
  cases first <;> cases second <;>
    simp [Step.opening, Step.name, Text.ofString, Text.ofChars] at h ⊢ <;> exact h

theorem head?_closing (step : Step) (s : Text) :
    (step.closing ++ s).head? ≠ some (.char ' ') := by
  cases step <;> simp [Step.closing, Text.ofString, Text.ofChars]

theorem attributeValue_integer_inj
    {m n : Int}
    (h : attributeValue (.integer m) = attributeValue (.integer n)) :
    m = n := by
  have htext : toString m = toString n := Text.ofString_inj h
  rwa [Int.toString_eq_repr, Int.toString_eq_repr, Int.repr_inj] at htext

/-- The message that a step sends. -/
def messageOf : Step → Text
  | .send message _ => message.plain
  | _ => []

theorem closing_append_inj
    {first second : Step}
    (hname : first.name = second.name)
    (h : first.closing ++ s = second.closing ++ t) :
    messageOf first = messageOf second ∧ s = t := by
  cases first <;> cases second <;> simp [Step.name] at hname
  · simp only [Step.closing, List.append_assoc, List.append_cancel_left_eq] at h
    have hplain : ∀ rest,
        sectionStart.isPrefixOf (Text.ofString "\n  </send>" ++ rest) = false := by
      intro rest
      rfl
    obtain ⟨hmessage, hrest⟩ := enclose_append_inj (hplain s) (hplain t) h
    exact ⟨hmessage, List.append_cancel_left hrest⟩
  · simpa [Step.closing, messageOf] using h
  · simpa [Step.closing, messageOf] using h
  · simpa [Step.closing, messageOf] using h

/-- The attributes of the two flags of an expected message. -/
def shownFlags (optional rrs : Bool) : List (String × Text) :=
  ("optional", attributeValue (.bool optional)) ::
    if rrs then [("rrs", attributeValue (.bool true))] else []

theorem shownFlags_inj :
    ∀ optional rrs other others : Bool,
      shownFlags optional rrs = shownFlags other others → optional = other ∧ rrs = others := by
  decide

theorem shownAttributes_response (status : Int) (optional rrs : Bool) :
    shownAttributes
        (Step.attributes (.receive (.integer status) .null (.bool optional) (.bool rrs))) =
      ("response", attributeValue (.integer status)) :: shownFlags optional rrs := by
  cases rrs <;> rfl

theorem shownAttributes_request (method : Text) (optional rrs : Bool) :
    shownAttributes
        (Step.attributes (.receive .null (.text method) (.bool optional) (.bool rrs))) =
      ("request", method) :: shownFlags optional rrs := by
  cases rrs <;> rfl

/-- A well-typed step is told by its kind, its attributes and its message. -/
theorem eq_of_parts
    {first second : Step}
    (hfirst : first.WellTyped)
    (hsecond : second.WellTyped)
    (hname : first.name = second.name)
    (hattributes : shownAttributes first.attributes = shownAttributes second.attributes)
    (hmessage : messageOf first = messageOf second) :
    first = second := by
  cases hfirst <;> cases hsecond <;> simp [Step.name] at hname
  case send.send message other =>
      rw [show message = other from hmessage]
  case send.resend message other retrans =>
      cases hattributes
  case resend.send message retrans other =>
      cases hattributes
  case resend.resend message retrans other others =>
      have hretrans : attributeValue (.integer retrans) = attributeValue (.integer others) := by
        simpa [Step.attributes, shownAttributes, Value.isNull] using hattributes
      rw [show message = other from hmessage, attributeValue_integer_inj hretrans]
  case response.response status optional rrs other others flags =>
      simp only [shownAttributes_response, List.cons.injEq, Prod.mk.injEq, true_and] at hattributes
      obtain ⟨rfl, rfl⟩ := shownFlags_inj _ _ _ _ hattributes.2
      rw [attributeValue_integer_inj hattributes.1]
  case response.request status optional rrs method others flags =>
      simp [shownAttributes_response, shownAttributes_request] at hattributes
  case request.response method optional rrs status others flags =>
      simp [shownAttributes_response, shownAttributes_request] at hattributes
  case request.request method optional rrs other others flags =>
      simp only [shownAttributes_request, List.cons.injEq, Prod.mk.injEq, true_and] at hattributes
      obtain ⟨rfl, rfl⟩ := shownFlags_inj _ _ _ _ hattributes.2
      rw [hattributes.1]
  case pause.pause milliseconds other =>
      have hwait : attributeValue (.integer milliseconds) = attributeValue (.integer other) := by
        simpa [Step.attributes, shownAttributes, Value.isNull] using hattributes
      rw [attributeValue_integer_inj hwait]
  case play.play capture other =>
      have hcapture : attributeValue (.text capture) = attributeValue (.text other) := by
        simpa [Step.attributes, shownAttributes, Value.isNull] using hattributes
      rw [show capture = other from hcapture]

/-- The element of a well-typed step ends by itself. -/
theorem elementText_append_inj
    {first second : Step}
    (hfirst : first.WellTyped)
    (hsecond : second.WellTyped)
    (h : elementText first ++ s = elementText second ++ t) :
    first = second ∧ s = t := by
  simp only [elementText, List.append_assoc] at h
  obtain ⟨hname, h⟩ := opening_append_inj h
  obtain ⟨hattributes, h⟩ :=
    markup_append_inj (equals_notMem_attributes first) (equals_notMem_attributes second)
      (head?_closing first s) (head?_closing second t) h
  obtain ⟨hmessage, hrest⟩ := closing_append_inj hname h
  exact ⟨eq_of_parts hfirst hsecond hname hattributes hmessage, hrest⟩

theorem elementTexts_cons (step : Step) (rest : List Step) :
    elementTexts (step :: rest) = elementText step ++ ("\n" ++ elementTexts rest) := by
  simp [elementTexts, Text.join]

/-- An element does not begin like the end of a script. -/
theorem elementTexts_cons_ne (step : Step) (rest : List Step) :
    elementTexts (step :: rest) ++ s ≠ Text.ofString "</scenario>\n" := by
  cases step <;> simp [elementTexts_cons, elementText, Step.opening, Text.ofString, Text.ofChars]

/-- The elements of some steps are told from the end of their script. -/
theorem elementTexts_inj
    {steps others : List Step}
    (hsteps : ∀ step ∈ steps, step.WellTyped)
    (hothers : ∀ step ∈ others, step.WellTyped)
    (h : elementTexts steps ++ Text.ofString "</scenario>\n" =
      elementTexts others ++ Text.ofString "</scenario>\n") :
    steps = others := by
  induction steps generalizing others with
  | nil =>
      cases others with
      | nil =>
          rfl
      | cons other later =>
          exact absurd h.symm (elementTexts_cons_ne other later)
  | cons step rest ih =>
      cases others with
      | nil =>
          exact absurd h (elementTexts_cons_ne step rest)
      | cons other later =>
          obtain ⟨hstep, hrest⟩ := List.forall_mem_cons.mp hsteps
          obtain ⟨hother, hlater⟩ := List.forall_mem_cons.mp hothers
          simp only [elementTexts_cons, List.append_assoc] at h
          obtain ⟨hsame, hafter⟩ := elementText_append_inj hstep hother h
          rw [hsame, ih hrest hlater (List.append_cancel_left hafter)]

end Reading

/--
**A script determines its scenario.**  When the scripts of two scenarios are the same text, the
scenarios have the same name and the same steps, whatever marks stand in the name and in the
texts of the steps.
-/
theorem determined_of_render
    {name other : Text} {steps others : List Step} {document : Text}
    (hsteps : ∀ step ∈ steps, step.WellTyped)
    (hothers : ∀ step ∈ others, step.WellTyped)
    (hfirst : render name steps = .ok document)
    (hsecond : render other others = .ok document) :
    name = other ∧ steps = others := by
  have hsame : documentText name steps = documentText other others := by
    rw [render_eq name hsteps] at hfirst
    rw [render_eq other hothers] at hsecond
    split at hfirst
    · split at hsecond
      · rw [Except.ok.inj hfirst, Except.ok.inj hsecond]
      · cases hsecond
    · cases hfirst
  have hplain : ∀ value : Text, ∀ shown ∈ [("name", value)], '=' ∉ shown.1.toList := by
    simp
  have hend : ∀ rest : Text, (Text.ofString ">\n" ++ rest).head? ≠ some (.char ' ') := by
    simp [Text.ofString, Text.ofChars]
  obtain ⟨hname, helements⟩ :=
    markup_append_inj (hplain name) (hplain other) (hend _) (hend _)
      (List.append_cancel_left hsame)
  have hsame : steps = others :=
    elementTexts_inj hsteps hothers (List.append_cancel_left helements)
  simp only [List.cons.injEq, Prod.mk.injEq, true_and, and_true] at hname
  exact ⟨hname, hsame⟩

/-- A message that looks like its own end, a pause, and the beginning of another message. -/
def imitation : Text :=
  "]]>\n  </send>\n  <pause milliseconds=\x221\x22/>\n  <send>\n<![CDATA["

/-- One message is told from the steps that it imitates, under a name with quotes. -/
theorem determined_of_imitation :
    let imitating : List Step := [.send (.text imitation) .null]
    let imitated : List Step :=
      [.send (.text "") .null, .pause (.integer 1), .send (.text "") .null]
    ∃ document other,
      render "a\x22 b=\x22" imitating = .ok document ∧
      render ("a\x22 " ++ Text.ofString "b=\x22") imitating = .ok document ∧
      (Text.ofString "a\x22 b=\x22" = "a\x22 " ++ Text.ofString "b=\x22" ∧
        imitating = [.send (.text imitation) .null]) ∧
      render "a\x22 b=\x22" imitated = .ok other ∧
      document ≠ other := by
  intro imitating imitated
  have himitating : ∀ step ∈ imitating, step.WellTyped := by
    simp only [imitating, List.forall_mem_singleton]
    exact .send _
  have himitated : ∀ step ∈ imitated, step.WellTyped := by
    simp only [imitated, List.forall_mem_cons, List.not_mem_nil, false_imp_iff, implies_true,
      and_true]
    exact ⟨.send _, .pause 1, .send _⟩
  have hshowable : imitating.all Step.isShowable ∧ imitated.all Step.isShowable := by
    decide +kernel
  have hone : ∀ name, render name imitating = .ok (documentText name imitating) := by
    intro name
    rw [render_eq name himitating, if_pos hshowable.1]
  have hthree : ∀ name, render name imitated = .ok (documentText name imitated) := by
    intro name
    rw [render_eq name himitated, if_pos hshowable.2]
  have hname : "a\x22 " ++ Text.ofString "b=\x22" = Text.ofString "a\x22 b=\x22" := by
    decide +kernel
  have hother : render ("a\x22 " ++ Text.ofString "b=\x22") imitating =
      .ok (documentText "a\x22 b=\x22" imitating) := by
    rw [hname, hone]
  refine ⟨_, _, hone _, hother, determined_of_render himitating himitating (hone _) hother,
    hthree _, ?_⟩
  intro hsame
  have hlonger := hthree "a\x22 b=\x22"
  rw [← hsame] at hlonger
  have himitates := determined_of_render himitating himitated (hone "a\x22 b=\x22") hlonger
  exact absurd (congrArg List.length himitates.2) (by decide)

end Script
end CallScript
