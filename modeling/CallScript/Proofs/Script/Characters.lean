import CallScript.Proofs.Script.Pieces

/-!
# Characters of scripts

Not every mark may stand in a document.  A script holds a mark that may not when its name does, or a
text that one of its steps shows; all that is written around these texts, and every number, is made
of marks that may.

Main statements:
* `Script.isLegal_documentText`: a script is legal when its name and the texts of its steps are.
* `Script.readName?_documentText`: the name of a script is read back from its attribute.
-/

namespace CallScript

/-- Holds of the marks that may stand in a document. -/
def Mark.isLegal (mark : Mark) : Bool :=
  mark.code = 0x9 || mark.code = 0xa || mark.code = 0xd ||
    (0x20 ≤ mark.code && mark.code ≤ 0xd7ff) ||
    (0xe000 ≤ mark.code && mark.code ≤ 0xfffd) ||
    (0x10000 ≤ mark.code && mark.code ≤ 0x10ffff)

/-- Holds of the texts that may stand in a document. -/
def Text.isLegal (t : Text) : Bool :=
  t.all Mark.isLegal

/-- Characters from the space to the tilde are legal. -/
theorem Mark.isLegal_of_le
    {c : Char}
    (hleast : 0x20 ≤ c.toNat)
    (hmost : c.toNat ≤ 0x7e) :
    (Mark.char c).isLegal = true := by
  have hcode : (Mark.char c).code = c.toNat := by
    rfl
  simp only [Mark.isLegal, hcode, Bool.or_eq_true, Bool.and_eq_true, decide_eq_true_eq]
  omega

theorem Mark.isLegal_of_isDigit
    {c : Char}
    (h : c.isDigit = true) :
    (Mark.char c).isLegal = true := by
  obtain ⟨hleast, hmost⟩ := Char.isDigit_iff_toNat.mp h
  exact isLegal_of_le (le_trans (by decide) hleast) (le_trans hmost (by decide))

namespace Text

theorem isLegal_append (s t : Text) :
    isLegal (s ++ t) = (isLegal s && isLegal t) := by
  exact List.all_append

theorem isLegal_ofString_append (s t : String) :
    isLegal (ofString (s ++ t)) = (isLegal (ofString s) && isLegal (ofString t)) := by
  rw [← isLegal_append]
  simp [ofString, ofChars]

theorem isLegal_ofString_iff {s : String} :
    isLegal (ofString s) = true ↔ ∀ c ∈ s.toList, (Mark.char c).isLegal = true := by
  simp [isLegal, ofString, ofChars]

theorem isLegal_ofList_iff {cs : List Char} :
    isLegal (ofString (String.ofList cs)) = true ↔ ∀ c ∈ cs, (Mark.char c).isLegal = true := by
  rw [isLegal_ofString_iff, String.toList_ofList]

end Text

namespace Decimal

open Text

theorem isLegal_of_mem_toDigits
    {n : Nat} {c : Char}
    (h : c ∈ Nat.toDigits 10 n) :
    (Mark.char c).isLegal = true :=
  Mark.isLegal_of_isDigit (Nat.isDigit_of_mem_toDigits (by decide) (by decide) h)

theorem isLegal_of_mem_replicate
    {count : Nat} {c : Char}
    (h : c ∈ List.replicate count '0') :
    (Mark.char c).isLegal = true := by
  rw [List.eq_of_mem_replicate h]
  decide

/-- The shortest digits of a number are legal. -/
theorem isLegal_of_mem_shortest
    {mantissa : Nat} {exponent : Int} {c : Char}
    (h : c ∈ (shortest mantissa exponent).digits) :
    (Mark.char c).isLegal = true := by
  have hgrid : ∃ n unit, shortest mantissa exponent = digitsOf n unit := by
    unfold shortest
    dsimp only
    generalize hfound : List.findSome? _ (List.range 17) = found
    cases found with
    | none =>
        exact ⟨0, 0, rfl⟩
    | some d =>
        obtain ⟨count, _, hcount⟩ := List.exists_of_findSome?_eq_some hfound
        obtain ⟨n, _, hd⟩ := Option.map_eq_some_iff.mp hcount
        exact ⟨n, _, hd.symm⟩
  obtain ⟨n, unit, hshortest⟩ := hgrid
  rw [hshortest] at h
  have hmem : c ∈ Nat.toDigits 10 n := by
    exact List.mem_reverse.mp ((List.dropWhile_sublist _).mem (List.mem_reverse.mp h))
  exact isLegal_of_mem_toDigits hmem

section Layouts

variable {d : Digits}

theorem isLegal_positional
    (hdigits : ∀ c ∈ d.digits, (Mark.char c).isLegal = true) :
    isLegal (ofString (positional plain d)) = true := by
  unfold positional
  dsimp only
  split
  · rw [isLegal_ofString_append, Bool.and_eq_true]
    refine ⟨by decide, isLegal_ofList_iff.mpr (List.forall_mem_append.mpr ⟨?_, hdigits⟩)⟩
    exact fun c => isLegal_of_mem_replicate
  · split
    · rw [isLegal_ofString_append, Bool.and_eq_true]
      refine ⟨isLegal_ofList_iff.mpr (List.forall_mem_append.mpr ⟨hdigits, ?_⟩), by decide⟩
      exact fun c => isLegal_of_mem_replicate
    · rw [isLegal_ofString_append, isLegal_ofString_append, Bool.and_eq_true, Bool.and_eq_true]
      refine ⟨⟨isLegal_ofList_iff.mpr fun c hc => ?_, by decide⟩,
        isLegal_ofList_iff.mpr fun c hc => ?_⟩
      · exact hdigits c (List.mem_of_mem_take hc)
      · exact hdigits c (List.mem_of_mem_drop hc)

theorem isLegal_padded (width n : Nat) :
    isLegal (ofString (padded width n)) = true := by
  refine isLegal_ofList_iff.mpr (List.forall_mem_append.mpr ⟨?_, ?_⟩)
  · exact fun c => isLegal_of_mem_replicate
  · exact fun c => isLegal_of_mem_toDigits

theorem isLegal_scientific
    (hdigits : ∀ c ∈ d.digits, (Mark.char c).isLegal = true) :
    isLegal (ofString (scientific plain d)) = true := by
  unfold scientific
  dsimp only
  simp only [isLegal_ofString_append, isLegal_padded, Bool.and_eq_true, and_true]
  refine ⟨⟨?_, by decide⟩, by split <;> decide⟩
  cases hd : d.digits with
  | nil =>
      decide
  | cons first others =>
      rw [hd] at hdigits
      obtain ⟨hfirst, hothers⟩ := List.forall_mem_cons.mp hdigits
      have hpoint : (Mark.char '.').isLegal = true := by
        decide
      cases others with
      | nil =>
          exact isLegal_ofList_iff.mpr hdigits
      | cons second rest =>
          exact isLegal_ofList_iff.mpr
            (List.forall_mem_cons.mpr ⟨hfirst, List.forall_mem_cons.mpr ⟨hpoint, hothers⟩⟩)

/-- Every number has a legal text. -/
theorem isLegal_render (x : Binary64) :
    isLegal (ofString (render plain x)) = true := by
  have hsign (negative : Bool) : isLegal (ofString (if negative then "-" else "")) = true := by
    cases negative <;> decide
  cases x with
  | nan =>
      decide
  | infinite negative =>
      rw [render, isLegal_ofString_append, hsign]
      decide
  | finite negative mantissa exponent =>
      have hdigits : ∀ c ∈ (shortest mantissa exponent).digits, (Mark.char c).isLegal = true :=
        fun c => isLegal_of_mem_shortest
      rw [render, isLegal_ofString_append, hsign, Bool.true_and]
      split
      · decide
      · dsimp only
        split
        · exact isLegal_positional hdigits
        · exact isLegal_scientific hdigits

end Layouts

end Decimal

namespace Value

open Text

/-- Holds of legal texts, of numbers, of truth values and of nothing. -/
def IsLegal : Value → Prop
  | .text t => Text.isLegal t = true
  | .null | .bool _ | .integer _ | .real _ => True
  | _ => False

theorem isLegal_toString (n : Int) :
    Text.isLegal (ofString (toString n)) = true := by
  have hrepr (n : Nat) : Text.isLegal (ofString n.repr) = true := by
    rw [isLegal_ofString_iff, Nat.toList_repr]
    exact fun c => Decimal.isLegal_of_mem_toDigits
  cases n with
  | ofNat n =>
      exact hrepr n
  | negSucc n =>
      have hsign : toString (Int.negSucc n) = "-" ++ (n + 1).repr := by
        rfl
      rw [hsign, isLegal_ofString_append, hrepr]
      decide

/-- A legal value has a legal text. -/
theorem IsLegal.plain
    {value : Value}
    (h : value.IsLegal) :
    Text.isLegal value.plain = true := by
  cases value with
  | text t =>
      exact h
  | null =>
      decide
  | bool b =>
      cases b <;> decide
  | integer n =>
      exact isLegal_toString n
  | real x =>
      exact Decimal.isLegal_render x
  | _ =>
      cases h

end Value

namespace Script

open Text

theorem isLegal_escapeMark (mark : Mark) :
    isLegal (escapeMark mark) = mark.isLegal := by
  rcases escapeMark_cases mark with ⟨hplain, _⟩ | ⟨entity, hentity, rfl, hwritten⟩
  · simp [hplain, isLegal]
  · rw [hwritten]
    revert entity
    decide

theorem isLegal_escape (t : Text) :
    isLegal (escape t) = isLegal t := by
  induction t with
  | nil =>
      rfl
  | cons mark rest ih =>
      have hcons : escape (mark :: rest) = escapeMark mark ++ escape rest := by
        rfl
      rw [hcons, isLegal_append, isLegal_escapeMark, ih]
      rfl

theorem isLegal_divideEnds (t : Text) :
    isLegal (divideEnds t) = isLegal t := by
  fun_induction divideEnds t with
  | case1 =>
      rfl
  | case2 rest ih =>
      have hbracket : (Mark.char ']').isLegal = true ∧ (Mark.char '>').isLegal = true := by
        decide
      have hdivision : isLegal (sectionEnd ++ sectionStart) = true := by
        decide
      have hdivided :
          isLegal (sectionEnd ++ sectionStart ++ .char '>' :: divideEnds rest) =
            isLegal (divideEnds rest) := by
        rw [isLegal_append, hdivision, Bool.true_and, isLegal, List.all_cons, hbracket.2]
        rfl
      simp only [isLegal, List.all_cons, hbracket, Bool.true_and] at hdivided ih ⊢
      rw [hdivided, ih]
  | case3 mark rest hinside ih =>
      simp only [isLegal, List.all_cons] at ih ⊢
      rw [ih]

theorem isLegal_enclose (t : Text) :
    isLegal (enclose t) = isLegal t := by
  have hstart : isLegal sectionStart = true := by
    decide
  have hend : isLegal sectionEnd = true := by
    decide
  rw [enclose, isLegal_append, isLegal_append, isLegal_divideEnds, hstart, hend, Bool.true_and,
    Bool.and_true]

/-- Attributes are legal when what they say is legal, as long as their names are. -/
theorem isLegal_markup
    {shown : List (String × Text)}
    (hnames : ∀ pair ∈ shown, isLegal (ofString pair.1) = true) :
    isLegal (markup shown) = shown.all fun pair => isLegal pair.2 := by
  induction shown with
  | nil =>
      rfl
  | cons pair rest ih =>
      obtain ⟨hname, hrest⟩ := List.forall_mem_cons.mp hnames
      have hspace : isLegal (ofString " ") = true := by
        decide
      have hequals : isLegal (ofString "=\x22") = true := by
        decide
      have hquote : isLegal (ofString "\x22") = true := by
        decide
      rw [markup, List.all_cons, ← ih hrest]
      simp only [isLegal_append, isLegal_escape, hspace, hequals, hquote, hname, Bool.true_and,
        Bool.and_true]

end Script

/-- The texts that the element of a step shows. -/
def Step.texts (step : Step) : List Text :=
  Script.messageOf step :: (Script.shownAttributes step.attributes).map Prod.snd

namespace Script

open Text

/-- The element of a step is legal when the texts that it shows are. -/
theorem isLegal_elementText (step : Step) :
    isLegal (elementText step) = step.texts.all isLegal := by
  have hopening : isLegal (ofString step.opening) = true := by
    cases step <;> dsimp only [Step.opening] <;> decide
  have hnames : ∀ pair ∈ shownAttributes step.attributes, isLegal (ofString pair.1) = true := by
    intro pair hpair
    obtain ⟨given, hgiven, rfl⟩ := exists_of_mem_shownAttributes hpair
    cases step with
    | receive response request optional rrs =>
        simp only [Step.attributes, List.mem_cons, List.not_mem_nil, or_false] at hgiven
        rcases hgiven with rfl | rfl | rfl | rfl <;> dsimp only <;> decide
    | _ =>
        rw [List.mem_singleton.mp hgiven]
        dsimp only
        decide
  have hclosing : isLegal step.closing = isLegal (messageOf step) := by
    cases step with
    | send message retrans =>
        have hafter : isLegal (ofString ">\n") = true := by
          decide
        have hbefore : isLegal (ofString "\n  </send>") = true := by
          decide
        rw [Step.closing, isLegal_append, isLegal_append, isLegal_enclose, hafter, hbefore,
          Bool.true_and, Bool.and_true]
        rfl
    | _ =>
        dsimp only [Step.closing, messageOf]
        decide
  rw [elementText, isLegal_append, isLegal_append, hopening, isLegal_markup hnames, hclosing,
    Bool.true_and, Bool.and_comm, Step.texts, List.all_cons, List.all_map]
  rfl

/-- A script is legal when its name and the texts of its steps are. -/
theorem isLegal_documentText (name : Text) (steps : List Step) :
    isLegal (documentText name steps) =
      (isLegal name && steps.all fun step => step.texts.all isLegal) := by
  have helements :
      isLegal (elementTexts steps) = steps.all fun step => step.texts.all isLegal := by
    induction steps with
    | nil =>
        rfl
    | cons step rest ih =>
        have hcons :
            elementTexts (step :: rest) = elementText step ++ "\n" ++ elementTexts rest := by
          rfl
        have hbreak : isLegal (ofString "\n") = true := by
          decide
        rw [hcons, isLegal_append, isLegal_append, isLegal_elementText, hbreak, ih, Bool.and_true,
          List.all_cons]
  have hstart : isLegal (ofString "<?xml version=\x221.0\x22?>\n<scenario") = true := by
    decide
  have hopened : isLegal (ofString ">\n") = true := by
    decide
  have hend : isLegal (ofString "</scenario>\n") = true := by
    decide
  have hnames : ∀ pair ∈ [("name", name)], isLegal (ofString pair.1) = true := by
    exact List.forall_mem_singleton.mpr (by dsimp only; decide)
  rw [documentText, isLegal_append, isLegal_append, isLegal_append, isLegal_append,
    isLegal_markup hnames, helements, hstart, hopened, hend]
  simp

section Names

/-- The marks that count as spaces inside an attribute. -/
def blanks : List Mark :=
  [.char '\t', .char '\n', .char '\r']

/-- What a reader makes of the text inside an attribute before it looks for entities. -/
def normalized (t : Text) : Text :=
  t.map fun mark => if mark ∈ blanks then .char ' ' else mark

/-- The name that a reader finds in a script: what its first attribute says. -/
def readName? (document : Text) : Option Text :=
  let start : Text := "<?xml version=\x221.0\x22?>\n<scenario name=\x22"
  if start.isPrefixOf document then
    (before? (.char '\x22') (document.drop start.length)).bind fun found =>
      unescape? (normalized found.1)
  else
    none

/-- Escaped text holds marks of the text and of entities. -/
theorem mem_escape
    {t : Text} {mark : Mark}
    (h : mark ∈ escape t) :
    mark ∈ t ∨ ∃ entity ∈ entities, mark ∈ .char '&' :: ofString (entity.2 ++ ";") := by
  obtain ⟨other, hother, hmark⟩ := List.mem_flatMap.mp h
  rcases escapeMark_cases other with ⟨hplain, _⟩ | ⟨entity, hentity, _, hwritten⟩
  · rw [hplain, List.mem_singleton] at hmark
    exact .inl (hmark ▸ hother)
  · rw [hwritten] at hmark
    exact .inr ⟨entity, hentity, hmark⟩

/-- Text without tabs and ends of lines is not changed by normalization, escaped or not. -/
theorem normalized_escape
    {t : Text}
    (h : ∀ mark ∈ t, mark ∉ blanks) :
    normalized (escape t) = escape t := by
  have hplain : ∀ mark ∈ escape t, mark ∉ blanks := by
    intro mark hmark
    rcases mem_escape hmark with htext | ⟨entity, hentity, hwritten⟩
    · exact h mark htext
    · have hentities : ∀ entity ∈ entities, ∀ mark ∈ blanks,
          mark ∉ .char '&' :: ofString (entity.2 ++ ";") := by
        decide
      exact fun hblank => hentities entity hentity mark hblank hwritten
  unfold normalized
  refine (List.map_congr_left fun mark hmark => ?_).trans (List.map_id _)
  exact if_neg (hplain mark hmark)

/-- The name of a script is read back from its attribute, unless it holds a tab or ends a line. -/
theorem readName?_documentText
    {name : Text}
    (h : ∀ mark ∈ name, mark ∉ blanks)
    (steps : List Step) :
    readName? (documentText name steps) = some name := by
  have hstart :
      documentText name steps =
        ofString "<?xml version=\x221.0\x22?>\n<scenario name=\x22" ++
          (escape name ++ .char '\x22' ::
            (ofString ">\n" ++ (elementTexts steps ++ ofString "</scenario>\n"))) := by
    rw [documentText, markup_cons_append]
    simp [markup, ofString, ofChars]
  rw [readName?, hstart, if_pos (by simp), List.drop_left, before?_append (quote_notMem_escape name),
    Option.bind_some, normalized_escape h, unescape?_escape]

end Names

end Script
end CallScript
