import CallScript.Script.Document
import Mathlib.Data.List.Basic

/-!
# Reading scripts back

Text that a caller gives stands in a script inside attributes, where it is escaped, and in
sections.  Both forms can be read back, whatever the text holds.

Main statements:
* `unescape?_escape`: escaped text is read back.
* `escape_eq_replaced`: escaping in one pass is replacing one character after the other.
* `discloseFirst?_divideEnds`: text in sections is read back, as long as no other section follows.
* `text_reads_back`: text is read back from an attribute and from the sections that hold it.
-/

namespace CallScript

/-- Two texts before the same mark are equal when neither of them holds it. -/
theorem Text.append_cons_inj
    {first second s t : Text} {mark : Mark}
    (hfirst : mark ∉ first)
    (hsecond : mark ∉ second)
    (h : first ++ mark :: s = second ++ mark :: t) :
    first = second ∧ s = t := by
  rcases List.append_eq_append_iff.mp h with ⟨gap, rfl, hgap⟩ | ⟨gap, rfl, hgap⟩
  · cases gap with
    | nil =>
        simpa using hgap
    | cons other rest =>
        cases hgap
        simp at hsecond
  · cases gap with
    | nil =>
        simpa using hgap.symm
    | cons other rest =>
        cases hgap
        simp at hfirst

theorem Text.ofString_inj
    {s t : String}
    (h : Text.ofString s = Text.ofString t) :
    s = t := by
  have hmarks : s.toList.map Mark.char = t.toList.map Mark.char := h
  have hchars : s.toList = t.toList := by
    exact List.map_injective_iff.mpr (fun _ _ => Mark.char.inj) hmarks
  exact String.toList_inj.mp hchars

theorem Text.char_mem_ofString
    {c : Char} {s : String} :
    .char c ∈ Text.ofString s ↔ c ∈ s.toList := by
  simp [Text.ofString, Text.ofChars]

namespace Script

section Escaping

/-- A character has no entity, or it is one of the four that have. -/
theorem entity_cases (c : Char) :
    (entities.lookup c = none ∧ c ≠ '&' ∧ c ≠ '<' ∧ c ≠ '>' ∧ c ≠ '\x22') ∨
      c = '&' ∨ c = '<' ∨ c = '>' ∨ c = '\x22' := by
  simp only [entities, List.lookup_cons, List.lookup_nil]
  grind

theorem unescape?_escapeMark (mark : Mark) (rest : Text) :
    unescape? (escapeMark mark ++ rest) = (unescape? rest).map (mark :: ·) := by
  cases mark with
  | half n =>
      rfl
  | char c =>
      rcases entity_cases c with ⟨hnone, hamp, _⟩ | rfl | rfl | rfl | rfl
      · simp [escapeMark, escapeChar, hnone, Text.ofChars, unescape?, Mark.satisfies, hamp]
      · rfl
      · rfl
      · rfl
      · rfl

/-- Escaped text is read back. -/
theorem unescape?_escape (t : Text) :
    unescape? (escape t) = some t := by
  induction t with
  | nil =>
      rfl
  | cons mark rest ih =>
      have hcons : escape (mark :: rest) = escapeMark mark ++ escape rest := by
        rfl
      rw [hcons, unescape?_escapeMark, ih]
      rfl

theorem escape_inj
    {s t : Text}
    (h : escape s = escape t) :
    s = t := by
  have hread : some s = some t := by
    rw [← unescape?_escape, h, unescape?_escape]
  exact Option.some.inj hread

/-- A mark stands for itself, or an ampersand and the name of its entity stand for it. -/
theorem escapeMark_cases (mark : Mark) :
    (escapeMark mark = [mark] ∧ ∀ entity ∈ entities, mark ≠ .char entity.1) ∨
      ∃ entity ∈ entities,
        mark = .char entity.1 ∧
        escapeMark mark = .char '&' :: Text.ofString (entity.2 ++ ";") := by
  cases mark with
  | half n =>
      exact .inl ⟨rfl, by simp⟩
  | char c =>
      rcases entity_cases c with ⟨hnone, hplain⟩ | rfl | rfl | rfl | rfl
      · refine .inl ⟨?_, by simpa [entities] using hplain⟩
        simp [escapeMark, escapeChar, hnone, Text.ofChars]
      · exact .inr ⟨('&', "amp"), by decide, rfl, rfl⟩
      · exact .inr ⟨('<', "lt"), by decide, rfl, rfl⟩
      · exact .inr ⟨('>', "gt"), by decide, rfl, rfl⟩
      · exact .inr ⟨('\x22', "quot"), by decide, rfl, rfl⟩

/-- The name of an entity holds no character that has an entity. -/
theorem notMem_entity :
    ∀ entity ∈ entities, ∀ other ∈ entities,
      .char other.1 ∉ Text.ofString (entity.2 ++ ";") := by
  decide

/-- Escaped text holds no character that has an entity, but for the ampersands of entities. -/
theorem notMem_escape
    (entity : Char × String)
    (hentity : entity ∈ entities)
    (hamp : entity.1 ≠ '&')
    (t : Text) :
    .char entity.1 ∉ escape t := by
  intro hmem
  obtain ⟨mark, _, hmark⟩ := List.mem_flatMap.mp hmem
  rcases escapeMark_cases mark with ⟨hplain, hnone⟩ | ⟨other, hother, _, hwritten⟩
  · rw [hplain, List.mem_singleton] at hmark
    exact hnone entity hentity hmark.symm
  · rw [hwritten, List.mem_cons, Mark.char.injEq] at hmark
    exact hmark.elim hamp (notMem_entity other hother entity hentity)

/-- Escaped text never holds a double quote. -/
theorem quote_notMem_escape (t : Text) :
    .char '\x22' ∉ escape t :=
  notMem_escape ('\x22', "quot") (by decide) (by decide) t

/-- Every ampersand in escaped text starts an entity. -/
theorem entity_of_escape
    {t before behind : Text}
    (h : escape t = before ++ .char '&' :: behind) :
    ∃ entity ∈ entities, Text.ofString (entity.2 ++ ";") <+: behind := by
  induction t generalizing before with
  | nil =>
      simp [escape] at h
  | cons mark rest ih =>
      have hcons : escape (mark :: rest) = escapeMark mark ++ escape rest := by
        rfl
      rw [hcons] at h
      rcases escapeMark_cases mark with ⟨hplain, hnone⟩ | ⟨entity, hentity, _, hwritten⟩
      · rw [hplain] at h
        cases before with
        | nil =>
            cases h
            exact absurd rfl (hnone ('&', "amp") (by decide))
        | cons first others =>
            exact ih (List.cons.inj h).2
      · rw [hwritten] at h
        cases before with
        | nil =>
            cases h
            exact ⟨entity, hentity, List.prefix_append _ _⟩
        | cons first others =>
            have hname := notMem_entity entity hentity ('&', "amp") (by decide)
            rcases List.append_eq_append_iff.mp (List.cons.inj h).2 with
              ⟨gap, rfl, hgap⟩ | ⟨gap, hgap, hbehind⟩
            · exact ih hgap
            · cases gap with
              | nil =>
                  exact @ih [] hbehind.symm
              | cons inside more =>
                  cases hbehind
                  simp [hgap] at hname

/-- The text with the entity of a character in each of its places. -/
def replaced (c : Char) (name : String) (t : Text) : Text :=
  t.flatMap fun mark => if mark = .char c then Text.ofString ("&" ++ name ++ ";") else [mark]

theorem replaced_append (c : Char) (name : String) (first second : Text) :
    replaced c name (first ++ second) = replaced c name first ++ replaced c name second := by
  exact List.flatMap_append

/-- What is put in place of one character is not replaced again. -/
theorem escapeMark_eq_replaced (mark : Mark) :
    escapeMark mark =
      replaced '\x22' "quot"
        (replaced '<' "lt" (replaced '>' "gt" (replaced '&' "amp" [mark]))) := by
  rcases escapeMark_cases mark with ⟨hplain, hnone⟩ | ⟨entity, hentity, rfl, _⟩
  · simp [entities] at hnone
    simp [hplain, replaced, hnone]
  · revert entity
    decide

/-- Text is escaped when its characters are replaced one after the other, the ampersand first. -/
theorem escape_eq_replaced (t : Text) :
    escape t =
      replaced '\x22' "quot" (replaced '<' "lt" (replaced '>' "gt" (replaced '&' "amp" t))) := by
  induction t with
  | nil =>
      rfl
  | cons mark rest ih =>
      calc
        escape (mark :: rest) = escapeMark mark ++ escape rest := by
          rfl
        _ = _ := by
          rw [ih, escapeMark_eq_replaced, ← replaced_append, ← replaced_append, ← replaced_append,
            ← replaced_append, List.singleton_append]

end Escaping

section Sections

/--
The text of the adjacent sections that begin before a text, and what follows them.  The text
starts inside the first section.
-/
def discloseFirst? : Text → Option (Text × Text)
  | [] => none
  | .char ']' :: .char ']' :: .char '>' :: rest =>
      if sectionStart.isPrefixOf rest then
        discloseFirst? (rest.drop sectionStart.length)
      else
        some ([], rest)
  | mark :: rest => (discloseFirst? rest).map fun found => (mark :: found.1, found.2)
termination_by t => t.length
decreasing_by
  · simp only [List.length_drop, List.length_cons]
    omega
  · simp

theorem sectionEnd_append (t : Text) :
    sectionEnd ++ t = .char ']' :: .char ']' :: .char '>' :: t := by
  rfl

theorem discloseFirst?_end (rest : Text) :
    discloseFirst? (sectionEnd ++ rest) =
      if sectionStart.isPrefixOf rest then
        discloseFirst? (rest.drop sectionStart.length)
      else
        some ([], rest) := by
  rw [sectionEnd_append, discloseFirst?]

theorem discloseFirst?_cons
    {mark : Mark} {rest : Text}
    (hinside : ∀ others, mark :: rest ≠ sectionEnd ++ others) :
    discloseFirst? (mark :: rest) =
      (discloseFirst? rest).map fun found => (mark :: found.1, found.2) := by
  rw [discloseFirst?]
  rintro others rfl rfl
  exact hinside others rfl

theorem eq_head_of_divideEnds
    {mark first : Mark} {t rest others : Text}
    (h : divideEnds (mark :: t) ++ rest = first :: others) :
    mark = first := by
  unfold divideEnds at h
  split at h
  · cases ‹mark :: t = []›
  · grind
  · grind

/-- Dividing the ends in a text makes no end where the text has none. -/
theorem end_of_divideEnds
    {mark : Mark} {t rest others : Text}
    (h : mark :: (divideEnds t ++ (sectionEnd ++ rest)) = sectionEnd ++ others) :
    ∃ later, mark :: t = sectionEnd ++ later := by
  simp only [sectionEnd_append, List.cons.injEq] at h ⊢
  obtain ⟨rfl, h⟩ := h
  cases t with
  | nil =>
      simp [divideEnds] at h
  | cons second t =>
      obtain rfl := eq_head_of_divideEnds h
      unfold divideEnds at h
      split at h
      · simp at h
      · simp at h
      · next heq =>
          cases heq
          simp only [List.cons_append, List.cons.injEq, true_and] at h
          cases t with
          | nil =>
              simp [divideEnds] at h
          | cons third t =>
              obtain rfl := eq_head_of_divideEnds h
              exact ⟨t, rfl, rfl⟩

/-- Text whose ends are divided is read back up to the end that stands behind it. -/
theorem discloseFirst?_divideEnds
    (t : Text)
    {rest : Text}
    (hrest : sectionStart.isPrefixOf rest = false) :
    discloseFirst? (divideEnds t ++ (sectionEnd ++ rest)) = some (t, rest) := by
  fun_induction divideEnds t with
  | case1 =>
      rw [List.nil_append, discloseFirst?_end, hrest]
      rfl
  | case2 t ih =>
      -- The new section begins with the rest of the divided end.
      have hnew :
          discloseFirst? (.char '>' :: (divideEnds t ++ (sectionEnd ++ rest))) =
            some (.char '>' :: t, rest) := by
        rw [discloseFirst?_cons (by simp [sectionEnd_append]), ih]
        rfl
      have hend :
          discloseFirst?
              (sectionEnd ++
                (sectionStart ++ .char '>' :: (divideEnds t ++ (sectionEnd ++ rest)))) =
            some (.char '>' :: t, rest) := by
        rw [discloseFirst?_end, if_pos (by simp), List.drop_left, hnew]
      simp only [List.append_assoc, List.cons_append]
      rw [discloseFirst?_cons (by simp [sectionEnd_append]),
        discloseFirst?_cons (by simp [sectionEnd_append]), hend]
      rfl
  | case3 mark t hinside ih =>
      have hmark :
          ∀ others, mark :: (divideEnds t ++ (sectionEnd ++ rest)) ≠ sectionEnd ++ others := by
        intro others h
        obtain ⟨later, hend⟩ := end_of_divideEnds h
        simp only [sectionEnd_append, List.cons.injEq] at hend
        exact hinside later hend.1 hend.2
      rw [List.cons_append, discloseFirst?_cons hmark, ih]
      rfl

/-- Text in sections in front of anything but a section tells both apart. -/
theorem enclose_append_inj
    {s t rest others : Text}
    (hrest : sectionStart.isPrefixOf rest = false)
    (hothers : sectionStart.isPrefixOf others = false)
    (h : enclose s ++ rest = enclose t ++ others) :
    s = t ∧ rest = others := by
  simp only [enclose, List.append_assoc, List.append_cancel_left_eq] at h
  have hread : some (s, rest) = some (t, others) := by
    rw [← discloseFirst?_divideEnds s hrest, h, discloseFirst?_divideEnds t hothers]
  simpa using hread

/-- Text up to an end of a section holds no other end, not even one that reaches into it. -/
theorem upToEnd?_eq_some
    {t body rest : Text}
    (h : upToEnd? t = some (body, rest)) :
    t = body ++ (sectionEnd ++ rest) ∧
      ∀ before behind, body ++ sectionEnd = before ++ (sectionEnd ++ behind) → behind = [] := by
  fun_induction upToEnd? t generalizing body with
  | case1 =>
      cases h
  | case2 others =>
      cases h
      refine ⟨rfl, fun before behind hend => ?_⟩
      have hlength := congrArg List.length hend
      simp only [List.length_append, List.length_nil] at hlength
      exact List.length_eq_zero_iff.mp (by omega)
  | case3 mark others hinside ih =>
      obtain ⟨found, hfound, hparts⟩ := Option.map_eq_some_iff.mp h
      obtain ⟨rfl, rfl⟩ := Prod.mk.inj hparts
      obtain ⟨rfl, hfirst⟩ := ih hfound
      refine ⟨rfl, fun before behind hend => ?_⟩
      cases before with
      | nil =>
          have hothers : found.1 ++ sectionEnd = .char ']' :: .char '>' :: behind := by
            exact (List.cons.inj hend).2
          refine absurd ?_ (hinside (behind ++ found.2) (List.cons.inj hend).1)
          rw [← List.append_assoc, hothers]
          rfl
      | cons first earlier =>
          exact hfirst earlier behind (List.cons.inj hend).2

/-- A section is read up to the first end in it, and then the sections that follow it. -/
theorem readSections?_start (fuel : Nat) (t : Text) :
    readSections? (fuel + 1) (sectionStart ++ t) =
      (upToEnd? t).bind fun found => (readSections? fuel found.2).map (found.1 ++ ·) := by
  rw [readSections?, if_pos (by simp), List.drop_left]
  · cases upToEnd? t <;> rfl
  · simp [sectionStart, Text.ofString, Text.ofChars]

/-- Sections with nothing behind them are the sections that fill their text. -/
theorem readSections?_of_discloseFirst?
    {t content : Text} {fuel : Nat}
    (h : discloseFirst? t = some (content, []))
    (hfuel : t.length ≤ fuel) :
    readSections? (fuel + 1) (sectionStart ++ t) = some content := by
  rw [readSections?_start]
  fun_induction discloseFirst? t generalizing content fuel with
  | case1 =>
      cases h
  | case2 rest hnext ih =>
      obtain ⟨inside, rfl⟩ := List.isPrefixOf_iff_prefix.mp hnext
      simp only [List.length_cons, List.length_append] at hfuel
      rw [List.drop_left] at h ih
      obtain ⟨fuel, rfl⟩ : ∃ less, fuel = less + 1 := ⟨fuel - 1, by omega⟩
      rw [upToEnd?, Option.bind_some, readSections?_start, ih h (by omega)]
      rfl
  | case3 rest hlast =>
      cases h
      cases fuel <;> rfl
  | case4 mark rest hinside ih =>
      obtain ⟨found, hfound, hcontent⟩ := Option.map_eq_some_iff.mp h
      obtain ⟨rfl, hnothing⟩ := Prod.mk.inj hcontent
      have hwhole : discloseFirst? rest = some (found.1, []) := by
        rw [hfound, ← hnothing]
      have hrest := ih hwhole (Nat.le_of_lt hfuel)
      obtain ⟨divided, hend, hbody⟩ := Option.bind_eq_some_iff.mp hrest
      obtain ⟨others, hothers, hsame⟩ := Option.map_eq_some_iff.mp hbody
      rw [upToEnd?, hend, Option.map_some, Option.bind_some, hothers, Option.map_some,
        List.cons_append, hsame]
      exact hinside

/-- Texts whose sections, each up to the first end in it, stand one after the other. -/
inductive Adjacent : Text → List Text → Prop
  | done : Adjacent [] []
  | section {content rest : Text} {contents : List Text}
      (first : ∀ before behind,
        content ++ sectionEnd = before ++ (sectionEnd ++ behind) → behind = [])
      (others : Adjacent rest contents) :
      Adjacent (sectionStart ++ (content ++ (sectionEnd ++ rest))) (content :: contents)

/-- What is read in sections stands in adjacent sections. -/
theorem adjacent_of_readSections?
    {fuel : Nat} {t content : Text}
    (h : readSections? fuel t = some content) :
    ∃ contents, Adjacent t contents ∧ contents.flatten = content := by
  fun_induction readSections? fuel t generalizing content with
  | case1 =>
      cases h
      exact ⟨[], .done, rfl⟩
  | case4 fuel t hsome hstart body rest hend ih =>
      obtain ⟨others, hothers, rfl⟩ := Option.map_eq_some_iff.mp h
      obtain ⟨contents, hadjacent, rfl⟩ := ih hothers
      obtain ⟨inside, rfl⟩ := List.isPrefixOf_iff_prefix.mp hstart
      rw [List.drop_left] at hend
      obtain ⟨rfl, hfirst⟩ := upToEnd?_eq_some hend
      exact ⟨body :: contents, .section hfirst hadjacent, rfl⟩
  | _ =>
      cases h

/-- Text in sections is read back. -/
theorem disclose?_enclose (t : Text) :
    disclose? (enclose t) = some t := by
  have hread : discloseFirst? (divideEnds t ++ sectionEnd) = some (t, []) := by
    rw [← List.append_nil sectionEnd]
    exact discloseFirst?_divideEnds t rfl
  have hlength :
      (enclose t).length = (divideEnds t ++ sectionEnd).length + 8 + 1 := by
    simp [enclose, sectionStart, Text.ofString, Text.ofChars]
  rw [disclose?, hlength, enclose, List.append_assoc]
  exact readSections?_of_discloseFirst? hread (Nat.le_add_right _ 8)

end Sections

/-- Holds of texts without brackets and quotes in which every ampersand starts an entity. -/
structure IsEscaped (written : Text) : Prop where
  below : .char '<' ∉ written
  above : .char '>' ∉ written
  quote : .char '\x22' ∉ written
  entity : ∀ before behind, written = before ++ .char '&' :: behind →
    ∃ entity ∈ entities, Text.ofString (entity.2 ++ ";") <+: behind

/--
**Text is read back.**  Text inside an attribute is what replacing its characters one after the
other leaves; it holds no bracket and no quote, every ampersand in it starts an entity, and reading
the entities in one pass gives the text.  Text in sections fills adjacent sections, each of which
ends at the first end in it, and what these hold is the text.
-/
theorem text_reads_back (t : Text) :
    (∃ written,
      attributeText (.text t) = .ok written ∧
      written =
        replaced '\x22' "quot"
          (replaced '<' "lt" (replaced '>' "gt" (replaced '&' "amp" t))) ∧
      IsEscaped written ∧
      unescape? written = some t) ∧
    disclose? (enclose t) = some t ∧
    ∃ contents, Adjacent (enclose t) contents ∧ contents.flatten = t := by
  have hread := disclose?_enclose t
  refine ⟨⟨escape t, rfl, escape_eq_replaced t, ?_, unescape?_escape t⟩, hread,
    adjacent_of_readSections? hread⟩
  constructor
  · exact notMem_escape ('<', "lt") (by decide) (by decide) t
  · exact notMem_escape ('>', "gt") (by decide) (by decide) t
  · exact quote_notMem_escape t
  · intro before behind hwritten
    exact entity_of_escape hwritten

end Script
end CallScript
