import CallScript.Proofs.Script.Determination

/-!
# The markup of scripts

A reader of a script finds tags, each with its attributes, and sections of text.  Between them only
spaces and ends of lines may stand, and they say nothing.

Main statement: `Script.read?_documentText`.  What is read in a script is the tag of the scenario
around the markup of its steps, in their order.
-/

namespace CallScript

theorem Text.string_ofString (s : String) :
    (Text.ofString s).string = s := by
  simp [Text.string, Text.chars, Text.ofString, Text.ofChars, Mark.char?, Function.comp_def]

namespace Script

/-- What a reader of a script finds. -/
inductive Piece where
  | opening (tag : String) (attributes : List (String × Text))
  | closing (tag : String)
  /-- A tag that opens and closes an element at once. -/
  | empty (tag : String) (attributes : List (String × Text))
  /-- The text of sections that follow each other. -/
  | sections (content : Text)

section Readers

/-- The text in front of the first of some marks, and what follows that mark. -/
def before? (stop : Mark) : Text → Option (Text × Text)
  | [] => none
  | mark :: rest =>
      if mark = stop then
        some ([], rest)
      else
        (before? stop rest).map fun found => (mark :: found.1, found.2)

/-- An attribute after its space: its name, what it says, and what follows it. -/
def readAttribute? (t : Text) : Option ((String × Text) × Text) :=
  match before? (.char '=') t with
  | some (name, .char '\x22' :: inside) =>
      match before? (.char '\x22') inside with
      | some (written, rest) => (unescape? written).map fun text => ((name.string, text), rest)
      | none => none
  | _ => none

/-- Attributes, each after a space, and what follows them, within a bound for their number. -/
def readAttributes? : Nat → Text → Option (List (String × Text) × Text)
  | 0, _ => none
  | fuel + 1, .char ' ' :: rest =>
      match readAttribute? rest with
      | some (first, after) =>
          (readAttributes? fuel after).map fun found => (first :: found.1, found.2)
      | none => none
  | _ + 1, rest => some ([], rest)

/-- Holds of the marks of a tag's name. -/
def isTagMark (mark : Mark) : Bool :=
  mark.satisfies Char.isAlpha

/-- A tag that opens an element, after its bracket, and what follows it. -/
def readTag? (t : Text) : Option (Piece × Text) :=
  let tag := Text.string (t.takeWhile isTagMark)
  match readAttributes? t.length (t.dropWhile isTagMark) with
  | some (attributes, .char '>' :: rest) => some (.opening tag attributes, rest)
  | some (attributes, .char '/' :: .char '>' :: rest) => some (.empty tag attributes, rest)
  | _ => none

/-- The piece at the beginning of a text, and what follows it. -/
def readPiece? : Text → Option (Piece × Text)
  | .char '<' :: .char '!' :: rest =>
      let t : Text := .char '<' :: .char '!' :: rest
      if sectionStart.isPrefixOf t then
        (discloseFirst? (t.drop sectionStart.length)).map fun found =>
          (.sections found.1, found.2)
      else
        none
  | .char '<' :: .char '/' :: rest =>
      (before? (.char '>') rest).map fun found => (.closing found.1.string, found.2)
  | .char '<' :: rest => readTag? rest
  | _ => none

/-- Holds of the marks that may stand between pieces. -/
def isGap (mark : Mark) : Bool :=
  mark = .char ' ' || mark = .char '\n'

/-- The pieces of a text, within a bound for its marks. -/
def readPieces? : Nat → Text → Option (List Piece)
  | _, [] => some []
  | 0, _ :: _ => none
  | fuel + 1, mark :: rest =>
      if isGap mark then
        readPieces? fuel rest
      else
        match readPiece? (mark :: rest) with
        | some (piece, after) => (readPieces? fuel after).map (piece :: ·)
        | none => none

/-- How a script begins. -/
def prolog : Text := "<?xml version=\x221.0\x22?>\n"

/-- The pieces of a script after its first line. -/
def read? (t : Text) : Option (List Piece) :=
  if prolog.isPrefixOf t then
    readPieces? t.length (t.drop prolog.length)
  else
    none

end Readers

end Script

/-- The markup of a step. -/
def Step.pieces (step : Step) : List Script.Piece :=
  let shown := Script.shownAttributes step.attributes
  match step with
  | .send message _ => [.opening "send" shown, .sections message.plain, .closing "send"]
  | .receive .. => [.empty "recv" shown]
  | .pause .. => [.empty "pause" shown]
  | .play .. =>
      [ .opening "nop" [], .opening "action" [], .empty "exec" shown, .closing "action",
        .closing "nop" ]

namespace Script

section Parts

theorem before?_append
    {stop : Mark} {t : Text}
    (h : stop ∉ t)
    (rest : Text) :
    before? stop (t ++ stop :: rest) = some (t, rest) := by
  induction t with
  | nil =>
      simp [before?]
  | cons mark others ih =>
      obtain ⟨hmark, hothers⟩ := not_or.mp (List.mem_cons.not.mp h)
      rw [List.cons_append, before?, if_neg (Ne.symm hmark), ih hothers]
      rfl

theorem readAttribute?_append
    {name : String}
    (hname : '=' ∉ name.toList)
    (text rest : Text) :
    readAttribute?
        (Text.ofString name ++ .char '=' :: .char '\x22' ::
          (escape text ++ .char '\x22' :: rest)) =
      some ((name, text), rest) := by
  rw [← Text.char_mem_ofString] at hname
  simp only [readAttribute?, before?_append hname, before?_append (quote_notMem_escape text),
    unescape?_escape, Text.string_ofString, Option.map_some]

/-- Attributes are read back in front of anything but a space. -/
theorem readAttributes?_markup
    {attributes : List (String × Text)} {fuel : Nat} {rest : Text}
    (hnames : ∀ shown ∈ attributes, '=' ∉ shown.1.toList)
    (hfuel : attributes.length < fuel)
    (hrest : rest.head? ≠ some (.char ' ')) :
    readAttributes? fuel (markup attributes ++ rest) = some (attributes, rest) := by
  induction attributes generalizing fuel with
  | nil =>
      cases fuel with
      | zero =>
          exact absurd hfuel (Nat.not_lt_zero _)
      | succ fuel =>
          rw [markup, List.nil_append, readAttributes?]
          rintro others rfl
          exact hrest rfl
  | cons shown others ih =>
      obtain ⟨hname, hothers⟩ := List.forall_mem_cons.mp hnames
      cases fuel with
      | zero =>
          exact absurd hfuel (Nat.not_lt_zero _)
      | succ fuel =>
          rw [markup_cons_append, readAttributes?, readAttribute?_append hname]
          dsimp only
          rw [ih hothers (Nat.lt_of_succ_lt_succ hfuel)]
          rfl

theorem length_le_length_markup (attributes : List (String × Text)) :
    attributes.length ≤ (markup attributes).length := by
  induction attributes with
  | nil =>
      exact Nat.le_refl _
  | cons shown others ih =>
      have hcons := markup_cons_append shown.1 shown.2 others []
      rw [List.append_nil, List.append_nil] at hcons
      rw [hcons]
      simp only [List.length_cons, List.length_append]
      omega

/-- Holds of the names of tags, which are made of letters. -/
def IsTag (tag : String) : Prop :=
  tag.toList ≠ [] ∧ tag.toList.all Char.isAlpha = true

instance : DecidablePred IsTag := fun tag =>
  inferInstanceAs (Decidable (tag.toList ≠ [] ∧ tag.toList.all Char.isAlpha = true))

theorem isTagMark_of_mem
    {tag : String} {mark : Mark}
    (htag : IsTag tag)
    (hmark : mark ∈ Text.ofString tag) :
    isTagMark mark = true := by
  obtain ⟨c, hc, rfl⟩ := List.mem_map.mp hmark
  exact List.all_eq_true.mp htag.2 c hc

/-- The name and the attributes of a tag are read up to the mark that ends it. -/
theorem parts_of_tag
    {tag : String} {attributes : List (String × Text)} {mark : Mark}
    (htag : IsTag tag)
    (hnames : ∀ shown ∈ attributes, '=' ∉ shown.1.toList)
    (hmark : mark = .char '>' ∨ mark = .char '/')
    (rest : Text) :
    readAttributes? (Text.ofString tag ++ (markup attributes ++ mark :: rest)).length
        ((Text.ofString tag ++ (markup attributes ++ mark :: rest)).dropWhile isTagMark) =
      some (attributes, mark :: rest) ∧
    Text.string ((Text.ofString tag ++ (markup attributes ++ mark :: rest)).takeWhile isTagMark) =
      tag := by
  have hletters : ∀ mark ∈ Text.ofString tag, isTagMark mark = true :=
    fun _ => isTagMark_of_mem htag
  -- The first attribute begins with a space, and no end of a tag is a letter.
  have hstop : (markup attributes ++ mark :: rest).takeWhile isTagMark = [] ∧
      (markup attributes ++ mark :: rest).dropWhile isTagMark = markup attributes ++ mark :: rest := by
    cases attributes with
    | nil =>
        rcases hmark with rfl | rfl <;> exact ⟨rfl, rfl⟩
    | cons shown others =>
        rw [markup_cons_append]
        exact ⟨rfl, rfl⟩
  have hfuel :
      attributes.length < (Text.ofString tag ++ (markup attributes ++ mark :: rest)).length := by
    have hmarkup := length_le_length_markup attributes
    simp only [List.length_append, List.length_cons]
    omega
  have hspace : (mark :: rest).head? ≠ some (.char ' ') := by
    rcases hmark with rfl | rfl <;> simp
  rw [List.takeWhile_append_of_pos hletters, List.dropWhile_append_of_pos hletters,
    hstop.1, hstop.2, List.append_nil, Text.string_ofString]
  exact ⟨readAttributes?_markup hnames hfuel hspace, rfl⟩

theorem readPiece?_tag
    {tag : String}
    (htag : IsTag tag)
    (t : Text) :
    readPiece? (.char '<' :: (Text.ofString tag ++ t)) = readTag? (Text.ofString tag ++ t) := by
  obtain ⟨hsome, hletters⟩ := htag
  cases hchars : tag.toList with
  | nil =>
      exact absurd hchars hsome
  | cons c others =>
      have hletter := List.all_eq_true.mp hletters c (by rw [hchars]; exact List.mem_cons_self)
      have htext : Text.ofString tag = .char c :: Text.ofChars others := by
        rw [Text.ofString, hchars]
        rfl
      rw [htext, List.cons_append, readPiece?]
      · rintro rest heq
        cases heq
        revert hletter
        decide
      · rintro rest heq
        cases heq
        revert hletter
        decide

theorem readPiece?_opening
    {tag : String} {attributes : List (String × Text)}
    (htag : IsTag tag)
    (hnames : ∀ shown ∈ attributes, '=' ∉ shown.1.toList)
    (rest : Text) :
    readPiece? (.char '<' :: (Text.ofString tag ++ (markup attributes ++ .char '>' :: rest))) =
      some (.opening tag attributes, rest) := by
  obtain ⟨hattributes, hname⟩ := parts_of_tag htag hnames (.inl rfl) rest
  rw [readPiece?_tag htag, readTag?, hattributes, hname]
  rfl

theorem readPiece?_empty
    {tag : String} {attributes : List (String × Text)}
    (htag : IsTag tag)
    (hnames : ∀ shown ∈ attributes, '=' ∉ shown.1.toList)
    (rest : Text) :
    readPiece?
        (.char '<' :: (Text.ofString tag ++ (markup attributes ++ .char '/' :: .char '>' :: rest))) =
      some (.empty tag attributes, rest) := by
  obtain ⟨hattributes, hname⟩ := parts_of_tag htag hnames (.inr rfl) (.char '>' :: rest)
  rw [readPiece?_tag htag, readTag?, hattributes, hname]
  rfl

theorem readPiece?_closing
    {tag : String}
    (htag : IsTag tag)
    (rest : Text) :
    readPiece? (.char '<' :: .char '/' :: (Text.ofString tag ++ .char '>' :: rest)) =
      some (.closing tag, rest) := by
  have hend : .char '>' ∉ Text.ofString tag := by
    intro hmark
    have hletter := isTagMark_of_mem htag hmark
    revert hletter
    decide
  rw [readPiece?, before?_append hend, Option.map_some, Text.string_ofString]

/-- Sections are read back in front of anything but another section. -/
theorem readPiece?_sections
    (content : Text)
    {rest : Text}
    (hrest : sectionStart.isPrefixOf rest = false) :
    readPiece? (enclose content ++ rest) = some (.sections content, rest) := by
  have hstart :
      enclose content ++ rest =
        .char '<' :: .char '!' ::
          (Text.ofString "[CDATA[" ++ (divideEnds content ++ (sectionEnd ++ rest))) := by
    rw [enclose, List.append_assoc, List.append_assoc]
    rfl
  have hsection :
      (.char '<' :: .char '!' ::
          (Text.ofString "[CDATA[" ++ (divideEnds content ++ (sectionEnd ++ rest))) : Text) =
        sectionStart ++ (divideEnds content ++ (sectionEnd ++ rest)) := by
    rfl
  rw [hstart, readPiece?, hsection, if_pos (by simp), List.drop_left,
    discloseFirst?_divideEnds content hrest]
  rfl

end Parts

section Whole

/-- Holds of the texts in which some pieces are read, whatever the bound for their marks is. -/
def Reads (t : Text) (pieces : List Piece) : Prop :=
  ∀ fuel, t.length ≤ fuel → readPieces? fuel t = some pieces

theorem readPieces?_of_reads
    {t : Text} {pieces : List Piece} {fuel : Nat}
    (h : Reads t pieces)
    (hfuel : t.length ≤ fuel) :
    readPieces? fuel t = some pieces :=
  h fuel hfuel

theorem Reads.nil :
    Reads [] [] := by
  intro fuel _
  cases fuel <;> rfl

theorem Reads.gap
    {mark : Mark} {t : Text} {pieces : List Piece}
    (hmark : isGap mark = true)
    (h : Reads t pieces) :
    Reads (mark :: t) pieces := by
  intro fuel hfuel
  cases fuel with
  | zero =>
      exact absurd hfuel (Nat.not_succ_le_zero _)
  | succ fuel =>
      rw [readPieces?, if_pos hmark]
      exact h fuel (Nat.le_of_succ_le_succ hfuel)

theorem Reads.gaps
    {gap t : Text} {pieces : List Piece}
    (hgap : gap.all isGap = true)
    (h : Reads t pieces) :
    Reads (gap ++ t) pieces := by
  induction gap with
  | nil =>
      exact h
  | cons mark rest ih =>
      rw [List.all_cons, Bool.and_eq_true] at hgap
      exact (ih hgap.2).gap hgap.1

/-- A piece is read where its text stands, and then those of what follows it. -/
theorem Reads.piece
    {mark : Mark} {t rest : Text} {piece : Piece} {pieces : List Piece}
    (hmark : isGap mark = false)
    (hpiece : readPiece? (mark :: t) = some (piece, rest))
    (hshort : rest.length ≤ t.length)
    (h : Reads rest pieces) :
    Reads (mark :: t) (piece :: pieces) := by
  intro fuel hfuel
  cases fuel with
  | zero =>
      exact absurd hfuel (Nat.not_succ_le_zero _)
  | succ fuel =>
      rw [readPieces?, hmark, if_neg Bool.false_ne_true, hpiece]
      dsimp only
      rw [h fuel (hshort.trans (Nat.le_of_succ_le_succ hfuel))]
      rfl

section Markup

variable {attributes : List (String × Text)} {rest : Text} {pieces : List Piece}

theorem Reads.opening
    (tag : String)
    (htag : IsTag tag)
    (hnames : ∀ shown ∈ attributes, '=' ∉ shown.1.toList)
    (h : Reads rest pieces) :
    Reads (.char '<' :: (Text.ofString tag ++ (markup attributes ++ .char '>' :: rest)))
      (.opening tag attributes :: pieces) := by
  refine .piece rfl (readPiece?_opening htag hnames rest) ?_ h
  simp only [List.length_append, List.length_cons]
  omega

theorem Reads.empty
    (tag : String)
    (htag : IsTag tag)
    (hnames : ∀ shown ∈ attributes, '=' ∉ shown.1.toList)
    (h : Reads rest pieces) :
    Reads
      (.char '<' :: (Text.ofString tag ++ (markup attributes ++ .char '/' :: .char '>' :: rest)))
      (.empty tag attributes :: pieces) := by
  refine .piece rfl (readPiece?_empty htag hnames rest) ?_ h
  simp only [List.length_append, List.length_cons]
  omega

theorem Reads.closing
    (tag : String)
    (htag : IsTag tag)
    (h : Reads rest pieces) :
    Reads (.char '<' :: .char '/' :: (Text.ofString tag ++ .char '>' :: rest))
      (.closing tag :: pieces) := by
  refine .piece rfl (readPiece?_closing htag rest) ?_ h
  simp only [List.length_append, List.length_cons]
  omega

theorem Reads.sections
    (content : Text)
    (hrest : sectionStart.isPrefixOf rest = false)
    (h : Reads rest pieces) :
    Reads (enclose content ++ rest) (.sections content :: pieces) := by
  have hstart :
      enclose content ++ rest =
        .char '<' :: ((sectionStart.tail ++ divideEnds content ++ sectionEnd) ++ rest) := by
    rfl
  have hpiece := readPiece?_sections content hrest
  rw [hstart] at hpiece ⊢
  refine .piece rfl hpiece ?_ h
  simp only [List.length_append]
  omega

end Markup

/-- The markup of a step is read in its element. -/
theorem reads_elementText
    (step : Step)
    {rest : Text} {pieces : List Piece}
    (h : Reads rest pieces) :
    Reads (elementText step ++ ("\n" ++ rest)) (step.pieces ++ pieces) := by
  have hnames := equals_notMem_attributes step
  have hline : Reads (Text.ofString "\n" ++ rest) pieces := h.gaps (by decide)
  have hnone : ∀ shown ∈ ([] : List (String × Text)), '=' ∉ shown.1.toList := by simp
  cases step with
  | send message retrans =>
      have htext :
          elementText (.send message retrans) ++ ("\n" ++ rest) =
            Text.ofString "  " ++ .char '<' :: (Text.ofString "send" ++
              (markup (shownAttributes (Step.attributes (.send message retrans))) ++
                .char '>' :: (Text.ofString "\n" ++ (enclose message.plain ++
                  (Text.ofString "\n  " ++ .char '<' :: .char '/' :: (Text.ofString "send" ++
                    .char '>' :: (Text.ofString "\n" ++ rest))))))) := by
        simp [elementText, Step.opening, Step.closing, Text.ofString, Text.ofChars]
      rw [htext]
      refine .gaps (by decide) (.opening "send" (by decide) hnames (.gaps (by decide) ?_))
      refine .sections message.plain (by rfl) (.gaps (by decide) ?_)
      exact .closing "send" (by decide) hline
  | receive response request optional rrs =>
      have htext :
          elementText (.receive response request optional rrs) ++ ("\n" ++ rest) =
            Text.ofString "  " ++ .char '<' :: (Text.ofString "recv" ++
              (markup (shownAttributes (Step.attributes (.receive response request optional rrs))) ++
                .char '/' :: .char '>' :: (Text.ofString "\n" ++ rest))) := by
        simp [elementText, Step.opening, Step.closing, Text.ofString, Text.ofChars]
      rw [htext]
      exact .gaps (by decide) (.empty "recv" (by decide) hnames hline)
  | pause milliseconds =>
      have htext :
          elementText (.pause milliseconds) ++ ("\n" ++ rest) =
            Text.ofString "  " ++ .char '<' :: (Text.ofString "pause" ++
              (markup (shownAttributes (Step.attributes (.pause milliseconds))) ++
                .char '/' :: .char '>' :: (Text.ofString "\n" ++ rest))) := by
        simp [elementText, Step.opening, Step.closing, Text.ofString, Text.ofChars]
      rw [htext]
      exact .gaps (by decide) (.empty "pause" (by decide) hnames hline)
  | play capture =>
      have htext :
          elementText (.play capture) ++ ("\n" ++ rest) =
            Text.ofString "  " ++ .char '<' :: (Text.ofString "nop" ++ (markup [] ++
              .char '>' :: (Text.ofString "\n    " ++ .char '<' :: (Text.ofString "action" ++
                (markup [] ++ .char '>' :: (Text.ofString "\n      " ++ .char '<' ::
                  (Text.ofString "exec" ++
                    (markup (shownAttributes (Step.attributes (.play capture))) ++
                      .char '/' :: .char '>' :: (Text.ofString "\n    " ++
                        .char '<' :: .char '/' :: (Text.ofString "action" ++ .char '>' ::
                          (Text.ofString "\n  " ++ .char '<' :: .char '/' ::
                            (Text.ofString "nop" ++ .char '>' ::
                              (Text.ofString "\n" ++ rest))))))))))))) := by
        simp [elementText, Step.opening, Step.closing, markup, Text.ofString, Text.ofChars]
      rw [htext]
      refine .gaps (by decide) (.opening "nop" (by decide) hnone (.gaps (by decide) ?_))
      refine .opening "action" (by decide) hnone (.gaps (by decide) ?_)
      refine .empty "exec" (by decide) hnames (.gaps (by decide) ?_)
      refine .closing "action" (by decide) (.gaps (by decide) ?_)
      exact .closing "nop" (by decide) hline

theorem reads_elementTexts
    (steps : List Step)
    {rest : Text} {pieces : List Piece}
    (h : Reads rest pieces) :
    Reads (elementTexts steps ++ rest) (steps.flatMap Step.pieces ++ pieces) := by
  induction steps with
  | nil =>
      exact h
  | cons step others ih =>
      rw [elementTexts_cons, List.append_assoc, List.append_assoc, List.flatMap_cons,
        List.append_assoc]
      exact reads_elementText step ih

end Whole

/--
**Reading scripts.**  What a reader finds in the script of some steps, whatever they hold, is the
tag of the scenario with its name, the markup of every step in turn, and the end of the tag.
-/
theorem read?_documentText (name : Text) (steps : List Step) :
    read? (documentText name steps) =
      some (.opening "scenario" [("name", name)] ::
        (steps.flatMap Step.pieces ++ [.closing "scenario"])) := by
  have htext :
      documentText name steps =
        prolog ++ .char '<' :: (Text.ofString "scenario" ++ (markup [("name", name)] ++
          .char '>' :: (Text.ofString "\n" ++ (elementTexts steps ++
            .char '<' :: .char '/' :: (Text.ofString "scenario" ++
              .char '>' :: (Text.ofString "\n" ++ [])))))) := by
    simp [documentText, prolog, Text.ofString, Text.ofChars]
  rw [read?, htext, if_pos (by simp), List.drop_left]
  refine readPieces?_of_reads ?_ (by simp)
  refine .opening "scenario" (by decide) (by simp) (.gaps (by decide) ?_)
  refine reads_elementTexts steps (.closing "scenario" (by decide) ?_)
  exact .gaps (by decide) .nil

end Script
end CallScript
