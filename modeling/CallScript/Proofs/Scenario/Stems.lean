import CallScript.Proofs.Scenario.Compiling
import CallScript.Proofs.Scenario.Naming
import CallScript.Proofs.Script.Pieces
import CallScript.Proofs.Text.Case
import Mathlib.Data.List.SplitBy

/-!
# Stems of file names

The stem of a name is its lower-case form in which every run of characters that a file name does
not keep has become one underscore.  It is its own stem, and it keeps the letters and the digits
in their order.

Main statement: `Scenario.stems_and_files`.  Besides, whatever is done with a scenario that has
been created: its files have a letter or a digit in their names and stand in the directory that
they are asked for, unless an extension leads out of it.
-/

namespace CallScript

/-- Holds of the paths of what stands in a directory, under a name that leads nowhere else. -/
def Disk.Path.IsChild (place path : Disk.Path) : Prop :=
  ∃ name,
    path = { place with names := place.names ++ [name] } ∧
    '/' ∉ name.toList ∧ name ≠ "" ∧ name ≠ "." ∧ name ≠ ".."

namespace Scenario

section Runs

variable {run rest cs : List Char} {c : Char}

/-- Holds of neighbours in one run: a file name keeps both of them or neither. -/
def sameRun (c d : Char) : Bool :=
  isWordChar c == isWordChar d

/-- What is left of a run: all of it, or one underscore. -/
def remnant (run : List Char) : List Char :=
  if run.all isWordChar then run else ['_']

theorem joinWords_of_words
    (h : ∀ c ∈ run, isWordChar c = true) :
    joinWords false (run ++ rest) = run ++ joinWords false rest := by
  induction run with
  | nil =>
      rfl
  | cons c run ih =>
      rw [List.cons_append, joinWords, if_pos (h c (by simp)), ih fun d hd => h d (by simp [hd])]
      rfl

theorem joinWords_of_others
    (h : ∀ c ∈ run, isWordChar c = false) :
    joinWords true (run ++ rest) = joinWords true rest := by
  induction run with
  | nil =>
      rfl
  | cons c run ih =>
      rw [List.cons_append, joinWords, if_neg (by simp [h c (by simp)]), if_pos rfl,
        ih fun d hd => h d (by simp [hd])]

/-- Where no other character follows, it does not matter what came before. -/
theorem joinWords_after
    (h : ∀ c ∈ cs.head?, isWordChar c = true) :
    joinWords true cs = joinWords false cs := by
  cases cs with
  | nil =>
      rfl
  | cons c rest =>
      rw [joinWords, joinWords, if_pos (h c rfl), if_pos (h c rfl)]

theorem isWordChar_of_isChain
    (h : (c :: rest).IsChain fun x y => sameRun x y = true) :
    ∀ d ∈ c :: rest, isWordChar d = isWordChar c := by
  induction rest generalizing c with
  | nil =>
      simp
  | cons d rest ih =>
      rw [List.isChain_cons_cons] at h
      have hsame : isWordChar c = isWordChar d := by
        simpa [sameRun] using h.1
      intro e he
      rcases List.mem_cons.mp he with rfl | he
      · rfl
      · rw [ih h.2 e he, hsame]

/-- Every run leaves its remnant, because the next one is of the other kind. -/
theorem joinWords_flatten
    {runs : List (List Char)}
    (hsome : [] ∉ runs)
    (huniform : ∀ run ∈ runs, run.IsChain fun x y => sameRun x y = true)
    (hchange :
      runs.IsChain fun a b => ∃ (ha : a ≠ []) (hb : b ≠ []),
        sameRun (a.getLast ha) (b.head hb) = false) :
    joinWords false runs.flatten = runs.flatMap remnant := by
  induction runs with
  | nil =>
      rfl
  | cons run runs ih =>
      rw [List.mem_cons, not_or] at hsome
      obtain ⟨c, rest, rfl⟩ := List.exists_cons_of_ne_nil (Ne.symm hsome.1)
      have hkind := isWordChar_of_isChain (huniform (c :: rest) (by simp))
      have hrest := ih hsome.2 (fun run hrun => huniform run (by simp [hrun])) hchange.tail
      rw [List.flatten_cons, List.flatMap_cons]
      cases hc : isWordChar c with
      | true =>
          have hwords : ∀ d ∈ c :: rest, isWordChar d = true := fun d hd => (hkind d hd).trans hc
          rw [joinWords_of_words hwords, hrest, remnant, if_pos (List.all_eq_true.mpr hwords)]
      | false =>
          have hothers : ∀ d ∈ c :: rest, isWordChar d = false := fun d hd =>
            (hkind d hd).trans hc
          -- A run of others ends before a word character or at the end of the text.
          have hnext : ∀ d ∈ runs.flatten.head?, isWordChar d = true := by
            cases runs with
            | nil =>
                simp
            | cons next runs =>
                rw [List.isChain_cons_cons] at hchange
                obtain ⟨hrun, hnext, hdiffer⟩ := hchange.1
                obtain ⟨d, others, rfl⟩ := List.exists_cons_of_ne_nil hnext
                have hlast := hothers _ (List.getLast_mem hrun)
                simpa [sameRun, hlast] using hdiffer
          have hopening :
              joinWords false (c :: rest ++ runs.flatten) =
                '_' :: joinWords true (rest ++ runs.flatten) := by
            rw [List.cons_append, joinWords, if_neg (by simp [hc])]
            rfl
          have hleft : remnant (c :: rest) = ['_'] := by
            rw [remnant, if_neg (by simp [hc])]
          rw [hopening, joinWords_of_others fun d hd => hothers d (by simp [hd]),
            joinWords_after hnext, hrest, hleft]
          rfl

theorem joinWords_eq_flatMap (cs : List Char) :
    joinWords false cs = (cs.splitBy sameRun).flatMap remnant := by
  rw [← joinWords_flatten (List.nil_notMem_splitBy _ cs)
    (fun _ => List.isChain_of_mem_splitBy) (List.isChain_getLast_head_splitBy _ cs),
    List.flatten_splitBy]

/-- Letters and digits are kept in their order. -/
theorem filter_joinWords (afterOther : Bool) (cs : List Char) :
    (joinWords afterOther cs).filter Char.isAlphanum = cs.filter Char.isAlphanum := by
  induction cs generalizing afterOther with
  | nil =>
      rfl
  | cons c rest ih =>
      rw [joinWords]
      split
      · rw [List.filter_cons, List.filter_cons, ih]
      · next hother =>
          have hc : c.isAlphanum = false := by
            simp only [isWordChar, Bool.or_eq_true, not_or, Bool.not_eq_true] at hother
            exact hother.1
          have hunderscore : Char.isAlphanum '_' = false := by decide
          rw [List.filter_cons, hc]
          split
          · exact ih true
          · rw [List.filter_cons, hunderscore]
            exact ih true

theorem mem_joinWords
    {afterOther : Bool}
    (h : c ∈ joinWords afterOther cs) :
    c = '_' ∨ c ∈ cs := by
  induction cs generalizing afterOther with
  | nil =>
      cases h
  | cons d rest ih =>
      rw [joinWords] at h
      split at h
      · rcases List.mem_cons.mp h with rfl | h
        · exact .inr (by simp)
        · exact (ih h).imp_right (List.mem_cons_of_mem d)
      · split at h
        · exact (ih h).imp_right (List.mem_cons_of_mem d)
        · rcases List.mem_cons.mp h with rfl | h
          · exact .inl rfl
          · exact (ih h).imp_right (List.mem_cons_of_mem d)

end Runs

section Stems

/-- What the stem of a name is, in terms of the name in lower case. -/
structure IsStemOf (stem : String) (name : Text) : Prop where
  /-- It is made of small letters, digits and underscores. -/
  plain : ∀ c ∈ stem.toList, c.isLower = true ∨ c.isDigit = true ∨ c = '_'
  /-- It is its own stem. -/
  settled : stemOf (Text.ofString stem) = stem
  /-- It has the letters and the digits of the name, in their order. -/
  letters :
    stem.toList.filter Char.isAlphanum =
      (Text.lowered [] name).chars.filter Char.isAlphanum
  /-- It keeps the longest runs of letters, digits and underscores, and has one underscore for
  every longest run of other characters. -/
  runs : stem.toList = ((Text.lowered [] name).chars.splitBy sameRun).flatMap remnant

theorem toList_stemOf (name : Text) :
    (stemOf name).toList = joinWords false (Text.lowered [] name).chars := by
  rw [stemOf, String.toList_ofList, Text.lower_string]

theorem isWordChar_of_mem_stemOf
    {name : Text} {c : Char}
    (h : c ∈ (stemOf name).toList) :
    isWordChar c = true := by
  rw [toList_stemOf] at h
  exact isWordChar_of_mem_joinWords false _ c h

theorem not_isUpper_of_mem_stemOf
    {name : Text} {c : Char}
    (h : c ∈ (stemOf name).toList) :
    c.isUpper = false := by
  rw [toList_stemOf] at h
  rcases mem_joinWords h with rfl | h
  · decide
  · rw [Text.chars_lowered] at h
    exact Text.not_isUpper_of_mem_lowerFrom [] h

/-- What a file name keeps is ASCII. -/
theorem isSettled_of_isWordChar
    {c : Char}
    (hword : isWordChar c = true)
    (hsmall : c.isUpper = false) :
    Text.IsSettled c := by
  refine ⟨?_, hsmall⟩
  simp only [isWordChar, Char.isAlphanum, Char.isAlpha, hsmall, Char.isLower, Char.isDigit,
    Bool.or_eq_true, Bool.and_eq_true, decide_eq_true_eq, UInt32.le_iff_toNat_le, ge_iff_le,
    Bool.false_eq_true, false_or] at hword
  change ((97 ≤ c.toNat ∧ c.toNat ≤ 122) ∨ (48 ≤ c.toNat ∧ c.toNat ≤ 57)) ∨ c = '_' at hword
  rcases hword with hrange | rfl
  · omega
  · decide

/-- Every name yields its stem. -/
theorem isStemOf_stemOf (name : Text) :
    IsStemOf (stemOf name) name where
  plain := by
    intro c hc
    have hword := isWordChar_of_mem_stemOf hc
    have hsmall := not_isUpper_of_mem_stemOf hc
    simpa [isWordChar, Char.isAlphanum, Char.isAlpha, hsmall, or_assoc] using hword
  settled := by
    have hword : ∀ c ∈ (stemOf name).toList, isWordChar c = true := fun c =>
      isWordChar_of_mem_stemOf
    have hlower : Text.lowerFrom [] (stemOf name).toList = (stemOf name).toList :=
      Text.lowerFrom_of_settled [] fun c hc =>
        isSettled_of_isWordChar (hword c hc) (not_isUpper_of_mem_stemOf hc)
    have hjoined : joinWords false (stemOf name).toList = (stemOf name).toList := by
      have hrun : joinWords false ((stemOf name).toList ++ []) =
          (stemOf name).toList ++ joinWords false [] := joinWords_of_words hword
      simpa [joinWords] using hrun
    rw [stemOf, Text.string_ofString, Text.lower, String.toList_ofList, hlower, hjoined,
      String.ofList_toList]
  letters := by
    rw [toList_stemOf, filter_joinWords]
  runs := by
    rw [toList_stemOf, joinWords_eq_flatMap]

end Stems

section Files

open Disk

variable {settings : Settings} {name : Option Text} {source destination fromUser : Value}
  {start : Scenario}

/-- A scenario is only created with a letter or a digit in the names of its files. -/
theorem exists_isAlphanum_of_create
    (h : create settings name source destination fromUser = .ok start) :
    ∃ c ∈ start.stem.toList, c.isAlphanum = true := by
  obtain ⟨_, _, h⟩ := Result.bind_eq_ok h
  obtain ⟨_, _, h⟩ := Result.bind_eq_ok h
  dsimp only at h
  split at h
  · cases h
  · next husable =>
      cases h
      have hany : isUsableStem (stemOf (name.getD [])) = true := by
        simpa using husable
      obtain ⟨c, hc, hother⟩ := List.any_eq_true.mp hany
      have hword := isWordChar_of_mem_stemOf hc
      rw [isWordChar, Bool.or_eq_true] at hword
      exact ⟨c, hc, hword.resolve_right (by simpa using hother)⟩

/-- A file with a letter or a digit before its extension stands where it is asked for. -/
theorem isChild_join
    {stem extension : String}
    (hstem : IsPlain stem)
    (hletter : ∃ c ∈ stem.toList, c.isAlphanum = true)
    (hextension : '/' ∉ extension.toList)
    (place : Path) :
    Path.IsChild place (place.join (stem ++ "." ++ extension)) := by
  obtain ⟨c, hc, hkept⟩ := hletter
  have hmem : c ∈ (stem ++ "." ++ extension).toList := by
    simp [String.toList_append, hc]
  have hother : ∀ text : String, (∀ d ∈ text.toList, d.isAlphanum = false) →
      stem ++ "." ++ extension ≠ text := by
    rintro _ hnone rfl
    rw [hnone c hmem] at hkept
    cases hkept
  have hslash : '/' ∉ (stem ++ "." ++ extension).toList := by
    simp only [String.toList_append, List.mem_append, not_or]
    exact ⟨⟨hstem.2, by decide⟩, hextension⟩
  have hname : Path.isKept (stem ++ "." ++ extension).toList = true := by
    have hempty := hother "" (by simp)
    have hdot := hother "." (by simp)
    simp only [Path.isKept, Bool.and_eq_true, decide_eq_true_eq]
    exact ⟨fun h => hempty (String.toList_inj.mp h), fun h => hdot (String.toList_inj.mp h)⟩
  exact ⟨_, Path.join_of_plain hslash hname place, hslash, hother "" (by simp),
    hother "." (by simp), hother ".." (by simp)⟩

/--
**Stems and files.**  The stem of every name is what `IsStemOf` says.  And whatever is done with a
scenario that has been created: the names of its files begin with the stem of its name, in which
there is a letter or a digit, and with extensions without slashes both files stand in the
directory that they are asked for, and so do those that a compilation has written.
-/
theorem stems_and_files :
    (∀ name : Text, IsStemOf (stemOf name) name) ∧
    ∀ {settings : Settings} {name : Option Text} {source destination fromUser : Value}
      {start : Scenario},
      create settings name source destination fromUser = .ok start →
      ∀ moves : List Move,
        (start.run moves).stem = stemOf (name.getD []) ∧
        (∃ c ∈ (start.run moves).stem.toList, c.isAlphanum = true) ∧
        ('/' ∉ settings.scriptExtension.toList →
          '/' ∉ settings.captureExtension.toList →
          (∀ place,
            Path.IsChild place ((start.run moves).artifactsIn place).script ∧
            Path.IsChild place ((start.run moves).artifactsIn place).capture) ∧
          ∀ {t left : Tree} {recorder : PureRecorder} {directory : Value}
            {artifacts : Artifacts} {after : Scenario},
            Compiling.on (start.run moves) t
                (Compiling.compileWith (Compiling.anywhere recorder) directory) =
              (.ok artifacts, after, left) →
            ∃ place,
              (start.run moves).directoryOf directory = .ok place ∧
              Path.IsChild place artifacts.script ∧
              Path.IsChild place artifacts.capture) := by
  refine ⟨isStemOf_stemOf, ?_⟩
  intro settings name source destination fromUser start hstart moves
  obtain ⟨hsettings, hplain⟩ := isPlain_of_create hstart
  obtain ⟨_, hname, hstem⟩ := names_of_create hstart
  obtain ⟨hkept, hsame⟩ := names_of_run start moves
  have hletter : ∃ c ∈ (start.run moves).stem.toList, c.isAlphanum = true := by
    rw [hsame]
    exact exists_isAlphanum_of_create hstart
  refine ⟨by rw [hsame, hstem, hname], hletter, fun hscript hcapture => ?_⟩
  have hchildren : ∀ place,
      Path.IsChild place ((start.run moves).artifactsIn place).script ∧
      Path.IsChild place ((start.run moves).artifactsIn place).capture := by
    intro place
    rw [← hsame] at hplain
    rw [← hsettings, ← hkept] at hscript hcapture
    exact ⟨isChild_join hplain hletter hscript place, isChild_join hplain hletter hcapture place⟩
  refine ⟨hchildren, fun hcompiled => ?_⟩
  obtain ⟨draft, _, hdraft, rfl, _⟩ := Compiling.compileWith_eq_ok hcompiled
  obtain ⟨place, hplace, hartifacts, _⟩ := Compiling.draft_eq_ok hdraft
  rw [hartifacts]
  exact ⟨place, hplace, hchildren place⟩

/-- A name with a slash and a Kelvin sign, which is a capital outside of ASCII. -/
theorem stems_and_files_with_slash :
    ∃ start,
      create .standard (some "A/B  \u212a#1_") (.text "a:1") (.text "b:2") .null = .ok start ∧
      start.stem = "a_b_k_1_" ∧
      IsStemOf start.stem "A/B  \u212a#1_" ∧
      ∀ place,
        Path.IsChild place (start.artifactsIn place).script ∧
        Path.IsChild place (start.artifactsIn place).capture := by
  obtain ⟨start, hstart, hstem⟩ :
      ∃ start,
        create .standard (some "A/B  \u212a#1_") (.text "a:1") (.text "b:2") .null = .ok start ∧
        start.stem = "a_b_k_1_" :=
    ⟨_, rfl, by decide +kernel⟩
  obtain ⟨hstems, hfiles⟩ := stems_and_files
  obtain ⟨hname, _, hchildren⟩ := hfiles hstart []
  exact ⟨start, hstart, hstem, hname ▸ hstems _, (hchildren (by decide) (by decide)).1⟩

end Files

end Scenario
end CallScript
