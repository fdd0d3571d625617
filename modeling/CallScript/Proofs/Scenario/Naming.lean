import CallScript.Proofs.Disk.Tree
import CallScript.Proofs.Scenario.Course
import CallScript.Scenario.Compile

/-!
# Names of files

The files of a scenario have one stem and two extensions.  The stem holds no slash, so that the
files are in the directory they are asked for, as long as no extension holds one.

Main statements:
* `Scenario.NamesApart.targets`: with different extensions the two paths of a scenario never end
  at one place.
* `Scenario.namesApart_of_run`: whatever is done with a scenario after it has been created, its
  extensions alone decide whether its files have different names.
-/

namespace CallScript

namespace Disk

theorem Path.pieces_of_plain
    {cs : List Char}
    (h : '/' ∉ cs) :
    pieces cs = [cs] := by
  induction cs with
  | nil =>
      rfl
  | cons c rest ih =>
      rw [List.mem_cons, not_or] at h
      rw [pieces, ih h.2]
      dsimp only
      rw [if_neg (Ne.symm h.1)]

/-- A name without a slash is the last one of its path inside a directory. -/
theorem Path.join_of_plain
    {name : String}
    (hslash : '/' ∉ name.toList)
    (hkept : isKept name.toList = true)
    (place : Path) :
    place.join name = { place with names := place.names ++ [name] } := by
  have hnames : namesOf name = [name] := by
    unfold namesOf
    rw [pieces_of_plain hslash, List.filter_cons_of_pos hkept]
    simp
  have hroot : rootOf name = "" := by
    unfold rootOf
    split <;> simp_all
  unfold join
  rw [hroot, hnames]
  rfl

end Disk

namespace Scenario

open Disk

/-- Holds of the names that a file can have before its extension. -/
def IsPlain (stem : String) : Prop :=
  stem.toList ≠ [] ∧ '/' ∉ stem.toList

theorem isWordChar_of_mem_joinWords (afterOther : Bool) (cs : List Char) :
    ∀ c ∈ joinWords afterOther cs, isWordChar c = true := by
  induction cs generalizing afterOther with
  | nil =>
      simp [joinWords]
  | cons c rest ih =>
      rw [joinWords]
      split
      · next hword =>
          exact List.forall_mem_cons.mpr ⟨hword, ih false⟩
      · split
        · exact ih true
        · exact List.forall_mem_cons.mpr ⟨by decide, ih true⟩

/-- A scenario keeps the settings and the name that it is created with. -/
theorem names_of_create
    {settings : Settings} {name : Option Text} {source destination fromUser : Value}
    {s : Scenario}
    (h : create settings name source destination fromUser = .ok s) :
    s.settings = settings ∧ s.name = name.getD [] ∧ s.stem = stemOf s.name := by
  obtain ⟨_, _, h⟩ := Result.bind_eq_ok h
  obtain ⟨_, _, h⟩ := Result.bind_eq_ok h
  dsimp only at h
  split at h
  · cases h
  · cases h
    exact ⟨rfl, rfl, rfl⟩

/-- A scenario is only created with a name that yields one for its files. -/
theorem isPlain_of_create
    {settings : Settings} {name : Option Text} {source destination fromUser : Value}
    {s : Scenario}
    (h : create settings name source destination fromUser = .ok s) :
    s.settings = settings ∧ IsPlain s.stem := by
  obtain ⟨_, _, h⟩ := Result.bind_eq_ok h
  obtain ⟨_, _, h⟩ := Result.bind_eq_ok h
  dsimp only at h
  split at h
  · cases h
  · next husable =>
      cases h
      refine ⟨rfl, ?_, ?_⟩
      · intro hempty
        simp [isUsableStem, hempty] at husable
      · intro hslash
        rw [stemOf, String.toList_ofList] at hslash
        exact absurd (isWordChar_of_mem_joinWords false _ _ hslash) (by decide)

/-- A file stands in the directory that it is asked for. -/
theorem join_of_isPlain
    {stem extension : String}
    (hstem : IsPlain stem)
    (hextension : '/' ∉ extension.toList)
    (place : Path) :
    (place.join (stem ++ "." ++ extension)).names =
      place.names ++ [stem ++ "." ++ extension] := by
  have hslash : '/' ∉ (stem ++ "." ++ extension).toList := by
    simp only [String.toList_append, List.mem_append, not_or]
    exact ⟨⟨hstem.2, by decide⟩, hextension⟩
  have hkept : Path.isKept (stem ++ "." ++ extension).toList = true := by
    obtain ⟨c, rest, hcs⟩ := List.exists_cons_of_ne_nil hstem.1
    simp [Path.isKept, String.toList_append, hcs]
  rw [Path.join_of_plain hslash hkept]

/-- Holds of the scenarios whose two files stand in one directory under different names. -/
structure NamesApart (s : Scenario) : Prop where
  stem : IsPlain s.stem
  script : '/' ∉ s.settings.scriptExtension.toList
  capture : '/' ∉ s.settings.captureExtension.toList
  differ : s.settings.scriptExtension ≠ s.settings.captureExtension

/-- With different extensions the two paths of a scenario end apart. -/
theorem NamesApart.targets
    {s : Scenario} {t : Tree} {name : List String}
    (h : NamesApart s)
    (place : Path)
    (hends : t.target (s.artifactsIn place).capture = .ok (.entry name)) :
    t.target (s.artifactsIn place).script ≠ t.target (s.artifactsIn place).capture := by
  intro hsame
  rw [hends] at hsame
  obtain ⟨first, script, hscript, hfirst⟩ := Tree.exists_last_of_target hsame
  obtain ⟨second, capture, hcapture, hsecond⟩ := Tree.exists_last_of_target hends
  have hlast : script = capture := (List.append_inj' (hscript.symm.trans hcapture) rfl).2 |>
    List.singleton_injective
  simp only [artifactsIn, scriptName, captureName, join_of_isPlain h.stem h.script,
    join_of_isPlain h.stem h.capture, List.getLast?_concat, Option.some.injEq] at hfirst hsecond
  rw [← hfirst, ← hsecond] at hlast
  exact h.differ (String.append_right_inj _ |>.mp hlast)

theorem names_of_run (s : Scenario) (moves : List Move) :
    (s.run moves).settings = s.settings ∧ (s.run moves).stem = s.stem := by
  obtain ⟨passages, hrun, _⟩ := run_eq_extended s moves
  rw [hrun]
  exact ⟨rfl, rfl⟩

/-- Different extensions without slashes give the files of a scenario different names. -/
theorem namesApart_of_run
    {settings : Settings} {name : Option Text} {source destination fromUser : Value}
    {start : Scenario}
    (hstart : create settings name source destination fromUser = .ok start)
    (hscript : '/' ∉ settings.scriptExtension.toList)
    (hcapture : '/' ∉ settings.captureExtension.toList)
    (hdiffer : settings.scriptExtension ≠ settings.captureExtension)
    (moves : List Move) :
    NamesApart (start.run moves) := by
  obtain ⟨rfl, hplain⟩ := isPlain_of_create hstart
  obtain ⟨hsettings, hstem⟩ := names_of_run start moves
  refine ⟨?_, ?_, ?_, ?_⟩
  · rw [hstem]
    exact hplain
  · rw [hsettings]
    exact hscript
  · rw [hsettings]
    exact hcapture
  · rw [hsettings]
    exact hdiffer

end Scenario
end CallScript
