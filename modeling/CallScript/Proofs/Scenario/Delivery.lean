import CallScript.Proofs.Scenario.Compiling
import CallScript.Proofs.Scenario.Naming

/-!
# Delivered files

What a compilation that has come to its end leaves on a file system.

Main statement: `Compiling.delivered_of_compile`.  The capture stands at its path, and nothing has
changed but the two files and directories made above them.  The script stands at its path too,
unless both paths end at one place, as they do with equal extensions: there the capture has
replaced it.
-/

namespace CallScript
namespace Compiling

open Disk

/--
**Delivered files.**  Whatever the encoder, the directory and the file system are: a compilation
that comes to its end has left the capture at its path, and nothing has changed but the two files
and directories that were made above them.  The script is at its path as well, exactly when the two
paths end apart or the two files are the same, and so it is where the files have different names.
-/
theorem delivered_of_compile
    {s after : Scenario} {t left : Tree} {recorder : PureRecorder} {directory : Value}
    {artifacts : Artifacts}
    (h : on s t (compileWith (anywhere recorder) directory) = (.ok artifacts, after, left)) :
    ∃ place script document recording,
      s.directoryOf directory = .ok place ∧
      artifacts = s.artifactsIn place ∧
      after.document = .ok script ∧
      script.encode? = some document ∧
      recorder s.timeline = .ok recording ∧
      left.read artifacts.capture = .ok recording.bytes ∧
      (left.read artifacts.script = .ok document ↔
        left.target artifacts.script ≠ left.target artifacts.capture ∨
          document = recording.bytes) ∧
      (s.NamesApart → left.read artifacts.script = .ok document) ∧
      left.working = t.working ∧
      ∀ name,
        Tree.Change [artifacts.script, artifacts.capture] [artifacts.script, artifacts.capture]
          t left name := by
  obtain ⟨draft, _, hdraft, rfl, rfl, hwrite⟩ := compileWith_eq_ok h
  obtain ⟨place, hplace, hartifacts, hscript, hrecording⟩ := draft_eq_ok hdraft
  obtain ⟨document, written, hdocument, hfirst, hsecond⟩ := Artifacts.write_eq_ok.mp hwrite
  have hbefore := Artifacts.confined_writeFile draft.artifacts.script document t
  have hafter := Artifacts.confined_writeFile draft.artifacts.capture draft.recording.bytes written
  rw [hfirst] at hbefore
  rw [hsecond] at hafter
  have htouches :
      Tree.Touches [draft.artifacts.script, draft.artifacts.capture]
        [draft.artifacts.script, draft.artifacts.capture] t left :=
    (hbefore.mono (by simp) (by simp)).trans (hafter.mono (by simp) (by simp))
  have hcapture := Artifacts.nodeAt_of_writeFile hsecond
  have hiff := Artifacts.read_first_iff hfirst hsecond
  refine ⟨place, draft.script, document, draft.recording, hplace, hartifacts, hscript, hdocument,
    hrecording, Tree.read_eq_ok_iff.mpr hcapture, hiff, fun hapart => hiff.mpr (.inl ?_),
    htouches.working, htouches.change⟩
  obtain ⟨name, hends, _⟩ := Tree.nodeAt_eq_file_iff.mp hcapture
  rw [hartifacts] at hends ⊢
  exact hapart.targets place hends

/-- The sample on the empty file system: its files have different names, and both are there. -/
theorem delivered_of_compile_sample :
    on Scenario.sample vacant
        (compileWith (anywhere (Scenario.sample.pureRecorder clockAtRest)) .null) =
      (.ok emptyDraft.artifacts, Scenario.sample.finished emptyDraft, filled) ∧
    Scenario.sample.NamesApart ∧
    ∃ script document recording,
      (Scenario.sample.finished emptyDraft).document = .ok script ∧
      script.encode? = some document ∧
      Scenario.sample.pureRecorder clockAtRest Scenario.sample.timeline = .ok recording ∧
      filled.read emptyDraft.artifacts.script = .ok document ∧
      filled.read emptyDraft.artifacts.capture = .ok recording.bytes := by
  have hdraft :
      Scenario.sample.draft (Scenario.sample.pureRecorder clockAtRest) .null = .ok emptyDraft :=
    rfl
  have hwrite :
      (emptyDraft.artifacts.write emptyDraft.script emptyDraft.recording.bytes :
          StateM Tree _).run vacant = (.ok (), filled) :=
    rfl
  have hon := compileWith_of_write rfl hdraft hwrite
  have hapart : Scenario.sample.NamesApart :=
    Scenario.namesApart_of_run Scenario.create_sample (by decide) (by decide) (by decide) []
  obtain ⟨_, script, document, recording, _, _, hscript, hdocument, hrecording, hcapture, _,
    hread, _⟩ := delivered_of_compile hon
  exact ⟨hon, hapart, script, document, recording, hscript, hdocument, hrecording, hread hapart,
    hcapture⟩

/-- A scenario whose two files have the same extension. -/
def sameNamed : Scenario :=
  { Scenario.sample with settings := { Settings.standard with captureExtension := "xml" } }

/-- What is ready for it: both of its files have one path. -/
def sameDraft : Draft :=
  { emptyDraft with artifacts := ⟨⟨"", ["call.xml"]⟩, ⟨"", ["call.xml"]⟩⟩ }

/-- Its compilation comes to its end, and the capture stands in the place of the script. -/
theorem script_replaced_of_same_extension :
    ∃ artifacts after left,
      on sameNamed vacant (compile (pure clockAtRest) .null) = (.ok artifacts, after, left) ∧
      after.compiled = true ∧
      after.document = .ok emptyDraft.script ∧
      left.read artifacts.script = .ok emptyDraft.recording.bytes ∧
      emptyDraft.script.encode? ≠ some emptyDraft.recording.bytes := by
  have hdraft :
      sameNamed.draft (sameNamed.pureRecorder clockAtRest) .null = .ok sameDraft :=
    rfl
  have hwrite :
      (sameDraft.artifacts.write sameDraft.script sameDraft.recording.bytes :
          StateM Tree _).run vacant =
        (.ok (), ⟨[], [(["call.xml"], .file emptyDraft.recording.bytes)], []⟩) :=
    rfl
  have hon := compileWith_of_write rfl hdraft hwrite
  rw [← on_compile] at hon
  exact ⟨_, _, _, hon, rfl, rfl, rfl, by decide⟩

end Compiling
end CallScript
