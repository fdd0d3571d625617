import CallScript.Proofs.Scenario.Compiling
import CallScript.Proofs.Scenario.Course

/-!
# Failed compilations

What a compilation that fails leaves behind, and that it can be tried again.

Main statement: `Compiling.undone_of_halt`.  A fault before anything is written changes nothing.
When the script has been written and the capture is refused, a clean-up that is served leaves
neither file; any other failure of the capture leaves the script.  In all of these cases the
scenario stays open, with its script and its media, and can be compiled later.
-/

namespace CallScript
namespace Compiling

open Disk

/-- A compilation that has written its script and failed to write its capture. -/
structure Halt (s : Scenario) (recorder : PureRecorder) (directory : Value) (t : Tree)
    (draft : Draft) (document : Bytes) (failure : Failure) (refused : Tree) : Prop where
  ready : s.draft recorder directory = .ok draft
  encoded : draft.script.encode? = some document
  written : ∃ written,
    (Artifacts.writeFile draft.artifacts.script document : StateM Tree _).run t =
      (.ok (), written) ∧
    (Artifacts.writeFile draft.artifacts.capture draft.recording.bytes : StateM Tree _).run written =
      (.error failure, refused)

/-- A scenario after a failed compilation: it is open, and nothing is lost of it. -/
structure Reopened (before after : Scenario) : Prop where
  isOpen : after.compiled = false
  steps : after.steps = before.steps
  timeline : after.timeline = before.timeline
  document : after.document = before.document

/--
Holds of the scenarios that a later compilation finishes with a given script, if its encoder makes
a recording and its file system accepts both files.
-/
def Retryable (s : Scenario) (document : Bytes) : Prop :=
  ∀ (recorder : PureRecorder) (directory : Value) (place : Path) (recording : Recording)
    (t written left : Tree),
    recorder s.timeline = .ok recording →
    s.directoryOf directory = .ok place →
    (Artifacts.writeFile (s.artifactsIn place).script document : StateM Tree _).run t =
      (.ok (), written) →
    (Artifacts.writeFile (s.artifactsIn place).capture recording.bytes : StateM Tree _).run
        written = (.ok (), left) →
    ∃ after,
      on s t (compileWith (anywhere recorder) directory) =
        (.ok (s.artifactsIn place), after, left) ∧
      after.compiled = true ∧
      after.document = s.document ∧
      written.read (s.artifactsIn place).script = .ok document

section Lemmas

variable {s : Scenario} {t : Tree} {recorder : PureRecorder} {directory : Value}

/-- Without a script or without a recording nothing is ready. -/
theorem exists_draft_eq_error
    {fault : Fault} (directory : Value)
    (h : s.document = .error fault ∨ recorder s.timeline = .error fault) :
    ∃ other, s.draft recorder directory = .error other := by
  unfold Scenario.draft
  rcases s.directoryOf directory with other | place
  · exact ⟨other, rfl⟩
  · rcases h with hscript | hrecording
    · rw [hscript]
      exact ⟨fault, rfl⟩
    · rcases s.document with other | script
      · exact ⟨other, rfl⟩
      · rw [hrecording]
        exact ⟨fault, rfl⟩

theorem reopened_reported
    (hopen : s.compiled = false) (notices : List Notice) :
    Reopened s (s.reported notices) :=
  ⟨hopen, rfl, rfl, rfl⟩

/-- An open scenario with a script can be compiled. -/
theorem retryable_of_document
    {script : Text} {document : Bytes}
    (hopen : s.compiled = false)
    (hscript : s.document = .ok script)
    (hdocument : script.encode? = some document) :
    Retryable s document := by
  intro recorder directory place recording t written left hrecording hplace hfirst hsecond
  have hdraft :
      s.draft recorder directory = .ok ⟨s.artifactsIn place, script, recording⟩ := by
    unfold Scenario.draft
    rw [hplace, hscript, hrecording]
    rfl
  have hwrite :=
    Artifacts.write_eq_ok.mpr ⟨document, written, hdocument, hfirst, hsecond⟩
  refine ⟨s.finished ⟨s.artifactsIn place, script, recording⟩, ?_, rfl, rfl, ?_⟩
  · exact compileWith_of_write hopen hdraft hwrite
  · exact Tree.read_eq_ok_iff.mpr (Artifacts.nodeAt_of_writeFile hfirst)

/-- A halted compilation is what writing the capture and cleaning up have come to. -/
theorem on_halt
    {draft : Draft} {document : Bytes} {failure : Failure} {refused : Tree}
    (hopen : s.compiled = false)
    (h : Halt s recorder directory t draft document failure refused) :
    on s t (compileWith (anywhere recorder) directory) =
      match failure with
      | .refused _ _ =>
          match (Artifacts.cleanUp draft.artifacts : StateM Tree _).run refused with
          | (.error other, left) =>
              (.error (.ofFailure other), s.reported draft.recording.notices, left)
          | (.ok (), left) =>
              (.error (.captureUnwritable draft.artifacts.capture failure),
                s.reported draft.recording.notices, left)
      | _ => (.error (.ofFailure failure), s.reported draft.recording.notices, refused) := by
  obtain ⟨written, hfirst, hsecond⟩ := h.written
  have hscript := Artifacts.writeScript_eq_ok.mpr ⟨document, h.encoded, hfirst⟩
  rw [on_compileWith, if_neg (by simp [hopen]), h.ready]
  dsimp only
  rw [on_deliver, Artifacts.run_write hscript, hsecond]
  cases failure with
  | refused reason path =>
      dsimp only
      rcases (Artifacts.cleanUp draft.artifacts : StateM Tree _).run refused with
        ⟨other | _, left⟩ <;> rfl
  | _ =>
      rfl

/-- The script of a halted compilation has been written and its path still ends at its name. -/
theorem exists_target_of_halt
    {draft : Draft} {document : Bytes} {failure : Failure} {refused : Tree}
    (h : Halt s recorder directory t draft document failure refused) :
    ∃ name, refused.target draft.artifacts.script = .ok (.entry name) ∧ t.Keeps refused := by
  obtain ⟨written, hfirst, hsecond⟩ := h.written
  have hbefore := Artifacts.confined_writeFile draft.artifacts.script document t
  have hafter := Artifacts.confined_writeFile draft.artifacts.capture draft.recording.bytes written
  rw [hfirst] at hbefore
  rw [hsecond] at hafter
  obtain ⟨name, hends, _⟩ :=
    Tree.nodeAt_eq_file_iff.mp (Artifacts.nodeAt_of_writeFile hfirst)
  exact ⟨name, hafter.target hends, hbefore.toKeeps.trans hafter.toKeeps⟩

/-- A capture that fails without being refused leaves the script. -/
theorem read_script_of_halt
    {draft : Draft} {document : Bytes} {failure : Failure} {refused : Tree}
    (h : Halt s recorder directory t draft document failure refused)
    (hfailure : ∀ reason path, failure ≠ .refused reason path) :
    refused.read draft.artifacts.script = .ok document := by
  obtain ⟨written, hfirst, hsecond⟩ := h.written
  have htouches := Artifacts.touches_of_unrefused hsecond hfailure
  obtain ⟨name, hends, hnode⟩ :=
    Tree.nodeAt_eq_file_iff.mp (Artifacts.nodeAt_of_writeFile hfirst)
  refine Tree.read_eq_ok_iff.mpr (Tree.nodeAt_eq_file_iff.mpr ⟨name, htouches.target hends, ?_⟩)
  exact htouches.node?_file hnode (by simp)

end Lemmas

/--
**Failed compilations.**  A fault before the script is written changes nothing.  After that, when
the capture fails, the scenario is left as it was and can be compiled again.  A refused capture is
reported, and a clean-up that is served leaves neither file; a capture that fails otherwise is not
cleaned up, and the script stays.
-/
theorem undone_of_halt
    {s : Scenario} (t : Tree) (recorder : PureRecorder) (directory : Value)
    (hopen : s.compiled = false) :
    (∀ fault,
      s.document = .error fault ∨ recorder s.timeline = .error fault →
      ∃ other, on s t (compileWith (anywhere recorder) directory) = (.error other, s, t)) ∧
    ∀ draft document failure refused,
      Halt s recorder directory t draft document failure refused →
      ∃ fault after left,
        on s t (compileWith (anywhere recorder) directory) = (.error fault, after, left) ∧
        Reopened s after ∧
        Retryable after document ∧
        (∀ reason path cleaned,
          failure = .refused reason path →
          (Artifacts.cleanUp draft.artifacts : StateM Tree _).run refused = (.ok (), cleaned) →
          refused.Served cleaned →
          fault = .captureUnwritable draft.artifacts.capture failure ∧
          fault.kind = .output ∧
          Artifacts.Removed draft.artifacts refused left ∧
          ∀ path, t.nodeAt path = .ok .directory → left.nodeAt path = .ok .directory) ∧
        ((∀ reason path, failure ≠ .refused reason path) →
          fault.kind ≠ .output ∧
          left.read draft.artifacts.script = .ok document) := by
  refine ⟨fun fault h => ?_, fun draft document failure refused h => ?_⟩
  · obtain ⟨other, hdraft⟩ := exists_draft_eq_error directory h
    refine ⟨other, ?_⟩
    rw [on_compileWith, if_neg (by simp [hopen]), hdraft]
  · obtain ⟨place, _, _, hdocument, _⟩ := draft_eq_ok h.ready
    have hreopened := reopened_reported hopen draft.recording.notices
    have hretry : Retryable (s.reported draft.recording.notices) document :=
      retryable_of_document hopen hdocument h.encoded
    have hon := on_halt hopen h
    -- Only a refusal is handled, by a clean-up that may fail itself.
    cases failure with
    | refused reason path =>
        rcases hclean : (Artifacts.cleanUp draft.artifacts : StateM Tree _).run refused with
          ⟨other | _, left⟩
        · rw [hclean] at hon
          refine ⟨_, _, _, hon, hreopened, hretry, fun _ _ cleaned _ hcleaned _ => ?_, ?_⟩
          · cases hcleaned
          · intro hfailure
            exact absurd rfl (hfailure reason path)
        · rw [hclean] at hon
          refine ⟨_, _, _, hon, hreopened, hretry, fun _ _ cleaned _ hcleaned hserved => ?_, ?_⟩
          · cases hcleaned
            obtain ⟨name, hends, hkeeps⟩ := exists_target_of_halt h
            have hremoved := Artifacts.removed_of_cleanUp hends hclean hserved
            exact ⟨rfl, rfl, hremoved, fun p hp =>
              hremoved.directory p (hkeeps.nodeAt_directory hp)⟩
          · intro hfailure
            exact absurd rfl (hfailure reason path)
    | _ =>
        refine ⟨_, _, _, hon, hreopened, hretry, ?_, fun hfailure => ?_⟩
        · intro _ _ _ heq
          cases heq
        · exact ⟨by decide, read_script_of_halt h hfailure⟩

/-- A file system that has no room for more than the first byte of the second file. -/
def crowded : Tree where
  working := []
  nodes := []
  plan :=
    [none, none, none, none, none, some ⟨.other 28 "No space left on device", some 1⟩]

/-- What is on it when the capture has been refused. -/
def crowdedOut : Tree where
  working := []
  nodes :=
    [ (["call.pcap"], .file [0xd4]),
      (["call.xml"], .file (emptyDraft.script.encode?.getD [])) ]
  plan := []

theorem halt_crowded :
    Halt Scenario.sample (Scenario.sample.pureRecorder clockAtRest) .null crowded emptyDraft
      (emptyDraft.script.encode?.getD [])
      (.refused (.other 28 "No space left on device") emptyDraft.artifacts.capture) crowdedOut :=
  ⟨rfl, rfl, _, rfl, rfl⟩

/-- The sample on a file system without room: one byte of the capture has been written. -/
theorem undone_of_halt_without_room :
    (Artifacts.cleanUp emptyDraft.artifacts : StateM Tree _).run crowdedOut = (.ok (), vacant) ∧
      ∃ fault after left,
        on Scenario.sample crowded
            (compileWith (anywhere (Scenario.sample.pureRecorder clockAtRest)) .null) =
          (.error fault, after, left) ∧
        fault.kind = .output ∧
        Artifacts.Removed emptyDraft.artifacts crowdedOut left ∧
        Reopened Scenario.sample after ∧
        Retryable after (emptyDraft.script.encode?.getD []) := by
  have hclean :
      (Artifacts.cleanUp emptyDraft.artifacts : StateM Tree _).run crowdedOut = (.ok (), vacant) :=
    rfl
  have hserved : crowdedOut.Served vacant := ⟨[], by simp, rfl⟩
  obtain ⟨fault, after, left, hon, hreopened, hretry, hrefused, _⟩ :=
    (undone_of_halt crowded (Scenario.sample.pureRecorder clockAtRest) .null rfl).2 _ _ _ _
      halt_crowded
  obtain ⟨_, hkind, hremoved, _⟩ := hrefused _ _ _ rfl hclean hserved
  exact ⟨hclean, fault, after, left, hon, hkind, hremoved, hreopened, hretry⟩

/-- A scenario whose capture has a null character in its name. -/
def nullNamed : Scenario :=
  { Scenario.sample with settings := { Settings.standard with captureExtension := "p\x00" } }

/-- What is on the empty file system when only the script has been written. -/
def halfDone : Tree where
  working := []
  nodes := [(["call.xml"], .file (emptyDraft.script.encode?.getD []))]
  plan := []

theorem halt_nullNamed :
    Halt nullNamed (nullNamed.pureRecorder clockAtRest) .null vacant
      { emptyDraft with artifacts := ⟨⟨"", ["call.xml"]⟩, ⟨"", ["call.p\x00"]⟩⟩ }
      (emptyDraft.script.encode?.getD []) .nullCharacter halfDone :=
  ⟨rfl, rfl, _, rfl, rfl⟩

/-- Its capture cannot be written, no refusal is reported, and its script stays. -/
theorem script_left_of_null_character :
    ∃ fault after left,
      on nullNamed vacant (compile (pure clockAtRest) .null) = (.error fault, after, left) ∧
      fault.kind = .value ∧
      vacant.nodeAt ⟨"", ["call.xml"]⟩ = .error (.refused .noEntry ⟨"", ["call.xml"]⟩) ∧
      left.read ⟨"", ["call.xml"]⟩ = .ok (emptyDraft.script.encode?.getD []) := by
  refine ⟨.pathNull, nullNamed.reported emptyDraft.recording.notices, halfDone, ?_, rfl, rfl, rfl⟩
  rw [on_compile, on_halt rfl halt_nullNamed]
  rfl

end Compiling
end CallScript
