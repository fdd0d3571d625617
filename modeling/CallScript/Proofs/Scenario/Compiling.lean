import CallScript.Proofs.Result
import CallScript.Proofs.Scenario.Outcome
import CallScript.Proofs.Scenario.Writing

/-!
# Compilations

What compiling a scenario comes to on a file system.

Main statements:
* `Compiling.on_compileWith`: a compilation is prepared without the file system, and then it is
  what writing both files is.
* `Compiling.on_compile`: the encoder of a scenario is one of the encoders.
-/

namespace CallScript

/-- An encoder that works on timelines alone. -/
abbrev PureRecorder := Media.Timeline → Except Fault Recording

namespace Scenario

/-- The encoder between the ends of a scenario, at a clock. -/
def pureRecorder (s : Scenario) (clock : Capture.Clock) : PureRecorder := fun timeline =>
  (s.encoder.encode clock timeline).map fun encoded =>
    { bytes := encoded.bytes
      notices := [.encoded encoded.packets encoded.coveredMs] }

/-- What is ready before a compilation writes, or the fault that ends it. -/
def draft (s : Scenario) (recorder : PureRecorder) (directory : Value) : Except Fault Draft := do
  let place ← s.directoryOf directory
  let script ← s.document
  let recording ← recorder s.timeline
  return ⟨s.artifactsIn place, script, recording⟩

/-- The scenario after a report. -/
def reported (s : Scenario) (notices : List Notice) : Scenario :=
  { s with journal := s.journal ++ notices }

/-- The scenario after both of its files have been written. -/
def finished (s : Scenario) (draft : Draft) : Scenario :=
  { s with
    journal := s.journal ++ draft.recording.notices ++
      [.scriptWritten draft.artifacts.script,
        .captureWritten draft.artifacts.capture draft.recording.bytes.length]
    compiled := true }

end Scenario

namespace Compiling

open Disk

variable {α β : Type}

/-- What an action comes to on a scenario and a tree, and both after it. -/
def on (s : Scenario) (t : Tree) (action : Compiling (StateM Tree) α) :
    Except Fault α × Scenario × Tree :=
  let ((result, after), left) := ((ExceptT.run action).run s).run t
  (result, after, left)

/-- An encoder that works on timelines alone, on any file system. -/
def anywhere (recorder : PureRecorder) : Recorder (StateM Tree) :=
  fun timeline => pure (recorder timeline)

section Sequences

variable (s : Scenario) (t : Tree)

/-- An action after another one runs where that one has succeeded. -/
theorem on_bind
    (action : Compiling (StateM Tree) α) (next : α → Compiling (StateM Tree) β) :
    on s t (action >>= next) =
      match on s t action with
      | (.ok a, after, left) => on after left (next a)
      | (.error fault, after, left) => (.error fault, after, left) := by
  have hrun :
      ((ExceptT.run (action >>= next)).run s).run t =
        let ((result, after), left) := ((ExceptT.run action).run s).run t
        ((ExceptT.bindCont next result : StateT Scenario (StateM Tree) _).run after).run left := by
    rfl
  unfold on
  rw [hrun]
  rcases ((ExceptT.run action).run s).run t with ⟨⟨fault | a, after⟩, left⟩ <;> rfl

theorem on_get :
    on s t get = (.ok s, s, t) := by
  rfl

theorem on_lift (result : Except Fault α) :
    on s t (liftM result) = (result, s, t) := by
  rfl

theorem on_build (action : Building α) :
    on s t (build action) = ((Building.on s action).1, (Building.on s action).2, t) := by
  rfl

theorem on_request (action : StateM Tree (Except Fault α)) :
    on s t (request action) = ((action.run t).1, s, (action.run t).2) := by
  rfl

variable {s t} {after : Scenario} {left : Tree}

theorem on_bind_ok
    {action : Compiling (StateM Tree) α} {a : α}
    (h : on s t action = (.ok a, after, left))
    (next : α → Compiling (StateM Tree) β) :
    on s t (action >>= next) = on after left (next a) := by
  rw [on_bind, h]

theorem on_bind_error
    {action : Compiling (StateM Tree) α} {fault : Fault}
    (h : on s t action = (.error fault, after, left))
    (next : α → Compiling (StateM Tree) β) :
    on s t (action >>= next) = (.error fault, after, left) := by
  rw [on_bind, h]

/-- Two actions in a row succeed only when both do. -/
theorem on_bind_eq_ok
    {action : Compiling (StateM Tree) α} {next : α → Compiling (StateM Tree) β} {b : β}
    (h : on s t (action >>= next) = (.ok b, after, left)) :
    ∃ a middle halfway,
      on s t action = (.ok a, middle, halfway) ∧
      on middle halfway (next a) = (.ok b, after, left) := by
  rw [on_bind] at h
  rcases hfirst : on s t action with ⟨fault | a, middle, halfway⟩
  · rw [hfirst] at h
    cases h
  · rw [hfirst] at h
    exact ⟨a, middle, halfway, rfl, h⟩

end Sequences

/-- Writing the two files finishes a scenario, or leaves it open. -/
theorem on_deliver (s : Scenario) (t : Tree) (draft : Draft) :
    on s t (deliver draft) =
      match (draft.artifacts.write draft.script draft.recording.bytes : StateM Tree _).run t with
      | (.error fault, left) => (.error fault, s.reported draft.recording.notices, left)
      | (.ok (), left) => (.ok draft.artifacts, s.finished draft, left) := by
  have hreported :
      on s t (build (Building.reportAll draft.recording.notices)) =
        (.ok (), s.reported draft.recording.notices, t) := by
    rfl
  unfold deliver
  rw [on_bind_ok hreported, on_bind, on_request]
  rcases (draft.artifacts.write draft.script draft.recording.bytes : StateM Tree _).run t with
    ⟨fault | _, left⟩
  · rfl
  · have hjournal :
        s.journal ++ draft.recording.notices ++ [.scriptWritten draft.artifacts.script] ++
            [.captureWritten draft.artifacts.capture draft.recording.bytes.length] =
          s.journal ++ draft.recording.notices ++
            [.scriptWritten draft.artifacts.script,
              .captureWritten draft.artifacts.capture draft.recording.bytes.length] := by
      rw [List.append_assoc _ [_] [_]]
      rfl
    dsimp only
    unfold Scenario.finished
    rw [← hjournal]
    rfl

/--
**Compilations.**  What can fail without the file system fails first and changes nothing; then the
compilation is what writing both files is.
-/
theorem on_compileWith
    (s : Scenario) (t : Tree) (recorder : PureRecorder) (directory : Value) :
    on s t (compileWith (anywhere recorder) directory) =
      if s.compiled then
        (.error (.alreadyCompiled s.name), s, t)
      else
        match s.draft recorder directory with
        | .error fault => (.error fault, s, t)
        | .ok draft => on s t (deliver draft) := by
  have hopened := on_build s t Building.ensureOpen
  rw [Building.on_ensureOpen] at hopened
  unfold compileWith
  split
  · next hcompiled =>
      rw [if_pos hcompiled] at hopened
      exact on_bind_error hopened _
  · next hopen =>
      rw [if_neg hopen] at hopened
      rw [on_bind_ok hopened, on_bind_ok (on_get s t), on_bind, on_lift]
      unfold Scenario.draft
      rcases s.directoryOf directory with fault | place
      · rfl
      dsimp only
      rw [on_bind, on_lift]
      rcases s.document with fault | script
      · rfl
      dsimp only
      rw [on_bind, on_request]
      unfold anywhere
      rcases recorder s.timeline with fault | recording <;> rfl

/-- What a compilation has written has been ready before. -/
theorem compileWith_eq_ok
    {s after : Scenario} {t left : Tree} {recorder : PureRecorder} {directory : Value}
    {artifacts : Artifacts}
    (h : on s t (compileWith (anywhere recorder) directory) = (.ok artifacts, after, left)) :
    ∃ draft,
      s.compiled = false ∧
      s.draft recorder directory = .ok draft ∧
      artifacts = draft.artifacts ∧
      after = s.finished draft ∧
      (artifacts.write draft.script draft.recording.bytes : StateM Tree _).run t =
        (.ok (), left) := by
  rw [on_compileWith] at h
  split at h
  · cases h
  · next hopen =>
      split at h
      · cases h
      · next draft hdraft =>
          rw [on_deliver] at h
          split at h
          · cases h
          · next hwrite =>
              cases h
              exact ⟨draft, by simpa using hopen, hdraft, rfl, rfl, hwrite⟩

/-- A compilation that is ready and writes both files comes to its end. -/
theorem compileWith_of_write
    {s : Scenario} {t left : Tree} {recorder : PureRecorder} {directory : Value} {draft : Draft}
    (hopen : s.compiled = false)
    (hdraft : s.draft recorder directory = .ok draft)
    (hwrite :
      (draft.artifacts.write draft.script draft.recording.bytes : StateM Tree _).run t =
        (.ok (), left)) :
    on s t (compileWith (anywhere recorder) directory) =
      (.ok draft.artifacts, s.finished draft, left) := by
  rw [on_compileWith, if_neg (by simp [hopen]), hdraft]
  dsimp only
  rw [on_deliver, hwrite]

theorem draft_eq_ok
    {s : Scenario} {recorder : PureRecorder} {directory : Value} {draft : Draft}
    (h : s.draft recorder directory = .ok draft) :
    ∃ place,
      s.directoryOf directory = .ok place ∧
      draft.artifacts = s.artifactsIn place ∧
      s.document = .ok draft.script ∧
      recorder s.timeline = .ok draft.recording := by
  obtain ⟨place, hplace, h⟩ := Result.bind_eq_ok h
  obtain ⟨script, hscript, h⟩ := Result.bind_eq_ok h
  obtain ⟨recording, hrecording, h⟩ := Result.bind_eq_ok h
  cases h
  exact ⟨place, hplace, rfl, hscript, hrecording⟩

/-- Compiling a scenario takes the encoder between its ends. -/
theorem on_compile
    (s : Scenario) (t : Tree) (clock : Capture.Clock) (directory : Value) :
    on s t (compile (pure clock) directory) =
      on s t (compileWith (anywhere (s.pureRecorder clock)) directory) := by
  unfold compile
  rw [on_bind_ok (on_get s t)]
  rfl

/-- A clock that stands at the beginning of time. -/
def clockAtRest : Capture.Clock where
  ssrc := 0
  sequence := 0
  timestamp := 0
  time := .integer 0

/-- The empty file system. -/
def vacant : Tree := ⟨[], [], []⟩

/-- What is ready for a call in which nothing has happened. -/
def emptyDraft : Draft where
  artifacts := ⟨⟨"", ["call.xml"]⟩, ⟨"", ["call.pcap"]⟩⟩
  script := "<?xml version=\x221.0\x22?>\n<scenario name=\x22call\x22>\n</scenario>\n"
  recording :=
    { bytes :=
        [0xd4, 0xc3, 0xb2, 0xa1, 2, 0, 4, 0, 0, 0, 0, 0, 0, 0, 0, 0, 0xff, 0xff, 0, 0, 1, 0, 0, 0]
      notices := [.encoded 0 0] }

/-- The empty file system after both files of the sample. -/
def filled : Tree where
  working := []
  nodes :=
    [ (["call.pcap"], .file emptyDraft.recording.bytes),
      (["call.xml"], .file (emptyDraft.script.encode?.getD [])) ]
  plan := []

end Compiling
end CallScript
