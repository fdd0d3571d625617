import CallScript.CommandLine.Run
import CallScript.Proofs.Scenario.Naming
import CallScript.Proofs.Scenario.Retrying

/-!
# Compilations that are interrupted

The file system may refuse a request while a compilation writes its script, while it writes its
capture, or while it cleans up after the capture.

Main statement: `Compiling.reported_of_interrupted`.  A refusal of the script or of the capture is
the fault of an output, which ends a run with status 1.  A failure of the clean-up takes the place
of that fault and is not expected by a run.  The clean-up leaves no script; a script that is itself
refused in the middle of its writing is not cleaned up.

By `Compiling.interrupted_of_kind` nothing else ends a compilation in a fault of an output or of the
operating system.
-/

namespace CallScript

namespace Artifacts

open Disk

section Runs

variable {t left : Tree} {path : Path} {content : Bytes}

/-- A refused write leaves the file as it was, or the part of its content that the plan keeps. -/
theorem left_of_refused_write
    {failure : Failure}
    (h : (Storage.write path content : StateM Tree _).run t = (.error failure, left)) :
    Tree.Touches [] [path] t left ∨
      ∃ refusal count,
        some refusal ∈ t.plan ∧
        refusal.kept = some count ∧
        left.nodeAt path = .ok (.file (content.take count)) := by
  have hasked := Tree.touches_asked [] [path] t
  rw [Tree.run_write] at h
  split at h
  · next refusal hplan =>
      cases h
      unfold Tree.writePart
      cases hkept : refusal.kept with
      | none =>
          exact .inl hasked
      | some count =>
          dsimp only
          cases hwrite : t.asked.write path (content.take count) with
          | error other =>
              exact .inl hasked
          | ok written =>
              have hmem : some refusal ∈ t.plan := by
                rw [Option.join_eq_some_iff] at hplan
                exact List.mem_of_mem_head? hplan
              exact .inr ⟨refusal, count, hmem, hkept, (Tree.touches_write hwrite).2⟩
  · split at h
    · cases h
    · cases h
      exact .inl hasked

/-- A refused file is as it was but for directories above it, or a part of its content is there. -/
theorem left_of_refused_writeFile
    {failure : Failure}
    (h : (writeFile path content : StateM Tree _).run t = (.error failure, left)) :
    Tree.Touches [] [path] t left ∨
      ∃ refusal count,
        some refusal ∈ t.plan ∧
        refusal.kept = some count ∧
        left.nodeAt path = .ok (.file (content.take count)) := by
  have habove : Tree.Touches [] [path] t _ := Tree.confined_ensure t
  unfold writeFile at h
  rw [Tree.run_bind] at h
  rcases hensure : (Storage.ensure path.parent : StateM Tree _).run t with ⟨other | _, above⟩
  · rw [hensure] at h habove
    cases h
    exact .inl habove
  · rw [hensure] at h habove
    rcases left_of_refused_write h with htouches | ⟨refusal, count, hmem, hkept, hnode⟩
    · exact .inl (habove.trans htouches)
    · exact .inr ⟨refusal, count, habove.plan.subset hmem, hkept, hnode⟩

/-- A removal that has come to its end has been served, or its refusal says that nothing is there. -/
theorem served_of_discard
    (h : (Storage.discard path : StateM Tree _).run t = (.ok (), left)) :
    t.plan.head?.join = none ∨
      ∃ refusal, some refusal ∈ t.plan ∧ refusal.reason = .noEntry := by
  cases hplan : t.plan.head?.join with
  | none =>
      exact .inl rfl
  | some refusal =>
      right
      have hmem : some refusal ∈ t.plan := by
        rw [Option.join_eq_some_iff] at hplan
        exact List.mem_of_mem_head? hplan
      refine ⟨refusal, hmem, ?_⟩
      unfold Storage.discard at h
      rw [Tree.run_bind, Tree.run_remove, hplan] at h
      dsimp only at h
      split at h
      · next hreason =>
          simp only [Except.error.injEq, Failure.refused.injEq] at hreason
          exact hreason.1
      · cases h

/-- A script that has been removed stays so, whatever the rest of the clean-up comes to. -/
theorem nodeAt_of_removed_script
    {artifacts : Artifacts} {before first : Tree} {name : List String}
    (hends : before.target artifacts.script = .ok (.entry name))
    (hserved : before.plan.head?.join = none)
    (hscript : (Storage.discard artifacts.script : StateM Tree _).run before = (.ok (), first)) :
    ((cleanUp artifacts : StateM Tree _).run before).2.nodeAt artifacts.script =
      .error (.refused .noEntry artifacts.script) := by
  have hkeeps : before.Keeps _ := (confined_cleanUp artifacts before).toKeeps
  have hfirst : before.Touches [artifacts.script] [] _ := Tree.confined_discard artifacts.script before
  rw [hscript] at hfirst
  have hgone := Tree.nodeAt_of_discard hserved hscript
  rw [Tree.nodeAt_of_target (hfirst.target hends)] at hgone
  have hnone : first.node? name = none := by
    cases hnode : first.node? name with
    | none =>
        rfl
    | some node =>
        rw [hnode] at hgone
        cases hgone
  -- What follows looks for a directory and removes another file, which brings no name back.
  have hlast : ((cleanUp artifacts : StateM Tree _).run before).2.node? name = none := by
    unfold cleanUp
    rw [Tree.run_bind, hscript]
    dsimp only
    rw [Tree.run_bind, Tree.run_hasDirectory_snd]
    split
    · exact hnone
    · exact hnone
    · exact (Tree.run_discard_snd artifacts.capture first.asked).2 name hnone
  rw [Tree.nodeAt_of_target (hkeeps.target hends), hlast]
  rfl

end Runs
end Artifacts

namespace Compiling

open Disk

/-- The parts of a compilation in which requests may be refused. -/
inductive Stage where
  | script
  | capture
  | cleaning
  deriving DecidableEq

/-- The fault that a failure of a part of a compilation leads to. -/
def Stage.fault (artifacts : Artifacts) (failure : Failure) : Stage → Fault
  | script => .scriptUnwritable artifacts.script failure
  | capture => .captureUnwritable artifacts.capture failure
  | cleaning => .ofFailure failure

/--
Where the file system has interrupted a compilation, by which failure, and what it is left as: at
the script, at the capture, or in the clean-up after a refusal of the capture.
-/
inductive Interrupted (s : Scenario) (recorder : PureRecorder) (directory : Value) (t : Tree)
    (draft : Draft) : Stage → Failure → Tree → Prop
  | script {reason : Reason} {path : Path} {left : Tree}
      (ready : s.draft recorder directory = .ok draft)
      (write : (Artifacts.writeFile draft.artifacts.script (draft.script.encode?.getD []) :
        StateM Tree _).run t = (.error (.refused reason path), left)) :
      Interrupted s recorder directory t draft .script (.refused reason path) left
  | capture {document : Bytes} {reason : Reason} {path : Path} {refused left : Tree}
      (halt : Halt s recorder directory t draft document (.refused reason path) refused)
      (clean : (Artifacts.cleanUp draft.artifacts : StateM Tree _).run refused = (.ok (), left)) :
      Interrupted s recorder directory t draft .capture (.refused reason path) left
  | cleaning {document : Bytes} {reason : Reason} {path : Path} {failure : Failure}
      {refused left : Tree}
      (halt : Halt s recorder directory t draft document (.refused reason path) refused)
      (clean : (Artifacts.cleanUp draft.artifacts : StateM Tree _).run refused =
        (.error failure, left)) :
      Interrupted s recorder directory t draft .cleaning failure left

section Lemmas

variable {s : Scenario} {recorder : PureRecorder} {directory : Value} {t left : Tree}
  {draft : Draft} {stage : Stage} {failure : Failure}

/-- An interrupted compilation fails, and its scenario is as before but for what is reported. -/
theorem on_of_interrupted
    (hopen : s.compiled = false)
    (h : Interrupted s recorder directory t draft stage failure left) :
    on s t (compileWith (anywhere recorder) directory) =
      (.error (stage.fault draft.artifacts failure), s.reported draft.recording.notices, left) := by
  cases h with
  | script ready write =>
      have hscript := Artifacts.run_writeScript draft.artifacts.script draft.script t
      rw [write] at hscript
      rw [on_compileWith, if_neg (by simp [hopen]), ready]
      dsimp only
      rw [on_deliver]
      unfold Artifacts.write
      rw [Tree.run_bind, hscript]
      rfl
  | capture halt clean | cleaning halt clean =>
      rw [on_halt hopen halt]
      dsimp only
      rw [clean]
      rfl

/-- Only a refusal becomes the fault of an output or one of the operating system. -/
theorem refused_of_kind
    {wrap : Failure → Fault}
    (h : (Fault.wrapping wrap failure).kind = .output ∨ (Fault.wrapping wrap failure).kind = .system) :
    ∃ reason path, failure = .refused reason path := by
  cases failure with
  | refused reason path =>
      exact ⟨reason, path, rfl⟩
  | _ =>
      simp [Fault.wrapping, Fault.ofFailure, Fault.kind] at h

/-- A compilation that is ready ends in a fault of these kinds only where it is interrupted. -/
theorem interrupted_of_kind
    {after : Scenario} {fault : Fault}
    (hopen : s.compiled = false)
    (hready : s.draft recorder directory = .ok draft)
    (h : on s t (compileWith (anywhere recorder) directory) = (.error fault, after, left))
    (hkind : fault.kind = .output ∨ fault.kind = .system) :
    ∃ stage failure,
      Interrupted s recorder directory t draft stage failure left ∧
      fault = stage.fault draft.artifacts failure := by
  have hscript := Artifacts.run_writeScript draft.artifacts.script draft.script t
  rw [on_compileWith, if_neg (by simp [hopen]), hready] at h
  dsimp only at h
  rw [on_deliver] at h
  rcases hwrite : (Artifacts.writeFile draft.artifacts.script (draft.script.encode?.getD []) :
      StateM Tree _).run t with ⟨failure | _, written⟩
  · rw [hwrite] at hscript
    unfold Artifacts.write at h
    rw [Tree.run_bind, hscript] at h
    cases h
    obtain ⟨reason, path, rfl⟩ := refused_of_kind hkind
    exact ⟨.script, _, .script hready hwrite, rfl⟩
  · rw [hwrite] at hscript
    cases hdocument : draft.script.encode? with
    | none =>
        rw [hdocument] at hscript
        unfold Artifacts.write at h
        rw [Tree.run_bind, hscript] at h
        cases h
        simp [Fault.kind] at hkind
    | some document =>
        rw [hdocument] at hscript hwrite
        rw [Artifacts.run_write hscript] at h
        rcases hcapture : (Artifacts.writeFile draft.artifacts.capture draft.recording.bytes :
            StateM Tree _).run written with ⟨failure | _, refused⟩
        · have hhalt : Halt s recorder directory t draft document failure refused :=
            ⟨hready, hdocument, written, hwrite, hcapture⟩
          rw [hcapture] at h
          cases failure with
          | refused reason path =>
              dsimp only at h
              rcases hclean : (Artifacts.cleanUp draft.artifacts : StateM Tree _).run refused with
                ⟨other | _, last⟩
              · rw [hclean] at h
                cases h
                exact ⟨.cleaning, other, .cleaning hhalt hclean, rfl⟩
              · rw [hclean] at h
                cases h
                exact ⟨.capture, _, .capture hhalt hclean, rfl⟩
          | _ =>
              cases h
              simp [Fault.ofFailure, Fault.kind] at hkind
        · rw [hcapture] at h
          cases h

/-- A run reports the faults of the script and of the capture, and not those of the clean-up. -/
theorem kind_of_stage (artifacts : Artifacts) (stage : Stage) (failure : Failure) :
    ((stage.fault artifacts failure).kind = .output ↔ stage ≠ .cleaning) ∧
      (stage.fault artifacts failure).isReported = !decide (stage = .cleaning) := by
  cases stage with
  | cleaning =>
      cases failure <;> exact ⟨by simp [Stage.fault, Fault.ofFailure, Fault.kind], rfl⟩
  | _ =>
      exact ⟨by simp [Stage.fault, Fault.kind], rfl⟩

end Lemmas

section Runs

open CommandLine

/-- A run ends at a scenario that cannot be compiled. -/
theorem processAll_of_failed_compile
    {s after : Scenario} {clock : Capture.Clock} {job : Job} {path : Path} {journal : List Notice}
    {tree t left : Tree} {fault : Fault}
    (hload : (Manifest.load path (.ok job.settings) : StateM Tree _).run tree =
      (⟨.ok s, journal⟩, t))
    (hprint : job.print = false)
    (hon : on s t (compile (pure clock) job.directory) = (.error fault, after, left))
    (output : Text) (notices : List Notice) (rest : List Path) :
    (processAll (pure clock) job output notices (path :: rest) : StateM Tree Report).run tree =
      (if fault.isReported then
          ⟨.status 1, output, notices ++ after.journal ++ [.failed path fault]⟩
        else
          ⟨.fault fault, output, notices ++ after.journal⟩, left) := by
  have hcompile :
      (compileOne (pure clock) job.directory path s : StateM Tree CommandLine.Result).run t =
        (⟨.error fault, after.journal⟩, left) := by
    unfold on at hon
    unfold compileOne
    rw [Tree.run_bind]
    rcases hrun : (((compile (pure clock) job.directory : Compiling (StateM Tree) Artifacts).run).run
      s).run t with ⟨⟨result, last⟩, final⟩
    rw [hrun] at hon
    cases hon
    rfl
  have hone :
      (processOne (pure clock) job path : StateM Tree CommandLine.Result).run tree =
        (⟨.error fault, after.journal⟩, left) := by
    unfold processOne
    rw [Tree.run_bind, hload]
    simp only [hprint]
    exact hcompile
  rw [processAll, Tree.run_bind, hone]
  dsimp only
  split <;> rfl

end Runs

/-- What has become of the script of a compilation that a part of it has interrupted. -/
inductive Leftover (artifacts : Artifacts) (document : Bytes) (before after : Tree) : Stage → Prop
  /-- Nothing has been written, and only directories have been made. -/
  | untouched (touches : Tree.Touches [] [artifacts.script] before after) :
      Leftover artifacts document before after .script
  /-- The refused write has left a part of it. -/
  | part (refusal : Refusal) (count : Nat) (planned : some refusal ∈ before.plan)
      (kept : refusal.kept = some count)
      (node : after.nodeAt artifacts.script = .ok (.file (document.take count))) :
      Leftover artifacts document before after .script
  /-- It has been removed. -/
  | gone {stage : Stage} (later : stage ≠ .script)
      (absent : after.nodeAt artifacts.script = .error (.refused .noEntry artifacts.script)) :
      Leftover artifacts document before after stage
  /-- Its removal has failed. -/
  | stuck (refused : Tree) (failure : Failure)
      (removal : (Storage.discard artifacts.script : StateM Tree _).run refused =
        (.error failure, after)) :
      Leftover artifacts document before after .cleaning
  /-- Its removal has been refused as if it were not there. -/
  | denied {stage : Stage} (later : stage ≠ .script) (refusal : Refusal)
      (planned : some refusal ∈ before.plan) (absent : refusal.reason = .noEntry) :
      Leftover artifacts document before after stage

section Leftovers

variable {s : Scenario} {recorder : PureRecorder} {directory : Value} {t left : Tree}
  {draft : Draft} {stage : Stage} {failure : Failure}

/-- Refusals that are still planned when a capture has failed have been planned before. -/
theorem plan_of_halt
    {document : Bytes} {refused : Tree}
    (h : Halt s recorder directory t draft document failure refused) :
    refused.plan <:+ t.plan := by
  obtain ⟨written, hfirst, hsecond⟩ := h.written
  have hbefore := (Artifacts.confined_writeFile draft.artifacts.script document t).plan
  have hafter :=
    (Artifacts.confined_writeFile draft.artifacts.capture draft.recording.bytes written).plan
  rw [hfirst] at hbefore
  rw [hsecond] at hafter
  exact hafter.trans hbefore

/-- A clean-up after a halt leaves no script once its removal has come to its end. -/
theorem leftover_of_discard
    {document : Bytes} {refused first : Tree} {result : Except Failure Unit}
    (hlater : stage ≠ .script)
    (halt : Halt s recorder directory t draft document failure refused)
    (hclean : (Artifacts.cleanUp draft.artifacts : StateM Tree _).run refused = (result, left))
    (hscript : (Storage.discard draft.artifacts.script : StateM Tree _).run refused =
      (.ok (), first)) :
    Leftover draft.artifacts document t left stage := by
  obtain ⟨name, hends, _⟩ := exists_target_of_halt halt
  rcases Artifacts.served_of_discard hscript with hserved | ⟨refusal, hplanned, habsent⟩
  · have hgone := Artifacts.nodeAt_of_removed_script hends hserved hscript
    rw [hclean] at hgone
    exact .gone hlater hgone
  · exact .denied hlater refusal ((plan_of_halt halt).subset hplanned) habsent

theorem leftover_of_interrupted
    (h : Interrupted s recorder directory t draft stage failure left) :
    Leftover draft.artifacts (draft.script.encode?.getD []) t left stage := by
  cases h with
  | script ready write =>
      rcases Artifacts.left_of_refused_writeFile write with
        htouches | ⟨refusal, count, hplanned, hkept, hnode⟩
      · exact .untouched htouches
      · exact .part refusal count hplanned hkept hnode
  | capture halt clean =>
      rw [halt.encoded]
      cases Artifacts.cleaned_of_cleanUp clean with
      | directory first script found =>
          exact leftover_of_discard (by decide) halt clean script
      | file first second script found capture =>
          exact leftover_of_discard (by decide) halt clean script
  | @cleaning _ _ _ _ refused _ halt clean =>
      rw [halt.encoded]
      rcases hscript : (Storage.discard draft.artifacts.script : StateM Tree _).run refused with
        ⟨other | _, first⟩
      · have hstuck := clean
        unfold Artifacts.cleanUp at hstuck
        rw [Tree.run_bind, hscript] at hstuck
        cases hstuck
        exact .stuck refused failure hscript
      · exact leftover_of_discard (by decide) halt clean hscript

end Leftovers

/--
**Interrupted compilations.**  A compilation that is interrupted fails and leaves its scenario open.
Its fault is one of an output, which ends a run with status 1, exactly where the clean-up does not
fail; where it does, the failure of the clean-up ends the run and is not reported.  While the
clean-up does not fail and a refused write leaves nothing, no script stands where there was none.
-/
theorem reported_of_interrupted
    {s : Scenario} {recorder : PureRecorder} {directory : Value} {t left : Tree}
    {draft : Draft} {stage : Stage} {failure : Failure}
    (hopen : s.compiled = false)
    (h : Interrupted s recorder directory t draft stage failure left) :
    let fault := stage.fault draft.artifacts failure
    let script := draft.artifacts.script
    (∃ after,
      on s t (compileWith (anywhere recorder) directory) = (.error fault, after, left) ∧
      after.compiled = false) ∧
    (fault.kind = .output ↔ stage ≠ .cleaning) ∧
    (∀ (clock : Capture.Clock) (job : CommandLine.Job) (path : Path) (journal : List Notice)
      (tree : Tree) (output : Text) (notices : List Notice) (rest : List Path),
      recorder = s.pureRecorder clock →
      job.directory = directory →
      job.print = false →
      (Manifest.load path (.ok job.settings) : StateM Tree _).run tree = (⟨.ok s, journal⟩, t) →
      let (report, last) :=
        (CommandLine.processAll (pure clock) job output notices (path :: rest) :
          StateM Tree _).run tree
      last = left ∧
        report.ending = if stage = .cleaning then .fault fault else .status 1) ∧
    Leftover draft.artifacts (draft.script.encode?.getD []) t left stage ∧
    (stage ≠ .cleaning →
      (∀ refusal, some refusal ∈ t.plan →
        (refusal.kept = none ∨ stage ≠ .script) ∧ refusal.reason ≠ .noEntry) →
      Tree.Touches [] [script] t left ∨
        left.nodeAt script = .error (.refused .noEntry script)) := by
  have hon := on_of_interrupted hopen h
  obtain ⟨hkind, hreported⟩ := kind_of_stage draft.artifacts stage failure
  have hleft := leftover_of_interrupted h
  refine ⟨⟨_, hon, hopen⟩, hkind, ?_, hleft, fun hstage hplan => ?_⟩
  · rintro clock job path journal tree output notices rest rfl rfl hprint hload
    rw [← on_compile] at hon
    rw [processAll_of_failed_compile hload hprint hon, hreported]
    cases stage <;> exact ⟨rfl, rfl⟩
  · cases hleft with
    | untouched touches =>
        exact .inl touches
    | part refusal count planned kept node =>
        rcases (hplan refusal planned).1 with hnone | hlater
        · rw [hnone] at kept
          cases kept
        · exact absurd rfl hlater
    | gone later absent =>
        exact .inr absent
    | stuck refused other removal =>
        exact absurd rfl hstage
    | denied later refusal planned absent =>
        exact absurd absent (hplan refusal planned).2

/-- The sample on a file system without room: its fault is reported, and no script is left. -/
theorem reported_of_interrupted_without_room :
    (∃ after,
      on Scenario.sample crowded
          (compileWith (anywhere (Scenario.sample.pureRecorder clockAtRest)) .null) =
        (.error (.captureUnwritable emptyDraft.artifacts.capture
          (.refused (.other 28 "No space left on device") emptyDraft.artifacts.capture)),
          after, vacant) ∧
      after.compiled = false) ∧
    (Tree.Touches [] [emptyDraft.artifacts.script] crowded vacant ∨
      vacant.nodeAt emptyDraft.artifacts.script =
        .error (.refused .noEntry emptyDraft.artifacts.script)) := by
  have hinterrupted :
      Interrupted Scenario.sample (Scenario.sample.pureRecorder clockAtRest) .null crowded emptyDraft
        .capture _ vacant :=
    .capture halt_crowded rfl
  obtain ⟨hon, _, _, _, hgone⟩ := reported_of_interrupted rfl hinterrupted
  refine ⟨hon, hgone (by decide) fun refusal hrefusal => ⟨.inr (by decide), ?_⟩⟩
  simp only [crowded, List.mem_cons, List.not_mem_nil, or_false, reduceCtorEq, false_or,
    Option.some.injEq] at hrefusal
  subst hrefusal
  simp

/-- A scenario whose capture has an extension of some letters. -/
def stretched (length : Nat) : Scenario :=
  { Scenario.sample with
    settings :=
      { Settings.standard with captureExtension := String.ofList (List.replicate length 'p') } }

/-- What is ready for such a scenario. -/
def stretchedDraft (length : Nat) : Draft :=
  { emptyDraft with
    artifacts := ⟨⟨"", ["call.xml"]⟩, ⟨"", [(stretched length).captureName]⟩⟩ }

section LongNames

variable (length : Nat)

theorem create_stretched :
    Scenario.create (stretched length).settings (some "call") (.text "a:1") (.text "b:2") .null =
      .ok (stretched length) := by
  rfl

theorem toList_stretched :
    (stretched length).captureName.toList = "call.".toList ++ List.replicate length 'p' := by
  simp [Scenario.captureName, stretched, Scenario.sample]

theorem utf8ByteSize_stretched :
    (stretched length).captureName.utf8ByteSize = 5 + length := by
  have hextension : (String.ofList (List.replicate length 'p')).utf8ByteSize = length := by
    induction length with
    | zero =>
        rfl
    | succ n ih =>
        rw [List.replicate_succ, String.ofList_cons, String.utf8ByteSize_append, ih, Nat.add_comm]
        rfl
  rw [Scenario.captureName, String.utf8ByteSize_append]
  exact congrArg (5 + ·) hextension

theorem draft_stretched :
    (stretched length).draft ((stretched length).pureRecorder clockAtRest) .null =
      .ok (stretchedDraft length) := by
  have hplain : '/' ∉ (stretched length).captureName.toList := by
    rw [toList_stretched]
    simp [List.mem_replicate]
  have hkept : Path.isKept (stretched length).captureName.toList = true := by
    rw [toList_stretched]
    simp [Path.isKept]
  have hartifacts :
      (stretched length).artifactsIn (.ofText ".") = (stretchedDraft length).artifacts := by
    have hplace : Path.ofText "." = ⟨"", []⟩ := by
      decide +kernel
    have hscript : (stretched length).scriptName = "call.xml" := by
      rfl
    have hjoin : (⟨"", []⟩ : Path).join "call.xml" = ⟨"", ["call.xml"]⟩ := by
      decide +kernel
    unfold Scenario.artifactsIn
    rw [hplace, hscript, hjoin, Path.join_of_plain hplain hkept]
    rfl
  have hready :
      (stretched length).draft ((stretched length).pureRecorder clockAtRest) .null =
        .ok ⟨(stretched length).artifactsIn (.ofText "."), emptyDraft.script,
          emptyDraft.recording⟩ := by
    rfl
  rw [hready, hartifacts]
  rfl

variable {length} (hlong : Tree.longestName < 5 + length) (hshort : 5 + length < Tree.longestPath)

include hlong hshort

/-- No path ends at a name that is too long. -/
theorem target_stretched (t : Tree) :
    t.target (stretchedDraft length).artifacts.capture =
      .error (.refused .nameTooLong (stretchedDraft length).artifacts.capture) := by
  have hname :
      (stretched length).captureName ≠ "" ∧ (stretched length).captureName ≠ ".." := by
    constructor
    all_goals
      intro heq
      have hchars := congrArg String.toList heq
      rw [toList_stretched] at hchars
      simp at hchars
  have htext : (stretchedDraft length).artifacts.capture.text = (stretched length).captureName := by
    simp [stretchedDraft, Path.text, hname.1]
  have hnull : (stretched length).captureName.toList.any (·.toNat = 0) = false := by
    rw [toList_stretched]
    simp
  rw [← utf8ByteSize_stretched] at hlong hshort
  rw [Tree.target, htext, hnull, if_neg Bool.false_ne_true, if_neg (by omega)]
  simp [stretchedDraft, Tree.walk, hname.2, hlong]

theorem halt_stretched :
    Halt (stretched length) ((stretched length).pureRecorder clockAtRest) .null vacant
      (stretchedDraft length) (emptyDraft.script.encode?.getD [])
      (.refused .nameTooLong (stretchedDraft length).artifacts.capture) halfDone := by
  have hscript :
      (Artifacts.writeFile emptyDraft.artifacts.script (emptyDraft.script.encode?.getD []) :
        StateM Tree _).run vacant = (.ok (), halfDone) := by
    rfl
  refine ⟨draft_stretched length, rfl, halfDone, hscript, ?_⟩
  have hparent :
      (stretchedDraft length).artifacts.capture.parent = emptyDraft.artifacts.capture.parent := by
    rfl
  have habove :
      (Storage.ensure emptyDraft.artifacts.capture.parent : StateM Tree _).run halfDone =
        (.ok (), halfDone) := by
    rfl
  have hserved : halfDone.plan.head?.join = none := by
    rfl
  have hwrite :
      halfDone.asked.write (stretchedDraft length).artifacts.capture
          (stretchedDraft length).recording.bytes =
        .error (.refused .nameTooLong (stretchedDraft length).artifacts.capture) := by
    rw [Tree.write, target_stretched hlong hshort]
  rw [Artifacts.writeFile, Tree.run_bind, hparent, habove]
  dsimp only
  rw [Tree.run_write, hserved]
  dsimp only
  rw [hwrite]
  rfl

/-- The clean-up asks about the capture and is refused, because its name is too long for that too. -/
theorem cleanUp_stretched :
    (Artifacts.cleanUp (stretchedDraft length).artifacts : StateM Tree _).run halfDone =
      (.error (.refused .nameTooLong (stretchedDraft length).artifacts.capture), vacant) := by
  have hscript :
      (Storage.discard emptyDraft.artifacts.script : StateM Tree _).run halfDone =
        (.ok (), vacant) := by
    rfl
  have hnode :
      vacant.asked.nodeAt (stretchedDraft length).artifacts.capture =
        .error (.refused .nameTooLong (stretchedDraft length).artifacts.capture) := by
    rw [Tree.nodeAt, target_stretched hlong hshort]
  have hfound :
      (Storage.hasDirectory (stretchedDraft length).artifacts.capture : StateM Tree _).run vacant =
        (.error (.refused .nameTooLong (stretchedDraft length).artifacts.capture), vacant) := by
    rw [Storage.hasDirectory, Tree.run_bind, Tree.run_status, hnode]
    rfl
  have hsame : (stretchedDraft length).artifacts.script = emptyDraft.artifacts.script := by
    rfl
  rw [Artifacts.cleanUp, Tree.run_bind, hsame, hscript]
  dsimp only
  rw [Tree.run_bind, hfound]
  rfl

theorem interrupted_stretched :
    Interrupted (stretched length) ((stretched length).pureRecorder clockAtRest) .null vacant
      (stretchedDraft length) .cleaning
      (.refused .nameTooLong (stretchedDraft length).artifacts.capture) vacant :=
  .cleaning (halt_stretched hlong hshort) (cleanUp_stretched hlong hshort)

end LongNames

/-- A capture with too long a name: its compilation ends in the failure of the clean-up. -/
theorem unreported_of_long_name :
    Scenario.create (stretched 251).settings (some "call") (.text "a:1") (.text "b:2") .null =
      .ok (stretched 251) ∧
    ∃ fault after,
      on (stretched 251) vacant (compile (pure clockAtRest) .null) = (.error fault, after, vacant) ∧
      fault = .system .nameTooLong (stretchedDraft 251).artifacts.capture ∧
      fault.kind ≠ .output ∧
      fault.isReported = false := by
  have hinterrupted :
      Interrupted (stretched 251) ((stretched 251).pureRecorder clockAtRest) .null vacant
        (stretchedDraft 251) .cleaning _ vacant :=
    interrupted_stretched (by decide) (by decide)
  have hon := on_of_interrupted rfl hinterrupted
  rw [← on_compile] at hon
  exact ⟨create_stretched 251, _, _, hon, rfl, by decide, rfl⟩

end Compiling
end CallScript
