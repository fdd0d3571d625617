import CallScript.Proofs.Scenario.Compiling
import CallScript.Proofs.Scenario.Course
import CallScript.Proofs.Scenario.Faults

/-!
# Scenarios that are compiled

A scenario is compiled once.  After that nothing changes it, whatever is tried: every call and
every compilation fails.  Most of them say that the scenario is compiled, but a call that makes its
step before it looks whether the scenario is open may fail at that step first.

Main statement: `Compiling.closed_of_compile`.  After a compilation, attempts of any kind and number
leave the scenario and the file system as the compilation has left them, and each of them ends in
the fault that `Attempt.faultOn` tells.
-/

namespace CallScript

/-- There are as many values as parameters. -/
theorem Arguments.length_of_fill
    {positional : List Value} {named : List (Value × Value)} {parameters : List Parameter}
    {values : List Value}
    (h : fill positional named parameters = .ok values) :
    values.length = parameters.length := by
  induction parameters generalizing positional values with
  | nil =>
      unfold fill at h
      split at h
      · cases h
        rfl
      · cases h
  | cons parameter rest ih =>
      cases positional with
      | nil =>
          obtain ⟨value, _, h⟩ := Result.bind_eq_ok h
          obtain ⟨others, hothers, h⟩ := Result.bind_eq_ok h
          cases h
          rw [List.length_cons, ih hothers, List.length_cons]
      | cons value others =>
          rw [fill] at h
          split at h
          · cases h
          · obtain ⟨filled, hfilled, rfl⟩ := Result.map_eq_ok h
            rw [List.length_cons, ih hfilled, List.length_cons]

theorem Arguments.length_of_bind
    {args : Arguments} {parameters : List Parameter} {values : List Value}
    (h : args.bind parameters = .ok values) :
    values.length = parameters.length := by
  unfold Arguments.bind at h
  split at h
  · exact length_of_fill h
  · cases h

/--
The fault that an action meets before it looks whether its scenario is open: it waits for no message
or for two, or it words a caller that has no text.
-/
def Action.earlyFault? (fromUser : Value) : Action → List Value → Option Fault
  | .receive, [response, request, _, _] =>
      if response.isNull && request.isNull then
        some .receiveNothing
      else if !response.isNull && !request.isNull then
        some .receiveBoth
      else
        none
  | .invite, [] | .ackAnswer, [] =>
      if fromUser.isShowable then none else some .numberLong
  | _, _ => none

/-- Such a fault is one of an argument or of the caller. -/
theorem Action.isOfArgument_of_earlyFault?
    {fromUser : Value} {action : Action} {values : List Value} {fault : Fault}
    (h : action.earlyFault? fromUser values = some fault) :
    fault.isOfArgument = true := by
  unfold Action.earlyFault? at h
  split at h
  · split at h
    · cases h
      rfl
    · split at h
      · cases h
        rfl
      · cases h
  · split at h
    · cases h
    · cases h
      rfl
  · split at h
    · cases h
    · cases h
      rfl
  · cases h

namespace Building

section Compiled

variable {s : Scenario}

theorem on_ensureOpen_of_compiled
    (hcompiled : s.compiled = true) :
    on s ensureOpen = (.error (.alreadyCompiled s.name), s) := by
  rw [on_ensureOpen, if_pos hcompiled]

/-- A wait for a message fails at its discriminator, or because the scenario is compiled. -/
theorem on_receive_of_compiled
    (hcompiled : s.compiled = true)
    (response request optional rrs : Value) :
    on s (receive response request optional rrs) =
      (.error ((Action.earlyFault? s.fromUser .receive [response, request, optional, rrs]).getD
        (.alreadyCompiled s.name)), s) := by
  unfold receive Step.receive? Action.earlyFault?
  dsimp only
  split
  · exact on_bind_error (on_lift s _) _
  · split
    · exact on_bind_error (on_lift s _) _
    · rw [on_bind_ok (on_lift s _)]
      exact on_addStep_of_compiled hcompiled _

/-- What words the caller fails there, or where it goes on with the words. -/
theorem on_caller_of_compiled
    {next : Text → Building Unit}
    (hnext : ∀ caller, on s (next caller) = (.error (.alreadyCompiled s.name), s)) :
    on s (liftM (Fault.plainText s.fromUser) >>= next) =
      (.error ((if s.fromUser.isShowable then none else some Fault.numberLong).getD
        (.alreadyCompiled s.name)), s) := by
  unfold Fault.plainText
  split
  · rw [on_bind_ok (on_lift s _)]
    exact hnext _
  · exact on_bind_error (on_lift s _) _

/-- On a compiled scenario an action fails and changes nothing. -/
theorem on_perform_of_compiled
    (hcompiled : s.compiled = true)
    {action : Action} {values : List Value}
    (hcount : values.length = action.parameters.length) :
    on s (perform action values) =
      (.error ((action.earlyFault? s.fromUser values).getD (.alreadyCompiled s.name)), s) := by
  have hadd := on_addStep_of_compiled hcompiled
  have hensure := on_ensureOpen_of_compiled hcompiled
  match action, values, hcount with
  | .invite, [], _ =>
      exact on_caller_of_compiled fun caller => hadd _
  | .receive, [response, request, optional, rrs], _ =>
      exact on_receive_of_compiled hcompiled response request optional rrs
  | .receiveStatus status, [optional], _ =>
      exact on_receive_of_compiled hcompiled _ _ _ _
  | .receiveAnswer, [], _ =>
      exact on_receive_of_compiled hcompiled _ _ _ _
  | .ackAnswer, [], _ =>
      exact on_caller_of_compiled fun caller => on_bind_error (hadd _) _
  | .startMedia, [], _ =>
      exact hadd _
  | .sleep, [seconds], _ =>
      exact on_bind_error hensure _
  | .sendDigits, [digits, delay], _ =>
      exact on_bind_error hensure _
  | .sendBye, [], _ =>
      exact hadd _
  | .receiveBye, [], _ =>
      exact on_receive_of_compiled hcompiled _ _ _ _
  | .ackBye, [], _ =>
      exact hadd _

end Compiled

end Building

/-- What can be tried with a scenario: to call an action, or to compile it with some encoder. -/
inductive Attempt where
  | call (action : Action) (args : Arguments)
  | compile (recorder : Recorder (StateM Disk.Tree)) (directory : Value)

namespace Attempt

/-- What an attempt does with a scenario and a file system. -/
def action : Attempt → Compiling (StateM Disk.Tree) Unit
  | call action args => Compiling.build (Building.call action args)
  | compile recorder directory => do
      let _ ← Compiling.compileWith recorder directory

/--
The fault that an attempt meets before it looks whether its scenario is open; arguments that do not
fit the parameters are refused first of all.
-/
def earlyFault? (fromUser : Value) : Attempt → Option Fault
  | call action args =>
      match args.bind action.parameters with
      | .error fault => some fault
      | .ok values => action.earlyFault? fromUser values
  | compile _ _ => none

/-- The fault that an attempt ends in when its scenario is compiled. -/
def faultOn (s : Scenario) (attempt : Attempt) : Fault :=
  (attempt.earlyFault? s.fromUser).getD (.alreadyCompiled s.name)

/-- What an attempt meets before it looks at the scenario is a fault of its arguments. -/
theorem isOfArgument_of_earlyFault?
    {fromUser : Value} {attempt : Attempt} {fault : Fault}
    (h : attempt.earlyFault? fromUser = some fault) :
    fault.isOfArgument = true := by
  cases attempt with
  | call action args =>
      rw [earlyFault?] at h
      split at h
      · next hvalues =>
          cases h
          exact Arguments.isOfArgument_of_bind hvalues
      · exact Action.isOfArgument_of_earlyFault? h
  | compile recorder directory =>
      cases h

end Attempt

namespace Compiling

open Disk

/-- What attempts come to one after the other, and the scenario and the tree after them. -/
def attemptAll (s : Scenario) (t : Tree) : List Attempt → List (Except Fault Unit) × Scenario × Tree
  | [] => ([], s, t)
  | attempt :: rest =>
      let (result, after, left) := on s t attempt.action
      let (results, last) := attemptAll after left rest
      (result :: results, last)

section Lemmas

variable {s : Scenario} {t : Tree}

/-- A finished compilation has found its scenario open and has changed neither steps nor media. -/
theorem compiled_of_compileWith
    {after : Scenario} {left : Tree} {recorder : Recorder (StateM Tree)} {directory : Value}
    {artifacts : Artifacts}
    (h : on s t (compileWith recorder directory) = (.ok artifacts, after, left)) :
    s.compiled = false ∧
      after.compiled = true ∧
      after.steps = s.steps ∧
      after.timeline = s.timeline := by
  obtain ⟨_, _, _, hopened, h⟩ := on_bind_eq_ok h
  rw [on_build, Building.on_ensureOpen] at hopened
  split at hopened
  · cases hopened
  · next hopen =>
      cases hopened
      rw [on_bind_ok (on_get s t)] at h
      obtain ⟨place, _, _, hplace, h⟩ := on_bind_eq_ok h
      rw [on_lift, Prod.mk.injEq, Prod.mk.injEq] at hplace
      obtain ⟨_, rfl, rfl⟩ := hplace
      obtain ⟨script, _, _, hscript, h⟩ := on_bind_eq_ok h
      rw [on_lift, Prod.mk.injEq, Prod.mk.injEq] at hscript
      obtain ⟨_, rfl, rfl⟩ := hscript
      obtain ⟨recording, _, recorded, hrecording, h⟩ := on_bind_eq_ok h
      rw [on_request, Prod.mk.injEq, Prod.mk.injEq] at hrecording
      obtain ⟨_, rfl, _⟩ := hrecording
      rw [on_deliver] at h
      split at h
      · cases h
      · cases h
        exact ⟨by simpa using hopen, rfl, rfl, rfl⟩

/-- On a compiled scenario an attempt fails and changes nothing. -/
theorem on_attempt_of_compiled
    (hcompiled : s.compiled = true)
    (t : Tree)
    (attempt : Attempt) :
    on s t attempt.action = (.error (attempt.faultOn s), s, t) := by
  cases attempt with
  | call action args =>
      unfold Attempt.action Building.call
      rw [on_build]
      cases hvalues : args.bind action.parameters with
      | error fault =>
          rw [Building.on_bind_error (Building.on_lift s (.error fault))]
          simp only [Attempt.faultOn, Attempt.earlyFault?, hvalues, Option.getD_some]
      | ok values =>
          rw [Building.on_bind_ok (Building.on_lift s (.ok values)),
            Building.on_perform_of_compiled hcompiled (Arguments.length_of_bind hvalues)]
          simp only [Attempt.faultOn, Attempt.earlyFault?, hvalues]
  | compile recorder directory =>
      have hclosed : on s t (build Building.ensureOpen) = (.error (.alreadyCompiled s.name), s, t) := by
        rw [on_build, Building.on_ensureOpen_of_compiled hcompiled]
      exact on_bind_error (on_bind_error hclosed _) _

/-- Attempts on a compiled scenario all fail and change nothing. -/
theorem attemptAll_of_compiled
    (hcompiled : s.compiled = true)
    (t : Tree)
    (attempts : List Attempt) :
    attemptAll s t attempts = (attempts.map fun attempt => .error (attempt.faultOn s), s, t) := by
  induction attempts with
  | nil =>
      rfl
  | cons attempt rest ih =>
      rw [attemptAll, on_attempt_of_compiled hcompiled]
      dsimp only
      rw [ih]
      rfl

/-- An attempt says that the scenario is compiled unless it has met a fault of its arguments. -/
theorem kind_of_faultOn (s : Scenario) (attempt : Attempt) :
    (attempt.faultOn s).kind = .compiled ↔ attempt.earlyFault? s.fromUser = none := by
  unfold Attempt.faultOn
  cases hearly : attempt.earlyFault? s.fromUser with
  | none =>
      simp [Fault.kind]
  | some fault =>
      have hargument := Attempt.isOfArgument_of_earlyFault? hearly
      simp only [Option.getD_some, reduceCtorEq, iff_false]
      intro hkind
      rw [Fault.isOfArgument, hkind] at hargument
      cases hargument

end Lemmas

/--
**Compiled scenarios.**  After a compilation, attempts of any kind and number leave the scenario and
the file system as the compilation has left them, with the steps and the media that the scenario had
before.  Every one of them fails: it says that the scenario is compiled, unless it meets a fault
before it looks.
-/
theorem closed_of_compile
    {s done : Scenario} {t left : Tree} {recorder : Recorder (StateM Tree)} {directory : Value}
    {artifacts : Artifacts}
    (h : on s t (compileWith recorder directory) = (.ok artifacts, done, left))
    (attempts : List Attempt) :
    done.compiled = true ∧
      done.steps = s.steps ∧
      done.timeline = s.timeline ∧
      attemptAll done left attempts =
        (attempts.map fun attempt => .error (attempt.faultOn done), done, left) ∧
      ∀ attempt ∈ attempts,
        ((attempt.faultOn done).kind = .compiled ↔ attempt.earlyFault? done.fromUser = none) := by
  obtain ⟨_, hcompiled, hsteps, htimeline⟩ := compiled_of_compileWith h
  exact ⟨hcompiled, hsteps, htimeline, attemptAll_of_compiled hcompiled left attempts,
    fun attempt _ => kind_of_faultOn done attempt⟩

theorem on_compileWith_sample :
    on Scenario.sample vacant
        (compileWith (anywhere (Scenario.sample.pureRecorder clockAtRest)) .null) =
      (.ok emptyDraft.artifacts, Scenario.sample.finished emptyDraft, filled) :=
  compileWith_of_write rfl rfl rfl

/-- A rest of no possible length, a BYE and a second compilation: all of them come too late. -/
theorem closed_of_compile_sample :
    attemptAll (Scenario.sample.finished emptyDraft) filled
        [ .call .sleep ⟨[.text "x"], []⟩,
          .call .sendBye ⟨[], []⟩,
          .compile (anywhere fun _ => .error .overflow) (.integer 5) ] =
      (List.replicate 3 (.error (.alreadyCompiled "call")),
        Scenario.sample.finished emptyDraft, filled) :=
  (closed_of_compile on_compileWith_sample _).2.2.2.1

/--
A call that waits for no message fits its parameters, and on the compiled sample it fails at that
and does not say that the scenario is compiled.
-/
theorem unnoticed_of_receive_nothing :
    on Scenario.sample vacant
        (compileWith (anywhere (Scenario.sample.pureRecorder clockAtRest)) .null) =
      (.ok emptyDraft.artifacts, Scenario.sample.finished emptyDraft, filled) ∧
    Arguments.bind ⟨[], []⟩ Action.receive.parameters =
      .ok [.null, .null, .bool false, .bool false] ∧
    on (Scenario.sample.finished emptyDraft) filled (Attempt.call .receive ⟨[], []⟩).action =
      (.error .receiveNothing, Scenario.sample.finished emptyDraft, filled) ∧
    Fault.receiveNothing.kind = .validation :=
  ⟨on_compileWith_sample, rfl, rfl, rfl⟩

end Compiling
end CallScript
