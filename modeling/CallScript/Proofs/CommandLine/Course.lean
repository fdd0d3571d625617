import CallScript.CommandLine.Run
import CallScript.Proofs.Script.Determination

/-!
# Courses of runs

A run goes through its manifests one after the other and ends at the first one that fails.  What
it works on may be any world with a file system in it, such as one in which every request is
written down or one in which no two clocks show the same time.  Two worlds that are the same have
therefore been asked the same.

Main statements:
* `CommandLine.processAll_course`: a run over some manifests goes through all of them, or through
  those before the first one that fails and then through this one.
* `CommandLine.PassAll.not_of_fails`: it is one or the other where the fault is reported.
-/

namespace CallScript
namespace CommandLine

open Disk

/-- The job that choices ask for. -/
def Choices.job (choices : Choices) (settings : Settings) : Job where
  manifests := choices.manifests.map Path.ofText
  directory := directoryOf settings choices
  print := choices.print
  settings := settings

section Worlds

variable {σ : Type} [Storage (StateM σ)]

/-- Loading a manifest leads to a scenario or to a fault, and to a world. -/
def loading (settings : Settings) (path : Path) (w : σ) : Except Fault Scenario × σ :=
  let (outcome, after) := (Manifest.load path (.ok settings) : StateM σ Manifest.Outcome).run w
  (outcome.result, after)

/-- Compiling a scenario leads to its files or to a fault, and to a world. -/
def compiling (clock : StateM σ Capture.Clock) (directory : Value) (s : Scenario) (w : σ) :
    Except Fault Artifacts × σ :=
  let ((result, _), after) :=
    (((Compiling.compile clock directory : Compiling (StateM σ) Artifacts).run).run s).run w
  (result, after)

variable (clock : StateM σ Capture.Clock) (job : Job)

/-- A manifest that loads and, unless it is to be printed, compiles. -/
inductive Passes (path : Path) (w : σ) : Scenario → σ → Prop
  | loaded {s : Scenario} {after : σ} :
      job.print = true →
      loading job.settings path w = (.ok s, after) →
      Passes path w s after
  | compiled {s : Scenario} {between after : σ} {artifacts : Artifacts} :
      job.print = false →
      loading job.settings path w = (.ok s, between) →
      compiling clock job.directory s between = (.ok artifacts, after) →
      Passes path w s after

/-- A manifest that does not load, has no script to be printed, or does not compile. -/
inductive Fails (path : Path) (w : σ) : Fault → σ → Prop
  | unloaded {fault : Fault} {after : σ} :
      loading job.settings path w = (.error fault, after) →
      Fails path w fault after
  | unprinted {s : Scenario} {fault : Fault} {after : σ} :
      job.print = true →
      loading job.settings path w = (.ok s, after) →
      s.document = .error fault →
      Fails path w fault after
  | uncompiled {s : Scenario} {fault : Fault} {between after : σ} :
      job.print = false →
      loading job.settings path w = (.ok s, between) →
      compiling clock job.directory s between = (.error fault, after) →
      Fails path w fault after

/-- Manifests that pass one after the other, each in the world that the one before has left. -/
inductive PassAll : List Path → σ → List Scenario → σ → Prop
  | nil (w : σ) :
      PassAll [] w [] w
  | cons {path : Path} {rest : List Path} {w between after : σ} {s : Scenario}
      {scenarios : List Scenario} :
      Passes clock job path w s between →
      PassAll rest between scenarios after →
      PassAll (path :: rest) w (s :: scenarios) after

/-- The text that a scenario adds to the output. -/
def shown (job : Job) (s : Scenario) : Except Fault Text :=
  if job.print then s.document else .ok []

end Worlds

section Runs

variable {σ : Type} [Storage (StateM σ)]
variable {clock : StateM σ Capture.Clock} {job : Job}
variable {path : Path} {w between after other : σ} {s : Scenario} {fault : Fault}

omit [Storage (StateM σ)] in
theorem run_bind
    {α β : Type} (action : StateM σ α) (next : α → StateM σ β) (w : σ) :
    (action >>= next).run w = (next (action.run w).1).run (action.run w).2 := by
  rfl

theorem run_compileOne
    (clock : StateM σ Capture.Clock) (directory : Value)
    (path : Path) (s : Scenario) (w : σ) :
    ∃ notices,
      (compileOne clock directory path s : StateM σ Result).run w =
        (⟨(compiling clock directory s w).1.map fun _ => [], notices⟩,
          (compiling clock directory s w).2) := by
  unfold compileOne compiling
  rw [run_bind]
  rcases (((Compiling.compile clock directory : Compiling (StateM σ) Artifacts).run).run s).run
    w with ⟨⟨fault | artifacts, last⟩, after⟩
  · exact ⟨_, rfl⟩
  · exact ⟨_, rfl⟩

/-- **One manifest.**  It passes, and what it shows is added to the output, or it fails. -/
theorem processOne_course
    (clock : StateM σ Capture.Clock) (job : Job) (path : Path) (w : σ) :
    (∃ s text notices after,
      Passes clock job path w s after ∧
      shown job s = .ok text ∧
      (processOne clock job path).run w = (⟨.ok text, notices⟩, after)) ∨
    ∃ fault notices after,
      Fails clock job path w fault after ∧
      (processOne clock job path).run w = (⟨.error fault, notices⟩, after) := by
  rcases hload : (Manifest.load path (.ok job.settings) : StateM σ Manifest.Outcome).run w with
    ⟨⟨fault | s, journal⟩, between⟩
  · have hloading : loading job.settings path w = (.error fault, between) := by
      rw [loading, hload]
    refine .inr ⟨fault, journal, between, .unloaded hloading, ?_⟩
    rw [processOne, run_bind, hload]
    rfl
  · have hloading : loading job.settings path w = (.ok s, between) := by
      rw [loading, hload]
    have hprocess :
        (processOne clock job path).run w =
          if job.print then
            (⟨s.document, s.journal⟩, between)
          else
            (compileOne clock job.directory path s).run between := by
      rw [processOne, run_bind, hload]
      cases job.print <;> rfl
    cases hprint : job.print with
    | true =>
        rw [hprocess, hprint, if_pos rfl]
        cases hdocument : s.document with
        | error fault =>
            exact .inr ⟨fault, s.journal, between, .unprinted hprint hloading hdocument, rfl⟩
        | ok text =>
            refine .inl ⟨s, text, s.journal, between, .loaded hprint hloading, ?_, rfl⟩
            rw [shown, hprint, if_pos rfl, hdocument]
    | false =>
        obtain ⟨notices, hcompile⟩ := run_compileOne clock job.directory path s between
        rw [hprocess, hprint, if_neg (by decide), hcompile]
        rcases hcompiling : compiling clock job.directory s between with ⟨fault | artifacts, after⟩
        · exact .inr ⟨fault, notices, after, .uncompiled hprint hloading hcompiling, rfl⟩
        · refine .inl ⟨s, [], notices, after, .compiled hprint hloading hcompiling, ?_, rfl⟩
          rw [shown, hprint, if_neg (by decide)]

/--
**Manifests in order.**  A run over some manifests goes through all of them, or it goes through
those before one that fails and ends there, whatever manifests are to come.  Its output is what
the scenarios show in their order.
-/
theorem processAll_course
    (clock : StateM σ Capture.Clock) (job : Job)
    (output : Text) (notices : List Notice) (paths : List Path) (w : σ) :
    (∃ scenarios texts reported after,
      PassAll clock job paths w scenarios after ∧
      scenarios.mapM (shown job) = .ok texts ∧
      (processAll clock job output notices paths).run w =
        (⟨.status 0, output ++ Text.join texts, reported⟩, after)) ∨
    ∃ before path rest scenarios texts reported between fault after,
      paths = before ++ path :: rest ∧
      PassAll clock job before w scenarios between ∧
      Fails clock job path between fault after ∧
      scenarios.mapM (shown job) = .ok texts ∧
      ∀ others,
        (processAll clock job output notices (before ++ path :: others)).run w =
          (⟨if fault.isReported then .status 1 else .fault fault,
            output ++ Text.join texts, reported⟩, after) := by
  induction paths generalizing output notices w with
  | nil =>
      refine .inl ⟨[], [], notices, w, .nil w, rfl, ?_⟩
      rw [Text.join, List.flatten_nil, List.append_nil]
      rfl
  | cons path rest ih =>
      rcases processOne_course clock job path w with
        ⟨s, text, more, between, hpasses, hshown, hone⟩ | ⟨fault, more, after, hfails, hone⟩
      · -- The output and the notices so far only go in front, so the rest is a run of its own.
        have hrun : ∀ rest,
            (processAll clock job output notices (path :: rest)).run w =
              (processAll clock job (output ++ text) (notices ++ more) rest).run between := by
          intro rest
          rw [processAll, run_bind, hone]
        have htexts : ∀ {scenarios texts}, scenarios.mapM (shown job) = .ok texts →
            (s :: scenarios).mapM (shown job) = .ok (text :: texts) := by
          intro scenarios texts hmapped
          rw [List.mapM_cons, hshown, hmapped]
          rfl
        rcases ih (output ++ text) (notices ++ more) between with
          ⟨scenarios, texts, reported, after, hall, hmapped, hrest⟩ |
          ⟨before, failing, later, scenarios, texts, reported, last, fault, after, hsplit, hall,
            hfails, hmapped, hrest⟩
        · refine .inl ⟨s :: scenarios, text :: texts, reported, after, .cons hpasses hall,
            htexts hmapped, ?_⟩
          rw [hrun, hrest, List.append_assoc]
          rfl
        · refine .inr ⟨path :: before, failing, later, s :: scenarios, text :: texts, reported,
            last, fault, after, by rw [hsplit]; rfl, .cons hpasses hall, hfails, htexts hmapped,
            fun others => ?_⟩
          rw [List.cons_append, hrun, hrest, List.append_assoc]
          rfl
      · refine .inr ⟨[], path, rest, [], [],
          if fault.isReported then notices ++ more ++ [.failed path fault] else notices ++ more,
          w, fault, after, rfl, .nil w, hfails, rfl, fun others => ?_⟩
        rw [List.nil_append, processAll, run_bind, hone, Text.join, List.flatten_nil, List.append_nil]
        dsimp only
        cases fault.isReported <;> rfl

/-- In one world a manifest passes in one way. -/
theorem Passes.unique
    {t : Scenario}
    (h : Passes clock job path w s after)
    (hother : Passes clock job path w t other) :
    s = t ∧ after = other := by
  cases h with
  | loaded hprint hloading =>
      cases hother with
      | loaded _ hsecond =>
          rw [hloading] at hsecond
          cases hsecond
          exact ⟨rfl, rfl⟩
      | compiled hwritten =>
          rw [hprint] at hwritten
          cases hwritten
  | compiled hwritten hloading hcompiling =>
      cases hother with
      | loaded hprint =>
          rw [hprint] at hwritten
          cases hwritten
      | compiled _ hsecond hagain =>
          rw [hloading] at hsecond
          cases hsecond
          rw [hcompiling] at hagain
          cases hagain
          exact ⟨rfl, rfl⟩

theorem PassAll.unique
    {paths : List Path} {scenarios others : List Scenario}
    (h : PassAll clock job paths w scenarios after)
    (hother : PassAll clock job paths w others other) :
    scenarios = others ∧ after = other := by
  induction h generalizing others other with
  | nil w =>
      cases hother
      exact ⟨rfl, rfl⟩
  | cons hpasses _ ih =>
      cases hother with
      | cons hsecond hrest =>
          obtain ⟨rfl, rfl⟩ := hpasses.unique hsecond
          obtain ⟨rfl, rfl⟩ := ih hrest
          exact ⟨rfl, rfl⟩

/-- Where manifests pass, each of them passes in the world that those before it leave. -/
theorem PassAll.split
    {before rest : List Path} {scenarios : List Scenario}
    (h : PassAll clock job (before ++ path :: rest) w scenarios after) :
    ∃ earlier between s next,
      PassAll clock job before w earlier between ∧ Passes clock job path between s next := by
  induction before generalizing w scenarios with
  | nil =>
      cases h with
      | cons hpasses _ =>
          exact ⟨[], w, _, _, .nil w, hpasses⟩
  | cons first before ih =>
      cases h with
      | cons hpasses hrest =>
          obtain ⟨earlier, between, s, next, hbefore, hpath⟩ := ih hrest
          exact ⟨_, between, s, next, .cons hpasses hbefore, hpath⟩

end Runs

section Printing

open Script

theorem unreported_of_attributes
    {pairs : List (String × Value)} {fault : Fault}
    (h : attributes pairs = .error fault) :
    fault.isReported = false := by
  rw [attributes_eq] at h
  split at h
  · cases h
  · cases h
    rfl

theorem unreported_of_messageText
    {message : Value} {fault : Fault}
    (h : messageText message = .error fault) :
    fault.isReported = false := by
  unfold messageText at h
  split at h <;> cases h <;> rfl

theorem unreported_of_renderStep
    {step : Step} {fault : Fault}
    (h : renderStep step = .error fault) :
    fault.isReported = false := by
  cases step with
  | send message retrans =>
      rcases Result.bind_eq_error h with hattributes | ⟨_, _, h⟩
      · exact unreported_of_attributes hattributes
      · rcases Result.bind_eq_error h with hmessage | ⟨_, _, h⟩
        · exact unreported_of_messageText hmessage
        · cases h
  | _ =>
      rcases Result.bind_eq_error h with hattributes | ⟨_, _, h⟩
      · exact unreported_of_attributes hattributes
      · cases h

/-- A script that cannot be written is a fault that a run does not expect. -/
theorem unreported_of_document
    {s : Scenario} {fault : Fault}
    (h : s.document = .error fault) :
    fault.isReported = false := by
  have helements : ∀ steps : List Step,
      (steps.map Item.step).mapM renderItem = .error fault → fault.isReported = false := by
    intro steps
    induction steps with
    | nil =>
        intro hnone
        cases hnone
    | cons step rest ih =>
        intro hsome
        rw [List.map_cons, List.mapM_cons] at hsome
        rcases Result.bind_eq_error hsome with hstep | ⟨_, _, hsome⟩
        · exact unreported_of_renderStep hstep
        · rcases Result.bind_eq_error hsome with hrest | ⟨_, _, hnone⟩
          · exact ih hrest
          · cases hnone
  rcases Result.bind_eq_error h with hattributes | ⟨_, _, h⟩
  · exact unreported_of_attributes hattributes
  · rcases Result.bind_eq_error h with hsteps | ⟨_, _, h⟩
    · exact helements s.steps hsteps
    · cases h

/-- A manifest that passes can only fail in the printing of its script. -/
theorem Fails.unreported
    {σ : Type} [Storage (StateM σ)] {clock : StateM σ Capture.Clock} {job : Job}
    {path : Path} {w after other : σ} {s : Scenario} {fault : Fault}
    (h : Fails clock job path w fault after)
    (hpasses : Passes clock job path w s other) :
    fault.isReported = false := by
  cases h with
  | unloaded hloading =>
      cases hpasses with
      | loaded _ hsecond =>
          rw [hloading] at hsecond
          cases hsecond
      | compiled _ hsecond _ =>
          rw [hloading] at hsecond
          cases hsecond
  | unprinted _ _ hdocument =>
      exact unreported_of_document hdocument
  | uncompiled hwritten hloading hcompiling =>
      cases hpasses with
      | loaded hprint =>
          rw [hprint] at hwritten
          cases hwritten
      | compiled _ hsecond hagain =>
          rw [hloading] at hsecond
          cases hsecond
          rw [hcompiling] at hagain
          cases hagain

/-- Manifests of which one fails with a fault that is reported do not all pass. -/
theorem PassAll.not_of_fails
    {σ : Type} [Storage (StateM σ)] {clock : StateM σ Capture.Clock} {job : Job}
    {before rest : List Path} {path : Path} {scenarios others : List Scenario}
    {w between after final : σ} {fault : Fault}
    (hall : PassAll clock job before w scenarios between)
    (hfails : Fails clock job path between fault after)
    (hreported : fault.isReported = true) :
    ¬ PassAll clock job (before ++ path :: rest) w others final := by
  intro hpass
  -- What passes here could only fail in the printing of its script, and that is not reported.
  obtain ⟨earlier, reached, s, next, hbefore, hpath⟩ := hpass.split
  obtain ⟨_, rfl⟩ := hall.unique hbefore
  rw [hfails.unreported hpath] at hreported
  cases hreported

end Printing

end CommandLine
end CallScript
