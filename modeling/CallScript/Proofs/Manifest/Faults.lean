import CallScript.CommandLine.Run
import CallScript.Proofs.Disk.Requests
import CallScript.Proofs.Endpoint
import CallScript.Proofs.Manifest.Escapes

/-!
# Faults of manifests

What building a manifest ends with, and what a run makes of it.

Main statements:
* `Manifest.buildMap_escapes_iff`: a fault escapes from a manifest exactly where one of the
  required values has no text, or where it escapes from the first step that fails.
* `Manifest.built_or_reported`: a manifest without such causes is built, or it has a fault that
  ends a run with status 1.
-/

namespace CallScript
namespace Manifest

open Building Disk

section Mappings

variable {data : List (Value × Value)} {settings : Settings} {fault : Fault}

/-- An end that is given as a text has only faults of configuration. -/
theorem expected_of_endpoint
    {text : Text} {label : String}
    (h : Endpoint.ofValue (.text text) label = .error fault) :
    isExpected fault = true := by
  have hkind := Endpoint.configuration_of_ofValue h
  simp [isExpected, hkind]

theorem expected_of_scenario
    {name : Option Text} {source destination : Text} {fromUser : Value}
    (h : Scenario.create settings name (.text source) (.text destination) fromUser =
      .error fault) :
    isExpected fault = true := by
  unfold Scenario.create at h
  rcases Result.bind_eq_error h with hsource | ⟨_, _, h⟩
  · exact expected_of_endpoint hsource
  · rcases Result.bind_eq_error h with hdestination | ⟨_, _, h⟩
    · exact expected_of_endpoint hdestination
    · dsimp only at h
      split at h
      · cases h
        rfl
      · cases h

/-- A fault that creating a scenario ends with is expected, or a required value has no text. -/
theorem expected_or_long_of_create
    (h : create data (.ok settings) = .error fault) :
    isExpected fault = true ∨
      (fault = .numberLong ∧
        ∃ key ∈ requiredKeys, (Value.get data key).isShowable = false) := by
  unfold create at h
  rcases Result.bind_eq_error h with hname | ⟨_, _, h⟩
  · obtain ⟨hlong, rfl⟩ := Fault.plainText_eq_error hname
    exact .inr ⟨rfl, "name", by decide, hlong⟩
  rcases Result.bind_eq_error h with hsource | ⟨_, _, h⟩
  · obtain ⟨hlong, rfl⟩ := Fault.plainText_eq_error hsource
    exact .inr ⟨rfl, "source", by decide, hlong⟩
  rcases Result.bind_eq_error h with hdestination | ⟨_, _, h⟩
  · obtain ⟨hlong, rfl⟩ := Fault.plainText_eq_error hdestination
    exact .inr ⟨rfl, "destination", by decide, hlong⟩
  rw [Result.ok_bind] at h
  exact .inl (expected_of_scenario h)

theorem create_of_long
    {key : String}
    (hkey : key ∈ requiredKeys)
    (hlong : (Value.get data key).isShowable = false) :
    create data (.ok settings) = .error .numberLong := by
  unfold create
  rcases hname : Fault.plainText (Value.get data "name") with fault | name
  · obtain ⟨_, rfl⟩ := Fault.plainText_eq_error hname
    rfl
  rcases hsource : Fault.plainText (Value.get data "source") with fault | source
  · obtain ⟨_, rfl⟩ := Fault.plainText_eq_error hsource
    rfl
  rcases hdestination : Fault.plainText (Value.get data "destination") with fault | destination
  · obtain ⟨_, rfl⟩ := Fault.plainText_eq_error hdestination
    rfl
  have hshowable : ∀ known ∈ requiredKeys, (Value.get data known).isShowable = true := by
    simp only [requiredKeys, List.forall_mem_cons, List.not_mem_nil, false_implies,
      implies_true, and_true]
    exact ⟨(Fault.plainText_eq_ok hname).1, (Fault.plainText_eq_ok hsource).1,
      (Fault.plainText_eq_ok hdestination).1⟩
  rw [hshowable key hkey] at hlong
  cases hlong

theorem fresh_of_create
    {start : Scenario}
    (h : create data (.ok settings) = .ok start) :
    start.settings = settings ∧ start.compiled = false := by
  unfold create at h
  obtain ⟨_, _, h⟩ := Result.bind_eq_ok h
  obtain ⟨_, _, h⟩ := Result.bind_eq_ok h
  obtain ⟨_, _, h⟩ := Result.bind_eq_ok h
  rw [Result.ok_bind] at h
  unfold Scenario.create at h
  obtain ⟨_, _, h⟩ := Result.bind_eq_ok h
  obtain ⟨_, _, h⟩ := Result.bind_eq_ok h
  dsimp only at h
  split at h
  · cases h
  · cases h
    exact ⟨rfl, rfl⟩

/-- The mapping has all the keys that it needs, and these are its steps. -/
def HasSteps (data : List (Value × Value)) (steps : List Value) : Prop :=
  (∀ key ∈ requiredKeys, (Value.get data key).isSet = true) ∧ stepsOf data = .ok steps

/-- A mapping without its keys or its steps has an expected fault. -/
theorem expected_of_incomplete
    (h : (buildMap data (.ok settings)).result = .error fault)
    (hsteps : ∀ steps, ¬ HasSteps data steps) :
    isExpected fault = true := by
  unfold buildMap at h
  split at h
  · cases h
    rfl
  · next hset =>
      split at h
      · next hfault =>
          cases h
          unfold stepsOf at hfault
          dsimp only at hfault
          split at hfault
          · cases hfault
          · split at hfault
            · cases hfault
              rfl
            · cases hfault
      · next steps hfound =>
          refine absurd ⟨fun key hkey => ?_, hfound⟩ (hsteps steps)
          simpa using List.find?_eq_none.mp hset key hkey

/-- A mapping with its keys and its steps is a scenario that is created, and its steps. -/
theorem buildMap_of_steps
    {steps : List Value}
    (hsteps : HasSteps data steps) :
    (buildMap data (.ok settings)).result = .error fault ↔
      create data (.ok settings) = .error fault ∨
        ∃ start,
          create data (.ok settings) = .ok start ∧
          (finish start steps).1 = .error fault := by
  have hset : requiredKeys.find? (fun key => !(Value.get data key).isSet) = none := by
    rw [List.find?_eq_none]
    intro key hkey
    rw [hsteps.1 key hkey]
    decide
  unfold buildMap
  rw [hset, hsteps.2]
  dsimp only
  cases hstart : create data (.ok settings) with
  | error other =>
      simp
  | ok start =>
      rcases hrun : finish start steps with ⟨other | _, after⟩ <;> simp [hrun]

/--
**Faults that escape.**  A fault escapes from a manifest with its keys and its steps exactly where
one of the required values has no text, or where the scenario is created and the fault escapes
from the first step that fails.
-/
theorem buildMap_escapes_iff :
    ((buildMap data (.ok settings)).result = .error fault ∧ isExpected fault = false) ↔
      ∃ steps,
        HasSteps data steps ∧
        ((fault = .numberLong ∧
            ∃ key ∈ requiredKeys, (Value.get data key).isShowable = false) ∨
          ∃ start before step after,
            steps = before ++ step :: after ∧
            create data (.ok settings) = .ok start ∧
            (finish start before).1 = .ok () ∧
            Escapes settings step (1 + before.length) fault) := by
  constructor
  · rintro ⟨hfault, hunexpected⟩
    by_cases hsteps : ∃ steps, HasSteps data steps
    · obtain ⟨steps, hsteps⟩ := hsteps
      refine ⟨steps, hsteps, ?_⟩
      rcases (buildMap_of_steps hsteps).mp hfault with hcreate | ⟨start, hstart, hfails⟩
      · rcases expected_or_long_of_create hcreate with hexpected | hlong
        · rw [hexpected] at hunexpected
          cases hunexpected
        · exact .inl hlong
      · obtain ⟨hsettings, hopen⟩ := fresh_of_create hstart
        -- Steps are numbered from one, and so is the step that fails.
        obtain ⟨before, step, after, hsplit, hbefore, hescapes⟩ :=
          (applyFrom_escapes_iff hopen 1 steps).mp ⟨hfails, hunexpected⟩
        rw [hsettings] at hescapes
        exact .inr ⟨start, before, step, after, hsplit, hstart, hbefore, hescapes⟩
    · rw [expected_of_incomplete hfault (not_exists.mp hsteps)] at hunexpected
      cases hunexpected
  · rintro ⟨steps, hsteps, ⟨rfl, key, hkey, hlong⟩ |
      ⟨start, before, step, after, hsplit, hstart, hbefore, hescapes⟩⟩
    · exact ⟨(buildMap_of_steps hsteps).mpr (.inl (create_of_long hkey hlong)), rfl⟩
    · obtain ⟨hsettings, hopen⟩ := fresh_of_create hstart
      rw [← hsettings] at hescapes
      have hfails := (applyFrom_escapes_iff hopen 1 steps).mpr
        ⟨before, step, after, hsplit, hbefore, hescapes⟩
      exact ⟨(buildMap_of_steps hsteps).mpr (.inr ⟨start, hstart, hfails.1⟩), hfails.2⟩

end Mappings

section Reports

/-- A fault that a manifest may have is one that a run reports. -/
theorem reported_of_expected
    {fault : Fault}
    (h : isExpected fault = true) :
    fault.isReported = true := by
  unfold isExpected at h
  unfold Fault.isReported
  cases hkind : fault.kind <;> rw [hkind] at h <;> first | rfl | cases h

/-- A run ends with status 1 at a manifest that is read and has a fault that is reported. -/
theorem processAll_of_fault
    {job : CommandLine.Job} {path : Path} {bytes : Bytes} {data : List (Value × Value)}
    {tree left : Tree} {fault : Fault}
    (hread : (Storage.read path : StateM Tree _).run tree = (.ok bytes, left))
    (hparse : parse path bytes = .ok data)
    (hfault : (buildMap data (.ok job.settings)).result = .error fault)
    (hreported : fault.isReported = true)
    (clock : StateM Tree Capture.Clock) (output : Text) (notices : List Notice)
    (rest : List Path) :
    (CommandLine.processAll clock job output notices (path :: rest)).run tree =
      (⟨.status 1, output,
        notices ++ (buildMap data (.ok job.settings)).journal ++ [.failed path fault]⟩, left) := by
  have hload :
      (load path (.ok job.settings) : StateM Tree Outcome).run tree =
        (buildMap data (.ok job.settings), left) := by
    unfold load
    rw [Tree.run_bind, hread]
    simp only [buildFile, hparse]
    rfl
  have hone :
      (CommandLine.processOne clock job path).run tree =
        (⟨.error fault, (buildMap data (.ok job.settings)).journal⟩, left) := by
    unfold CommandLine.processOne
    rw [Tree.run_bind, hload]
    simp only [hfault]
    rfl
  rw [CommandLine.processAll, Tree.run_bind, hone]
  simp only [hreported]
  rfl

/--
**Manifests with faults.**  A manifest in whose required values every whole number has a text, and
from whose steps no fault escapes, is built, or it has a fault of configuration or of validation.
Such a fault ends a run, at whatever place in it the manifest is read, with the line of the fault
and with status 1.
-/
theorem built_or_reported
    (data : List (Value × Value)) (settings : Settings)
    (hrequired : ∀ key ∈ requiredKeys, (Value.get data key).isShowable = true)
    (hsteps : ∀ steps, stepsOf data = .ok steps →
      ∀ step ∈ steps, ∀ index fault, ¬ Escapes settings step index fault) :
    (∃ s, (buildMap data (.ok settings)).result = .ok s) ∨
      ∃ fault,
        (buildMap data (.ok settings)).result = .error fault ∧
        (fault.kind = .configuration ∨ fault.kind = .validation) ∧
        ∀ (clock : StateM Tree Capture.Clock) (job : CommandLine.Job) (path : Path)
          (bytes : Bytes) (output : Text) (notices : List Notice) (rest : List Path)
          (tree left : Tree),
          job.settings = settings →
          (Storage.read path : StateM Tree _).run tree = (.ok bytes, left) →
          parse path bytes = .ok data →
          (CommandLine.processAll clock job output notices (path :: rest)).run tree =
            (⟨.status 1, output,
              notices ++ (buildMap data (.ok settings)).journal ++ [.failed path fault]⟩,
              left) := by
  cases hresult : (buildMap data (.ok settings)).result with
  | ok s =>
      exact .inl ⟨s, rfl⟩
  | error fault =>
      refine .inr ⟨fault, rfl, ?_⟩
      have hexpected : isExpected fault = true := by
        rw [← Bool.not_eq_false]
        intro hunexpected
        obtain ⟨steps, ⟨_, hfound⟩, ⟨_, key, hkey, hlong⟩ |
          ⟨_, before, step, after, rfl, _, _, hescapes⟩⟩ :=
          buildMap_escapes_iff.mp ⟨hresult, hunexpected⟩
        · rw [hrequired key hkey] at hlong
          cases hlong
        · exact hsteps _ hfound step (by simp) _ fault hescapes
      refine ⟨by simpa [isExpected] using hexpected, ?_⟩
      rintro clock job path bytes output notices rest tree left rfl hread hparse
      exact processAll_of_fault hread hparse hresult (reported_of_expected hexpected) clock
        output notices rest

/-- A step that rests for some seconds. -/
def restFor (seconds : Binary64) : Value :=
  .map [(.text "sleep", .real seconds)]

/-- A manifest of a call between two hosts. -/
def callOf (steps : List Value) : List (Value × Value) :=
  [ (.text "name", .text "call"), (.text "source", .text "a:1"),
    (.text "destination", .text "b:2"), (.text "steps", .list steps) ]

/-- A fault escapes from a rest exactly when its milliseconds are infinitely many. -/
theorem escapes_restFor_iff
    {settings : Settings} {seconds : Binary64} {index : Nat} {fault : Fault} :
    Escapes settings (restFor seconds) index fault ↔
      fault = .overflow ∧ seconds.mul (.ofInt 1000) = .infinite false := by
  have hread :
      Line.ofValue (restFor seconds) index = .ok ⟨"sleep", [.real seconds], []⟩ := rfl
  have hname : Action.ofName? "sleep" = some .sleep := by decide
  constructor
  · intro h
    cases h with
    | name hentry hlong =>
        cases hentry
        cases hlong
    | shape hstrange _ =>
        exact absurd rfl (hstrange _ _)
    | digits hline hplays =>
        rw [hread] at hline
        cases hline
        rw [hname] at hplays
        cases hplays
    | duration hline hcalls _ htakes hasks hboundless =>
        rw [hread] at hline
        cases hline
        rw [hname] at hcalls
        cases hcalls
        cases htakes
        cases hasks
        obtain ⟨x, hnumber, hproduct⟩ := hboundless
        cases hnumber
        exact ⟨rfl, hproduct⟩
  · rintro ⟨rfl, hproduct⟩
    have hasks :
        Action.sleep.duration? settings [.real seconds] = some (.real seconds) := rfl
    exact .duration hread hname (fun h => by cases h) rfl hasks ⟨seconds, rfl, hproduct⟩

/-- A rest for what is not a number is a fault that is reported. -/
theorem reported_of_rest_without_number :
    ∃ fault,
      (buildMap (callOf [restFor .nan]) (.ok .standard)).result = .error fault ∧
      (fault.kind = .configuration ∨ fault.kind = .validation) := by
  have hsteps : stepsOf (callOf [restFor .nan]) = .ok [restFor .nan] := rfl
  have hcauses :
      ∀ steps, stepsOf (callOf [restFor .nan]) = .ok steps →
        ∀ step ∈ steps, ∀ index fault, ¬ Escapes .standard step index fault := by
    intro steps hfound step hstep index fault hescapes
    rw [hsteps] at hfound
    cases hfound
    cases List.mem_singleton.mp hstep
    cases (escapes_restFor_iff.mp hescapes).2
  rcases built_or_reported (callOf [restFor .nan]) .standard (by decide) hcauses with
    ⟨s, hbuilt⟩ | ⟨fault, hfault, hkind, _⟩
  · cases hbuilt
  · exact ⟨fault, hfault, hkind⟩

/-- A rest without end is a fault that escapes. -/
theorem overflow_of_endless_rest :
    ¬ ∀ (data : List (Value × Value)) (settings : Settings),
        (∃ s, (buildMap data (.ok settings)).result = .ok s) ∨
          ∃ fault,
            (buildMap data (.ok settings)).result = .error fault ∧
            (fault.kind = .configuration ∨ fault.kind = .validation) := by
  intro h
  have hresult :
      (buildMap (callOf [restFor (.infinite false)]) (.ok .standard)).result =
        .error .overflow := rfl
  rcases h (callOf [restFor (.infinite false)]) .standard with ⟨s, hbuilt⟩ | ⟨fault, hfault, hkind⟩
  · rw [hresult] at hbuilt
    cases hbuilt
  · rw [hresult] at hfault
    cases hfault
    revert hkind
    decide

end Reports

end Manifest
end CallScript
