import CallScript.Proofs.Scenario.Course

/-!
# Steps that calls add

The fields of a step hold what a caller gave, but not every step can be added.  A message is a text
and is sent again after the time that an INVITE has, or not at all; a wait takes whole
milliseconds; a message is waited for by its status or by its request; and what is played is the
capture of the scenario.

Main statements:
* `Building.preserves_call`: a call adds steps with the values it is given, the identity of the
  caller and the name of the capture, and no others.
* `Scenario.isBuilt_of_run`: whatever is done with a scenario, its steps are steps that calls add.
-/

namespace CallScript

/-- The steps that a call adds to a scenario whose capture has a name. -/
inductive Step.Built (capture : String) : Step → Prop
  | send (message : Text) :
      Built capture (.send (.text message) .null)
  | resend (message : Text) :
      Built capture (.send (.text message) (.integer Building.inviteRetransMs))
  | receive (response request optional rrs : Value) (one : response.isNull = !request.isNull) :
      Built capture (.receive response request optional rrs)
  | pause (milliseconds : Nat) :
      Built capture (.pause (.integer milliseconds))
  | play :
      Built capture (.play (.text capture))

/--
The steps that calls add, with the name of the capture, the identity of the caller and what holds
of the values of the calls.
-/
inductive Step.Added (capture : String) (caller : Value) (given : Value → Prop) : Step → Prop
  | invite {text : Text} (shown : Fault.plainText caller = .ok text) :
      Added capture caller given
        (.send (.text (Sip.invite text)) (.integer Building.inviteRetransMs))
  | ack {text : Text} (shown : Fault.plainText caller = .ok text) :
      Added capture caller given (.send (.text (Sip.ack text)) .null)
  | bye :
      Added capture caller given (.send (.text Sip.bye) .null)
  | okToBye :
      Added capture caller given (.send (.text Sip.okToBye) .null)
  | receive {response request optional rrs : Value} (one : response.isNull = !request.isNull)
      (values : ∀ value ∈ [response, request, optional, rrs], given value) :
      Added capture caller given (.receive response request optional rrs)
  | pause (milliseconds : Nat) :
      Added capture caller given (.pause (.integer milliseconds))
  | play :
      Added capture caller given (.play (.text capture))

/-- Holds of what holds of the values that actions use by themselves. -/
structure Action.IsUsual (given : Value → Prop) : Prop where
  nothing : given .null
  flag : ∀ b, given (.bool b)
  status : ∀ n, given (.integer n)
  method : given (.text "BYE")

namespace Step

variable {capture : String} {caller : Value} {given : Value → Prop} {step : Step}

theorem Added.built
    (h : step.Added capture caller given) :
    step.Built capture := by
  cases h with
  | invite shown =>
      exact .resend _
  | ack shown =>
      exact .send _
  | bye =>
      exact .send _
  | okToBye =>
      exact .send _
  | receive one values =>
      exact .receive _ _ _ _ one
  | pause milliseconds =>
      exact .pause milliseconds
  | play =>
      exact .play

theorem Added.mono
    {other : Value → Prop}
    (h : step.Added capture caller given)
    (hother : ∀ value, given value → other value) :
    step.Added capture caller other := by
  cases h with
  | invite shown =>
      exact .invite shown
  | ack shown =>
      exact .ack shown
  | bye =>
      exact .bye
  | okToBye =>
      exact .okToBye
  | receive one values =>
      exact .receive one fun value hvalue => hother value (values value hvalue)
  | pause milliseconds =>
      exact .pause milliseconds
  | play =>
      exact .play

/-- A step that waits for a message names either a response or a request. -/
theorem added_of_receive?
    {response request optional rrs : Value}
    (h : receive? response request optional rrs = .ok step)
    (hvalues : ∀ value ∈ [response, request, optional, rrs], given value) :
    step.Added capture caller given := by
  unfold receive? at h
  split at h
  · cases h
  · split at h
    · cases h
    · next hsome hone =>
        cases h
        refine .receive ?_ hvalues
        rw [Bool.and_eq_true, not_and, Bool.not_eq_true] at hsome
        rw [Bool.and_eq_true, not_and, Bool.not_eq_true', Bool.not_eq_true', Bool.not_eq_false] at hone
        cases hresponse : response.isNull with
        | true =>
            rw [hsome hresponse]
            rfl
        | false =>
            rw [hone hresponse]
            rfl

/-- A step that waits a whole number of milliseconds waits no negative one. -/
theorem added_of_pause?
    {milliseconds : Int}
    (h : pause? (.integer milliseconds) = .ok step) :
    step.Added capture caller given := by
  simp only [pause?, Value.number?, Number.isNegative, decide_eq_true_eq] at h
  split at h
  · cases h
  · next hnegative =>
      cases h
      obtain ⟨n, rfl⟩ := Int.eq_ofNat_of_zero_le (Int.not_lt.mp hnegative)
      exact .pause n

end Step

namespace Arguments

/-- The values of a call. -/
def values (args : Arguments) : List Value :=
  args.positional ++ args.named.map Prod.snd

/-- What holds of the values of a call and of the defaults holds of what parameters take. -/
theorem forall_of_fill
    {given : Value → Prop} {named : List (Value × Value)} {parameters : List Parameter}
    {positional values : List Value}
    (hpositional : ∀ value ∈ positional, given value)
    (hnamed : ∀ entry ∈ named, given entry.2)
    (hdefault : ∀ parameter ∈ parameters, ∀ value ∈ parameter.default, given value)
    (h : fill positional named parameters = .ok values) :
    ∀ value ∈ values, given value := by
  induction parameters generalizing positional values with
  | nil =>
      unfold fill at h
      split at h
      · cases h
        simp
      · cases h
  | cons parameter rest ih =>
      obtain ⟨hfirst, hrest⟩ := List.forall_mem_cons.mp hdefault
      cases positional with
      | cons value others =>
          obtain ⟨hvalue, hothers⟩ := List.forall_mem_cons.mp hpositional
          simp only [fill] at h
          split at h
          · cases h
          · obtain ⟨later, hlater, rfl⟩ := Result.map_eq_ok h
            exact List.forall_mem_cons.mpr ⟨hvalue, ih hothers hrest hlater⟩
      | nil =>
          obtain ⟨value, hvalue, h⟩ := Result.bind_eq_ok h
          obtain ⟨later, hlater, h⟩ := Result.bind_eq_ok h
          cases h
          refine List.forall_mem_cons.mpr ⟨?_, ih hpositional hrest hlater⟩
          unfold valueOf at hvalue
          split at hvalue
          · next found hfound =>
              cases hvalue
              obtain ⟨entry, hentry, rfl⟩ := Option.map_eq_some_iff.mp hfound
              exact hnamed entry (List.mem_of_find?_eq_some hentry)
          · split at hvalue
            · next default hsome =>
                cases hvalue
                exact hfirst _ hsome
            · cases hvalue

/-- What holds of the values of a call holds of the values that its action takes. -/
theorem forall_of_bind
    {given : Value → Prop} {args : Arguments} {action : Action} {values : List Value}
    (husual : Action.IsUsual given)
    (hargs : ∀ value ∈ args.values, given value)
    (h : args.bind action.parameters = .ok values) :
    ∀ value ∈ values, given value := by
  obtain ⟨hpositional, hnamed⟩ := List.forall_mem_append.mp hargs
  have hdefault : ∀ parameter ∈ action.parameters, ∀ value ∈ parameter.default, given value := by
    cases action <;>
      simp [Action.parameters, husual.nothing, husual.flag]
  unfold bind at h
  split at h
  · refine forall_of_fill hpositional ?_ hdefault h
    intro entry hentry
    exact hnamed entry.2 (List.mem_map_of_mem hentry)
  · cases h

end Arguments

/-- Holds of the scenarios in which every step is one that a call adds. -/
def Scenario.IsBuilt (s : Scenario) : Prop :=
  ∀ step ∈ s.steps, step.Built s.captureName

/-- A scenario with a capture and a caller whose steps all have a property. -/
structure Scenario.HasSteps (capture : String) (caller : Value) (property : Step → Prop)
    (s : Scenario) : Prop where
  capture : s.captureName = capture
  caller : s.fromUser = caller
  steps : ∀ step ∈ s.steps, property step

namespace Building

/-- Holds of the actions that keep a property of scenarios, whether they fail or not. -/
def Preserves {α : Type} (property : Scenario → Prop) (action : Building α) : Prop :=
  ∀ s, property s → property (on s action).2

section Sequences

variable {α β : Type} {property : Scenario → Prop}

theorem preserves_pure (a : α) :
    Preserves property (pure a : Building α) :=
  fun _ h => h

theorem preserves_throw (fault : Fault) :
    Preserves property (throw fault : Building α) :=
  fun _ h => h

theorem Preserves.bind
    {action : Building α} {next : α → Building β}
    (first : Preserves property action)
    (second : ∀ a, Preserves property (next a)) :
    Preserves property (action >>= next) := by
  intro s h
  have hfirst := first s h
  rw [on_bind]
  rcases hrun : on s action with ⟨fault | a, after⟩
  · rw [hrun] at hfirst
    exact hfirst
  · rw [hrun] at hfirst
    exact second a after hfirst

/-- A value that is computed first leaves the scenario to what follows. -/
theorem Preserves.lift_bind
    {result : Except Fault α} {next : α → Building β}
    (h : ∀ a, result = .ok a → Preserves property (next a)) :
    Preserves property (liftM result >>= next) := by
  intro s hs
  cases hresult : result with
  | error fault =>
      rw [on_bind_error (on_lift s (.error fault))]
      exact hs
  | ok a =>
      rw [on_bind_ok (on_lift s (.ok a))]
      exact h a hresult s hs

/-- What looks at the scenario first keeps a property when it does so there. -/
theorem preserves_get_bind
    {next : Scenario → Building β}
    (h : ∀ s, property s → property (on s (next s)).2) :
    Preserves property (get >>= next) := by
  intro s hs
  rw [on_bind_ok (on_get s)]
  exact h s hs

/-- A handler that only changes the fault keeps what the action keeps. -/
theorem Preserves.tryCatch_throw
    {action : Building α}
    (h : Preserves property action)
    (change : Fault → Fault) :
    Preserves property (tryCatch action fun fault => throw (change fault)) := by
  intro s hs
  have haction := h s hs
  rw [on_tryCatch]
  rcases hrun : on s action with ⟨fault | a, after⟩
  all_goals
    rw [hrun] at haction
    exact haction

theorem preserves_ensureOpen :
    Preserves property ensureOpen := by
  intro s hs
  rw [on_ensureOpen]
  split <;> exact hs

end Sequences

section Actions

open Scenario (HasSteps)

variable {capture : String} {caller : Value} {given : Value → Prop} {property : Step → Prop}

theorem preserves_addStep
    {step : Step}
    (hstep : property step) :
    Preserves (HasSteps capture caller property) (addStep step) := by
  intro s hs
  cases hcompiled : s.compiled with
  | true =>
      rw [on_addStep_of_compiled hcompiled]
      exact hs
  | false =>
      rw [on_addStep_of_open hcompiled]
      refine ⟨hs.capture, hs.caller, fun other hother => ?_⟩
      rcases List.mem_append.mp hother with hold | hnew
      · exact hs.steps other hold
      · rw [List.mem_singleton.mp hnew]
        exact hstep

theorem preserves_addToken (token : Media.Token) :
    Preserves (HasSteps capture caller property) (addToken token) :=
  fun _ hs => ⟨hs.capture, hs.caller, hs.steps⟩

theorem preserves_report (notice : Notice) :
    Preserves (HasSteps capture caller property) (report notice) :=
  fun _ hs => ⟨hs.capture, hs.caller, hs.steps⟩

variable (hadded : ∀ step, step.Added capture caller given → property step)
include hadded

theorem preserves_invite :
    Preserves (HasSteps capture caller property) invite := by
  unfold invite
  refine preserves_get_bind fun s hs => ?_
  refine Preserves.lift_bind (fun text htext => ?_) s hs
  rw [hs.caller] at htext
  exact preserves_addStep (hadded _ (.invite htext))

theorem preserves_receive
    {response request optional rrs : Value}
    (hvalues : ∀ value ∈ [response, request, optional, rrs], given value) :
    Preserves (HasSteps capture caller property) (receive response request optional rrs) := by
  unfold receive
  refine .lift_bind fun step hstep => ?_
  exact preserves_addStep (hadded _ (Step.added_of_receive? hstep hvalues))

theorem preserves_startMedia :
    Preserves (HasSteps capture caller property) startMedia := by
  unfold startMedia
  refine preserves_get_bind fun s hs => ?_
  rw [hs.capture]
  exact preserves_addStep (hadded _ .play) s hs

theorem preserves_ackAnswer :
    Preserves (HasSteps capture caller property) ackAnswer := by
  unfold ackAnswer
  refine preserves_get_bind fun s hs => ?_
  refine Preserves.lift_bind (fun text htext => ?_) s hs
  rw [hs.caller] at htext
  exact (preserves_addStep (hadded _ (.ack htext))).bind fun _ => preserves_startMedia hadded

theorem preserves_sleep (seconds : Value) :
    Preserves (HasSteps capture caller property) (sleep seconds) := by
  unfold sleep
  refine preserves_ensureOpen.bind fun _ => ?_
  refine .lift_bind fun duration _ => ?_
  refine .lift_bind fun step hstep => ?_
  refine (preserves_addStep (hadded _ (Step.added_of_pause? hstep))).bind fun _ => ?_
  exact .lift_bind fun token _ => preserves_addToken token

theorem preserves_playDigits (delayMs : Int) (digits : Text) :
    Preserves (HasSteps capture caller property) (playDigits delayMs digits) := by
  induction digits with
  | nil =>
      exact preserves_pure ()
  | cons mark rest ih =>
      unfold playDigits
      refine .lift_bind fun tone _ => (preserves_addToken tone).bind fun _ => ?_
      refine .lift_bind fun gap _ => (preserves_addToken gap).bind fun _ => ?_
      refine .lift_bind fun step hstep => ?_
      exact (preserves_addStep (hadded _ (Step.added_of_pause? hstep))).bind fun _ => ih

theorem preserves_sendDigits (digits delay : Value) :
    Preserves (HasSteps capture caller property) (sendDigits digits delay) := by
  unfold sendDigits
  refine preserves_ensureOpen.bind fun _ => .lift_bind fun text _ => ?_
  cases Media.Digit.invalid text with
  | cons mark others =>
      intro s hs
      rw [on_bind_error (on_throw s _)]
      exact hs
  | nil =>
      refine preserves_get_bind fun s hs => ?_
      refine Preserves.lift_bind (fun delayMs _ => ?_) s hs
      dsimp only
      split
      · exact (preserves_report _).bind fun _ => preserves_playDigits hadded delayMs text
      · exact preserves_playDigits hadded delayMs text

variable (husual : Action.IsUsual given)
include husual

theorem preserves_perform
    (action : Action)
    {values : List Value}
    (hvalues : ∀ value ∈ values, given value) :
    Preserves (HasSteps capture caller property) (perform action values) := by
  unfold perform
  split
  · exact preserves_invite hadded
  · exact preserves_receive hadded hvalues
  · exact preserves_receive hadded
      (by simpa [husual.nothing, husual.flag, husual.status] using hvalues)
  · exact preserves_receive hadded (by simp [husual.nothing, husual.flag, husual.status])
  · exact preserves_ackAnswer hadded
  · exact preserves_startMedia hadded
  · exact preserves_sleep hadded _
  · exact preserves_sendDigits hadded _ _
  · exact preserves_addStep (hadded _ .bye)
  · exact preserves_receive hadded (by simp [husual.nothing, husual.flag, husual.method])
  · exact preserves_addStep (hadded _ .okToBye)
  · exact preserves_throw _

/-- A call adds steps with the values it is given. -/
theorem preserves_call
    (action : Action)
    (args : Arguments)
    (hargs : ∀ value ∈ args.values, given value) :
    Preserves (HasSteps capture caller property) (call action args) := by
  unfold call
  refine .lift_bind fun values hvalues => ?_
  exact preserves_perform hadded husual action (Arguments.forall_of_bind husual hargs hvalues)

end Actions

end Building

namespace Manifest

open Building
open Scenario (HasSteps)

variable {capture : String} {caller : Value} {property : Step → Prop}
variable (hadded : ∀ step, step.Added capture caller (fun _ => True) → property step)
include hadded

theorem preserves_applyStep (step : Value) (index : Nat) :
    Preserves (HasSteps capture caller property) (applyStep step index) := by
  unfold applyStep
  refine .lift_bind fun line _ => ?_
  cases Action.ofName? line.action with
  | none =>
      exact preserves_throw _
  | some action =>
      have hcall :=
        (preserves_call hadded ⟨trivial, by simp, by simp, trivial⟩ action
          ⟨line.positional, line.named⟩ (by simp)).tryCatch_throw
          fun fault => if isWrapped fault then .stepFailed index line.action fault else fault
      dsimp only
      split
      · exact .lift_bind fun _ _ => hcall
      · exact hcall

theorem preserves_applyFrom (index : Nat) (steps : List Value) :
    Preserves (HasSteps capture caller property) (applyFrom index steps) := by
  induction steps generalizing index with
  | nil =>
      exact preserves_pure ()
  | cons step rest ih =>
      exact (preserves_applyStep hadded step index).bind fun _ => ih (index + 1)

end Manifest

/-- Holds of the moves whose values all have a property.  Manifests may have values of any kind. -/
def Move.Gives (given : Value → Prop) : Move → Prop
  | .call _ args => ∀ value ∈ args.values, given value
  | .manifest _ => ∀ value, given value

namespace Scenario

section Runs

variable {capture : String} {caller : Value} {given : Value → Prop} {property : Step → Prop}
variable {s : Scenario}

theorem HasSteps.follow
    (h : s.HasSteps capture caller property)
    (hadded : ∀ step, step.Added capture caller given → property step)
    (husual : Action.IsUsual given)
    {move : Move}
    (hmove : move.Gives given) :
    (s.follow move).2.HasSteps capture caller property := by
  cases move with
  | call action args =>
      exact Building.preserves_call hadded husual action _ hmove s h
  | manifest steps =>
      have hany : ∀ step, step.Added capture caller (fun _ => True) → property step := by
        intro step hstep
        exact hadded step (hstep.mono fun value _ => hmove value)
      exact Manifest.preserves_applyFrom hany 1 steps s h

/-- Moves add steps with the values they are given. -/
theorem HasSteps.run
    (h : s.HasSteps capture caller property)
    (hadded : ∀ step, step.Added capture caller given → property step)
    (husual : Action.IsUsual given)
    {moves : List Move}
    (hmoves : ∀ move ∈ moves, move.Gives given) :
    (s.run moves).HasSteps capture caller property := by
  induction moves generalizing s with
  | nil =>
      exact h
  | cons move rest ih =>
      obtain ⟨hmove, hrest⟩ := List.forall_mem_cons.mp hmoves
      exact ih (h.follow hadded husual hmove) hrest

theorem IsBuilt.hasSteps
    (h : s.IsBuilt) :
    s.HasSteps s.captureName s.fromUser (Step.Built s.captureName) :=
  ⟨rfl, rfl, h⟩

theorem HasSteps.isBuilt
    (h : s.HasSteps capture caller (Step.Built capture)) :
    s.IsBuilt := by
  intro step hstep
  rw [h.capture]
  exact h.steps step hstep

end Runs

theorem isBuilt_of_create
    {settings : Settings} {name : Option Text} {source destination fromUser : Value}
    {s : Scenario}
    (h : create settings name source destination fromUser = .ok s) :
    s.IsBuilt := by
  obtain ⟨hsteps, _, _⟩ := fresh_of_create h
  intro step hstep
  rw [hsteps] at hstep
  cases hstep

/--
**Steps of scenarios.**  Whatever is done with a scenario, failing calls included, its steps are
steps that calls add.
-/
theorem isBuilt_of_run
    {s : Scenario}
    (h : s.IsBuilt)
    (moves : List Move) :
    (s.run moves).IsBuilt := by
  have husual : Action.IsUsual fun _ => True := by
    constructor <;> simp
  have hmoves : ∀ move ∈ moves, move.Gives fun _ => True := by
    intro move _
    cases move <;> simp [Move.Gives]
  exact (h.hasSteps.run (fun _ hstep => hstep.built) husual hmoves).isBuilt

end Scenario
end CallScript
