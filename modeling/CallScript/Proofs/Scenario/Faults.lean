import CallScript.Proofs.Result
import CallScript.Proofs.Scenario.Outcome

/-!
# Faults of calls

What a call of an action on an open scenario fails with, and which of its arguments make it fail
with what.

Main statements:
* `Building.call_failsBy`: a call fails by one of its arguments, or it asks for a duration that is
  beyond every number of milliseconds.
* `Building.on_call_of_boundless`: a call that asks for such a duration always fails.
-/

namespace CallScript

open Media

/-- Holds of the durations whose number of milliseconds is beyond the greatest number. -/
def Value.IsBoundless (duration : Value) : Prop :=
  ∃ x, duration.number? = some (.real x) ∧ x.mul (.ofInt 1000) = .infinite false

/-- Holds of the faults of an argument, which does not fit, has no text or is out of range. -/
def Fault.isOfArgument (fault : Fault) : Bool :=
  [Kind.argument, .value, .validation].contains fault.kind

/-- The duration that an action asks for, if its values before the duration are accepted. -/
def Action.duration? (settings : Settings) : Action → List Value → Option Value
  | sleep, [seconds] => some seconds
  | sendDigits, [digits, delay] =>
      if digits.isShowable ∧ Digit.invalid digits.plain = [] then
        some (if delay.isNull then .real settings.defaultDigitDelay else delay)
      else
        none
  | _, _ => none

theorem Fault.showing_isOfArgument
    {fault : Fault}
    (h : fault.isOfArgument = true)
    (value : Value) :
    (showing value fault).isOfArgument = true := by
  unfold showing
  split
  · exact h
  · rfl

/-- Only values that have a text yield it. -/
theorem Fault.plainText_eq_ok
    {value : Value} {text : Text}
    (h : plainText value = .ok text) :
    value.isShowable = true ∧ value.plain = text := by
  unfold plainText at h
  split at h
  · next hshowable =>
      cases h
      exact ⟨hshowable, rfl⟩
  · cases h

/-- A value without a text yields the fault of a long number. -/
theorem Fault.plainText_eq_error
    {value : Value} {fault : Fault}
    (h : plainText value = .error fault) :
    value.isShowable = false ∧ fault = .numberLong := by
  unfold plainText at h
  split at h
  · cases h
  · next hlong =>
      cases h
      exact ⟨Bool.eq_false_iff.mpr hlong, rfl⟩

theorem Fault.isOfArgument_of_plainText
    {value : Value} {fault : Fault}
    (h : plainText value = .error fault) :
    fault.isOfArgument = true := by
  obtain ⟨_, rfl⟩ := plainText_eq_error h
  rfl

theorem Arguments.isOfArgument_of_fill
    {positional : List Value} {named : List (Value × Value)} {parameters : List Parameter}
    {fault : Fault}
    (h : fill positional named parameters = .error fault) :
    fault.isOfArgument = true := by
  induction parameters generalizing positional fault with
  | nil =>
      unfold fill at h
      split at h
      · cases h
      · cases h
        rfl
  | cons parameter rest ih =>
      cases positional with
      | nil =>
          rw [fill] at h
          rcases Result.bind_eq_error h with hvalue | ⟨value, _, h⟩
          · unfold valueOf at hvalue
            split at hvalue
            · cases hvalue
            · split at hvalue
              · cases hvalue
              · cases hvalue
                rfl
          · rcases Result.bind_eq_error h with hvalues | ⟨values, _, h⟩
            · exact ih hvalues
            · cases h
      | cons value others =>
          rw [fill] at h
          split at h
          · cases h
            rfl
          · exact ih (Result.map_eq_error h)

theorem Arguments.isOfArgument_of_bind
    {args : Arguments} {parameters : List Parameter} {fault : Fault}
    (h : args.bind parameters = .error fault) :
    fault.isOfArgument = true := by
  unfold Arguments.bind at h
  split at h
  · exact isOfArgument_of_fill h
  · cases h
    rfl

theorem Step.isOfArgument_of_receive?
    {response request optional rrs : Value} {fault : Fault}
    (h : receive? response request optional rrs = .error fault) :
    fault.isOfArgument = true := by
  unfold receive? at h
  split at h
  · cases h
    rfl
  · split at h
    · cases h
      rfl
    · cases h

namespace Building

/-- A duration is a fault of the argument, unless it is beyond every number of milliseconds. -/
theorem fault_of_milliseconds
    {seconds : Value} {what : String} {fault : Fault}
    (h : milliseconds seconds what = .error fault) :
    fault.isOfArgument = true ∨ (fault = .overflow ∧ seconds.IsBoundless) := by
  unfold milliseconds at h
  cases hnumber : seconds.number? with
  | none =>
      rw [hnumber] at h
      cases h
      exact .inl rfl
  | some number =>
      simp only [hnumber] at h
      split at h
      · cases h
        exact .inl (Fault.showing_isOfArgument rfl seconds)
      · next hsign =>
          cases number with
          | whole n =>
              cases h
          | real x =>
              simp only [Number.isNegative, Bool.not_eq_true] at hsign
              have hproduct : (x.mul (.ofInt 1000)).isNegative = false :=
                Binary64.mul_isNegative hsign (Binary64.ofInt_isNegative (by decide))
              simp only at h
              split at h
              · cases h
                exact .inl rfl
              · next negative hinfinite =>
                  -- The seconds are not below zero here, and neither is their product.
                  cases h
                  rw [hinfinite] at hproduct
                  cases hproduct
                  exact .inr ⟨rfl, x, hnumber, hinfinite⟩
              · next product hnan hinfinite =>
                  split at h
                  · cases h
                  · next hround =>
                      cases hproduct : x.mul (.ofInt 1000) with
                      | nan =>
                          exact absurd hproduct hnan
                      | infinite negative =>
                          exact absurd hproduct (hinfinite negative)
                      | finite negative mantissa exponent =>
                          rw [hproduct] at hround
                          cases hround

/-- A duration beyond every number of milliseconds overflows. -/
theorem milliseconds_of_boundless
    {seconds : Value}
    (h : seconds.IsBoundless)
    (what : String) :
    milliseconds seconds what = .error .overflow := by
  obtain ⟨x, hnumber, hproduct⟩ := h
  have hsign : x.isNegative = false := by
    rw [Bool.eq_false_iff]
    intro hnegative
    exact Binary64.mul_ne_infinite hnegative (Binary64.ofInt_isNegative (by decide)) hproduct
  simp [milliseconds, hnumber, Number.isNegative, hsign, hproduct]

section Reasons

variable {α β : Type} {s after : Scenario} {reason : Fault → Prop}

/-- Holds of the actions whose faults all have a reason. -/
def FailsBy (s : Scenario) (action : Building α) (reason : Fault → Prop) : Prop :=
  ∀ fault, (on s action).1 = .error fault → reason fault

theorem FailsBy.of_ok
    {action : Building α} {a : α}
    (h : on s action = (.ok a, after)) :
    FailsBy s action reason := by
  intro fault hfault
  rw [h] at hfault
  cases hfault

/-- An action after one that succeeds has the faults of a sequence. -/
theorem FailsBy.ok_bind
    {action : Building α} {a : α} {next : α → Building β}
    (hrun : on s action = (.ok a, after))
    (h : FailsBy after (next a) reason) :
    FailsBy s (action >>= next) reason := by
  intro fault hfault
  rw [on_bind_ok hrun] at hfault
  exact h fault hfault

/-- A value that is computed first has its faults, and else the sequence has those of the rest. -/
theorem FailsBy.lift_bind
    {result : Except Fault α} {next : α → Building β}
    (herror : ∀ fault, result = .error fault → reason fault)
    (hok : ∀ a, result = .ok a → FailsBy s (next a) reason) :
    FailsBy s (liftM result >>= next) reason := by
  cases hresult : result with
  | error other =>
      intro fault hfault
      rw [on_bind_error (on_lift s (.error other))] at hfault
      cases hfault
      exact herror _ hresult
  | ok a =>
      exact (hok a hresult).ok_bind (on_lift s (.ok a))

end Reasons

section Calls

variable {s : Scenario}

theorem addStep_failsBy
    {reason : Fault → Prop}
    (hopen : s.compiled = false)
    (step : Step) :
    FailsBy s (addStep step) reason :=
  .of_ok (on_addStep_of_open hopen step)

theorem receive_failsBy
    (hopen : s.compiled = false)
    (response request optional rrs : Value) :
    FailsBy s (receive response request optional rrs) (·.isOfArgument = true) := by
  unfold receive
  refine .lift_bind (fun fault => Step.isOfArgument_of_receive?) ?_
  intro step _
  exact addStep_failsBy hopen step

theorem invite_failsBy
    (hopen : s.compiled = false) :
    FailsBy s invite (·.isOfArgument = true) := by
  unfold invite
  refine .ok_bind (on_get s) (.lift_bind (fun fault => Fault.isOfArgument_of_plainText) ?_)
  intro caller _
  exact addStep_failsBy hopen _

theorem startMedia_failsBy
    {reason : Fault → Prop}
    (hopen : s.compiled = false) :
    FailsBy s startMedia reason := by
  unfold startMedia
  exact .ok_bind (on_get s) (addStep_failsBy hopen _)

theorem ackAnswer_failsBy
    (hopen : s.compiled = false) :
    FailsBy s ackAnswer (·.isOfArgument = true) := by
  unfold ackAnswer
  refine .ok_bind (on_get s) (.lift_bind (fun fault => Fault.isOfArgument_of_plainText) ?_)
  intro caller _
  exact .ok_bind (on_addStep_of_open hopen _) (startMedia_failsBy hopen)

theorem on_ensureOpen_of_open
    (hopen : s.compiled = false) :
    on s ensureOpen = (.ok (), s) := by
  rw [on_ensureOpen, hopen]
  rfl

/-- What follows the duration of a rest never fails. -/
theorem sleep_failsBy
    (hopen : s.compiled = false)
    (seconds : Value) :
    FailsBy s (sleep seconds) fun fault =>
      fault.isOfArgument = true ∨ (fault = .overflow ∧ seconds.IsBoundless) := by
  unfold sleep
  refine .ok_bind (on_ensureOpen_of_open hopen) (.lift_bind (fun fault => fault_of_milliseconds) ?_)
  intro duration hduration
  obtain ⟨n, rfl⟩ := Int.eq_ofNat_of_zero_le (milliseconds_nonneg hduration)
  rw [pause?_natCast, silence?_natCast]
  refine .ok_bind (on_lift s _) (.ok_bind (on_addStep_of_open hopen _) ?_)
  exact .ok_bind (on_lift _ _) (.of_ok (on_addToken _ _))

/-- What follows the delay between digits never fails. -/
theorem sendDigits_failsBy
    (hopen : s.compiled = false)
    (digits delay : Value) :
    FailsBy s (sendDigits digits delay) fun fault =>
      fault.isOfArgument = true ∨
        (fault = .overflow ∧
          ∃ duration,
            Action.sendDigits.duration? s.settings [digits, delay] = some duration ∧
            duration.IsBoundless) := by
  unfold sendDigits
  refine .ok_bind (on_ensureOpen_of_open hopen) (.lift_bind ?_ ?_)
  · intro fault hfault
    exact .inl (Fault.isOfArgument_of_plainText hfault)
  intro text htext
  obtain ⟨hshowable, rfl⟩ := Fault.plainText_eq_ok htext
  cases hinvalid : Digit.invalid digits.plain with
  | cons mark others =>
      intro fault hfault
      rw [on_bind_error (on_throw s _)] at hfault
      cases hfault
      exact .inl rfl
  | nil =>
      refine .ok_bind (on_get s) (.lift_bind ?_ ?_)
      · intro fault hfault
        refine (fault_of_milliseconds hfault).imp_right ?_
        rintro ⟨hoverflow, hboundless⟩
        exact ⟨hoverflow, _, if_pos ⟨hshowable, hinvalid⟩, hboundless⟩
      · intro delayMs hdelay
        -- All marks are keys and the delay is no negative number, so nothing below can fail.
        obtain ⟨keys, hkeys⟩ := Digit.exists_textOf_of_invalid hinvalid
        obtain ⟨gapMs, rfl⟩ := Int.eq_ofNat_of_zero_le (milliseconds_nonneg hdelay)
        rw [hkeys]
        split
        · exact .ok_bind (on_report s _) (.of_ok (on_playDigits keys gapMs (by exact hopen)))
        · exact .of_ok (on_playDigits keys gapMs hopen)

/-- An action fails by one of its values, or by a duration beyond every number of milliseconds. -/
theorem perform_failsBy
    (hopen : s.compiled = false)
    (action : Action) (values : List Value) :
    FailsBy s (perform action values) fun fault =>
      fault.isOfArgument = true ∨
        (fault = .overflow ∧
          ∃ duration,
            action.duration? s.settings values = some duration ∧ duration.IsBoundless) := by
  have hstep : ∀ step, FailsBy s (addStep step) (·.isOfArgument = true) :=
    addStep_failsBy hopen
  have hreceive : ∀ response request optional rrs,
      FailsBy s (receive response request optional rrs) (·.isOfArgument = true) :=
    receive_failsBy hopen
  unfold perform
  split
  · exact fun fault h => .inl (invite_failsBy hopen fault h)
  · exact fun fault h => .inl (hreceive _ _ _ _ fault h)
  · exact fun fault h => .inl (hreceive _ _ _ _ fault h)
  · exact fun fault h => .inl (hreceive _ _ _ _ fault h)
  · exact fun fault h => .inl (ackAnswer_failsBy hopen fault h)
  · exact startMedia_failsBy hopen
  · next seconds =>
      intro fault h
      refine (sleep_failsBy hopen seconds fault h).imp_right ?_
      exact fun ⟨hoverflow, hboundless⟩ => ⟨hoverflow, seconds, rfl, hboundless⟩
  · exact sendDigits_failsBy hopen _ _
  · exact fun fault h => .inl (hstep _ fault h)
  · exact fun fault h => .inl (hreceive _ _ _ _ fault h)
  · exact fun fault h => .inl (hstep _ fault h)
  · intro fault h
    rw [on_throw] at h
    cases h
    exact .inl rfl

/--
**Faults of calls.**  A call on an open scenario fails by one of its arguments, or it asks for a
duration that is beyond every number of milliseconds and overflows.
-/
theorem call_failsBy
    (hopen : s.compiled = false)
    (action : Action) (args : Arguments) :
    FailsBy s (call action args) fun fault =>
      fault.isOfArgument = true ∨
        (fault = .overflow ∧
          ∃ values duration,
            args.bind action.parameters = .ok values ∧
            action.duration? s.settings values = some duration ∧
            duration.IsBoundless) := by
  unfold call
  refine .lift_bind (fun fault h => .inl (Arguments.isOfArgument_of_bind h)) ?_
  intro values hvalues fault hfault
  refine (perform_failsBy hopen action values fault hfault).imp_right ?_
  rintro ⟨hoverflow, duration, hduration, hboundless⟩
  exact ⟨hoverflow, values, duration, hvalues, hduration, hboundless⟩

/-- A call that asks for a duration beyond every number of milliseconds overflows. -/
theorem on_call_of_boundless
    {action : Action} {args : Arguments} {values : List Value} {duration : Value}
    (hopen : s.compiled = false)
    (hvalues : args.bind action.parameters = .ok values)
    (hduration : action.duration? s.settings values = some duration)
    (hboundless : duration.IsBoundless) :
    on s (call action args) = (.error .overflow, s) := by
  unfold call
  rw [hvalues, on_bind_ok (on_lift s (.ok values))]
  unfold Action.duration? at hduration
  split at hduration
  · next seconds =>
      cases hduration
      unfold perform sleep
      rw [on_bind_ok (on_ensureOpen_of_open hopen), milliseconds_of_boundless hboundless,
        on_bind_error (on_lift s (.error .overflow))]
  · next digits delay =>
      split at hduration
      · next haccepted =>
          cases hduration
          have htext : Fault.plainText digits = .ok digits.plain := if_pos haccepted.1
          unfold perform sendDigits
          rw [on_bind_ok (on_ensureOpen_of_open hopen), htext, on_bind_ok (on_lift s _),
            haccepted.2]
          dsimp only
          rw [on_bind_ok (on_get s), milliseconds_of_boundless hboundless,
            on_bind_error (on_lift s (.error .overflow))]
      · cases hduration
  · cases hduration

end Calls

end Building
end CallScript
