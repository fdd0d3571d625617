import CallScript.Manifest
import CallScript.Proofs.Scenario.Course
import CallScript.Proofs.Scenario.Faults

/-!
# Faults of steps

What the steps of a manifest end with.  A manifest may have faults of configuration and of
validation; any other fault escapes, and `Manifest.Escapes` names the causes that a step can have
for it.

Main statements:
* `Manifest.applyStep_escapes_iff`: the faults that escape from a step are exactly those with one
  of the causes.
* `Manifest.applyFrom_escapes_iff`: a fault escapes from some steps exactly where it escapes from
  the first one that fails.
-/

namespace CallScript

namespace Building

/-- A handler that changes the faults of an action changes their reasons. -/
theorem FailsBy.tryCatch_throw
    {s : Scenario} {action : Building Unit} {reason other : Fault → Prop} {change : Fault → Fault}
    (h : FailsBy s action reason)
    (hchange : ∀ fault, reason fault → other (change fault)) :
    FailsBy s (tryCatch action fun fault => throw (change fault)) other := by
  intro fault hfault
  rw [on_tryCatch] at hfault
  rcases hrun : on s action with ⟨first | _, after⟩
  · rw [hrun] at hfault
    cases hfault
    exact hchange first (h first (by rw [hrun]))
  · rw [hrun] at hfault
    cases hfault

end Building

namespace Manifest

open Building

/-- Holds of the faults that a manifest may have. -/
def isExpected (fault : Fault) : Bool :=
  [Fault.Kind.configuration, .validation].contains fault.kind

/-- The arguments of a line. -/
def Line.arguments (line : Line) : Arguments :=
  ⟨line.positional, line.named⟩

/-- The faults that escape from a step, and their causes. -/
inductive Escapes (settings : Settings) (step : Value) (index : Nat) : Fault → Prop
  /-- The name of the action has no text. -/
  | name {key value : Value} (entry : step.entries? = some [(key, value)])
      (long : key.isShowable = false) : Escapes settings step index .numberLong
  /-- The step is none, and has no text to be shown by. -/
  | shape (strange : ∀ key value, step.entries? ≠ some [(key, value)])
      (long : step.isShowable = false) : Escapes settings step index .numberLong
  /-- The digits are no text, and have none to be shown by. -/
  | digits {line : Line} {digits : Value} (reads : Line.ofValue step index = .ok line)
      (plays : Action.ofName? line.action = some .sendDigits)
      (given : line.arguments.first? "digits" = some digits)
      (long : digits.isShowable = false) : Escapes settings step index .numberLong
  /-- The duration is beyond every number of milliseconds. -/
  | duration {line : Line} {action : Action} {values : List Value} {duration : Value}
      (reads : Line.ofValue step index = .ok line)
      (calls : Action.ofName? line.action = some action)
      (quoted : action = .sendDigits → requireDigits line index = .ok ())
      (takes : line.arguments.bind action.parameters = .ok values)
      (asks : action.duration? settings values = some duration)
      (boundless : duration.IsBoundless) : Escapes settings step index .overflow

section Steps

variable {settings : Settings} {step : Value} {index : Nat} {fault : Fault}

/-- No fault that escapes is one that a manifest may have. -/
theorem Escapes.unexpected
    (h : Escapes settings step index fault) :
    isExpected fault = false := by
  cases h <;> rfl

/-- A fault that would show a value is expected, or the value has no text. -/
theorem expected_or_long
    (value : Value) (cause : Fault)
    (hcause : isExpected cause = true) :
    isExpected (Fault.showing value cause) = true ∨
      (Fault.showing value cause = .numberLong ∧ value.isShowable = false) := by
  unfold Fault.showing
  cases value.isShowable with
  | true =>
      exact .inl hcause
  | false =>
      exact .inr ⟨rfl, rfl⟩

/-- The fault of an argument is expected once the step is named in front of it. -/
theorem expected_of_isOfArgument
    (h : fault.isOfArgument = true)
    (action : Text) :
    isExpected (if isWrapped fault then .stepFailed index action fault else fault) = true := by
  split
  · rfl
  · next hwrapped =>
      have hvalidation : fault.kind = .validation := by
        simp only [Fault.isOfArgument, isWrapped, List.contains_cons, List.contains_nil,
          Bool.or_false, Bool.or_eq_true, beq_iff_eq] at h hwrapped
        grind
      unfold isExpected
      rw [hvalidation]
      rfl

/-- A step that is not read is no step, or a name in it has no text. -/
theorem expected_or_escapes_of_ofValue
    (h : Line.ofValue step index = .error fault) :
    isExpected fault = true ∨ Escapes settings step index fault := by
  unfold Line.ofValue at h
  split at h
  · next text =>
      unfold Line.ofText at h
      dsimp only at h
      split at h
      · cases h
      · split at h
        · split at h
          · cases h
          · cases h
            exact .inl rfl
        · cases h
  · split at h
    · next key value hentry =>
        unfold Fault.plainText at h
        split at h
        · cases h
        · next hlong =>
            cases h
            exact .inr (.name hentry (Bool.not_eq_true _ ▸ hlong))
    · next hstrange =>
        cases h
        rcases expected_or_long step (.stepShape index step) rfl with hexpected | ⟨heq, hlong⟩
        · exact .inl hexpected
        · rw [heq]
          exact .inr (.shape (fun key value => hstrange key value) hlong)

/-- Digits are refused for what the argument for them is. -/
theorem requireDigits_eq (line : Line) (index : Nat) :
    requireDigits line index =
      match (line.arguments.first? "digits").getD (.text []) with
      | .text _ => .ok ()
      | digits => .error (Fault.showing digits (.stepUnquoted index digits)) := by
  unfold requireDigits Arguments.first? Line.arguments
  cases line.positional <;> rfl

theorem expected_or_long_of_requireDigits
    {line : Line}
    (h : requireDigits line index = .error fault) :
    isExpected fault = true ∨
      ∃ digits,
        fault = .numberLong ∧
        line.arguments.first? "digits" = some digits ∧
        digits.isShowable = false := by
  rw [requireDigits_eq] at h
  cases hfirst : line.arguments.first? "digits" with
  | none =>
      rw [hfirst] at h
      cases h
  | some digits =>
      rw [hfirst, Option.getD_some] at h
      split at h
      · cases h
      · cases h
        refine (expected_or_long digits (.stepUnquoted index digits) rfl).imp_right ?_
        rintro ⟨heq, hlong⟩
        exact ⟨digits, heq, rfl, hlong⟩

theorem requireDigits_of_long
    {line : Line} {digits : Value}
    (hfirst : line.arguments.first? "digits" = some digits)
    (hlong : digits.isShowable = false) :
    requireDigits line index = .error .numberLong := by
  rw [requireDigits_eq, hfirst, Option.getD_some]
  split
  · cases hlong
  · rw [Fault.showing, hlong]
    rfl

variable {s : Scenario}

/-- What a step of a manifest fails with is expected, or escapes for one of the causes. -/
theorem applyStep_failsBy
    (hopen : s.compiled = false)
    (step : Value) (index : Nat) :
    FailsBy s (applyStep step index) fun fault =>
      isExpected fault = true ∨ Escapes s.settings step index fault := by
  unfold applyStep
  refine .lift_bind (fun fault => expected_or_escapes_of_ofValue) ?_
  intro line hline
  cases haction : Action.ofName? line.action with
  | none =>
      intro fault hfault
      rw [on_throw] at hfault
      cases hfault
      exact .inl rfl
  | some action =>
      -- Digits are looked at outside the handler; after that all actions end in the same call.
      have hcall : ∀ quoted : action = .sendDigits → requireDigits line index = .ok (),
          FailsBy s
            (tryCatch (Building.call action line.arguments) fun fault =>
              throw (if isWrapped fault then .stepFailed index line.action fault else fault))
            fun fault => isExpected fault = true ∨ Escapes s.settings step index fault := by
        intro quoted
        refine (call_failsBy hopen action line.arguments).tryCatch_throw ?_
        rintro fault (hargument | ⟨rfl, values, duration, htakes, hasks, hboundless⟩)
        · exact .inl (expected_of_isOfArgument hargument line.action)
        · exact .inr (.duration hline haction quoted htakes hasks hboundless)
      dsimp only
      by_cases hdigits : action = .sendDigits
      · rw [if_pos hdigits]
        refine .lift_bind ?_ ?_
        · intro fault hfault
          refine (expected_or_long_of_requireDigits hfault).imp_right ?_
          rintro ⟨digits, rfl, hfirst, hlong⟩
          exact .digits hline (hdigits ▸ haction) hfirst hlong
        · intro _ hrequired
          exact hcall fun _ => hrequired
      · rw [if_neg hdigits]
        exact hcall fun heq => absurd heq hdigits

/-- A step with one of the causes always ends with the fault. -/
theorem on_applyStep_of_escapes
    (hopen : s.compiled = false)
    (h : Escapes s.settings step index fault) :
    on s (applyStep step index) = (.error fault, s) := by
  unfold applyStep
  cases h with
  | name hentry hlong =>
      have hread : Line.ofValue step index = .error .numberLong := by
        unfold Line.ofValue
        split
        · cases hentry
        · simp [hentry, Fault.plainText, hlong, Except.map]
      rw [hread, on_bind_error (on_lift s (.error .numberLong))]
  | shape hstrange hlong =>
      have hread : Line.ofValue step index = .error .numberLong := by
        unfold Line.ofValue
        split
        · cases hlong
        · split
          · next key value hentry =>
              exact absurd hentry (hstrange key value)
          · rw [Fault.showing, hlong]
            rfl
      rw [hread, on_bind_error (on_lift s (.error .numberLong))]
  | digits hline hplays hfirst hlong =>
      rw [hline, on_bind_ok (on_lift s (.ok _)), hplays]
      dsimp only
      rw [if_pos rfl, requireDigits_of_long hfirst hlong,
        on_bind_error (on_lift s (.error .numberLong))]
  | @duration line action _ _ hline hcalls hquoted htakes hasks hboundless =>
      have hcall :
          on s (tryCatch (Building.call action line.arguments) fun fault =>
            throw (if isWrapped fault then .stepFailed index line.action fault else fault)) =
              (.error .overflow, s) := by
        rw [on_tryCatch, on_call_of_boundless hopen htakes hasks hboundless]
        rfl
      rw [hline, on_bind_ok (on_lift s (.ok _)), hcalls]
      dsimp only
      by_cases hdigits : action = .sendDigits
      · rw [if_pos hdigits, hquoted hdigits, on_bind_ok (on_lift s (.ok ()))]
        exact hcall
      · rw [if_neg hdigits]
        exact hcall

/-- The faults that escape from a step on an open scenario are those with one of the causes. -/
theorem applyStep_escapes_iff
    (hopen : s.compiled = false) :
    ((on s (applyStep step index)).1 = .error fault ∧ isExpected fault = false) ↔
      Escapes s.settings step index fault := by
  constructor
  · rintro ⟨hfault, hunexpected⟩
    rcases applyStep_failsBy hopen step index fault hfault with hexpected | hescapes
    · rw [hexpected] at hunexpected
      cases hunexpected
    · exact hescapes
  · intro hescapes
    refine ⟨?_, hescapes.unexpected⟩
    rw [on_applyStep_of_escapes hopen hescapes]

end Steps

section Runs

variable {s mid : Scenario} {fault : Fault}

theorem on_applyFrom_append
    {index : Nat} {before : List Value}
    (h : on s (applyFrom index before) = (.ok (), mid))
    (rest : List Value) :
    on s (applyFrom index (before ++ rest)) =
      on mid (applyFrom (index + before.length) rest) := by
  induction before generalizing s index with
  | nil =>
      cases h
      rfl
  | cons first others ih =>
      rcases hfirst : on s (applyStep first index) with ⟨other | _, after⟩
      · rw [applyFrom, on_bind_error hfirst] at h
        cases h
      · rw [applyFrom, on_bind_ok hfirst] at h
        rw [List.cons_append, applyFrom, on_bind_ok hfirst, ih h, List.length_cons,
          Nat.add_assoc, Nat.add_comm 1]

theorem kept_of_applyFrom
    {index : Nat} {steps : List Value}
    (h : on s (applyFrom index steps) = (.ok (), mid)) :
    mid.settings = s.settings ∧ mid.compiled = s.compiled := by
  obtain ⟨passages, hafter, _⟩ := applyFrom_eq_extended s index steps
  rw [h] at hafter
  cases hafter
  exact ⟨rfl, rfl⟩

/-- Where steps fail, one of them does, and those before it succeed. -/
theorem exists_failing_step
    {index : Nat} {steps : List Value}
    (h : (on s (applyFrom index steps)).1 = .error fault) :
    ∃ before step after mid,
      steps = before ++ step :: after ∧
      on s (applyFrom index before) = (.ok (), mid) ∧
      (on mid (applyStep step (index + before.length))).1 = .error fault := by
  induction steps generalizing s index with
  | nil =>
      cases h
  | cons first rest ih =>
      rcases hfirst : on s (applyStep first index) with ⟨other | _, after⟩
      · rw [applyFrom, on_bind_error hfirst] at h
        exact ⟨[], first, rest, s, rfl, rfl, by rw [List.length_nil, Nat.add_zero, hfirst]; exact h⟩
      · rw [applyFrom, on_bind_ok hfirst] at h
        obtain ⟨before, step, others, mid, hsplit, hbefore, hfails⟩ := ih h
        refine ⟨first :: before, step, others, mid, by rw [hsplit]; rfl, ?_, ?_⟩
        · rw [applyFrom, on_bind_ok hfirst, hbefore]
        · rw [List.length_cons, Nat.add_comm before.length, ← Nat.add_assoc]
          exact hfails

/-- A fault escapes from some steps exactly where it escapes from the first one that fails. -/
theorem applyFrom_escapes_iff
    (hopen : s.compiled = false)
    (index : Nat) (steps : List Value) :
    ((on s (applyFrom index steps)).1 = .error fault ∧ isExpected fault = false) ↔
      ∃ before step after,
        steps = before ++ step :: after ∧
        (on s (applyFrom index before)).1 = .ok () ∧
        Escapes s.settings step (index + before.length) fault := by
  constructor
  · rintro ⟨hfault, hunexpected⟩
    obtain ⟨before, step, after, mid, hsplit, hbefore, hfails⟩ := exists_failing_step hfault
    obtain ⟨hsettings, hcompiled⟩ := kept_of_applyFrom hbefore
    refine ⟨before, step, after, hsplit, by rw [hbefore], ?_⟩
    rw [← hsettings]
    exact (applyStep_escapes_iff (hcompiled.trans hopen)).mp ⟨hfails, hunexpected⟩
  · rintro ⟨before, step, after, rfl, hbefore, hescapes⟩
    rcases hrun : on s (applyFrom index before) with ⟨_ | _, mid⟩
    · rw [hrun] at hbefore
      cases hbefore
    · obtain ⟨hsettings, hcompiled⟩ := kept_of_applyFrom hrun
      rw [← hsettings] at hescapes
      have hstep := on_applyStep_of_escapes (hcompiled.trans hopen) hescapes
      refine ⟨?_, hescapes.unexpected⟩
      rw [on_applyFrom_append hrun, applyFrom, on_bind_error hstep]

end Runs

end Manifest
end CallScript
