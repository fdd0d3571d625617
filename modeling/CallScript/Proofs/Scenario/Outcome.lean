import CallScript.Proofs.Binary64
import CallScript.Proofs.Scenario.Passage

/-!
# Outcomes of actions

How actions on a scenario run one after the other, and what a call of an action comes to.

Main statement: `Building.call_outcome`.  A call either fails and leaves the scenario as it was, or
it finds an open scenario and adds exactly one passage; the passage dials keys exactly when the
call plays digits, and then with the keys and the silence that its arguments name.
-/

namespace CallScript

open Media

namespace Action

/-- The keys that an action plays and the milliseconds of silence after each, if it plays keys. -/
def dialling? (settings : Settings) : Action → List Value → Option (Text × Int)
  | sendDigits, [digits, delay] =>
      let seconds := if delay.isNull then .real settings.defaultDigitDelay else delay
      match Building.milliseconds seconds "Inter-digit delay" with
      | .ok gapMs => some (digits.plain, gapMs)
      | .error _ => none
  | _, _ => none

/-- The keys that a call plays and the milliseconds of silence after each, if it plays keys. -/
def dialled? (settings : Settings) (action : Action) (args : Arguments) : Option (Text × Int) :=
  match args.bind action.parameters with
  | .ok values => action.dialling? settings values
  | .error _ => none

end Action

namespace Building

section Sequences

variable {α β : Type}

@[simp] theorem on_pure (s : Scenario) (a : α) :
    on s (pure a) = (.ok a, s) := by
  rfl

@[simp] theorem on_throw (s : Scenario) (fault : Fault) :
    on s (throw fault : Building α) = (.error fault, s) := by
  rfl

@[simp] theorem on_get (s : Scenario) :
    on s (get : Building Scenario) = (.ok s, s) := by
  rfl

@[simp] theorem on_lift (s : Scenario) (result : Except Fault α) :
    on s (liftM result : Building α) = (result, s) := by
  rfl

@[simp] theorem on_report (s : Scenario) (notice : Notice) :
    on s (report notice) =
      (.ok (), { s with journal := s.journal ++ [notice] }) := by
  rfl

@[simp] theorem on_addToken (s : Scenario) (token : Token) :
    on s (addToken token) =
      (.ok (), { s with timeline := s.timeline.append (.token token) }) := by
  rfl

/-- An action after another one runs where that one has succeeded. -/
theorem on_bind
    (s : Scenario) (action : Building α) (next : α → Building β) :
    on s (action >>= next) =
      match on s action with
      | (.ok a, after) => on after (next a)
      | (.error fault, after) => (.error fault, after) := by
  change StateT.bind action (ExceptT.bindCont next) s = _
  unfold StateT.bind on StateT.run ExceptT.run
  rcases action s with ⟨fault | a, after⟩ <;> rfl

/-- A handler runs where an action has failed, on what the action has left. -/
theorem on_tryCatch
    (s : Scenario) (action : Building α) (handler : Fault → Building α) :
    on s (tryCatch action handler) =
      match on s action with
      | (.ok a, after) => (.ok a, after)
      | (.error fault, after) => on after (handler fault) := by
  change ExceptT.tryCatch action handler s = _
  unfold ExceptT.tryCatch ExceptT.mk on StateT.run ExceptT.run
  change StateT.bind _ _ s = _
  unfold StateT.bind
  rcases action s with ⟨fault | a, after⟩ <;> rfl

theorem on_bind_ok
    {s after : Scenario} {action : Building α} {a : α}
    (h : on s action = (.ok a, after))
    (next : α → Building β) :
    on s (action >>= next) = on after (next a) := by
  rw [on_bind, h]

theorem on_bind_error
    {s after : Scenario} {action : Building α} {fault : Fault}
    (h : on s action = (.error fault, after))
    (next : α → Building β) :
    on s (action >>= next) = (.error fault, after) := by
  rw [on_bind, h]

theorem on_ensureOpen (s : Scenario) :
    on s ensureOpen =
      if s.compiled then
        (.error (.alreadyCompiled s.name), s)
      else
        (.ok (), s) := by
  unfold ensureOpen
  rw [on_bind_ok (on_get s)]
  split <;> rfl

theorem on_addStep_of_compiled
    {s : Scenario}
    (hcompiled : s.compiled = true)
    (step : Step) :
    on s (addStep step) = (.error (.alreadyCompiled s.name), s) := by
  unfold addStep
  apply on_bind_error
  rw [on_ensureOpen, if_pos hcompiled]

theorem on_addStep_of_open
    {s : Scenario}
    (hopen : s.compiled = false)
    (step : Step) :
    on s (addStep step) =
      (.ok (),
        { s with
          steps := s.steps ++ [step]
          journal := s.journal ++ [.appended s.stem step] }) := by
  unfold addStep
  have hensured : on s ensureOpen = (.ok (), s) := by
    rw [on_ensureOpen, hopen]
    rfl
  rw [on_bind_ok hensured]
  rfl

end Sequences

/-- What an action on a scenario comes to when it either fails or adds one passage. -/
inductive Outcome (s : Scenario) (action : Building Unit) (dialled : Option (Text × Int)) : Prop
  /-- It has failed, and the scenario is as it was. -/
  | failed (fault : Fault) (run : on s action = (.error fault, s))
  /-- The scenario was open and has one passage more. -/
  | added (passage : Passage) (wasOpen : s.compiled = false)
      (run : on s action = (.ok (), s.extended [passage]))
      (dials : passage.dialled? = dialled)

namespace Outcome

variable {s : Scenario} {action other : Building Unit} {dialled : Option (Text × Int)}

/-- Actions that do the same on a scenario have the same outcome. -/
theorem congr
    (hrun : on s action = on s other)
    (h : Outcome s other dialled) :
    Outcome s action dialled := by
  cases h with
  | failed fault run =>
      exact .failed fault (hrun.trans run)
  | added passage wasOpen run dials =>
      exact .added passage wasOpen (hrun.trans run) dials

/-- A value that is computed first may fail, and else has the outcome of what follows. -/
theorem lift_bind
    {α : Type} {result : Except Fault α} {next : α → Building Unit}
    (h : ∀ a, result = .ok a → Outcome s (next a) dialled) :
    Outcome s (liftM result >>= next) dialled := by
  cases hresult : result with
  | error fault =>
      exact .failed fault (on_bind_error (on_lift s (.error fault)) next)
  | ok a =>
      exact (h a hresult).congr (on_bind_ok (on_lift s (.ok a)) next)

/-- An action that looks at the scenario first has the outcome of what it does then. -/
theorem get_bind
    {next : Scenario → Building Unit}
    (h : Outcome s (next s) dialled) :
    Outcome s (get >>= next) dialled :=
  h.congr (on_bind_ok (on_get s) next)

/-- An action that needs an open scenario has the outcome that it has on one. -/
theorem ensureOpen_bind
    {next : Unit → Building Unit}
    (h : s.compiled = false → Outcome s (next ()) dialled) :
    Outcome s (ensureOpen >>= next) dialled := by
  cases hcompiled : s.compiled with
  | true =>
      refine .failed (.alreadyCompiled s.name) (on_bind_error ?_ next)
      rw [on_ensureOpen, if_pos hcompiled]
  | false =>
      refine (h hcompiled).congr (on_bind_ok ?_ next)
      rw [on_ensureOpen, hcompiled]
      rfl

/-- A step that takes no time is a passage of its own. -/
theorem addStep
    {step : Step}
    (hstep : step.isPause = false) :
    Outcome s (Building.addStep step) none := by
  cases hcompiled : s.compiled with
  | true =>
      exact .failed _ (on_addStep_of_compiled hcompiled step)
  | false =>
      refine .added (.signal [step] (by simpa using hstep)) hcompiled ?_ rfl
      rw [on_addStep_of_open hcompiled]
      simp [Scenario.extended, Passage.steps, Passage.tokens, Passage.notices,
        Passage.warnings, Timeline.extend]

end Outcome

section Actions

variable {s : Scenario}

/-- Waiting for a message takes no time of the script. -/
theorem receive_outcome (response request optional rrs : Value) :
    Outcome s (receive response request optional rrs) none := by
  unfold receive
  refine Outcome.lift_bind ?_
  intro step hstep
  refine Outcome.addStep ?_
  unfold Step.receive? at hstep
  split at hstep
  · cases hstep
  · split at hstep
    · cases hstep
    · cases hstep
      rfl

theorem invite_outcome :
    Outcome s invite none := by
  unfold invite
  exact Outcome.get_bind (Outcome.lift_bind fun caller _ => Outcome.addStep rfl)

/-- An ACK and the start of the capture are one passage. -/
theorem ackAnswer_outcome :
    Outcome s ackAnswer none := by
  unfold ackAnswer
  refine Outcome.get_bind (Outcome.lift_bind ?_)
  intro caller _
  cases hcompiled : s.compiled with
  | true =>
      exact .failed _ (on_bind_error (on_addStep_of_compiled hcompiled _) _)
  | false =>
      refine .added
        (.signal [.send (.text (Sip.ack caller)) .null, .play (.text s.captureName)] ?_)
        hcompiled ?_ rfl
      · intro step hstep
        rcases List.mem_pair.mp hstep with rfl | rfl <;> rfl
      · rw [on_bind_ok (on_addStep_of_open hcompiled _)]
        unfold startMedia
        rw [on_bind_ok (on_get _), on_addStep_of_open (by exact hcompiled)]
        simp [Scenario.extended, Passage.steps, Passage.tokens, Passage.notices,
          Passage.warnings, Timeline.extend, Scenario.captureName]

/-- A number of seconds that is not refused is no negative number of milliseconds. -/
theorem milliseconds_nonneg
    {seconds : Value} {what : String} {n : Int}
    (h : milliseconds seconds what = .ok n) :
    0 ≤ n := by
  unfold milliseconds at h
  cases hnumber : seconds.number? with
  | none =>
      rw [hnumber] at h
      cases h
  | some number =>
      simp only [hnumber] at h
      split at h
      · cases h
      · next hsign =>
          cases number with
          | whole k =>
              simp only [Number.isNegative, decide_eq_true_eq] at hsign
              cases h
              omega
          | real x =>
              simp only [Number.isNegative, Bool.not_eq_true] at hsign
              have hproduct : (x.mul (.ofInt 1000)).isNegative = false :=
                Binary64.mul_isNegative hsign (Binary64.ofInt_isNegative (by decide))
              simp only at h
              split at h
              · cases h
              · cases h
              · split at h
                · next hround =>
                    cases h
                    exact Binary64.round?_nonneg hproduct hround
                · cases h

theorem pause?_natCast (n : Nat) :
    Step.pause? (.integer n) = .ok (Passage.wait n) := by
  simp [Step.pause?, Value.number?, Number.isNegative, Passage.wait]

theorem silence?_natCast (n : Nat) :
    Token.silence? (.integer n) = .ok (.silence n) := by
  simp [Token.silence?]

theorem tone?_symbol (key : Digit) :
    Token.tone? (.text [.char key.symbol]) = .ok (.tone key) := by
  simp only [Token.tone?, Digit.ofText?_symbol]

/-- A rest is a wait and a silence of the same length. -/
theorem sleep_outcome (seconds : Value) :
    Outcome s (sleep seconds) none := by
  unfold sleep
  refine Outcome.ensureOpen_bind ?_
  intro hopen
  refine Outcome.lift_bind ?_
  intro duration hduration
  obtain ⟨n, rfl⟩ := Int.eq_ofNat_of_zero_le (milliseconds_nonneg hduration)
  refine .added (.rest n) hopen ?_ rfl
  rw [pause?_natCast, silence?_natCast]
  rw [on_bind_ok (on_lift s _), on_bind_ok (on_addStep_of_open hopen _)]
  rw [on_bind_ok (on_lift _ _), on_addToken]
  simp [Scenario.extended, Passage.steps, Passage.tokens, Passage.notices,
    Passage.warnings, Timeline.extend, Timeline.append]

/-- Keys that are played on an open scenario are all added, each with its silence and its wait. -/
theorem on_playDigits
    (keys : List Digit) (gapMs : Nat) {s : Scenario}
    (hopen : s.compiled = false) :
    on s (playDigits gapMs (Digit.textOf keys)) =
      (.ok (),
        { s with
          steps := s.steps ++ (Passage.dial keys gapMs).steps
          timeline := s.timeline.extend ((Passage.dial keys gapMs).tokens.map .token)
          journal :=
            s.journal ++ (Passage.dial keys gapMs).steps.map (.appended s.stem) }) := by
  induction keys generalizing s with
  | nil =>
      simp [Digit.textOf, playDigits, Passage.steps, Passage.tokens, Timeline.extend]
  | cons key rest ih =>
      have htext :
          Digit.textOf (key :: rest) = .char key.symbol :: Digit.textOf rest := by
        rfl
      have hwait : Step.pause? (.integer (gapMs * 2)) = .ok (Passage.wait (gapMs * 2)) := by
        exact pause?_natCast (gapMs * 2)
      rw [htext, playDigits, tone?_symbol, silence?_natCast, hwait]
      rw [on_bind_ok (on_lift s _), on_bind_ok (on_addToken s _)]
      rw [on_bind_ok (on_lift _ _), on_bind_ok (on_addToken _ _)]
      rw [on_bind_ok (on_lift _ _), on_bind_ok (on_addStep_of_open (by exact hopen) _)]
      rw [ih (by exact hopen)]
      simp [Passage.steps, Passage.tokens, Timeline.extend, Timeline.append]

/-- Playing digits dials their keys, or fails before anything is added. -/
theorem sendDigits_outcome (digits delay : Value) :
    Outcome s (sendDigits digits delay)
      (Action.dialling? s.settings .sendDigits [digits, delay]) := by
  unfold sendDigits
  refine Outcome.ensureOpen_bind ?_
  intro hopen
  refine Outcome.lift_bind ?_
  intro text htext
  cases hinvalid : Digit.invalid text with
  | cons mark others =>
      exact .failed _ (on_bind_error (on_throw s _) _)
  | nil =>
      refine Outcome.get_bind ?_
      refine Outcome.lift_bind ?_
      intro delayMs hdelay
      obtain ⟨keys, rfl⟩ := Digit.exists_textOf_of_invalid hinvalid
      obtain ⟨gapMs, rfl⟩ := Int.eq_ofNat_of_zero_le (milliseconds_nonneg hdelay)
      have hplain : digits.plain = Digit.textOf keys := by
        unfold Fault.plainText at htext
        split at htext
        · exact Except.ok.inj htext
        · cases htext
      refine .added (.dial keys gapMs) hopen ?_ ?_
      · by_cases hsame : (gapMs : Int) = s.profile.toneMs
        · rw [if_neg (not_not_intro hsame), on_playDigits keys gapMs hopen]
          simp [Scenario.extended, Passage.notices, Passage.warnings, hsame]
        · rw [if_pos hsame, on_bind_ok (on_report s _),
            on_playDigits keys gapMs (by exact hopen)]
          simp [Scenario.extended, Passage.notices, Passage.warnings, hsame]
      · simp [Action.dialling?, Passage.dialled?, hdelay, hplain]

/-- An action with the values of its parameters either fails or adds one passage. -/
theorem perform_outcome (action : Action) (values : List Value) :
    Outcome s (perform action values) (action.dialling? s.settings values) := by
  unfold perform
  split
  · exact invite_outcome
  · exact receive_outcome _ _ _ _
  · exact receive_outcome _ _ _ _
  · exact receive_outcome _ _ _ _
  · exact ackAnswer_outcome
  · exact Outcome.get_bind (Outcome.addStep rfl)
  · exact sleep_outcome _
  · exact sendDigits_outcome _ _
  · exact Outcome.addStep rfl
  · exact receive_outcome _ _ _ _
  · exact Outcome.addStep rfl
  · exact .failed _ (on_throw s _)

/--
**Outcomes of calls.**  A call fails and changes nothing, or it adds one passage to an open
scenario; the passage dials what the arguments name.
-/
theorem call_outcome (action : Action) (args : Arguments) :
    Outcome s (call action args) (action.dialled? s.settings args) := by
  unfold call Action.dialled?
  cases hvalues : args.bind action.parameters with
  | error fault =>
      exact .failed fault (on_bind_error (on_lift s (.error fault)) _)
  | ok values =>
      exact (perform_outcome action values).congr (on_bind_ok (on_lift s (.ok values)) _)

end Actions

end Building
end CallScript
