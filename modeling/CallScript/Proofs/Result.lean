/-!
# Results that may be faults

How results are passed on, and what a sequence of steps that has not failed says about each of
its steps.
-/

namespace CallScript
namespace Result

variable {ε α β : Type}

@[simp] theorem ok_bind (a : α) (next : α → Except ε β) :
    (Except.ok a >>= next) = next a := by
  rfl

@[simp] theorem map_ok (change : α → β) (a : α) :
    (Except.ok a : Except ε α).map change = .ok (change a) := by
  rfl

/-- Two steps in a row succeed only when both do. -/
theorem bind_eq_ok
    {first : Except ε α} {next : α → Except ε β} {b : β}
    (h : first >>= next = .ok b) :
    ∃ a, first = .ok a ∧ next a = .ok b := by
  cases first with
  | error fault =>
      cases h
  | ok a =>
      exact ⟨a, rfl, h⟩

/-- Two steps in a row fail where the first one does, or where the second one does after it. -/
theorem bind_eq_error
    {first : Except ε α} {next : α → Except ε β} {fault : ε}
    (h : first >>= next = .error fault) :
    first = .error fault ∨ ∃ a, first = .ok a ∧ next a = .error fault := by
  cases first with
  | error other =>
      cases h
      exact .inl rfl
  | ok a =>
      exact .inr ⟨a, rfl, h⟩

/-- A step after which nothing can fail decides whether there is a result. -/
theorem exists_bind_pure_iff
    {first : Except ε α} {next : α → β} :
    (∃ b, (first >>= fun a => pure (next a)) = .ok b) ↔ ∃ a, first = .ok a := by
  constructor
  · rintro ⟨b, h⟩
    obtain ⟨a, ha, _⟩ := bind_eq_ok h
    exact ⟨a, ha⟩
  · rintro ⟨a, rfl⟩
    exact ⟨next a, rfl⟩

/-- A result that is changed afterwards was there before. -/
theorem map_eq_ok
    {result : Except ε α} {change : α → β} {b : β}
    (h : result.map change = .ok b) :
    ∃ a, result = .ok a ∧ change a = b := by
  cases result with
  | error fault =>
      cases h
  | ok a =>
      exact ⟨a, rfl, Except.ok.inj h⟩

/-- A result of which something is known is there. -/
theorem toOption_map_eq_some
    {result : Except ε α} {change : α → β} {b : β}
    (h : result.toOption.map change = some b) :
    ∃ a, result = .ok a ∧ change a = b := by
  cases result with
  | error fault =>
      cases h
  | ok a =>
      exact ⟨a, rfl, Option.some.inj h⟩

/-- A result that is changed afterwards fails where it has failed before. -/
theorem map_eq_error
    {result : Except ε α} {change : α → β} {fault : ε}
    (h : result.map change = .error fault) :
    result = .error fault := by
  cases result with
  | error other =>
      cases h
      rfl
  | ok a =>
      cases h

end Result
end CallScript
