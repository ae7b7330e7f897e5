/-! What attempts that succeed tell of their parts. -/
namespace ProxyWatch
variable {ε ε' α β : Type}

theorem bind_eq_ok {attempt : Except ε α} {continuation : α → Except ε β} {result : β}
    (success : attempt >>= continuation = .ok result) :
    ∃ value, attempt = .ok value ∧ continuation value = .ok result := by
  cases attempt with
  | error failure => cases success
  | ok value => exact ⟨value, rfl, success⟩

theorem mapError_ok (value : α) (change : ε → ε') : (Except.ok value).mapError change = .ok value := rfl

theorem mapError_eq_ok_iff {attempt : Except ε α} {change : ε → ε'} {value : α} :
    attempt.mapError change = .ok value ↔ attempt = .ok value := by
  cases attempt with
  | ok found =>
    rw [mapError_ok, Except.ok.injEq, Except.ok.injEq]
  | error failure =>
    constructor
    all_goals
      intro success
      cases success

theorem toOption_eq_some_iff {attempt : Except ε α} {value : α} :
    attempt.toOption = some value ↔ attempt = .ok value := by
  cases attempt with
  | ok found =>
    have same : (Except.ok found : Except ε α).toOption = some found := rfl
    rw [same, Option.some.injEq, Except.ok.injEq]
  | error failure =>
    constructor
    all_goals
      intro success
      cases success

end ProxyWatch
