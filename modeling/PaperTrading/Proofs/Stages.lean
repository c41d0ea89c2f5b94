/-
Module: PaperTrading.Proofs.Stages
Purpose: Computations in stages, each of which may fail: what it takes for the whole to succeed, and to fail.
Main exports: bind_eq_ok, bind_eq_error, map_eq_ok, guard_eq_ok
-/

namespace PaperTrading

variable {ε β γ : Type} {result : Except ε β} {next : β → Except ε γ}

theorem bind_eq_ok {value : γ} :
    result >>= next = .ok value ↔ ∃ first, result = .ok first ∧ next first = .ok value := by
  cases result with
  | error problem => simp [bind, Except.bind]
  | ok first => simp [bind, Except.bind]

theorem bind_eq_error {problem : ε} :
    result >>= next = .error problem ↔
      result = .error problem ∨ ∃ first, result = .ok first ∧ next first = .error problem := by
  cases result with
  | error other => simp [bind, Except.bind]
  | ok first => simp [bind, Except.bind]

theorem map_eq_ok {f : β → γ} {value : γ} :
    result.map f = .ok value ↔ ∃ first, result = .ok first ∧ f first = value := by
  cases result with
  | error problem => simp [Except.map]
  | ok first => simp [Except.map]

/-- A stage behind a guard succeeds if the guard lets it pass and it succeeds. -/
theorem guard_eq_ok {refused : Prop} [Decidable refused] {problem : ε} {value : β} :
    (if refused then .error problem else result) = .ok value ↔ ¬ refused ∧ result = .ok value := by
  by_cases holds : refused
  · simp [holds]
  · simp [holds]

end PaperTrading
