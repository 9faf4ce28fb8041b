import Mathlib.Data.List.Basic

namespace SynapTCP.Data

/-! # What holds at every step of a run

A run is the list of its steps; a step leads from a state to others or to none.
-/

variable {σ α : Type*} {step : σ → α → σ → Prop} {good fine : σ → α → Prop} {kept : σ → Prop}
  {state : σ} {steps : List α}

/-- `good` holds of each step in every state that the steps before it lead to. -/
def Throughout (step : σ → α → σ → Prop) (good : σ → α → Prop) (state : σ) : List α → Prop
  | [] => True
  | a :: steps => good state a ∧ ∀ next, step state a next → Throughout step good next steps

/-- Two properties of steps hold throughout the same runs if they agree wherever
an invariant holds that a good step keeps. -/
theorem throughout_congr (start : kept state)
    (same : ∀ state a, kept state → (good state a ↔ fine state a))
    (keeps : ∀ state a next, kept state → good state a → step state a next → kept next) :
    Throughout step good state steps ↔ Throughout step fine state steps := by
  induction steps generalizing state with
  | nil => exact Iff.rfl
  | cons a steps ih =>
      constructor
      · intro holds
        refine ⟨(same state a start).mp holds.1, fun next leads => ?_⟩
        exact (ih (keeps state a next start holds.1 leads)).mp (holds.2 next leads)
      · intro holds
        have isGood := (same state a start).mpr holds.1
        refine ⟨isGood, fun next leads => ?_⟩
        exact (ih (keeps state a next start isGood leads)).mpr (holds.2 next leads)

/-- What an invariant gives for a step holds throughout. -/
theorem throughout_of_kept (start : kept state) (holds : ∀ state a, kept state → good state a)
    (keeps : ∀ state a next, kept state → step state a next → kept next) :
    Throughout step good state steps := by
  induction steps generalizing state with
  | nil => trivial
  | cons a steps ih =>
      exact ⟨holds state a start, fun next leads => ih (keeps state a next start leads)⟩

theorem Throughout.mp
    (implies : Throughout step (fun state a => fine state a → good state a) state steps)
    (holds : Throughout step fine state steps) : Throughout step good state steps := by
  induction steps generalizing state with
  | nil => trivial
  | cons a steps ih =>
      exact ⟨implies.1 holds.1, fun next leads => ih (implies.2 next leads) (holds.2 next leads)⟩

/-- If no step of a run is stuck, a property of steps alone is one of the list. -/
theorem throughout_forall {allowed : α → Prop} (total : ∀ state a, ∃ next, step state a next) :
    Throughout step (fun _ a => allowed a) state steps ↔ ∀ a ∈ steps, allowed a := by
  induction steps generalizing state with
  | nil => simp [Throughout]
  | cons a steps ih =>
      rw [Throughout, List.forall_mem_cons]
      constructor
      · intro holds
        obtain ⟨next, leads⟩ := total state a
        exact ⟨holds.1, ih.mp (holds.2 next leads)⟩
      · intro all
        exact ⟨all.1, fun next _ => ih.mpr all.2⟩

/-- For a step with one outcome it can be computed. -/
def checkThroughout (next : σ → α → Option σ) (good : σ → α → Prop)
    [∀ state a, Decidable (good state a)] (state : σ) : List α → Bool
  | [] => true
  | a :: steps => decide (good state a) &&
      (next state a).all fun later => checkThroughout next good later steps

theorem throughout_of_check {next : σ → α → Option σ} [∀ state a, Decidable (good state a)]
    (checked : checkThroughout next good state steps = true) :
    Throughout (fun state a later => next state a = some later) good state steps := by
  induction steps generalizing state with
  | nil => trivial
  | cons a steps ih =>
      rw [checkThroughout, Bool.and_eq_true, Option.all_eq_true] at checked
      exact ⟨of_decide_eq_true checked.1, fun later leads => ih (checked.2 later leads)⟩

end SynapTCP.Data
