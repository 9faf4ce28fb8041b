import Mathlib.Tactic.Common

namespace SynapTCP.Data

/-! # Programs that call and look at the answer

A script makes one call after another; what it calls next, and what it gives in the end,
may depend on all answers so far.  It runs on a state that answers every call, and on an
abstract one that may have no answer.  If a call that the abstract state answers is
answered in the same way by the state that it stands for, so is the whole script.
-/

inductive Script (κ β α : Type*) where
  | done (result : α)
  | call (request : κ) (next : β → Script κ β α)

namespace Script

variable {κ β α σ τ : Type*}

def run (answer : σ → κ → β × σ) : Script κ β α → σ → α × σ
  | .done result, state => (result, state)
  | .call request next, state =>
      (next (answer state request).1).run answer (answer state request).2

def runWhere (answer : τ → κ → Option (β × τ)) : Script κ β α → τ → Option (α × τ)
  | .done result, state => some (result, state)
  | .call request next, state =>
      (answer state request).bind fun answered => (next answered.1).runWhere answer answered.2

theorem run_of_runWhere {answer : σ → κ → β × σ} {answerWhere : τ → κ → Option (β × τ)}
    {stands : σ → τ → Prop}
    (same : ∀ state abstract request answered, stands state abstract →
      answerWhere abstract request = some answered →
        (answer state request).1 = answered.1 ∧ stands (answer state request).2 answered.2)
    {script : Script κ β α} {state : σ} {abstract : τ} {ended : α × τ}
    (related : stands state abstract) (ran : script.runWhere answerWhere abstract = some ended) :
    (script.run answer state).1 = ended.1 ∧ stands (script.run answer state).2 ended.2 := by
  induction script generalizing state abstract with
  | done result =>
      cases ran
      exact ⟨rfl, related⟩
  | call request next ih =>
      obtain ⟨answered, isAnswer, more⟩ := Option.bind_eq_some_iff.mp ran
      obtain ⟨equal, later⟩ := same state abstract request answered related isAnswer
      rw [run, equal]
      exact ih answered.1 later more

end Script

end SynapTCP.Data
