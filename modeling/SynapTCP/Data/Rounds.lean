import Mathlib.Logic.Function.Iterate

namespace SynapTCP.Data

/-! # Rounds up to the first one that ends

A loop without inner state of its own is the iteration of its round up to the
first state in which it ends.
-/

variable {σ : Type*} {step : σ → σ} {halted reached spent : σ → Prop} {start : σ} {count : Nat}

/-- After `count` rounds from `start`, and not before, the loop has halted. -/
structure EndsAfter (step : σ → σ) (halted : σ → Prop) (start : σ) (count : Nat) : Prop where
  ended : halted (step^[count] start)
  ongoing : ∀ earlier < count, ¬ halted (step^[earlier] start)

namespace EndsAfter

theorem zero (ended : halted start) : EndsAfter step halted start 0 where
  ended := ended
  ongoing earlier before := absurd before (Nat.not_lt_zero earlier)

theorem succ (open_ : ¬ halted start) (rest : EndsAfter step halted (step start) count) :
    EndsAfter step halted start (count + 1) where
  ended := by
    rw [Function.iterate_succ_apply]
    exact rest.ended
  ongoing earlier before := by
    cases earlier with
    | zero => exact open_
    | succ earlier =>
        rw [Function.iterate_succ_apply]
        exact rest.ongoing earlier (Nat.lt_of_succ_lt_succ before)

theorem unique {other : Nat} (left : EndsAfter step halted start count)
    (right : EndsAfter step halted start other) : count = other := by
  rcases Nat.lt_trichotomy count other with less | same | more
  · exact absurd left.ended (right.ongoing count less)
  · exact same
  · exact absurd right.ended (left.ongoing other more)

/-- What ends the loop stays: then the first round that ends it is the one it has
not ended before. -/
theorem eq_succ (ends : EndsAfter step halted start count) {rounds : Nat}
    (kept : ∀ state, halted state → halted (step state)) (open_ : ¬ halted (step^[rounds] start))
    (ended : halted (step^[rounds + 1] start)) : count = rounds + 1 := by
  have stays : ∀ more, halted (step^[count + more] start) := by
    intro more
    induction more with
    | zero => exact ends.ended
    | succ more ih =>
        rw [← Nat.add_assoc, Function.iterate_succ_apply']
        exact kept _ ih
  rcases Nat.lt_trichotomy count (rounds + 1) with less | same | more
  · have there := stays (rounds - count)
    rw [Nat.add_sub_cancel' (Nat.le_of_lt_succ less)] at there
    exact absurd there open_
  · exact same
  · exact absurd ended (ends.ongoing _ more)

/-- A loop that is over once it has reached its goal or spent its means ends at
the goal exactly if some number of rounds leads there before the means are
spent. -/
theorem reached_iff (ends : EndsAfter step (fun state => reached state ∨ spent state) start count) :
    reached (step^[count] start) ↔
      ∃ rounds, reached (step^[rounds] start) ∧
        ∀ earlier < rounds, ¬ spent (step^[earlier] start) := by
  constructor
  · intro goal
    exact ⟨count, goal, fun earlier before used => ends.ongoing earlier before (.inr used)⟩
  · intro ⟨rounds, goal, unspent⟩
    rcases Nat.lt_trichotomy rounds count with less | same | more
    · exact absurd (.inl goal) (ends.ongoing rounds less)
    · rw [← same]
      exact goal
    · exact ends.ended.resolve_right (unspent count more)

end EndsAfter

end SynapTCP.Data
