import Mathlib.Logic.Function.Basic
import Mathlib.Tactic.Common

namespace SynapTCP.Data

/-! # Threads with a cell in common

Threads with states of their own and one cell.  A step overwrites the cell without a look
at it, looks at it, or has nothing to do with it.  Where no thread overwrites the cell
between a write of another and the steps by which that looks at it, every thread runs as
if it had the cell for itself.
-/

/-- The steps of a thread with state `σ` by what they do with a cell of type `κ`. -/
structure Sharing (κ σ ω γ α : Type*) where
  write : σ → ω → Option (κ × σ)
  look : σ → κ → γ → Option σ
  act : σ → α → Option σ

inductive SharedStep (ω γ α : Type*) where
  | write (step : ω)
  | look (step : γ)
  | act (step : α)
deriving DecidableEq

namespace Sharing

variable {ι κ σ ω γ α : Type*} [DecidableEq ι] (sharing : Sharing κ σ ω γ α)

def move (cell : κ) (own : σ) : SharedStep ω γ α → Option (κ × σ)
  | .write step => sharing.write own step
  | .look step => (sharing.look own cell step).map (cell, ·)
  | .act step => (sharing.act own step).map (cell, ·)

/-- One thread that has the cell for itself. -/
def runAlone (cell : κ) (own : σ) : List (SharedStep ω γ α) → Option (κ × σ)
  | [] => some (cell, own)
  | step :: steps => (sharing.move cell own step).bind fun moved => runAlone moved.1 moved.2 steps

def run (cell : κ) (threads : ι → σ) : List (ι × SharedStep ω γ α) → Option (κ × (ι → σ))
  | [] => some (cell, threads)
  | (i, step) :: steps =>
      (sharing.move cell (threads i) step).bind fun moved =>
        run moved.1 (Function.update threads i moved.2) steps

/-- Every thread that looks at the cell is the one that wrote it last. -/
def Undisturbed (writer : Option ι) : List (ι × SharedStep ω γ α) → Prop
  | [] => True
  | (i, .write _) :: steps => Undisturbed (some i) steps
  | (i, .look _) :: steps => writer = some i ∧ Undisturbed writer steps
  | (_, .act _) :: steps => Undisturbed writer steps

/-- The steps of one thread. -/
def own (i : ι) : List (ι × SharedStep ω γ α) → List (SharedStep ω γ α)
  | [] => []
  | (j, step) :: steps => if j = i then step :: own i steps else own i steps

/-- The last thread that wrote the cell, behind a step. -/
def writerAfter (writer : Option ι) (i : ι) : SharedStep ω γ α → Option ι
  | .write _ => some i
  | .look _ | .act _ => writer

variable {sharing} {cell : κ} {threads : ι → σ} {steps : List (ι × SharedStep ω γ α)}
  {step : SharedStep ω γ α} {writer : Option ι} {later : κ × (ι → σ)} {i j : ι}

omit [DecidableEq ι] in
theorem Undisturbed.tail (undisturbed : Undisturbed writer ((i, step) :: steps)) :
    Undisturbed (writerAfter writer i step) steps := by
  cases step with
  | write => exact undisturbed
  | look => exact undisturbed.2
  | act => exact undisturbed

omit [DecidableEq ι] in
/-- The step of the thread itself does the same with another cell, unless it looks at
it. -/
theorem move_alone {mine : κ} {moved : κ × σ} (undisturbed : Undisturbed writer ((i, step) :: steps))
    (written : writer = some i → mine = cell)
    (moves : sharing.move cell (threads i) step = some moved) :
    ∃ after, sharing.move mine (threads i) step = some (after, moved.2) ∧
      (writerAfter writer i step = some i → after = moved.1) := by
  cases step with
  | write step => exact ⟨moved.1, moves, fun _ => rfl⟩
  | look step =>
      obtain ⟨own', looked, rfl⟩ := Option.map_eq_some_iff.mp moves
      have same := written undisturbed.1
      exact ⟨cell, by rw [same]; exact moves, fun _ => rfl⟩
  | act step =>
      obtain ⟨own', acted, rfl⟩ := Option.map_eq_some_iff.mp moves
      exact ⟨mine, by simp only [move, acted, Option.map_some], written⟩

omit [DecidableEq ι] in
/-- The step of another thread leaves the cell as it is, or what the thread wrote. -/
theorem writerAfter_other {mine : κ} {own' : σ} {moved : κ × σ} (other : j ≠ i)
    (written : writer = some i → mine = cell) (moves : sharing.move cell own' step = some moved)
    (mineStill : writerAfter writer j step = some i) : mine = moved.1 := by
  cases step with
  | write step => exact absurd (Option.some.inj mineStill) other
  | look step =>
      obtain ⟨later, looked, rfl⟩ := Option.map_eq_some_iff.mp moves
      exact written mineStill
  | act step =>
      obtain ⟨later, acted, rfl⟩ := Option.map_eq_some_iff.mp moves
      exact written mineStill

/-- What every step of a thread keeps, whatever is in the cell, holds of all threads
throughout. -/
theorem run_keeps {invariant : ι → σ → Prop}
    (keeps : ∀ i cell own step moved, invariant i own →
      sharing.move cell own step = some moved → invariant i moved.2)
    (start : ∀ i, invariant i (threads i)) (ran : sharing.run cell threads steps = some later)
    (i : ι) : invariant i (later.2 i) := by
  induction steps generalizing cell threads with
  | nil =>
      cases ran
      exact start i
  | cons first steps ih =>
      obtain ⟨j, step⟩ := first
      obtain ⟨moved, moves, more⟩ := Option.bind_eq_some_iff.mp ran
      refine ih (fun k => ?_) more
      by_cases same : k = j
      · subst same
        rw [Function.update_self]
        exact keeps k cell _ step moved (start k) moves
      · rw [Function.update_of_ne same]
        exact start k

theorem runAlone_of_run (ran : sharing.run cell threads steps = some later)
    (undisturbed : Undisturbed writer steps) (i : ι) (mine : κ)
    (written : writer = some i → mine = cell) :
    ∃ last, sharing.runAlone mine (threads i) (own i steps) = some (last, later.2 i) := by
  induction steps generalizing cell threads writer mine with
  | nil =>
      cases ran
      exact ⟨mine, rfl⟩
  | cons first steps ih =>
      obtain ⟨j, step⟩ := first
      obtain ⟨moved, moves, more⟩ := Option.bind_eq_some_iff.mp ran
      by_cases same : j = i
      · subst same
        obtain ⟨after, alone, stays⟩ := move_alone undisturbed written moves
        obtain ⟨last, rest⟩ := ih more undisturbed.tail after stays
        rw [Function.update_self] at rest
        refine ⟨last, ?_⟩
        rw [own, if_pos rfl, runAlone, alone]
        exact rest
      · obtain ⟨last, rest⟩ := ih more undisturbed.tail mine
          (writerAfter_other same written moves)
        rw [Function.update_of_ne fun equal => same equal.symm] at rest
        rw [own, if_neg same]
        exact ⟨last, rest⟩

end Sharing

end SynapTCP.Data
