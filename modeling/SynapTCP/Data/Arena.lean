import Mathlib.Data.List.Basic

namespace SynapTCP.Data

/-! # Objects with identities

The objects of one class that a program has made.  An identity is never used
again: a destroyed object leaves its place empty.
-/

structure Arena (α : Type*) where
  cells : List (Option α)
deriving DecidableEq

namespace Arena

variable {α : Type*} {arena : Arena α} {i j : Nat} {a b : α}

def empty : Arena α := ⟨[]⟩

/-- The object with the identity `i`, if it is made and not destroyed. -/
def get? (arena : Arena α) (i : Nat) : Option α := arena.cells[i]?.join

def fresh (arena : Arena α) : Nat := arena.cells.length

def make (arena : Arena α) (a : α) : Arena α := ⟨arena.cells ++ [some a]⟩

def set (arena : Arena α) (i : Nat) (a : α) : Arena α := ⟨arena.cells.set i (some a)⟩

def destroy (arena : Arena α) (i : Nat) : Arena α := ⟨arena.cells.set i none⟩

@[simp] theorem get?_empty : (empty : Arena α).get? i = none := by
  simp [get?, empty]

@[simp] theorem get?_fresh : arena.get? arena.fresh = none := by
  unfold get? fresh
  rw [List.getElem?_eq_none (Nat.le_refl _)]
  rfl

theorem lt_fresh_of_get? (live : arena.get? i = some a) : i < arena.fresh := by
  unfold get? at live
  by_contra beyond
  rw [List.getElem?_eq_none (Nat.le_of_not_lt beyond)] at live
  contradiction

theorem ne_fresh_of_get? (live : arena.get? i = some a) : i ≠ arena.fresh :=
  Nat.ne_of_lt (lt_fresh_of_get? live)

@[simp] theorem get?_make_fresh : (arena.make a).get? arena.fresh = some a := by
  simp [get?, make, fresh]

theorem get?_make_of_ne (other : i ≠ arena.fresh) : (arena.make a).get? i = arena.get? i := by
  unfold get? make fresh at *
  rcases Nat.lt_or_gt_of_ne other with below | above
  · rw [List.getElem?_append_left below]
  · rw [List.getElem?_eq_none (by rw [List.length_append]; simp; omega),
      List.getElem?_eq_none (Nat.le_of_lt above)]

theorem get?_make_of_live (live : arena.get? i = some b) : (arena.make a).get? i = some b := by
  rw [get?_make_of_ne (ne_fresh_of_get? live), live]

theorem get?_set_self (live : arena.get? i = some b) : (arena.set i a).get? i = some a := by
  have bound := lt_fresh_of_get? live
  unfold fresh at bound
  simp [get?, set, bound]

theorem eq_of_get?_set (there : (arena.set i a).get? i = some b) : b = a := by
  by_cases inside : i < arena.cells.length
  · simpa [get?, set, inside, eq_comm] using there
  · simp [get?, set, inside] at there

theorem get?_set_of_ne (other : j ≠ i) : (arena.set i a).get? j = arena.get? j := by
  unfold get? set
  rw [List.getElem?_set_ne other.symm]

@[simp] theorem get?_destroy_self : (arena.destroy i).get? i = none := by
  unfold get? destroy
  rw [List.getElem?_set_self']
  cases arena.cells[i]? <;> rfl

theorem get?_destroy_of_ne (other : j ≠ i) : (arena.destroy i).get? j = arena.get? j := by
  unfold get? destroy
  rw [List.getElem?_set_ne other.symm]

@[simp] theorem set_set : (arena.set i a).set i b = arena.set i b := by
  simp [set]

@[simp] theorem fresh_make : (arena.make a).fresh = arena.fresh + 1 := by
  simp [fresh, make]

@[simp] theorem fresh_set : (arena.set i a).fresh = arena.fresh := by
  simp [fresh, set]

@[simp] theorem fresh_destroy : (arena.destroy i).fresh = arena.fresh := by
  simp [fresh, destroy]

end Arena

end SynapTCP.Data
