import SynapTCP.Data.Arena
import SynapTCP.Data.Custody
import Mathlib.Data.List.Perm.Basic
import Mathlib.Tactic.Common

namespace SynapTCP.Data

/-! # Who holds what

A list of acts against a list of the things that are held, each by one owner.  Whoever
hands out the things never hands out one that is held; the program gives back only what it
holds.
-/

section Ledger

variable {τ : Type*} [DecidableEq τ]

/-- Behind earlier acts nothing is handed out that is held. -/
def GrantedAfter (earlier : List (Act τ)) : List (Act τ) → Prop
  | [] => True
  | .acquire thing :: acts =>
      hold thing false earlier ≠ some true ∧ GrantedAfter (earlier ++ [.acquire thing]) acts
  | .release thing :: acts => GrantedAfter (earlier ++ [.release thing]) acts

instance decidableGrantedAfter :
    (earlier acts : List (Act τ)) → Decidable (GrantedAfter earlier acts)
  | _, [] => .isTrue trivial
  | earlier, .acquire thing :: acts =>
      @instDecidableAnd _ _ _ (decidableGrantedAfter (earlier ++ [.acquire thing]) acts)
  | earlier, .release thing :: acts => decidableGrantedAfter (earlier ++ [.release thing]) acts

def Granted (acts : List (Act τ)) : Prop := GrantedAfter [] acts

instance (acts : List (Act τ)) : Decidable (Granted acts) := decidableGrantedAfter [] acts

/-- These things are held, each once, and nothing was given back that was not. -/
structure Ledger (acts : List (Act τ)) (things : List τ) : Prop where
  once : things.Nodup
  held : ∀ t, hold t false acts = some (decide (t ∈ things))

variable {acts more : List (Act τ)} {things others given : List τ} {thing : τ}

theorem grantedAfter_append {earlier : List (Act τ)} :
    GrantedAfter earlier (acts ++ more) ↔
      GrantedAfter earlier acts ∧ GrantedAfter (earlier ++ acts) more := by
  induction acts generalizing earlier with
  | nil => simp [GrantedAfter]
  | cons act acts ih =>
      cases act with
      | acquire thing => simp [GrantedAfter, ih, and_assoc]
      | release thing => simp [GrantedAfter, ih]

theorem Granted.front (granted : Granted (acts ++ more)) : Granted acts :=
  (grantedAfter_append.mp granted).1

theorem Granted.last (granted : Granted (acts ++ [.acquire thing])) :
    hold thing false acts ≠ some true :=
  (grantedAfter_append.mp granted).2.1

namespace Ledger

theorem nil : Ledger ([] : List (Act τ)) [] := ⟨List.nodup_nil, fun _ => rfl⟩

theorem perm (ledger : Ledger acts things) (same : things.Perm others) : Ledger acts others := by
  refine ⟨same.nodup_iff.mp ledger.once, fun t => ?_⟩
  rw [ledger.held, decide_eq_decide.mpr same.mem_iff]

theorem fresh (ledger : Ledger acts things) (granted : Granted (acts ++ [.acquire thing])) :
    thing ∉ things := by
  intro member
  apply granted.last
  rw [ledger.held, decide_eq_true member]

theorem acquire (ledger : Ledger acts things) (granted : Granted (acts ++ [.acquire thing])) :
    Ledger (acts ++ [.acquire thing]) (thing :: things) := by
  have absent := ledger.fresh granted
  refine ⟨List.nodup_cons.mpr ⟨absent, ledger.once⟩, fun t => ?_⟩
  rw [hold_then (ledger.held t)]
  by_cases same : thing = t
  · subst same
    simp [hold, absent]
  · rw [hold_acquire_of_ne same, hold_nil]
    simp [Ne.symm same]

theorem release (ledger : Ledger acts (thing :: things)) :
    Ledger (acts ++ [.release thing]) things := by
  obtain ⟨absent, once⟩ := List.nodup_cons.mp ledger.once
  refine ⟨once, fun t => ?_⟩
  rw [hold_then (ledger.held t)]
  by_cases same : thing = t
  · subst same
    simp [hold, absent]
  · rw [hold_release_of_ne same, hold_nil]
    simp [Ne.symm same]

theorem releaseAll (ledger : Ledger acts (given ++ things)) :
    Ledger (acts ++ given.map .release) things := by
  induction given generalizing acts with
  | nil => simpa using ledger
  | cons thing given ih =>
      have rest := ih ledger.release
      rwa [List.append_assoc] at rest

end Ledger

end Ledger

/-! ## What the objects of an arena hold -/

namespace Arena

variable {α β : Type*} {arena : Arena α} {i j : Nat} {a b : α} {x : β} {f : α → List β}

def contents (f : α → List β) (arena : Arena α) : List β :=
  arena.cells.flatMap fun cell => (cell.map f).getD []

theorem contents_make : contents f (arena.make a) = contents f arena ++ f a := by
  simp [contents, make]

theorem make_set : (arena.make a).set arena.fresh b = arena.make b := by
  simp [make, set, fresh]

theorem contents_make_destroy :
    contents f ((arena.make a).destroy arena.fresh) = contents f arena := by
  simp [contents, make, destroy, fresh]

theorem mem_contents : x ∈ contents f arena ↔ ∃ i a, arena.get? i = some a ∧ x ∈ f a := by
  unfold contents get?
  rw [List.mem_flatMap]
  constructor
  · intro inside
    obtain ⟨cell, member, has⟩ := inside
    obtain ⟨i, here⟩ := List.mem_iff_getElem?.mp member
    cases cell with
    | none => contradiction
    | some a => exact ⟨i, a, by rw [here]; rfl, has⟩
  · intro inside
    obtain ⟨i, a, here, has⟩ := inside
    rw [Option.join_eq_some_iff] at here
    exact ⟨some a, List.mem_of_getElem? here, has⟩

/-- The contents of one object, and the rest. -/
theorem contents_split (f : α → List β) (live : arena.get? i = some a) :
    ∃ rest, (contents f arena).Perm (f a ++ rest) ∧
      (∀ b, (contents f (arena.set i b)).Perm (f b ++ rest)) ∧
      (contents f (arena.destroy i)).Perm rest := by
  have inside : i < arena.cells.length := lt_fresh_of_get? live
  have here : arena.cells[i] = some a := by
    simpa [get?, inside, Option.join_eq_some_iff] using live
  let held := fun cell : Option α => (cell.map f).getD []
  have put : ∀ cell, ((arena.cells.set i cell).flatMap held).Perm
      (held cell ++ ((arena.cells.take i).flatMap held ++
        (arena.cells.drop (i + 1)).flatMap held)) := by
    intro cell
    rw [List.set_eq_take_append_cons_drop, if_pos inside, List.flatMap_append,
      List.flatMap_cons]
    exact List.perm_append_comm_assoc _ _ _
  have same : arena.cells.set i (some a) = arena.cells := by
    rw [← here, List.set_getElem_self]
  refine ⟨_, ?_, fun b => put (some b), put none⟩
  have whole := put (some a)
  rw [same] at whole
  exact whole

/-- What is held once has one owner. -/
theorem owner_unique (once : (contents f arena).Nodup) (first : arena.get? i = some a)
    (second : arena.get? j = some b) (inFirst : x ∈ f a) (inSecond : x ∈ f b) : i = j := by
  by_contra other
  obtain ⟨rest, whole, -, others⟩ := contents_split f first
  have left : x ∈ rest := by
    apply others.mem_iff.mp
    exact mem_contents.mpr ⟨j, b, by rw [get?_destroy_of_ne (Ne.symm other), second], inSecond⟩
  have apart := (List.nodup_append.mp (whole.nodup_iff.mp once)).2.2
  exact apart x inFirst x left rfl

end Arena

end SynapTCP.Data
