import Mathlib.Data.List.Nodup
import Mathlib.Data.List.Perm.Basic
import Mathlib.Tactic.Common

namespace SynapTCP.Data

/-! # Choosing from a list with one element deferred

A scan over a list serves the first element that is ready, but the active one only
if nothing else stops the scan; and it gives up the first element that has expired.
-/

/-- What a scan sees of an element. -/
structure Sight where
  active : Bool
  readable : Bool
  expired : Bool
deriving DecidableEq

inductive Choice (ι : Type*) where
  | serve (i : ι)
  | drop (i : ι)
  | pass
deriving DecidableEq

variable {ι : Type*} {sight : ι → Sight} {deferred : Option ι} {nodes : List ι} {i : ι}

/-- `deferred` is the active element, once the scan has seen it. -/
def chooseFrom (sight : ι → Sight) (deferred : Option ι) : List ι → Choice ι
  | [] =>
      match deferred with
      | none => .pass
      | some i => if (sight i).readable then .serve i else .pass
  | i :: rest =>
      if (sight i).active = false ∧ (sight i).readable = true then .serve i
      else if (sight i).expired then .drop i
      else chooseFrom sight (if (sight i).active then some i else deferred) rest

def Sight.Stops (sight : Sight) : Prop :=
  (sight.active = false ∧ sight.readable = true) ∨ sight.expired = true

theorem chooseFrom_cons_of_not_stops {rest : List ι} (goes : ¬ (sight i).Stops) :
    chooseFrom sight deferred (i :: rest) =
      chooseFrom sight (if (sight i).active then some i else deferred) rest := by
  have unready : ¬ ((sight i).active = false ∧ (sight i).readable = true) :=
    fun ready => goes (.inl ready)
  have fresh : ¬ (sight i).expired = true := fun expired => goes (.inr expired)
  rw [chooseFrom, if_neg unready, if_neg fresh]

/-- What is given up is the first element at which the scan stops. -/
theorem chooseFrom_drop_iff :
    chooseFrom sight deferred nodes = .drop i ↔
      ∃ front back, nodes = front ++ i :: back ∧ (∀ j ∈ front, ¬ (sight j).Stops) ∧
        (sight i).expired = true ∧ ((sight i).active = false → (sight i).readable = false) := by
  induction nodes generalizing deferred with
  | nil =>
      constructor
      · intro dropped
        unfold chooseFrom at dropped
        split at dropped
        · contradiction
        · split at dropped <;> contradiction
      · intro ⟨front, back, split, _⟩
        simp at split
  | cons first rest ih =>
      by_cases stops : (sight first).Stops
      · constructor
        · intro dropped
          rw [chooseFrom] at dropped
          split at dropped
          · contradiction
          · rename_i unready
            split at dropped
            · rename_i expired
              cases dropped
              refine ⟨[], rest, rfl, by simp, expired, fun inactive => ?_⟩
              simpa [inactive] using unready
            · rename_i fresh
              exact absurd (stops.resolve_left unready) fresh
        · intro ⟨front, back, split, passed, expired, unready⟩
          cases front with
          | nil =>
              cases split
              rw [chooseFrom, if_neg, if_pos expired]
              intro ready
              simp [unready ready.1] at ready
          | cons j front =>
              cases split
              exact absurd stops (passed _ (.head _))
      · rw [chooseFrom_cons_of_not_stops stops, ih]
        constructor
        · intro ⟨front, back, split, passed, found⟩
          refine ⟨first :: front, back, by rw [split]; rfl, fun j member => ?_, found⟩
          rcases List.mem_cons.mp member with same | later
          · rw [same]
            exact stops
          · exact passed j later
        · intro ⟨front, back, split, passed, found⟩
          cases front with
          | nil =>
              cases split
              exact absurd (.inr found.1) stops
          | cons j front =>
              cases split
              exact ⟨front, back, rfl, fun j member => passed j (.tail _ member), found⟩

theorem chooseFrom_serve (served : chooseFrom sight deferred nodes = .serve i) :
    (sight i).readable = true ∧ (i ∈ nodes ∨ deferred = some i) := by
  induction nodes generalizing deferred with
  | nil =>
      unfold chooseFrom at served
      split at served
      · contradiction
      · split at served
        · rename_i readable
          cases served
          exact ⟨readable, .inr rfl⟩
        · contradiction
  | cons first rest ih =>
      rw [chooseFrom] at served
      split at served
      · rename_i ready
        cases served
        exact ⟨ready.2, .inl (.head _)⟩
      · split at served
        · contradiction
        · obtain ⟨readable, later | seen⟩ := ih served
          · exact ⟨readable, .inl (.tail _ later)⟩
          · split at seen
            · cases seen
              exact ⟨readable, .inl (.head _)⟩
            · exact ⟨readable, .inr seen⟩

/-! ## When the first two are ready -/

variable [DecidableEq ι] {active : Option ι} {head : ι} {rest : List ι}

/-- The choice then: the head, or behind an active head the next one. -/
def turn (active : Option ι) : List ι → Option ι
  | [] => none
  | head :: rest =>
      if active = some head then some (rest.head?.getD head) else some head

theorem chooseFrom_turn (first : (sight head).readable = true)
    (isActive : (sight head).active = true ↔ active = some head)
    (fresh : (sight head).active = true → (sight head).expired = false)
    (next : ∀ second ∈ rest.head?, (sight head).active = true →
      (sight second).active = false ∧ (sight second).readable = true) :
    ∃ i, turn active (head :: rest) = some i ∧
      chooseFrom sight none (head :: rest) = .serve i := by
  by_cases isHead : active = some head
  · have deferred := isActive.mpr isHead
    refine ⟨rest.head?.getD head, by rw [turn, if_pos isHead], ?_⟩
    have goes : ¬ (sight head).Stops := by
      intro stops
      simp [Sight.Stops, deferred, fresh deferred] at stops
    rw [chooseFrom_cons_of_not_stops goes]
    cases rest with
    | nil => simp [chooseFrom, deferred, first]
    | cons second rest =>
        rw [chooseFrom, if_pos (next second rfl deferred)]
        rfl
  · refine ⟨head, by rw [turn, if_neg isHead], ?_⟩
    have inactive : (sight head).active = false := by
      rw [← Bool.not_eq_true, isActive]
      exact isHead
    rw [chooseFrom, if_pos ⟨inactive, first⟩]

/-- The choices one after another, each making its element the active one. -/
def turns (nodes : List ι) (active : Option ι) : Nat → List ι
  | 0 => []
  | count + 1 =>
      match turn active nodes with
      | none => []
      | some i => i :: turns nodes (some i) count

/-- Behind the second element nothing is ever chosen. -/
theorem mem_turns {second : ι} {count : Nat} (chosen : i ∈ turns (head :: second :: rest) active count) :
    i = head ∨ i = second := by
  induction count generalizing active with
  | zero => contradiction
  | succ count ih =>
      have front : ∃ j, turn active (head :: second :: rest) = some j ∧ (j = head ∨ j = second) := by
        rw [turn]
        split
        · exact ⟨second, rfl, .inr rfl⟩
        · exact ⟨head, rfl, .inl rfl⟩
      obtain ⟨j, turned, isFront⟩ := front
      rw [turns, turned] at chosen
      rcases List.mem_cons.mp chosen with here | later
      · rw [here]
        exact isFront
      · exact ih later

/-- As many choices as elements go once round exactly if there are at most two; the
elements may be known by names of their own. -/
theorem turns_perm_iff {κ : Type*} {name : ι → κ} (nodup : nodes.Nodup)
    (names : ∀ i ∈ nodes, ∀ j ∈ nodes, name i = name j → i = j) :
    ((turns nodes active nodes.length).map name).Perm (nodes.map name) ↔ nodes.length ≤ 2 := by
  match nodes with
  | [] => simp [turns]
  | [only] =>
      have once : turns [only] active 1 = [only] := by
        simp [turns, turn]
      rw [List.length_singleton, once]
      simp
  | [head, second] =>
      have other : head ≠ second := by simpa using nodup
      have twice : turns [head, second] active 2 = [head, second] ∨
          turns [head, second] active 2 = [second, head] := by
        by_cases isHead : active = some head
        · right
          simp [turns, turn, isHead, other.symm]
        · left
          simp [turns, turn, isHead]
      rw [List.length_cons, List.length_singleton]
      rcases twice with same | swapped
      · rw [same]
        simp
      · rw [swapped]
        exact iff_of_true (.swap _ _ _) (Nat.le_refl 2)
  | head :: second :: third :: rest =>
      refine iff_of_false (fun perm => ?_) (by simp)
      have named : name third ∈ (turns (head :: second :: third :: rest) active
          (head :: second :: third :: rest).length).map name :=
        perm.mem_iff.mpr (List.mem_map_of_mem (by simp))
      obtain ⟨j, chosen, same⟩ := List.mem_map.mp named
      obtain ⟨notHead, nodupTail⟩ := List.nodup_cons.mp nodup
      obtain ⟨notSecond, -⟩ := List.nodup_cons.mp nodupTail
      rcases mem_turns chosen with isHead | isSecond
      · have isThird := names j (by simp [isHead]) third (by simp) same
        exact notHead (isHead ▸ isThird ▸ .tail _ (.head _))
      · have isThird := names j (by simp [isSecond]) third (by simp) same
        exact notSecond (isSecond ▸ isThird ▸ .head _)

end SynapTCP.Data
