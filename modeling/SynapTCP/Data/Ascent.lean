import Mathlib.Order.Basic
import SynapTCP.Data.Ring

namespace SynapTCP.Data

/-! # Rings in order

A ring whose links go up from the head on, and back to the head in the end.
-/

variable {ι : Type*} [Preorder ι] {next after : ι → Option ι} {head node prev i j : ι}
  {ring rest : List ι}

/-- Every link goes up, but for those to the head. -/
def GoesUp (next : ι → Option ι) (head : ι) : Prop :=
  ∀ i j, next i = some j → j ≠ head → i < j

theorem GoesUp.of_subset (goesUp : GoesUp next head)
    (same : ∀ i j, after i = some j → next i = some j) : GoesUp after head :=
  fun i j linked other => goesUp i j (same i j linked) other

/-- A node that is passed over. -/
theorem GoesUp.bridge (goesUp : GoesUp next head) (inner : next prev = some node)
    (other : node ≠ head)
    (links : ∀ i j, after i = some j → next i = some j ∨ i = prev ∧ next node = some j) :
    GoesUp after head := by
  intro i j linked notHead
  rcases links i j linked with same | ⟨rfl, behind⟩
  · exact goesUp i j same notHead
  · exact (goesUp i node inner other).trans (goesUp node j behind notHead)

theorem LeadsTo.pairwise (leads : LeadsTo next (node :: rest) head) (goesUp : GoesUp next head)
    (outside : head ∉ rest) : (node :: rest).Pairwise (· < ·) := by
  induction rest generalizing node with
  | nil => exact List.pairwise_singleton _ _
  | cons behind rest ih =>
      obtain ⟨linked, leads⟩ := leads_cons_cons.mp leads
      have sorted := ih leads fun member => outside (.tail _ member)
      have up := goesUp node behind linked fun same => outside (same ▸ .head _)
      refine List.pairwise_cons.mpr ⟨fun other member => ?_, sorted⟩
      rcases List.mem_cons.mp member with rfl | later
      · exact up
      · exact up.trans ((List.pairwise_cons.mp sorted).1 other later)

theorem IsRing.pairwise (isRing : IsRing next ring)
    (goesUp : ∀ head, ring.head? = some head → GoesUp next head) : ring.Pairwise (· < ·) := by
  cases ring with
  | nil => exact List.Pairwise.nil
  | cons head rest =>
      obtain ⟨nodup, leads⟩ := isRing_cons.mp isRing
      exact leads.pairwise (goesUp head rfl) (List.nodup_cons.mp nodup).1

theorem IsRing.goesUp (isRing : IsRing next ring) (sorted : ring.Pairwise (· < ·))
    (first : ring.head? = some head) (inside : ∀ i j, next i = some j → i ∈ ring) :
    GoesUp next head := by
  intro i j linked other
  obtain ⟨front, back, split⟩ := List.append_of_mem (inside i j linked)
  subst split
  cases back with
  | nil =>
      rw [isRing.next_last first] at linked
      exact absurd (Option.some.inj linked).symm other
  | cons behind back =>
      rw [isRing.next_inner] at linked
      cases linked
      have behindSorted := (List.pairwise_append.mp sorted).2.1
      exact (List.pairwise_cons.mp behindSorted).1 _ (.head _)

end SynapTCP.Data
