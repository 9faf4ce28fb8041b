import Mathlib.Data.List.Nodup
import Mathlib.Order.Basic

namespace SynapTCP.Data

/-! # Who is there and who has left

Members come with identities that only go up, and leave one at a time.
-/

variable {ι : Type*} [Preorder ι] {passed : List (List ι)} {gone here : List ι} {bound higher i : ι}

/-- Everyone who has been there is there still or has left, once; the identities from the
bound on are yet to come. -/
structure Tally (passed : List (List ι)) (gone here : List ι) (bound : ι) : Prop where
  nodup : (gone ++ here).Nodup
  covered : ∀ i, (∃ members ∈ passed, i ∈ members) ↔ i ∈ gone ++ here
  below : ∀ i ∈ gone ++ here, i < bound

namespace Tally

theorem start (nodup : here.Nodup) (below : ∀ i ∈ here, i < bound) :
    Tally [here] [] here bound := by
  refine ⟨nodup, fun i => ?_, below⟩
  simp

theorem covered_snoc {members later : List ι} (tally : Tally passed gone here bound)
    (same : ∀ i, i ∈ members ∨ i ∈ gone ++ here ↔ i ∈ later) :
    ∀ i, (∃ list ∈ passed ++ [members], i ∈ list) ↔ i ∈ later := by
  intro i
  rw [← same i, ← tally.covered i]
  constructor
  · rintro ⟨list, member, inside⟩
    rcases List.mem_append.mp member with before | last
    · exact .inr ⟨list, before, inside⟩
    · exact .inl (List.mem_singleton.mp last ▸ inside)
  · rintro (inside | ⟨list, member, inside⟩)
    · exact ⟨members, by simp, inside⟩
    · exact ⟨list, List.mem_append_left _ member, inside⟩

theorem stay (tally : Tally passed gone here bound) (grows : bound ≤ higher) :
    Tally (passed ++ [here]) gone here higher := by
  refine ⟨tally.nodup, tally.covered_snoc fun i => ?_, fun i member => ?_⟩
  · exact or_iff_right_of_imp (List.mem_append_right gone)
  · exact (tally.below i member).trans_le grows

theorem join (tally : Tally passed gone here bound) (next : bound < higher) :
    Tally (passed ++ [here ++ [bound]]) gone (here ++ [bound]) higher := by
  refine ⟨?_, tally.covered_snoc fun i => ?_, fun i member => ?_⟩
  · rw [← List.append_assoc]
    refine tally.nodup.append (List.nodup_singleton _) fun i member last => ?_
    rw [List.mem_singleton.mp last] at member
    exact absurd (tally.below bound member) (lt_irrefl bound)
  · simp only [List.mem_append, List.mem_singleton]
    tauto
  · rw [← List.append_assoc] at member
    rcases List.mem_append.mp member with before | last
    · exact (tally.below i before).trans next
    · exact List.mem_singleton.mp last ▸ next

theorem leave [DecidableEq ι] (tally : Tally passed gone here bound) (member : i ∈ here)
    (grows : bound ≤ higher) :
    Tally (passed ++ [here.erase i]) (gone ++ [i]) (here.erase i) higher := by
  have moved : (gone ++ [i] ++ here.erase i).Perm (gone ++ here) := by
    rw [List.append_assoc]
    exact (List.perm_cons_erase member).symm.append_left gone
  refine ⟨moved.nodup_iff.mpr tally.nodup, tally.covered_snoc fun j => ?_, fun j inside => ?_⟩
  · rw [moved.mem_iff]
    exact or_iff_right_of_imp fun left => List.mem_append_right gone (List.mem_of_mem_erase left)
  · exact (tally.below j (moved.mem_iff.mp inside)).trans_le grows

end Tally

end SynapTCP.Data
