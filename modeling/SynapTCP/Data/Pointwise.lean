import Mathlib.Data.List.Forall2

namespace SynapTCP.Data

/-! # Lists related element by element

How pointwise relations between lists compose, and what they carry from one list to
the other.
-/

variable {α β γ : Type*} {R : α → β → Prop} {left : List α} {right : List β}

theorem exists_forall₂ (related : ∀ x ∈ left, ∃ y, R x y) : ∃ other, List.Forall₂ R left other := by
  induction left with
  | nil => exact ⟨[], .nil⟩
  | cons x left ih =>
      rw [List.forall_mem_cons] at related
      obtain ⟨y, first⟩ := related.1
      obtain ⟨other, rest⟩ := ih related.2
      exact ⟨y :: other, .cons first rest⟩

theorem forall₂_comp {S : β → γ → Prop} {T : α → γ → Prop} {last : List γ}
    (first : List.Forall₂ R left right) (second : List.Forall₂ S right last)
    (compose : ∀ {x y z}, R x y → S y z → T x z) : List.Forall₂ T left last := by
  induction first generalizing last with
  | nil =>
      cases second
      exact .nil
  | cons same _ ih =>
      cases second with
      | cons again second => exact .cons (compose same again) (ih second)

theorem flatMap_eq_of_forall₂ {f : α → List γ} {g : β → List γ}
    (related : List.Forall₂ R left right) (equal : ∀ {x y}, R x y → f x = g y) :
    left.flatMap f = right.flatMap g := by
  induction related with
  | nil => rfl
  | cons same _ ih => rw [List.flatMap_cons, List.flatMap_cons, equal same, ih]

theorem flatMap_sublist_of_forall₂ {f : α → List γ} {g : β → List γ}
    (related : List.Forall₂ R left right) (part : ∀ {x y}, R x y → (g y).Sublist (f x)) :
    (right.flatMap g).Sublist (left.flatMap f) := by
  induction related with
  | nil => exact List.nil_sublist _
  | cons same _ ih =>
      rw [List.flatMap_cons, List.flatMap_cons]
      exact (part same).append ih

theorem forall_mem_of_forall₂ {P : β → Prop} (related : List.Forall₂ R left right)
    (holds : ∀ {x y}, R x y → P y) : ∀ y ∈ right, P y := by
  induction related with
  | nil => simp
  | cons same _ ih =>
      rw [List.forall_mem_cons]
      exact ⟨holds same, ih⟩

theorem forall₂_getLast? (related : List.Forall₂ R left right) :
    ∀ last ∈ right.getLast?, ∃ first ∈ left.getLast?, R first last := by
  induction related with
  | nil => simp
  | @cons first last left right same rest ih =>
      cases rest with
      | nil => simpa using same
      | cons next more =>
          rw [List.getLast?_cons_cons, List.getLast?_cons_cons]
          exact ih

end SynapTCP.Data
