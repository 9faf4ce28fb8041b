import Mathlib.Data.List.Infix
import Mathlib.Order.Basic

namespace SynapTCP.Data

/-! # Occurrences of a pattern in a list

`OccursAt pattern text index` says that `pattern` stands in `text` from `index`
on; `LeftmostAt` adds that it stands nowhere earlier.  Both are stable under
appending to the text, which is what an incremental search rests on.
-/

variable {α : Type*}

def OccursAt (pattern text : List α) (index : Nat) : Prop :=
  pattern <+: text.drop index

instance [DecidableEq α] (pattern text : List α) (index : Nat) :
    Decidable (OccursAt pattern text index) :=
  inferInstanceAs (Decidable (pattern <+: text.drop index))

structure LeftmostAt (pattern text : List α) (index : Nat) : Prop where
  occurs : OccursAt pattern text index
  first : ∀ earlier < index, ¬ OccursAt pattern text earlier

variable {pattern text rest skipped : List α} {index : Nat}

theorem occursAt_iff_take :
    OccursAt pattern text index ↔ (text.drop index).take pattern.length = pattern := by
  unfold OccursAt
  rw [List.prefix_iff_eq_take]
  exact eq_comm

theorem OccursAt.fits (occurs : OccursAt pattern text index) (nonempty : pattern ≠ []) :
    index + pattern.length ≤ text.length := by
  have bound := occurs.length_le
  have positive := List.length_pos_iff.mpr nonempty
  rw [List.length_drop] at bound
  omega

theorem occursAt_append_iff (fits : index + pattern.length ≤ text.length) :
    OccursAt pattern (text ++ rest) index ↔ OccursAt pattern text index := by
  rw [occursAt_iff_take, occursAt_iff_take, List.drop_append_of_le_length (by omega),
    List.take_append_of_le_length (by rw [List.length_drop]; omega)]

theorem OccursAt.append (occurs : OccursAt pattern text index) :
    OccursAt pattern (text ++ rest) index := by
  unfold OccursAt at *
  rw [List.drop_append]
  exact occurs.trans (List.prefix_append _ _)

theorem occursAt_of_split : OccursAt pattern (skipped ++ pattern ++ rest) skipped.length := by
  unfold OccursAt
  rw [List.append_assoc, List.drop_left]
  exact List.prefix_append _ _

theorem OccursAt.split (occurs : OccursAt pattern text index) :
    text = text.take index ++ pattern ++ text.drop (index + pattern.length) := by
  obtain ⟨tail, same⟩ := occurs
  have behind : text.drop (index + pattern.length) = tail := by
    rw [← List.drop_drop, ← same, List.drop_left]
  rw [behind, List.append_assoc, same, List.take_append_drop]

theorem OccursAt.take_through (occurs : OccursAt pattern text index) :
    text.take (index + pattern.length) = text.take index ++ pattern := by
  rw [List.take_add, occursAt_iff_take.mp occurs]

/-- An occurrence that ends inside the text survives a longer text and gains no
earlier rival, so the leftmost occurrence is found once and for all. -/
theorem LeftmostAt.append (leftmost : LeftmostAt pattern text index)
    (fits : index + pattern.length ≤ text.length) :
    LeftmostAt pattern (text ++ rest) index where
  occurs := leftmost.occurs.append
  first := fun earlier before occurs =>
    leftmost.first earlier before ((occursAt_append_iff (by omega)).mp occurs)

theorem LeftmostAt.of_append (leftmost : LeftmostAt pattern (text ++ rest) index)
    (fits : index + pattern.length ≤ text.length) : LeftmostAt pattern text index where
  occurs := (occursAt_append_iff fits).mp leftmost.occurs
  first := fun earlier before occurs => leftmost.first earlier before occurs.append

theorem LeftmostAt.le_of_occursAt (leftmost : LeftmostAt pattern text index)
    {other : Nat} (occurs : OccursAt pattern text other) : index ≤ other := by
  by_contra before
  exact leftmost.first other (by omega) occurs

theorem LeftmostAt.unique {other : Nat} (left : LeftmostAt pattern text index)
    (right : LeftmostAt pattern text other) : index = other :=
  le_antisymm (left.le_of_occursAt right.occurs) (right.le_of_occursAt left.occurs)

theorem leftmostAt_zero_of_prefix (front : pattern <+: text) : LeftmostAt pattern text 0 where
  occurs := front
  first := fun _ before => absurd before (Nat.not_lt_zero _)

/-- The forward scan for a pattern: it tries every position that leaves room for
the pattern, from `index` on, and reports whether it stopped on an occurrence
and where. -/
def searchFrom [DecidableEq α] (pattern text : List α) (index : Nat) : Bool × Nat :=
  if index + pattern.length ≤ text.length then
    if (text.drop index).take pattern.length = pattern then (true, index)
    else searchFrom pattern text (index + 1)
  else (false, index)
termination_by text.length + 1 - index

variable [DecidableEq α] {found : Nat}

theorem searchFrom_found (searched : searchFrom pattern text index = (true, found)) :
    index ≤ found ∧ found + pattern.length ≤ text.length ∧ OccursAt pattern text found ∧
      ∀ between, index ≤ between → between < found → ¬ OccursAt pattern text between := by
  fun_induction searchFrom pattern text index with
  | case1 index room here =>
      obtain ⟨-, rfl⟩ := Prod.mk.inj searched
      exact ⟨Nat.le_refl _, room, occursAt_iff_take.mpr here, fun _ _ _ => by omega⟩
  | case2 index room absent ih =>
      obtain ⟨lower, fits, occurs, first⟩ := ih searched
      refine ⟨by omega, fits, occurs, fun between low high => ?_⟩
      by_cases same : between = index
      · subst same
        exact fun occurs => absent (occursAt_iff_take.mp occurs)
      · exact first between (by omega) high
  | case3 index full => simp at searched

theorem searchFrom_missed (searched : searchFrom pattern text index = (false, found)) :
    text.length < found + pattern.length ∧
      (index + pattern.length ≤ text.length + 1 → found + pattern.length = text.length + 1) ∧
      ∀ between, index ≤ between → between + pattern.length ≤ text.length →
        ¬ OccursAt pattern text between := by
  fun_induction searchFrom pattern text index with
  | case1 index room here => simp at searched
  | case2 index room absent ih =>
      obtain ⟨past, width, later⟩ := ih searched
      refine ⟨past, fun _ => width (by omega), fun between low fits => ?_⟩
      by_cases same : between = index
      · subst same
        exact fun occurs => absent (occursAt_iff_take.mp occurs)
      · exact later between (by omega) fits
  | case3 index full =>
      obtain ⟨-, rfl⟩ := Prod.mk.inj searched
      exact ⟨by omega, fun _ => by omega, fun _ _ _ => by omega⟩

/-! A search resumed on a longer text may skip every position that the shorter
text already had room for. -/

variable {more : List α} {start : Nat}

omit [DecidableEq α] in
theorem not_occursAt_before_resume (absent : ∀ index, ¬ OccursAt pattern text index)
    (resume : start = 0 ∨ start + pattern.length ≤ text.length + 1) {earlier : Nat}
    (before : earlier < start) : ¬ OccursAt pattern (text ++ more) earlier := by
  intro occurs
  rcases resume with zero | bound
  · omega
  · exact absent earlier ((occursAt_append_iff (by omega)).mp occurs)

theorem searchFrom_resumed_found (absent : ∀ index, ¬ OccursAt pattern text index)
    (resume : start = 0 ∨ start + pattern.length ≤ text.length + 1)
    (searched : searchFrom pattern (text ++ more) start = (true, found)) :
    LeftmostAt pattern (text ++ more) found := by
  obtain ⟨-, -, occurs, between⟩ := searchFrom_found searched
  refine ⟨occurs, fun earlier before => ?_⟩
  rcases Nat.lt_or_ge earlier start with skipped | checked
  · exact not_occursAt_before_resume absent resume skipped
  · exact between earlier checked before

theorem searchFrom_resumed_missed (absent : ∀ index, ¬ OccursAt pattern text index)
    (nonempty : pattern ≠ [])
    (resume : start = 0 ∨ start + pattern.length ≤ text.length + 1)
    (room : pattern.length ≤ (text ++ more).length)
    (searched : searchFrom pattern (text ++ more) start = (false, found)) :
    (∀ index, ¬ OccursAt pattern (text ++ more) index) ∧
      found + pattern.length = (text ++ more).length + 1 := by
  obtain ⟨-, last, later⟩ := searchFrom_missed searched
  have bound : start + pattern.length ≤ (text ++ more).length + 1 := by
    rcases resume with zero | bound
    · omega
    · simp only [List.length_append]
      omega
  refine ⟨fun index occurs => ?_, last bound⟩
  rcases Nat.lt_or_ge index start with skipped | checked
  · exact not_occursAt_before_resume absent resume skipped occurs
  · exact later index checked (occurs.fits nonempty) occurs

/-! The position of the leftmost occurrence, by the scan from the front. -/

def firstOccurrence (pattern text : List α) : Option Nat :=
  if (searchFrom pattern text 0).1 then some (searchFrom pattern text 0).2 else none

theorem leftmostAt_of_firstOccurrence (first : firstOccurrence pattern text = some found) :
    LeftmostAt pattern text found := by
  unfold firstOccurrence at first
  generalize searched : searchFrom pattern text 0 = result at first
  obtain ⟨hit, index⟩ := result
  cases hit with
  | false => simp at first
  | true =>
      obtain rfl : index = found := by simpa using first
      obtain ⟨-, -, occurs, between⟩ := searchFrom_found searched
      exact ⟨occurs, fun earlier before => between earlier (Nat.zero_le _) before⟩

theorem firstOccurrence_of_leftmostAt (nonempty : pattern ≠ [])
    (leftmost : LeftmostAt pattern text found) : firstOccurrence pattern text = some found := by
  unfold firstOccurrence
  generalize searched : searchFrom pattern text 0 = result
  obtain ⟨hit, index⟩ := result
  cases hit with
  | false =>
      obtain ⟨-, -, absent⟩ := searchFrom_missed searched
      exact absurd leftmost.occurs
        (absent found (Nat.zero_le _) (leftmost.occurs.fits nonempty))
  | true =>
      obtain ⟨-, -, occurs, between⟩ := searchFrom_found searched
      have there : LeftmostAt pattern text index :=
        ⟨occurs, fun earlier before => between earlier (Nat.zero_le _) before⟩
      rw [leftmost.unique there]
      rfl

omit [DecidableEq α] in
theorem OccursAt.exists_leftmost (occurs : OccursAt pattern text index) :
    ∃ first, first ≤ index ∧ LeftmostAt pattern text first := by
  induction index using Nat.strongRecOn with
  | ind index ih =>
      by_cases earlier : ∃ first < index, OccursAt pattern text first
      · obtain ⟨first, before, occursFirst⟩ := earlier
        obtain ⟨leftmost, bound, found⟩ := ih first before occursFirst
        exact ⟨leftmost, by omega, found⟩
      · exact ⟨index, Nat.le_refl _, occurs, fun first before occursFirst =>
          earlier ⟨first, before, occursFirst⟩⟩

omit [DecidableEq α] in
/-- An occurrence that could reach an element only with a part that does not have it ends
before it. -/
theorem OccursAt.ends_before {front more : List α} {item : α} (skip : Nat)
    (occurs : OccursAt pattern (front ++ item :: more) index)
    (early : index + skip ≤ front.length) (absent : item ∉ pattern.drop skip) :
    index + pattern.length ≤ front.length := by
  by_contra beyond
  have inside : front.length - index < pattern.length := by omega
  have there := occurs.getElem inside
  have place : index + (front.length - index) = front.length := by omega
  have at_front : (front ++ item :: more)[front.length]? = some item := by simp
  apply absent
  rw [List.mem_drop_iff_getElem]
  refine ⟨front.length - index - skip, by omega, ?_⟩
  have position : skip + (front.length - index - skip) = front.length - index := by omega
  simp only [position, there]
  rw [List.getElem_eq_iff, List.getElem?_drop, place]
  exact at_front

end SynapTCP.Data
