import Mathlib.Data.List.Induction

namespace SynapTCP.Data

/-! # Events that need a cause

In a trace where some events must come behind others, `cause` gives for each
event the one that it needs.
-/

variable {ε : Type*} {cause : ε → Option ε} {seen other left right trace : List ε}

/-- Each event comes behind its cause, those in `seen` being in the past. -/
def Caused (cause : ε → Option ε) : List ε → List ε → Prop
  | _, [] => True
  | seen, event :: rest =>
      (∀ needed, cause event = some needed → needed ∈ seen) ∧ Caused cause (event :: seen) rest

/-- Only the causes of what is still to come matter of the past. -/
theorem caused_congr (same : ∀ event ∈ trace, ∀ needed, cause event = some needed →
    (needed ∈ seen ↔ needed ∈ other)) : Caused cause seen trace ↔ Caused cause other trace := by
  induction trace generalizing seen other with
  | nil => exact Iff.rfl
  | cons event rest ih =>
      have later : Caused cause (event :: seen) rest ↔ Caused cause (event :: other) rest := by
        apply ih
        intro next member needed because
        rw [List.mem_cons, List.mem_cons,
          same next (List.mem_cons_of_mem event member) needed because]
      have now : (∀ needed, cause event = some needed → needed ∈ seen) ↔
          ∀ needed, cause event = some needed → needed ∈ other := by
        constructor
        · intro had needed because
          exact (same event List.mem_cons_self needed because).mp (had needed because)
        · intro had needed because
          exact (same event List.mem_cons_self needed because).mpr (had needed because)
      rw [Caused, Caused, now, later]

theorem caused_append : Caused cause seen (left ++ right) ↔
    Caused cause seen left ∧ Caused cause (left.reverse ++ seen) right := by
  induction left generalizing seen with
  | nil => simp [Caused]
  | cons event rest ih =>
      simp only [List.cons_append, Caused, ih, List.reverse_cons, List.append_assoc,
        List.nil_append, and_assoc]

/-- Behind a part without causes for it, a part must hold its own causes. -/
theorem caused_append_apart (apart : ∀ event ∈ right, ∀ needed, cause event = some needed →
    needed ∉ left) : Caused cause seen (left ++ right) ↔
      Caused cause seen left ∧ Caused cause seen right := by
  rw [caused_append]
  have same : Caused cause (left.reverse ++ seen) right ↔ Caused cause seen right := by
    apply caused_congr
    intro event member needed because
    simp [apart event member needed because]
  rw [same]

theorem caused_iff : Caused cause [] trace ↔ ∀ before event after needed,
    trace = before ++ event :: after → cause event = some needed → needed ∈ before := by
  constructor
  · intro caused before event after needed split because
    rw [split, caused_append] at caused
    simpa using caused.2.1 needed because
  · intro behind
    induction trace using List.reverseRecOn with
    | nil => exact trivial
    | append_singleton front last ih =>
        rw [caused_append]
        refine ⟨ih ?_, ?_, trivial⟩
        · intro before event after needed split because
          apply behind before event (after ++ [last]) needed ?_ because
          rw [split, List.append_assoc, List.cons_append]
        · intro needed because
          simpa using behind front last [] needed rfl because

end SynapTCP.Data
