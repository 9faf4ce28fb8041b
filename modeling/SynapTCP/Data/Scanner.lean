import SynapTCP.Data.Occurrence

namespace SynapTCP.Data

/-! # A scanner for frames of one width

A frame starts with one pattern, ends with another and has a fixed width.  The
scanner goes to the next start pattern; where the frame there does not end as it
should, it gives up one element and starts again behind it.
-/

variable {α : Type*} [DecidableEq α]

/-- One result, and the position that the scanner is at behind it. -/
structure Scan (α : Type*) where
  code : Nat
  data : List α
  next : Nat
deriving DecidableEq

/-- One step; `none` when no whole candidate is left in the text. -/
def scan (start stop : List α) (width : Nat) (text : List α) (position : Nat) : Option (Scan α) :=
  let searched := searchFrom start text position
  if searched.1 = true ∧ searched.2 + width ≤ text.length then
    let frame := (text.drop searched.2).take width
    if stop <:+ frame then some ⟨0, frame, searched.2 + width⟩
    else some ⟨2, frame.take 1, searched.2 + 1⟩
  else none

/-- The first results from a position on; `none` when there are not so many. -/
def scans (start stop : List α) (width : Nat) (text : List α) :
    Nat → Nat → Option (List (Scan α))
  | 0, _ => some []
  | count + 1, position =>
      (scan start stop width text position).bind fun first =>
        (scans start stop width text count first.next).map (first :: ·)

variable {start stop text : List α} {width count position : Nat} {result : Scan α}

/-- What a result says about the text from the position on. -/
structure Scanned (start stop : List α) (width : Nat) (rest : List α) (skip : Nat)
    (result : Scan α) (position : Nat) : Prop where
  leftmost : LeftmostAt start rest skip
  inside : skip + width ≤ rest.length
  accepted : stop <:+ (rest.drop skip).take width →
    result = ⟨0, (rest.drop skip).take width, position + (skip + width)⟩
  rejected : ¬ stop <:+ (rest.drop skip).take width →
    result = ⟨2, ((rest.drop skip).take width).take 1, position + (skip + 1)⟩

theorem scan_scanned (scanned : scan start stop width text position = some result) :
    ∃ skip, Scanned start stop width (text.drop position) skip result position := by
  unfold scan at scanned
  generalize searched : searchFrom start text position = pair at scanned
  obtain ⟨hit, found⟩ := pair
  dsimp only at scanned
  split at scanned
  · rename_i candidate
    obtain ⟨rfl, room⟩ := candidate
    obtain ⟨lower, fits, occurs, first⟩ := searchFrom_found searched
    have behind : position + (found - position) = found := by omega
    have rest : (text.drop position).drop (found - position) = text.drop found := by
      rw [List.drop_drop, behind]
    refine ⟨found - position, ⟨?_, ?_⟩, ?_, ?_, ?_⟩
    · unfold OccursAt at *
      rw [rest]
      exact occurs
    · intro earlier before there
      apply first (position + earlier) (by omega) (by omega)
      unfold OccursAt at *
      rw [List.drop_drop] at there
      exact there
    · rw [List.length_drop]
      omega
    · intro ends
      rw [rest] at ends ⊢
      rw [if_pos ends] at scanned
      rw [← Option.some.inj scanned, ← Nat.add_assoc, behind]
    · intro differs
      rw [rest] at differs ⊢
      rw [if_neg differs] at scanned
      rw [← Option.some.inj scanned, ← Nat.add_assoc, behind]
  · contradiction

end SynapTCP.Data
