import Mathlib.Tactic.Common

namespace SynapTCP.Data

/-! # Numbers in a signed type

A number is narrowed to the values from `-half` up to `half`: it goes round as often
as it passes the end, and what is left of it is its place in the last round.
-/

variable {half m n : Int}

def rounds (half n : Int) : Int := (n + half) / (2 * half)

def place (half n : Int) : Int := (n + half) % (2 * half)

theorem rounds_mono (positive : 0 < half) (le : m ≤ n) : rounds half m ≤ rounds half n :=
  Int.ediv_le_ediv (by omega) (by omega)

theorem lt_of_rounds_lt (positive : 0 < half) (earlier : rounds half m < rounds half n) :
    m < n := by
  by_contra after
  have later : rounds half n ≤ rounds half m := rounds_mono positive (Int.not_lt.mp after)
  omega

/-- In one round the places are in the order of the numbers. -/
theorem place_lt_iff (same : rounds half m = rounds half n) :
    place half m < place half n ↔ m < n := by
  have first : 2 * half * rounds half m + place half m = m + half := Int.mul_ediv_add_emod _ _
  have second : 2 * half * rounds half n + place half n = n + half := Int.mul_ediv_add_emod _ _
  rw [same] at first
  omega

theorem bmod_eq_place {half : Nat} (positive : 0 < half) (n : Int) :
    Int.bmod n (2 * half) = place half n - half := by
  have low : 0 ≤ n % (2 * half : Int) := Int.emod_nonneg _ (by omega)
  have high : n % (2 * half : Int) < 2 * half := Int.emod_lt_of_pos _ (by omega)
  have shifted : place half n = (n % (2 * half : Int) + half) % (2 * half) :=
    (Int.emod_add_emod n _ _).symm
  rw [shifted, Int.bmod_eq_emod]
  push_cast
  by_cases front : n % (2 * half : Int) < half
  · have inside : (n % (2 * half : Int) + half) % (2 * half) = n % (2 * half : Int) + half :=
      Int.emod_eq_of_lt (by omega) (by omega)
    rw [if_neg (by omega), inside]
    omega
  · have behind : (n % (2 * half : Int) + half) % (2 * half) = n % (2 * half : Int) - half := by
      rw [← Int.sub_emod_right, Int.emod_eq_of_lt (by omega) (by omega)]
      omega
    rw [if_pos (by omega), behind]
    omega

theorem bmod_lt_bmod_iff {half : Nat} (positive : 0 < half) (m n : Int) :
    Int.bmod m (2 * half) < Int.bmod n (2 * half) ↔ place half m < place half n := by
  rw [bmod_eq_place positive, bmod_eq_place positive]
  omega

end SynapTCP.Data
