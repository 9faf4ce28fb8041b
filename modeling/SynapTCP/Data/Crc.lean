import Mathlib.Data.List.Basic
import Mathlib.Logic.Function.Iterate
import Mathlib.Tactic.Common

namespace SynapTCP.Data

/-! # Cyclic redundancy checks

The register of a cyclic redundancy check of any width, fed one bit after another from
its top.  If the polynomial has its lowest bit, two texts that differ in no more
consecutive bits than the register has leave different registers.
-/

variable {w : Nat}

def crcShift (poly register : BitVec w) : BitVec w :=
  if register.msb then (register <<< 1) ^^^ poly else register <<< 1

/-- A bit in the top place. -/
def topBit (bit : Bool) : BitVec w := if bit then BitVec.twoPow w (w - 1) else 0#w

def crcBit (poly register : BitVec w) (bit : Bool) : BitVec w :=
  crcShift poly (register ^^^ topBit bit)

def crcBits (poly register : BitVec w) (bits : List Bool) : BitVec w :=
  bits.foldl (crcBit poly) register

/-- The bits from the top place down. -/
def loaded : List Bool → BitVec w
  | [] => 0#w
  | bit :: bits => topBit bit ^^^ (loaded bits >>> 1)

variable {poly register other : BitVec w} {bits front middle middle' back : List Bool}

theorem topBit_getLsbD {j : Nat} (inside : j < w) (bit : Bool) :
    (topBit bit : BitVec w).getLsbD j = (bit && decide (j = w - 1)) := by
  unfold topBit
  cases bit with
  | false => simp
  | true =>
      simp only [if_true, BitVec.getLsbD_twoPow, Bool.true_and]
      by_cases top : j = w - 1
      · simp [top]
        omega
      · have other : ¬ w - 1 = j := fun same => top same.symm
        simp [top, other]

theorem loaded_getLsbD {j : Nat} (inside : j < w) :
    (loaded bits : BitVec w).getLsbD j = (bits[w - 1 - j]?).getD false := by
  induction bits generalizing j with
  | nil => simp [loaded]
  | cons bit bits ih =>
      rw [loaded, BitVec.getLsbD_xor, topBit_getLsbD inside, BitVec.getLsbD_ushiftRight]
      by_cases top : j = w - 1
      · have beyond : w ≤ 1 + j := by omega
        rw [BitVec.getLsbD_of_ge _ _ beyond, top, Nat.sub_self]
        simp
      · have next : 1 + j < w := by omega
        have place : w - 1 - j = w - 1 - (1 + j) + 1 := by omega
        rw [ih next, place, List.getElem?_cons_succ]
        simp [top]

/-- As many bits as there is room for can be read back. -/
theorem loaded_injective (room : middle.length ≤ w) (length : middle'.length = middle.length)
    (same : (loaded middle : BitVec w) = loaded middle') : middle = middle' := by
  apply List.ext_getElem?
  intro i
  by_cases inside : i < middle.length
  · have place : w - 1 - (w - 1 - i) = i := by omega
    have bit := congrArg (fun register : BitVec w => register.getLsbD (w - 1 - i)) same
    simp only [loaded_getLsbD (show w - 1 - i < w by omega), place] at bit
    rw [List.getElem?_eq_getElem inside, List.getElem?_eq_getElem (by omega)] at bit ⊢
    exact congrArg some bit
  · rw [List.getElem?_eq_none (by omega), List.getElem?_eq_none (by omega)]

theorem crcShift_xor : crcShift poly (register ^^^ other) =
    crcShift poly register ^^^ crcShift poly other := by
  unfold crcShift
  rw [BitVec.msb_xor, BitVec.shiftLeft_xor_distrib]
  cases register.msb <;> cases other.msb
  · rfl
  · exact BitVec.xor_assoc _ _ _
  · show register <<< 1 ^^^ other <<< 1 ^^^ poly = register <<< 1 ^^^ poly ^^^ other <<< 1
    rw [BitVec.xor_assoc, BitVec.xor_comm (other <<< 1), ← BitVec.xor_assoc]
  · show register <<< 1 ^^^ other <<< 1 = register <<< 1 ^^^ poly ^^^ (other <<< 1 ^^^ poly)
    rw [BitVec.xor_comm (other <<< 1) poly, BitVec.xor_assoc, ← BitVec.xor_assoc poly poly,
      BitVec.xor_self, BitVec.zero_xor]

theorem crcShift_lowest (odd : poly.getLsbD 0 = true) :
    (crcShift poly register).getLsbD 0 = register.msb := by
  unfold crcShift
  cases msb : register.msb with
  | false => simp
  | true => simp [odd]

theorem crcShift_injective (odd : poly.getLsbD 0 = true) :
    Function.Injective (crcShift poly) := by
  intro first second same
  have positive : 0 < w := by
    by_contra none
    rw [BitVec.getLsbD_of_ge _ _ (Nat.le_of_not_lt none)] at odd
    contradiction
  have top : first.msb = second.msb := by
    rw [← crcShift_lowest odd, ← crcShift_lowest odd, same]
  have shifted : first <<< 1 = second <<< 1 := by
    unfold crcShift at same
    rw [top] at same
    split at same
    · exact BitVec.xor_left_inj poly |>.mp same
    · exact same
  apply BitVec.eq_of_getLsbD_eq
  intro i inside
  by_cases last : i = w - 1
  · rw [BitVec.msb_eq_getLsbD_last, BitVec.msb_eq_getLsbD_last] at top
    rw [last]
    exact top
  · have bit := congrArg (fun register : BitVec w => register.getLsbD (i + 1)) shifted
    simp only [BitVec.getLsbD_shiftLeft] at bit
    have below : i + 1 < w := by omega
    simpa [below, -BitVec.getLsbD_eq_getElem] using bit

/-- Bits that leave room only move up. -/
theorem crcShift_loaded (room : bits.length < w) :
    crcShift poly (loaded bits >>> 1) = loaded bits := by
  have top : (loaded bits >>> 1 : BitVec w).msb = false := by
    rw [BitVec.msb_eq_getLsbD_last, BitVec.getLsbD_ushiftRight,
      BitVec.getLsbD_of_ge _ _ (by omega)]
  unfold crcShift
  rw [top, if_neg (by decide)]
  apply BitVec.eq_of_getLsbD_eq
  intro i inside
  rw [BitVec.getLsbD_shiftLeft]
  by_cases lowest : i = 0
  · subst lowest
    rw [loaded_getLsbD inside, List.getElem?_eq_none (by omega)]
    simp
  · have place : 1 + (i - 1) = i := by omega
    rw [BitVec.getLsbD_ushiftRight, place]
    simp [inside, lowest, -BitVec.getLsbD_eq_getElem]

/-- Bits that there is room for can be loaded at once. -/
theorem crcBits_eq (room : bits.length ≤ w) : crcBits poly register bits =
    (crcShift poly)^[bits.length] (register ^^^ loaded bits) := by
  induction bits generalizing register with
  | nil => simp [crcBits, loaded]
  | cons bit bits ih =>
      have fewer : bits.length < w := room
      have moved : crcShift poly (register ^^^ loaded (bit :: bits)) =
          crcBit poly register bit ^^^ loaded bits := by
        rw [loaded, ← BitVec.xor_assoc, crcShift_xor, crcShift_loaded fewer]
        rfl
      rw [List.length_cons, Function.iterate_succ_apply, moved, ← ih (Nat.le_of_lt fewer)]
      rfl

theorem crcBits_append : crcBits poly register (front ++ back) =
    crcBits poly (crcBits poly register front) back :=
  List.foldl_append

theorem crcBits_injective (odd : poly.getLsbD 0 = true) :
    Function.Injective fun register => crcBits poly register bits := by
  induction bits with
  | nil => exact fun _ _ same => same
  | cons bit bits ih =>
      intro first second same
      have fed : crcBit poly first bit = crcBit poly second bit := ih same
      exact BitVec.xor_left_inj (topBit bit) |>.mp (crcShift_injective odd fed)

/-- A burst that is no longer than the register shows in it. -/
theorem crcBits_burst (odd : poly.getLsbD 0 = true) (room : middle.length ≤ w)
    (length : middle'.length = middle.length)
    (same : crcBits poly register (front ++ middle ++ back) =
      crcBits poly register (front ++ middle' ++ back)) : middle = middle' := by
  rw [crcBits_append, crcBits_append, crcBits_append, crcBits_append] at same
  have inner := crcBits_injective odd same
  have room' : middle'.length ≤ w := by omega
  rw [@crcBits_eq _ _ _ middle room, @crcBits_eq _ _ _ middle' room', length] at inner
  have loads := (crcShift_injective odd).iterate middle.length inner
  exact loaded_injective room length (BitVec.xor_right_inj _ |>.mp loads)

/-- Two texts that differ, but only within `length` consecutive bits. -/
def Burst (length : Nat) (text damaged : List Bool) : Prop :=
  ∃ front middle middle' back, text = front ++ middle ++ back ∧
    damaged = front ++ middle' ++ back ∧ middle'.length = middle.length ∧
    middle.length ≤ length ∧ middle ≠ middle'

theorem Burst.length {text damaged : List Bool} {count : Nat} (burst : Burst count text damaged) :
    damaged.length = text.length := by
  obtain ⟨front, middle, middle', back, rfl, rfl, same, -, -⟩ := burst
  simp [same]

theorem Burst.crcBits_ne {text damaged : List Bool} (odd : poly.getLsbD 0 = true)
    (burst : Burst w text damaged) :
    crcBits poly register text ≠ crcBits poly register damaged := by
  obtain ⟨front, middle, middle', back, rfl, rfl, length, room, differ⟩ := burst
  exact fun same => differ (crcBits_burst odd room length same)

end SynapTCP.Data
