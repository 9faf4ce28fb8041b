import SynapTCP.Data.Throughout
import SynapTCP.Socket.Addresses

namespace SynapTCP.Socket

open Data

/-! # The texts that are taken for addresses

The character loops of `isValidIPAddress` and `setAddress` in terms of the groups
between the dots.
-/

variable {socket : Socket} {address group : Bytes} {behind : List Bytes} {character : UInt8}
  {isPrevDot : Bool} {cnt value : Nat} {tmp : UInt8}

def groups (address : Bytes) : List Bytes := address.splitOn 46

theorem groups_ne_nil : groups address ≠ [] := List.splitOn_ne_nil 46 address

theorem groups_nil : groups [] = [[]] := List.splitOn_nil 46

theorem groups_dot : groups (46 :: address) = [] :: groups address :=
  (List.splitOn_cons_eq_if_modifyHead 46 address).trans (if_pos rfl)

theorem groups_cons (plain : character ≠ 46) (split : groups address = group :: behind) :
    groups (character :: address) = (character :: group) :: behind := by
  have other : ¬ (character == 46) = true := fun same => plain (beq_iff_eq.mp same)
  have front := (List.splitOn_cons_eq_if_modifyHead character address).trans (if_neg other)
  refine front.trans ?_
  rw [← groups, split, List.modifyHead_cons]

theorem groups_exists : ∃ group behind, groups address = group :: behind :=
  List.exists_cons_of_ne_nil groups_ne_nil

/-- The number behind more digits. -/
def decimalFrom (value : Nat) (group : Bytes) : Nat :=
  group.foldl (fun value character => value * 10 + (character.toNat - 48)) value

def decimal (group : Bytes) : Nat := decimalFrom 0 group

def Digits (group : Bytes) : Prop := ∀ character ∈ group, 48 ≤ character ∧ character ≤ 57

theorem digits_cons : Digits (character :: group) ↔
    (48 ≤ character ∧ character ≤ 57) ∧ Digits group := by
  simp only [Digits, List.forall_mem_cons]

theorem decimalFrom_cons : decimalFrom value (character :: group) =
    decimalFrom (value * 10 + (character.toNat - 48)) group := by
  simp only [decimalFrom, List.foldl_cons]

theorem le_decimalFrom : value ≤ decimalFrom value group := by
  induction group generalizing value with
  | nil => exact Nat.le_refl value
  | cons character group ih =>
      rw [decimalFrom_cons]
      have further := @ih (value * 10 + (character.toNat - 48))
      omega

/-! ## What the loop accepts -/

/-- The loop reads the group `cnt` to its end, from `value` on. -/
structure Fits (cnt value : Nat) (group : Bytes) : Prop where
  digits : Digits group
  octet : decimalFrom value group ≤ 255
  fourth : ¬ (cnt = 3 ∧ decimalFrom value group = 255)

theorem fits_nil : Fits cnt value [] ↔ value ≤ 255 ∧ ¬ (cnt = 3 ∧ value = 255) := by
  constructor
  · intro fits
    exact ⟨fits.octet, fits.fourth⟩
  · intro start
    exact ⟨by simp [Digits], start.1, start.2⟩

theorem fits_cons : Fits cnt value (character :: group) ↔
    (48 ≤ character ∧ character ≤ 57) ∧
      Fits cnt (value * 10 + (character.toNat - 48)) group := by
  constructor
  · intro fits
    have digits := digits_cons.mp fits.digits
    exact ⟨digits.1, digits.2, fits.octet, fits.fourth⟩
  · intro fits
    exact ⟨digits_cons.mpr ⟨fits.1, fits.2.digits⟩, fits.2.octet, fits.2.fourth⟩

/-- The groups that the loop accepts where it stands; the first is the rest of the
group it is in. -/
def Continues (isPrevDot : Bool) (cnt value : Nat) : List Bytes → Prop
  | [] => False
  | [group] => Fits cnt value group ∧ cnt ≤ 3
  | group :: behind => (isPrevDot = true → group ≠ []) ∧ Fits cnt value group ∧
      Continues true (cnt + 1) 0 behind

theorem continues_cons : Continues isPrevDot cnt value ((character :: group) :: behind) ↔
    (48 ≤ character ∧ character ≤ 57) ∧
      Continues false cnt (value * 10 + (character.toNat - 48)) (group :: behind) := by
  cases behind with
  | nil => simp only [Continues, fits_cons, and_assoc]
  | cons next behind => simp [Continues, fits_cons, and_assoc]

theorem continues_dot : Continues isPrevDot cnt value ([] :: group :: behind) ↔
    isPrevDot = false ∧ Fits cnt value [] ∧ Continues true (cnt + 1) 0 (group :: behind) := by
  simp [Continues]

/-- The loop has refused such a value by then. -/
theorem Continues.start (continues : Continues isPrevDot cnt value (group :: behind)) :
    value ≤ 255 ∧ ¬ (cnt = 3 ∧ value = 255) := by
  have fits : Fits cnt value group := by
    cases behind with
    | nil => exact continues.1
    | cons next behind => exact continues.2.1
  have grows : value ≤ decimalFrom value group := le_decimalFrom
  refine ⟨Nat.le_trans grows fits.octet, fun refused => fits.fourth ⟨refused.1, ?_⟩⟩
  have bound := fits.octet
  omega

theorem isValidLoop_iff (start : value ≤ 255 ∧ ¬ (cnt = 3 ∧ value = 255)) (some : address ≠ []) :
    isValidLoop isPrevDot cnt value address = true ↔
      Continues isPrevDot cnt value (groups address) := by
  induction address generalizing isPrevDot cnt value with
  | nil => contradiction
  | cons character address ih =>
      obtain ⟨group, behind, split⟩ := @groups_exists address
      have rest {isPrevDot : Bool} {cnt value : Nat}
          (start : value ≤ 255 ∧ ¬ (cnt = 3 ∧ value = 255)) :
          (if address = [] then decide (cnt ≤ 3) else isValidLoop isPrevDot cnt value address) =
            true ↔ Continues isPrevDot cnt value (group :: behind) := by
        by_cases last : address = []
        · subst last
          cases split.symm.trans groups_nil
          simp [Continues, fits_nil, start]
        · rw [if_neg last, ← split]
          exact ih start last
      rw [isValidLoop]
      by_cases dot : character = 46
      · rw [if_pos dot, dot, groups_dot, split, continues_dot, ← rest ⟨Nat.zero_le _, by simp⟩]
        cases isPrevDot with
        | true => simp
        | false => simp [fits_nil, start]
      · rw [if_neg dot, groups_cons dot split, continues_cons]
        by_cases digit : 48 ≤ character ∧ character ≤ 57
        · rw [if_pos digit]
          dsimp only
          by_cases next : value * 10 + (character.toNat - 48) ≤ 255 ∧
              ¬ (cnt = 3 ∧ value * 10 + (character.toNat - 48) = 255)
          · rw [if_neg (Nat.not_lt.mpr next.1), if_neg next.2, rest next, and_iff_right digit]
          · have refused : ¬ Continues false cnt (value * 10 + (character.toNat - 48))
                (group :: behind) := fun continues => next continues.start
            simp only [refused, and_false, iff_false, Bool.not_eq_true]
            by_cases large : 255 < value * 10 + (character.toNat - 48)
            · rw [if_pos large]
            · have fourth : cnt = 3 ∧ value * 10 + (character.toNat - 48) = 255 := by
                by_contra allowed
                exact next ⟨Nat.not_lt.mp large, allowed⟩
              rw [if_neg large, if_pos fourth]
        · simp [digit]

/-! ## What the validator accepts -/

/-- Groups of decimal digits up to 255 each; the fourth of them is less. -/
structure Octets (groups : List Bytes) : Prop where
  digits : ∀ group ∈ groups, Digits group
  value : ∀ group ∈ groups, decimal group ≤ 255
  fourth : groups[3]?.map decimal ≠ some 255

theorem octets_iff {groups : List Bytes} :
    Octets groups ↔ ∀ i group, groups[i]? = some group → Fits i 0 group := by
  constructor
  · intro octets i group here
    have member := List.mem_of_getElem? here
    refine ⟨octets.digits group member, octets.value group member, fun refused => ?_⟩
    obtain ⟨last, value⟩ := refused
    subst last
    exact octets.fourth (by rw [here]; exact congrArg some value)
  · intro fits
    refine ⟨fun group member => ?_, fun group member => ?_, fun refused => ?_⟩
    · obtain ⟨i, here⟩ := List.mem_iff_getElem?.mp member
      exact (fits i group here).digits
    · obtain ⟨i, here⟩ := List.mem_iff_getElem?.mp member
      exact (fits i group here).octet
    · obtain ⟨group, here, value⟩ := Option.map_eq_some_iff.mp refused
      exact (fits 3 group here).fourth ⟨rfl, value⟩

/-- Up to four groups, of which only the last may be empty. -/
structure Legible (address : Bytes) : Prop where
  short : address.length ≤ 15
  some : address ≠ []
  few : (groups address).length ≤ 4
  inner : ∀ group ∈ (groups address).dropLast, group ≠ []
  octets : Octets (groups address)

structure DottedQuad (address : Bytes) : Prop where
  short : address.length ≤ 15
  four : (groups address).length = 4
  some : ∀ group ∈ groups address, group ≠ []
  octets : Octets (groups address)

/-- What could be the front of a dotted quad, and is none. -/
structure Incomplete (address : Bytes) : Prop extends Legible address where
  lacks : (groups address).length < 4 ∨ [] ∈ groups address

theorem continues_iff {groups : List Bytes} : Continues true cnt 0 groups ↔
    groups ≠ [] ∧ cnt + groups.length ≤ 4 ∧ (∀ group ∈ groups.dropLast, group ≠ []) ∧
      ∀ i group, groups[i]? = some group → Fits (cnt + i) 0 group := by
  induction groups generalizing cnt with
  | nil => simp [Continues]
  | cons group behind ih =>
      have split {P : Nat → Bytes → Prop} :
          (∀ i other, (group :: behind)[i]? = some other → P i other) ↔
            P 0 group ∧ ∀ i other, behind[i]? = some other → P (i + 1) other := by
        constructor
        · intro all
          exact ⟨all 0 group rfl, fun i other here => all (i + 1) other here⟩
        · intro both i other here
          cases i with
          | zero =>
              cases here
              exact both.1
          | succ i => exact both.2 i other here
      rw [split]
      cases behind with
      | nil =>
          constructor
          · intro last
            exact ⟨List.cons_ne_nil _ _, Nat.succ_le_succ last.2, by simp, last.1, by simp⟩
          · intro holds
            exact ⟨holds.2.2.2.1, Nat.le_of_succ_le_succ holds.2.1⟩
      | cons next behind =>
          have rest := @ih (cnt + 1)
          rw [Continues, rest, List.dropLast_cons_cons, List.forall_mem_cons]
          · have shift : ∀ i, cnt + 1 + i = cnt + (i + 1) := fun i => by omega
            simp only [shift, List.length_cons, ne_eq, reduceCtorEq, not_false_eq_true, true_and,
              forall_const, Nat.add_zero]
            constructor
            · intro holds
              exact ⟨by omega, ⟨holds.1, holds.2.2.2.1⟩, holds.2.1, holds.2.2.2.2⟩
            · intro holds
              exact ⟨holds.2.1.1, holds.2.2.1, by omega, holds.2.1.2, holds.2.2.2⟩
          · intro single
            contradiction

/-- At a character that is no dot it does not matter what is before. -/
theorem continues_first (some : address ≠ []) (plain : address.head? ≠ .some 46) :
    Continues false cnt value (groups address) ↔ Continues true cnt value (groups address) := by
  cases address with
  | nil => contradiction
  | cons character address =>
      obtain ⟨group, behind, split⟩ := @groups_exists address
      have dot : character ≠ 46 := fun same => plain (by rw [List.head?_cons, same])
      rw [groups_cons dot split, continues_cons, continues_cons]

theorem isValidIPAddress_iff : isValidIPAddress address = true ↔ Legible address := by
  unfold isValidIPAddress
  by_cases long : 15 < address.length
  · rw [if_pos long]
    exact iff_of_false Bool.false_ne_true fun legible => Nat.not_lt.mpr legible.short long
  · rw [if_neg long]
    by_cases dot : address.head? = some 46
    · rw [if_pos dot]
      refine iff_of_false Bool.false_ne_true fun legible => ?_
      obtain ⟨behind, same⟩ := List.head?_eq_some_iff.mp dot
      obtain ⟨group, rest, split⟩ := @groups_exists behind
      refine legible.inner [] ?_ rfl
      rw [same, groups_dot, split]
      exact .head _
    · rw [if_neg dot]
      by_cases empty : address = []
      · rw [empty]
        exact iff_of_false Bool.false_ne_true fun legible => legible.some rfl
      · rw [isValidLoop_iff ⟨Nat.zero_le _, by simp⟩ empty, continues_first empty dot,
          continues_iff]
        simp only [Nat.zero_add, ← octets_iff]
        constructor
        · intro accepted
          exact ⟨Nat.not_lt.mp long, empty, accepted.2.1, accepted.2.2.1, accepted.2.2.2⟩
        · intro legible
          exact ⟨groups_ne_nil, legible.few, legible.inner, legible.octets⟩

theorem legible_iff : Legible address ↔ DottedQuad address ∨ Incomplete address := by
  constructor
  · intro legible
    by_cases lacks : (groups address).length < 4 ∨ [] ∈ groups address
    · exact .inr ⟨legible, lacks⟩
    · rw [not_or] at lacks
      have few := legible.few
      refine .inl ⟨legible.short, by omega, fun group member none => ?_, legible.octets⟩
      exact lacks.2 (none ▸ member)
  · intro either
    rcases either with quad | incomplete
    · refine ⟨quad.short, fun none => ?_, Nat.le_of_eq quad.four, fun group member => ?_,
        quad.octets⟩
      · have four := quad.four
        rw [none, groups_nil] at four
        contradiction
      · exact quad.some group (List.dropLast_subset _ member)
    · exact incomplete.toLegible

theorem Incomplete.not_dottedQuad (incomplete : Incomplete address) : ¬ DottedQuad address := by
  intro quad
  rcases incomplete.lacks with fewer | empty
  · have four := quad.four
    omega
  · exact quad.some [] empty rfl

/-! ## What the parser stores -/

/-- The accumulator behind more characters, as `setAddress` computes it. -/
def octetFrom (tmp : UInt8) (group : Bytes) : UInt8 :=
  group.foldl (fun tmp character => tmp * 10 + (character - 48)) tmp

theorem octetFrom_cons : octetFrom tmp (character :: group) =
    octetFrom (tmp * 10 + (character - 48)) group := by
  simp only [octetFrom, List.foldl_cons]

theorem octetsOf_groups (split : groups address = group :: behind) :
    octetsOf tmp address = octetFrom tmp group :: behind.map (octetFrom 0) := by
  induction address generalizing tmp group behind with
  | nil =>
      cases split.symm.trans groups_nil
      rfl
  | cons character address ih =>
      obtain ⟨next, further, rest⟩ := @groups_exists address
      rw [octetsOf]
      by_cases dot : character = 46
      · subst dot
        rw [groups_dot, rest] at split
        cases split
        rw [if_pos rfl, ih rest]
        rfl
      · rw [groups_cons dot rest] at split
        cases split
        rw [if_neg dot, ih rest, octetFrom_cons]

theorem octetsOf_length : (octetsOf tmp address).length = (groups address).length := by
  obtain ⟨group, behind, split⟩ := @groups_exists address
  rw [octetsOf_groups split, split, List.length_cons, List.length_map, List.length_cons]

/-- At each character the accumulator gets a value that it can hold. -/
def Unwrapped (tmp : UInt8) : Bytes → Prop
  | [] => True
  | character :: address =>
      if character = 46 then Unwrapped 0 address
      else 48 ≤ character ∧ tmp.toNat * 10 + (character.toNat - 48) < 256 ∧
        Unwrapped (tmp * 10 + (character - 48)) address

theorem toNat_accumulate (digit : 48 ≤ character)
    (fits : tmp.toNat * 10 + (character.toNat - 48) < 256) :
    (tmp * 10 + (character - 48)).toNat = tmp.toNat * 10 + (character.toNat - 48) := by
  have behindZero : 48 ≤ character.toNat := UInt8.le_iff_toNat_le.mp digit
  have difference : (character - 48).toNat = character.toNat - 48 :=
    UInt8.toNat_sub_of_le _ _ digit
  rw [UInt8.toNat_add, UInt8.toNat_mul, difference, show (10 : UInt8).toNat = 10 from rfl]
  omega

theorem octetsOf_unwrapped (split : groups address = group :: behind) (digits : Digits group)
    (octet : decimalFrom tmp.toNat group ≤ 255)
    (others : ∀ other ∈ behind, Digits other ∧ decimal other ≤ 255) :
    Unwrapped tmp address ∧ (octetsOf tmp address).map UInt8.toNat =
      decimalFrom tmp.toNat group :: behind.map decimal := by
  induction address generalizing tmp group behind with
  | nil =>
      cases split.symm.trans groups_nil
      exact ⟨trivial, rfl⟩
  | cons character address ih =>
      obtain ⟨next, further, rest⟩ := @groups_exists address
      rw [octetsOf, Unwrapped]
      by_cases dot : character = 46
      · subst dot
        rw [groups_dot, rest] at split
        cases split
        have both := others next (.head _)
        obtain ⟨unwrapped, values⟩ := @ih next further 0 rest both.1 both.2
          fun other member => others other (.tail _ member)
        rw [if_pos rfl, if_pos rfl, List.map_cons, values]
        exact ⟨unwrapped, rfl⟩
      · rw [groups_cons dot rest] at split
        cases split
        rw [digits_cons] at digits
        rw [decimalFrom_cons] at octet ⊢
        have grows : tmp.toNat * 10 + (character.toNat - 48) ≤
            decimalFrom (tmp.toNat * 10 + (character.toNat - 48)) next := le_decimalFrom
        have fits : tmp.toNat * 10 + (character.toNat - 48) < 256 := by omega
        have value := toNat_accumulate digits.1.1 fits
        rw [← value] at octet
        obtain ⟨unwrapped, values⟩ := ih rest digits.2 octet others
        rw [if_neg dot, if_neg dot, values, value]
        exact ⟨⟨digits.1.1, fits, unwrapped⟩, rfl⟩

theorem Legible.stores (legible : Legible address) :
    Unwrapped 0 address ∧ (octetsOf 0 address).map UInt8.toNat = (groups address).map decimal := by
  obtain ⟨group, behind, split⟩ := @groups_exists address
  have octets := legible.octets
  rw [split] at octets ⊢
  exact octetsOf_unwrapped split (octets.digits group (.head _)) (octets.value group (.head _))
    fun other member => ⟨octets.digits other (.tail _ member), octets.value other (.tail _ member)⟩

end SynapTCP.Socket
