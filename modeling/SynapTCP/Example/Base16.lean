import SynapTCP.Socket.Object
import Mathlib.Tactic.Common

namespace SynapTCP

/-! # Data from the command line

`base16decode` of `src/examples/data-formating.cpp`, which the client makes the bytes to
send with.  The characters of a text are its bytes, without the zero behind them.
-/

/-- The first character of a byte; `tmp` is the byte before, which stays if the character
is none of these. -/
def highDigit (tmp data : UInt8) : UInt8 :=
  if 0x30 ≤ data ∧ data ≤ 0x39 then data - 0x30
  else if 0x61 ≤ data ∧ data ≤ 0x7A then data - 0x61
  else if 0x41 ≤ data ∧ data ≤ 0x5A then data - 0x41
  else tmp

def lowDigit (tmp data : UInt8) : UInt8 :=
  if 0x30 ≤ data ∧ data ≤ 0x39 then tmp * 16 + (data - 0x30)
  else if 0x61 ≤ data ∧ data ≤ 0x7A then tmp * 16 + ((data - 0x61) + 10)
  else if 0x41 ≤ data ∧ data ≤ 0x5A then tmp * 16 + ((data - 0x41) + 10)
  else tmp * 16

def base16Loop (tmp : UInt8) : Bytes → Bytes
  | high :: low :: data =>
      let tmp := lowDigit (highDigit tmp high) low
      tmp :: base16Loop tmp data
  | _ => []

def base16decode (data : Bytes) : Bytes :=
  if data.length % 2 = 1 then [] else base16Loop 0x00 data

/-- A character that stands for a value, in small letters or in capitals. -/
def IsDigit (value data : UInt8) : Prop :=
  value < 10 ∧ data = 0x30 + value ∨
    10 ≤ value ∧ value < 16 ∧ (data = 0x61 + (value - 10) ∨ data = 0x41 + (value - 10))

instance (value data : UInt8) : Decidable (IsDigit value data) :=
  inferInstanceAs (Decidable (_ ∨ _))

/-- A text with two characters for each byte. -/
inductive Spells : Bytes → Bytes → Prop where
  | nil : Spells [] []
  | cons {byte high low : UInt8} {data text : Bytes} (first : IsDigit (byte / 16) high)
      (second : IsDigit (byte % 16) low) (more : Spells data text) :
      Spells (byte :: data) (high :: low :: text)

/-- What comes of a byte whose first character is a letter. -/
def reduced (byte : UInt8) : UInt8 := if byte < 0xA0 then byte else byte - 0xA0

variable {value tmp byte high low character : UInt8} {data text : Bytes}

/-- Which of the three ranges the character is in, and what is left behind its start. -/
theorem IsDigit.range (digit : IsDigit value character) :
    value < 10 ∧ (0x30 ≤ character ∧ character ≤ 0x39) ∧ character - 0x30 = value ∨
    10 ≤ value ∧ ¬ (0x30 ≤ character ∧ character ≤ 0x39) ∧
      ((0x61 ≤ character ∧ character ≤ 0x7A) ∧ character - 0x61 = value - 10 ∨
        ¬ (0x61 ≤ character ∧ character ≤ 0x7A) ∧ (0x41 ≤ character ∧ character ≤ 0x5A) ∧
          character - 0x41 = value - 10) := by
  rcases digit with ⟨small, rfl⟩ | ⟨large, bound, rfl | rfl⟩
  · exact .inl ⟨small, by grind, by grind⟩
  · exact .inr ⟨large, by grind, .inl ⟨by grind, by grind⟩⟩
  · exact .inr ⟨large, by grind, .inr ⟨by grind, by grind, by grind⟩⟩

theorem highDigit_eq (digit : IsDigit value character) :
    highDigit tmp character = if value < 10 then value else value - 10 := by
  unfold highDigit
  rcases digit.range with ⟨small, inside, left⟩ | ⟨large, outside, ⟨inside, left⟩ |
    ⟨notLower, inside, left⟩⟩
  · rw [if_pos inside, left, if_pos small]
  · rw [if_neg outside, if_pos inside, left, if_neg (by grind)]
  · rw [if_neg outside, if_neg notLower, if_pos inside, left, if_neg (by grind)]

theorem lowDigit_eq (digit : IsDigit value character) :
    lowDigit tmp character = tmp * 16 + value := by
  unfold lowDigit
  rcases digit.range with ⟨small, inside, left⟩ | ⟨large, outside, ⟨inside, left⟩ |
    ⟨notLower, inside, left⟩⟩
  · rw [if_pos inside, left]
  · rw [if_neg outside, if_pos inside, left, UInt8.sub_add_cancel]
  · rw [if_neg outside, if_neg notLower, if_pos inside, left, UInt8.sub_add_cancel]

/-- One byte, whatever the byte before it was. -/
theorem byte_eq (first : IsDigit (byte / 16) high) (second : IsDigit (byte % 16) low) :
    lowDigit (highDigit tmp high) low = reduced byte := by
  rw [lowDigit_eq second, highDigit_eq first, reduced, ← UInt8.toNat_inj]
  have bound := byte.toNat_lt
  by_cases small : byte < 0xA0
  · have digit : byte / 16 < 10 := by
      rw [UInt8.lt_iff_toNat_lt] at small ⊢
      simp at small ⊢
      omega
    rw [if_pos small, if_pos digit]
    simp
    omega
  · have letter : ¬ byte / 16 < 10 := by
      rw [UInt8.lt_iff_toNat_lt] at small ⊢
      simp at small ⊢
      omega
    have tens : (byte / 16 - 10).toNat = byte.toNat / 16 - 10 :=
      UInt8.toNat_sub_of_le _ _ (UInt8.not_lt.mp letter)
    have less : (byte - 0xA0).toNat = byte.toNat - 160 :=
      UInt8.toNat_sub_of_le _ _ (UInt8.not_lt.mp small)
    rw [if_neg small, if_neg letter, UInt8.toNat_add, UInt8.toNat_mul, tens, less]
    rw [UInt8.lt_iff_toNat_lt] at small
    simp at small ⊢
    omega

theorem base16Loop_spelled (spells : Spells data text) :
    base16Loop tmp text = data.map reduced := by
  induction spells generalizing tmp with
  | nil => rfl
  | cons first second _ ih => rw [base16Loop, byte_eq first second, ih, List.map_cons]

theorem Spells.length (spells : Spells data text) : text.length = 2 * data.length := by
  induction spells with
  | nil => rfl
  | cons _ _ _ ih =>
      simp only [List.length_cons, ih]
      omega

theorem base16decode_spelled (spells : Spells data text) :
    base16decode text = data.map reduced := by
  have length := spells.length
  rw [base16decode, if_neg (by omega), base16Loop_spelled spells]

theorem reduced_eq_iff : reduced byte = byte ↔ byte < 0xA0 := by
  unfold reduced
  split <;> grind

theorem map_reduced_eq_iff : data.map reduced = data ↔ ∀ byte ∈ data, byte < 0xA0 := by
  induction data with
  | nil => simp
  | cons byte data ih => rw [List.map_cons, List.cons.injEq, ih, reduced_eq_iff, List.forall_mem_cons]

/-- Data spelled in small letters or capitals is decoded to itself exactly if it has no
byte from 0xA0 on: of such a byte the first letter counts as if the letters began at
zero, while the second is read right. -/
theorem base16decode_inverts (spells : Spells data text) :
    base16decode text = data ↔ ∀ byte ∈ data, byte < 0xA0 := by
  rw [base16decode_spelled spells, map_reduced_eq_iff]

/-- Two bytes, of which the second is not kept. -/
theorem base16decode_inverts_letters :
    (base16decode [0x39, 0x66, 0x41, 0x30] = [0x9F, 0xA0] ↔
      ∀ byte ∈ ([0x9F, 0xA0] : Bytes), byte < 0xA0) :=
  base16decode_inverts (.cons (by decide) (by decide) (.cons (by decide) (by decide) .nil))

end SynapTCP
