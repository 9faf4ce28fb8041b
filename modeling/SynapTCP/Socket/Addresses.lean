import SynapTCP.Socket.Setup
import Mathlib.Data.List.Basic

namespace SynapTCP.Socket

/-! # Addresses in text

An address that `inet_ntop` printed, read again by `setAddress`.
-/

variable {socket : Socket} {address rest : Bytes} {cnt value : Nat} {host : List UInt8}

theorem setAddress_result : (socket.setAddress address).result = isValidIPAddress address := by
  unfold setAddress
  cases isValidIPAddress address <;> rfl

theorem setPort_result {port : UInt16} :
    (socket.setPort port.toNat).result = decide (port ≠ 0) := by
  have bound := port.toNat_lt
  unfold setPort
  by_cases zero : port = 0
  · subst zero
    rfl
  · have positive : port.toNat ≠ 0 := by
      intro same
      exact zero (UInt16.toNat_inj.mp same)
    rw [if_neg (by omega)]
    simp [guarded, zero]

theorem setAddress_socket (valid : isValidIPAddress address = true) :
    (socket.setAddress address).socket = { socket with address := octetsOf 0 address } := by
  unfold setAddress
  rw [if_neg (by rw [valid]; decide)]
  rfl

theorem setPort_socket {port : UInt16} (nonzero : port ≠ 0) :
    (socket.setPort port.toNat).socket = { socket with addr.port := port } := by
  have bound := port.toNat_lt
  have positive : port.toNat ≠ 0 := fun zero => nonzero (UInt16.toNat_inj.mp zero)
  have same : port.toNat.toUInt16 = port := UInt16.ofNat_toNat
  unfold setPort
  rw [if_neg (by omega)]
  simp only [guarded, Int.toNat_natCast, same]

theorem setSocketFd_sockFd {sockFd : Int} : (socket.setSocketFd sockFd).socket.sockFd =
    if sockFd ≤ 0 ∨ 65535 ≤ sockFd then socket.sockFd else sockFd := by
  unfold setSocketFd
  split <;> rfl

/-! ## One octet -/

theorem octetsOf_append (chars : Bytes) (tmp : UInt8) (plain : 46 ∉ chars) :
    octetsOf tmp (chars ++ rest) =
      octetsOf (chars.foldl (fun tmp character => tmp * 10 + (character - 48)) tmp) rest := by
  induction chars generalizing tmp with
  | nil => rfl
  | cons character chars ih =>
      rw [List.mem_cons, not_or] at plain
      rw [List.cons_append, octetsOf, if_neg (Ne.symm plain.1), ih _ plain.2, List.foldl_cons]

/-- The value behind more digits, if no value on the way is refused. -/
def valueBehind (cnt value : Nat) : Bytes → Option Nat
  | [] => some value
  | character :: address =>
      let value := value * 10 + (character.toNat - 48)
      if (48 ≤ character ∧ character ≤ 57) ∧ value ≤ 255 ∧ ¬ (cnt = 3 ∧ value = 255) then
        valueBehind cnt value address
      else none

theorem isValidLoop_append {chars : Bytes} {isPrevDot : Bool} {behind : Nat}
    (some : chars ≠ []) (more : rest ≠ []) (reads : valueBehind cnt value chars = .some behind) :
    isValidLoop isPrevDot cnt value (chars ++ rest) = isValidLoop false cnt behind rest := by
  induction chars generalizing isPrevDot value with
  | nil => contradiction
  | cons character chars ih =>
      rw [valueBehind] at reads
      by_cases passes : (48 ≤ character ∧ character ≤ 57) ∧
          value * 10 + (character.toNat - 48) ≤ 255 ∧
          ¬ (cnt = 3 ∧ value * 10 + (character.toNat - 48) = 255)
      · rw [if_pos passes] at reads
        obtain ⟨digit, small, allowed⟩ := passes
        have notDot : character ≠ 46 := by
          intro dot
          rw [dot] at digit
          exact absurd digit (by decide)
        have further : chars ++ rest ≠ [] := fun none => more (List.append_eq_nil_iff.mp none).2
        rw [List.cons_append, isValidLoop, if_neg notDot, if_pos digit]
        dsimp only
        rw [if_neg (by omega), if_neg allowed, if_neg further]
        cases chars with
        | nil =>
            cases reads
            rfl
        | cons other chars => exact ih (List.cons_ne_nil _ _) reads
      · rw [if_neg passes] at reads
        contradiction

theorem isValidLoop_last {chars : Bytes} {isPrevDot : Bool} (some : chars ≠ []) (plain : 46 ∉ chars) :
    isValidLoop isPrevDot cnt value chars =
      ((valueBehind cnt value chars).isSome && decide (cnt ≤ 3)) := by
  induction chars generalizing isPrevDot value with
  | nil => contradiction
  | cons character chars ih =>
      rw [List.mem_cons, not_or] at plain
      rw [isValidLoop, if_neg (Ne.symm plain.1), valueBehind]
      dsimp only
      by_cases digit : 48 ≤ character ∧ character ≤ 57
      · rw [if_pos digit]
        by_cases large : 255 < value * 10 + (character.toNat - 48)
        · rw [if_pos large, if_neg (by omega)]
          rfl
        · rw [if_neg large]
          by_cases refused : cnt = 3 ∧ value * 10 + (character.toNat - 48) = 255
          · rw [if_pos refused, if_neg (fun passes => passes.2.2 refused)]
            rfl
          · have passes : (48 ≤ character ∧ character ≤ 57) ∧
                value * 10 + (character.toNat - 48) ≤ 255 ∧
                ¬ (cnt = 3 ∧ value * 10 + (character.toNat - 48) = 255) :=
              ⟨digit, by omega, refused⟩
            rw [if_neg refused, if_pos passes]
            cases chars with
            | nil => rfl
            | cons other chars =>
                rw [if_neg (List.cons_ne_nil _ _)]
                exact ih (List.cons_ne_nil _ _) plain.2
      · rw [if_neg digit, if_neg fun passes => digit passes.1]
        rfl

/-- An octet in decimal digits. -/
structure Printed (octet : UInt8) (chars : Bytes) : Prop where
  some : chars ≠ []
  short : chars.length ≤ 3
  plain : 46 ∉ chars
  folds : chars.foldl (fun tmp character => tmp * 10 + (character - 48)) (0 : UInt8) = octet
  reads : ∀ cnt < 3, valueBehind cnt 0 chars = .some octet.toNat
  last : (valueBehind 3 0 chars).isSome = decide (octet ≠ 255)

theorem digits_printed (octet : UInt8) : Printed octet (digits octet.toNat) := by
  have all : ∀ n < 256, digits n ≠ [] ∧ (digits n).length ≤ 3 ∧ 46 ∉ digits n ∧
      (digits n).foldl (fun tmp character => tmp * 10 + (character - 48)) (0 : UInt8) =
        UInt8.ofNat n ∧
      (∀ cnt < 3, valueBehind cnt 0 (digits n) = .some n) ∧
      (valueBehind 3 0 (digits n)).isSome = decide (UInt8.ofNat n ≠ 255) := by
    decide +kernel
  obtain ⟨some, short, plain, folds, reads, last⟩ := all octet.toNat octet.toNat_lt
  rw [UInt8.ofNat_toNat] at folds last
  exact ⟨some, short, plain, folds, reads, last⟩

/-! ## Four octets -/

theorem dotted_four (a b c d : UInt8) :
    dotted [a, b, c, d] = digits a.toNat ++ 46 :: (digits b.toNat ++ 46 ::
      (digits c.toNat ++ 46 :: digits d.toNat)) := by
  simp [dotted, List.intercalate]

theorem octetsOf_dotted (octets : host.length = 4) : octetsOf 0 (dotted host) = host := by
  obtain ⟨a, b, c, d, rfl⟩ := List.length_eq_four.mp octets
  have step : ∀ (octet : UInt8) (rest : Bytes),
      octetsOf 0 (digits octet.toNat ++ 46 :: rest) = octet :: octetsOf 0 rest := by
    intro octet rest
    have printed := digits_printed octet
    rw [octetsOf_append _ _ printed.plain, printed.folds, octetsOf, if_pos rfl]
  have printed := digits_printed d
  have end_ := @octetsOf_append [] _ 0 printed.plain
  rw [List.append_nil, printed.folds] at end_
  rw [dotted_four, step, step, step, end_, octetsOf]

/-- A printed address is refused if it ends in 255. -/
theorem isValidIPAddress_dotted (octets : host.length = 4) :
    isValidIPAddress (dotted host) = isValidIPAddressOctets host := by
  obtain ⟨a, b, c, d, rfl⟩ := List.length_eq_four.mp octets
  have step : ∀ (octet : UInt8) (isPrevDot : Bool) (cnt : Nat) (rest : Bytes), cnt < 3 →
      rest ≠ [] → isValidLoop isPrevDot cnt 0 (digits octet.toNat ++ 46 :: rest) =
        isValidLoop true (cnt + 1) 0 rest := by
    intro octet isPrevDot cnt rest before some
    have printed := digits_printed octet
    rw [isValidLoop_append printed.some (List.cons_ne_nil _ _) (printed.reads cnt before),
      isValidLoop, if_pos rfl, if_neg (by decide), if_neg some]
  have first := digits_printed a
  have second := digits_printed b
  have third := digits_printed c
  have printed := digits_printed d
  have short : ¬ 15 < (dotted [a, b, c, d]).length := by
    have lengths := And.intro (And.intro first.short second.short) (And.intro third.short printed.short)
    rw [dotted_four]
    simp only [List.length_append, List.length_cons]
    omega
  have begins : (dotted [a, b, c, d]).head? ≠ some 46 := by
    rw [dotted_four, List.head?_append_of_ne_nil _ first.some]
    intro dot
    exact first.plain (List.mem_of_mem_head? dot)
  rw [isValidIPAddress, if_neg short, if_neg begins, dotted_four, step _ _ _ _ (by decide) (by simp),
    step _ _ _ _ (by decide) (by simp), step _ _ _ _ (by decide) printed.some,
    isValidLoop_last printed.some printed.plain, printed.last]
  simp [isValidIPAddressOctets]

end SynapTCP.Socket
