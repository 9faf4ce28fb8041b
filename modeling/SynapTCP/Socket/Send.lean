import SynapTCP.Socket.Object
import Mathlib.Tactic.Common

namespace SynapTCP

/-! # The send operation

`sendData` of `src/socket.cpp`.  The writes are the numbers of bytes that the
kernel takes one time after another, 0 for a write that fails.
-/

structure Sending where
  code : Nat
  sent : Bytes
deriving DecidableEq

namespace Socket

/-- The loop of `sendData`: its return code and `total` behind it. -/
def sendLoop (s : Socket) (sz total : Nat) : List Nat → Nat × Nat
  | [] =>
      if total < sz then (if s.useSSL && s.sslConn.isNone then 1 else 2, total) else (0, total)
  | bytes :: writes =>
      if total < sz then
        if s.useSSL && s.sslConn.isNone then (1, total)
        else if 0 < bytes then s.sendLoop sz (total + min bytes (sz - total)) writes
        else (2, total)
      else (0, total)

def sendData (s : Socket) (buffer : Bytes) (writes : List Nat) : Sending :=
  if s.sockFd ≤ 0 then ⟨1, []⟩
  else
    let ended := s.sendLoop buffer.length 0 writes
    ⟨ended.1, buffer.take ended.2⟩

/-- The loop ends behind the buffer, or at once without an SSL connection, or at a
write that fails. -/
theorem sendLoop_cases {s : Socket} {sz total : Nat} {writes : List Nat} (start : total ≤ sz) :
    s.sendLoop sz total writes = (0, sz) ∨
      s.sendLoop sz total writes = (1, total) ∧ (s.useSSL && s.sslConn.isNone) = true ∨
      (s.sendLoop sz total writes).1 = 2 ∧ (s.sendLoop sz total writes).2 < sz := by
  induction writes generalizing total with
  | nil =>
      unfold sendLoop
      split
      · rename_i more
        split
        · rename_i refused
          exact .inr (.inl ⟨rfl, refused⟩)
        · exact .inr (.inr ⟨rfl, more⟩)
      · rename_i all
        rw [show total = sz by omega]
        exact .inl rfl
  | cons bytes writes ih =>
      unfold sendLoop
      split
      · rename_i more
        split
        · rename_i refused
          exact .inr (.inl ⟨rfl, refused⟩)
        · rename_i connected
          split
          · rcases ih (show total + min bytes (sz - total) ≤ sz by omega) with
              all | ⟨-, refused⟩ | failed
            · exact .inl all
            · exact absurd refused connected
            · exact .inr (.inr failed)
          · exact .inr (.inr ⟨rfl, more⟩)
      · rename_i all
        rw [show total = sz by omega]
        exact .inl rfl

/-- A call that returns 0 has sent all, one that returns 1 nothing, one that returns 2 a
proper prefix; there are no other codes. -/
theorem sendData_cases {s : Socket} {buffer : Bytes} {writes : List Nat} :
    s.sendData buffer writes = ⟨0, buffer⟩ ∨ s.sendData buffer writes = ⟨1, []⟩ ∨
      (s.sendData buffer writes).code = 2 ∧ (s.sendData buffer writes).sent <+: buffer ∧
        (s.sendData buffer writes).sent ≠ buffer := by
  unfold sendData
  split
  · exact .inr (.inl rfl)
  · dsimp only
    rcases @sendLoop_cases s buffer.length 0 writes (Nat.zero_le _) with
      all | ⟨nothing, -⟩ | ⟨failed, short⟩
    · left
      rw [all, List.take_length]
    · right
      left
      rw [nothing, List.take_zero]
    · refine .inr (.inr ⟨failed, List.take_prefix _ _, fun whole => ?_⟩)
      have length := congrArg List.length whole
      rw [List.length_take] at length
      omega

theorem sendData_all {s : Socket} {buffer : Bytes} {writes : List Nat}
    (sent : (s.sendData buffer writes).code = 0) : (s.sendData buffer writes).sent = buffer := by
  rcases @sendData_cases s buffer writes with all | nothing | ⟨failed, -⟩
  · rw [all]
  · rw [nothing] at sent
    contradiction
  · rw [failed] at sent
    contradiction

end Socket

end SynapTCP
