import SynapTCP.Frame.Accounts
import Mathlib.Logic.Relation

namespace SynapTCP

open Data DataFrame

/-! # The loop over the elements

The framings that the loop gets to, one pass after another, and what holds of
the bytes in each of them.
-/

namespace Framing

variable {F : Type} [DataFrame F] {framing later last done : Framing F} {f : F}
  {bytes skipped added doubled total skip : Bytes}

/-- One pass that goes on to the next element. -/
def Onward (framing later : Framing F) : Prop :=
  framing.tmp < framing.sock.frameFormat.length ∧ framing.pass = .onward later

def Reaches : Framing F → Framing F → Prop := Relation.ReflTransGen Onward

/-- What is reached, one pass after another. -/
def trail (framing : Framing F) : Nat → List (Framing F)
  | 0 => []
  | fuel + 1 =>
      framing ::
        if framing.tmp < framing.sock.frameFormat.length then
          match framing.pass with
          | .onward later => later.trail fuel
          | .leave _ _ => []
        else []

theorem Reaches.mem_trail {fuel : Nat} (reaches : framing.Reaches later)
    (enough : framing.remaining < fuel) : later ∈ framing.trail fuel := by
  induction reaches using Relation.ReflTransGen.head_induction_on generalizing fuel with
  | refl =>
      cases fuel with
      | zero => contradiction
      | succ fuel => exact .head _
  | head onward _ ih =>
      cases fuel with
      | zero => contradiction
      | succ fuel =>
          have fewer := pass_remaining onward.1 onward.2
          rw [trail, if_pos onward.1, onward.2]
          exact .tail _ (ih (by omega))

/-- The loop ends behind the last element, or it leaves a framing it has reached. -/
theorem frameLoop_reaches {ret : Nat} (ended : framing.frameLoop = (ret, last)) :
    (ret = 0 ∧ framing.Reaches last ∧ last.sock.frameFormat.length ≤ last.tmp) ∨
      ∃ before, framing.Reaches before ∧ before.tmp < before.sock.frameFormat.length ∧
        before.pass = .leave ret last := by
  fun_induction frameLoop framing with
  | case1 framing more later passed ih =>
      have first : framing.Onward later := ⟨more, passed⟩
      rcases ih ended with ⟨code, reaches, behind⟩ | ⟨before, reaches, inside, left⟩
      · exact .inl ⟨code, .head first reaches, behind⟩
      · exact .inr ⟨before, .head first reaches, inside, left⟩
  | case2 framing more code ended_ passed =>
      cases ended
      exact .inr ⟨framing, .refl, more, passed⟩
  | case3 framing beyond =>
      cases ended
      exact .inl ⟨rfl, .refl, by omega⟩

theorem frameLoop_left {ret : Nat} (more : framing.tmp < framing.sock.frameFormat.length)
    (left : framing.pass = .leave ret last) : framing.frameLoop = (ret, last) := by
  rw [frameLoop, dif_pos more]
  split
  · rename_i next passed
    rw [left] at passed
    contradiction
  · rename_i code ended passed
    rw [left] at passed
    cases passed
    rfl

theorem Reaches.frameLoop_eq (reaches : framing.Reaches later) :
    later.frameLoop = framing.frameLoop := by
  induction reaches with
  | refl => rfl
  | tail _ onward ih =>
      rw [← ih]
      conv_rhs => rw [frameLoop]
      rw [dif_pos onward.1]
      split
      · rename_i next passed
        rw [onward.2] at passed
        cases passed
        rfl
      · rename_i ret next passed
        rw [onward.2] at passed
        cases passed

theorem receiveElement_odd (here : framing.sock.frameFormat[framing.tmp]? = some f)
    (odd : ¬ Receivable framing.sock.frameFormat framing.tmp) :
    framing.receiveElement f = (4, framing) := by
  have dispatch := receiveElement_dispatch here
  generalize framing.receiveElement f = result at dispatch ⊢
  generalize framing.elementEvents f = events at dispatch
  cases dispatch with
  | start type nonempty => exact absurd ⟨f, here, .inl ⟨by rw [type]; rfl, nonempty⟩⟩ odd
  | stop type nonempty => exact absurd ⟨f, here, .inl ⟨by rw [type]; rfl, nonempty⟩⟩ odd
  | fixed field sized => exact absurd ⟨f, here, .inr ⟨field, .inl sized⟩⟩ odd
  | untill field _ behind marker nonempty =>
      exact absurd ⟨f, here, .inr ⟨field, .inr ⟨_, behind, marker, nonempty⟩⟩⟩ odd
  | invalid _ => rfl

/-- An element that cannot be received ends the loop before anything is read. -/
theorem pass_odd (more : framing.tmp < framing.sock.frameFormat.length)
    (odd : ¬ Receivable framing.entered.sock.frameFormat framing.tmp) :
    framing.pass = .leave 4 framing.entered := by
  have inside : framing.entered.tmp < framing.entered.sock.frameFormat.length := by
    simpa [entered] using more
  have here := List.getElem?_eq_getElem inside
  have result := receiveElement_odd here (by simpa using odd)
  unfold pass
  rw [show framing.execute getExecuteFunction = framing.entered from rfl]
  simp only [here, result]
  rfl

/-- The loop body behind the execute function. -/
theorem pass_eq (here : framing.entered.sock.frameFormat[framing.tmp]? = some f) :
    framing.pass =
      if (framing.entered.receiveElement f).1 ≠ 0 then
        .leave (framing.entered.receiveElement f).1 (framing.entered.receiveElement f).2
      else if ((framing.entered.receiveElement f).2.execute
          getPostExecuteFunction).sock.isFormatValid = false then
        .leave 4 ((framing.entered.receiveElement f).2.execute getPostExecuteFunction)
      else .onward
        ((framing.entered.receiveElement f).2.execute getPostExecuteFunction).advance := by
  have position : (framing.execute getExecuteFunction).sock.frameFormat[
      (framing.execute getExecuteFunction).tmp]? = some f := by
    rw [execute_tmp]
    exact here
  simp only [pass, position]
  rfl

variable [LawfulDataFrame F]

/-- A pass goes on or is vetoed with its element received, or its element is not
received, or is none that can be. -/
theorem pass_cases (ready : framing.sock.Readable)
    (considerate : Considerate framing.sock.frameFormat)
    (more : framing.tmp < framing.sock.frameFormat.length) :
    (∃ bytes skipped added doubled done, Done framing done bytes skipped added doubled ∧
      (framing.pass = .onward done.advance ∨ framing.pass = .leave 4 done)) ∨
    (∃ bytes wire, framing.wire.Reads bytes wire ∧ framing.pass =
      .leave 2 (framing.entered.buffers (framing.sock.remainingData ++ bytes) [] wire)) ∨
    (¬ Receivable framing.entered.sock.frameFormat framing.tmp ∧
      framing.pass = .leave 4 framing.entered) := by
  have inside : framing.tmp < framing.entered.sock.frameFormat.length := by
    simpa [entered] using more
  obtain ⟨f, here⟩ : ∃ f, framing.entered.sock.frameFormat[framing.tmp]? = some f :=
    ⟨_, List.getElem?_eq_getElem inside⟩
  have body := pass_eq here
  have enteredReady : framing.entered.sock.Readable := by simpa using ready
  have enteredHere : framing.entered.sock.frameFormat[framing.entered.tmp]? = some f := by
    simpa using here
  obtain ⟨bytes, wire, reads, received⟩ := receiveElement_received enteredReady enteredHere
  rw [entered_wire] at reads
  rw [entered_toSocket] at received
  generalize framing.entered.receiveElement f = result at body received
  obtain ⟨ret, middle⟩ := result
  by_cases served : ret = 0
  · subst served
    obtain ⟨skipped, added, doubled, account⟩ :=
      received_done ready considerate here reads received
    refine .inl ⟨bytes, skipped, added, doubled, _, account, ?_⟩
    rw [body, if_neg (by simp)]
    split
    · exact .inr rfl
    · exact .inl rfl
  · rw [if_pos served] at body
    cases received with
    | startMissed => exact .inr (.inl ⟨bytes, wire, reads, body⟩)
    | stopMissed => exact .inr (.inl ⟨bytes, wire, reads, body⟩)
    | untillMissed => exact .inr (.inl ⟨bytes, wire, reads, body⟩)
    | invalid _ _ odd => exact .inr (.inr ⟨by simpa using odd, body⟩)
    | start => exact absurd rfl served
    | stop => exact absurd rfl served
    | fixed => exact absurd rfl served
    | starved => exact absurd rfl served
    | untill => exact absurd rfl served
    | overrun => exact absurd rfl served

end Framing

end SynapTCP
