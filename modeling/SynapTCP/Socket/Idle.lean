import SynapTCP.Data.Narrowing
import SynapTCP.Socket.Setup
import Mathlib.Algebra.Group.Int.Defs

namespace SynapTCP

open Data

/-! # Times without activity

`isSocketTimeout` in terms of the times and of the timeout that was configured.
-/

namespace TimeVal

variable {ref last : TimeVal}

def microseconds (time : TimeVal) : Int := time.sec * 1000000 + time.usec

def InRange (time : TimeVal) : Prop := 0 ≤ time.usec ∧ time.usec < 1000000

instance (time : TimeVal) : Decidable time.InRange := inferInstanceAs (Decidable (_ ∧ _))

def since (ref last : TimeVal) : Int := ref.microseconds - last.microseconds

/-- Whole milliseconds, rounded up if the microseconds went down in between. -/
def wholeSince (ref last : TimeVal) : Int :=
  if ref.usec < last.usec then -(-ref.since last / 1000) else ref.since last / 1000

theorem wholeSince_eq : (ref.sec - last.sec) * 1000 + (ref.usec - last.usec).tdiv 1000 =
    ref.wholeSince last := by
  unfold wholeSince since microseconds
  split
  · rename_i down
    have flipped : (ref.usec - last.usec).tdiv 1000 = -((last.usec - ref.usec) / 1000) := by
      rw [← Int.tdiv_eq_ediv_of_nonneg (by omega), ← Int.neg_tdiv, Int.neg_sub]
    rw [flipped]
    omega
  · rw [Int.tdiv_eq_ediv_of_nonneg (by omega)]
    omega

/-- Rounding moves the time by less than a millisecond. -/
theorem wholeSince_near : (ref.wholeSince last - 1) * 1000 < ref.since last ∧
    ref.since last < (ref.wholeSince last + 1) * 1000 := by
  unfold wholeSince
  split
  · omega
  · omega

end TimeVal

/-- The two overloads of `setTimeout`. -/
inductive Timeout where
  | whole (milliseconds : Int)
  | parts (seconds milliseconds : Int)

namespace Timeout

variable {timeout : Timeout} {socket : Socket}

def set (socket : Socket) : Timeout → Call Bool
  | .whole milliseconds => socket.setTimeout milliseconds
  | .parts seconds milliseconds => socket.setTimeoutParts seconds milliseconds

def milliseconds : Timeout → Int
  | .whole milliseconds => milliseconds
  | .parts seconds milliseconds => seconds * 1000 + milliseconds

theorem set_tvTimeout (accepted : (timeout.set socket).result = true) :
    0 ≤ (timeout.set socket).socket.tvTimeout.sec ∧
      (timeout.set socket).socket.tvTimeout.InRange ∧
      (timeout.set socket).socket.tvTimeout.sec * 1000 +
        (timeout.set socket).socket.tvTimeout.usec.tdiv 1000 = timeout.milliseconds := by
  cases timeout with
  | whole milliseconds =>
      rw [set, Socket.setTimeout] at accepted ⊢
      split at accepted
      · contradiction
      · rename_i positive
        rw [if_neg positive]
        split
        · rename_i short
          refine ⟨Int.le_refl 0, ⟨?_, ?_⟩, ?_⟩
          · show 0 ≤ milliseconds * 1000
            omega
          · show milliseconds * 1000 < 1000000
            omega
          · show 0 * 1000 + (milliseconds * 1000).tdiv 1000 = milliseconds
            rw [Int.mul_tdiv_cancel _ (by decide)]
            omega
        · rename_i long
          refine ⟨?_, ⟨?_, ?_⟩, ?_⟩
          · show 0 ≤ milliseconds / 1000
            omega
          · show 0 ≤ milliseconds % 1000 * 1000
            omega
          · show milliseconds % 1000 * 1000 < 1000000
            omega
          · show milliseconds / 1000 * 1000 + (milliseconds % 1000 * 1000).tdiv 1000 = milliseconds
            rw [Int.mul_tdiv_cancel _ (by decide)]
            omega
  | parts seconds milliseconds =>
      rw [set, Socket.setTimeoutParts] at accepted ⊢
      split at accepted
      · contradiction
      · rename_i valid
        rw [if_neg valid]
        refine ⟨?_, ⟨?_, ?_⟩, ?_⟩
        · show 0 ≤ seconds
          omega
        · show 0 ≤ milliseconds * 1000
          omega
        · show milliseconds * 1000 < 1000000
          omega
        · show seconds * 1000 + (milliseconds * 1000).tdiv 1000 = seconds * 1000 + milliseconds
          rw [Int.mul_tdiv_cancel _ (by decide)]

theorem set_microseconds (accepted : (timeout.set socket).result = true) :
    (timeout.set socket).socket.tvTimeout.microseconds = timeout.milliseconds * 1000 := by
  cases timeout with
  | whole milliseconds =>
      rw [set, Socket.setTimeout] at accepted ⊢
      split at accepted
      · contradiction
      · rename_i positive
        rw [if_neg positive]
        split
        · show 0 * 1000000 + milliseconds * 1000 = milliseconds * 1000
          omega
        · show milliseconds / 1000 * 1000000 + milliseconds % 1000 * 1000 = milliseconds * 1000
          omega
  | parts seconds milliseconds =>
      rw [set, Socket.setTimeoutParts] at accepted ⊢
      split at accepted
      · contradiction
      · rename_i valid
        rw [if_neg valid]
        show seconds * 1000000 + milliseconds * 1000 = (seconds * 1000 + milliseconds) * 1000
        omega

theorem set_zero (accepted : (timeout.set socket).result = true)
    (zero : timeout.milliseconds = 0) : (timeout.set socket).socket.tvTimeout = ⟨0, 0⟩ := by
  cases timeout with
  | whole milliseconds =>
      have none : milliseconds = 0 := zero
      subst none
      rfl
  | parts seconds milliseconds =>
      have sum : seconds * 1000 + milliseconds = 0 := zero
      rw [set, Socket.setTimeoutParts] at accepted
      split at accepted
      · contradiction
      · have noSeconds : seconds = 0 := by omega
        have none : milliseconds = 0 := by omega
        subst noSeconds none
        rfl

end Timeout

namespace Socket

variable {socket : Socket} {ref last : TimeVal} {timeout : Timeout}

/-- Both times are narrowed to `int`. -/
theorem isSocketTimeout_iff (configured : socket.tvTimeout.sec * 1000 +
      socket.tvTimeout.usec.tdiv 1000 = timeout.milliseconds) :
    socket.isSocketTimeout ref last = true ↔
      place (2 ^ 31) timeout.milliseconds < place (2 ^ 31) (ref.wholeSince last) := by
  have width : 2 ^ 32 = 2 * 2147483648 := by decide
  have half : ((2147483648 : Nat) : Int) = 2 ^ 31 := by decide
  have compares := @bmod_lt_bmod_iff 2147483648 (by decide) timeout.milliseconds
    (ref.wholeSince last)
  rw [half] at compares
  unfold isSocketTimeout
  simp only [configured, TimeVal.wholeSince_eq, width, decide_eq_true_eq]
  exact compares

/-- More time has gone by without activity than the timeout allows. -/
def Exceeds (socket : Socket) (ref last : TimeVal) : Prop :=
  socket.tvTimeout.microseconds < ref.since last

instance (socket : Socket) (ref last : TimeVal) : Decidable (socket.Exceeds ref last) :=
  inferInstanceAs (Decidable (_ < _))

/-- The check finds the timeout exceeded before it is. -/
def Early (socket : Socket) (ref last : TimeVal) : Prop :=
  socket.isSocketTimeout ref last = true ∧ ¬ socket.Exceeds ref last

instance (socket : Socket) (ref last : TimeVal) : Decidable (socket.Early ref last) :=
  inferInstanceAs (Decidable (_ ∧ _))

/-- True only after the timeout, and always a millisecond after it. -/
structure Exact (socket : Socket) (ref last : TimeVal) (milliseconds : Int) : Prop where
  only : socket.isSocketTimeout ref last = true → milliseconds * 1000 < ref.since last
  always : (milliseconds + 1) * 1000 ≤ ref.since last → socket.isSocketTimeout ref last = true

/-- The time without activity and the timeout compare as `int` like the numbers that
they stand for: they have gone round equally often, or the one that has gone round
more often is further in its round as well. -/
def InOrder (ref last : TimeVal) (milliseconds : Int) : Prop :=
  let elapsed := ref.wholeSince last
  rounds (2 ^ 31) elapsed = rounds (2 ^ 31) milliseconds ∨
    rounds (2 ^ 31) elapsed < rounds (2 ^ 31) milliseconds ∧
      place (2 ^ 31) elapsed ≤ place (2 ^ 31) milliseconds ∨
    rounds (2 ^ 31) milliseconds < rounds (2 ^ 31) elapsed ∧
      (place (2 ^ 31) milliseconds < place (2 ^ 31) elapsed ∨
        ref.since last < (milliseconds + 1) * 1000)

/-- It is so for all times up to 24 days. -/
theorem inOrder_of_small {milliseconds : Int} (elapsed : ref.wholeSince last < 2 ^ 31)
    (forward : 0 ≤ ref.wholeSince last) (positive : 0 ≤ milliseconds)
    (small : milliseconds < 2 ^ 31) : InOrder ref last milliseconds := by
  refine .inl ?_
  unfold rounds
  omega

theorem exact_of_inOrder (configured : socket.tvTimeout.sec * 1000 +
      socket.tvTimeout.usec.tdiv 1000 = timeout.milliseconds)
    (inOrder : InOrder ref last timeout.milliseconds) :
    Exact socket ref last timeout.milliseconds := by
  have fires := @isSocketTimeout_iff socket ref last timeout configured
  obtain ⟨above, below⟩ := @TimeVal.wholeSince_near ref last
  have half : (0 : Int) < 2 ^ 31 := by decide
  have later := @lt_of_rounds_lt (2 ^ 31) (ref.wholeSince last) timeout.milliseconds half
  have earlier := @lt_of_rounds_lt (2 ^ 31) timeout.milliseconds (ref.wholeSince last) half
  have together := @place_lt_iff (2 ^ 31) timeout.milliseconds (ref.wholeSince last)
  rcases inOrder with same | ⟨before, place⟩ | ⟨behind, further⟩
  · have compares := together same.symm
    refine ⟨fun answer => ?_, fun late => fires.mpr (compares.mpr ?_)⟩
    · have less := compares.mp (fires.mp answer)
      omega
    · omega
  · have less := later before
    refine ⟨fun answer => ?_, fun late => ?_⟩
    · have further := fires.mp answer
      omega
    · omega
  · have less := earlier behind
    refine ⟨fun _ => by omega, fun late => fires.mpr ?_⟩
    omega

/-- The check for a timeout is exact to a millisecond exactly if the two times are in
order as `int`. -/
theorem isSocketTimeout_exact_iff (socket : Socket) (timeout : Timeout) (ref last : TimeVal)
    (accepted : (timeout.set socket).result = true) :
    Exact (timeout.set socket).socket ref last timeout.milliseconds ↔
      InOrder ref last timeout.milliseconds := by
  have configured := (Timeout.set_tvTimeout accepted).2.2
  refine ⟨fun answers => ?_, exact_of_inOrder configured⟩
  have fires := @isSocketTimeout_iff (timeout.set socket).socket ref last timeout configured
  obtain ⟨above, below⟩ := @TimeVal.wholeSince_near ref last
  have half : (0 : Int) < 2 ^ 31 := by decide
  have later := @lt_of_rounds_lt (2 ^ 31) (ref.wholeSince last) timeout.milliseconds half
  have earlier := @lt_of_rounds_lt (2 ^ 31) timeout.milliseconds (ref.wholeSince last) half
  have only := answers.only
  have always := answers.always
  rw [fires] at only always
  unfold InOrder
  rcases Int.lt_trichotomy (rounds (2 ^ 31) (ref.wholeSince last))
    (rounds (2 ^ 31) timeout.milliseconds) with before | same | behind
  · have less := later before
    refine .inr (.inl ⟨before, ?_⟩)
    by_contra further
    have late := only (Int.not_le.mp further)
    omega
  · exact .inl same
  · refine .inr (.inr ⟨behind, ?_⟩)
    by_contra neither
    rw [not_or, Int.not_lt, Int.not_lt] at neither
    have further := always neither.2
    omega

/-- Only an `int` that has gone round makes a check come early. -/
theorem Early.unordered (early : (timeout.set socket).socket.Early ref last)
    (accepted : (timeout.set socket).result = true) :
    ¬ InOrder ref last timeout.milliseconds := by
  intro inOrder
  have configured := (Timeout.set_tvTimeout accepted).2.2
  have late := (exact_of_inOrder configured inOrder).only early.1
  have whole := Timeout.set_microseconds accepted
  apply early.2
  unfold Exceeds
  rwa [whole]

theorem isSocketTimeout_exact_default :
    Exact (Timeout.set Socket.new (.parts 1 500)).socket ⟨8, 250⟩ ⟨6, 900000⟩ 1500 ↔
      InOrder ⟨8, 250⟩ ⟨6, 900000⟩ 1500 :=
  isSocketTimeout_exact_iff Socket.new (.parts 1 500) ⟨8, 250⟩ ⟨6, 900000⟩ (by decide)

/-- A timeout of 2147484 seconds is over at once, and one of a second is not over
after 2147484 seconds. -/
theorem isSocketTimeout_wraps :
    (Timeout.set Socket.new (.parts 2147484 0)).socket.isSocketTimeout ⟨0, 0⟩ ⟨0, 0⟩ = true ∧
      (Timeout.set Socket.new (.whole 1000)).socket.isSocketTimeout ⟨2147484, 0⟩ ⟨0, 0⟩ = false ∧
      ¬ ∀ (socket : Socket) (timeout : Timeout) (ref last : TimeVal),
        (timeout.set socket).result = true → ref.InRange → last.InRange → 0 ≤ ref.since last →
          Exact (timeout.set socket).socket ref last timeout.milliseconds := by
  have atOnce : (Timeout.set Socket.new (.parts 2147484 0)).socket.isSocketTimeout
      ⟨0, 0⟩ ⟨0, 0⟩ = true := by
    decide
  refine ⟨atOnce, by decide, fun claim => ?_⟩
  have late := (claim Socket.new (.parts 2147484 0) ⟨0, 0⟩ ⟨0, 0⟩ (by decide) (by decide)
    (by decide) (by decide)).only atOnce
  exact absurd late (by decide)

end Socket

end SynapTCP
