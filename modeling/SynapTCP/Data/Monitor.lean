import Mathlib.Data.List.Basic
import Mathlib.Tactic.Common

namespace SynapTCP.Data

/-! # A mutex with a condition

The condition remembers no signal, and only a signal ends a wait.
-/

structure Monitor (ι : Type*) where
  owner : Option ι
  waiters : List ι
deriving DecidableEq

/-- `wait` gives the mutex back; `resume` is its return, with the mutex taken again. -/
inductive MonitorCall where
  | lock
  | unlock
  | wait
  | resume
  | signal
deriving DecidableEq

namespace Monitor

variable {ι : Type*} {monitor after : Monitor ι} {i j : ι} {call : MonitorCall}

def free : Monitor ι := ⟨none, []⟩

/-- The call of `i` does not block. -/
def Permits (monitor : Monitor ι) (i : ι) : MonitorCall → Prop
  | .lock => monitor.owner = none
  | .unlock => monitor.owner = some i
  | .wait => monitor.owner = some i
  | .resume => monitor.owner = none ∧ i ∉ monitor.waiters
  | .signal => True

instance [DecidableEq ι] (monitor : Monitor ι) (i : ι) :
    (call : MonitorCall) → Decidable (monitor.Permits i call)
  | .lock => inferInstanceAs (Decidable (monitor.owner = none))
  | .unlock => inferInstanceAs (Decidable (monitor.owner = some i))
  | .wait => inferInstanceAs (Decidable (monitor.owner = some i))
  | .resume => inferInstanceAs (Decidable (monitor.owner = none ∧ i ∉ monitor.waiters))
  | .signal => inferInstanceAs (Decidable True)

/-- Who has the mutex behind the call. -/
def ownerAfter (monitor : Monitor ι) (i : ι) : MonitorCall → Option ι
  | .lock => some i
  | .unlock => none
  | .wait => none
  | .resume => some i
  | .signal => monitor.owner

/-- Who waits behind the call. -/
def waitersAfter (monitor : Monitor ι) (i : ι) : MonitorCall → List ι
  | .lock => monitor.waiters
  | .unlock => monitor.waiters
  | .wait => monitor.waiters ++ [i]
  | .resume => monitor.waiters
  | .signal => monitor.waiters.tail

def perform [DecidableEq ι] (monitor : Monitor ι) (i : ι) (call : MonitorCall) :
    Option (Monitor ι) :=
  if monitor.Permits i call then some ⟨monitor.ownerAfter i call, monitor.waitersAfter i call⟩
  else none

theorem perform_eq_some [DecidableEq ι] (performs : monitor.perform i call = some after) :
    monitor.Permits i call ∧
      after = ⟨monitor.ownerAfter i call, monitor.waitersAfter i call⟩ := by
  unfold perform at performs
  split at performs
  · rename_i permits
    cases performs
    exact ⟨permits, rfl⟩
  · contradiction

/-- No other takes the mutex from its owner. -/
theorem ownerAfter_of_ne (owned : monitor.owner = some j) (other : j ≠ i)
    (permits : monitor.Permits i call) : monitor.ownerAfter i call = some j := by
  have blocked : monitor.owner ≠ none ∧ monitor.owner ≠ some i := by
    rw [owned]
    exact ⟨Option.some_ne_none j, fun same => other (Option.some.inj same)⟩
  cases call with
  | lock => exact absurd permits blocked.1
  | unlock => exact absurd permits blocked.2
  | wait => exact absurd permits blocked.2
  | resume => exact absurd permits.1 blocked.1
  | signal => exact owned

end Monitor

end SynapTCP.Data
