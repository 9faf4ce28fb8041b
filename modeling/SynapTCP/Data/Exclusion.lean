import Mathlib.Data.List.Basic
import Mathlib.Tactic.Common

namespace SynapTCP.Data

/-! # Sections that exclude one another

Threads write to one place, each only between taking a lock and giving it back.
What is written is read off a trace of what the threads do; `visits` are the
sections of the trace in the order in which the lock was taken, each with what
its own thread wrote in it.
-/

inductive Deed (κ β ρ : Type*) where
  | enter (call : κ)
  | write (items : List β)
  | leave (result : ρ)
deriving DecidableEq

variable {ι κ β ρ : Type*}

def written : List (ι × Deed κ β ρ) → List β
  | [] => []
  | (_, .write items) :: trace => items ++ written trace
  | _ :: trace => written trace

/-- A section is finished when it has a result. -/
structure Visit (ι κ β ρ : Type*) where
  thread : ι
  call : κ
  output : List β
  result : Option ρ

/-- The thread has the lock, if one has it, and each takes it before it writes. -/
inductive Orderly : Option ι → List (ι × Deed κ β ρ) → Prop where
  | nil {holder} : Orderly holder []
  | enter {i call trace} : Orderly (some i) trace → Orderly none ((i, .enter call) :: trace)
  | write {i items trace} : Orderly (some i) trace → Orderly (some i) ((i, .write items) :: trace)
  | leave {i result trace} : Orderly none trace → Orderly (some i) ((i, .leave result) :: trace)

section Visits

variable [DecidableEq ι]

/-- What the thread writes before it leaves. -/
def output (i : ι) : List (ι × Deed κ β ρ) → List β
  | [] => []
  | (j, .write items) :: trace => if j = i then items ++ output i trace else output i trace
  | (j, .leave _) :: trace => if j = i then [] else output i trace
  | (_, .enter _) :: trace => output i trace

/-- What the thread leaves with. -/
def result (i : ι) : List (ι × Deed κ β ρ) → Option ρ
  | [] => none
  | (j, .leave result_) :: trace => if j = i then some result_ else result i trace
  | _ :: trace => result i trace

def visits : List (ι × Deed κ β ρ) → List (Visit ι κ β ρ)
  | [] => []
  | (i, .enter call) :: trace => ⟨i, call, output i trace, result i trace⟩ :: visits trace
  | _ :: trace => visits trace

variable {holder : Option ι} {trace : List (ι × Deed κ β ρ)}

/-- The rest of the section that is under way, and then section after section. -/
theorem Orderly.written_eq (orderly : Orderly holder trace) :
    written trace =
      (holder.elim [] fun i => output i trace) ++ (visits trace).flatMap Visit.output := by
  induction orderly with
  | @nil holder => cases holder <;> rfl
  | enter _ ih =>
      simp only [written, visits, ih, Option.elim, List.flatMap_cons, List.nil_append]
  | write _ ih =>
      simp only [written, visits, ih, Option.elim, output, if_true, List.append_assoc]
  | leave _ ih =>
      simp only [written, visits, ih, Option.elim, output, if_true]

/-- From a free lock on, what is written is what the sections write. -/
theorem Orderly.written_visits (orderly : Orderly none trace) :
    written trace = (visits trace).flatMap Visit.output := orderly.written_eq

end Visits

end SynapTCP.Data
