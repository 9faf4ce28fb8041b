import SynapTCP.Data.LockOrder
import Mathlib.Algebra.Order.BigOperators.Group.Finset
import Mathlib.Data.Fintype.EquivFin
import Mathlib.Data.Fintype.Lattice
import Mathlib.Logic.Function.Basic
import Mathlib.Logic.Relation

namespace SynapTCP.Data

/-! # Threads that wait for locks

Each thread does one list of acts after another.  To take a thing of the kind it waits until
no thread has it.  Where each list gives back what it takes and climbs, the threads never
all wait for one another.
-/

/-- What is left of the list that each thread is doing, and which thread has what. -/
structure Contest (ι τ : Type*) where
  left : ι → List (Act τ)
  owner : τ → Option ι

namespace Contest

open Function

variable {ι τ α : Type*} [DecidableEq ι] [DecidableEq τ] [LinearOrder α] {kind : τ → Prop}
  [DecidablePred kind] {rank : τ → α} {allowed : List (Act τ) → Prop}
  {contest later : Contest ι τ} {i j : ι} {t : τ} {acts rest : List (Act τ)}

def idle : Contest ι τ := ⟨fun _ => [], fun _ => none⟩

/-- Two threads have begun. -/
def begun (i : ι) (first : List (Act τ)) (j : ι) (second : List (Act τ)) : Contest ι τ :=
  ⟨update (update (fun _ => []) i first) j second, fun _ => none⟩

/-- The next act of the thread, if it does not have to wait. -/
def step (kind : τ → Prop) [DecidablePred kind] (contest : Contest ι τ) (i : ι) :
    Option (Contest ι τ) :=
  match contest.left i with
  | [] => none
  | .acquire t :: rest =>
      if kind t then
        if contest.owner t = none then
          some ⟨update contest.left i rest, update contest.owner t (some i)⟩
        else none
      else some { contest with left := update contest.left i rest }
  | .release t :: rest =>
      some ⟨update contest.left i rest,
        if kind t then update contest.owner t none else contest.owner⟩

/-- A thread with nothing left begins with an allowed list, or a thread does its next act. -/
inductive Goes (kind : τ → Prop) [DecidablePred kind] (allowed : List (Act τ) → Prop) :
    Contest ι τ → Contest ι τ → Prop where
  | begin {contest : Contest ι τ} {i : ι} {acts : List (Act τ)} (nothing : contest.left i = []) (isAllowed : allowed acts) :
      Goes kind allowed contest { contest with left := update contest.left i acts }
  | step {contest later : Contest ι τ} {i : ι} (steps : contest.step kind i = some later) :
      Goes kind allowed contest later

def Reaches (kind : τ → Prop) [DecidablePred kind] (allowed : List (Act τ) → Prop) :
    Contest ι τ → Contest ι τ → Prop :=
  Relation.ReflTransGen (Goes kind allowed)

/-- No thread begins with another list. -/
def Proceeds (kind : τ → Prop) [DecidablePred kind] : Contest ι τ → Contest ι τ → Prop :=
  Relation.ReflTransGen fun contest later => ∃ i, contest.step kind i = some later

/-- The acts of the threads in the given order. -/
def steps (kind : τ → Prop) [DecidablePred kind] (contest : Contest ι τ) :
    List ι → Option (Contest ι τ)
  | [] => some contest
  | i :: order => (contest.step kind i).bind fun later => later.steps kind order

/-- What each thread has it gives back, and what it takes has a higher rank. -/
structure Orderly (kind : τ → Prop) (rank : τ → α) (contest : Contest ι τ) : Prop where
  gives : ∀ i t, kind t →
    hold t (decide (contest.owner t = some i)) (contest.left i) = some false
  climbs : ∀ i, Climbs kind rank {t | contest.owner t = some i} (contest.left i)

theorem step_cases (steps : contest.step kind i = some later) :
    ∃ act rest, contest.left i = act :: rest ∧ later.left = update contest.left i rest ∧
      ((∃ t, act = .acquire t ∧ kind t ∧ contest.owner t = none ∧
          later.owner = update contest.owner t (some i)) ∨
        (∃ t, act = .release t ∧ kind t ∧ later.owner = update contest.owner t none) ∨
        ¬ kind act.thing ∧ later.owner = contest.owner) := by
  unfold step at steps
  split at steps
  · contradiction
  · rename_i t rest atHead
    split at steps
    · rename_i ofKind
      split at steps
      · rename_i free
        cases steps
        exact ⟨_, rest, atHead, rfl, .inl ⟨t, rfl, ofKind, free, rfl⟩⟩
      · contradiction
    · rename_i other
      cases steps
      exact ⟨_, rest, atHead, rfl, .inr (.inr ⟨other, rfl⟩)⟩
  · rename_i t rest atHead
    cases steps
    by_cases ofKind : kind t
    · exact ⟨_, rest, atHead, rfl, .inr (.inl ⟨t, rfl, ofKind, if_pos ofKind⟩)⟩
    · exact ⟨_, rest, atHead, rfl, .inr (.inr ⟨ofKind, if_neg ofKind⟩)⟩

omit [DecidablePred kind] in
/-- A thread with nothing left has nothing. -/
theorem Orderly.unowned (orderly : Orderly kind rank contest) (nothing : contest.left i = [])
    (ofKind : kind t) : contest.owner t ≠ some i := by
  intro owned
  have gives := orderly.gives i t ofKind
  rw [nothing, hold_nil, decide_eq_true owned] at gives
  contradiction

omit [DecidablePred kind] in
theorem Orderly.begin (orderly : Orderly kind rank contest) (nothing : contest.left i = [])
    (nests : Nests kind rank acts) :
    Orderly kind rank { contest with left := update contest.left i acts } := by
  constructor
  · intro j t ofKind
    dsimp only
    by_cases same : j = i
    · subst same
      rw [update_self, decide_eq_false (orderly.unowned nothing ofKind)]
      exact nests.disciplined t ofKind
    · rw [update_of_ne same]
      exact orderly.gives j t ofKind
  · intro j
    dsimp only
    by_cases same : j = i
    · subst same
      rw [update_self]
      exact nests.climbs.mono fun t owned ofKind => absurd owned (orderly.unowned nothing ofKind)
    · rw [update_of_ne same]
      exact orderly.climbs j

/-- What thread `j` has does not change by an act of another. -/
theorem Orderly.owner_of_ne (orderly : Orderly kind rank contest)
    (steps : contest.step kind i = some later) (other : j ≠ i) :
    later.owner t = some j ↔ contest.owner t = some j := by
  obtain ⟨act, rest, atHead, -, ⟨u, -, -, free, owners⟩ | ⟨u, isRelease, ofKind, owners⟩ |
    ⟨-, owners⟩⟩ := step_cases steps
  · rw [owners]
    by_cases same : t = u
    · subst same
      rw [update_self, free]
      refine iff_of_false (fun is => other (Option.some.inj is).symm) (by simp)
    · rw [update_of_ne same]
  · rw [owners]
    by_cases same : t = u
    · subst same
      have gives := orderly.gives i t ofKind
      rw [atHead, isRelease, hold, if_pos rfl] at gives
      split at gives
      · rename_i owned
        rw [update_self, of_decide_eq_true owned]
        exact iff_of_false (by simp) fun is => other (Option.some.inj is).symm
      · contradiction
    · rw [update_of_ne same]
  · rw [owners]

theorem Orderly.step (orderly : Orderly kind rank contest)
    (steps : contest.step kind i = some later) : Orderly kind rank later := by
  obtain ⟨act, rest, atHead, left, turn⟩ := step_cases steps
  have own : (∀ t, kind t → hold t (decide (later.owner t = some i)) rest = some false) ∧
      Climbs kind rank {t | later.owner t = some i} rest := by
    have gives := orderly.gives i
    have climbs := orderly.climbs i
    rw [atHead] at gives climbs
    rcases turn with ⟨u, isAcquire, ofKind, free, owners⟩ | ⟨u, isRelease, ofKind, owners⟩ |
      ⟨other, owners⟩
    · subst isAcquire
      rw [owners]
      constructor
      · intro t isKind
        have kept := gives t isKind
        by_cases same : t = u
        · subst same
          rw [free, hold, if_pos rfl] at kept
          rw [update_self, decide_eq_true rfl]
          exact kept
        · rw [hold_acquire_of_ne fun is => same is.symm] at kept
          rw [update_of_ne same]
          exact kept
      · refine climbs.2.mono fun t owned _ => ?_
        by_cases same : t = u
        · exact .inl same
        · exact .inr (by rwa [Set.mem_ofPred_eq, update_of_ne same] at owned)
    · subst isRelease
      rw [owners]
      constructor
      · intro t isKind
        have kept := gives t isKind
        by_cases same : t = u
        · subst same
          rw [hold, if_pos rfl] at kept
          rw [update_self, decide_eq_false (by simp)]
          split at kept
          · exact kept
          · contradiction
        · rw [hold_release_of_ne fun is => same is.symm] at kept
          rw [update_of_ne same]
          exact kept
      · refine Climbs.mono climbs fun t owned _ => ?_
        have apart : t ≠ u := by
          intro same
          rw [same, Set.mem_ofPred_eq, update_self] at owned
          contradiction
        exact ⟨by rwa [Set.mem_ofPred_eq, update_of_ne apart] at owned, apart⟩
    · rw [owners]
      cases act with
      | acquire u =>
          refine ⟨fun t isKind => ?_, climbs.2.mono fun t owned _ => .inr owned⟩
          rw [← hold_acquire_of_ne fun same : u = t => other (same ▸ isKind)]
          exact gives t isKind
      | release u =>
          refine ⟨fun t isKind => ?_, Climbs.mono climbs fun t owned isKind => ?_⟩
          · rw [← hold_release_of_ne fun same : u = t => other (same ▸ isKind)]
            exact gives t isKind
          · exact ⟨owned, fun same => other ((same : t = u) ▸ isKind)⟩
  constructor
  · intro j t ofKind
    rw [left]
    by_cases same : j = i
    · subst same
      rw [update_self]
      exact own.1 t ofKind
    · rw [update_of_ne same]
      simp only [orderly.owner_of_ne steps same]
      exact orderly.gives j t ofKind
  · intro j
    rw [left]
    by_cases same : j = i
    · subst same
      rw [update_self]
      exact own.2
    · rw [update_of_ne same]
      simp only [orderly.owner_of_ne steps same]
      exact orderly.climbs j

omit [DecidablePred kind] in
theorem Orderly.idle : Orderly kind rank (idle : Contest ι τ) :=
  ⟨fun _ _ _ => by simp [Contest.idle], fun _ => trivial⟩

theorem Reaches.orderly (reaches : Reaches kind allowed idle contest)
    (nests : ∀ acts, allowed acts → Nests kind rank acts) : Orderly kind rank contest := by
  induction reaches with
  | refl => exact .idle
  | tail _ goes ih =>
      cases goes with
      | begin nothing isAllowed => exact ih.begin nothing (nests _ isAllowed)
      | step steps => exact ih.step steps

theorem Reaches.begun (apart : j ≠ i) (first : allowed acts) (second : allowed rest) :
    Reaches kind allowed idle (begun i acts j rest) := by
  have one : Goes kind allowed idle ⟨update (fun _ => []) i acts, fun _ => none⟩ := .begin rfl first
  refine .tail (.single one) (.begin ?_ second)
  dsimp only
  rw [update_of_ne apart]

theorem Reaches.steps {start : Contest ι τ} {order : List ι}
    (reaches : Reaches kind allowed start contest)
    (goes : contest.steps kind order = some later) : Reaches kind allowed start later := by
  induction order generalizing contest with
  | nil =>
      cases goes
      exact reaches
  | cons i order ih =>
      obtain ⟨next, steps, goesOn⟩ := Option.bind_eq_some_iff.mp goes
      exact ih (.tail reaches (.step steps)) goesOn

/-- A thread that cannot go on waits for a thing that another has. -/
theorem Orderly.waits (orderly : Orderly kind rank contest) (busy : contest.left i ≠ [])
    (stuck : contest.step kind i = none) :
    ∃ t rest j, contest.left i = .acquire t :: rest ∧ kind t ∧ contest.owner t = some j ∧
      contest.left j ≠ [] := by
  unfold Contest.step at stuck
  split at stuck
  · contradiction
  · rename_i t rest atHead
    split at stuck
    · rename_i ofKind
      split at stuck
      · contradiction
      · rename_i taken
        obtain ⟨j, owned⟩ := Option.ne_none_iff_exists'.mp taken
        refine ⟨t, rest, j, atHead, ofKind, owned, fun nothing => ?_⟩
        exact orderly.unowned nothing ofKind owned
    · contradiction
  · contradiction

/-- As long as a thread has something left, one of them can go on. -/
theorem Orderly.goesOn [Finite ι] (orderly : Orderly kind rank contest)
    (busy : ∃ i, contest.left i ≠ []) : ∃ i later, contest.step kind i = some later := by
  by_contra none
  have stuck : ∀ i, contest.step kind i = Option.none := by
    intro i
    rw [Option.eq_none_iff_forall_ne_some]
    intro later steps
    exact none ⟨i, later, steps⟩
  choose wanted rest holder atHead ofKind owned busyHolder using
    fun i : { i // contest.left i ≠ [] } => orderly.waits i.2 (stuck i.1)
  have nonempty : Nonempty { i // contest.left i ≠ [] } := busy.elim fun i isBusy => ⟨⟨i, isBusy⟩⟩
  -- The thread that waits for the highest thing waits for one that waits for a higher thing.
  obtain ⟨highest, isHighest⟩ := Finite.exists_max fun i => rank (wanted i)
  let other : { i // contest.left i ≠ [] } := ⟨holder highest, busyHolder highest⟩
  have climbs := orderly.climbs other.1
  rw [atHead other] at climbs
  have higher := climbs.1 (ofKind other) (wanted highest) (owned highest) (ofKind highest)
  exact absurd higher (not_lt.mpr (isHighest other))

/-- What is left for all threads together. -/
theorem step_left_lt [Fintype ι] (steps : contest.step kind i = some later) :
    ∑ j, (later.left j).length < ∑ j, (contest.left j).length := by
  obtain ⟨act, rest, atHead, left, -⟩ := step_cases steps
  refine Finset.sum_lt_sum (fun j _ => ?_) ⟨i, Finset.mem_univ i, ?_⟩
  · rw [left]
    by_cases same : j = i
    · subst same
      rw [update_self, atHead]
      exact Nat.le_succ _
    · rw [update_of_ne same]
  · rw [left, update_self, atHead]
    exact Nat.lt_succ_self _

/-- All threads come to the end of what they do. -/
theorem Orderly.finishes [Finite ι] (orderly : Orderly kind rank contest) :
    ∃ later, contest.Proceeds kind later ∧ (∀ i, later.left i = []) ∧
      ∀ t, kind t → later.owner t = none := by
  have := Fintype.ofFinite ι
  generalize amount : ∑ j, (contest.left j).length = todo
  induction todo using Nat.strong_induction_on generalizing contest with
  | h todo ih =>
      by_cases busy : ∃ i, contest.left i ≠ []
      · obtain ⟨i, next, steps⟩ := orderly.goesOn busy
        obtain ⟨later, proceeds, ends⟩ :=
          ih _ (amount ▸ step_left_lt steps) (orderly.step steps) rfl
        exact ⟨later, .head ⟨i, steps⟩ proceeds, ends⟩
      · have nothing : ∀ i, contest.left i = [] := fun i => by_contra fun isBusy => busy ⟨i, isBusy⟩
        refine ⟨contest, .refl, nothing, fun t ofKind => ?_⟩
        rw [Option.eq_none_iff_forall_ne_some]
        exact fun i => orderly.unowned (nothing i) ofKind

end Contest

end SynapTCP.Data
