import Mathlib.Data.List.Basic
import Mathlib.Logic.Function.Basic
import Mathlib.Tactic.Common

namespace SynapTCP.Data

/-! # Workers and the marks of their places

A table of places.  Each has a descriptor of its own and a pipe that marks it
while a worker that was started for it has not been collected.  Workers write
one byte when they are done and let go of their place afterwards.
-/

structure Seat where
  fd : Int
  pipe : Int × Int
deriving DecidableEq

def Seat.Marked (seat : Seat) : Prop := 0 < seat.pipe.1

instance (seat : Seat) : Decidable seat.Marked := inferInstanceAs (Decidable (0 < seat.pipe.1))

/-- The descriptor to wait for: that of the place, or of its worker's end. -/
def Seat.watch (seat : Seat) : Int := if seat.Marked then seat.pipe.1 else seat.fd

theorem Seat.watch_of_marked {seat : Seat} (marked : seat.Marked) : seat.watch = seat.pipe.1 :=
  if_pos marked

theorem Seat.watch_of_not_marked {seat : Seat} (unmarked : ¬ seat.Marked) :
    seat.watch = seat.fd :=
  if_neg unmarked

inductive Phase where
  | starting
  | handling
  | finishing
  | ended
deriving DecidableEq

/-- What became of the byte that a worker writes. -/
inductive Byte where
  | unwritten
  | written
  | consumed
deriving DecidableEq

structure Worker (ι : Type*) where
  place : ι
  phase : Phase
  byte : Byte
deriving DecidableEq

variable {ι : Type*}

namespace Worker

variable {worker : Worker ι}

/-- It will still access its place. -/
def Live (worker : Worker ι) : Prop := worker.phase ≠ .ended

/-- Its byte is not yet consumed. -/
def Awaited (worker : Worker ι) : Prop := worker.byte ≠ .consumed

def Busy (worker : Worker ι) : Prop := worker.Live ∨ worker.Awaited

/-- The byte is there from the end of the handler on. -/
def Orderly (worker : Worker ι) : Prop :=
  worker.byte = .unwritten ↔ worker.phase = .starting ∨ worker.phase = .handling

instance : Decidable worker.Live := inferInstanceAs (Decidable (_ ≠ _))

instance : Decidable worker.Awaited := inferInstanceAs (Decidable (_ ≠ _))

instance : Decidable worker.Busy := inferInstanceAs (Decidable (_ ∨ _))

end Worker

/-- The place has the descriptor, for itself or to be told of its worker's end. -/
def Names (seats : ι → Option Seat) (place : ι) (fd : Int) : Prop :=
  ∃ seat, seats place = some seat ∧ 0 < fd ∧ (seat.fd = fd ∨ seat.pipe.1 = fd)

instance (seats : ι → Option Seat) (place : ι) (fd : Int) : Decidable (Names seats place fd) :=
  inferInstanceAs (Decidable (∃ seat ∈ seats place, _))

/-- The place has a worker whose byte is not yet consumed. -/
def Awaits (workers : List (Worker ι)) (place : ι) : Prop :=
  ∃ worker ∈ workers, worker.place = place ∧ worker.Awaited

/-- No worker of the place is left. -/
def Spare (workers : List (Worker ι)) (place : ι) : Prop :=
  ∀ worker ∈ workers, worker.Busy → worker.place ≠ place

/-- The marks tell of the workers. -/
structure Tracked (seats : ι → Option Seat) (workers : List (Worker ι)) : Prop where
  marks : ∀ place seat, seats place = some seat → (seat.Marked ↔ Awaits workers place)
  ends : ∀ place seat, seats place = some seat → seat.Marked → 0 < seat.pipe.2
  alone : ∀ (i j : Nat) (left right : Worker ι), workers[i]? = some left → workers[j]? = some right →
    left.Busy → right.Busy → left.place = right.place → i = j
  there : ∀ worker ∈ workers, worker.Busy → ∃ seat, seats worker.place = some seat
  orderly : ∀ worker ∈ workers, worker.Orderly
  apart : ∀ place other fd, Names seats place fd → Names seats other fd → place = other
  own : ∀ place seat, seats place = some seat → seat.Marked → seat.fd ≠ seat.pipe.1

section

variable {seats later : ι → Option Seat} {workers : List (Worker ι)} {place other : ι}
  {seat : Seat} {worker changed : Worker ι} {fd : Int} {i : Nat}

namespace Tracked

theorem nil : Tracked (fun _ => none) ([] : List (Worker ι)) where
  marks _ _ absent := by contradiction
  ends _ _ absent := by contradiction
  alone _ _ _ _ absent := by contradiction
  there _ member := by contradiction
  orderly _ member := by contradiction
  apart _ _ _ names := by
    obtain ⟨_, absent, -⟩ := names
    contradiction
  own _ _ absent := by contradiction

theorem same_worker (tracked : Tracked seats workers) (left : worker ∈ workers)
    (right : changed ∈ workers) (busy : worker.Busy) (busyToo : changed.Busy)
    (place : worker.place = changed.place) : worker = changed := by
  obtain ⟨i, there⟩ := List.mem_iff_getElem?.mp left
  obtain ⟨j, thereToo⟩ := List.mem_iff_getElem?.mp right
  have same := tracked.alone i j worker changed there thereToo busy busyToo place
  rw [same, thereToo] at there
  exact (Option.some.inj there).symm

end Tracked

/-- What a place names it named before. -/
theorem Names.of_eq (same : later place = seats place) (names : Names later place fd) :
    Names seats place fd := by
  unfold Names at *
  rw [← same]
  exact names

theorem Names.of_update [DecidableEq ι] {value : Option Seat} (different : other ≠ place)
    (names : Names (Function.update seats place value) other fd) : Names seats other fd :=
  names.of_eq (Function.update_of_ne different value seats)

theorem getElem?_concat {last : Worker ι} (there : (workers ++ [last])[i]? = some worker) :
    workers[i]? = some worker ∨ i = workers.length ∧ worker = last := by
  rcases Nat.lt_or_ge i workers.length with inside | beyond
  · rw [List.getElem?_append_left inside] at there
    exact .inl there
  · rw [List.getElem?_append_right beyond, List.getElem?_singleton] at there
    split at there
    · exact .inr ⟨by omega, (Option.some.inj there).symm⟩
    · contradiction

/-! ## Places that change -/

namespace Tracked

theorem spare_of_absent (tracked : Tracked seats workers) (absent : seats place = none) :
    Spare workers place := by
  intro worker member busy same
  obtain ⟨seat, there⟩ := tracked.there worker member busy
  rw [same, absent] at there
  contradiction

theorem not_awaits_of_spare (spare : Spare workers place) : ¬ Awaits workers place := by
  intro awaits
  obtain ⟨worker, member, here, awaited⟩ := awaits
  exact spare worker member (.inr awaited) here

variable [DecidableEq ι]

/-- A place without a worker goes. -/
theorem remove (tracked : Tracked seats workers) (spare : Spare workers place) :
    Tracked (Function.update seats place none) workers := by
  have kept : ∀ other seat, Function.update seats place none other = some seat →
      seats other = some seat := by
    intro other seat there
    by_cases same : other = place
    · rw [same, Function.update_self] at there
      contradiction
    · rwa [Function.update_of_ne same] at there
  have named : ∀ other fd, Names (Function.update seats place none) other fd →
      Names seats other fd := by
    intro other fd names
    obtain ⟨seat, there, rest⟩ := names
    exact ⟨seat, kept other seat there, rest⟩
  refine ⟨?_, ?_, tracked.alone, ?_, tracked.orderly, ?_, ?_⟩
  · intro other seat there
    exact tracked.marks other seat (kept other seat there)
  · intro other seat there
    exact tracked.ends other seat (kept other seat there)
  · intro worker member busy
    obtain ⟨seat, there⟩ := tracked.there worker member busy
    exact ⟨seat, by rw [Function.update_of_ne (spare worker member busy), there]⟩
  · intro left right fd leftNames rightNames
    exact tracked.apart left right fd (named left fd leftNames) (named right fd rightNames)
  · intro other seat there
    exact tracked.own other seat (kept other seat there)

/-- A place that is put in with what it names before, or what no place names. -/
theorem update (tracked : Tracked seats workers) (workers' : List (Worker ι))
    (fresh : ∀ fd, Names (Function.update seats place (some seat)) place fd →
      ∀ other, other ≠ place → ¬ Names seats other fd)
    (marks : seat.Marked ↔ Awaits workers' place)
    (others : ∀ other, other ≠ place → (Awaits workers' other ↔ Awaits workers other))
    (ends : seat.Marked → 0 < seat.pipe.2) (own : seat.Marked → seat.fd ≠ seat.pipe.1)
    (alone : ∀ (i j : Nat) (left right : Worker ι), workers'[i]? = some left →
      workers'[j]? = some right → left.Busy → right.Busy → left.place = right.place → i = j)
    (there : ∀ worker ∈ workers', worker.Busy → worker.place = place ∨ worker ∈ workers)
    (orderly : ∀ worker ∈ workers', worker.Orderly) :
    Tracked (Function.update seats place (some seat)) workers' := by
  refine ⟨?_, ?_, alone, ?_, orderly, ?_, ?_⟩
  · intro other value found
    by_cases same : other = place
    · rw [same, Function.update_self] at found
      cases found
      rw [same, marks]
    · rw [Function.update_of_ne same] at found
      rw [others other same, tracked.marks other value found]
  · intro other value found
    by_cases same : other = place
    · rw [same, Function.update_self] at found
      cases found
      exact ends
    · rw [Function.update_of_ne same] at found
      exact tracked.ends other value found
  · intro worker member busy
    by_cases same : worker.place = place
    · exact ⟨seat, by rw [same, Function.update_self]⟩
    · rw [Function.update_of_ne same]
      exact tracked.there worker ((there worker member busy).resolve_left same) busy
  · intro left right fd leftNames rightNames
    by_cases sameLeft : left = place
    · by_cases sameRight : right = place
      · rw [sameLeft, sameRight]
      · rw [sameLeft] at leftNames
        exact absurd (rightNames.of_update sameRight) (fresh fd leftNames right sameRight)
    · by_cases sameRight : right = place
      · rw [sameRight] at rightNames
        exact absurd (leftNames.of_update sameLeft) (fresh fd rightNames left sameLeft)
      · exact tracked.apart left right fd (leftNames.of_update sameLeft)
          (rightNames.of_update sameRight)
  · intro other value found
    by_cases same : other = place
    · rw [same, Function.update_self] at found
      cases found
      exact own
    · rw [Function.update_of_ne same] at found
      exact tracked.own other value found

/-- A new place, with a descriptor that no place has. -/
theorem add (tracked : Tracked seats workers) (absent : seats place = none)
    (fresh : ∀ other, ¬ Names seats other fd) :
    Tracked (Function.update seats place (some ⟨fd, 0, 0⟩)) workers := by
  have unmarked : ¬ Seat.Marked ⟨fd, 0, 0⟩ := Int.lt_irrefl 0
  have idle := not_awaits_of_spare (tracked.spare_of_absent absent)
  refine tracked.update workers ?_ (iff_of_false unmarked idle) (fun _ _ => Iff.rfl)
    (fun marked => absurd marked unmarked) (fun marked => absurd marked unmarked) tracked.alone
    (fun _ member _ => .inr member) tracked.orderly
  intro other names third _
  obtain ⟨value, found, positive, named⟩ := names
  rw [Function.update_self] at found
  cases found
  rcases named with same | same
  · exact same ▸ fresh third
  · rw [← same] at positive
    exact absurd positive (Int.lt_irrefl 0)

/-- A place that has no worker to wait for stays without a mark. -/
theorem unmark (tracked : Tracked seats workers) (found : seats place = some seat)
    (unmarked : ¬ seat.Marked) :
    Tracked (Function.update seats place (some { seat with pipe := (0, 0) })) workers := by
  have still : ¬ Seat.Marked { seat with pipe := (0, 0) } := Int.lt_irrefl 0
  have idle : ¬ Awaits workers place := fun awaits =>
    unmarked ((tracked.marks place seat found).mpr awaits)
  refine tracked.update workers ?_ (iff_of_false still idle) (fun _ _ => Iff.rfl)
    (fun marked => absurd marked still) (fun marked => absurd marked still) tracked.alone
    (fun _ member _ => .inr member) tracked.orderly
  intro fd names other different namesOther
  obtain ⟨value, foundValue, positive, named⟩ := names
  rw [Function.update_self] at foundValue
  cases foundValue
  rcases named with same | same
  · exact different (tracked.apart other place fd namesOther ⟨seat, found, positive, .inl same⟩)
  · rw [← same] at positive
    exact absurd positive (Int.lt_irrefl 0)

/-- A worker is started for a place that has none. -/
theorem start {pipe : Int × Int} (tracked : Tracked seats workers)
    (found : seats place = some seat) (spare : Spare workers place)
    (readEnd : 0 < pipe.1) (writeEnd : 0 < pipe.2) (fresh : ∀ other, ¬ Names seats other pipe.1) :
    Tracked (Function.update seats place (some { seat with pipe }))
      (workers ++ [⟨place, .starting, .unwritten⟩]) := by
  have awaited : Awaits (workers ++ [⟨place, .starting, .unwritten⟩]) place :=
    ⟨_, List.mem_append_right _ (.head _), rfl, nofun⟩
  refine tracked.update _ ?_ (iff_of_true readEnd awaited) ?_ (fun _ => writeEnd) ?_ ?_ ?_ ?_
  · intro fd names other different namesOther
    obtain ⟨value, foundValue, positive, named⟩ := names
    rw [Function.update_self] at foundValue
    cases foundValue
    rcases named with same | same
    · exact different (tracked.apart other place fd namesOther ⟨seat, found, positive, .inl same⟩)
    · exact fresh other (same ▸ namesOther)
  · intro other different
    constructor
    · intro awaits
      obtain ⟨worker, member, here, waits⟩ := awaits
      rcases List.mem_append.mp member with old | new
      · exact ⟨worker, old, here, waits⟩
      · rw [List.mem_singleton.mp new] at here
        exact absurd here.symm different
    · intro awaits
      obtain ⟨worker, member, here, waits⟩ := awaits
      exact ⟨worker, List.mem_append_left _ member, here, waits⟩
  · intro _ same
    exact fresh place (same ▸ ⟨seat, found, same ▸ readEnd, .inl rfl⟩)
  · intro i j left right leftThere rightThere leftBusy rightBusy same
    rcases getElem?_concat leftThere with leftOld | ⟨leftLast, leftNew⟩
    · rcases getElem?_concat rightThere with rightOld | ⟨-, rightNew⟩
      · exact tracked.alone i j left right leftOld rightOld leftBusy rightBusy same
      · rw [rightNew] at same
        exact absurd same (spare left (List.mem_of_getElem? leftOld) leftBusy)
    · rcases getElem?_concat rightThere with rightOld | ⟨rightLast, -⟩
      · rw [leftNew] at same
        exact absurd same.symm (spare right (List.mem_of_getElem? rightOld) rightBusy)
      · rw [leftLast, rightLast]
  · intro worker member _
    rcases List.mem_append.mp member with old | new
    · exact .inr old
    · exact .inl (by rw [List.mem_singleton.mp new])
  · intro worker member
    rcases List.mem_append.mp member with old | new
    · exact tracked.orderly worker old
    · rw [List.mem_singleton.mp new]
      exact iff_of_true rfl (.inl rfl)

end Tracked

/-! ## Workers that come to their end -/

def markedAt (seats : ι → Option Seat) (place : ι) : Bool :=
  (seats place).any fun seat => decide seat.Marked

/-- The byte of a worker is consumed where the mark of its place goes. -/
def Worker.collected (seats later : ι → Option Seat) (worker : Worker ι) : Worker ι :=
  if worker.byte = .written ∧ markedAt seats worker.place ∧ ¬ markedAt later worker.place then
    { worker with byte := .consumed }
  else worker

/-- Marks go, each where a byte was written. -/
def Closes (seats later : ι → Option Seat) (workers : List (Worker ι)) : Prop :=
  ∀ place, later place = seats place ∨
    ∃ seat, seats place = some seat ∧ seat.Marked ∧
      later place = some { seat with pipe := (0, 0) } ∧
      ∃ worker ∈ workers, worker.place = place ∧ worker.byte = .written

@[simp] theorem collected_place : (worker.collected seats later).place = worker.place := by
  unfold Worker.collected
  split <;> rfl

@[simp] theorem collected_phase : (worker.collected seats later).phase = worker.phase := by
  unfold Worker.collected
  split <;> rfl

theorem collected_of_same (same : later worker.place = seats worker.place) :
    worker.collected seats later = worker := by
  unfold Worker.collected markedAt
  rw [same]
  split
  · rename_i changes
    exact absurd changes.2.1 changes.2.2
  · rfl

theorem awaited_of_collected (awaited : (worker.collected seats later).Awaited) :
    worker.Awaited := by
  unfold Worker.collected at awaited
  split at awaited
  · exact absurd rfl awaited
  · exact awaited

theorem busy_of_collected (busy : (worker.collected seats later).Busy) : worker.Busy := by
  rcases busy with live | awaited
  · left
    unfold Worker.Live at *
    rwa [collected_phase] at live
  · exact .inr (awaited_of_collected awaited)

theorem collected_orderly (orderly : worker.Orderly) :
    (worker.collected seats later).Orderly := by
  unfold Worker.collected
  split
  · rename_i changes
    unfold Worker.Orderly at *
    rw [changes.1] at orderly
    exact iff_of_false nofun fun early => nomatch orderly.mpr early
  · exact orderly

theorem Closes.names (closes : Closes seats later workers) (names : Names later place fd) :
    Names seats place fd := by
  rcases closes place with same | ⟨seat, found, -, changed, -⟩
  · exact names.of_eq same
  · obtain ⟨value, foundValue, positive, named⟩ := names
    rw [changed] at foundValue
    cases foundValue
    rcases named with same | same
    · exact ⟨seat, found, positive, .inl same⟩
    · rw [← same] at positive
      exact absurd positive (Int.lt_irrefl 0)

namespace Tracked

theorem collect (tracked : Tracked seats workers) (closes : Closes seats later workers) :
    Tracked later (workers.map (Worker.collected seats later)) := by
  refine ⟨?_, ?_, ?_, ?_, ?_, ?_, ?_⟩
  · intro place seat there
    rcases closes place with same | ⟨before, found, marked, changed, worker, member, here, wrote⟩
    · rw [tracked.marks place seat (same ▸ there)]
      constructor
      · intro awaits
        obtain ⟨worker, member, here, awaited⟩ := awaits
        refine ⟨_, List.mem_map_of_mem member, by rw [collected_place, here], ?_⟩
        rwa [collected_of_same (here ▸ same)]
      · intro awaits
        obtain ⟨changed, member, here, awaited⟩ := awaits
        obtain ⟨worker, old, isChanged⟩ := List.mem_map.mp member
        subst isChanged
        exact ⟨worker, old, by rwa [collected_place] at here, awaited_of_collected awaited⟩
    · rw [changed] at there
      cases there
      refine iff_of_false (Int.lt_irrefl 0) ?_
      intro awaits
      obtain ⟨other, otherMember, otherHere, otherAwaited⟩ := awaits
      obtain ⟨old, oldMember, isOther⟩ := List.mem_map.mp otherMember
      subst isOther
      rw [collected_place] at otherHere
      have awaited : worker.Awaited := by
        unfold Worker.Awaited
        rw [wrote]
        nofun
      have same := tracked.same_worker oldMember member
        (.inr (awaited_of_collected otherAwaited)) (.inr awaited) (otherHere.trans here.symm)
      subst same
      unfold Worker.collected markedAt at otherAwaited
      rw [otherHere, found, changed] at otherAwaited
      rw [if_pos ⟨wrote, by simpa using marked, by simp [Seat.Marked]⟩] at otherAwaited
      exact absurd rfl otherAwaited
  · intro place seat there
    rcases closes place with same | ⟨before, -, -, changed, -⟩
    · exact tracked.ends place seat (same ▸ there)
    · rw [changed] at there
      cases there
      exact fun marked => absurd marked (Int.lt_irrefl 0)
  · intro i j left right leftThere rightThere leftBusy rightBusy same
    rw [List.getElem?_map] at leftThere rightThere
    obtain ⟨oldLeft, leftFound, isLeft⟩ := Option.map_eq_some_iff.mp leftThere
    obtain ⟨oldRight, rightFound, isRight⟩ := Option.map_eq_some_iff.mp rightThere
    subst isLeft isRight
    rw [collected_place, collected_place] at same
    exact tracked.alone i j oldLeft oldRight leftFound rightFound (busy_of_collected leftBusy)
      (busy_of_collected rightBusy) same
  · intro changed member busy
    obtain ⟨worker, old, isChanged⟩ := List.mem_map.mp member
    subst isChanged
    rw [collected_place]
    obtain ⟨seat, found⟩ := tracked.there worker old (busy_of_collected busy)
    rcases closes worker.place with same | ⟨before, -, -, changed, -⟩
    · exact ⟨seat, same.trans found⟩
    · exact ⟨_, changed⟩
  · intro changed member
    obtain ⟨worker, old, isChanged⟩ := List.mem_map.mp member
    subst isChanged
    exact collected_orderly (tracked.orderly worker old)
  · intro left right fd leftNames rightNames
    exact tracked.apart left right fd (closes.names leftNames) (closes.names rightNames)
  · intro place seat there
    rcases closes place with same | ⟨before, -, -, changed, -⟩
    · exact tracked.own place seat (same ▸ there)
    · rw [changed] at there
      cases there
      exact fun marked => absurd marked (Int.lt_irrefl 0)

theorem advance (tracked : Tracked seats workers) (found : workers[i]? = some worker)
    (place : changed.place = worker.place) (awaited : changed.Awaited ↔ worker.Awaited)
    (busy : changed.Busy → worker.Busy) (orderly : changed.Orderly) :
    Tracked seats (workers.set i changed) := by
  have inside : i < workers.length := (List.getElem?_eq_some_iff.mp found).1
  have before : ∀ (j : Nat) (next : Worker ι), (workers.set i changed)[j]? = some next →
      ∃ old, workers[j]? = some old ∧ next.place = old.place ∧
        (next.Awaited → old.Awaited) ∧ (next.Busy → old.Busy) ∧
        (next.Orderly) := by
    intro j next there
    by_cases same : i = j
    · rw [← same, List.getElem?_set_self inside] at there
      cases there
      exact ⟨worker, same ▸ found, place, awaited.mp, busy, orderly⟩
    · rw [List.getElem?_set_ne same] at there
      exact ⟨next, there, rfl, id, id, tracked.orderly next (List.mem_of_getElem? there)⟩
  have awaits : ∀ place, Awaits (workers.set i changed) place ↔ Awaits workers place := by
    intro other
    constructor
    · intro awaits
      obtain ⟨next, member, here, waits⟩ := awaits
      obtain ⟨j, there⟩ := List.mem_iff_getElem?.mp member
      obtain ⟨old, foundOld, samePlace, waitsOld, -⟩ := before j next there
      exact ⟨old, List.mem_of_getElem? foundOld, samePlace ▸ here, waitsOld waits⟩
    · intro awaits
      obtain ⟨old, member, here, waits⟩ := awaits
      obtain ⟨j, there⟩ := List.mem_iff_getElem?.mp member
      by_cases same : i = j
      · rw [← same, found] at there
        cases there
        exact ⟨changed, List.mem_set inside changed, place.trans here, awaited.mpr waits⟩
      · have kept : (workers.set i changed)[j]? = some old := by
          rw [List.getElem?_set_ne same, there]
        exact ⟨old, List.mem_of_getElem? kept, here, waits⟩
  refine ⟨?_, tracked.ends, ?_, ?_, ?_, tracked.apart, tracked.own⟩
  · intro other seat there
    rw [awaits, tracked.marks other seat there]
  · intro j k left right leftThere rightThere leftBusy rightBusy same
    obtain ⟨oldLeft, leftFound, leftPlace, -, leftStill, -⟩ := before j left leftThere
    obtain ⟨oldRight, rightFound, rightPlace, -, rightStill, -⟩ := before k right rightThere
    rw [leftPlace, rightPlace] at same
    exact tracked.alone j k oldLeft oldRight leftFound rightFound (leftStill leftBusy)
      (rightStill rightBusy) same
  · intro next member nextBusy
    obtain ⟨j, there⟩ := List.mem_iff_getElem?.mp member
    obtain ⟨old, foundOld, samePlace, -, still, -⟩ := before j next there
    rw [samePlace]
    exact tracked.there old (List.mem_of_getElem? foundOld) (still nextBusy)
  · intro next member
    obtain ⟨j, there⟩ := List.mem_iff_getElem?.mp member
    obtain ⟨-, -, -, -, -, isOrderly⟩ := before j next there
    exact isOrderly

/-- A place gives up its own descriptor. -/
theorem giveUp [DecidableEq ι] (tracked : Tracked seats workers) (found : seats place = some seat)
    (closed : fd ≤ 0) :
    Tracked (Function.update seats place (some { seat with fd })) workers := by
  refine tracked.update workers ?_ (tracked.marks place seat found) (fun _ _ => Iff.rfl)
    (tracked.ends place seat found) ?_ tracked.alone (fun _ member _ => .inr member)
    tracked.orderly
  · intro named names other different namesOther
    obtain ⟨value, foundValue, positive, same⟩ := names
    rw [Function.update_self] at foundValue
    cases foundValue
    rcases same with same | same
    · have isFd : fd = named := same
      omega
    · exact different (tracked.apart other place named namesOther ⟨seat, found, positive, .inr same⟩)
  · intro marked same
    have positive : 0 < seat.pipe.1 := marked
    have isFd : fd = seat.pipe.1 := same
    omega

end Tracked

end

end SynapTCP.Data
