import SynapTCP.Threads.Lifetime

namespace SynapTCP

open Data

/-! # Runs of the server with its reception threads -/

variable {serving later : Serving} {ring : List CollectionId} {outcomes : Outcomes}

namespace Serving

/-- A server with no call under way and no thread. -/
def of (server : Server) : Serving := ⟨server, [], .resting⟩

/-- One move that the system allows and that meets its conditions. -/
def Goes (serving later : Serving) : Prop :=
  ∃ move : Move, move.Possible serving ∧ move.Spares serving ∧ move.run serving = some later

def Reaches : Serving → Serving → Prop := Relation.ReflTransGen Goes

theorem Kept.of_new {server : Server} (new : server.New) : ∃ ring, (of server).Kept ring := by
  obtain ⟨ring, sound⟩ := new.wellFormed
  have empty : server.seat = fun _ => none := by
    funext node
    apply Server.seat_of_absent
    rw [new.collections, Arena.get?_empty]
  refine ⟨ring, sound, ?_, trivial⟩
  show Tracked server.seat []
  rw [empty]
  exact .nil

/-- Every such move has an outcome, and keeps the marks. -/
theorem Kept.step {move : Move} (kept : serving.Kept ring) (possible : move.Possible serving)
    (spares : move.Spares serving) : Steps (move.run serving) := by
  cases move with
  | begin => exact kept.begin possible.1
  | look outcomes =>
      simp only [Move.Possible] at possible
      cases stage : serving.stage with
      | selecting fds =>
          rw [stage] at possible
          exact kept.look stage possible.1 possible.2 spares
      | resting =>
          rw [stage] at possible
          contradiction
      | selected scanning =>
          rw [stage] at possible
          contradiction
  | act outcomes =>
      simp only [Move.Possible] at possible
      simp only [Move.Spares] at spares
      simp only [Move.run]
      cases stage : serving.stage with
      | selected scanning =>
          rw [stage] at possible spares
          exact kept.act stage possible spares
      | resting =>
          rw [stage] at possible
          contradiction
      | selecting fds =>
          rw [stage] at possible
          contradiction
  | accept outcomes => exact kept.accept possible.1.1 possible.2 spares
  | start i => exact kept.start possible
  | handle i socket => exact kept.handle possible
  | finish i now => exact kept.finish possible
  | leave i => exact kept.leave possible

theorem Reaches.kept (reaches : serving.Reaches later) (kept : ∃ ring, serving.Kept ring) :
    ∃ ring, later.Kept ring := by
  induction reaches with
  | refl => exact kept
  | tail _ goes ih =>
      obtain ⟨move, possible, spares, ran⟩ := goes
      obtain ⟨ring, kept⟩ := ih
      obtain ⟨after, result, keptAfter⟩ := kept.step possible spares
      rw [ran] at result
      cases result
      exact keptAfter

/-- A client without a thread to wait for is in the set with its own descriptor; one
with a thread that has ended is in it with the pipe that the thread wrote to. -/
def Watches (serving : Serving) : Prop :=
  ∀ fds, serving.stage = .selecting fds → ∀ node collection socket,
    serving.server.collections.get? node = some collection →
    serving.server.clients.get? collection.client = some socket →
    (¬ Awaits serving.threads node → socket.sockFd ∈ fds) ∧
      (Awaits serving.threads node → Move.LetGo serving node → collection.pipe.1 ∈ fds ∧
        ∃ thread ∈ serving.threads, thread.place = node ∧ thread.byte = .written)

/-- A scan that selects no client has consumed the bytes that were reported, and has
found no client idle that has no thread to wait for. -/
def Scans (serving : Serving) : Prop :=
  ∀ outcomes later, (Move.look outcomes).Possible serving → (Move.look outcomes).Spares serving →
    serving.look outcomes = some later → later.stage = .selected .nothing →
    ∀ node collection socket, later.server.collections.get? node = some collection →
      later.server.clients.get? collection.client = some socket →
      (¬ Awaits later.threads node →
        socket.isSocketTimeout outcomes.tv collection.lastActivity = false) ∧
        ∀ before, serving.server.collections.get? node = some before → 0 < before.pipe.1 →
          before.pipe.1 ∈ outcomes.readfds → ¬ Awaits later.threads node

theorem Kept.watches (kept : serving.Kept ring) : serving.Watches := by
  intro fds selecting node collection socket found there
  have isFds := kept.fits
  rw [selecting] at isFds
  have here := Server.seat_of_get? found there
  have marks := kept.tracked.marks node _ here
  have member : node ∈ ring := (kept.sound.live node).mpr ⟨collection, found⟩
  have watched : Seat.watch ⟨socket.sockFd, collection.pipe⟩ ∈ fds := by
    rw [isFds]
    refine List.mem_cons_of_mem _ (List.mem_filterMap.mpr ⟨node, member, ?_⟩)
    rw [Server.watchAt, here, Option.map_some]
  constructor
  · intro none
    rwa [Seat.watch_of_not_marked fun marked => none (marks.mp marked)] at watched
  · intro awaits letGo
    rw [Seat.watch_of_marked (marks.mpr awaits)] at watched
    obtain ⟨thread, inThreads, place, awaited⟩ := awaits
    refine ⟨watched, thread, inThreads, place, ?_⟩
    have orderly := kept.tracked.orderly thread inThreads
    have ended : thread.phase = .ended := not_not.mp (letGo thread inThreads place)
    cases isByte : thread.byte with
    | unwritten =>
        rcases orderly.mp isByte with early | early
        · rw [ended] at early
          contradiction
        · rw [ended] at early
          contradiction
    | written => rfl
    | consumed => exact absurd isByte awaited

theorem Kept.scans (kept : serving.Kept ring) : serving.Scans := by
  intro outcomes later possible spares ran nothing node collection socket found there
  obtain ⟨after, result, ringAfter, keptAfter⟩ := kept.step possible spares
  rw [show (Move.look outcomes).run serving = some later from ran] at result
  cases result
  have marks := keptAfter.tracked.marks node _ (Server.seat_of_get? found there)
  unfold Serving.look at ran
  split at ran
  · cases ran
    contradiction
  · split at ran
    · obtain ⟨requested, -, isLater⟩ := Option.map_eq_some_iff.mp ran
      rw [← isLater] at nothing
      contradiction
    · obtain ⟨⟨scanned, scanning⟩, scans, isLater⟩ := Option.map_eq_some_iff.mp ran
      subst isLater
      cases nothing
      obtain ⟨reaped, -, passes⟩ := Server.scan_reaps kept.sound scans
      have member : node ∈ ring :=
        ((reaped.same.sound kept.sound).live node).mpr ⟨collection, found⟩
      obtain ⟨closed, busy⟩ := passes rfl node member collection socket found there
      constructor
      · intro none
        exact busy (Int.not_lt.mp fun marked => none (marks.mp marked))
      · intro before foundBefore opened reported awaits
        have marked : 0 < collection.pipe.1 := marks.mpr awaits
        rcases reaped.nodes node with same | ⟨_, -, -, -, closedHere⟩
        · rw [show scanned.collections.get? node = some collection from found, foundBefore,
            Option.some.injEq] at same
          subst same
          exact closed opened reported
        · rw [show scanned.collections.get? node = some collection from found,
            Option.some.injEq] at closedHere
          rw [closedHere] at marked
          exact Int.lt_irrefl 0 marked

def serve (serving : Serving) : List Move → Option Serving
  | [] => some serving
  | move :: moves =>
      if move.Possible serving then (move.run serving).bind fun later => later.serve moves
      else none

/-- Moves that also meet their conditions. -/
def follow (serving : Serving) : List Move → Option Serving
  | [] => some serving
  | move :: moves =>
      if move.Possible serving ∧ move.Spares serving then
        (move.run serving).bind fun later => later.follow moves
      else none

theorem reaches_of_follow {moves : List Move} (follows : serving.follow moves = some later) :
    serving.Reaches later := by
  induction moves generalizing serving with
  | nil =>
      cases follows
      exact .refl
  | cons move moves ih =>
      rw [follow] at follows
      split at follows
      · rename_i meets
        obtain ⟨next, ran, rest⟩ := Option.bind_eq_some_iff.mp follows
        exact (Relation.ReflTransGen.single ⟨move, meets.1, meets.2, ran⟩).trans (ih rest)
      · contradiction

/-- A listening server that gives its clients to threads. -/
def threaded : Server :=
  { Server.listening with
    receptionHandlerAsThread := true
    receptionCallbackFunction := some 0 }

theorem threaded_new : threaded.New := ⟨rfl, rfl, rfl, rfl⟩

def asking : Outcomes :=
  { Server.quiet with ret := 1, readfds := [3], connFd := 5, peer := ⟨4000, [10, 0, 0, 1]⟩ }

def heard : Outcomes :=
  { Server.quiet with
    ret := 1, readfds := [5], inputBytes := true, pipe := some (7, 8), thread := some 1 }

def told : Outcomes := { Server.quiet with ret := 1, readfds := [7] }

end Serving

end SynapTCP
