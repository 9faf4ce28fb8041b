import SynapTCP.Server.Untimed
import SynapTCP.Threads.Marking

namespace SynapTCP

open Data

/-! # The sessions of a client

Handlers that run in threads work on the object of their client, one behind the other,
and nothing else touches it while the client is there.
-/

namespace Server

variable {server middle after : Server} {ring : List CollectionId} {outcomes : Outcomes}
  {node : CollectionId} {client : ClientId} {socket : Socket}

/-- The client of a node, with its object. -/
def object (server : Server) (node : CollectionId) : Option (ClientId × Socket) :=
  (server.clientAt node).bind fun client => (server.clients.get? client).map (client, ·)

theorem object_eq_some : server.object node = some (client, socket) ↔
    server.clientAt node = some client ∧ server.clients.get? client = some socket := by
  constructor
  · intro here
    obtain ⟨owner, owned, here⟩ := Option.bind_eq_some_iff.mp here
    obtain ⟨found, there, same⟩ := Option.map_eq_some_iff.mp here
    cases same
    exact ⟨owned, there⟩
  · intro both
    rw [object, both.1, Option.bind_some, both.2, Option.map_some]

theorem lt_fresh_of_clientAt (owned : server.clientAt node = some client) :
    node < server.collections.fresh := by
  obtain ⟨collection, found, -⟩ := Option.map_eq_some_iff.mp owned
  exact Arena.lt_fresh_of_get? found

/-- The objects of the nodes that are left are as they were. -/
structure LeavesObjects (before after : Server) : Prop where
  fresh : before.collections.fresh ≤ after.collections.fresh
  object : ∀ node there, node < before.collections.fresh →
    after.object node = some there → before.object node = some there

namespace LeavesObjects

theorem trans (left : LeavesObjects server middle) (right : LeavesObjects middle after) :
    LeavesObjects server after := by
  refine ⟨Nat.le_trans left.fresh right.fresh, fun node there made here => ?_⟩
  exact left.object node there made
    (right.object node there (Nat.lt_of_lt_of_le made left.fresh) here)

theorem of_shrinks (owners : SameOwners server after) (shrinks : Shrinks server after) :
    LeavesObjects server after := by
  refine ⟨owners.fresh, fun node there made here => ?_⟩
  obtain ⟨client, socket⟩ := there
  obtain ⟨owned, found⟩ := object_eq_some.mp here
  exact object_eq_some.mpr ⟨owners.owners node client made owned, shrinks client socket found⟩

theorem of_clients (owners : SameOwners server after) (same : after.clients = server.clients) :
    LeavesObjects server after := by
  refine of_shrinks owners fun client socket there => ?_
  rwa [same] at there

/-- A client that is added is none of those that are there. -/
theorem of_inherits (sound : server.Sound ring) (owners : SameOwners server after)
    (inherits : Inherits server after server.clients.fresh) : LeavesObjects server after := by
  refine ⟨owners.fresh, fun node there made here => ?_⟩
  obtain ⟨client, socket⟩ := there
  obtain ⟨owned, found⟩ := object_eq_some.mp here
  have owns := owners.owners node client made owned
  obtain ⟨object, live⟩ := (sound.sockets client).mpr ⟨node, sound.mem_of_clientAt owns, owns⟩
  rw [inherits.others client (Arena.ne_fresh_of_get? live)] at found
  exact object_eq_some.mpr ⟨owns, found⟩

end LeavesObjects

theorem scan_leavesObjects {scanned : Server × Scanning}
    (scans : server.scan outcomes = some scanned) : LeavesObjects server scanned.1 := by
  obtain ⟨after, scanning⟩ := scanned
  obtain ⟨reaped, -⟩ := scan_found scans
  exact .of_clients (scan_calm scans).toSameOwners reaped.clients

theorem clientEvent_leavesObjects {event : ServerEvent × Server}
    (checks : server.clientEvent node outcomes = some event) : LeavesObjects server event.2 := by
  have owners := (clientEvent_calls checks).1
  rcases clientEvent_clients checks with ⟨-, same⟩ | ⟨-, -, client, -, drops⟩
  · exact .of_clients owners same
  · exact .of_shrinks owners drops.shrinks

theorem outcome_leavesObjects {scanning : Scanning}
    (ran : Serving.outcome server outcomes scanning = some after) :
    LeavesObjects server after := by
  cases scanning with
  | clientEvent node =>
      obtain ⟨event, checks, isAfter⟩ := Option.map_eq_some_iff.mp ran
      cases isAfter
      exact clientEvent_leavesObjects checks
  | idle node tmp =>
      obtain ⟨event, drops, isAfter⟩ := Option.map_eq_some_iff.mp ran
      cases isAfter
      obtain ⟨-, client, dropped⟩ := dropIdle_clients drops
      exact .of_shrinks (dropIdle_calm drops).toSameOwners dropped.shrinks
  | nothing =>
      cases ran
      exact .of_clients (Calm.emit (unlockOf .server)).toSameOwners rfl

/-- A write to the object of one node is one to no other. -/
theorem Sound.object_of_setClient {changed : Socket} {other : CollectionId}
    (sound : server.Sound ring) (owned : server.clientAt node = some client)
    (apart : other ≠ node) :
    ({ server with clients := server.clients.set client changed } : Server).object other =
      server.object other := by
  show (server.clientAt other).bind _ = (server.clientAt other).bind _
  cases owns : server.clientAt other with
  | none => rfl
  | some owner =>
      have different : owner ≠ client := by
        intro same
        exact apart (sound.unique (same ▸ owns) owned)
      show ((server.clients.set client changed).get? owner).map _ = _
      rw [Arena.get?_set_of_ne different]
      rfl

end Server

/-! ## The threads grow older -/

/-- The threads that were there keep their places, and come to no new life. -/
structure Ages (before after : List Thread) : Prop where
  length : before.length ≤ after.length
  old : ∀ (i : Nat) (later : Thread), i < before.length → after[i]? = some later →
    ∃ thread, before[i]? = some thread ∧ thread.place = later.place ∧ (later.Live → thread.Live)

namespace Ages

variable {threads later : List Thread} {thread changed : Thread} {i : Nat}

theorem refl (threads : List Thread) : Ages threads threads :=
  ⟨Nat.le_refl _, fun _ thread _ there => ⟨thread, there, rfl, id⟩⟩

theorem append (started : List Thread) : Ages threads (threads ++ started) := by
  refine ⟨by simp, fun i thread inside there => ?_⟩
  rw [List.getElem?_append_left inside] at there
  exact ⟨thread, there, rfl, id⟩

theorem map {step : Thread → Thread} (place : ∀ thread, (step thread).place = thread.place)
    (phase : ∀ thread, (step thread).phase = thread.phase) : Ages threads (threads.map step) := by
  refine ⟨by simp, fun i later _ there => ?_⟩
  rw [List.getElem?_map] at there
  obtain ⟨thread, found, same⟩ := Option.map_eq_some_iff.mp there
  subst same
  refine ⟨thread, found, (place thread).symm, fun live => ?_⟩
  rwa [Worker.Live, phase] at live

theorem set (there : threads[i]? = some thread) (place : changed.place = thread.place)
    (live : thread.Live) : Ages threads (threads.set i changed) := by
  refine ⟨by simp, fun j later inside found => ?_⟩
  by_cases same : i = j
  · subst same
    rw [List.getElem?_set_self inside, Option.some.injEq] at found
    subst found
    exact ⟨thread, there, place.symm, fun _ => live⟩
  · rw [List.getElem?_set_ne same] at found
    exact ⟨later, found, rfl, id⟩

end Ages

namespace Move

variable {serving later : Serving} {ring : List CollectionId} {node : CollectionId}
  {client owner : ClientId} {socket last : Socket}

/-- What a thread of the node leaves there in this move, with the number of the thread. -/
def handled (serving : Serving) (node : CollectionId) : Move → List (Nat × Socket)
  | .handle i socket =>
      if (serving.threads[i]?).map Worker.place = some node then [(i, socket)] else []
  | _ => []

/-- A thread goes on. -/
theorem advances {i : Nat} {step : Thread → ClientCollection → Option (Server × Thread)}
    (ran : serving.onThread i step = some later) :
    ∃ thread collection after changed, serving.threads[i]? = some thread ∧
      serving.server.collections.get? thread.place = some collection ∧
      step thread collection = some (after, changed) ∧
      later = { serving with server := after, threads := serving.threads.set i changed } := by
  obtain ⟨thread, there, ran⟩ := Option.bind_eq_some_iff.mp ran
  obtain ⟨collection, found, ran⟩ := Option.bind_eq_some_iff.mp ran
  obtain ⟨stepped, steps, result⟩ := Option.bind_eq_some_iff.mp ran
  exact ⟨thread, collection, stepped.1, stepped.2, there, found, steps,
    (Option.some.inj result).symm⟩

theorem ages_of_phase {i : Nat} {phase : Phase} {step : Thread → ClientCollection →
      Option (Server × Thread)} (inPhase : InPhase serving i phase) (live : phase ≠ .ended)
    (place : ∀ thread collection server changed,
      step thread collection = some (server, changed) → changed.place = thread.place)
    (ran : serving.onThread i step = some later) : Ages serving.threads later.threads := by
  obtain ⟨thread, there, isPhase⟩ := inPhase
  obtain ⟨found, collection, after, changed, isFound, -, steps, isLater⟩ := advances ran
  subst isLater
  cases there.symm.trans isFound
  refine Ages.set there (place thread collection after changed steps) ?_
  rw [Worker.Live, isPhase]
  exact live

theorem selected_of_act {outcomes : Outcomes} (ran : (act outcomes).run serving = some later) :
    ∃ scanning, serving.stage = .selected scanning ∧
      serving.act outcomes scanning = some later := by
  simp only [run] at ran
  cases stage : serving.stage with
  | selected scanning =>
      rw [stage] at ran
      exact ⟨scanning, rfl, ran⟩
  | resting =>
      rw [stage] at ran
      contradiction
  | selecting fds =>
      rw [stage] at ran
      contradiction

theorem ages {move : Move} (possible : move.Possible serving)
    (ran : move.run serving = some later) : Ages serving.threads later.threads := by
  cases move with
  | begin =>
      simp only [run, Serving.begin] at ran
      split at ran
      · cases ran
        exact .refl _
      · obtain ⟨filled, -, ran⟩ := Option.bind_eq_some_iff.mp ran
        obtain ⟨server, -, result⟩ := Option.bind_eq_some_iff.mp ran
        cases result
        exact .refl _
  | look outcomes =>
      simp only [run, Serving.look] at ran
      split at ran
      · cases ran
        exact .refl _
      · split at ran
        · obtain ⟨requested, -, result⟩ := Option.map_eq_some_iff.mp ran
          cases result
          exact .refl _
        · obtain ⟨scanned, -, result⟩ := Option.map_eq_some_iff.mp ran
          cases result
          exact .map (fun thread => Data.collected_place) (fun thread => Data.collected_phase)
  | act outcomes =>
      obtain ⟨scanning, -, acts⟩ := selected_of_act ran
      obtain ⟨server, -, result⟩ := Option.map_eq_some_iff.mp acts
      cases result
      exact .append _
  | accept outcomes =>
      obtain ⟨added, -, result⟩ := Option.map_eq_some_iff.mp ran
      cases result
      exact .refl _
  | start i =>
      refine ages_of_phase possible (by decide) (fun thread collection server changed steps => ?_) ran
      cases steps
      rfl
  | handle i socket =>
      refine ages_of_phase possible.1 (by decide) (fun thread collection server changed steps => ?_) ran
      obtain ⟨object, -, result⟩ := Option.map_eq_some_iff.mp steps
      cases result
      rfl
  | finish i now =>
      refine ages_of_phase possible (by decide) (fun thread collection server changed steps => ?_) ran
      cases steps
      rfl
  | leave i =>
      refine ages_of_phase possible (by decide) (fun thread collection server changed steps => ?_) ran
      cases steps
      rfl

/-- In one move an object changes only by what a thread of its node leaves. -/
def WritesObject (serving later : Serving) (node : CollectionId) (left : List (Nat × Socket)) :
    Prop :=
  serving.server.collections.fresh ≤ later.server.collections.fresh ∧
    ∀ owner last, node < serving.server.collections.fresh →
      later.server.object node = some (owner, last) →
      ∃ socket, serving.server.object node = some (owner, socket) ∧
        last = (left.map Prod.snd).getLastD socket

theorem writesObject_of_leavesObjects (leaves : serving.server.LeavesObjects later.server) :
    WritesObject serving later node [] :=
  ⟨leaves.fresh, fun _ last made there => ⟨last, leaves.object node _ made there, rfl⟩⟩

theorem writesObject {move : Move} (kept : serving.Kept ring)
    (ran : move.run serving = some later) :
    WritesObject serving later node (move.handled serving node) := by
  cases move with
  | begin =>
      apply writesObject_of_leavesObjects
      simp only [run, Serving.begin] at ran
      have locked : serving.server.LeavesObjects serving.server.lock :=
        .of_clients (Server.Calm.emit (lockOf .server)).toSameOwners rfl
      split at ran
      · cases ran
        have unlocked := locked.trans (.of_clients
          (@Server.Calm.emit serving.server.lock (unlockOf .server)).toSameOwners rfl)
        exact unlocked
      · obtain ⟨filled, -, ran⟩ := Option.bind_eq_some_iff.mp ran
        obtain ⟨server, fills, result⟩ := Option.bind_eq_some_iff.mp ran
        cases result
        have set : serving.server.lock.LeavesObjects server :=
          .of_clients (Server.fillSet_calm fills).toSameOwners (Server.fillSet_clients fills)
        exact locked.trans set
  | look outcomes =>
      apply writesObject_of_leavesObjects
      simp only [run, Serving.look] at ran
      split at ran
      · cases ran
        exact .of_clients (Server.Calm.emit (unlockOf .server)).toSameOwners rfl
      · split at ran
        · obtain ⟨requested, requests, result⟩ := Option.map_eq_some_iff.mp ran
          cases result
          exact .of_inherits kept.sound (Server.connectRequest_calm requests).toSameOwners
            (Server.connectRequest_clients requests).2
        · obtain ⟨scanned, scans, result⟩ := Option.map_eq_some_iff.mp ran
          cases result
          exact Server.scan_leavesObjects scans
  | act outcomes =>
      apply writesObject_of_leavesObjects
      obtain ⟨scanning, -, acts⟩ := selected_of_act ran
      obtain ⟨server, acted, result⟩ := Option.map_eq_some_iff.mp acts
      cases result
      exact Server.outcome_leavesObjects acted
  | accept outcomes =>
      apply writesObject_of_leavesObjects
      obtain ⟨added, accepts, result⟩ := Option.map_eq_some_iff.mp ran
      cases result
      exact .of_inherits kept.sound (Server.acceptNewClient_calm accepts).toSameOwners
        (Server.acceptNewClient_inherits accepts)
  | start i =>
      apply writesObject_of_leavesObjects
      obtain ⟨thread, collection, after, changed, -, -, steps, isLater⟩ := advances ran
      subst isLater
      cases steps
      exact .of_clients (.refl _) rfl
  | handle i written =>
      obtain ⟨thread, collection, after, changed, there, found, steps, isLater⟩ := advances ran
      subst isLater
      obtain ⟨object, live, result⟩ := Option.map_eq_some_iff.mp steps
      cases result
      have owned := Server.Sound.clientAt_of_get? found
      refine ⟨Nat.le_refl _, fun _ last _ here => ?_⟩
      by_cases same : thread.place = node
      · rw [handled, there, Option.map_some, if_pos (congrArg some same)]
        obtain ⟨owns, isLast⟩ := Server.object_eq_some.mp here
        cases (same ▸ owned).symm.trans owns
        cases (Arena.get?_set_self live).symm.trans isLast
        exact ⟨object, Server.object_eq_some.mpr ⟨same ▸ owned, live⟩, rfl⟩
      · rw [handled, there, Option.map_some, if_neg fun equal => same (Option.some.inj equal)]
        rw [kept.sound.object_of_setClient owned fun equal => same equal.symm] at here
        exact ⟨last, here, rfl⟩
  | finish i now =>
      apply writesObject_of_leavesObjects
      obtain ⟨thread, collection, after, changed, -, found, steps, isLater⟩ := advances ran
      subst isLater
      cases steps
      have owned : serving.server.clientAt thread.place = some collection.client :=
        Server.Sound.clientAt_of_get? found
      refine .of_clients (Server.SameOwners.set ?_ rfl) rfl
      exact owned
  | leave i =>
      apply writesObject_of_leavesObjects
      obtain ⟨thread, collection, after, changed, -, -, steps, isLater⟩ := advances ran
      subst isLater
      cases steps
      exact .of_clients (.refl _) rfl

theorem lives_of_handled {move : Move} {entry : Nat × Socket} (possible : move.Possible serving)
    (member : entry ∈ move.handled serving node) :
    ∃ thread, serving.threads[entry.1]? = some thread ∧ thread.place = node ∧ thread.Live := by
  cases move with
  | handle i written =>
      rw [handled] at member
      split at member
      · rename_i here
        cases List.mem_singleton.mp member
        obtain ⟨thread, there, handling⟩ := possible.1
        rw [there, Option.map_some, Option.some.injEq] at here
        refine ⟨thread, there, here, ?_⟩
        rw [Worker.Live, handling]
        decide
      · contradiction
  | begin | look outcomes | act outcomes | accept outcomes | start i | finish i now | leave i =>
      contradiction

theorem handled_cases (serving : Serving) (node : CollectionId) (move : Move) :
    move.handled serving node = [] ∨ ∃ entry, move.handled serving node = [entry] := by
  cases move with
  | handle i written =>
      rw [handled]
      split
      · exact .inr ⟨_, rfl⟩
      · exact .inl rfl
  | begin | look outcomes | act outcomes | accept outcomes | start i | finish i now | leave i =>
      exact .inl rfl

end Move

/-! ## Runs -/

namespace Serving

variable {serving later : Serving} {ring : List CollectionId} {node : CollectionId}
  {client owner : ClientId} {socket last : Socket} {moves : List Move}

/-- What the threads of the node leave there in a run, one after another. -/
def handled (serving : Serving) (node : CollectionId) : List Move → List (Nat × Socket)
  | [] => []
  | move :: moves =>
      move.handled serving node ++
        ((move.run serving).map fun next => next.handled node moves).getD []

theorem follow_cons {move : Move} (follows : serving.follow (move :: moves) = some later) :
    move.Possible serving ∧ move.Spares serving ∧ ∃ next, move.run serving = some next ∧
      next.follow moves = some later ∧
      serving.handled node (move :: moves) = move.handled serving node ++ next.handled node moves := by
  rw [follow] at follows
  split at follows
  · rename_i meets
    obtain ⟨next, ran, rest⟩ := Option.bind_eq_some_iff.mp follows
    refine ⟨meets.1, meets.2, next, ran, rest, ?_⟩
    rw [handled, ran, Option.map_some, Option.getD_some]
  · contradiction

theorem Kept.next {move : Move} {next : Serving} (kept : serving.Kept ring)
    (possible : move.Possible serving) (spares : move.Spares serving)
    (ran : move.run serving = some next) : ∃ ring, next.Kept ring := by
  obtain ⟨after, result, keptAfter⟩ := kept.step possible spares
  cases ran.symm.trans result
  exact keptAfter

/-- A handler that goes on later is one of a thread that has been going on. -/
theorem lives_of_handled {entry : Nat × Socket} (follows : serving.follow moves = some later)
    (member : entry ∈ serving.handled node moves) (old : entry.1 < serving.threads.length) :
    ∃ thread, serving.threads[entry.1]? = some thread ∧ thread.place = node ∧ thread.Live := by
  induction moves generalizing serving with
  | nil => contradiction
  | cons move moves ih =>
      obtain ⟨possible, spares, next, ran, rest, handled⟩ := follow_cons follows
      rw [handled] at member
      rcases List.mem_append.mp member with now | soon
      · exact Move.lives_of_handled possible now
      · have ages := Move.ages possible ran
        obtain ⟨thread, there, place, live⟩ := ih rest soon (Nat.lt_of_lt_of_le old ages.length)
        obtain ⟨before, found, samePlace, lives⟩ := ages.old entry.1 thread old there
        exact ⟨before, found, samePlace.trans place, lives live⟩

/-- The object of the first client as a handler leaves it. -/
def handedBack (byte : UInt8) : Socket := { Socket.new with sockFd := 5, remainingData := [byte] }

end Serving

end SynapTCP
