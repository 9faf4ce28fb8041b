import SynapTCP.Data.Choice
import SynapTCP.Threads.Seats

namespace SynapTCP

open Data

/-! # Which client a check selects

The scan of `eventCheck` as a choice from the ring: it depends on what is to be seen
of each node before the scan, since closing the pipe of a finished thread changes
nothing that is looked at later.
-/

/-- The choice that the end of a scan stands for. -/
def Scanning.choice : Scanning → Choice CollectionId
  | .clientEvent node => .serve node
  | .idle node _ => .drop node
  | .nothing => .pass

namespace Server

variable {server middle after : Server} {outcomes : Outcomes} {front back ring : List CollectionId}
  {cList node : CollectionId} {collection : ClientCollection} {socket : Socket} {fuel : Nat}

/-- What the scan sees of a node.  The pipe is closed by then if its descriptor is
in the set. -/
def sight (server : Server) (outcomes : Outcomes) (node : CollectionId) : Sight :=
  match server.collections.get? node with
  | none => ⟨false, false, false⟩
  | some collection =>
      match server.clients.get? collection.client with
      | none => ⟨false, false, false⟩
      | some socket =>
          ⟨server.client = some collection.client, socket.sockFd ∈ outcomes.readfds,
            (collection.pipe.1 ≤ 0 ∨ collection.pipe.1 ∈ outcomes.readfds) ∧
              socket.isSocketTimeout outcomes.tv collection.lastActivity⟩

theorem sight_of_get? (found : server.collections.get? node = some collection)
    (there : server.clients.get? collection.client = some socket) :
    server.sight outcomes node =
      ⟨server.client = some collection.client, socket.sockFd ∈ outcomes.readfds,
        (collection.pipe.1 ≤ 0 ∨ collection.pipe.1 ∈ outcomes.readfds) ∧
          socket.isSocketTimeout outcomes.tv collection.lastActivity⟩ := by
  unfold sight
  rw [found]
  dsimp only
  rw [there]

/-- Closing pipes changes nothing of what the scan sees. -/
theorem Reaped.sight (reaped : Reaped outcomes server after) (node : CollectionId) :
    after.sight outcomes node = server.sight outcomes node := by
  have active : after.client = server.client := congrArg TCPServer.client reaped.server
  rcases reaped.nodes node with same | ⟨collection, found, opened, reported, closed⟩
  · unfold Server.sight
    rw [same, reaped.clients, active]
  · unfold Server.sight
    rw [found, closed, reaped.clients, active]
    dsimp only
    cases server.clients.get? collection.client with
    | none => rfl
    | some socket => simp [reported]

/-- At a node whose pipe has been looked at, none is left that is in the set. -/
theorem reap_settled {before : ClientCollection}
    (foundBefore : server.collections.get? cList = some before)
    (found : (server.reap cList before outcomes.readfds).collections.get? cList = some collection) :
    (collection.pipe.1 ≤ 0 ∨ collection.pipe.1 ∈ outcomes.readfds) ↔ collection.pipe.1 ≤ 0 := by
  refine ⟨fun either => ?_, .inl⟩
  rcases either with closed | reported
  · exact closed
  · by_contra opened
    unfold reap at found
    split at found
    · rw [emit_collections, Arena.get?_set_self foundBefore] at found
      cases found
      exact opened (Int.le_refl 0)
    · rename_i unreported
      rw [foundBefore] at found
      cases found
      exact unreported ⟨Int.not_le.mp opened, reported⟩

theorem Deferred.choice {tmp : Option CollectionId} {scanning : Scanning} {middle : Server}
    (deferred : middle.Deferred outcomes tmp scanning) (reaped : Reaped outcomes server middle) :
    scanning.choice = chooseFrom (server.sight outcomes) tmp [] := by
  cases tmp with
  | none =>
      cases deferred
      rfl
  | some i =>
      obtain ⟨active, object, found, there, same⟩ := deferred
      have seen := (reaped.sight i).symm.trans (sight_of_get? found there)
      subst same
      rw [chooseFrom]
      simp only [seen, decide_eq_true_eq]
      split <;> rfl

/-- One node of the scan as one of the choice. -/
theorem scanLoop_turn {tmp : Option CollectionId} {scanning : Scanning}
    (result : server.scanLoop outcomes tmp (fuel + 1) cList = some (after, scanning)) :
    ∃ middle, Reaped outcomes server middle ∧
      (∀ rest, (server.sight outcomes cList).Stops →
        scanning.choice = chooseFrom (server.sight outcomes) tmp (cList :: rest)) ∧
      (¬ (server.sight outcomes cList).Stops →
        (middle.next cList = server.clientList ∧
          scanning.choice = chooseFrom (server.sight outcomes)
            (if (server.sight outcomes cList).active then some cList else tmp) []) ∨
        ∃ behind, middle.next cList = some behind ∧ some behind ≠ server.clientList ∧
          middle.scanLoop outcomes
            (if (server.sight outcomes cList).active then some cList else tmp) fuel behind =
              some (after, scanning)) := by
  obtain ⟨before, middle, collection, socket, foundBefore, reaps, found, there, turn⟩ :=
    scanLoop_succ result
  have reaped : Reaped outcomes server middle := reaps ▸ .reap foundBefore
  have seen := (reaped.sight cList).symm.trans (sight_of_get? found there)
  have closed := @reap_settled server outcomes cList collection before foundBefore
    (by rw [reaps, found])
  simp only [closed] at seen
  have active : (server.sight outcomes cList).active = true ↔
      middle.client = some collection.client := by simp [seen]
  have ready : ((server.sight outcomes cList).active = false ∧
      (server.sight outcomes cList).readable = true) ↔
      (middle.client ≠ some collection.client ∧ socket.sockFd ∈ outcomes.readfds) := by simp [seen]
  have idle : (server.sight outcomes cList).expired = true ↔
      (collection.pipe.1 ≤ 0 ∧
        socket.isSocketTimeout outcomes.tv collection.lastActivity = true) := by simp [seen]
  refine ⟨middle, reaped, ?_⟩
  rcases turn with ⟨isReady, -, isEvent⟩ |
    ⟨unready, behind, link, ⟨isIdle, -, isScanning⟩ | ⟨busy, goes⟩⟩
  · refine ⟨fun rest _ => ?_, fun goes => absurd (.inl (ready.mpr isReady)) goes⟩
    rw [chooseFrom, if_pos (ready.mpr isReady), isEvent]
    rfl
  · refine ⟨fun rest _ => ?_, fun goes => absurd (.inr (idle.mpr isIdle)) goes⟩
    rw [chooseFrom, if_neg (fun is => unready (ready.mp is)), if_pos (idle.mpr isIdle), isScanning]
    rfl
  · refine ⟨fun rest stops => ?_, fun _ => ?_⟩
    · rcases stops with is | is
      · exact absurd (ready.mp is) unready
      · exact absurd (idle.mp is) busy
    · have linked : middle.next cList = some behind := (Sound.next_of_get? found).trans link
      have list : middle.clientList = server.clientList :=
        congrArg TCPServer.clientList reaped.server
      simp only [active]
      rw [← list]
      rcases goes with ⟨last, -, deferred⟩ | ⟨further, goes⟩
      · exact .inl ⟨linked.trans last, deferred.choice reaped⟩
      · exact .inr ⟨behind, linked, further, goes⟩

theorem Reaped.sight_eq (reaped : Reaped outcomes server after) :
    after.sight outcomes = server.sight outcomes := funext reaped.sight

theorem scanLoop_choice {tmp : Option CollectionId} {scanning : Scanning}
    (sound : server.Sound (front ++ cList :: back))
    (result : server.scanLoop outcomes tmp fuel cList = some (after, scanning)) :
    scanning.choice = chooseFrom (server.sight outcomes) tmp (cList :: back) := by
  induction back generalizing server front cList tmp fuel with
  | nil =>
      cases fuel with
      | zero => contradiction
      | succ fuel =>
          obtain ⟨middle, reaped, stop, go⟩ := scanLoop_turn result
          by_cases stops : (server.sight outcomes cList).Stops
          · exact stop [] stops
          · rw [chooseFrom_cons_of_not_stops stops]
            rcases go stops with ⟨-, choice⟩ | ⟨behind, linked, further, -⟩
            · exact choice
            · rw [reaped.same.next, sound.visit_last] at linked
              exact absurd linked.symm further
  | cons next back ih =>
      cases fuel with
      | zero => contradiction
      | succ fuel =>
          obtain ⟨middle, reaped, stop, go⟩ := scanLoop_turn result
          by_cases stops : (server.sight outcomes cList).Stops
          · exact stop _ stops
          · rw [chooseFrom_cons_of_not_stops stops]
            rcases go stops with ⟨last, -⟩ | ⟨behind, linked, -, goes⟩
            · rw [reaped.same.next, sound.isRing.next_inner] at last
              exact absurd last sound.further
            · rw [reaped.same.next, sound.isRing.next_inner] at linked
              cases linked
              have rest := ih (reaped.same.sound sound).shift goes
              rw [reaped.sight_eq] at rest
              exact rest

theorem scan_choice {scanning : Scanning} (sound : server.Sound ring)
    (result : server.scan outcomes = some (after, scanning)) :
    scanning.choice = chooseFrom (server.sight outcomes) none ring := by
  unfold scan at result
  rw [sound.head] at result
  cases ring with
  | nil =>
      cases result
      rfl
  | cons head rest => exact @scanLoop_choice server after outcomes [] rest head _ none scanning sound result

def Looks (server : Server) (outcomes : Outcomes) : Prop :=
  0 < server.sockFd ∧ 0 ≤ outcomes.ret ∧ server.sockFd ∉ outcomes.readfds

/-- A check that gets to the scan does what its choice from the ring says. -/
theorem eventCheck_choice (sound : server.Sound ring) (looks : server.Looks outcomes) :
    ∃ filled scanned scanning, server.lock.fillSet = some filled ∧
      filled.scan outcomes = some (scanned, scanning) ∧ Reaped outcomes server scanned ∧
      scanned.Selects ring scanning ∧
      scanning.choice = chooseFrom (server.sight outcomes) none ring ∧
      server.eventCheck outcomes = match scanning with
        | .clientEvent node => scanned.clientEvent node outcomes
        | .idle node tmp => scanned.dropIdle node tmp outcomes
        | .nothing => some (.none, scanned.unlock) := by
  obtain ⟨filled, fills, sameFilled, unchanged⟩ := fillSet_exists (SameRing.lock.sound sound)
  have soundFilled := (SameRing.lock.trans sameFilled).sound sound
  have sockFd : filled.sockFd = server.sockFd :=
    congrArg (fun object : TCPServer => object.sockFd) unchanged
  obtain ⟨scanned, scanning, scans, sameScanned, -, selects⟩ :=
    @scan_exists filled ring outcomes soundFilled
  have clients := fillSet_clients fills
  have seen : Reaped outcomes server filled :=
    ⟨unchanged, clients, fun node => .inl (by rw [fillSet_collections fills]; rfl)⟩
  have reaped := (scan_reaps soundFilled scans).1
  have choice := scan_choice soundFilled scans
  rw [seen.sight_eq] at choice
  refine ⟨filled, scanned, scanning, fills, scans, seen.trans reaped,
    Selects.congr sameScanned.symm selects, choice, ?_⟩
  obtain ⟨opened, selected, quiet⟩ := looks
  unfold eventCheck
  dsimp only
  rw [if_neg (by simpa using opened), fills]
  simp only [bind, Option.bind_some]
  rw [if_neg (by omega), if_neg (by rw [sockFd]; exact quiet), scans]
  rfl

end Server

end SynapTCP
