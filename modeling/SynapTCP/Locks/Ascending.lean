import SynapTCP.Locks.Climbing
import SynapTCP.Locks.Serving

namespace SynapTCP

open Data

/-! # The server's methods climb

The server's own mutexes are taken first, and those of its clients and nodes above them.
-/

variable {order : Owner → Nat}

/-- The objects that a server makes are above it. -/
def Owner.MadeAbove (order : Owner → Nat) : Prop :=
  ∀ owner, owner ≠ .server → order .server < order owner

/-- What is done to the mutexes of one or more others than the server. -/
structure Beyond (order : Owner → Nat) (acts : List (Act (Resource Owner))) : Prop where
  elsewhere : Elsewhere acts
  climbs : Climbs Resource.IsMutex (Resource.rank order) ∅ acts
  higher : ∀ act ∈ acts, act.thing.IsMutex →
    ∀ lock, (Resource.mutex Owner.server lock).rank order < act.thing.rank order

namespace Beyond

variable {first second : List (Act (Resource Owner))} {owner : Owner}

theorem of_alone {acts : List (Act (Resource Owner))} (alone : ∀ act ∈ acts, ¬ act.thing.IsMutex) :
    Beyond order acts :=
  ⟨.of_alone alone, climbs_of_alone alone, fun act member isMutex => absurd isMutex (alone act member)⟩

theorem append (left : Beyond order first) (right : Beyond order second) :
    Beyond order (first ++ second) := by
  refine ⟨left.elsewhere.append right.elsewhere, ?_, fun act member => ?_⟩
  · have nests : Nests Resource.IsMutex (Resource.rank order) (first ++ second) :=
      Nests.append ⟨left.elsewhere.disciplined, left.climbs⟩
        ⟨right.elsewhere.disciplined, right.climbs⟩
    exact nests.climbs
  · rcases List.mem_append.mp member with before | behind
    · exact left.higher act before
    · exact right.higher act behind

theorem call {α : Type} {call : Call α} (above : Owner.MadeAbove order) (other : owner ≠ .server)
    (nests : ∀ order : Unit → Nat, Nests Resource.IsMutex (Resource.rank order) call.acts) :
    Beyond order (call.actsOf owner) := by
  refine ⟨Call.elsewhere other (nests fun _ => 0).disciplined, (Call.nests nests).climbs, ?_⟩
  intro act member isMutex lock
  obtain ⟨inner, _, renamed⟩ := List.mem_map.mp member
  have higher := above owner other
  rw [← renamed, Act.thing_map] at isMutex ⊢
  cases thing : inner.thing with
  | mutex _ own => cases own <;> cases lock <;> simp only [Resource.at, Resource.rank] <;> omega
  | descriptor fd =>
      rw [thing] at isMutex
      contradiction
  | connection ssl =>
      rw [thing] at isMutex
      contradiction

end Beyond

namespace Server

variable {server : Server} {locked : Bool} {acts : List (Act (Resource Owner))}
  {outcomes : Outcomes} {node : CollectionId} {client : ClientId}

structure Ascends (order : Owner → Nat) (locked : Bool) (server : Server) : Prop where
  holds : server.Holds locked
  climbs : Climbs Resource.IsMutex (Resource.rank order) ∅ server.trace

namespace Ascends

/-- Behind the trace nothing but the server's own mutexes is held, and these if `locked`. -/
theorem behind {held : Set (Resource Owner)} (ascends : Ascends order locked server)
    (own : locked = true → ∀ lock, .mutex .server lock ∈ held)
    (climbs : Climbs Resource.IsMutex (Resource.rank order) held acts) :
    Climbs Resource.IsMutex (Resource.rank order) ∅ (server.trace ++ acts) := by
  refine climbs_append.mpr ⟨ascends.climbs, climbs.mono fun u member isMutex => ?_⟩
  cases u with
  | mutex owner lock =>
      have both := (@mem_holding _ ∅ _ _ _ false _ (ascends.holds owner lock)
        (iff_of_false id Bool.noConfusion)).mp member
      obtain ⟨isLocked, isServer⟩ := Bool.and_eq_true_iff.mp both
      rw [of_decide_eq_true isServer]
      exact own isLocked lock
  | descriptor fd => contradiction
  | connection ssl => contradiction

theorem congr {later : Server} (ascends : Ascends order locked server)
    (same : later.trace = server.trace) : Ascends order locked later :=
  ⟨ascends.holds.congr same, by rw [same]; exact ascends.climbs⟩

theorem silent {effects : List Effect} {later : Server} (ascends : Ascends order locked server)
    (log : later.log = server.log ++ effects) (silent : effects.flatMap Effect.acts = []) :
    Ascends order locked later := by
  apply ascends.congr
  unfold trace
  rw [log, List.flatMap_append, silent, List.append_nil]

theorem emit (ascends : Ascends order locked server) (beyond : Beyond order acts) :
    Ascends order locked (server.emit acts) := by
  refine ⟨ascends.holds.emit beyond.elsewhere, ?_⟩
  rw [emit_trace]
  have higher := @Climbs.above _ _ _ _ _ _ _ {t | ∃ lock, t = .mutex .server lock} beyond.climbs
    fun act member isMutex u isOwn _ => by
      obtain ⟨lock, rfl⟩ := isOwn
      exact beyond.higher act member isMutex lock
  exact ascends.behind (fun _ lock => .inr ⟨lock, rfl⟩) higher

theorem lock (ascends : Ascends order false server) : Ascends order true server.lock := by
  refine ⟨ascends.holds.lock, ?_⟩
  unfold Server.lock
  rw [emit_trace]
  exact ascends.behind Bool.noConfusion (@climbs_lockOf _ order .server ∅ (by simp))

theorem unlock (ascends : Ascends order true server) : Ascends order false server.unlock := by
  refine ⟨ascends.holds.unlock, ?_⟩
  unfold Server.unlock
  rw [emit_trace]
  exact @behind order _ _ _ Set.univ ascends (fun _ _ => trivial) climbs_unlockOf

/-- A call on the server's own object. -/
theorem own {α : Type} {call : Call α} (ascends : Ascends order false server)
    (nests : ∀ order : Unit → Nat, Nests Resource.IsMutex (Resource.rank order) call.acts) :
    Ascends order false (server.emit (call.actsOf .server)) := by
  have own := @Call.nests _ order .server _ _ call nests
  refine ⟨ascends.holds.emit_disciplined own.disciplined, ?_⟩
  rw [emit_trace]
  exact ascends.behind Bool.noConfusion own.climbs

theorem pipeEnds_beyond {pipe : Int × Int} : Beyond order (pipeEnds pipe) := by
  apply Beyond.of_alone
  unfold pipeEnds
  split <;> split <;> simp [Act.thing]

theorem linkClient {later : Server} (ascends : Ascends order locked server)
    (links : server.linkClient client outcomes = some later) : Ascends order locked later := by
  apply ascends.congr
  rw [Server.trace, Server.trace, linkClient_log links]

theorem fillSet {filled : Server} (ascends : Ascends order true server)
    (fills : server.fillSet = some filled) : Ascends order true filled := by
  obtain ⟨set, _, result⟩ := Option.map_eq_some_iff.mp fills
  cases result
  apply ascends.unlock.lock.congr
  unfold Server.lock Server.unlock
  rw [emit_trace, emit_trace]
  unfold trace
  have selecting : ∀ nfds, [Effect.select nfds].flatMap Effect.acts = [] := fun _ => rfl
  simp only [List.flatMap_append, Effect.flatMap_acts, fdSets_silent, selecting, List.append_nil]

theorem scan {scanned : Server × Scanning} (ascends : Ascends order locked server)
    (scans : server.scan outcomes = some scanned) : Ascends order locked scanned.1 := by
  refine @scan_keeps (Ascends order locked) server outcomes scanned ?_ ascends scans
  intro server node collection _ kept
  unfold reap
  split
  · have same : Ascends order locked { server with
        collections := server.collections.set node { collection with pipe := (0, 0) } } :=
      kept.congr rfl
    exact same.emit (.of_alone (by simp [Act.thing]))
  · exact kept

/-! ## Methods that get to other objects -/

variable (above : Owner.MadeAbove order)
include above

theorem onClient {α : Type} {call : Call α} (ascends : Ascends order locked server)
    (nests : ∀ order : Unit → Nat, Nests Resource.IsMutex (Resource.rank order) call.acts) :
    Ascends order locked (server.onClient client call) := by
  have same : Ascends order locked { server with
      clients := server.clients.set client call.socket } := ascends.congr rfl
  exact same.emit (.call above Owner.noConfusion nests)

theorem deleteClient {later : Server} (ascends : Ascends order locked server)
    (deletes : server.deleteClient client outcomes = some later) : Ascends order locked later := by
  obtain ⟨socket, _, result⟩ := Option.map_eq_some_iff.mp deletes
  rw [← result]
  have same : Ascends order locked { server with clients := server.clients.destroy client } :=
    ascends.congr rfl
  exact same.emit (.call above Owner.noConfusion fun _ => Socket.closeSocket_nests)

/-! ## Removing -/

theorem deleteCollection {later : Server} (ascends : Ascends order locked server)
    (deletes : server.deleteCollection node outcomes = some later) : Ascends order locked later := by
  unfold Server.deleteCollection at deletes
  obtain ⟨collection, _, rest⟩ := Option.bind_eq_some_iff.mp deletes
  obtain ⟨middle, deletesClient, result⟩ := Option.bind_eq_some_iff.mp rest
  have closed := (ascends.deleteClient above deletesClient).emit
    (@pipeEnds_beyond order collection.pipe)
  cases result
  apply closed.silent rfl
  split <;> rfl

theorem removeClient {socket : Option ClientId} {removed : Bool × Server}
    (ascends : Ascends order locked server)
    (removes : server.removeClient socket outcomes = some removed) :
    Ascends order locked removed.2 := by
  have keeps : RemovalKeeps (Ascends order locked) outcomes :=
    ⟨fun _ _ _ _ _ kept => kept.congr rfl, fun _ _ _ kept => kept.congr rfl,
      fun _ _ _ deletes kept => kept.deleteCollection above deletes⟩
  exact removeClient_keeps keeps ascends removes

/-! ## Adding -/

theorem newClient (ascends : Ascends order true server) : Ascends order false server.newClient := by
  have made : Ascends order true { server with
      clients := server.clients.make (server.toSocket.duplicate Socket.new) } := ascends.congr rfl
  have other : Owner.client server.clients.fresh ≠ .server := Owner.noConfusion
  have constructed := (made.emit
    (.call above other fun _ => @Socket.construct_nests _ Socket.new)).unlock
  have duplicates := @duplicateActs_nests _ order _ _ _ (above _ other)
  refine ⟨constructed.holds.emit_disciplined duplicates.disciplined, ?_⟩
  unfold Server.newClient
  rw [emit_trace]
  exact constructed.behind Bool.noConfusion duplicates.climbs

theorem attachClient {socket : Socket} {connFd : Int} (ascends : Ascends order locked server) :
    Ascends order locked (server.attachClient client socket connFd outcomes).2 := by
  let given := socket.setSocketFd connFd
  have setsPointer {later : Server} {changed : Socket} {sslConn : Option Nat}
      (kept : Ascends order locked later) :
      Ascends order locked (later.onClient client (changed.setSSLPointer sslConn)) :=
    kept.onClient above fun _ => guarded_nests
  have unset : Ascends order locked ((server.onClient client given).onClient client
      (given.socket.setSSLPointer none)) :=
    setsPointer (ascends.onClient above fun _ => SocketCall.setter_nests)
  unfold Server.attachClient
  dsimp only
  split
  · split
    · exact unset
    · split
      · exact unset
      · split
        · exact (unset.emit (.of_alone (by simp [Act.thing]))).emit
            (.of_alone (by simp [Act.thing]))
        · exact setsPointer (unset.emit (.of_alone (by simp [Act.thing])))
  · exact unset

theorem addClient {connFd : Int} {added : Bool × Server} (ascends : Ascends order true server)
    (validAddress : Socket.isValidIPAddress (Socket.dotted server.addr.host) = true)
    (validPort : server.addr.port ≠ 0)
    (adds : server.addClient connFd outcomes = some added) : Ascends order true added.2 := by
  let client := server.clients.fresh
  let copy := server.toSocket.duplicate Socket.new
  let addressed := copy.setAddress (Socket.dotted server.addr.host)
  let ported := addressed.socket.setPort server.addr.port.toNat
  have named : Ascends order false (server.newClient.onClient client addressed) :=
    (ascends.newClient above).onClient above fun _ => SocketCall.setter_nests
  have full : Ascends order false
      ((server.newClient.onClient client addressed).onClient client ported) :=
    named.onClient above fun _ => SocketCall.setter_nests
  have addressTaken : addressed.result = true := Socket.setAddress_result.trans validAddress
  have portTaken : ported.result = true := by
    rw [Socket.setPort_result, decide_eq_true validPort]
  unfold Server.addClient at adds
  dsimp only at adds
  split at adds
  · rename_i refused
    have refused : addressed.result = false := refused
    rw [addressTaken] at refused
    contradiction
  · split at adds
    · rename_i refused
      have refused : ported.result = false := refused
      rw [portTaken] at refused
      contradiction
    · have attached := @attachClient order _ _ outcomes client above ported.socket connFd full.lock
      split at adds
      · obtain ⟨deleted, deletes, result⟩ := Option.map_eq_some_iff.mp adds
        cases result
        exact attached.deleteClient above deletes
      · obtain ⟨linked, links, result⟩ := Option.map_eq_some_iff.mp adds
        cases result
        exact attached.linkClient links

theorem acceptNewClient {accepted : Bool × Server} (ascends : Ascends order false server)
    (peer : PeerAccepted outcomes) (accepts : server.acceptNewClient outcomes = some accepted) :
    Ascends order false accepted.2 := by
  have descriptor : Beyond order [.acquire (.descriptor outcomes.connFd)] :=
    .of_alone (by simp [Act.thing])
  have named : Ascends order true { server.lock with addr := outcomes.peer } :=
    ascends.lock.congr rfl
  have taken := named.emit descriptor
  unfold Server.acceptNewClient at accepts
  dsimp only at accepts
  split at accepts
  · cases accepts
    refine Ascends.unlock ?_
    split
    · exact taken
    · exact ascends.lock
  · rename_i positive
    obtain ⟨added, adds, result⟩ := Option.map_eq_some_iff.mp accepts
    rw [if_pos (by omega)] at adds
    cases result
    obtain ⟨validAddress, validPort⟩ := peer (Int.lt_of_not_ge positive)
    exact (taken.addClient above validAddress validPort adds).unlock

/-! ## Checking for events -/

theorem mutex_beyond {owner : Owner} (other : owner ≠ .server) :
    Beyond order [.acquire (.mutex owner .mtx), .release (.mutex owner .mtx)] :=
  @Beyond.call order owner Unit ⟨(), Socket.new, _⟩ above other fun _ => @single_nests _ .mtx

theorem startThread {collection : ClientCollection} (ascends : Ascends order locked server) :
    Ascends order locked (server.startThread node collection outcomes) := by
  have other : Owner.collection node ≠ .server := Owner.noConfusion
  have waits : Beyond order ([.acquire (.mutex (.collection node) .mtx),
      .release (.mutex (.collection node) .mtx)] ++ [.acquire (.mutex (.collection node) .mtx),
        .release (.mutex (.collection node) .mtx)]) :=
    (mutex_beyond above other).append (mutex_beyond above other)
  have started {piped changed : Server} {th : Nat} (held : Ascends order locked piped)
      (log : changed.log = piped.log ++ [Effect.create th node]) :
      Ascends order locked (changed.emit [.acquire (.mutex (.collection node) .mtx),
        .release (.mutex (.collection node) .mtx), .acquire (.mutex (.collection node) .mtx),
        .release (.mutex (.collection node) .mtx)]) :=
    (held.silent log rfl).emit waits
  unfold Server.startThread
  cases outcomes.pipe with
  | none =>
      cases outcomes.thread with
      | none => exact ascends.congr rfl
      | some th => exact started ascends rfl
  | some pipe =>
      have same : Ascends order locked { server with
          collections := server.collections.set node { collection with pipe } } :=
        ascends.congr rfl
      have opens : Beyond order
          [.acquire (.descriptor pipe.1), .acquire (.descriptor pipe.2)] :=
        .of_alone (by simp [Act.thing])
      have piped := same.emit opens
      cases outcomes.thread with
      | none => exact piped
      | some th => exact started piped rfl

theorem polled {collection : ClientCollection} (ascends : Ascends order true server) :
    Ascends order false (server.polled node collection outcomes) := by
  have chosen : Ascends order true { server with
      collections := server.collections.set node { collection with lastActivity := outcomes.active }
      client := some collection.client } := ascends.congr rfl
  exact chosen.unlock.emit (mutex_beyond above Owner.noConfusion)

theorem clientEvent {event : ServerEvent × Server} (ascends : Ascends order true server)
    (checks : server.clientEvent node outcomes = some event) : Ascends order false event.2 := by
  obtain ⟨collection, -, ⟨-, removed, removes, result⟩ |
    ⟨-, -, ⟨-, result⟩ | ⟨function, -, ⟨-, result⟩ | ⟨-, result⟩⟩⟩⟩ := clientEvent_cases checks
  · rw [result]
    exact ((ascends.polled above).lock.removeClient above removes).unlock
  · rw [result]
    exact ascends.polled above
  · rw [result]
    exact (ascends.polled above).silent rfl rfl
  · rw [result]
    exact (ascends.polled above).startThread above

theorem dropIdle {tmp : Option CollectionId} {event : ServerEvent × Server}
    (ascends : Ascends order true server)
    (checks : server.dropIdle node tmp outcomes = some event) : Ascends order false event.2 := by
  obtain ⟨collection, _, atNode⟩ := Option.bind_eq_some_iff.mp checks
  obtain ⟨removed, removes, behind⟩ := Option.bind_eq_some_iff.mp atNode
  have after := ascends.removeClient above removes
  split at behind
  · cases behind
    exact after.unlock
  · obtain ⟨next, _, result⟩ := Option.bind_eq_some_iff.mp behind
    cases result
    have same : Ascends order true { removed.2 with client := some next.client } :=
      after.congr rfl
    exact same.unlock

theorem eventCheck {event : ServerEvent × Server} (ascends : Ascends order false server)
    (peer : server.Accepts outcomes → PeerAccepted outcomes)
    (checks : server.eventCheck outcomes = some event) : Ascends order false event.2 := by
  unfold Server.eventCheck at checks
  dsimp only at checks
  split at checks
  · cases checks
    exact ascends.lock.unlock
  · rename_i opened
    obtain ⟨filled, fills, checked⟩ := Option.bind_eq_some_iff.mp checks
    have locked := ascends.lock.fillSet fills
    have same := fillSet_toTCPServer fills
    have sockFd : filled.sockFd = server.sockFd := congrArg (fun tcp => tcp.sockFd) same
    have handler : filled.conReqCallbackFunction = server.conReqCallbackFunction :=
      congrArg TCPServer.conReqCallbackFunction same
    split at checked
    · cases checked
      exact locked.unlock
    · rename_i selected
      split at checked
      · rename_i requested
        rw [sockFd] at requested
        unfold connectRequest at checked
        split at checked
        · cases checked
          exact locked.unlock.silent rfl rfl
        · rename_i unhandled
          obtain ⟨accepted, accepts, result⟩ := Option.map_eq_some_iff.mp checked
          cases result
          have reached : server.Accepts outcomes :=
            ⟨Int.lt_of_not_ge opened, Int.not_lt.mp selected, requested, handler.symm.trans unhandled⟩
          exact locked.unlock.acceptNewClient above (peer reached) accepts
      · obtain ⟨scanned, scans, found⟩ := Option.bind_eq_some_iff.mp checked
        have scanning := locked.scan scans
        split at found
        · exact scanning.clientEvent above found
        · exact scanning.dropIdle above found
        · cases found
          exact scanning.unlock

end Ascends

end Server

end SynapTCP
