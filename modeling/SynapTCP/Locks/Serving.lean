import SynapTCP.Locks.Calls
import SynapTCP.Server.Keeping
import SynapTCP.Socket.Addresses

namespace SynapTCP

open Data

/-! # The locks of the server's methods

`addClient` and `removeClient` run with both mutexes of the server locked, and the
methods of clients and the destructors lock mutexes of their own in between.
-/

namespace Effect

def acts : Effect → List (Act (Resource Owner))
  | .act done => [done]
  | _ => []

theorem flatMap_acts (acts : List (Act (Resource Owner))) :
    (acts.map Effect.act).flatMap Effect.acts = acts := by
  induction acts with
  | nil => rfl
  | cons done acts ih =>
      rw [List.map_cons, List.flatMap_cons, ih]
      rfl

end Effect

/-- What is done to the mutexes of others than the server. -/
structure Elsewhere (acts : List (Act (Resource Owner))) : Prop where
  disciplined : Disciplined Resource.IsMutex acts
  absent : ∀ act ∈ acts, ∀ lock, act.thing ≠ .mutex .server lock

theorem Elsewhere.of_alone {acts : List (Act (Resource Owner))}
    (alone : ∀ act ∈ acts, ¬ act.thing.IsMutex) : Elsewhere acts := by
  constructor
  · intro t isMutex
    apply hold_of_absent
    intro act member same
    apply alone act member
    rw [same]
    exact isMutex
  · intro act member lock same
    apply alone act member
    rw [same]
    trivial

theorem Elsewhere.append {first second : List (Act (Resource Owner))} (left : Elsewhere first)
    (right : Elsewhere second) : Elsewhere (first ++ second) := by
  refine ⟨left.disciplined.append right.disciplined, fun act member => ?_⟩
  rcases List.mem_append.mp member with before | behind
  · exact left.absent act before
  · exact right.absent act behind

/-- The mutexes of a call are those of the object that it is on. -/
theorem Call.actsOf_disciplined_iff {α ω : Type} [DecidableEq ω] {call : Call α} {owner : ω} :
    Disciplined Resource.IsMutex (call.actsOf owner) ↔ Disciplined Resource.IsMutex call.acts := by
  unfold Call.actsOf
  rw [Resource.at_eq_map]
  exact Disciplined.map_iff (Resource.map_injective fun _ _ _ => rfl) Resource.isMutex_map

theorem Call.elsewhere {α : Type} {call : Call α} {owner : Owner} (other : owner ≠ .server)
    (disciplined : Disciplined Resource.IsMutex call.acts) : Elsewhere (call.actsOf owner) := by
  constructor
  · exact Call.actsOf_disciplined_iff.mpr disciplined
  · intro act member lock same
    obtain ⟨inner, _, renamed⟩ := List.mem_map.mp member
    rw [← renamed, Act.thing_map] at same
    cases thing : inner.thing with
    | mutex _ _ =>
        rw [thing] at same
        cases same
        exact other rfl
    | descriptor fd =>
        rw [thing] at same
        contradiction
    | connection ssl =>
        rw [thing] at same
        contradiction

namespace Server

variable {server : Server} {locked : Bool} {acts : List (Act (Resource Owner))}
  {outcomes : Outcomes}

def trace (server : Server) : List (Act (Resource Owner)) := server.log.flatMap Effect.acts

/-- Of all mutexes at most the server's own two are held, and these if `locked`. -/
def Holds (server : Server) (locked : Bool) : Prop :=
  ∀ owner lock, hold (.mutex owner lock) false server.trace =
    some (locked && decide (owner = .server))

@[simp] theorem emit_trace : (server.emit acts).trace = server.trace ++ acts := by
  unfold Server.trace emit
  rw [List.flatMap_append, Effect.flatMap_acts]

theorem Holds.congr {later : Server} (holds : server.Holds locked) (same : later.trace = server.trace) :
    later.Holds locked := by
  intro owner lock
  rw [same]
  exact holds owner lock

theorem Holds.emit (holds : server.Holds locked) (elsewhere : Elsewhere acts) :
    (server.emit acts).Holds locked := by
  intro owner lock
  rw [emit_trace, hold_then (holds owner lock)]
  by_cases own : owner = .server
  · apply hold_of_absent
    intro act member
    rw [own]
    exact elsewhere.absent act member lock
  · simp only [own, decide_false, Bool.and_false]
    exact elsewhere.disciplined _ trivial

theorem Holds.lock (holds : server.Holds false) : server.lock.Holds true := by
  intro owner lock
  unfold Server.lock
  rw [emit_trace, hold_then (holds owner lock)]
  cases owner with
  | server => cases lock <;> rfl
  | client id => cases lock <;> rfl
  | collection id => cases lock <;> rfl

theorem Holds.unlock (holds : server.Holds true) : server.unlock.Holds false := by
  intro owner lock
  unfold Server.unlock
  rw [emit_trace, hold_then (holds owner lock)]
  cases owner with
  | server => cases lock <;> rfl
  | client id => cases lock <;> rfl
  | collection id => cases lock <;> rfl

/-- To unlock what is not locked is a fault that nothing behind it mends. -/
theorem Holds.unlock_twice (holds : server.Holds false) :
    hold (.mutex .server .mtx) false server.unlock.trace = none := by
  unfold Server.unlock
  rw [emit_trace, hold_then (holds .server .mtx)]
  rfl

theorem Holds.onClient {α : Type} {client : ClientId} {call : Call α} (holds : server.Holds locked)
    (disciplined : Disciplined Resource.IsMutex call.acts) :
    (server.onClient client call).Holds locked := by
  have same : ({ server with clients := server.clients.set client call.socket } : Server).Holds
      locked := holds
  exact same.emit (Call.elsewhere Owner.noConfusion disciplined)

theorem Holds.deleteClient {client : ClientId} {later : Server} (holds : server.Holds locked)
    (deletes : server.deleteClient client outcomes = some later) : later.Holds locked := by
  obtain ⟨socket, _, result⟩ := Option.map_eq_some_iff.mp deletes
  rw [← result]
  have same : ({ server with clients := server.clients.destroy client } : Server).Holds locked :=
    holds
  exact same.emit (Call.elsewhere Owner.noConfusion Socket.closeSocket_disciplined)

theorem Holds.emit_disciplined (holds : server.Holds false)
    (disciplined : Disciplined Resource.IsMutex acts) : (server.emit acts).Holds false := by
  intro owner lock
  rw [emit_trace, hold_then (holds owner lock)]
  exact disciplined _ trivial

theorem Holds.silent {effects : List Effect} {later : Server} (holds : server.Holds locked)
    (log : later.log = server.log ++ effects) (silent : effects.flatMap Effect.acts = []) :
    later.Holds locked := by
  apply holds.congr
  unfold trace
  rw [log, List.flatMap_append, silent, List.append_nil]

/-! ## Removing -/

theorem pipeEnds_elsewhere {pipe : Int × Int} : Elsewhere (pipeEnds pipe) := by
  apply Elsewhere.of_alone
  intro act member
  unfold pipeEnds at member
  rcases List.mem_append.mp member with first | second
  · split at first
    · rw [List.mem_singleton.mp first]
      exact not_false
    · contradiction
  · split at second
    · rw [List.mem_singleton.mp second]
      exact not_false
    · contradiction

theorem Holds.deleteCollection {node : CollectionId} {later : Server} (holds : server.Holds locked)
    (deletes : server.deleteCollection node outcomes = some later) : later.Holds locked := by
  unfold Server.deleteCollection at deletes
  obtain ⟨collection, _, rest⟩ := Option.bind_eq_some_iff.mp deletes
  obtain ⟨middle, deletesClient, result⟩ := Option.bind_eq_some_iff.mp rest
  have closed := (holds.deleteClient deletesClient).emit (@pipeEnds_elsewhere collection.pipe)
  cases result
  apply closed.silent rfl
  split <;> rfl

theorem Holds.removeClient {socket : Option ClientId} {removed : Bool × Server}
    (holds : server.Holds locked) (removes : server.removeClient socket outcomes = some removed) :
    removed.2.Holds locked := by
  have keeps : RemovalKeeps (Server.Holds · locked) outcomes :=
    ⟨fun _ _ _ _ _ same => same, fun _ _ _ same => same,
      fun _ _ _ deletes same => same.deleteCollection deletes⟩
  exact removeClient_keeps keeps holds removes

/-! ## Adding -/

theorem Holds.newClient (holds : server.Holds true) : server.newClient.Holds false := by
  have made : ({ server with
      clients := server.clients.make (server.toSocket.duplicate Socket.new) } : Server).Holds true :=
    holds
  have constructed := made.emit (Call.elsewhere (Owner.noConfusion : Owner.client server.clients.fresh ≠ .server)
    (@Socket.construct_disciplined Socket.new))
  have apart : Owner.server ≠ .client server.clients.fresh := Owner.noConfusion
  exact constructed.unlock.emit_disciplined (duplicateActs_disciplined_iff.mpr apart)

theorem connection_elsewhere {ssl : Nat} :
    Elsewhere [.acquire (.connection ssl)] ∧ Elsewhere [.release (.connection ssl)] := by
  constructor
  · apply Elsewhere.of_alone
    intro act member
    rw [List.mem_singleton.mp member]
    exact not_false
  · apply Elsewhere.of_alone
    intro act member
    rw [List.mem_singleton.mp member]
    exact not_false

theorem Holds.setSSLPointer {client : ClientId} {socket : Socket} {sslConn : Option Nat}
    (holds : server.Holds locked) :
    (server.onClient client (socket.setSSLPointer sslConn)).Holds locked :=
  holds.onClient guarded_disciplined

theorem Holds.attachClient {client : ClientId} {socket : Socket} {connFd : Int}
    (holds : server.Holds locked) : (server.attachClient client socket connFd outcomes).2.Holds locked := by
  let given := socket.setSocketFd connFd
  have givenHolds : (server.onClient client given).Holds locked :=
    holds.onClient SocketCall.setter_disciplined
  have unset : ((server.onClient client given).onClient client
      (given.socket.setSSLPointer none)).Holds locked := givenHolds.setSSLPointer
  unfold Server.attachClient
  dsimp only
  split
  · split
    · exact unset
    · split
      · exact unset
      · split
        · exact (unset.emit connection_elsewhere.1).emit connection_elsewhere.2
        · exact (unset.emit connection_elsewhere.1).setSSLPointer
  · exact unset

theorem Holds.linkClient {client : ClientId} {later : Server} (holds : server.Holds locked)
    (links : server.linkClient client outcomes = some later) : later.Holds locked := by
  apply holds.congr
  rw [trace, trace, linkClient_log links]

/-- The peer that is accepted has an address that `setAddress` takes, and a port. -/
def PeerAccepted (outcomes : Outcomes) : Prop :=
  0 < outcomes.connFd → Socket.isValidIPAddress (Socket.dotted outcomes.peer.host) = true ∧
    outcomes.peer.port ≠ 0

/-- A client that is given up for its address or its port leaves the mutexes of the
server unlocked. -/
theorem Holds.addClient {connFd : Int} {added : Bool × Server} (holds : server.Holds true)
    (adds : server.addClient connFd outcomes = some added) :
    added.2.Holds (Socket.isValidIPAddress (Socket.dotted server.addr.host) &&
      decide (server.addr.port ≠ 0)) := by
  let client := server.clients.fresh
  let copy := server.toSocket.duplicate Socket.new
  let addressed := copy.setAddress (Socket.dotted server.addr.host)
  let ported := addressed.socket.setPort server.addr.port.toNat
  have addressing : Disciplined Resource.IsMutex addressed.acts := SocketCall.setter_disciplined
  have porting : Disciplined Resource.IsMutex ported.acts := SocketCall.setter_disciplined
  have named : (server.newClient.onClient client addressed).Holds false :=
    holds.newClient.onClient addressing
  have full : ((server.newClient.onClient client addressed).onClient client ported).Holds false :=
    named.onClient porting
  rw [← @Socket.setAddress_result copy, ← @Socket.setPort_result addressed.socket]
  unfold Server.addClient at adds
  dsimp only at adds
  split at adds
  · rename_i refused
    obtain ⟨deleted, deletes, result⟩ := Option.map_eq_some_iff.mp adds
    cases result
    rw [refused, Bool.false_and]
    exact named.deleteClient deletes
  · rename_i validAddress
    rw [Bool.not_eq_false] at validAddress
    rw [validAddress, Bool.true_and]
    split at adds
    · rename_i refused
      obtain ⟨deleted, deletes, result⟩ := Option.map_eq_some_iff.mp adds
      cases result
      rw [refused]
      exact full.deleteClient deletes
    · rename_i validPort
      rw [Bool.not_eq_false] at validPort
      rw [validPort]
      have attached := @Holds.attachClient _ _ outcomes client ported.socket connFd full.lock
      split at adds
      · obtain ⟨deleted, deletes, result⟩ := Option.map_eq_some_iff.mp adds
        cases result
        exact attached.deleteClient deletes
      · obtain ⟨linked, links, result⟩ := Option.map_eq_some_iff.mp adds
        cases result
        exact attached.linkClient links

theorem Holds.acceptNewClient {accepted : Bool × Server} (holds : server.Holds false)
    (accepts : server.acceptNewClient outcomes = some accepted) :
    (PeerAccepted outcomes → accepted.2.Holds false) ∧
      (¬ PeerAccepted outcomes → hold (.mutex .server .mtx) false accepted.2.trace = none) := by
  have descriptor : Elsewhere [.acquire (.descriptor outcomes.connFd)] := by
    apply Elsewhere.of_alone
    intro act member
    rw [List.mem_singleton.mp member]
    exact not_false
  have peer : ({ server.lock with addr := outcomes.peer } : Server).Holds true := holds.lock
  have taken := peer.emit descriptor
  unfold Server.acceptNewClient at accepts
  dsimp only at accepts
  split at accepts
  · rename_i refused
    cases accepts
    have notAccepted : PeerAccepted outcomes := fun positive => absurd positive (Int.not_lt.mpr refused)
    refine ⟨fun _ => Holds.unlock ?_, fun unaccepted => absurd notAccepted unaccepted⟩
    split
    · exact taken
    · exact holds.lock
  · rename_i positive
    obtain ⟨added, adds, result⟩ := Option.map_eq_some_iff.mp accepts
    rw [if_pos (by omega)] at adds
    cases result
    have after : added.2.Holds (Socket.isValidIPAddress (Socket.dotted outcomes.peer.host) &&
        decide (outcomes.peer.port ≠ 0)) := taken.addClient adds
    constructor
    · intro isAccepted
      obtain ⟨validAddress, validPort⟩ := isAccepted (Int.lt_of_not_ge positive)
      rw [validAddress, Bool.true_and, decide_eq_true validPort] at after
      exact after.unlock
    · intro unaccepted
      have refused : (Socket.isValidIPAddress (Socket.dotted outcomes.peer.host) &&
          decide (outcomes.peer.port ≠ 0)) = false := by
        apply Bool.eq_false_iff.mpr
        intro both
        obtain ⟨validAddress, validPort⟩ := Bool.and_eq_true_iff.mp both
        exact unaccepted fun _ => ⟨validAddress, of_decide_eq_true validPort⟩
      rw [refused] at after
      exact after.unlock_twice

/-! ## Checking for events -/

theorem fdSets_silent {fds : List Int} : (fds.map Effect.fdSet).flatMap Effect.acts = [] := by
  induction fds with
  | nil => rfl
  | cons fd fds ih => exact ih

theorem Holds.fillSet {filled : Server} (holds : server.Holds true)
    (fills : server.fillSet = some filled) : filled.Holds true := by
  obtain ⟨set, _, result⟩ := Option.map_eq_some_iff.mp fills
  cases result
  apply holds.unlock.lock.congr
  unfold Server.lock Server.unlock
  rw [emit_trace, emit_trace]
  unfold trace
  have selecting : ∀ nfds, [Effect.select nfds].flatMap Effect.acts = [] := fun _ => rfl
  simp only [List.flatMap_append, Effect.flatMap_acts, fdSets_silent, selecting, List.append_nil]

theorem descriptors_elsewhere {first second : Int} :
    Elsewhere [.acquire (.descriptor first), .acquire (.descriptor second)] ∧
      Elsewhere [.release (.descriptor first), .release (.descriptor second)] := by
  constructor
  · apply Elsewhere.of_alone
    intro act member
    rcases List.mem_pair.mp member with same | same <;> rw [same] <;> exact not_false
  · apply Elsewhere.of_alone
    intro act member
    rcases List.mem_pair.mp member with same | same <;> rw [same] <;> exact not_false

theorem mutex_elsewhere {owner : Owner} (other : owner ≠ .server) :
    Elsewhere [.acquire (.mutex owner .mtx), .release (.mutex owner .mtx)] := by
  have call := @Call.elsewhere Unit ⟨(), Socket.new, _⟩ owner other (@Socket.single_disciplined .mtx)
  exact call

theorem Holds.reap {node : CollectionId} {collection : ClientCollection} {readfds : List Int}
    (holds : server.Holds locked) : (server.reap node collection readfds).Holds locked := by
  unfold Server.reap
  split
  · let closed := { server with
      collections := server.collections.set node { collection with pipe := (0, 0) } }
    have same : closed.Holds locked := holds
    exact same.emit descriptors_elsewhere.2
  · exact holds

theorem Holds.scan {scanned : Server × Scanning} (holds : server.Holds locked)
    (scans : server.scan outcomes = some scanned) : scanned.1.Holds locked :=
  @scan_keeps (Server.Holds · locked) server outcomes scanned (fun _ _ _ _ same => same.reap) holds
    scans

theorem Holds.startThread {node : CollectionId} {collection : ClientCollection}
    (holds : server.Holds locked) : (server.startThread node collection outcomes).Holds locked := by
  have other : Owner.collection node ≠ .server := Owner.noConfusion
  have waits : Elsewhere ([.acquire (.mutex (.collection node) .mtx),
      .release (.mutex (.collection node) .mtx)] ++ [.acquire (.mutex (.collection node) .mtx),
        .release (.mutex (.collection node) .mtx)]) :=
    (mutex_elsewhere other).append (mutex_elsewhere other)
  have started {piped changed : Server} {th : Nat} (held : piped.Holds locked)
      (log : changed.log = piped.log ++ [Effect.create th node]) :
      (changed.emit [.acquire (.mutex (.collection node) .mtx),
        .release (.mutex (.collection node) .mtx), .acquire (.mutex (.collection node) .mtx),
        .release (.mutex (.collection node) .mtx)]).Holds locked :=
    (held.silent log rfl).emit waits
  unfold Server.startThread
  cases outcomes.pipe with
  | none =>
      cases outcomes.thread with
      | none => exact holds
      | some th => exact started holds rfl
  | some pipe =>
      have same : ({ server with
          collections := server.collections.set node { collection with pipe } } : Server).Holds
            locked := holds
      have piped := same.emit (@descriptors_elsewhere pipe.1 pipe.2).1
      cases outcomes.thread with
      | none => exact piped
      | some th => exact started piped rfl

theorem Holds.polled {node : CollectionId} {collection : ClientCollection}
    (holds : server.Holds true) : (server.polled node collection outcomes).Holds false := by
  let active := { server with
    collections := server.collections.set node { collection with lastActivity := outcomes.active }
    client := some collection.client }
  have chosen : active.Holds true := holds
  exact chosen.unlock.emit (mutex_elsewhere Owner.noConfusion)

theorem Holds.clientEvent {node : CollectionId} {event : ServerEvent × Server}
    (holds : server.Holds true) (checks : server.clientEvent node outcomes = some event) :
    event.2.Holds false := by
  obtain ⟨collection, -, ⟨-, removed, removes, result⟩ |
    ⟨-, -, ⟨-, result⟩ | ⟨function, -, ⟨-, result⟩ | ⟨-, result⟩⟩⟩⟩ := clientEvent_cases checks
  · rw [result]
    exact (holds.polled.lock.removeClient removes).unlock
  · rw [result]
    exact holds.polled
  · rw [result]
    exact holds.polled.silent rfl rfl
  · rw [result]
    exact holds.polled.startThread

theorem Holds.dropIdle {node : CollectionId} {tmp : Option CollectionId}
    {event : ServerEvent × Server} (holds : server.Holds true)
    (checks : server.dropIdle node tmp outcomes = some event) : event.2.Holds false := by
  obtain ⟨collection, _, atNode⟩ := Option.bind_eq_some_iff.mp checks
  obtain ⟨removed, removes, behind⟩ := Option.bind_eq_some_iff.mp atNode
  have after := holds.removeClient removes
  split at behind
  · cases behind
    exact after.unlock
  · obtain ⟨next, _, result⟩ := Option.bind_eq_some_iff.mp behind
    cases result
    have same : ({ removed.2 with client := some next.client } : Server).Holds true := after
    exact same.unlock

theorem Holds.eventCheck {event : ServerEvent × Server} (holds : server.Holds false)
    (checks : server.eventCheck outcomes = some event) :
    ((server.Accepts outcomes → PeerAccepted outcomes) → event.2.Holds false) ∧
      (server.Accepts outcomes → ¬ PeerAccepted outcomes →
        hold (.mutex .server .mtx) false event.2.trace = none) := by
  have unaccepting (after : event.2.Holds false) (not : ¬ server.Accepts outcomes) :
      ((server.Accepts outcomes → PeerAccepted outcomes) → event.2.Holds false) ∧
        (server.Accepts outcomes → ¬ PeerAccepted outcomes →
          hold (.mutex .server .mtx) false event.2.trace = none) :=
    ⟨fun _ => after, fun accepts => absurd accepts not⟩
  unfold Server.eventCheck at checks
  dsimp only at checks
  split at checks
  · rename_i closed
    cases checks
    exact unaccepting holds.lock.unlock fun accepts => absurd accepts.1 (Int.not_lt.mpr closed)
  · rename_i opened
    obtain ⟨filled, fills, checked⟩ := Option.bind_eq_some_iff.mp checks
    have locked := holds.lock.fillSet fills
    have same := fillSet_toTCPServer fills
    have sockFd : filled.sockFd = server.sockFd := congrArg (fun tcp => tcp.sockFd) same
    have handler : filled.conReqCallbackFunction = server.conReqCallbackFunction :=
      congrArg TCPServer.conReqCallbackFunction same
    split at checked
    · rename_i failed
      cases checked
      exact unaccepting locked.unlock fun accepts => absurd accepts.2.1 (Int.not_le.mpr failed)
    · rename_i selected
      split at checked
      · rename_i requested
        rw [sockFd] at requested
        unfold connectRequest at checked
        split at checked
        · rename_i function isHandled
          cases checked
          refine unaccepting (locked.unlock.silent rfl rfl) fun accepts => ?_
          have unset := handler.trans accepts.2.2.2
          rw [isHandled] at unset
          contradiction
        · rename_i unhandled
          obtain ⟨accepted, accepts, result⟩ := Option.map_eq_some_iff.mp checked
          cases result
          have after := locked.unlock.acceptNewClient accepts
          have reached : server.Accepts outcomes :=
            ⟨Int.lt_of_not_ge opened, Int.not_lt.mp selected, requested, handler.symm.trans unhandled⟩
          exact ⟨fun allowed => after.1 (allowed reached), fun _ => after.2⟩
      · rename_i unrequested
        rw [sockFd] at unrequested
        obtain ⟨scanned, scans, found⟩ := Option.bind_eq_some_iff.mp checked
        have scanning := locked.scan scans
        refine unaccepting ?_ fun accepts => absurd accepts.2.2.1 unrequested
        split at found
        · exact scanning.clientEvent found
        · exact scanning.dropIdle found
        · cases found
          exact scanning.unlock

end Server

end SynapTCP
