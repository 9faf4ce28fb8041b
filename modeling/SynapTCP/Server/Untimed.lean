import SynapTCP.Data.Throughout
import SynapTCP.Server.Dropping
import SynapTCP.Server.Effects
import SynapTCP.Socket.Idle

namespace SynapTCP

open Data

/-! # Servers without a timeout

A client has the timeout of the server that accepted it, and only checks for events
remove clients.
-/

namespace Server

variable {server middle after : Server} {outcomes : Outcomes} {node head : CollectionId}
  {client other : ClientId} {socket : Socket} {connFd : Int} {fuel : Nat}

/-! ## Removing -/

theorem deleteCollection_others (deletes : server.deleteCollection node outcomes = some after)
    (owned : server.clientAt node = some client) (apart : other ≠ client) :
    after.clients.get? other = server.clients.get? other := by
  obtain ⟨collection, found, deletes⟩ := Option.bind_eq_some_iff.mp deletes
  obtain ⟨closed, closes, result⟩ := Option.bind_eq_some_iff.mp deletes
  obtain ⟨object, -, isClosed⟩ := Option.map_eq_some_iff.mp closes
  rw [clientAt, found] at owned
  cases owned
  cases result
  cases isClosed
  exact Arena.get?_destroy_of_ne apart

theorem removeLoop_others {removed : Bool × Server}
    (removes : server.removeLoop head client outcomes fuel node = some removed)
    (apart : other ≠ client) :
    removed.2.clients.get? other = server.clients.get? other := by
  induction fuel generalizing node with
  | zero => contradiction
  | succ fuel ih =>
      obtain ⟨tmp, -, removes⟩ := Option.bind_eq_some_iff.mp removes
      obtain ⟨collection, found, removes⟩ := Option.bind_eq_some_iff.mp removes
      split at removes
      · rename_i owner
        obtain ⟨before, foundBefore, removes⟩ := Option.bind_eq_some_iff.mp removes
        obtain ⟨deleted, deletes, result⟩ := Option.bind_eq_some_iff.mp removes
        cases result
        have owns : server.clientAt tmp = some client :=
          (Sound.clientAt_of_get? found).trans (congrArg some owner)
        have ownsBefore := Sound.clientAt_of_get? foundBefore
        have linked := @clientAt_set server node { before with next := collection.next } ownsBefore
          tmp
        have same := deleteCollection_others deletes (linked.trans owns) apart
        exact same
      · split at removes
        · cases removes
          rfl
        · exact ih removes

theorem removeClient_others {removed : Bool × Server}
    (removes : server.removeClient (some client) outcomes = some removed)
    (apart : other ≠ client) :
    removed.2.clients.get? other = server.clients.get? other := by
  unfold removeClient at removes
  split at removes
  · cases removes
    rfl
  · contradiction
  · rename_i first target _ same
    cases same
    obtain ⟨collection, found, removes⟩ := Option.bind_eq_some_iff.mp removes
    have owns := Sound.clientAt_of_get? found
    split at removes
    · rename_i single
      obtain ⟨deleted, deletes, result⟩ := Option.bind_eq_some_iff.mp removes
      cases result
      have same := deleteCollection_others deletes (owns.trans (congrArg some single.1)) apart
      exact same
    · split at removes
      · rename_i owner
        obtain ⟨last, -, removes⟩ := Option.bind_eq_some_iff.mp removes
        obtain ⟨deleted, deletes, result⟩ := Option.bind_eq_some_iff.mp removes
        cases result
        have same := deleteCollection_others deletes (owns.trans (congrArg some owner)) apart
        exact same
      · exact removeLoop_others removes apart

/-! ## Adding -/

/-- Only this client is changed; what is there then has the server's timeout. -/
structure Inherits (before after : Server) (client : ClientId) : Prop where
  others : ∀ other, other ≠ client → after.clients.get? other = before.clients.get? other
  timeout : ∀ socket, after.clients.get? client = some socket → socket.tvTimeout = before.tvTimeout

namespace Inherits

theorem newClient : Inherits server server.newClient server.clients.fresh where
  others _ apart := Arena.get?_make_of_ne apart
  timeout socket made := by
    have copied := made.symm.trans (@Arena.get?_make_fresh _ server.clients
      (server.toSocket.duplicate Socket.new))
    cases copied
    rfl

theorem emit (inherits : Inherits server middle client) (acts : List (Act (Resource Owner))) :
    Inherits server (middle.emit acts) client :=
  ⟨inherits.others, inherits.timeout⟩

theorem onClient {α : Type} {call : Call α} (inherits : Inherits server middle client)
    (same : call.socket.tvTimeout = server.tvTimeout) :
    Inherits server (middle.onClient client call) client where
  others other apart := (Arena.get?_set_of_ne apart).trans (inherits.others other apart)
  timeout socket there := by
    rw [Arena.eq_of_get?_set there]
    exact same

theorem deleteClient (inherits : Inherits server middle client)
    (deletes : middle.deleteClient client outcomes = some after) :
    Inherits server after client := by
  obtain ⟨object, -, result⟩ := Option.map_eq_some_iff.mp deletes
  cases result
  refine ⟨fun other apart => ?_, fun socket there => ?_⟩
  · exact (Arena.get?_destroy_of_ne apart).trans (inherits.others other apart)
  · have gone : (middle.clients.destroy client).get? client = some socket := there
    rw [Arena.get?_destroy_self] at gone
    contradiction

theorem attachClient (inherits : Inherits server middle client)
    (same : socket.tvTimeout = server.tvTimeout) :
    Inherits server (middle.attachClient client socket connFd outcomes).2 client := by
  have given : (socket.setSocketFd connFd).socket.tvTimeout = server.tvTimeout := by
    unfold Socket.setSocketFd
    split <;> exact same
  have unset : Inherits server ((middle.onClient client (socket.setSocketFd connFd)).onClient client
      ((socket.setSocketFd connFd).socket.setSSLPointer none)) client :=
    (inherits.onClient given).onClient given
  unfold Server.attachClient
  dsimp only
  split
  · split
    · exact unset
    · split
      · exact unset
      · split
        · exact (unset.emit _).emit _
        · exact (unset.emit _).onClient given
  · exact unset

theorem of_clients (inherits : Inherits middle after client)
    (clients : middle.clients = server.clients) (same : middle.tvTimeout = server.tvTimeout) :
    Inherits server after client where
  others other apart := by rw [inherits.others other apart, clients]
  timeout socket there := by rw [inherits.timeout socket there, same]

theorem live (inherits : Inherits server after server.clients.fresh)
    (live : server.clients.get? client ≠ none) : after.clients.get? client ≠ none := by
  have apart : client ≠ server.clients.fresh := by
    intro same
    rw [same] at live
    exact live Arena.get?_fresh
  rw [inherits.others client apart]
  exact live

end Inherits

theorem addClient_inherits {added : Bool × Server}
    (adds : server.addClient connFd outcomes = some added) :
    Inherits server added.2 server.clients.fresh := by
  let addressed := (server.toSocket.duplicate Socket.new).setAddress
    (Socket.dotted server.addr.host)
  have address : addressed.socket.tvTimeout = server.tvTimeout := by
    unfold addressed Socket.setAddress
    split <;> rfl
  have port : (addressed.socket.setPort server.addr.port.toNat).socket.tvTimeout =
      server.tvTimeout := by
    unfold Socket.setPort
    split <;> exact address
  have named : Inherits server (server.newClient.onClient server.clients.fresh addressed)
      server.clients.fresh := Inherits.newClient.onClient address
  have ported := named.onClient port
  unfold addClient at adds
  dsimp only at adds
  split at adds
  · obtain ⟨deleted, deletes, result⟩ := Option.map_eq_some_iff.mp adds
    cases result
    exact named.deleteClient deletes
  · split at adds
    · obtain ⟨deleted, deletes, result⟩ := Option.map_eq_some_iff.mp adds
      cases result
      exact ported.deleteClient deletes
    · have attached := @Inherits.attachClient _ _ outcomes _ _ connFd
        (ported.emit (lockOf .server)) port
      split at adds
      · obtain ⟨deleted, deletes, result⟩ := Option.map_eq_some_iff.mp adds
        cases result
        exact attached.deleteClient deletes
      · obtain ⟨linked, links, result⟩ := Option.map_eq_some_iff.mp adds
        cases result
        have same := linkClient_clients links
        refine ⟨fun other apart => ?_, fun socket there => attached.timeout socket ?_⟩
        · exact (congrArg (Arena.get? · other) same).trans (attached.others other apart)
        · exact (congrArg (Arena.get? · server.clients.fresh) same).symm.trans there

/-- An accepted client is the only one that is new or changed. -/
theorem acceptNewClient_inherits {added : Bool × Server}
    (accepts : server.acceptNewClient outcomes = some added) :
    Inherits server added.2 server.clients.fresh := by
  have unborn : ∀ {socket}, server.clients.get? server.clients.fresh ≠ some socket := by simp
  unfold acceptNewClient at accepts
  dsimp only at accepts
  split at accepts
  · cases accepts
    split
    · exact ⟨fun _ _ => rfl, fun _ there => absurd there unborn⟩
    · exact ⟨fun _ _ => rfl, fun _ there => absurd there unborn⟩
  · rename_i accepted
    rw [if_pos (by omega)] at accepts
    obtain ⟨result, adds, same⟩ := Option.map_eq_some_iff.mp accepts
    cases same
    have inherits := addClient_inherits adds
    exact ⟨inherits.others, inherits.timeout⟩

/-! ## Checking for events -/

/-- The clients that are left are as they were. -/
def Shrinks (before after : Server) : Prop :=
  ∀ client socket, after.clients.get? client = some socket →
    before.clients.get? client = some socket

theorem deleteCollection_shrinks (deletes : server.deleteCollection node outcomes = some after) :
    Shrinks server after := by
  obtain ⟨collection, -, deletes⟩ := Option.bind_eq_some_iff.mp deletes
  obtain ⟨closed, closes, result⟩ := Option.bind_eq_some_iff.mp deletes
  obtain ⟨object, -, isClosed⟩ := Option.map_eq_some_iff.mp closes
  cases result
  cases isClosed
  intro client socket there
  have left : (server.clients.destroy collection.client).get? client = some socket := there
  by_cases same : client = collection.client
  · rw [same, Arena.get?_destroy_self] at left
    contradiction
  · rw [Arena.get?_destroy_of_ne same] at left
    exact left

theorem removeClient_shrinks {target : Option ClientId} {removed : Bool × Server}
    (removes : server.removeClient target outcomes = some removed) :
    Shrinks server removed.2 := by
  have keeps : RemovalKeeps (Shrinks server) outcomes :=
    ⟨fun _ _ _ _ _ shrinks => shrinks, fun _ _ _ shrinks => shrinks,
      fun _ _ _ deletes shrinks client socket there =>
        shrinks client socket (deleteCollection_shrinks deletes client socket there)⟩
  exact removeClient_keeps keeps (fun _ _ there => there) removes

/-- The walk goes on behind the node, and not back to the first. -/
def PassesOn (server : Server) (sight : CollectionId → Sight) (i j : CollectionId) : Prop :=
  ¬ (sight i).Stops ∧ server.next i = some j ∧ some j ≠ server.clientList

/-- The walk from the first node comes to one that has expired, and nothing else stops
it there or before. -/
def Expires (server : Server) (sight : CollectionId → Sight) : Prop :=
  ∃ head node, server.clientList = some head ∧
    Relation.ReflTransGen (server.PassesOn sight) head node ∧ (sight node).expired = true ∧
    ((sight node).active = false → (sight node).readable = false)

theorem scanLoop_expires {tmp behind : Option CollectionId} (reaped : Reaped outcomes server middle)
    (result : middle.scanLoop outcomes tmp fuel head = some (after, .idle node behind)) :
    Relation.ReflTransGen (server.PassesOn (server.sight outcomes)) head node ∧
      (server.sight outcomes node).expired = true ∧
      ((server.sight outcomes node).active = false →
        (server.sight outcomes node).readable = false) := by
  induction fuel generalizing middle head tmp with
  | zero => contradiction
  | succ fuel ih =>
      obtain ⟨later, reapedLater, stop, go⟩ := scanLoop_turn result
      rw [reaped.sight_eq] at stop go
      have both := reaped.trans reapedLater
      by_cases stops : (server.sight outcomes head).Stops
      · obtain ⟨front, back, split, -, expired, unready⟩ :=
          chooseFrom_drop_iff.mp (stop [] stops).symm
        have here : head = node := by
          cases front with
          | nil => exact (List.cons.inj split).1
          | cons first front => simp at split
        subst here
        exact ⟨.refl, expired, unready⟩
      · rcases go stops with ⟨-, choice⟩ | ⟨next, linked, further, goes⟩
        · obtain ⟨front, back, split, -⟩ := chooseFrom_drop_iff.mp choice.symm
          simp at split
        · obtain ⟨path, ends⟩ := ih both goes
          have list : middle.clientList = server.clientList :=
            congrArg TCPServer.clientList reaped.server
          rw [both.same.next] at linked
          rw [list] at further
          exact ⟨path.head ⟨stops, linked, further⟩, ends⟩

theorem scan_expires {behind : Option CollectionId}
    (result : server.scan outcomes = some (after, .idle node behind)) :
    server.Expires (server.sight outcomes) := by
  unfold scan at result
  split at result
  · cases result
  · rename_i head first
    obtain ⟨path, expired, unready⟩ := scanLoop_expires (.refl server) result
    exact ⟨head, node, first, path, expired, unready⟩

theorem Expires.of_reaped {sight : CollectionId → Sight} (expires : middle.Expires sight)
    (reaped : Reaped outcomes server middle) : server.Expires sight := by
  have list : middle.clientList = server.clientList := congrArg TCPServer.clientList reaped.server
  have same : middle.PassesOn sight = server.PassesOn sight := by
    funext i j
    rw [PassesOn, PassesOn, reaped.same.next, list]
  rw [Expires, list, same] at expires
  exact expires

/-- The client was asked for its bytes and had none, although it was readable. -/
structure Silent (server : Server) (outcomes : Outcomes) (client : ClientId) : Prop where
  asked : server.asked outcomes = some client
  readable : ∃ socket, server.clients.get? client = some socket ∧
    socket.sockFd ∈ outcomes.readfds
  empty : outcomes.inputBytes = false

/-- The client that is asked is that of the node at which the scan stops. -/
theorem asked_of_scan {filled : Server} (fills : server.lock.fillSet = some filled)
    (scans : filled.scan outcomes = some (after, .clientEvent node))
    (reaped : Reaped outcomes server after) : server.asked outcomes = after.clientAt node := by
  unfold asked
  rw [fills]
  simp only [bind, Option.bind_some, scans]
  exact reaped.same.clientAt.symm

/-- Only this client is gone, if any is. -/
structure Drops (before after : Server) (client : ClientId) : Prop where
  others : ∀ other, other ≠ client → after.clients.get? other = before.clients.get? other
  shrinks : Shrinks before after

theorem Drops.of_clients (drops : Drops middle after client)
    (clients : middle.clients = server.clients) : Drops server after client where
  others other apart := by rw [drops.others other apart, clients]
  shrinks other socket there := by
    rw [← clients]
    exact drops.shrinks other socket there

theorem inherits_of_same (same : after.clients = server.clients) :
    Inherits server after server.clients.fresh where
  others other _ := by rw [same]
  timeout socket there := by
    rw [same, Arena.get?_fresh] at there
    contradiction

theorem startThread_clients {collection : ClientCollection} :
    (server.startThread node collection outcomes).clients = server.clients := by
  unfold startThread
  dsimp only
  split
  · split <;> rfl
  · split <;> rfl

theorem clientEvent_clients {event : ServerEvent × Server}
    (checks : server.clientEvent node outcomes = some event) :
    event.1 ≠ .clientDisconnected ∧ event.2.clients = server.clients ∨
      event.1 = .clientDisconnected ∧ outcomes.inputBytes = false ∧
        ∃ client, server.clientAt node = some client ∧ Drops server event.2 client := by
  obtain ⟨collection, found, ⟨empty, removed, removes, result⟩ |
    ⟨-, isBytes, ⟨-, same⟩ | ⟨function, -, ⟨-, same⟩ | ⟨-, same⟩⟩⟩⟩ := clientEvent_cases checks
  · subst result
    have owned := Sound.clientAt_of_get? found
    have dropped : Drops (server.polled node collection outcomes).lock removed.2
        collection.client :=
      ⟨fun _ apart => removeClient_others removes apart, removeClient_shrinks removes⟩
    exact .inr ⟨rfl, empty, collection.client, owned, dropped.others, dropped.shrinks⟩
  · exact .inl ⟨by rw [isBytes]; decide, by rw [same]; rfl⟩
  · exact .inl ⟨by rw [isBytes]; decide, by rw [same]; rfl⟩
  · exact .inl ⟨by rw [isBytes]; decide, by rw [same, startThread_clients]; rfl⟩

theorem dropIdle_clients {tmp : Option CollectionId} {event : ServerEvent × Server}
    (drops : server.dropIdle node tmp outcomes = some event) :
    event.1 = .clientDisconnected ∧ ∃ client, Drops server event.2 client := by
  obtain ⟨collection, -, drops⟩ := Option.bind_eq_some_iff.mp drops
  obtain ⟨removed, removes, drops⟩ := Option.bind_eq_some_iff.mp drops
  have dropped : Drops server removed.2 collection.client :=
    ⟨fun _ apart => removeClient_others removes apart, removeClient_shrinks removes⟩
  cases tmp with
  | none =>
      cases drops
      exact ⟨rfl, collection.client, dropped.others, dropped.shrinks⟩
  | some tmp =>
      obtain ⟨behind, -, result⟩ := Option.bind_eq_some_iff.mp drops
      cases result
      exact ⟨rfl, collection.client, dropped.others, dropped.shrinks⟩

theorem connectRequest_clients {event : ServerEvent × Server}
    (requests : server.connectRequest outcomes = some event) :
    event.1 ≠ .clientDisconnected ∧ Inherits server event.2 server.clients.fresh := by
  unfold connectRequest at requests
  split at requests
  · cases requests
    exact ⟨nofun, inherits_of_same rfl⟩
  · obtain ⟨added, accepts, result⟩ := Option.map_eq_some_iff.mp requests
    cases result
    have inherits := acceptNewClient_inherits accepts
    exact ⟨nofun, inherits.others, inherits.timeout⟩

/-- What a check does to the clients: it may add one, or it drops one that is silent,
or the scan has come to one that has expired. -/
theorem eventCheck_clients {event : ServerEvent × Server}
    (checks : server.eventCheck outcomes = some event) :
    event.1 ≠ .clientDisconnected ∧ Inherits server event.2 server.clients.fresh ∨
      event.1 = .clientDisconnected ∧ ∃ client, Drops server event.2 client ∧
        (server.Silent outcomes client ∨ server.Expires (server.sight outcomes)) := by
  unfold eventCheck at checks
  dsimp only at checks
  split at checks
  · cases checks
    exact .inl ⟨nofun, inherits_of_same rfl⟩
  · obtain ⟨filled, fills, checks⟩ := Option.bind_eq_some_iff.mp checks
    have clients : filled.clients = server.clients := (fillSet_clients fills :)
    have collections : filled.collections = server.collections := (fillSet_collections fills :)
    have object : filled.toTCPServer = server.toTCPServer := (fillSet_toTCPServer fills :)
    split at checks
    · cases checks
      exact .inl ⟨nofun, inherits_of_same clients⟩
    · split at checks
      · obtain ⟨other, inherits⟩ := connectRequest_clients checks
        have timeout : filled.tvTimeout = server.tvTimeout :=
          congrArg (fun object : TCPServer => object.tvTimeout) object
        rw [clients] at inherits
        exact .inl ⟨other, inherits.of_clients clients timeout⟩
      · obtain ⟨⟨scanned, scanning⟩, scans, checks⟩ := Option.bind_eq_some_iff.mp checks
        have seen : Reaped outcomes server filled :=
          ⟨object, clients, fun node => .inl (by rw [collections])⟩
        obtain ⟨reapedFilled, found⟩ := scan_found scans
        have reaped := seen.trans reapedFilled
        cases scanning with
        | clientEvent node =>
            obtain ⟨collection, socket, foundNode, there, readable⟩ := found
            have owned := Sound.clientAt_of_get? foundNode
            rcases clientEvent_clients checks with ⟨other, same⟩ |
              ⟨disconnected, empty, client, owns, drops⟩
            · exact .inl ⟨other, inherits_of_same (same.trans reaped.clients)⟩
            · cases owned.symm.trans owns
              have isAsked := (asked_of_scan fills scans reaped).trans owned
              rw [reaped.clients] at there
              exact .inr ⟨disconnected, collection.client, drops.of_clients reaped.clients,
                .inl ⟨isAsked, ⟨socket, there, readable⟩, empty⟩⟩
        | idle node tmp =>
            obtain ⟨disconnected, client, drops⟩ := dropIdle_clients checks
            have expires := scan_expires scans
            rw [seen.sight_eq] at expires
            exact .inr ⟨disconnected, client, drops.of_clients reaped.clients,
              .inr (expires.of_reaped seen)⟩
        | nothing =>
            cases checks
            exact .inl ⟨nofun, inherits_of_same reaped.clients⟩

/-! ## Without a timeout -/

/-- The server and all of its clients have this timeout. -/
structure Timed (server : Server) (time : TimeVal) : Prop where
  own : server.tvTimeout = time
  clients : ∀ client socket, server.clients.get? client = some socket → socket.tvTimeout = time

theorem Timed.of_inherits {time : TimeVal} (timed : server.Timed time)
    (own : after.tvTimeout = server.tvTimeout) (inherits : Inherits server after client) :
    after.Timed time where
  own := own.trans timed.own
  clients other socket there := by
    by_cases same : other = client
    · subst same
      exact (inherits.timeout socket there).trans timed.own
    · rw [inherits.others other same] at there
      exact timed.clients other socket there

theorem eventCheck_timed {time : TimeVal} {event : ServerEvent × Server}
    (timed : server.Timed time) (checks : server.eventCheck outcomes = some event) :
    event.2.Timed time := by
  have own : event.2.tvTimeout = server.tvTimeout :=
    (congrArg (fun object : TCPServer => object.tvTimeout) (eventCheck_config checks) :)
  rcases eventCheck_clients checks with ⟨-, inherits⟩ | ⟨-, client, drops, -⟩
  · exact timed.of_inherits own inherits
  · exact ⟨own.trans timed.own, fun other socket there =>
      timed.clients other socket (drops.shrinks other socket there)⟩

theorem acceptNewClient_timed {time : TimeVal} {added : Bool × Server}
    (timed : server.Timed time) (accepts : server.acceptNewClient outcomes = some added) :
    added.2.Timed time :=
  timed.of_inherits
    (congrArg (fun object : TCPServer => object.tvTimeout) (acceptNewClient_config accepts) :)
    (acceptNewClient_inherits accepts)

/-- What the scan sees of a node if there is no timeout: its client has expired after
a millisecond, counted in an `int`. -/
def sightUntimed (server : Server) (outcomes : Outcomes) (node : CollectionId) : Sight :=
  match server.collections.get? node with
  | none => ⟨false, false, false⟩
  | some collection =>
      match server.clients.get? collection.client with
      | none => ⟨false, false, false⟩
      | some socket =>
          ⟨server.client = some collection.client, socket.sockFd ∈ outcomes.readfds,
            (collection.pipe.1 ≤ 0 ∨ collection.pipe.1 ∈ outcomes.readfds) ∧
              0 < Int.bmod (outcomes.tv.wholeSince collection.lastActivity) (2 ^ 32)⟩

theorem isSocketTimeout_untimed {ref last : TimeVal} (untimed : socket.tvTimeout = ⟨0, 0⟩) :
    socket.isSocketTimeout ref last = true ↔ 0 < Int.bmod (ref.wholeSince last) (2 ^ 32) := by
  unfold Socket.isSocketTimeout
  rw [untimed, TimeVal.wholeSince_eq]
  simp

theorem Timed.sight (timed : server.Timed ⟨0, 0⟩) :
    server.sight outcomes = server.sightUntimed outcomes := by
  funext node
  unfold Server.sight sightUntimed
  cases server.collections.get? node with
  | none => rfl
  | some collection =>
      dsimp only
      cases there : server.clients.get? collection.client with
      | none => rfl
      | some socket => simp [isSocketTimeout_untimed (timed.clients _ _ there)]

/-- The check comes to a client that has been without activity for a millisecond. -/
def Lapses (server : Server) (outcomes : Outcomes) : Prop :=
  server.Looks outcomes ∧ server.Expires (server.sightUntimed outcomes)

/-- In a sound ring the walk is along the ring. -/
theorem Sound.expires {ring : List CollectionId} {sight : CollectionId → Sight}
    (sound : server.Sound ring) (expires : server.Expires sight) :
    ∃ node, chooseFrom sight none ring = .drop node := by
  obtain ⟨head, node, first, path, expired, unready⟩ := expires
  have passed : ∀ node, Relation.ReflTransGen (server.PassesOn sight) head node →
      ∃ front back, ring = front ++ node :: back ∧ ∀ i ∈ front, ¬ (sight i).Stops := by
    intro node path
    induction path with
    | refl =>
        rw [sound.head] at first
        obtain ⟨rest, same⟩ := List.head?_eq_some_iff.mp first
        exact ⟨[], rest, same, by simp⟩
    | @tail i j _ step ih =>
        obtain ⟨goes, linked, further⟩ := step
        obtain ⟨front, back, split, stays⟩ := ih
        subst split
        cases back with
        | nil =>
            rw [sound.visit_last] at linked
            exact absurd linked.symm further
        | cons next back =>
            rw [sound.isRing.next_inner] at linked
            cases linked
            refine ⟨front ++ [i], back, by simp, fun k member => ?_⟩
            rcases List.mem_append.mp member with before | here
            · exact stays k before
            · rw [List.mem_singleton.mp here]
              exact goes
  obtain ⟨front, back, split, stays⟩ := passed node path
  exact ⟨node, chooseFrom_drop_iff.mpr ⟨front, back, split, stays, expired, unready⟩⟩

/-- The server behind a call of `setTimeout`. -/
def configured (server : Server) (timeout : Timeout) : Server :=
  let call := timeout.set server.toSocket
  { server with toSocket := call.socket }.emit (call.actsOf .server)

theorem New.configured_timed {timeout : Timeout} (new : server.New)
    (accepted : (timeout.set server.toSocket).result = true)
    (zero : timeout.milliseconds = 0) : (server.configured timeout).Timed ⟨0, 0⟩ where
  own := Timeout.set_zero accepted zero
  clients client socket there := by
    have none : server.clients.get? client = some socket := there
    rw [new.clients, Arena.get?_empty] at none
    contradiction

end Server

inductive PollStep where
  | eventCheck (outcomes : Outcomes)
  | acceptNewClient (outcomes : Outcomes)

namespace PollStep

variable {server : Server} {step : PollStep} {steps : List PollStep} {ring : List CollectionId}

def run (server : Server) : PollStep → Option Server
  | .eventCheck outcomes => (server.eventCheck outcomes).map Prod.snd
  | .acceptNewClient outcomes => (server.acceptNewClient outcomes).map Prod.snd

def Leads (server : Server) (step : PollStep) (next : Server) : Prop :=
  step.run server = some next

/-- Every client that the step removes, and every one that it reports as disconnected,
was readable and had no bytes. -/
structure KeepsIdle (server : Server) (step : PollStep) : Prop where
  removed : ∀ after client, step.run server = some after →
    server.clients.get? client ≠ none → after.clients.get? client = none →
      ∃ outcomes, step = .eventCheck outcomes ∧ server.Silent outcomes client
  reported : ∀ outcomes after, step = .eventCheck outcomes →
    server.eventCheck outcomes = some (.clientDisconnected, after) →
      ∃ client, server.Silent outcomes client

/-- The step does not come to a client that has been without activity. -/
def NoneLapses (server : Server) (step : PollStep) : Prop :=
  ∀ outcomes, step = .eventCheck outcomes → ¬ server.Lapses outcomes

theorem leads_timed {next : Server} {time : TimeVal} (timed : server.Timed time)
    (leads : step.Leads server next) : next.Timed time := by
  cases step with
  | eventCheck outcomes =>
      obtain ⟨event, checks, result⟩ := Option.map_eq_some_iff.mp leads
      subst result
      exact Server.eventCheck_timed timed checks
  | acceptNewClient outcomes =>
      obtain ⟨added, accepts, result⟩ := Option.map_eq_some_iff.mp leads
      subst result
      exact Server.acceptNewClient_timed timed accepts

theorem eventCheck_keepsIdle {outcomes : Outcomes} (timed : server.Timed ⟨0, 0⟩)
    (none : ¬ server.Lapses outcomes) : (PollStep.eventCheck outcomes).KeepsIdle server := by
  have silent {event : ServerEvent × Server} (checks : server.eventCheck outcomes = some event)
      {client : ClientId} (disconnected : event.1 = .clientDisconnected)
      (either : server.Silent outcomes client ∨ server.Expires (server.sight outcomes)) :
      server.Silent outcomes client := by
    refine either.resolve_right fun expires => none ⟨?_, timed.sight ▸ expires⟩
    cases event with
    | mk event after =>
        cases disconnected
        exact Server.looks_of_disconnected checks
  refine ⟨fun after client ran live gone => ?_, fun others after same checks => ?_⟩
  · obtain ⟨event, checks, result⟩ := Option.map_eq_some_iff.mp ran
    subst result
    rcases Server.eventCheck_clients checks with ⟨-, inherits⟩ |
      ⟨disconnected, dropped, drops, either⟩
    · exact absurd gone (inherits.live live)
    · by_cases here : client = dropped
      · subst here
        exact ⟨outcomes, rfl, silent checks disconnected either⟩
      · rw [drops.others client here] at gone
        exact absurd gone live
  · cases same
    rcases Server.eventCheck_clients checks with ⟨other, -⟩ |
      ⟨disconnected, dropped, drops, either⟩
    · exact absurd rfl other
    · exact ⟨dropped, silent checks disconnected either⟩

theorem keepsIdle_of_noneLapses (timed : server.Timed ⟨0, 0⟩) (none : step.NoneLapses server) :
    step.KeepsIdle server := by
  cases step with
  | eventCheck outcomes => exact eventCheck_keepsIdle timed (none outcomes rfl)
  | acceptNewClient outcomes =>
      refine ⟨fun after client ran live gone => ?_, fun others after same => by contradiction⟩
      obtain ⟨added, accepts, result⟩ := Option.map_eq_some_iff.mp ran
      subst result
      exact absurd gone ((Server.acceptNewClient_inherits accepts).live live)

/-- In a state with a sound ring no other step has the property. -/
theorem keepsIdle_iff (sound : server.Sound ring) (timed : server.Timed ⟨0, 0⟩) :
    step.KeepsIdle server ↔ step.NoneLapses server := by
  refine ⟨fun keeps outcomes same lapses => ?_, keepsIdle_of_noneLapses timed⟩
  obtain ⟨looks, expires⟩ := lapses
  rw [← timed.sight] at expires
  obtain ⟨node, dropped⟩ := sound.expires expires
  obtain ⟨front, back, split, -⟩ := chooseFrom_drop_iff.mp dropped
  obtain ⟨collection, found⟩ := @Server.Sound.get?_of_mem server ring node sound (by simp [split])
  obtain ⟨filled, scanned, tmp, after, fills, scans, ran, -⟩ :=
    Server.eventCheck_drops sound looks dropped (Server.Sound.clientAt_of_get? found)
  obtain ⟨client, silent⟩ := keeps.reported outcomes after same ran
  have asked := silent.asked
  unfold Server.asked at asked
  rw [fills] at asked
  simp [scans] at asked

/-- Without a timeout, a run whose checks come to no client that has been without
activity removes only clients that are silent, and wherever the ring is sound no other
step does. -/
theorem untimed_keepsIdle (server : Server) (timeout : Timeout) (steps : List PollStep)
    (new : server.New) (accepted : (timeout.set server.toSocket).result = true)
    (zero : timeout.milliseconds = 0) :
    (Throughout Leads (fun server step => step.NoneLapses server) (server.configured timeout)
        steps →
      Throughout Leads (fun server step => step.KeepsIdle server) (server.configured timeout)
        steps) ∧
    Throughout Leads (fun server step => server.WellFormed →
      (step.KeepsIdle server ↔ step.NoneLapses server)) (server.configured timeout) steps := by
  have timed : (server.configured timeout).Timed ⟨0, 0⟩ := new.configured_timed accepted zero
  have keeps : ∀ (server : Server) (step : PollStep) (next : Server), server.Timed ⟨0, 0⟩ →
      step.Leads server next → next.Timed ⟨0, 0⟩ :=
    fun _ _ _ timed leads => leads_timed timed leads
  have each : Throughout Leads (fun server step => step.NoneLapses server →
      step.KeepsIdle server) (server.configured timeout) steps :=
    throughout_of_kept timed (fun _ _ timed none => keepsIdle_of_noneLapses timed none) keeps
  refine ⟨each.mp, throughout_of_kept timed ?_ keeps⟩
  intro server step timed wellFormed
  obtain ⟨ring, sound⟩ := wellFormed
  exact keepsIdle_iff sound timed

def joined : Outcomes := { Server.quiet with connFd := 5, peer := ⟨40000, [127, 0, 0, 1]⟩ }

/-- Nothing is readable, and less than a millisecond has gone by, or one. -/
def early : Outcomes := { Server.quiet with tv := ⟨0, 999⟩ }

def late : Outcomes := { Server.quiet with tv := ⟨0, 1000⟩ }

theorem untimed_keepsIdle_early :
    Throughout Leads (fun server step => step.KeepsIdle server)
      (Server.listening.configured (.parts 0 0)) [.acceptNewClient joined, .eventCheck early] := by
  refine (untimed_keepsIdle Server.listening (.parts 0 0) _ Server.listening_new (by decide)
    (by decide)).1 ⟨fun _ same => by contradiction, fun next leads => ⟨?_, fun _ _ => trivial⟩⟩
  have result : ((PollStep.acceptNewClient joined).run (Server.listening.configured
      (.parts 0 0))).map (fun next => next.collections) =
        some ⟨[some ⟨0, ⟨0, 0⟩, 0, (0, 0), some 0⟩]⟩ := by
    decide +kernel
  obtain ⟨other, same, nodes⟩ := Option.map_eq_some_iff.mp result
  cases same.symm.trans leads
  intro outcomes same lapses
  cases same
  obtain ⟨-, -, i, -, -, expired, -⟩ := lapses
  unfold Server.sightUntimed at expired
  split at expired
  · contradiction
  · rename_i collection found
    rw [nodes] at found
    have here : collection.lastActivity = ⟨0, 0⟩ := by
      cases i with
      | zero =>
          cases found
          rfl
      | succ i => simp [Arena.get?] at found
    split at expired
    · contradiction
    · rw [here] at expired
      exact absurd (of_decide_eq_true expired).2 (by decide)

/-- One client, which has been connected for a millisecond: it is dropped although the
timeout is zero. -/
theorem untimed_drops_idle :
    ¬ ∀ (server : Server) (timeout : Timeout) (steps : List PollStep), server.New →
      (timeout.set server.toSocket).result = true → timeout.milliseconds = 0 →
        Throughout Leads (fun server step => step.KeepsIdle server) (server.configured timeout)
          steps := by
  intro all
  have result : ((PollStep.acceptNewClient joined).run
      (Server.listening.configured (.whole 0))).bind (fun one =>
        (one.eventCheck late).map Prod.fst) = some .clientDisconnected := by
    decide +kernel
  obtain ⟨one, joins, result⟩ := Option.bind_eq_some_iff.mp result
  obtain ⟨⟨event, after⟩, checks, isEvent⟩ := Option.map_eq_some_iff.mp result
  cases isEvent
  have run := all Server.listening (.whole 0) [.acceptNewClient joined, .eventCheck late]
    Server.listening_new (by decide) (by decide)
  obtain ⟨client, silent⟩ := (run.2 one joins).1.reported late after rfl checks
  obtain ⟨socket, -, readable⟩ := silent.readable
  contradiction

end PollStep

end SynapTCP
