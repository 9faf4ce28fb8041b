import SynapTCP.Server.Configuration
import SynapTCP.Threads.Events

namespace SynapTCP

open Data

/-! # What only the dispatch does

The dispatch of `eventCheck` calls the reception handler and starts threads for it.
The rest of the methods does neither, and no method gives a node another client.
-/

/-- A call of the reception handler, or the start of a thread that calls it. -/
def Effect.isCall : Effect → Bool
  | .reception _ _ _ | .create _ _ => true
  | .act _ | .fdSet _ | .select _ | .connectionRequest _ _ | .join _ => false

namespace Server

variable {server middle after : Server} {outcomes : Outcomes} {node head : CollectionId}
  {client : ClientId} {socket : Socket} {connFd : Int} {collection : ClientCollection}
  {fuel : Nat}

def calls (log : List Effect) : List Effect := log.filter Effect.isCall

@[simp] theorem calls_append (left right : List Effect) :
    calls (left ++ right) = calls left ++ calls right := List.filter_append left right

@[simp] theorem calls_acts (acts : List (Act (Resource Owner))) : calls (acts.map .act) = [] := by
  induction acts with
  | nil => rfl
  | cons act acts ih => exact ih

@[simp] theorem calls_fdSets (fds : List Int) : calls (fds.map .fdSet) = [] := by
  induction fds with
  | nil => rfl
  | cons fd fds ih => exact ih

theorem clientAt_set {written : ClientCollection}
    (kept : server.clientAt node = some written.client) (other : CollectionId) :
    { server with collections := server.collections.set node written }.clientAt other =
      server.clientAt other := by
  unfold clientAt at *
  by_cases same : other = node
  · obtain ⟨collection, found, -⟩ := Option.map_eq_some_iff.mp kept
    rw [same, Arena.get?_set_self found, kept, Option.map_some]
  · rw [Arena.get?_set_of_ne same]

theorem clientAt_make (made : ClientCollection) :
    { server with collections := server.collections.make made }.clientAt
      server.collections.fresh = some made.client := by
  unfold clientAt
  rw [Arena.get?_make_fresh, Option.map_some]

/-- A node that is left has the client that it had. -/
structure SameOwners (before after : Server) : Prop where
  fresh : before.collections.fresh ≤ after.collections.fresh
  owners : ∀ node client, node < before.collections.fresh →
    after.clientAt node = some client → before.clientAt node = some client

/-- The handler is not called and no thread is started either. -/
structure Calm (before after : Server) : Prop extends SameOwners before after where
  calls : calls after.log = calls before.log

namespace SameOwners

theorem refl (server : Server) : SameOwners server server := ⟨Nat.le_refl _, fun _ _ _ here => here⟩

theorem trans (left : SameOwners server middle) (right : SameOwners middle after) :
    SameOwners server after := by
  refine ⟨Nat.le_trans left.fresh right.fresh, fun node client made here => ?_⟩
  exact left.owners node client made
    (right.owners node client (Nat.lt_of_lt_of_le made left.fresh) here)

theorem of_eq (same : after.collections = server.collections) : SameOwners server after := by
  refine ⟨by rw [same], fun node client _ here => ?_⟩
  unfold clientAt at *
  rwa [same] at here

theorem set {written : ClientCollection} (kept : server.clientAt node = some written.client)
    (writes : after.collections = server.collections.set node written) :
    SameOwners server after := by
  refine ⟨by rw [writes, Arena.fresh_set], fun other client _ here => ?_⟩
  rw [← clientAt_set kept]
  unfold clientAt at *
  rwa [writes] at here

end SameOwners

namespace Calm

theorem refl (server : Server) : Calm server server := ⟨.refl server, rfl⟩

theorem trans (left : Calm server middle) (right : Calm middle after) : Calm server after :=
  ⟨left.toSameOwners.trans right.toSameOwners, right.calls.trans left.calls⟩

theorem clients (clients : Arena Socket) (acts : List (Act (Resource Owner))) :
    Calm server ({ server with clients }.emit acts) := by
  refine ⟨.of_eq rfl, ?_⟩
  show Server.calls (server.log ++ acts.map .act) = _
  rw [calls_append, calls_acts, List.append_nil]

theorem emit (acts : List (Act (Resource Owner))) : Calm server (server.emit acts) :=
  clients server.clients acts

theorem set {written : ClientCollection} (kept : server.clientAt node = some written.client) :
    Calm server { server with collections := server.collections.set node written } :=
  ⟨.set kept rfl, rfl⟩

theorem link (found : server.collections.get? node = some collection)
    (next : Option CollectionId) :
    Calm server { server with
      collections := server.collections.set node { collection with next } } := by
  have owner : server.clientAt node = some collection.client := Sound.clientAt_of_get? found
  exact set owner

theorem destroy : Calm server { server with collections := server.collections.destroy node } := by
  refine ⟨⟨Nat.le_of_eq Arena.fresh_destroy.symm, fun other client _ here => ?_⟩, rfl⟩
  unfold clientAt at *
  by_cases same : other = node
  · rw [same, Arena.get?_destroy_self] at here
    contradiction
  · rwa [Arena.get?_destroy_of_ne same] at here

theorem make (made : ClientCollection) :
    Calm server { server with collections := server.collections.make made } := by
  refine ⟨⟨?_, fun other client below here => ?_⟩, rfl⟩
  · rw [Arena.fresh_make]
    exact Nat.le_succ _
  · unfold clientAt at *
    rwa [Arena.get?_make_of_ne (Nat.ne_of_lt below)] at here

theorem congr {same : Server} (calm : Calm server after)
    (collections : same.collections = after.collections) (log : same.log = after.log) :
    Calm server same :=
  calm.trans ⟨.of_eq collections, by rw [log]⟩

end Calm

/-! ## Removing -/

theorem deleteClient_calm (deletes : server.deleteClient client outcomes = some after) :
    Calm server after := by
  obtain ⟨socket, -, result⟩ := Option.map_eq_some_iff.mp deletes
  cases result
  exact .clients _ _

theorem deleteCollection_calm (deletes : server.deleteCollection node outcomes = some after) :
    Calm server after := by
  obtain ⟨collection, -, deletes⟩ := Option.bind_eq_some_iff.mp deletes
  obtain ⟨closed, closes, result⟩ := Option.bind_eq_some_iff.mp deletes
  cases result
  have ends := (deleteClient_calm closes).trans (Calm.emit (pipeEnds collection.pipe))
  have calm := ends.trans (@Calm.destroy _ node)
  refine ⟨⟨calm.fresh, calm.owners⟩, ?_⟩
  have joined : calls (if 0 < collection.th then [Effect.join collection.th] else []) = [] := by
    split <;> rfl
  show calls (_ ++ _) = _
  rw [calls_append, joined, List.append_nil]
  exact calm.calls

theorem removeClient_calm {target : Option ClientId} {removed : Bool × Server}
    (removes : server.removeClient target outcomes = some removed) : Calm server removed.2 := by
  have keeps : RemovalKeeps (Calm server) outcomes :=
    ⟨fun _ _ _ next found calm => calm.trans (.link found next),
      fun _ _ _ calm => calm.congr rfl rfl,
      fun _ _ _ deletes calm => calm.trans (deleteCollection_calm deletes)⟩
  exact removeClient_keeps keeps (.refl server) removes

/-! ## Adding -/

theorem linkClient_calm (links : server.linkClient client outcomes = some after) :
    Calm server after := by
  have made := @Calm.make server ⟨client, outcomes.created, 0, (0, 0), none⟩
  have owner := @clientAt_make server ⟨client, outcomes.created, 0, (0, 0), none⟩
  unfold linkClient at links
  dsimp only at links
  split at links
  · rename_i head here
    cases links
    have linked := @Calm.set _ server.collections.fresh
      ⟨client, outcomes.created, 0, (0, 0), some server.collections.fresh⟩ owner
    exact (made.trans linked).congr rfl rfl
  · rename_i head here
    obtain ⟨tmp, -, links⟩ := Option.bind_eq_some_iff.mp links
    obtain ⟨last, found, result⟩ := Option.bind_eq_some_iff.mp links
    cases result
    have lastOwner : { server with
        collections := server.collections.make
          ⟨client, outcomes.created, 0, (0, 0), none⟩ }.clientAt tmp = some last.client :=
      Sound.clientAt_of_get? found
    have behind := @Calm.set _ tmp { last with next := some server.collections.fresh } lastOwner
    have kept := (@clientAt_set _ tmp { last with next := some server.collections.fresh }
      lastOwner server.collections.fresh).trans owner
    have linked := @Calm.set _ server.collections.fresh
      ⟨client, outcomes.created, 0, (0, 0), some head⟩ kept
    exact (made.trans behind).trans linked

theorem addClient_calm {added : Bool × Server}
    (adds : server.addClient connFd outcomes = some added) : Calm server added.2 := by
  have keeps : AdditionKeeps (Calm server) outcomes :=
    ⟨fun _ _ _ calm => calm.trans (.clients _ _),
      fun _ _ _ links calm => calm.trans (linkClient_calm links)⟩
  exact addClient_keeps keeps (.refl server) adds

theorem acceptNewClient_calm {added : Bool × Server}
    (accepts : server.acceptNewClient outcomes = some added) : Calm server added.2 := by
  have accepted : Calm server (if 0 ≤ outcomes.connFd then
      { server.lock with addr := outcomes.peer }.emit [.acquire (.descriptor outcomes.connFd)]
      else server.lock) := by
    have locked : Calm server server.lock := .emit _
    split
    · exact (locked.trans (.emit [.acquire (.descriptor outcomes.connFd)])).congr rfl rfl
    · exact locked
  unfold acceptNewClient at accepts
  dsimp only at accepts
  split at accepts
  · cases accepts
    exact accepted.trans (.emit _)
  · obtain ⟨result, adds, same⟩ := Option.map_eq_some_iff.mp accepts
    cases same
    exact (accepted.trans (addClient_calm adds)).trans (.emit _)

/-! ## Checking for events -/

theorem fillSet_calm (fills : server.fillSet = some after) : Calm server after := by
  obtain ⟨filled, -, result⟩ := Option.map_eq_some_iff.mp fills
  cases result
  refine ⟨.of_eq rfl, ?_⟩
  have selects : calls [Effect.select (filled.1.toNat + 1)] = [] := rfl
  simp only [calls_append, calls_fdSets, calls_acts, selects, List.append_nil]

theorem reap_calm (found : server.collections.get? node = some collection) (readfds : List Int) :
    Calm server (server.reap node collection readfds) := by
  have owner : server.clientAt node = some collection.client := Sound.clientAt_of_get? found
  unfold reap
  split
  · exact (@Calm.set server node { collection with pipe := (0, 0) } owner).trans (.emit _)
  · exact .refl server

theorem scan_calm {scanned : Server × Scanning} (scans : server.scan outcomes = some scanned) :
    Calm server scanned.1 :=
  @scan_keeps (Calm server) server outcomes scanned
    (fun _ _ _ found calm => calm.trans (reap_calm found outcomes.readfds)) (.refl server) scans

theorem dropIdle_calm {tmp : Option CollectionId} {event : ServerEvent × Server}
    (drops : server.dropIdle node tmp outcomes = some event) : Calm server event.2 := by
  obtain ⟨collection, -, drops⟩ := Option.bind_eq_some_iff.mp drops
  obtain ⟨removed, removes, drops⟩ := Option.bind_eq_some_iff.mp drops
  have calm := removeClient_calm removes
  cases tmp with
  | none =>
      cases drops
      exact calm.trans (.emit _)
  | some tmp =>
      obtain ⟨behind, -, result⟩ := Option.bind_eq_some_iff.mp drops
      cases result
      exact (calm.trans (.emit (unlockOf .server))).congr rfl rfl

theorem connectRequest_calm {event : ServerEvent × Server}
    (requests : server.connectRequest outcomes = some event) : Calm server event.2 := by
  have unlocked : Calm server server.unlock := .emit _
  unfold connectRequest at requests
  split at requests
  · cases requests
    refine ⟨.of_eq rfl, ?_⟩
    show calls (_ ++ _) = _
    rw [calls_append, unlocked.calls]
    exact List.append_nil _
  · obtain ⟨added, accepts, result⟩ := Option.map_eq_some_iff.mp requests
    cases result
    exact unlocked.trans (acceptNewClient_calm accepts)

/-! ## The dispatch -/

/-- What `eventCheck` does for a client that has sent bytes. -/
def callFor (server : Server) (node : CollectionId) (client : ClientId) (function : Nat)
    (thread : Option Nat) : List Effect :=
  if server.receptionHandlerAsThread = false then
    [.reception function client server.conReqCallbackParam]
  else match thread with
    | none => []
    | some th => [.create th node]

theorem startThread_sameOwners (owned : server.clientAt node = some collection.client) :
    SameOwners server (server.startThread node collection outcomes) := by
  obtain ⟨changed, writes, -, client, -⟩ := @startThread_collections server node collection outcomes
  exact .set (owned.trans (congrArg some client.symm)) writes

theorem startThread_calls :
    calls (server.startThread node collection outcomes).log = calls server.log ++
      match outcomes.thread with
        | none => []
        | some th => [.create th node] := by
  obtain ⟨opening, waiting, log⟩ := @startThread_effects server node collection outcomes
  rw [log]
  simp only [calls_append, calls_acts, List.append_nil]
  cases outcomes.thread <;> rfl

/-- The handler is called for the client of the node, or a thread is started, if there
is a handler. -/
theorem clientEvent_calls {event : ServerEvent × Server}
    (checks : server.clientEvent node outcomes = some event) :
    SameOwners server event.2 ∧ (calls event.2.log = calls server.log ∨
      ∃ client function, server.clientAt node = some client ∧
        server.receptionCallbackFunction = some function ∧
        calls event.2.log = calls server.log ++
          server.callFor node client function outcomes.thread) := by
  obtain ⟨collection, found, cases⟩ := clientEvent_cases checks
  have owned : server.clientAt node = some collection.client := Sound.clientAt_of_get? found
  have calm : Calm server (server.polled node collection outcomes) := by
    have touched := @Calm.set server node { collection with lastActivity := outcomes.active } owned
    exact ((touched.trans (.emit (unlockOf .server))).trans (.emit _)).congr rfl rfl
  rcases cases with ⟨-, removed, removes, result⟩ |
    ⟨-, -, ⟨-, result⟩ | ⟨function, isHandler, ⟨synchronous, result⟩ | ⟨threaded, result⟩⟩⟩
  · rw [result]
    have removal := ((calm.trans (.emit (lockOf .server))).trans
      (removeClient_calm removes)).trans (.emit (unlockOf .server))
    exact ⟨removal.toSameOwners, .inl removal.calls⟩
  · rw [result]
    exact ⟨calm.toSameOwners, .inl calm.calls⟩
  · rw [result]
    refine ⟨calm.toSameOwners.trans (.of_eq rfl),
      .inr ⟨collection.client, function, owned, isHandler, ?_⟩⟩
    have call : server.callFor node collection.client function outcomes.thread =
        [.reception function collection.client server.conReqCallbackParam] := if_pos synchronous
    rw [calls_append, calm.calls, call]
    rfl
  · rw [result]
    have ownedPolled := (@polled_clientAt server node outcomes collection found node).trans owned
    refine ⟨calm.toSameOwners.trans (startThread_sameOwners ownedPolled),
      .inr ⟨collection.client, function, owned, isHandler, ?_⟩⟩
    have call : server.callFor node collection.client function outcomes.thread =
        match outcomes.thread with
          | none => []
          | some th => [.create th node] := if_neg (by rw [threaded]; nofun)
    rw [call, ← calm.calls]
    exact startThread_calls

/-- A check calls the handler for a client that is readable, or starts a thread for it. -/
theorem eventCheck_calls {event : ServerEvent × Server}
    (checks : server.eventCheck outcomes = some event) :
    SameOwners server event.2 ∧ (calls event.2.log = calls server.log ∨
      ∃ node client socket function, server.clientAt node = some client ∧
        server.clients.get? client = some socket ∧ socket.sockFd ∈ outcomes.readfds ∧
        server.receptionCallbackFunction = some function ∧
        calls event.2.log = calls server.log ++
          server.callFor node client function outcomes.thread) := by
  have locked : Calm server server.lock := .emit _
  unfold eventCheck at checks
  dsimp only at checks
  split at checks
  · cases checks
    have calm := locked.trans (.emit (unlockOf .server))
    exact ⟨calm.toSameOwners, .inl calm.calls⟩
  · obtain ⟨filled, fills, checks⟩ := Option.bind_eq_some_iff.mp checks
    have set := locked.trans (fillSet_calm fills)
    split at checks
    · cases checks
      have calm := set.trans (.emit (unlockOf .server))
      exact ⟨calm.toSameOwners, .inl calm.calls⟩
    · split at checks
      · have calm := set.trans (connectRequest_calm checks)
        exact ⟨calm.toSameOwners, .inl calm.calls⟩
      · obtain ⟨⟨after, scanning⟩, scans, checks⟩ := Option.bind_eq_some_iff.mp checks
        have scanned := set.trans (scan_calm scans)
        obtain ⟨reaped, selected⟩ := scan_found scans
        have clients : after.clients = server.clients :=
          reaped.clients.trans (@fillSet_clients server.lock filled fills)
        have object : after.toTCPServer = server.toTCPServer :=
          reaped.server.trans (@fillSet_toTCPServer server.lock filled fills)
        have owners (node : CollectionId) : after.clientAt node = server.clientAt node := by
          rw [reaped.same.clientAt]
          unfold clientAt
          rw [fillSet_collections fills]
          rfl
        cases scanning with
        | clientEvent node =>
            obtain ⟨collection, socket, found, there, readable⟩ := selected
            obtain ⟨same, heard⟩ := clientEvent_calls checks
            refine ⟨scanned.toSameOwners.trans same, ?_⟩
            rcases heard with silent | ⟨client, function, owned, isHandler, calls⟩
            · exact .inl (silent.trans scanned.calls)
            · rw [Sound.clientAt_of_get? found] at owned
              cases owned
              rw [clients] at there
              have handler : server.receptionCallbackFunction = some function := by
                rw [← isHandler, object]
              have call : after.callFor node collection.client function outcomes.thread =
                  server.callFor node collection.client function outcomes.thread := by
                unfold callFor
                rw [object]
              refine .inr ⟨node, collection.client, socket, function, ?_, there, readable,
                handler, ?_⟩
              · rw [← owners node, Sound.clientAt_of_get? found]
              · rw [calls, scanned.calls, call]
        | idle node tmp =>
            have calm := scanned.trans (dropIdle_calm checks)
            exact ⟨calm.toSameOwners, .inl calm.calls⟩
        | nothing =>
            cases checks
            have calm := scanned.trans (.emit (unlockOf .server))
            exact ⟨calm.toSameOwners, .inl calm.calls⟩

end Server

end SynapTCP
