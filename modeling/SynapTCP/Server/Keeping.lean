import SynapTCP.Server.EventCheck

namespace SynapTCP

open Data

/-! # Rules for the methods with loops

A property of the server that each change on the way keeps is kept by the method.
-/

namespace Server

variable {kept : Server → Prop} {server after : Server} {outcomes : Outcomes}
  {node head : CollectionId} {client : ClientId} {socket : Socket} {connFd : Int} {fuel : Nat}

/-! ## Removing -/

/-- The changes that `removeClient` makes. -/
structure RemovalKeeps (kept : Server → Prop) (outcomes : Outcomes) : Prop where
  link : ∀ server node collection next, server.collections.get? node = some collection →
    kept server →
      kept { server with collections := server.collections.set node { collection with next } }
  list : ∀ server clientList client, kept server → kept { server with clientList, client }
  delete : ∀ server after node, server.deleteCollection node outcomes = some after →
    kept server → kept after

theorem removeLoop_keeps {removed : Bool × Server} (keeps : RemovalKeeps kept outcomes)
    (holds : kept server)
    (removes : server.removeLoop head client outcomes fuel node = some removed) :
    kept removed.2 := by
  induction fuel generalizing node with
  | zero => contradiction
  | succ fuel ih =>
      obtain ⟨tmp, -, removes⟩ := Option.bind_eq_some_iff.mp removes
      obtain ⟨collection, -, removes⟩ := Option.bind_eq_some_iff.mp removes
      split at removes
      · obtain ⟨before, found, removes⟩ := Option.bind_eq_some_iff.mp removes
        obtain ⟨deleted, deletes, result⟩ := Option.bind_eq_some_iff.mp removes
        cases result
        have linked := keeps.link server node before collection.next found holds
        exact keeps.list _ _ _ (keeps.delete _ deleted tmp deletes linked)
      · split at removes
        · cases removes
          exact holds
        · exact ih removes

theorem removeClient_keeps {target : Option ClientId} {removed : Bool × Server}
    (keeps : RemovalKeeps kept outcomes) (holds : kept server)
    (removes : server.removeClient target outcomes = some removed) : kept removed.2 := by
  unfold removeClient at removes
  split at removes
  · cases removes
    exact holds
  · cases removes
    exact holds
  · obtain ⟨first, -, removes⟩ := Option.bind_eq_some_iff.mp removes
    split at removes
    · obtain ⟨deleted, deletes, result⟩ := Option.bind_eq_some_iff.mp removes
      cases result
      exact keeps.list deleted none _ (keeps.delete _ deleted _ deletes holds)
    · split at removes
      · obtain ⟨last, -, removes⟩ := Option.bind_eq_some_iff.mp removes
        obtain ⟨deleted, deletes, result⟩ := Option.bind_eq_some_iff.mp removes
        cases result
        have headless := keeps.list server first.next server.client holds
        exact keeps.list _ _ _ (keeps.delete _ deleted _ deletes headless)
      · exact removeLoop_keeps keeps holds removes

/-! ## Adding -/

theorem linkClient_log (links : server.linkClient client outcomes = some after) :
    after.log = server.log := by
  unfold linkClient at links
  dsimp only at links
  split at links
  · cases links
    rfl
  · obtain ⟨tmp, -, links⟩ := Option.bind_eq_some_iff.mp links
    obtain ⟨last, -, result⟩ := Option.bind_eq_some_iff.mp links
    cases result
    rfl

/-- The changes that `addClient` makes. -/
structure AdditionKeeps (kept : Server → Prop) (outcomes : Outcomes) : Prop where
  clients : ∀ server clients acts, kept server → kept ({ server with clients }.emit acts)
  link : ∀ server after client, server.linkClient client outcomes = some after →
    kept server → kept after

namespace AdditionKeeps

theorem emit (keeps : AdditionKeeps kept outcomes) (acts : List (Act (Resource Owner)))
    (holds : kept server) : kept (server.emit acts) :=
  keeps.clients server server.clients acts holds

theorem onClient {α : Type} (keeps : AdditionKeeps kept outcomes) (client : ClientId)
    (call : Call α) (holds : kept server) : kept (server.onClient client call) :=
  keeps.clients server _ _ holds

theorem deleteClient (keeps : AdditionKeeps kept outcomes) (holds : kept server)
    (deletes : server.deleteClient client outcomes = some after) : kept after := by
  obtain ⟨socket, -, result⟩ := Option.map_eq_some_iff.mp deletes
  cases result
  exact keeps.clients server _ _ holds

theorem newClient (keeps : AdditionKeeps kept outcomes) (holds : kept server) :
    kept server.newClient :=
  keeps.emit _ (keeps.emit _ (keeps.clients server _ _ holds))

theorem attachClient (keeps : AdditionKeeps kept outcomes) (holds : kept server) :
    kept (server.attachClient client socket connFd outcomes).2 := by
  have given := keeps.onClient client (socket.setSocketFd connFd) holds
  have unset := keeps.onClient client ((socket.setSocketFd connFd).socket.setSSLPointer none) given
  unfold Server.attachClient
  dsimp only
  split
  · split
    · exact unset
    · split
      · exact unset
      · split
        · exact keeps.emit _ (keeps.emit _ unset)
        · exact keeps.onClient _ _ (keeps.emit _ unset)
  · exact unset

end AdditionKeeps

theorem addClient_keeps {added : Bool × Server} (keeps : AdditionKeeps kept outcomes)
    (holds : kept server) (adds : server.addClient connFd outcomes = some added) :
    kept added.2 := by
  have addressed := keeps.onClient server.clients.fresh
    ((server.toSocket.duplicate Socket.new).setAddress (Socket.dotted server.addr.host))
    (keeps.newClient holds)
  have ported := keeps.onClient server.clients.fresh
    (((server.toSocket.duplicate Socket.new).setAddress
      (Socket.dotted server.addr.host)).socket.setPort server.addr.port.toNat) addressed
  unfold addClient at adds
  dsimp only at adds
  split at adds
  · obtain ⟨deleted, deletes, result⟩ := Option.map_eq_some_iff.mp adds
    cases result
    exact keeps.deleteClient addressed deletes
  · split at adds
    · obtain ⟨deleted, deletes, result⟩ := Option.map_eq_some_iff.mp adds
      cases result
      exact keeps.deleteClient ported deletes
    · have locked := keeps.emit (lockOf .server) ported
      split at adds
      · obtain ⟨deleted, deletes, result⟩ := Option.map_eq_some_iff.mp adds
        cases result
        exact keeps.deleteClient (keeps.attachClient locked) deletes
      · obtain ⟨linked, links, result⟩ := Option.map_eq_some_iff.mp adds
        cases result
        exact keeps.link _ linked _ links (keeps.attachClient locked)

/-! ## Scanning -/

/-- Behind the last node: the active client is looked at, if the scan came by it. -/
def Deferred (server : Server) (outcomes : Outcomes) : Option CollectionId → Scanning → Prop
  | none, scanning => scanning = .nothing
  | some tmp, scanning => ∃ collection socket, server.collections.get? tmp = some collection ∧
      server.clients.get? collection.client = some socket ∧
      scanning = if socket.sockFd ∈ outcomes.readfds then .clientEvent tmp else .nothing

/-- One node of the scan: its client is ready, or it is idle, or the scan goes on
behind it, or it was the last. -/
theorem scanLoop_succ {tmp : Option CollectionId} {scanning : Scanning}
    (result : server.scanLoop outcomes tmp (fuel + 1) node = some (after, scanning)) :
    ∃ before middle collection socket, server.collections.get? node = some before ∧
      server.reap node before outcomes.readfds = middle ∧
      middle.collections.get? node = some collection ∧
      middle.clients.get? collection.client = some socket ∧
      ((middle.client ≠ some collection.client ∧ socket.sockFd ∈ outcomes.readfds) ∧
          after = middle ∧ scanning = .clientEvent node ∨
        ¬ (middle.client ≠ some collection.client ∧ socket.sockFd ∈ outcomes.readfds) ∧
          ∃ behind, collection.next = some behind ∧
            ((collection.pipe.1 ≤ 0 ∧
                  socket.isSocketTimeout outcomes.tv collection.lastActivity = true) ∧
                after = middle ∧
                scanning = .idle node (if behind ≠ node then some behind else none) ∨
              ¬ (collection.pipe.1 ≤ 0 ∧
                  socket.isSocketTimeout outcomes.tv collection.lastActivity = true) ∧
                (some behind = middle.clientList ∧ after = middle ∧
                    middle.Deferred outcomes
                      (if middle.client = some collection.client then some node else tmp) scanning ∨
                  some behind ≠ middle.clientList ∧
                    middle.scanLoop outcomes
                      (if middle.client = some collection.client then some node else tmp) fuel
                      behind = some (after, scanning)))) := by
  rw [scanLoop] at result
  obtain ⟨before, here, result⟩ := Option.bind_eq_some_iff.mp result
  generalize reaps : server.reap node before outcomes.readfds = middle at result
  obtain ⟨collection, found, result⟩ := Option.bind_eq_some_iff.mp result
  obtain ⟨socket, there, result⟩ := Option.bind_eq_some_iff.mp result
  refine ⟨before, middle, collection, socket, here, reaps, found, there, ?_⟩
  dsimp only at result
  generalize (if middle.client = some collection.client then some node else tmp) = deferred
    at result ⊢
  split at result
  · rename_i ready
    cases result
    exact .inl ⟨ready, rfl, rfl⟩
  · rename_i unready
    obtain ⟨behind, linked, result⟩ := Option.bind_eq_some_iff.mp result
    refine .inr ⟨unready, behind, linked, ?_⟩
    split at result
    · rename_i idle
      cases result
      exact .inl ⟨idle, rfl, rfl⟩
    · rename_i busy
      refine .inr ⟨busy, ?_⟩
      split at result
      · rename_i last
        left
        cases deferred with
        | none =>
            cases result
            exact ⟨last, rfl, rfl⟩
        | some i =>
            obtain ⟨active, foundActive, result⟩ := Option.bind_eq_some_iff.mp result
            obtain ⟨object, thereActive, result⟩ := Option.bind_eq_some_iff.mp result
            have deferred : Deferred middle outcomes (some i)
                (if object.sockFd ∈ outcomes.readfds then .clientEvent i else .nothing) :=
              ⟨active, object, foundActive, thereActive, rfl⟩
            split at result
            · rename_i readable
              cases result
              rw [if_pos readable] at deferred
              exact ⟨last, rfl, deferred⟩
            · rename_i unreadable
              cases result
              rw [if_neg unreadable] at deferred
              exact ⟨last, rfl, deferred⟩
      · rename_i further
        exact .inr ⟨further, result⟩

theorem scanLoop_keeps {tmp : Option CollectionId} {scanned : Server × Scanning}
    (keeps : ∀ server node collection, server.collections.get? node = some collection →
      kept server → kept (server.reap node collection outcomes.readfds))
    (holds : kept server) (scans : server.scanLoop outcomes tmp fuel node = some scanned) :
    kept scanned.1 := by
  induction fuel generalizing server node tmp with
  | zero => contradiction
  | succ fuel ih =>
      obtain ⟨before, middle, collection, socket, here, reaps, -, -, turn⟩ := scanLoop_succ scans
      have reaped : kept middle := by
        rw [← reaps]
        exact keeps server node before here holds
      rcases turn with ⟨-, ends, -⟩ | ⟨-, behind, -, ⟨-, ends, -⟩ |
        ⟨-, ⟨-, ends, -⟩ | ⟨-, goes⟩⟩⟩
      · exact ends ▸ reaped
      · exact ends ▸ reaped
      · exact ends ▸ reaped
      · exact ih reaped goes

theorem scan_keeps {scanned : Server × Scanning}
    (keeps : ∀ server node collection, server.collections.get? node = some collection →
      kept server → kept (server.reap node collection outcomes.readfds))
    (holds : kept server) (scans : server.scan outcomes = some scanned) : kept scanned.1 := by
  unfold scan at scans
  split at scans
  · cases scans
    exact holds
  · exact scanLoop_keeps keeps holds scans

end Server

end SynapTCP
