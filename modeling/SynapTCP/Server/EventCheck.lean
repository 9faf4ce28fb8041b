import SynapTCP.Server.Clients

namespace SynapTCP

open Data

/-! # Checking for events

`TCPServer::eventCheck` of `src/tcp-server.cpp`: the descriptors for `select`,
the scan over the ring behind it, and what is done with the client it selects.
-/

inductive ServerEvent where
  | none
  | connectRequest
  | bytesAvailable
  | clientDisconnected
deriving DecidableEq

/-- How the scan over the ring ends. -/
inductive Scanning where
  /-- The jump to `clientEvent`, for the node. -/
  | clientEvent (node : CollectionId)
  /-- The node's client is idle; `tmp` is the node behind it, if it is another. -/
  | idle (node : CollectionId) (tmp : Option CollectionId)
  | nothing
deriving DecidableEq

namespace Server

/-- The descriptor that stands for a node in the set: that of its client, or the
read end of its pipe. -/
def watched (server : Server) (collection : ClientCollection) : Option Int :=
  if collection.pipe.1 ≤ 0 then (server.clients.get? collection.client).map Socket.sockFd
  else some collection.pipe.1

/-- `max = max < fd ? fd : max` on an `unsigned short`. -/
def widen (max : UInt16) (fd : Int) : UInt16 :=
  if (max.toNat : Int) < fd then UInt16.ofInt fd else max

/-- The loop that fills the set; it gives `max` and the descriptors in their order. -/
def fillLoop (server : Server) (max : UInt16) (fds : List Int) :
    Nat → CollectionId → Option (UInt16 × List Int)
  | 0, _ => none
  | fuel + 1, cList => do
      let collection ← server.collections.get? cList
      let fd ← server.watched collection
      let behind ← collection.next
      let max := widen max fd
      let fds := fds ++ [fd]
      if some behind = server.clientList then some (max, fds)
      else server.fillLoop max fds fuel behind

def watchedSet (server : Server) : Option (UInt16 × List Int) :=
  match server.clientList with
  | none => some (UInt16.ofInt server.sockFd, [server.sockFd])
  | some head =>
      server.fillLoop (UInt16.ofInt server.sockFd) [server.sockFd] server.rounds head

/-- The set is filled, and the mutexes are free while `select` waits. -/
def fillSet (server : Server) : Option Server :=
  server.watchedSet.map fun filled => { server with
    log := server.log ++ filled.2.map .fdSet ++ (unlockOf .server).map .act ++
      [.select (filled.1.toNat + 1)] ++ (lockOf .server).map .act }

/-- A thread that has reported its end: its pipe is closed. -/
def reap (server : Server) (node : CollectionId) (collection : ClientCollection)
    (readfds : List Int) : Server :=
  if 0 < collection.pipe.1 ∧ collection.pipe.1 ∈ readfds then
    { server with
      collections := server.collections.set node { collection with pipe := (0, 0) } }.emit
      [.release (.descriptor collection.pipe.1), .release (.descriptor collection.pipe.2)]
  else server

/-- The scan; it gives the server with the pipes of finished threads closed. -/
def scanLoop (server : Server) (outcomes : Outcomes) (tmp : Option CollectionId) :
    Nat → CollectionId → Option (Server × Scanning)
  | 0, _ => none
  | fuel + 1, cList => do
      let found ← server.collections.get? cList
      let server := server.reap cList found outcomes.readfds
      let collection ← server.collections.get? cList
      let socket ← server.clients.get? collection.client
      let tmp := if server.client = some collection.client then some cList else tmp
      if server.client ≠ some collection.client ∧ socket.sockFd ∈ outcomes.readfds then
        some (server, .clientEvent cList)
      else
        let behind ← collection.next
        if collection.pipe.1 ≤ 0 ∧ socket.isSocketTimeout outcomes.tv collection.lastActivity then
          some (server, .idle cList (if behind ≠ cList then some behind else none))
        else if some behind = server.clientList then
          match tmp with
          | none => some (server, .nothing)
          | some tmp => do
              let active ← server.collections.get? tmp
              let socket ← server.clients.get? active.client
              if socket.sockFd ∈ outcomes.readfds then some (server, .clientEvent tmp)
              else some (server, .nothing)
        else server.scanLoop outcomes tmp fuel behind

/-- `pipe` and `pthread_create` for a client, and the wait for the new thread, as it is when
it ends: the mutex is given back and taken again. -/
def startThread (server : Server) (node : CollectionId) (collection : ClientCollection)
    (outcomes : Outcomes) : Server :=
  let piped := match outcomes.pipe with
    | none => { server with
        collections := server.collections.set node { collection with pipe := (0, 0) } }
    | some pipe => { server with
        collections := server.collections.set node { collection with pipe } }.emit
          [.acquire (.descriptor pipe.1), .acquire (.descriptor pipe.2)]
  match outcomes.thread with
  | none => piped
  | some th =>
      let pipe := outcomes.pipe.getD (0, 0)
      let started := { piped with
        collections := piped.collections.set node { collection with pipe, th }
        log := piped.log ++ [Effect.create th node] }
      started.emit [.acquire (.mutex (.collection node) .mtx),
        .release (.mutex (.collection node) .mtx), .acquire (.mutex (.collection node) .mtx),
        .release (.mutex (.collection node) .mtx)]

/-- The code at `clientEvent`. -/
def clientEvent (server : Server) (node : CollectionId) (outcomes : Outcomes) :
    Option (ServerEvent × Server) := do
  let found ← server.collections.get? node
  let collection := { found with lastActivity := outcomes.active }
  let server := { server with
    collections := server.collections.set node collection
    client := some collection.client }
  let server := server.unlock.emit [.acquire (.mutex (.client collection.client) .mtx),
    .release (.mutex (.client collection.client) .mtx)]
  if outcomes.inputBytes = false then
    let removed ← server.lock.removeClient (some collection.client) outcomes
    some (.clientDisconnected, removed.2.unlock)
  else match server.receptionCallbackFunction with
    | none => some (.bytesAvailable, server)
    | some function =>
        if server.receptionHandlerAsThread = false then
          some (.bytesAvailable, { server with
            log := server.log ++
              [.reception function collection.client server.conReqCallbackParam] })
        else some (.bytesAvailable, server.startThread node collection outcomes)

/-- An idle client is removed and the one behind it becomes the active client. -/
def dropIdle (server : Server) (node : CollectionId) (tmp : Option CollectionId)
    (outcomes : Outcomes) : Option (ServerEvent × Server) := do
  let collection ← server.collections.get? node
  let removed ← server.removeClient (some collection.client) outcomes
  match tmp with
  | none => some (.clientDisconnected, removed.2.unlock)
  | some tmp => do
      let behind ← removed.2.collections.get? tmp
      some (.clientDisconnected, { removed.2 with client := some behind.client }.unlock)

/-- A request for a connection: the handler is called, or the client accepted. -/
def connectRequest (server : Server) (outcomes : Outcomes) : Option (ServerEvent × Server) :=
  match server.conReqCallbackFunction with
  | some function =>
      let server := server.unlock
      some (.connectRequest, { server with
        log := server.log ++ [.connectionRequest function server.conReqCallbackParam] })
  | none => (server.unlock.acceptNewClient outcomes).map fun added => (.connectRequest, added.2)

def scan (server : Server) (outcomes : Outcomes) : Option (Server × Scanning) :=
  match server.clientList with
  | none => some (server, .nothing)
  | some head => server.scanLoop outcomes none server.rounds head

def eventCheck (server : Server) (outcomes : Outcomes) : Option (ServerEvent × Server) :=
  let server := server.lock
  if server.sockFd ≤ 0 then some (.none, server.unlock)
  else do
    let server ← server.fillSet
    if outcomes.ret < 0 then some (.none, server.unlock)
    else if server.sockFd ∈ outcomes.readfds then server.connectRequest outcomes
    else
      let scanned ← server.scan outcomes
      match scanned.2 with
      | .clientEvent node => scanned.1.clientEvent node outcomes
      | .idle node tmp => scanned.1.dropIdle node tmp outcomes
      | .nothing => some (.none, scanned.1.unlock)

/-- `eventCheck` gets to accepting a client. -/
def Accepts (server : Server) (outcomes : Outcomes) : Prop :=
  0 < server.sockFd ∧ 0 ≤ outcomes.ret ∧ server.sockFd ∈ outcomes.readfds ∧
    server.conReqCallbackFunction = none

variable {server filled : Server} {node : CollectionId} {collection : ClientCollection}
  {outcomes : Outcomes}

/-- The client of the node is active, and `isInputBytesAvailable` has been asked of it. -/
def polled (server : Server) (node : CollectionId) (collection : ClientCollection)
    (outcomes : Outcomes) : Server :=
  ({ server with
    collections := server.collections.set node { collection with lastActivity := outcomes.active }
    client := some collection.client } : Server).unlock.emit
      [.acquire (.mutex (.client collection.client) .mtx),
        .release (.mutex (.client collection.client) .mtx)]

/-- The code at `clientEvent`, in terms of the server behind the question for input. -/
theorem clientEvent_eq (found : server.collections.get? node = some collection) :
    server.clientEvent node outcomes =
      if outcomes.inputBytes = false then
        ((server.polled node collection outcomes).lock.removeClient (some collection.client)
          outcomes).map fun removed => (.clientDisconnected, removed.2.unlock)
      else match server.receptionCallbackFunction with
        | none => some (.bytesAvailable, server.polled node collection outcomes)
        | some function =>
            if server.receptionHandlerAsThread = false then
              some (.bytesAvailable, { server.polled node collection outcomes with
                log := (server.polled node collection outcomes).log ++
                  [.reception function collection.client server.conReqCallbackParam] })
            else some (.bytesAvailable, (server.polled node collection outcomes).startThread node
              { collection with lastActivity := outcomes.active } outcomes) := by
  unfold clientEvent
  simp only [found, bind, Option.bind_some]
  split
  · exact Option.map_eq_bind.symm
  · rfl

theorem clientEvent_cases {event : ServerEvent × Server}
    (checks : server.clientEvent node outcomes = some event) :
    ∃ collection, server.collections.get? node = some collection ∧
      (outcomes.inputBytes = false ∧ (∃ removed,
          (server.polled node collection outcomes).lock.removeClient (some collection.client)
            outcomes = some removed ∧ event = (.clientDisconnected, removed.2.unlock)) ∨
        outcomes.inputBytes = true ∧ event.1 = .bytesAvailable ∧
          (server.receptionCallbackFunction = none ∧
              event.2 = server.polled node collection outcomes ∨
            ∃ function, server.receptionCallbackFunction = some function ∧
              (server.receptionHandlerAsThread = false ∧
                  event.2 = { server.polled node collection outcomes with
                    log := (server.polled node collection outcomes).log ++
                      [.reception function collection.client server.conReqCallbackParam] } ∨
                server.receptionHandlerAsThread = true ∧
                  event.2 = (server.polled node collection outcomes).startThread node
                    { collection with lastActivity := outcomes.active } outcomes))) := by
  obtain ⟨collection, found, -⟩ := Option.bind_eq_some_iff.mp checks
  rw [clientEvent_eq found] at checks
  refine ⟨collection, found, ?_⟩
  split at checks
  · rename_i empty
    obtain ⟨removed, removes, result⟩ := Option.map_eq_some_iff.mp checks
    exact .inl ⟨empty, removed, removes, result.symm⟩
  · rename_i bytes
    refine .inr ⟨by simpa using bytes, ?_⟩
    split at checks
    · rename_i silent
      cases checks
      exact ⟨rfl, .inl ⟨silent, rfl⟩⟩
    · rename_i function isHandler
      split at checks
      · rename_i synchronous
        cases checks
        exact ⟨rfl, .inr ⟨function, isHandler, .inl ⟨synchronous, rfl⟩⟩⟩
      · rename_i threaded
        cases checks
        exact ⟨rfl, .inr ⟨function, isHandler, .inr ⟨by simpa using threaded, rfl⟩⟩⟩

theorem fillSet_toTCPServer (fills : server.fillSet = some filled) :
    filled.toTCPServer = server.toTCPServer := by
  obtain ⟨set, _, result⟩ := Option.map_eq_some_iff.mp fills
  cases result
  rfl

theorem fillSet_collections (fills : server.fillSet = some filled) :
    filled.collections = server.collections := by
  obtain ⟨set, _, result⟩ := Option.map_eq_some_iff.mp fills
  cases result
  rfl

theorem fillSet_clients (fills : server.fillSet = some filled) :
    filled.clients = server.clients := by
  obtain ⟨set, _, result⟩ := Option.map_eq_some_iff.mp fills
  cases result
  rfl

end Server

end SynapTCP
