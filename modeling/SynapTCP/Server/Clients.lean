import SynapTCP.Server.Object

namespace SynapTCP

open Data

/-! # Clients of the server

`addClient`, `removeClient` and `acceptNewClient` of `src/tcp-server.cpp`.
-/

namespace Server

/-- As many rounds as a walk over the nodes can take: one that has not come to
its end after them goes round for ever. -/
def rounds (server : Server) : Nat := server.collections.fresh + 1

/-! ## Adding -/

/-- `new SynapSock`, and `duplicate` into it while the mutexes are free. -/
def newClient (server : Server) : Server :=
  let client := server.clients.fresh
  let made := { server with
    clients := server.clients.make (server.toSocket.duplicate Socket.new) }
  ((made.emit ((Socket.construct Socket.new).actsOf (.client client))).unlock).emit
    (Socket.duplicateActs .server (.client client))

/-- The new client gets its descriptor, and an SSL connection if the server uses
SSL; the result says whether it got what it needs. -/
def attachClient (server : Server) (client : ClientId) (socket : Socket) (connFd : Int)
    (outcomes : Outcomes) : Bool × Server :=
  let given := socket.setSocketFd connFd
  let server := server.onClient client given
  let unset := given.socket.setSSLPointer none
  let server := server.onClient client unset
  if server.useSSL then
    if server.sslWarper = false then (false, server)
    else match outcomes.createSSL with
      | none => (false, server)
      | some ssl =>
          let server := server.emit [.acquire (.connection ssl)]
          if outcomes.acceptSSL = false then (false, server.emit [.release (.connection ssl)])
          else (true, server.onClient client (unset.socket.setSSLPointer (some ssl)))
  else (true, server)

/-- `new ClientCollection`, at the end of the ring. -/
def linkClient (server : Server) (client : ClientId) (outcomes : Outcomes) : Option Server :=
  let node := server.collections.fresh
  let newClient : ClientCollection := ⟨client, outcomes.created, 0, (0, 0), none⟩
  let made := { server with collections := server.collections.make newClient }
  match server.clientList with
  | none =>
      some { made with
        clientList := some node
        collections := made.collections.set node { newClient with next := some node } }
  | some head => do
      let tmp ← lastNode made.next head made.rounds head
      let last ← made.collections.get? tmp
      some { made with
        collections := (made.collections.set tmp { last with next := some node }).set node
          { newClient with next := some head } }

/-- It is called with both mutexes locked. -/
def addClient (server : Server) (connFd : Int) (outcomes : Outcomes) : Option (Bool × Server) :=
  let client := server.clients.fresh
  let cliAddr := Socket.dotted server.addr.host
  let copy := server.toSocket.duplicate Socket.new
  let duplicated := server.newClient
  let addressed := copy.setAddress cliAddr
  let named := duplicated.onClient client addressed
  if addressed.result = false then (named.deleteClient client outcomes).map (false, ·)
  else
    let ported := addressed.socket.setPort server.addr.port.toNat
    let named := named.onClient client ported
    if ported.result = false then (named.deleteClient client outcomes).map (false, ·)
    else
      let attached := named.lock.attachClient client ported.socket connFd outcomes
      if attached.1 = false then (attached.2.deleteClient client outcomes).map (false, ·)
      else (attached.2.linkClient client outcomes).map (true, ·)

def acceptNewClient (server : Server) (outcomes : Outcomes) : Option (Bool × Server) :=
  let server := server.lock
  let accepted :=
    if 0 ≤ outcomes.connFd then
      { server with addr := outcomes.peer }.emit [.acquire (.descriptor outcomes.connFd)]
    else server
  if outcomes.connFd ≤ 0 then some (false, accepted.unlock)
  else (accepted.addClient outcomes.connFd outcomes).map fun added => (true, added.2.unlock)

/-! ## Removing -/

/-- `if (this->client == socket) this->client = nullptr`. -/
def forget (server : Server) (socket : ClientId) : Server :=
  { server with client := if server.client = some socket then none else server.client }

/-- The loop for a node behind the head. -/
def removeLoop (server : Server) (head : CollectionId) (socket : ClientId) (outcomes : Outcomes) :
    Nat → CollectionId → Option (Bool × Server)
  | 0, _ => none
  | fuel + 1, prev => do
      let tmp ← server.next prev
      let collection ← server.collections.get? tmp
      if collection.client = socket then
        let before ← server.collections.get? prev
        let linked := { server with
          collections := server.collections.set prev { before with next := collection.next } }
        let removed ← linked.deleteCollection tmp outcomes
        some (true, removed.forget socket)
      else if tmp = head then some (false, server)
      else server.removeLoop head socket outcomes fuel tmp

/-- At the head of a longer ring the source looks for the last node, but its link
stays as it is. -/
def removeClient (server : Server) (socket : Option ClientId) (outcomes : Outcomes) :
    Option (Bool × Server) :=
  match server.clientList, socket with
  | none, _ => some (true, server)
  | some _, none => some (true, server)
  | some head, some socket => do
      let first ← server.collections.get? head
      if first.client = socket ∧ first.next = some head then
        let removed ← server.deleteCollection head outcomes
        some (true, { removed with clientList := none }.forget socket)
      else if first.client = socket then
        let _tmp ← lastNode server.next head server.rounds head
        let removed ← { server with clientList := first.next }.deleteCollection head outcomes
        some (true, removed.forget socket)
      else server.removeLoop head socket outcomes server.rounds head

end Server

end SynapTCP
