import SynapTCP.Data.Arena
import SynapTCP.Data.Ring
import SynapTCP.Socket.Setup

namespace SynapTCP

open Data

/-! # The server and the memory it works on

A `TCPServer` with the `ClientCollection` nodes and the client sockets that it
made.  A method on it is a partial function: it has no value where the source
reads an object that is destroyed or follows a null link, or never returns.
-/

abbrev ClientId := Nat

abbrev CollectionId := Nat

structure ClientCollection where
  client : ClientId
  lastActivity : TimeVal
  th : Nat
  pipe : Int × Int
  next : Option CollectionId
deriving DecidableEq

/-- Functions and their parameters are known by their addresses. -/
structure TCPServer extends Socket where
  receptionHandlerAsThread : Bool
  maxClient : UInt16
  client : Option ClientId
  clientList : Option CollectionId
  conReqCallbackFunction : Option Nat
  conReqCallbackParam : Nat
  receptionCallbackFunction : Option Nat
  receptionCallbackParam : Nat
  sslWarper : Bool
deriving DecidableEq

/-- The objects whose mutexes the server's methods lock. -/
inductive Owner where
  | server
  | client (id : ClientId)
  | collection (id : CollectionId)
deriving DecidableEq

/-- What a method does besides changing memory. -/
inductive Effect where
  | act (act : Act (Resource Owner))
  | fdSet (fd : Int)
  | select (nfds : Int)
  | connectionRequest (function param : Nat)
  | reception (function : Nat) (client : ClientId) (param : Nat)
  | create (th : Nat) (collection : CollectionId)
  | join (th : Nat)
deriving DecidableEq

/-- The effects in `log` are those of all calls so far. -/
structure Server extends TCPServer where
  collections : Arena ClientCollection
  clients : Arena Socket
  log : List Effect
deriving DecidableEq

/-- What the system answers during one call. -/
structure Outcomes where
  /-- `accept`: the descriptor, and the peer if there is one. -/
  connFd : Int
  peer : SockAddr
  createSSL : Option Nat
  acceptSSL : Bool
  /-- The two `close` calls in `closeSocket`. -/
  closes : Bool
  again : Bool
  /-- `select`: its result and the descriptors left in the set. -/
  ret : Int
  readfds : List Int
  /-- `gettimeofday` for the new client, for the scan and for the event. -/
  created : TimeVal
  tv : TimeVal
  active : TimeVal
  inputBytes : Bool
  pipe : Option (Int × Int)
  thread : Option Nat
deriving DecidableEq

namespace Server

variable {server : Server}

def emit (server : Server) (acts : List (Act (Resource Owner))) : Server :=
  { server with log := server.log ++ acts.map .act }

def lock (server : Server) : Server := server.emit (lockOf .server)

def unlock (server : Server) : Server := server.emit (unlockOf .server)

/-- The link of a node that is not destroyed. -/
def next (server : Server) (node : CollectionId) : Option CollectionId :=
  (server.collections.get? node).bind ClientCollection.next

/-- A step of the server's memory by a call on one of its clients. -/
def onClient {α : Type} (server : Server) (client : ClientId) (call : Call α) : Server :=
  { server with clients := server.clients.set client call.socket }.emit
    (call.actsOf (.client client))

/-- `delete` on a client socket: `~Socket` closes it. -/
def deleteClient (server : Server) (client : ClientId) (outcomes : Outcomes) : Option Server :=
  (server.clients.get? client).map fun socket =>
    { server with clients := server.clients.destroy client }.emit
      ((socket.closeSocket outcomes.closes outcomes.again).actsOf (.client client))

/-- The descriptors of a pipe that `~ClientCollection` closes. -/
def pipeEnds (pipe : Int × Int) : List (Act (Resource Owner)) :=
  (if 0 < pipe.1 then [.release (.descriptor pipe.1)] else []) ++
    if 0 < pipe.2 then [.release (.descriptor pipe.2)] else []

/-- `delete` on a node. -/
def deleteCollection (server : Server) (node : CollectionId) (outcomes : Outcomes) :
    Option Server := do
  let collection ← server.collections.get? node
  let server ← server.deleteClient collection.client outcomes
  let server := server.emit (pipeEnds collection.pipe)
  some { server with
    collections := server.collections.destroy node
    log := server.log ++ if 0 < collection.th then [.join collection.th] else [] }

/-! What stays as it is. -/

@[simp] theorem emit_toTCPServer (acts : List (Act (Resource Owner))) :
    (server.emit acts).toTCPServer = server.toTCPServer := rfl

@[simp] theorem emit_collections (acts : List (Act (Resource Owner))) :
    (server.emit acts).collections = server.collections := rfl

@[simp] theorem emit_clients (acts : List (Act (Resource Owner))) :
    (server.emit acts).clients = server.clients := rfl

@[simp] theorem lock_toTCPServer : server.lock.toTCPServer = server.toTCPServer := rfl

@[simp] theorem lock_collections : server.lock.collections = server.collections := rfl

@[simp] theorem lock_clients : server.lock.clients = server.clients := rfl

@[simp] theorem unlock_toTCPServer : server.unlock.toTCPServer = server.toTCPServer := rfl

@[simp] theorem unlock_collections : server.unlock.collections = server.collections := rfl

@[simp] theorem unlock_clients : server.unlock.clients = server.clients := rfl

end Server

end SynapTCP
