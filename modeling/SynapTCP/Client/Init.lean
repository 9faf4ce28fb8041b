import SynapTCP.Socket.Setup

namespace SynapTCP

open Data

/-! # Opening a connection

`TCPClient::init` with `connectToServer` of `src/tcp-client.cpp`, and
`TCPServer::init` of `src/tcp-server.cpp`.
-/

/-- `CLIENT_STATUS_t`. -/
inductive ClientStatus where
  | uninitialized
  | initialized
  | connected
  | disconnected
deriving DecidableEq

/-- The format of the frames has no part in opening and closing. -/
structure TCPClient extends Socket where
  status : ClientStatus
  sslWarper : Bool
deriving DecidableEq

structure ClientCall (α : Type) where
  result : α
  client : TCPClient
  acts : List (Act (Resource Unit))

/-- What the system answers while a connection is made; without a timeout only
a call that connects in the end returns. -/
structure ConnectOutcomes where
  getFlags : Bool
  setFlags : Bool
  connect : Bool
  inProgress : Bool
  select : Int
  /-- What `select` leaves of the time given to it. -/
  left : TimeVal
  restoreFlags : Bool
  getError : Bool
  error : Int
deriving DecidableEq

structure InitOutcomes where
  socket : Int
  host : Option (List UInt8)
  connecting : ConnectOutcomes
  createSSL : Option Nat
  connectSSL : Bool
deriving DecidableEq

/-- The descriptor that `socket` or `accept` hands out, if it is one. -/
def opened (fd : Int) : List (Act (Resource Unit)) :=
  if 0 ≤ fd then [.acquire (.descriptor fd)] else []

namespace TCPClient

def connectToServer (client : TCPClient) (outcomes : ConnectOutcomes) : Bool × TCPClient :=
  if 0 < client.tvTimeout.sec ∨ 0 < client.tvTimeout.usec then
    if outcomes.getFlags = false then (false, client)
    else if outcomes.setFlags = false then (false, client)
    else
      let waits := outcomes.connect = false ∧ outcomes.inProgress = true
      let retval := if outcomes.connect then 1 else if outcomes.inProgress then outcomes.select else -1
      let client := if waits then { client with tvTimeout := outcomes.left } else client
      if outcomes.restoreFlags = false then (false, client)
      else if retval ≤ 0 then (false, client)
      else if outcomes.getError = false then (false, client)
      else (decide (outcomes.error = 0), client)
  else (true, client)

/-- The address to connect to: the octets, or what `gethostbyname` gives for them. -/
def resolve (client : TCPClient) (outcomes : InitOutcomes) : Option (List UInt8) :=
  if Socket.isValidIPAddressVector client.address = false then outcomes.host
  else some client.address

/-- A failing exit that cleans up. -/
def fail (client : TCPClient) (result : Nat) (acts : List (Act (Resource Unit))) : ClientCall Nat :=
  ⟨result, { client with sockFd := -1, status := .uninitialized },
    acts ++ [Act.release (Resource.descriptor client.sockFd)] ++ unlockOf ()⟩

/-- The exit at the end. -/
def succeed (client : TCPClient) (acts : List (Act (Resource Unit))) : ClientCall Nat :=
  ⟨0, { client with status := .connected }, acts ++ unlockOf ()⟩

/-- The SSL part of `init`; a handshake that fails is cleaned up after, but the call
goes on to its end. -/
def initSSL (client : TCPClient) (outcomes : InitOutcomes) (acts : List (Act (Resource Unit))) :
    ClientCall Nat :=
  if client.sslWarper = false then client.fail 9 acts
  else match outcomes.createSSL with
    | none => { client with sslConn := none }.fail 9 acts
    | some ssl =>
        let acts := acts ++ [Act.acquire (Resource.connection ssl)]
        if outcomes.connectSSL = false then
          let failed := { client with sslConn := none }.fail 0
            (acts ++ [Act.release (Resource.connection ssl)])
          failed.client.succeed failed.acts
        else { client with sslConn := some ssl }.succeed acts

/-- The source starts with unlocks in the place of locks. -/
def init (client : TCPClient) (outcomes : InitOutcomes) : ClientCall Nat :=
  let acts := unlockOf () ++ opened outcomes.socket
  let client := { client with sockFd := outcomes.socket }
  if outcomes.socket ≤ 0 then ⟨2, client, acts ++ unlockOf ()⟩
  else match client.resolve outcomes with
    | none =>
        ⟨3, client, acts ++ [Act.release (Resource.descriptor client.sockFd)] ++ unlockOf ()⟩
    | some host =>
        let connecting := { client with
          addr.host := host, status := .initialized }.connectToServer outcomes.connecting
        if connecting.1 = false then connecting.2.fail 8 acts
        else if client.useSSL then connecting.2.initSSL outcomes acts
        else connecting.2.succeed acts

def onSocket {α : Type} (client : TCPClient) (call : Call α) : ClientCall α :=
  ⟨call.result, { client with toSocket := call.socket }, call.acts⟩

end TCPClient

structure ListenOutcomes where
  socket : Int
  bind : Bool
  listen : Bool
deriving DecidableEq

/-- `TCPServer::init`; of its object only the socket part changes. -/
def Socket.initServer (socket : Socket) (outcomes : ListenOutcomes) : Call Nat :=
  let acts := lockOf () ++ opened outcomes.socket
  let socket := { socket with sockFd := outcomes.socket }
  if outcomes.socket ≤ 0 then ⟨1, socket, acts ++ unlockOf ()⟩
  else
    let socket := { socket with addr.host := socket.address.take 4 }
    if outcomes.bind = false then
      ⟨3, { socket with sockFd := -1 },
        acts ++ [Act.release (Resource.descriptor outcomes.socket)] ++ unlockOf ()⟩
    else if outcomes.listen = false then
      ⟨4, { socket with sockFd := -1 },
        acts ++ [Act.release (Resource.descriptor outcomes.socket)] ++ unlockOf ()⟩
    else ⟨0, socket, acts ++ unlockOf ()⟩

end SynapTCP
