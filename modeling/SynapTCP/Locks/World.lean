import SynapTCP.Client.Exits
import SynapTCP.Locks.Serving
import SynapTCP.Server.Settings
import SynapTCP.Server.Waiting

namespace SynapTCP

open Data

/-! # Any sequence of calls by one thread

The objects that a program has made, and the acts of all its calls.  A client of a
server is reached through the server.
-/

inductive Thing where
  | sock (socket : Socket)
  | tcpClient (client : TCPClient)
  | tcpServer (server : Server)

namespace Thing

/-- The part of `Socket`: of the object itself, or of a client that a server made. -/
def socketOf : Thing → Owner → Option Socket
  | .sock socket, .server => some socket
  | .tcpClient client, .server => some client.toSocket
  | .tcpServer server, .server => some server.toSocket
  | .tcpServer server, .client id => server.clients.get? id
  | _, _ => none

def withSocket (thing : Thing) (owner : Owner) (socket : Socket) : Thing :=
  match thing, owner with
  | .sock _, .server => .sock socket
  | .tcpClient client, .server => .tcpClient { client with toSocket := socket }
  | .tcpServer server, .server => .tcpServer { server with toSocket := socket }
  | .tcpServer server, .client id =>
      .tcpServer { server with clients := server.clients.set id socket }
  | thing, _ => thing

/-- A server, before anything of the next call. -/
def server : Thing → Option Server
  | .tcpServer server => some { server with log := [] }
  | .sock _ | .tcpClient _ => none

end Thing

/-- An object by its number: `.server` stands for the object itself. -/
abbrev Holder := Nat × Owner

structure World where
  things : Arena Thing
  log : List (Act (Resource Holder))

inductive ApiCall (F : Type) where
  | constructSocket
  | constructClient
  /-- The fields that the constructor does not set are what memory holds. -/
  | constructServer (memory : TCPServer)
  | onObject (holder : Holder) (call : SocketCall F) (outcomes : CallOutcomes)
  | duplicate (this obj : Holder)
  | initClient (i : Nat) (outcomes : InitOutcomes)
  | initServer (i : Nat) (outcomes : ListenOutcomes)
  | initializeSSL (i : Nat)
  | setMaximumClient (i : Nat) (nClient : Int)
  | setConnectionRequestHandler (i : Nat) (func : Option Nat) (param : Nat)
  | setReceptionHandler (i : Nat) (func : Option Nat) (param : Nat) (asThread : Bool)
  | acceptNewClient (i : Nat) (outcomes : Outcomes)
  | eventCheck (i : Nat) (outcomes : Outcomes) (waits : Waits)

namespace Server

def setConnectionRequestHandler (server : Server) (func : Option Nat) (param : Nat) : Server :=
  { server.lock with conReqCallbackFunction := func, conReqCallbackParam := param }.unlock

def setReceptionHandler (server : Server) (func : Option Nat) (param : Nat) (asThread : Bool) :
    Server :=
  { server.lock with
    receptionCallbackFunction := func
    receptionCallbackParam := param
    receptionHandlerAsThread := asThread }.unlock

end Server

namespace World

def empty : World := ⟨Arena.empty, []⟩

def made (world : World) (thing : Thing) : World :=
  ⟨world.things.make thing, world.log ++
    (Socket.construct Socket.new).actsOf (world.things.fresh, Owner.server)⟩

def socketOf (world : World) (holder : Holder) : Option Socket :=
  (world.things.get? holder.1).bind fun thing => thing.socketOf holder.2

/-- The world behind a call on the object, with the call's acts. -/
def withSocket (world : World) (holder : Holder) (socket : Socket)
    (acts : List (Act (Resource Unit))) : Option World :=
  (world.things.get? holder.1).map fun thing =>
    ⟨world.things.set holder.1 (thing.withSocket holder.2 socket),
      world.log ++ acts.map (Act.map (Resource.at holder))⟩

def onClient (world : World) (i : Nat) (method : TCPClient → ClientCall Nat) : Option World :=
  match world.things.get? i with
  | some (.tcpClient client) =>
      let call := method client
      some ⟨world.things.set i (.tcpClient call.client),
        world.log ++ call.acts.map (Act.map (Resource.at (i, Owner.server)))⟩
  | _ => none

def serverAt (world : World) (i : Nat) : Option Server :=
  (world.things.get? i).bind Thing.server

/-- A method of `TCPServer`; the acts of the call are what it adds to an empty log. -/
def onServer (world : World) (i : Nat) (method : Server → Option Server) : Option World :=
  (world.serverAt i).bind fun server => (method server).map fun later =>
    ⟨world.things.set i (.tcpServer later),
      world.log ++ later.trace.map (Act.map (Resource.map fun owner => (i, owner)))⟩

end World

namespace ApiCall

variable {F : Type} [DataFrame F]

/-- The world behind the call, if there is such an object and the call comes to an
end. -/
def run (world : World) : ApiCall F → Option World
  | .constructSocket => some (world.made (.sock Socket.new))
  | .constructClient =>
      some (world.made (.tcpClient { Socket.new with status := .uninitialized, sslWarper := false }))
  | .constructServer memory =>
      some (world.made (.tcpServer { memory with
        toSocket := Socket.new, maxClient := 10, client := none, clientList := none
        sslWarper := false, collections := Arena.empty, clients := Arena.empty, log := [] }))
  | .onObject holder call outcomes =>
      (world.socketOf holder).bind fun socket =>
        (call.run socket outcomes).bind fun after => world.withSocket holder after.1 after.2
  | .duplicate this obj =>
      (world.socketOf this).bind fun socket => (world.socketOf obj).bind fun other =>
        (world.withSocket obj (socket.duplicate other) []).map fun world =>
          { world with log := world.log ++ Socket.duplicateActs this obj }
  | .initClient i outcomes => world.onClient i fun client => client.init outcomes
  | .initServer i outcomes =>
      world.onServer i fun server =>
        let call := server.initServer outcomes
        some ({ server with toSocket := call.socket }.emit (call.actsOf .server))
  | .initializeSSL i =>
      match world.things.get? i with
      | some (.tcpClient client) =>
          some { world with things := world.things.set i (.tcpClient { client with sslWarper := true }) }
      | some (.tcpServer server) =>
          some { world with things := world.things.set i (.tcpServer { server with sslWarper := true }) }
      | _ => none
  | .setMaximumClient i nClient =>
      world.onServer i fun server => some (server.setMaximumClient nClient).2
  | .setConnectionRequestHandler i func param =>
      world.onServer i fun server => some (server.setConnectionRequestHandler func param)
  | .setReceptionHandler i func param asThread =>
      world.onServer i fun server => some (server.setReceptionHandler func param asThread)
  | .acceptNewClient i outcomes =>
      world.onServer i fun server => (server.acceptNewClient outcomes).map Prod.snd
  | .eventCheck i outcomes waits =>
      world.onServer i fun server => ((server.eventCheck outcomes).map Prod.snd).filter
        fun later => later.log.all (Effect.comes waits)

/-- `init` of a client never spares the mutexes. -/
def Spares (world : World) : ApiCall F → Prop
  | .onObject holder call outcomes =>
      ∀ socket, world.socketOf holder = some socket → call.Spares socket outcomes
  | .duplicate this obj => this ≠ obj
  | .initClient _ _ => False
  | .acceptNewClient _ outcomes => Server.PeerAccepted outcomes
  | .eventCheck i outcomes _ =>
      ∀ server, world.serverAt i = some server → server.Accepts outcomes →
        Server.PeerAccepted outcomes
  | _ => True

end ApiCall

/-! ## One call -/

section Methods

variable {client : TCPClient} {socket : Socket} {server : Server}

/-- `init` starts with the unlock of what is not locked. -/
theorem TCPClient.init_undisciplined {outcomes : InitOutcomes} :
    ¬ Disciplined Resource.IsMutex (client.init outcomes).acts := by
  have exits := @TCPClient.init_exits client outcomes
  generalize client.init outcomes = call at exits
  intro disciplined
  have kept := disciplined (.mutex () .mtx) trivial
  cases exits with
  | noSocket _ => contradiction
  | noHost _ _ => contradiction
  | unconnected _ _ _ _ => contradiction
  | plain _ _ _ _ _ => contradiction
  | secured _ _ _ _ _ exit =>
      cases exit with
      | noWarper _ => contradiction
      | noObject _ _ => contradiction
      | noHandshake _ _ _ => contradiction
      | handshake _ _ _ => contradiction

theorem Socket.initServer_disciplined {outcomes : ListenOutcomes} :
    Disciplined Resource.IsMutex (socket.initServer outcomes).acts := by
  have opening : ∀ act ∈ opened outcomes.socket, ¬ act.thing.IsMutex := by
    intro act member
    unfold opened at member
    split at member
    · rw [List.mem_singleton.mp member]
      exact not_false
    · contradiction
  have closing : ∀ act ∈ opened outcomes.socket ++
      [Act.release (Resource.descriptor outcomes.socket)], ¬ act.thing.IsMutex := by
    intro act member
    rcases List.mem_append.mp member with opens | closes
    · exact opening act opens
    · rw [List.mem_singleton.mp closes]
      exact not_false
  unfold Socket.initServer
  dsimp only
  split
  · exact locked_disciplined opening
  · split
    · rw [List.append_assoc (lockOf ())]
      exact locked_disciplined closing
    · split
      · rw [List.append_assoc (lockOf ())]
        exact locked_disciplined closing
      · exact locked_disciplined opening

theorem Server.holds_iff : server.Holds false ↔ Disciplined Resource.IsMutex server.trace := by
  constructor
  · intro holds t isMutex
    cases t with
    | mutex owner lock => exact holds owner lock
    | descriptor fd => contradiction
    | connection ssl => contradiction
  · intro disciplined owner lock
    exact disciplined _ trivial

end Methods

namespace World

variable {world later : World} {i : Nat} {holder : Holder} {acts : List (Act (Resource Unit))}

theorem renamed_disciplined_iff :
    Disciplined Resource.IsMutex (acts.map (Act.map (Resource.at holder))) ↔
      Disciplined Resource.IsMutex acts :=
  @Call.actsOf_disciplined_iff Unit Holder _ ⟨(), Socket.new, acts⟩ holder

theorem withSocket_log {socket : Socket} (ran : world.withSocket holder socket acts = some later) :
    later.log = world.log ++ acts.map (Act.map (Resource.at holder)) := by
  obtain ⟨thing, _, result⟩ := Option.map_eq_some_iff.mp ran
  rw [← result]

theorem serverAt_silent {server : Server} (found : world.serverAt i = some server) :
    server.log = [] := by
  obtain ⟨thing, -, isServer⟩ := Option.bind_eq_some_iff.mp found
  cases thing with
  | sock _ | tcpClient _ => contradiction
  | tcpServer _ =>
      cases isServer
      rfl

theorem onServer_log {method : Server → Option Server} (ran : world.onServer i method = some later) :
    ∃ server after, world.serverAt i = some server ∧ server.Holds false ∧
      method server = some after ∧
      ∃ acts, later.log = world.log ++ acts ∧
        (Disciplined Resource.IsMutex acts ↔ after.Holds false) := by
  obtain ⟨server, found, called⟩ := Option.bind_eq_some_iff.mp ran
  obtain ⟨after, runs, result⟩ := Option.map_eq_some_iff.mp called
  have free : server.Holds false := by
    intro owner lock
    unfold Server.trace
    rw [serverAt_silent found]
    rfl
  refine ⟨server, after, found, free, runs, _, by rw [← result], ?_⟩
  rw [Server.holds_iff]
  apply Disciplined.map_iff _ Resource.isMutex_map
  apply Resource.map_injective
  intro first second same
  exact (Prod.mk.inj same).2

end World

namespace ApiCall

variable {F : Type} [DataFrame F] {world later : World} {call : ApiCall F}

theorem method_log {i : Nat} {method : Server → Option Server}
    (ran : world.onServer i method = some later)
    (keeps : ∀ server after, server.Holds false → method server = some after → after.Holds false)
    (spares : call.Spares world) : ∃ acts, later.log = world.log ++ acts ∧
      (Disciplined Resource.IsMutex acts ↔ call.Spares world) := by
  obtain ⟨server, after, _, holds, runs, acts, log, disciplined⟩ := World.onServer_log ran
  exact ⟨acts, log, iff_of_true (disciplined.mpr (keeps _ after holds runs)) spares⟩

/-- The acts of a call keep the discipline exactly if it spares the mutexes. -/
theorem run_log (ran : call.run world = some later) :
    ∃ acts, later.log = world.log ++ acts ∧
      (Disciplined Resource.IsMutex acts ↔ call.Spares world) := by
  have constructed {holder : Holder} :
      Disciplined Resource.IsMutex ((Socket.construct Socket.new).actsOf holder) :=
    Call.actsOf_disciplined_iff.mpr Socket.construct_disciplined
  cases call with
  | constructSocket =>
      cases ran
      exact ⟨_, rfl, iff_of_true constructed trivial⟩
  | constructClient =>
      cases ran
      exact ⟨_, rfl, iff_of_true constructed trivial⟩
  | constructServer memory =>
      cases ran
      exact ⟨_, rfl, iff_of_true constructed trivial⟩
  | onObject holder call outcomes =>
      obtain ⟨socket, found, runs⟩ := Option.bind_eq_some_iff.mp ran
      obtain ⟨after, called, result⟩ := Option.bind_eq_some_iff.mp runs
      refine ⟨_, World.withSocket_log result, ?_⟩
      rw [World.renamed_disciplined_iff, SocketCall.run_disciplined_iff called]
      constructor
      · intro spares other same
        rw [found] at same
        cases same
        exact spares
      · intro spares
        exact spares socket found
  | duplicate this obj =>
      obtain ⟨socket, _, runs⟩ := Option.bind_eq_some_iff.mp ran
      obtain ⟨other, _, duplicates⟩ := Option.bind_eq_some_iff.mp runs
      obtain ⟨middle, changed, result⟩ := Option.map_eq_some_iff.mp duplicates
      refine ⟨Socket.duplicateActs this obj, ?_, duplicateActs_disciplined_iff⟩
      rw [← result, World.withSocket_log changed, List.map_nil, List.append_nil]
  | initClient i outcomes =>
      simp only [run, World.onClient] at ran
      split at ran
      · cases ran
        refine ⟨_, rfl, iff_of_false ?_ not_false⟩
        rw [World.renamed_disciplined_iff]
        exact TCPClient.init_undisciplined
      · contradiction
  | initServer i outcomes =>
      rw [run] at ran
      refine method_log ran ?_ trivial
      intro server after holds runs
      cases runs
      have same : ({ server with
          toSocket := (server.initServer outcomes).socket } : Server).Holds false := holds
      exact same.emit_disciplined (Call.actsOf_disciplined_iff.mpr Socket.initServer_disciplined)
  | initializeSSL i =>
      simp only [run] at ran
      split at ran
      · cases ran
        exact ⟨[], (List.append_nil _).symm, iff_of_true .nil trivial⟩
      · cases ran
        exact ⟨[], (List.append_nil _).symm, iff_of_true .nil trivial⟩
      · contradiction
  | setMaximumClient i nClient =>
      rw [run] at ran
      refine method_log ran ?_ trivial
      intro server after holds runs
      cases runs
      unfold Server.setMaximumClient
      split
      · exact holds
      · have changed : ({ server.lock with
            maxClient := nClient.toNat.toUInt16 } : Server).Holds true := holds.lock
        exact changed.unlock
  | setConnectionRequestHandler i func param =>
      rw [run] at ran
      refine method_log ran ?_ trivial
      intro server after holds runs
      cases runs
      have changed : ({ server.lock with
          conReqCallbackFunction := func, conReqCallbackParam := param } : Server).Holds true :=
        holds.lock
      exact changed.unlock
  | setReceptionHandler i func param asThread =>
      rw [run] at ran
      refine method_log ran ?_ trivial
      intro server after holds runs
      cases runs
      have changed : ({ server.lock with
          receptionCallbackFunction := func
          receptionCallbackParam := param
          receptionHandlerAsThread := asThread } : Server).Holds true := holds.lock
      exact changed.unlock
  | acceptNewClient i outcomes =>
      rw [run] at ran
      obtain ⟨server, after, _, holds, runs, acts, log, disciplined⟩ := World.onServer_log ran
      obtain ⟨accepted, accepts, result⟩ := Option.map_eq_some_iff.mp runs
      cases result
      obtain ⟨free, broken⟩ := holds.acceptNewClient accepts
      refine ⟨acts, log, disciplined.trans ⟨fun after => ?_, free⟩⟩
      by_contra unaccepted
      have fault := broken unaccepted
      rw [after .server .mtx] at fault
      contradiction
  | eventCheck i outcomes waits =>
      rw [run] at ran
      obtain ⟨server, after, found, holds, runs, acts, log, disciplined⟩ := World.onServer_log ran
      obtain ⟨event, checks, result⟩ :=
        Option.map_eq_some_iff.mp (Option.filter_eq_some_iff.mp runs).1
      cases result
      obtain ⟨free, broken⟩ := holds.eventCheck checks
      refine ⟨acts, log, disciplined.trans ⟨fun after other same reached => ?_, fun spares => ?_⟩⟩
      · rw [found] at same
        cases same
        by_contra unaccepted
        have fault := broken reached unaccepted
        rw [after .server .mtx] at fault
        contradiction
      · exact free (spares server found)

end ApiCall

end SynapTCP
