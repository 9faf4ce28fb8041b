import SynapTCP.Locks.World
import SynapTCP.Server.Effects

namespace SynapTCP

open Data

/-! # Calls of the reception handler

The handlers are registered, and then the server checks for events.  `eventCheck` calls
the reception handler itself or starts `receptionThreadHandler` of `src/tcp-server.cpp`,
which asks the server for the handler and its parameter when it runs.
-/

structure ReceptionHandler where
  func : Option Nat
  param : Nat
  asThread : Bool
deriving DecidableEq

inductive Registration where
  | setConnectionRequestHandler (func : Option Nat) (param : Nat)
  | setReceptionHandler (func : Option Nat) (param : Nat) (asThread : Bool)
deriving DecidableEq

namespace Registration

def run (server : Server) : Registration → Server
  | .setConnectionRequestHandler func param => server.setConnectionRequestHandler func param
  | .setReceptionHandler func param asThread => server.setReceptionHandler func param asThread

def connectionParam? : Registration → Option Nat
  | .setConnectionRequestHandler _ param => some param
  | .setReceptionHandler _ _ _ => none

def reception? : Registration → Option ReceptionHandler
  | .setConnectionRequestHandler _ _ => none
  | .setReceptionHandler func param asThread => some ⟨func, param, asThread⟩

def lastReception (registrations : List Registration) : Option ReceptionHandler :=
  (registrations.filterMap reception?).getLast?

/-- The parameter last given to `setConnectionRequestHandler`. -/
def lastConnectionParam (registrations : List Registration) : Option Nat :=
  (registrations.filterMap connectionParam?).getLast?

end Registration

namespace Server

variable {server : Server} {registrations : List Registration} {handler : ReceptionHandler}

def register (server : Server) (registrations : List Registration) : Server :=
  registrations.foldl Registration.run server

/-- Without a registration the field holds what memory held. -/
theorem register_connectionParam :
    (server.register registrations).conReqCallbackParam =
      (Registration.lastConnectionParam registrations).getD server.conReqCallbackParam := by
  induction registrations using List.reverseRecOn with
  | nil => rfl
  | append_singleton registrations last ih =>
      unfold register Registration.lastConnectionParam at *
      rw [List.foldl_concat, List.filterMap_append]
      cases last with
      | setConnectionRequestHandler func param =>
          show param = _
          simp [Registration.connectionParam?]
      | setReceptionHandler func param asThread =>
          show (List.foldl Registration.run server registrations).conReqCallbackParam = _
          rw [ih]
          simp [Registration.connectionParam?]

theorem register_reception (last : Registration.lastReception registrations = some handler) :
    (server.register registrations).receptionCallbackFunction = handler.func ∧
      (server.register registrations).receptionCallbackParam = handler.param ∧
      (server.register registrations).receptionHandlerAsThread = handler.asThread := by
  induction registrations using List.reverseRecOn with
  | nil => contradiction
  | append_singleton registrations latest ih =>
      unfold register Registration.lastReception at *
      rw [List.filterMap_append] at last
      rw [List.foldl_concat]
      cases latest with
      | setConnectionRequestHandler func param =>
          exact ih (by simpa [Registration.reception?] using last)
      | setReceptionHandler func param asThread =>
          have same : ⟨func, param, asThread⟩ = handler := by
            simpa [Registration.reception?] using last
          rw [← same]
          exact ⟨rfl, rfl, rfl⟩

end Server

/-- A check, and the server that it started with. -/
structure Check where
  server : Server
  outcomes : Outcomes

/-- The descriptor of the client was readable. -/
def Check.Readable (check : Check) (client : ClientId) : Prop :=
  ∃ socket, check.server.clients.get? client = some socket ∧
    socket.sockFd ∈ check.outcomes.readfds

/-- A thread that was started for a node. -/
structure ReceptionThread where
  collection : CollectionId
  check : Check

/-- A call of the reception handler, and the check that led to it. -/
structure Invocation where
  function : Nat
  client : ClientId
  param : Nat
  check : Check

/-- The server, the threads that are not yet at the handler, the nodes of those that
are in it, and all calls of it. -/
structure Dispatching where
  server : Server
  started : List ReceptionThread
  handling : List CollectionId
  invocations : List Invocation

inductive DispatchStep where
  | eventCheck (outcomes : Outcomes)
  /-- The connection request handler accepts the client. -/
  | acceptNewClient (outcomes : Outcomes)
  /-- A handler calls a method of a client. -/
  | onClient (client : ClientId) (call : Call Unit)
  /-- A thread calls the handler. -/
  | invoke (i : Nat)
  /-- A thread whose handler has returned ends. -/
  | finish (i : Nat) (lastActivity : TimeVal)

namespace Dispatching

variable {state next : Dispatching} {server : Server} {registrations : List Registration}
  {handler : ReceptionHandler} {invocation : Invocation} {outcomes : Outcomes}

def initial (server : Server) : Dispatching := ⟨server, [], [], []⟩

def invocation? (check : Check) : Effect → Option Invocation
  | .reception function client param => some ⟨function, client, param, check⟩
  | _ => none

def thread? (check : Check) : Effect → Option ReceptionThread
  | .create _ collection => some ⟨collection, check⟩
  | _ => none

def eventCheck (state : Dispatching) (outcomes : Outcomes) : Option Dispatching :=
  (state.server.eventCheck outcomes).map fun event =>
    let check : Check := ⟨state.server, outcomes⟩
    let called := (Server.calls event.2.log).drop (Server.calls state.server.log).length
    { state with
      server := event.2
      started := state.started ++ called.filterMap (thread? check)
      invocations := state.invocations ++ called.filterMap (invocation? check) }

/-- `callback(*(obj->client), server->getReceptionHandlerParam())`. -/
def invoke (state : Dispatching) (i : Nat) : Option Dispatching := do
  let thread ← state.started[i]?
  let function ← state.server.receptionCallbackFunction
  let client ← state.server.clientAt thread.collection
  some { state with
    started := state.started.eraseIdx i
    handling := state.handling ++ [thread.collection]
    invocations := state.invocations ++
      [⟨function, client, state.server.receptionCallbackParam, thread.check⟩] }

def finish (state : Dispatching) (i : Nat) (lastActivity : TimeVal) : Option Dispatching := do
  let node ← state.handling[i]?
  let collection ← state.server.collections.get? node
  some { state with
    server := { state.server with
      collections := state.server.collections.set node { collection with th := 0, lastActivity } }
    handling := state.handling.eraseIdx i }

def run (state : Dispatching) : DispatchStep → Option Dispatching
  | .eventCheck outcomes => state.eventCheck outcomes
  | .acceptNewClient outcomes =>
      (state.server.acceptNewClient outcomes).map fun added => { state with server := added.2 }
  | .onClient client call =>
      (state.server.clients.get? client).map fun _ =>
        { state with server := state.server.onClient client call }
  | .invoke i => state.invoke i
  | .finish i lastActivity => state.finish i lastActivity

def Goes (state next : Dispatching) : Prop := ∃ step, state.run step = some next

def Reaches : Dispatching → Dispatching → Prop := Relation.ReflTransGen Goes

/-- The handler is the registered one, for a client that was readable. -/
structure Right (handler : ReceptionHandler) (invocation : Invocation) : Prop where
  function : some invocation.function = handler.func
  readable : invocation.check.Readable invocation.client
  param : invocation.param = handler.param

/-! ## What a check adds -/

/-- It adds nothing, or one call or one thread, for a client that was readable. -/
theorem eventCheck_adds (checks : state.eventCheck outcomes = some next) :
    next.server.config = state.server.config ∧ Server.SameOwners state.server next.server ∧
      (next.started = state.started ∧ next.invocations = state.invocations ∨
        ∃ node client function, state.server.clientAt node = some client ∧
          Check.Readable ⟨state.server, outcomes⟩ client ∧
          state.server.receptionCallbackFunction = some function ∧
          (state.server.receptionHandlerAsThread = false ∧ next.started = state.started ∧
              next.invocations = state.invocations ++
                [⟨function, client, state.server.conReqCallbackParam, ⟨state.server, outcomes⟩⟩] ∨
            state.server.receptionHandlerAsThread = true ∧
              next.started = state.started ++ [⟨node, ⟨state.server, outcomes⟩⟩] ∧
              next.invocations = state.invocations)) := by
  obtain ⟨event, checked, result⟩ := Option.map_eq_some_iff.mp checks
  obtain ⟨owners, called⟩ := Server.eventCheck_calls checked
  cases result
  refine ⟨Server.eventCheck_config checked, owners, ?_⟩
  rcases called with silent |
    ⟨node, client, socket, function, owned, there, readable, isHandler, calls⟩
  · left
    simp only [silent, List.drop_length, List.filterMap_nil, List.append_nil, and_self]
  · simp only [calls, List.drop_left, Server.callFor]
    cases asThread : state.server.receptionHandlerAsThread with
    | false =>
        right
        refine ⟨node, client, function, owned, ⟨socket, there, readable⟩, isHandler,
          .inl ⟨rfl, ?_, rfl⟩⟩
        exact List.append_nil _
    | true =>
        cases outcomes.thread with
        | none =>
            left
            exact ⟨List.append_nil _, List.append_nil _⟩
        | some th =>
            right
            refine ⟨node, client, function, owned, ⟨socket, there, readable⟩, isHandler,
              .inr ⟨rfl, rfl, ?_⟩⟩
            exact List.append_nil _

/-! ## What every run keeps -/

/-- The server has the handlers of `start`, and the calls are as they say. -/
structure Follows (start : Server) (state : Dispatching) : Prop where
  config : state.server.config = start.config
  started : ∀ thread ∈ state.started, start.receptionHandlerAsThread = true ∧
    Server.SameOwners thread.check.server state.server ∧
    ∃ client, thread.check.server.clientAt thread.collection = some client ∧
      thread.check.Readable client
  invocations : ∀ invocation ∈ state.invocations,
    some invocation.function = start.receptionCallbackFunction ∧
      invocation.check.Readable invocation.client ∧
      invocation.param = if start.receptionHandlerAsThread = false then start.conReqCallbackParam
        else start.receptionCallbackParam

namespace Follows

theorem initial : Follows server (initial server) :=
  ⟨rfl, fun _ member => by contradiction, fun _ member => by contradiction⟩

theorem function (follows : Follows server state) :
    state.server.receptionCallbackFunction = server.receptionCallbackFunction :=
  (congrArg (fun object : TCPServer => object.receptionCallbackFunction) follows.config :)

theorem receptionParam (follows : Follows server state) :
    state.server.receptionCallbackParam = server.receptionCallbackParam :=
  (congrArg (fun object : TCPServer => object.receptionCallbackParam) follows.config :)

theorem connectionParam (follows : Follows server state) :
    state.server.conReqCallbackParam = server.conReqCallbackParam :=
  (congrArg (fun object : TCPServer => object.conReqCallbackParam) follows.config :)

theorem asThread (follows : Follows server state) :
    state.server.receptionHandlerAsThread = server.receptionHandlerAsThread :=
  (congrArg (fun object : TCPServer => object.receptionHandlerAsThread) follows.config :)

theorem frame (follows : Follows server state)
    (config : next.server.config = state.server.config)
    (owners : Server.SameOwners state.server next.server)
    (started : next.started = state.started) (invocations : next.invocations = state.invocations) :
    Follows server next := by
  refine ⟨config.trans follows.config, fun thread member => ?_, fun invocation member => ?_⟩
  · rw [started] at member
    obtain ⟨threaded, same, found⟩ := follows.started thread member
    exact ⟨threaded, same.trans owners, found⟩
  · rw [invocations] at member
    exact follows.invocations invocation member

theorem check (follows : Follows server state) (checks : state.eventCheck outcomes = some next) :
    Follows server next := by
  obtain ⟨config, owners, ⟨started, invocations⟩ |
    ⟨node, client, function, owned, readable, isHandler, adds⟩⟩ := eventCheck_adds checks
  · exact follows.frame config owners started invocations
  · rcases adds with ⟨synchronous, started, invocations⟩ | ⟨threaded, started, invocations⟩
    · have kept := @frame _ { next with invocations := state.invocations } _ follows config owners
        started rfl
      refine ⟨kept.config, kept.started, fun invocation member => ?_⟩
      rw [invocations] at member
      rcases List.mem_append.mp member with before | added
      · exact follows.invocations invocation before
      · rw [List.mem_singleton.mp added]
        refine ⟨isHandler.symm.trans follows.function, readable, ?_⟩
        rw [if_pos (follows.asThread.symm.trans synchronous)]
        exact follows.connectionParam
    · have kept := @frame _ { next with started := state.started } _ follows config owners rfl
        invocations
      refine ⟨kept.config, fun thread member => ?_, kept.invocations⟩
      rw [started] at member
      rcases List.mem_append.mp member with before | added
      · exact kept.started thread before
      · rw [List.mem_singleton.mp added]
        exact ⟨follows.asThread.symm.trans threaded, owners, client, owned, readable⟩

/-- A thread calls the handler for the client that its check has found. -/
theorem invoke {i : Nat} (follows : Follows server state) (invokes : state.invoke i = some next) :
    Follows server next := by
  obtain ⟨thread, isThread, invokes⟩ := Option.bind_eq_some_iff.mp invokes
  obtain ⟨function, isHandler, invokes⟩ := Option.bind_eq_some_iff.mp invokes
  obtain ⟨client, owned, result⟩ := Option.bind_eq_some_iff.mp invokes
  cases result
  obtain ⟨threaded, owners, found, here, readable⟩ :=
    follows.started thread (List.mem_of_getElem? isThread)
  refine ⟨follows.config,
    fun other member => follows.started other (List.mem_of_mem_eraseIdx member),
    fun invocation member => ?_⟩
  rcases List.mem_append.mp member with before | added
  · exact follows.invocations invocation before
  · rw [List.mem_singleton.mp added]
    obtain ⟨collection, live, -⟩ := Option.map_eq_some_iff.mp here
    have same := owners.owners thread.collection client (Arena.lt_fresh_of_get? live) owned
    rw [here] at same
    cases same
    refine ⟨isHandler.symm.trans follows.function, readable, ?_⟩
    rw [if_neg (by rw [threaded]; nofun)]
    exact follows.receptionParam

theorem finish {i : Nat} {lastActivity : TimeVal} (follows : Follows server state)
    (finishes : state.finish i lastActivity = some next) : Follows server next := by
  obtain ⟨node, -, finishes⟩ := Option.bind_eq_some_iff.mp finishes
  obtain ⟨collection, found, result⟩ := Option.bind_eq_some_iff.mp finishes
  cases result
  have owned : state.server.clientAt node = some collection.client :=
    Server.Sound.clientAt_of_get? found
  have owners := @Server.SameOwners.set state.server { state.server with
    collections := state.server.collections.set node { collection with th := 0, lastActivity } }
    node { collection with th := 0, lastActivity } owned rfl
  exact follows.frame rfl owners rfl rfl

theorem step {step : DispatchStep} (follows : Follows server state)
    (ran : state.run step = some next) : Follows server next := by
  cases step with
  | eventCheck outcomes => exact follows.check ran
  | acceptNewClient outcomes =>
      obtain ⟨added, accepts, result⟩ := Option.map_eq_some_iff.mp ran
      cases result
      exact follows.frame (Server.acceptNewClient_config accepts)
        (Server.acceptNewClient_calm accepts).toSameOwners rfl rfl
  | onClient client call =>
      obtain ⟨socket, -, result⟩ := Option.map_eq_some_iff.mp ran
      cases result
      exact follows.frame rfl (.of_eq rfl) rfl rfl
  | invoke i => exact follows.invoke ran
  | finish i lastActivity => exact follows.finish ran

theorem run (follows : Follows server state) (reaches : state.Reaches next) :
    Follows server next := by
  induction reaches with
  | refl => exact follows
  | tail _ goes ih =>
      obtain ⟨step, ran⟩ := goes
      exact ih.step ran

end Follows

/-! ## The handler and its parameter -/

/-- In a run from any server behind any registrations a call is the one that was
registered exactly if it is made by a thread, or both handlers got the same parameter. -/
theorem invocation_right_iff (last : Registration.lastReception registrations = some handler)
    (reaches : (initial (server.register registrations)).Reaches state)
    (called : invocation ∈ state.invocations) :
    Right handler invocation ↔ handler.asThread = true ∨
      (Registration.lastConnectionParam registrations).getD server.conReqCallbackParam =
        handler.param := by
  obtain ⟨function, receptionParam, asThread⟩ := @Server.register_reception server _ _ last
  obtain ⟨isHandler, readable, param⟩ := (Follows.initial.run reaches).invocations _ called
  rw [Server.register_connectionParam, receptionParam, asThread] at param
  cases threaded : handler.asThread with
  | false =>
      rw [if_pos threaded] at param
      simp only [Bool.false_eq_true, false_or]
      constructor
      · intro right
        exact param.symm.trans right.param
      · intro same
        exact ⟨isHandler.trans function, readable, param.trans same⟩
  | true =>
      rw [if_neg (by rw [threaded]; nofun)] at param
      simp only [true_or, iff_true]
      exact ⟨isHandler.trans function, readable, param⟩

def runAll (state : Dispatching) : List DispatchStep → Option Dispatching
  | [] => some state
  | step :: steps => (state.run step).bind fun next => next.runAll steps

theorem reaches_of_runAll {steps : List DispatchStep} (ran : state.runAll steps = some next) :
    state.Reaches next := by
  induction steps generalizing state with
  | nil =>
      cases ran
      exact .refl
  | cons step steps ih =>
      obtain ⟨middle, first, rest⟩ := Option.bind_eq_some_iff.mp ran
      exact .head ⟨step, first⟩ (ih rest)

/-- A peer connects, its handler accepts it, and it sends bytes. -/
def talk : List DispatchStep :=
  [.eventCheck { Server.quiet with ret := 1, readfds := [3] },
    .acceptNewClient { Server.quiet with connFd := 5, peer := ⟨4000, [10, 0, 0, 7]⟩ },
    .eventCheck { Server.quiet with
      ret := 1, readfds := [5], inputBytes := true, pipe := some (6, 7), thread := some 1 }]

def handlers (asThread : Bool) : List Registration :=
  [.setConnectionRequestHandler (some 1) 7, .setReceptionHandler (some 2) 9 asThread]

theorem invocation_right_thread : ∃ state invocation,
    (initial (Server.listening.register (handlers true))).runAll (talk ++ [.invoke 0]) = some state ∧
      invocation ∈ state.invocations ∧ (Right ⟨some 2, 9, true⟩ invocation ↔ true = true ∨
        (Registration.lastConnectionParam (handlers true)).getD
          Server.listening.conReqCallbackParam = 9) := by
  have result : ((initial (Server.listening.register (handlers true))).runAll
      (talk ++ [.invoke 0])).map (fun state => state.invocations.isEmpty) = some false := by
    decide +kernel
  obtain ⟨state, ran, some⟩ := Option.map_eq_some_iff.mp result
  obtain ⟨invocation, called⟩ := List.exists_mem_of_ne_nil state.invocations (by simpa using some)
  exact ⟨state, invocation, ran, called, invocation_right_iff rfl (reaches_of_runAll ran) called⟩

/-- Without a thread the handler gets the parameter of the other one. -/
theorem invocation_wrong_synchronous : ¬ ∀ (server : Server) (registrations : List Registration)
    (handler : ReceptionHandler) (state : Dispatching),
    Registration.lastReception registrations = some handler →
      (initial (server.register registrations)).Reaches state →
        ∀ invocation ∈ state.invocations, Right handler invocation := by
  intro all
  have result : ((initial (Server.listening.register (handlers false))).runAll talk).map
      (fun state => state.invocations.map Invocation.param) = some [7] := by
    decide +kernel
  obtain ⟨state, ran, params⟩ := Option.map_eq_some_iff.mp result
  obtain ⟨invocation, called, param⟩ := List.mem_map.mp (params ▸ List.mem_singleton_self 7)
  have right := all Server.listening (handlers false) ⟨some 2, 9, false⟩ state rfl
    (reaches_of_runAll ran) invocation called
  rw [right.param] at param
  contradiction

end Dispatching

end SynapTCP
