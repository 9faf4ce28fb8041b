import SynapTCP.Example.Exchange
import SynapTCP.Threads.Sessions

namespace SynapTCP

open Data DataFrame ProtocolFrame

/-! # The example server with its threads

The server of `src/examples/server.cpp` runs its callback in a thread each time that a
client is heard.  The calls share the static variable `ret`, so that one may find there
what another has put in.
-/

variable {F : Type}

/-- Behind `receiveFramedData`, where `ret` is found to be this. -/
def FramedReception.answeredWith (r : FramedReception F) (ret : Nat) (writes : List Nat) :
    Served F :=
  ⟨ret, if ret = 0 then some (r.sock.toSocket.sendData r.sock.data writes) else none,
    r.sock.destroyFormat, r.wire⟩

/-- A call has the object that is left by the call before, and goes by a shared `ret`. -/
def sharedCallback [ProtocolFrame F] (connection : SynapSock F) (w : Wire) (ret : Nat)
    (writes : List Nat) : Option (Served F) :=
  (connection.prepared.receiveFramedData w).map fun r => r.answeredWith ret writes

/-- A call that received what the recogniser tells, and sends nothing else back, if
anything. -/
structure Confined (recognised : Recognised) (served : Served F) : Prop where
  data : served.connection.data = recognised.data
  stream : served.connection.toSocket.stream served.wire = recognised.rest
  echoes : served.ret = 0 → ∃ echo, served.echo = some echo ∧
    echo.sent <+: recognised.data ∧ (echo.code = 0 → echo.sent = recognised.data)
  silent : served.ret ≠ 0 → served.echo = none

variable [ProtocolFrame F] {connection : SynapSock F} {w : Wire} {writes : List Nat} {ret : Nat}
  {served : Served F} {r : Recognised} {results : List Recognised} {calls : List (Served F)}

/-- The calls of the callback by which the threads of the node handle in a run, each on
the object that the server has there by then; each finds a value of `ret` and has the
writes of its echo.  There is no value where a handler does something else. -/
def Serving.callbackCalls (F : Type) [ProtocolFrame F] (serving : Serving) (node : CollectionId)
    (w : Wire) : List Move → List (Nat × List Nat) → Option (List (Served F))
  | [], [] => some []
  | [], _ :: _ => none
  | move :: moves, looks =>
      (move.run serving).bind fun next =>
        match move.handled serving node, looks with
        | [], _ => next.callbackCalls F node w moves looks
        | _ :: _, [] => none
        | (_, left) :: _, look :: looks =>
            (serving.server.object node).bind fun there =>
              (sharedCallback (.fresh there.2 : SynapSock F) w look.1 look.2).bind fun served =>
                if served.connection.toSocket = left then
                  (next.callbackCalls F node served.wire moves looks).map (served :: ·)
                else none

/-! ## One call -/

theorem sharedCallback_format (called : sharedCallback connection w ret writes = some served) :
    served.connection.frameFormat = [] ∧ served.ret = ret := by
  obtain ⟨reception, -, rfl⟩ := Option.map_eq_some_iff.mp called
  exact ⟨rfl, rfl⟩

/-- Of the object only the part that the server keeps matters. -/
theorem sharedCallback_fresh (format : connection.frameFormat = []) :
    sharedCallback (.fresh connection.toSocket) w ret writes =
      sharedCallback connection w ret writes := by
  have present : (socketSetupDataFrameProtocol : List F) ≠ [] := List.cons_ne_nil _ _
  obtain ⟨socket, frameFormat, isFormatValid⟩ := connection
  cases format
  simp only [sharedCallback, SynapSock.prepared, SynapSock.fresh, SynapSock.receiveFramedData,
    if_neg present, if_true, SynapSock.opening]

/-- Whatever a call finds in `ret`, it leaves what it leaves alone. -/
theorem sharedCallback_alone (called : sharedCallback connection w ret writes = some served) :
    ∃ alone, receptionCallbackFunction connection w writes = some alone ∧
      served.connection = alone.connection ∧ served.wire = alone.wire ∧
      served.echo = (if ret = 0 then
        some (alone.connection.toSocket.sendData alone.connection.data writes) else none) ∧
      (ret = alone.ret → served = alone) := by
  obtain ⟨reception, received, rfl⟩ := Option.map_eq_some_iff.mp called
  refine ⟨reception.answered writes, ?_, rfl, rfl, rfl, fun own => ?_⟩
  · rw [receptionCallbackFunction, received, Option.map_some]
  · rw [own]
    rfl

omit [ProtocolFrame F] in
theorem Serves.confined {alone : Served F} (serves : Serves r alone)
    (connection : served.connection = alone.connection) (wire : served.wire = alone.wire)
    (echo : served.echo = if served.ret = 0 then
      some (alone.connection.toSocket.sendData alone.connection.data writes) else none) :
    Confined r served where
  data := by rw [connection, serves.data]
  stream := by rw [connection, wire, serves.stream]
  echoes found := by
    refine ⟨_, echo.trans (if_pos found), ?_, fun all => ?_⟩
    · rw [← serves.data]
      exact sendData_prefix
    · rw [← serves.data]
      exact Socket.sendData_all all
  silent other := echo.trans (if_neg other)

/-! ## The calls of a run -/

variable [LawfulProtocolFrame F] {serving later : Serving} {ring : List CollectionId}
  {node : CollectionId} {moves : List Move} {looks : List (Nat × List Nat)}

/-- The call has found what it put in itself. -/
def Serving.FoundOwn (results : List Recognised) (calls : List (Served F)) : Prop :=
  List.Forall₂ (fun (r : Recognised) (served : Served F) => served.ret = r.code) results calls

theorem Serving.Kept.callbackCalls_confined (kept : serving.Kept ring)
    (follows : serving.follow moves = some later)
    (made : node < serving.server.collections.fresh)
    (current : ∀ owner last, serving.server.object node = some (owner, last) →
      last = connection.toSocket)
    (ready : connection.Readable) (format : connection.frameFormat = [])
    (supplied : Socket.Supplied (connection.toSocket.stream w).length connection.toSocket w)
    (called : serving.callbackCalls F node w moves looks = some calls)
    (recognised : recognises (connection.toSocket.stream w) looks.length = some results) :
    List.Forall₂ Confined results calls ∧ (Serving.FoundOwn results calls →
      receptionCallbacks connection w (looks.map Prod.snd) = some calls) := by
  induction moves generalizing serving ring connection w looks results calls with
  | nil =>
      cases looks with
      | nil =>
          cases called
          cases recognised
          exact ⟨.nil, fun _ => rfl⟩
      | cons look looks => contradiction
  | cons move moves ih =>
      obtain ⟨possible, spares, next, ran, rest, -⟩ := @Serving.follow_cons serving later node moves move
        follows
      obtain ⟨ringNext, keptNext⟩ := kept.next possible spares ran
      obtain ⟨grows, writes⟩ := @Move.writesObject serving next ring node move kept ran
      have madeNext := Nat.lt_of_lt_of_le made grows
      simp only [Serving.callbackCalls, ran, Option.bind_some] at called
      rcases Move.handled_cases serving node move with none | ⟨entry, one⟩
      · rw [none] at called writes
        refine ih keptNext rest madeNext ?_ ready format supplied called recognised
        intro owner last there
        obtain ⟨before, here, isLast⟩ := writes owner last made there
        exact isLast.trans (current owner before here)
      · rw [one] at called writes
        cases looks with
        | nil => contradiction
        | cons look looks =>
            obtain ⟨there, here, called⟩ := Option.bind_eq_some_iff.mp called
            obtain ⟨served, callback, called⟩ := Option.bind_eq_some_iff.mp called
            simp only [Option.ite_none_right_eq_some] at called
            obtain ⟨left, called⟩ := called
            obtain ⟨others, calledOthers, rfl⟩ := Option.map_eq_some_iff.mp called
            obtain ⟨first, found, more⟩ := Option.bind_eq_some_iff.mp recognised
            obtain ⟨othersFound, foundOthers, rfl⟩ := Option.map_eq_some_iff.mp more
            rw [current there.1 there.2 here, sharedCallback_fresh format] at callback
            obtain ⟨destroyed, isRet⟩ := sharedCallback_format callback
            obtain ⟨alone, calledAlone, sameConnection, sameWire, echo, own⟩ :=
              sharedCallback_alone callback
            obtain ⟨again, calledAgain, serves⟩ :=
              @receptionCallbackFunction_serves F _ _ connection w look.2 first ready format
                supplied found
            cases calledAlone.symm.trans calledAgain
            have suppliedNext := serves.supplied
            have readyNext := serves.ready
            rw [← serves.stream] at suppliedNext foundOthers
            rw [← sameConnection, ← sameWire] at suppliedNext foundOthers
            rw [← sameConnection] at readyNext
            obtain ⟨confined, refines⟩ := ih keptNext rest madeNext
              (fun owner last isThere => by
                obtain ⟨before, -, isLast⟩ := writes owner last made isThere
                exact isLast.trans left.symm)
              readyNext destroyed suppliedNext calledOthers foundOthers
            rw [← isRet] at echo
            refine ⟨.cons (serves.confined sameConnection sameWire echo) confined, fun foundOwn => ?_⟩
            obtain ⟨ownFirst, ownOthers⟩ := List.forall₂_cons.mp foundOwn
            have same := own (isRet.symm.trans (ownFirst.trans serves.ret.symm))
            subst same
            simp only [List.map_cons, receptionCallbacks, calledAlone, Option.bind_some,
              refines ownOthers, Option.map_some]

omit [ProtocolFrame F] [LawfulProtocolFrame F] in
theorem Confined.own (confined : Confined r served) :
    ∀ echo ∈ served.echo, echo.sent <+: r.data := by
  intro echo sends
  by_cases found : served.ret = 0
  · obtain ⟨sending, echoed, part, -⟩ := confined.echoes found
    cases sends.symm.trans echoed
    exact part
  · cases sends.symm.trans (confined.silent found)

/-- Whatever goes on with other clients, and whatever they put into `ret`: all calls for
one client receive what the recogniser tells of its stream, one after another, and send
it nothing but its own bytes, in their order and no byte twice.  If each finds in `ret`
what it put in, they are the calls of the callback alone. -/
theorem clients_answered_apart {server : Server} {client : ClientId} {socket : Socket}
    (new : server.New) (reaches : (Serving.of server).Reaches serving)
    (follows : serving.follow moves = some later)
    (here : serving.server.object node = some (client, socket)) (ready : socket.Readable)
    (chunks : .failed ∉ w.reads)
    (called : serving.callbackCalls F node w moves looks = some calls)
    (recognised : recognises (socket.stream w) looks.length = some results) :
    List.Forall₂ Confined results calls ∧
      (calls.flatMap Served.echoed).Sublist (socket.stream w) ∧
      (Serving.FoundOwn results calls →
        receptionCallbacks (.fresh socket : SynapSock F) w (looks.map Prod.snd) = some calls) := by
  obtain ⟨ring, kept⟩ := reaches.kept (Serving.Kept.of_new new)
  have made := Server.lt_fresh_of_clientAt (Server.object_eq_some.mp here).1
  have readyFresh : (SynapSock.fresh socket : SynapSock F).Readable :=
    ⟨ready.opened, ready.connected⟩
  obtain ⟨confined, refines⟩ := @Serving.Kept.callbackCalls_confined F _ (.fresh socket) w results
    calls _ serving later ring node moves looks kept follows made
    (fun owner last there => by
      cases here.symm.trans there
      rfl)
    readyFresh rfl (Socket.supplied_of_chunks chunks) called recognised
  have echoed : (calls.flatMap Served.echoed).Sublist (results.flatMap Recognised.data) :=
    flatMap_sublist_of_forall₂ confined fun same => Served.echoed_sublist same.own
  exact ⟨confined, echoed.trans (recognises_data_sublist recognised), refines⟩

/-- The client of the server, as it is accepted. -/
def guest : Socket :=
  { Socket.new with address := [10, 0, 0, 1], addr := ⟨4000, [10, 0, 0, 1]⟩, sockFd := 5 }

/-- Two threads call back for a client, with another client in between. -/
def callingTwice : List Move :=
  [.handle 0 { guest with data := encode 0x35 [0x36, 0x37, 0x38], remainingData := [0x31, 0x32] },
    .finish 0 ⟨0, 0⟩, .leave 0, .begin, .look { Serving.asking with connFd := 6 },
    .begin, .look Serving.told, .act Serving.told,
    .begin, .look { Serving.heard with pipe := some (9, 10) },
    .act { Serving.heard with pipe := some (9, 10) }, .start 1,
    .handle 1 { guest with
      data := [0x31, 0x32, 0x33, 0x34, 7]
      remainingData := [0x31, 0x32, 0x33, 0x34, 0x36, 1, 2, 3, 4, 5] }]

/-- The second call has invalid data, but finds what another has put into `ret`. -/
theorem clients_answered_apart_two :
    ∃ (serving later : Serving) (calls : List (Served ProtocolElement)),
      serving.follow callingTwice = some later ∧
      calls.map Served.echoed =
        [encode 0x35 [0x36, 0x37, 0x38], [0x31, 0x32, 0x33, 0x34, 7]] ∧
      List.Forall₂ Confined (visited.take 2) calls ∧
      (calls.flatMap Served.echoed).Sublist (guest.stream visitingWire) ∧
      (Serving.FoundOwn (visited.take 2) calls →
        receptionCallbacks (.fresh guest : SynapSock ProtocolElement) visitingWire
          [[3, 20], [5]] = some calls) := by
  have follows : ((Serving.of Serving.threaded).follow [.begin, .look Serving.asking, .begin,
      .look Serving.heard, .act Serving.heard, .start 0]).map (fun serving =>
        (serving.server.object 0, (serving.follow callingTwice).isSome,
          (serving.callbackCalls ProtocolElement 0 visitingWire callingTwice
            [(0, [3, 20]), (0, [5])]).map fun calls => calls.map Served.echoed)) =
      some (some (0, guest), true,
        some [encode 0x35 [0x36, 0x37, 0x38], [0x31, 0x32, 0x33, 0x34, 7]]) := by
    decide +kernel
  obtain ⟨serving, first, values⟩ := Option.map_eq_some_iff.mp follows
  obtain ⟨here, values⟩ := Prod.mk.inj values
  obtain ⟨second, values⟩ := Prod.mk.inj values
  obtain ⟨later, follows⟩ := Option.isSome_iff_exists.mp second
  obtain ⟨calls, called, echoes⟩ := Option.map_eq_some_iff.mp values
  exact ⟨serving, later, calls, follows, echoes,
    clients_answered_apart Serving.threaded_new (Serving.reaches_of_follow first) follows here
      ⟨by decide, rfl⟩ (by decide) called (by decide +kernel)⟩

end SynapTCP
