import SynapTCP.Data.Tally
import SynapTCP.Server.Roster

namespace SynapTCP

open Data

/-! # What the events report

An application knows of its clients by the events of `eventCheck`: what each of them says,
and that no client goes without one.
-/

namespace Server

variable {server middle after later : Server} {ring : List CollectionId} {outcomes : Outcomes}
  {node head : CollectionId} {client : ClientId} {event : ServerEvent × Server} {fuel : Nat}

/-! ## The identities of the clients -/

/-- No identity is given twice. -/
def Makes (before after : Server) : Prop := before.clients.fresh ≤ after.clients.fresh

theorem makes_of_clients (same : after.clients = server.clients) : Makes server after :=
  Nat.le_of_eq (congrArg Arena.fresh same.symm)

theorem deleteClient_makes (makes : Makes server middle)
    (deletes : middle.deleteClient client outcomes = some after) : Makes server after := by
  obtain ⟨socket, -, result⟩ := Option.map_eq_some_iff.mp deletes
  cases result
  show server.clients.fresh ≤ (middle.clients.destroy client).fresh
  rw [Arena.fresh_destroy]
  exact makes

namespace Makes

theorem emit (makes : Makes server middle) (acts : List (Act (Resource Owner))) :
    Makes server (middle.emit acts) :=
  makes

theorem onClient {α : Type} (makes : Makes server middle) (client : ClientId) (call : Call α) :
    Makes server (middle.onClient client call) := by
  show server.clients.fresh ≤ (middle.clients.set client call.socket).fresh
  rw [Arena.fresh_set]
  exact makes

theorem newClient : Makes server server.newClient := by
  show server.clients.fresh ≤ (server.clients.make _).fresh
  rw [Arena.fresh_make]
  exact Nat.le_succ _

theorem attachClient (makes : Makes server middle) (client : ClientId) (socket : Socket)
    (connFd : Int) (outcomes : Outcomes) :
    Makes server (middle.attachClient client socket connFd outcomes).2 := by
  have given := makes.onClient client (socket.setSocketFd connFd)
  have unset := given.onClient client ((socket.setSocketFd connFd).socket.setSSLPointer none)
  unfold Server.attachClient
  dsimp only
  split
  · split
    · exact unset
    · split
      · exact unset
      · split
        · exact (unset.emit _).emit _
        · exact (unset.emit _).onClient client _
  · exact unset

end Makes

theorem addClient_makes {connFd : Int} {added : Bool × Server}
    (adds : server.addClient connFd outcomes = some added) : Makes server added.2 := by
  let addressed := (server.toSocket.duplicate Socket.new).setAddress
    (Socket.dotted server.addr.host)
  have named : Makes server (server.newClient.onClient server.clients.fresh addressed) :=
    Makes.newClient.onClient _ addressed
  have ported := named.onClient server.clients.fresh
    (addressed.socket.setPort server.addr.port.toNat)
  have attached := (ported.emit (lockOf .server)).attachClient server.clients.fresh
    (addressed.socket.setPort server.addr.port.toNat).socket connFd outcomes
  unfold addClient at adds
  dsimp only at adds
  split at adds
  · obtain ⟨deleted, deletes, result⟩ := Option.map_eq_some_iff.mp adds
    cases result
    exact deleteClient_makes named deletes
  · split at adds
    · obtain ⟨deleted, deletes, result⟩ := Option.map_eq_some_iff.mp adds
      cases result
      exact deleteClient_makes ported deletes
    · split at adds
      · obtain ⟨deleted, deletes, result⟩ := Option.map_eq_some_iff.mp adds
        cases result
        exact deleteClient_makes attached deletes
      · obtain ⟨linked, links, result⟩ := Option.map_eq_some_iff.mp adds
        cases result
        exact attached.trans (makes_of_clients (linkClient_clients links))

theorem acceptNewClient_makes {added : Bool × Server}
    (accepts : server.acceptNewClient outcomes = some added) : Makes server added.2 := by
  have before : Makes server (server.accepted outcomes) := makes_of_clients accepted_clients
  rcases acceptNewClient_cases accepts with none | ⟨result, adds, isAdded⟩
  · rw [none]
    exact before
  · rw [isAdded]
    have makes := addClient_makes adds
    exact before.trans makes

theorem removeClient_makes {target : Option ClientId} {removed : Bool × Server}
    (removes : server.removeClient target outcomes = some removed) : Makes server removed.2 := by
  have keeps : RemovalKeeps (Makes server) outcomes := by
    refine ⟨fun _ _ _ _ _ makes => makes, fun _ _ _ makes => makes, ?_⟩
    intro middle deleted node deletes makes
    obtain ⟨collection, -, deletes⟩ := Option.bind_eq_some_iff.mp deletes
    obtain ⟨closed, closes, result⟩ := Option.bind_eq_some_iff.mp deletes
    cases result
    have deleted := deleteClient_makes makes closes
    exact deleted
  exact removeClient_keeps keeps (Nat.le_refl _) removes

theorem eventCheck_makes (checks : server.eventCheck outcomes = some event) :
    Makes server event.2 := by
  cases eventCheck_checked checks with
  | shut closed result =>
      rw [result]
      exact Nat.le_refl _
  | failed seen ret result =>
      rw [result]
      exact makes_of_clients seen.clients
  | requested seen opened ret readable requests =>
      unfold connectRequest at requests
      split at requests
      · cases requests
        exact makes_of_clients seen.clients
      · obtain ⟨added, accepts, result⟩ := Option.map_eq_some_iff.mp requests
        cases result
        have makes := acceptNewClient_makes accepts
        exact (makes_of_clients seen.clients).trans makes
  | heard seen found drops checks =>
      refine (makes_of_clients seen.clients).trans ?_
      obtain ⟨collection, -, ⟨-, removed, removes, result⟩ |
        ⟨-, -, ⟨-, same⟩ | ⟨function, -, ⟨-, same⟩ | ⟨-, same⟩⟩⟩⟩ := clientEvent_cases checks
      · rw [result]
        have makes := removeClient_makes removes
        exact makes
      · rw [same]
        exact Nat.le_refl _
      · rw [same]
        exact Nat.le_refl _
      · rw [same]
        exact makes_of_clients startThread_clients
  | idle seen drops removes =>
      refine (makes_of_clients seen.clients).trans ?_
      obtain ⟨collection, -, removes⟩ := Option.bind_eq_some_iff.mp removes
      obtain ⟨removed, removal, removes⟩ := Option.bind_eq_some_iff.mp removes
      split at removes
      · cases removes
        exact removeClient_makes removal
      · obtain ⟨behind, -, result⟩ := Option.bind_eq_some_iff.mp removes
        cases result
        exact removeClient_makes removal
  | nothing seen drops result =>
      rw [result]
      exact makes_of_clients seen.clients

/-! ## One check -/

theorem acceptNewClient_active {added : Bool × Server}
    (accepts : server.acceptNewClient outcomes = some added) : added.2.client = server.client := by
  have keeps : AdditionKeeps (fun after => after.client = server.client) outcomes := by
    refine ⟨fun _ _ _ same => same, fun middle after client links same => ?_⟩
    unfold linkClient at links
    dsimp only at links
    split at links
    · cases links
      exact same
    · obtain ⟨tmp, -, links⟩ := Option.bind_eq_some_iff.mp links
      obtain ⟨last, -, result⟩ := Option.bind_eq_some_iff.mp links
      cases result
      exact same
  have before : (server.accepted outcomes).client = server.client := accepted_same.client
  rcases acceptNewClient_cases accepts with none | ⟨result, adds, isAdded⟩
  · rw [none]
    exact before
  · rw [isAdded]
    have active := addClient_keeps keeps before adds
    exact active

theorem connectRequest_reports (requests : server.connectRequest outcomes = some event) :
    event.1 = .connectRequest ∧ event.2.client = server.client := by
  unfold connectRequest at requests
  split at requests
  · cases requests
    exact ⟨rfl, rfl⟩
  · obtain ⟨added, accepts, result⟩ := Option.map_eq_some_iff.mp requests
    cases result
    have active := acceptNewClient_active accepts
    exact ⟨rfl, active⟩

/-- What an event says of the clients. -/
def Tells (server : Server) (outcomes : Outcomes) (after : Server) : ServerEvent → Prop
  | .none => after.roster = server.roster ∧ after.client = server.client
  | .connectRequest => after.client = server.client ∧ (after.roster = server.roster ∨
      server.Accepts outcomes ∧ after.roster = server.roster ++ [server.clients.fresh])
  | .bytesAvailable => after.roster = server.roster ∧ outcomes.inputBytes = true ∧
      ∃ client ∈ server.roster, after.client = some client ∧
        ∃ socket, server.clients.get? client = some socket ∧ socket.sockFd ∈ outcomes.readfds
  | .clientDisconnected => ∃ client ∈ server.roster, server.dropped outcomes = some client ∧
      after.roster = server.roster.erase client ∧ after.client ≠ some client

theorem Lists.active {clients : List ClientId} (lists : after.Lists clients)
    (isActive : after.client = some client) : client ∈ clients := by
  obtain ⟨ring, inOrder, rfl⟩ := lists
  exact inOrder.mem_roster.mpr
    ((inOrder.sound.sockets client).mpr (inOrder.sound.active client isActive))

/-- The client that goes. -/
theorem InOrder.tells_dropped (inOrder : server.InOrder ring) (owned : server.clientAt node = some client)
    (drops : server.dropped outcomes = server.clientAt node)
    (lists : after.Lists (server.rosterWithout (server.dropped outcomes))) :
    server.Tells outcomes after .clientDisconnected := by
  rw [drops, owned] at lists
  refine ⟨client, inOrder.mem_roster.mpr ((inOrder.sound.sockets client).mpr
    ⟨node, inOrder.sound.mem_of_clientAt owned, owned⟩), drops.trans owned, ?_, fun isActive => ?_⟩
  · obtain ⟨-, -, roster⟩ := lists
    exact roster
  · have member : client ∈ server.roster.erase client := lists.active isActive
    have nodup : server.roster.Nodup := inOrder.sorted.nodup
    exact absurd rfl (nodup.mem_erase_iff.mp member).1

theorem eventCheck_tells (inOrder : server.InOrder ring)
    (spares : ∀ client, server.dropped outcomes = some client → ¬ server.DropsHead client)
    (checks : server.eventCheck outcomes = some event) :
    server.Tells outcomes event.2 event.1 := by
  cases eventCheck_checked checks with
  | shut closed result =>
      rw [result]
      exact ⟨inOrder.roster_of_same (SameRing.lock.trans .unlock), rfl⟩
  | failed seen ret result =>
      rw [result]
      exact ⟨inOrder.roster_of_same (seen.same.trans .unlock), seen.same.client⟩
  | requested seen opened ret readable requests =>
      obtain ⟨isEvent, active⟩ := connectRequest_reports requests
      rw [isEvent]
      refine ⟨active.trans seen.same.client, ?_⟩
      rcases eventCheck_lists inOrder spares checks with ⟨-, -, same⟩ |
        ⟨accepts, ⟨-, -, same⟩ | ⟨-, -, longer⟩⟩
      · rw [undropped (.inr (.inr readable))] at same
        exact .inl same
      · exact .inl same
      · exact .inr ⟨accepts, longer⟩
  | @heard scanned node seen found drops ran =>
      have lists := heard_lists inOrder seen drops spares ran
      obtain ⟨collection, isFound, branches⟩ := clientEvent_cases ran
      have owned : server.clientAt node = some collection.client :=
        seen.same.clientAt.symm.trans (Sound.clientAt_of_get? isFound)
      rcases branches with ⟨empty, removed, removes, result⟩ | ⟨bytes, isEvent, branches⟩
      · rw [Scanning.dropped, if_pos empty] at drops
        rw [result] at lists ⊢
        exact inOrder.tells_dropped owned drops lists
      · rw [Scanning.dropped, if_neg (by simp [bytes])] at drops
        rw [drops] at lists
        obtain ⟨-, -, roster⟩ := lists
        obtain ⟨other, socket, foundToo, there, readable⟩ := found
        cases foundToo.symm.trans isFound
        rw [seen.clients] at there
        rw [isEvent]
        refine ⟨roster, bytes, collection.client, inOrder.mem_roster.mpr ⟨socket, there⟩, ?_,
          socket, there, readable⟩
        rcases branches with ⟨-, same⟩ | ⟨function, -, ⟨-, same⟩ | ⟨-, same⟩⟩
        · rw [same]
          rfl
        · rw [same]
          rfl
        · rw [same]
          exact (startThread_same (polled_get? isFound) outcomes).client
  | @idle scanned node tmp seen drops removes =>
      have lists := idle_lists inOrder seen drops spares removes
      obtain ⟨collection, isFound, -⟩ := Option.bind_eq_some_iff.mp removes
      have owned : server.clientAt node = some collection.client :=
        seen.same.clientAt.symm.trans (Sound.clientAt_of_get? isFound)
      rw [(dropIdle_clients removes).1]
      exact inOrder.tells_dropped owned drops lists
  | nothing seen drops result =>
      rw [result]
      exact ⟨inOrder.roster_of_same (seen.same.trans .unlock), seen.same.client⟩

/-- In every state reached from a new server by steps that spare the head of a longer ring,
a check that does so too tells by its event what has become of the clients: a client is
lost with the event that says so and with no other, and a client with bytes is the active
one. -/
theorem events_tell (new : server.New) (reaches : server.Reaches later)
    (spares : (ServerStep.eventCheck outcomes).SparesHead later)
    (checks : later.eventCheck outcomes = some event) :
    later.Tells outcomes event.2 event.1 := by
  obtain ⟨ring, inOrder⟩ := reaches.inOrder ⟨[], .of_new new⟩
  exact eventCheck_tells inOrder spares checks

/-- The second of two clients is readable without a byte. -/
def leaving : Outcomes := { quiet with ret := 1, readfds := [6] }

theorem events_tell_leaving :
    ∃ (later : Server) (event : ServerEvent × Server),
      listening.serve [.addClient 5 quiet, .addClient 6 quiet] = some later ∧
      later.eventCheck leaving = some event ∧ event.1 = .clientDisconnected ∧
      later.Tells leaving event.2 event.1 := by
  have result : (listening.serve [.addClient 5 quiet, .addClient 6 quiet]).map (fun two =>
      (two.dropped leaving, decide (two.DropsHead 1), (two.eventCheck leaving).map Prod.fst)) =
        some (some 1, false, some .clientDisconnected) := by
    decide +kernel
  obtain ⟨two, served, values⟩ := Option.map_eq_some_iff.mp result
  obtain ⟨dropped, values⟩ := Prod.mk.inj values
  obtain ⟨inner, values⟩ := Prod.mk.inj values
  obtain ⟨event, checks, isEvent⟩ := Option.map_eq_some_iff.mp values
  obtain ⟨one, first, more⟩ := Option.bind_eq_some_iff.mp served
  obtain ⟨other, second, same⟩ := Option.bind_eq_some_iff.mp more
  cases same
  have spares : (ServerStep.eventCheck leaving).SparesHead two := by
    intro client isClient
    cases dropped.symm.trans isClient
    exact of_decide_eq_false inner
  have reaches : listening.Reaches two :=
    .tail (.single ⟨.addClient 5 quiet, trivial, first⟩) ⟨.addClient 6 quiet, trivial, second⟩
  refine ⟨two, event, ?_, checks, isEvent, events_tell listening_new reaches spares checks⟩
  simp only [serve, first, second, Option.bind_some]

/-! ## Runs of checks -/

/-- Clients are accepted and events checked for, sparing the head of a longer ring: the
events in their order, and the servers that are passed. -/
inductive Polled (server : Server) : List ServerEvent → List Server → Server → Prop where
  | start : Polled server [] [server] server
  | check {events : List ServerEvent} {passed : List Server} {middle : Server}
      {outcomes : Outcomes} {event : ServerEvent × Server}
      (polled : Polled server events passed middle)
      (spares : (ServerStep.eventCheck outcomes).SparesHead middle)
      (checks : middle.eventCheck outcomes = some event) :
      Polled server (events ++ [event.1]) (passed ++ [event.2]) event.2
  | accept {events : List ServerEvent} {passed : List Server} {middle : Server}
      {outcomes : Outcomes} {added : Bool × Server} (polled : Polled server events passed middle)
      (accepts : middle.acceptNewClient outcomes = some added) :
      Polled server events (passed ++ [added.2]) added.2

theorem InOrder.below (inOrder : server.InOrder ring) :
    ∀ client ∈ server.roster, client < server.clients.fresh := by
  intro client member
  obtain ⟨socket, there⟩ := inOrder.mem_roster.mp member
  exact Arena.lt_fresh_of_get? there

theorem below_of_lists {clients : List ClientId} (lists : after.Lists (clients ++ [client])) :
    client < after.clients.fresh := by
  obtain ⟨ring, inOrder, roster⟩ := lists
  exact inOrder.below client (by simp [roster])

theorem MayCome.tally {passed : List (List ClientId)} {gone : List ClientId}
    (comes : server.MayCome after) (makes : Makes server after)
    (tally : Tally passed gone server.roster server.clients.fresh) :
    Tally (passed ++ [after.roster]) gone after.roster after.clients.fresh := by
  rcases comes with ⟨-, -, same⟩ | lists
  · rw [same]
    exact tally.stay makes
  · have next := below_of_lists lists
    obtain ⟨-, -, longer⟩ := lists
    rw [longer]
    exact tally.join next

theorem Tells.tally {passed : List (List ClientId)} {gone : List ClientId} {kind : ServerEvent}
    (tells : server.Tells outcomes after kind) (makes : Makes server after)
    (inOrder : after.InOrder ring)
    (tally : Tally passed gone server.roster server.clients.fresh) :
    ∃ left, left.length = [kind].count .clientDisconnected ∧
      Tally (passed ++ [after.roster]) (gone ++ left) after.roster after.clients.fresh := by
  have stays : after.roster = server.roster →
      Tally (passed ++ [after.roster]) (gone ++ []) after.roster after.clients.fresh := by
    intro same
    rw [same, List.append_nil]
    exact tally.stay makes
  cases kind with
  | none => exact ⟨[], rfl, stays tells.1⟩
  | connectRequest =>
      refine ⟨[], rfl, ?_⟩
      rcases tells.2 with same | ⟨-, longer⟩
      · exact stays same
      · rw [List.append_nil]
        exact MayCome.tally (.inr ⟨ring, inOrder, longer⟩) makes tally
  | bytesAvailable => exact ⟨[], rfl, stays tells.1⟩
  | clientDisconnected =>
      obtain ⟨client, member, -, shorter, -⟩ := tells
      refine ⟨[client], rfl, ?_⟩
      rw [shorter]
      exact tally.leave member makes

theorem Polled.tally {events : List ServerEvent} {passed : List Server}
    (polled : server.Polled events passed later) (inOrder : ∃ ring, server.InOrder ring) :
    (∃ ring, later.InOrder ring) ∧ ∃ gone, gone.length = events.count .clientDisconnected ∧
      Tally (passed.map roster) gone later.roster later.clients.fresh := by
  induction polled with
  | start =>
      refine ⟨inOrder, [], rfl, ?_⟩
      obtain ⟨ring, inOrder⟩ := inOrder
      exact .start inOrder.sorted.nodup inOrder.below
  | @check events passed middle outcomes event polled spares checks ih =>
      obtain ⟨⟨ring, inOrderMiddle⟩, gone, count, tally⟩ := ih
      obtain ⟨ringLater, inOrderLater⟩ :=
        (ServerStep.turns inOrderMiddle spares (Option.map_eq_some_iff.mpr ⟨event, checks, rfl⟩)).2
      obtain ⟨left, one, tallyLater⟩ :=
        (eventCheck_tells inOrderMiddle spares checks).tally (eventCheck_makes checks)
          inOrderLater tally
      refine ⟨⟨ringLater, inOrderLater⟩, gone ++ left, ?_, ?_⟩
      · rw [List.length_append, List.count_append, count, one]
      · rw [List.map_append]
        exact tallyLater
  | @accept events passed middle outcomes added polled accepts ih =>
      obtain ⟨⟨ring, inOrderMiddle⟩, gone, count, tally⟩ := ih
      have comes := acceptNewClient_mayCome inOrderMiddle accepts
      refine ⟨?_, gone, count, ?_⟩
      · rcases comes with ⟨ringLater, inOrderLater, -⟩ | ⟨ringLater, inOrderLater, -⟩
        · exact ⟨ringLater, inOrderLater⟩
        · exact ⟨ringLater, inOrderLater⟩
      · rw [List.map_append]
        exact comes.tally (acceptNewClient_makes accepts) tally

/-- Over a run of checks and accepts from a new server, every client that has been there is
there still or has gone, not both, and there is one event for each that has gone. -/
theorem departures_reported {events : List ServerEvent} {passed : List Server}
    (new : server.New) (polled : server.Polled events passed later) :
    ∃ gone : List ClientId, gone.length = events.count .clientDisconnected ∧
      (gone ++ later.roster).Nodup ∧
      ∀ client, (∃ state ∈ passed, client ∈ state.roster) ↔ client ∈ gone ++ later.roster := by
  obtain ⟨-, gone, count, tally⟩ := polled.tally ⟨[], .of_new new⟩
  refine ⟨gone, count, tally.nodup, fun client => ?_⟩
  rw [← tally.covered client]
  simp

/-- Two clients are accepted and the second leaves. -/
theorem departures_reported_leaving :
    ∃ (events : List ServerEvent) (passed : List Server) (later : Server),
      listening.Polled events passed later ∧ events = [.clientDisconnected] ∧
      later.roster = [0] ∧
      ∃ gone : List ClientId, gone.length = events.count .clientDisconnected ∧
        (gone ++ later.roster).Nodup ∧
        ∀ client, (∃ state ∈ passed, client ∈ state.roster) ↔ client ∈ gone ++ later.roster := by
  have result : (listening.acceptNewClient PollStep.joined).bind (fun one =>
      (one.2.acceptNewClient { PollStep.joined with connFd := 6 }).bind fun two =>
        (two.2.eventCheck leaving).map fun event => (two.2.dropped leaving,
          decide (two.2.DropsHead 1), event.1, event.2.roster)) =
      some (some 1, false, .clientDisconnected, [0]) := by
    decide +kernel
  obtain ⟨one, first, result⟩ := Option.bind_eq_some_iff.mp result
  obtain ⟨two, second, result⟩ := Option.bind_eq_some_iff.mp result
  obtain ⟨event, checks, values⟩ := Option.map_eq_some_iff.mp result
  obtain ⟨dropped, values⟩ := Prod.mk.inj values
  obtain ⟨inner, values⟩ := Prod.mk.inj values
  obtain ⟨isEvent, roster⟩ := Prod.mk.inj values
  have spares : (ServerStep.eventCheck leaving).SparesHead two.2 := by
    intro client isClient
    cases dropped.symm.trans isClient
    exact of_decide_eq_false inner
  have polled := Polled.check (.accept (.accept .start first) second) spares checks
  refine ⟨_, _, _, polled, ?_, roster, departures_reported listening_new polled⟩
  rw [isEvent]
  rfl

end Server

end SynapTCP
