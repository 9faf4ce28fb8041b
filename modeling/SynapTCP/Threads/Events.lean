import SynapTCP.Threads.Seats
import SynapTCP.Server.Accepting

namespace SynapTCP

open Data

/-! # What an event does to the clients of the server -/

namespace Server

variable {server middle after : Server} {ring : List CollectionId}
  {node : CollectionId} {collection : ClientCollection} {socket : Socket}
  {client : ClientId} {connFd : Int} {outcomes : Outcomes}

/-! ## A new client -/

theorem linkClient_clients (result : server.linkClient client outcomes = some after) :
    after.clients = server.clients := by
  unfold linkClient at result
  dsimp only at result
  split at result
  · cases result
    rfl
  · obtain ⟨tmp, -, result⟩ := Option.bind_eq_some_iff.mp result
    obtain ⟨last, -, result⟩ := Option.bind_eq_some_iff.mp result
    cases result
    rfl

theorem addClient_sockFd (inRange : 0 < connFd ∧ connFd < 65535)
    (result : server.addClient connFd outcomes = some (true, after)) :
    ∃ attached, after.clients.get? server.clients.fresh = some attached ∧
      attached.sockFd = connFd := by
  have prepared : Prepared server server.newClient server.clients.fresh := .newClient
  unfold addClient at result
  dsimp only at result
  split at result
  · obtain ⟨_, -, wrong⟩ := Option.map_eq_some_iff.mp result
    cases wrong
  · split at result
    · obtain ⟨_, -, wrong⟩ := Option.map_eq_some_iff.mp result
      cases wrong
    · split at result
      · obtain ⟨_, -, wrong⟩ := Option.map_eq_some_iff.mp result
        cases wrong
      · obtain ⟨linked, links, same⟩ := Option.map_eq_some_iff.mp result
        cases same
        rw [linkClient_clients links]
        obtain ⟨object, made⟩ := ((prepared.onClient _).onClient _).lock.made
        obtain ⟨attached, there, -, -, sockFd⟩ := @attachClient_client _ server.clients.fresh _ _
          connFd outcomes made
        exact ⟨attached, there, by rw [sockFd, Socket.setSocketFd_sockFd, if_neg (by omega)]⟩

/-- The ring is as it was, or has one more client with the accepted descriptor. -/
def Grows (server after : Server) (connFd : Int) : Prop :=
  after.seat = server.seat ∨
    ∃ node, server.seat node = none ∧ 0 < connFd ∧
      after.seat = Function.update server.seat node (some ⟨connFd, 0, 0⟩)

theorem addClient_grows {added : Bool} (sound : server.Sound ring)
    (inRange : 0 < connFd ∧ connFd < 65535)
    (result : server.addClient connFd outcomes = some (added, after)) :
    server.Grows after connFd := by
  obtain ⟨answer, again, adds, grows⟩ := addClient_adds sound connFd outcomes
  rw [result] at adds
  cases adds
  cases added with
  | false =>
      left
      funext node
      unfold seat
      rw [grows.collections]
      simp only [grows.clients]
  | true =>
      right
      obtain ⟨added, -⟩ := grows
      obtain ⟨attached, there, sockFd⟩ := addClient_sockFd inRange result
      refine ⟨_, seat_of_absent added.absent, inRange.1, ?_⟩
      funext other
      by_cases same : other = server.collections.fresh
      · rw [same, Function.update_self, seat_eq, added.here, added.pipe, Option.bind_some, there,
          Option.map_some, Option.bind_some, Option.map_some, sockFd]
      · rw [Function.update_of_ne same]
        apply seat_congr (added.kept other same) (added.pipes other same)
        intro client owned
        have different : client ≠ server.clients.fresh := by
          intro equal
          obtain ⟨object, made⟩ :=
            (sound.sockets client).mpr ⟨other, sound.mem_of_clientAt owned, owned⟩
          rw [equal, added.fresh] at made
          contradiction
        rw [added.clients client different]

theorem acceptNewClient_grows {answer : Bool} (sound : server.Sound ring)
    (inRange : outcomes.connFd < 65535)
    (result : server.acceptNewClient outcomes = some (answer, after)) :
    server.Grows after outcomes.connFd := by
  let accepted :=
    if 0 ≤ outcomes.connFd then
      { server.lock with addr := outcomes.peer }.emit [.acquire (.descriptor outcomes.connFd)]
    else server.lock
  have same : accepted.seat = server.seat ∧ SameRing server accepted := by
    unfold accepted
    split
    · exact ⟨rfl, rfl, rfl, fun _ => rfl, fun _ => rfl⟩
    · exact ⟨rfl, .lock⟩
  unfold acceptNewClient at result
  dsimp only at result
  rw [show (if 0 ≤ outcomes.connFd then _ else _) = accepted from rfl] at result
  split at result
  · cases result
    exact .inl same.1
  · rename_i positive
    obtain ⟨⟨added, later⟩, adds, isAfter⟩ := Option.map_eq_some_iff.mp result
    cases isAfter
    have grows := addClient_grows (same.2.sound sound) ⟨Int.not_le.mp positive, inRange⟩ adds
    unfold Grows at grows
    rw [same.1] at grows
    exact grows

theorem connectRequest_grows {event : ServerEvent} (sound : server.Sound ring)
    (inRange : outcomes.connFd < 65535)
    (result : server.connectRequest outcomes = some (event, after)) :
    server.Grows after outcomes.connFd := by
  unfold connectRequest at result
  split at result
  · cases result
    exact .inl rfl
  · obtain ⟨⟨answer, later⟩, accepts, isAfter⟩ := Option.map_eq_some_iff.mp result
    cases isAfter
    exact @acceptNewClient_grows server.unlock later ring outcomes answer
      (SameRing.unlock.sound sound) inRange accepts

/-! ## A client that is heard or idle -/

theorem seat_of_set {changed : ClientCollection}
    (found : server.collections.get? node = some collection)
    (there : server.clients.get? collection.client = some socket)
    (collections : after.collections = server.collections.set node changed)
    (clients : after.clients = server.clients) (owner : changed.client = collection.client) :
    after.seat = Function.update server.seat node (some ⟨socket.sockFd, changed.pipe⟩) := by
  funext other
  by_cases same : other = node
  · rw [same, Function.update_self]
    apply seat_of_get?
    · rw [collections, Arena.get?_set_self found]
    · rw [clients, owner, there]
  · rw [Function.update_of_ne same]
    unfold seat
    rw [collections, clients, Arena.get?_set_of_ne same]

theorem seat_of_kept {changed : ClientCollection}
    (found : server.collections.get? node = some collection)
    (there : server.clients.get? collection.client = some socket)
    (collections : after.collections = server.collections.set node changed)
    (clients : after.clients = server.clients) (owner : changed.client = collection.client)
    (pipe : changed.pipe = collection.pipe) : after.seat = server.seat := by
  rw [seat_of_set found there collections clients owner, pipe]
  exact Function.update_eq_self_iff.mpr (seat_of_get? found there).symm

/-- Events of clients are given to threads. -/
def Threaded (server : Server) : Prop :=
  server.receptionCallbackFunction ≠ none ∧ server.receptionHandlerAsThread = true

instance : Decidable server.Threaded := inferInstanceAs (Decidable (_ ∧ _))

/-- The client of the node was heard. -/
def Heard (server after : Server) (node : CollectionId) (seat : Seat) (outcomes : Outcomes) : Prop :=
  if outcomes.inputBytes = false then
    created after.log = created server.log ∧ after.seat = Function.update server.seat node none
  else if server.Threaded then
    created after.log = created server.log ++ (if outcomes.thread = none then [] else [node]) ∧
      after.seat = Function.update server.seat node
        (some { seat with pipe := outcomes.pipe.getD (0, 0) })
  else created after.log = created server.log ∧ after.seat = server.seat

theorem startThread_collections :
    ∃ changed, (server.startThread node collection outcomes).collections =
        server.collections.set node changed ∧
      (server.startThread node collection outcomes).clients = server.clients ∧
      changed.client = collection.client ∧ changed.pipe = outcomes.pipe.getD (0, 0) := by
  unfold startThread
  cases outcomes.pipe with
  | none =>
      cases outcomes.thread with
      | none => exact ⟨_, rfl, rfl, rfl, rfl⟩
      | some th => exact ⟨_, Arena.set_set, rfl, rfl, rfl⟩
  | some pipe =>
      cases outcomes.thread with
      | none => exact ⟨_, rfl, rfl, rfl, rfl⟩
      | some th => exact ⟨_, Arena.set_set, rfl, rfl, rfl⟩

/-- Between acts on descriptors and mutexes the thread is created, if it can be. -/
theorem startThread_effects : ∃ opening waiting : List (Act (Resource Owner)),
    (server.startThread node collection outcomes).log =
      server.log ++ opening.map .act ++ (match outcomes.thread with
        | none => []
        | some th => [.create th node]) ++ waiting.map .act := by
  let mutex := Resource.mutex (Owner.collection node) .mtx
  unfold startThread
  cases outcomes.pipe with
  | none =>
      cases outcomes.thread with
      | none => exact ⟨[], [], by simp⟩
      | some th =>
          refine ⟨[], [.acquire mutex, .release mutex, .acquire mutex, .release mutex], ?_⟩
          simp [emit, mutex]
  | some pipe =>
      cases outcomes.thread with
      | none =>
          refine ⟨[.acquire (.descriptor pipe.1), .acquire (.descriptor pipe.2)], [], ?_⟩
          simp [emit]
      | some th =>
          refine ⟨[.acquire (.descriptor pipe.1), .acquire (.descriptor pipe.2)],
            [.acquire mutex, .release mutex, .acquire mutex, .release mutex], ?_⟩
          simp [emit, mutex]

theorem startThread_created :
    created (server.startThread node collection outcomes).log =
      created server.log ++ (if outcomes.thread = none then [] else [node]) := by
  obtain ⟨opening, waiting, log⟩ := @startThread_effects server node collection outcomes
  rw [log]
  simp only [created_append, created_acts, List.append_nil]
  cases outcomes.thread <;> rfl

theorem startThread_seats (found : server.collections.get? node = some collection)
    (there : server.clients.get? collection.client = some socket) :
    (server.startThread node collection outcomes).seat = Function.update server.seat node
      (some ⟨socket.sockFd, outcomes.pipe.getD (0, 0)⟩) := by
  obtain ⟨changed, collections, clients, owner, pipe⟩ :=
    @startThread_collections server node collection outcomes
  rw [seat_of_set found there collections clients owner, pipe]

theorem clientEvent_heard {event : ServerEvent} {seat : Seat} (sound : server.Sound ring)
    (here : server.seat node = some seat)
    (spares : ∀ client, outcomes.inputBytes = false → server.clientAt node = some client →
      ¬ server.DropsHead client)
    (result : server.clientEvent node outcomes = some (event, after)) :
    server.Heard after node seat outcomes := by
  obtain ⟨collection, socket, found, there, isSeat⟩ := seat_eq_some here
  have owned := Sound.clientAt_of_get? found
  have seatPolled : (server.polled node collection outcomes).seat = server.seat :=
    seat_of_kept found there rfl rfl rfl rfl
  have createdPolled : created (server.polled node collection outcomes).log = created server.log :=
    ((Leaves.emit _).trans (.emit _) : Leaves server _).created
  obtain ⟨again, foundAgain, cases⟩ := clientEvent_cases result
  rw [found] at foundAgain
  cases foundAgain
  unfold Heard
  rcases cases with ⟨empty, ⟨answer, later⟩, removes, isAfter⟩ | ⟨bytes, -, handles⟩
  · rw [if_pos empty]
    cases isAfter
    have ownedLocked := (@polled_clientAt server node outcomes collection found node).trans owned
    have inner : ¬ (server.polled node collection outcomes).lock.DropsHead collection.client :=
      fun drops => spares collection.client empty owned ((polled_dropsHead found).mp drops)
    obtain ⟨-, createdAfter, seatAfter⟩ :=
      removeClient_seats (SameRing.lock.sound (sound.polled found)) ownedLocked inner removes
    refine ⟨?_, ?_⟩
    · have unlocked := (Leaves.emit (unlockOf .server) : Leaves later later.unlock).created
      have locked : created (server.polled node collection outcomes).lock.log = _ :=
        (Leaves.emit (lockOf .server)).created
      exact unlocked.trans (createdAfter.trans (locked.trans createdPolled))
    · rw [← seatPolled]
      exact seatAfter
  · rw [if_neg (by simp [bytes])]
    rcases handles with ⟨silent, isAfter⟩ |
      ⟨function, isHandler, ⟨direct, isAfter⟩ | ⟨threaded, isAfter⟩⟩
    · cases isAfter
      rw [if_neg (fun threaded => threaded.1 silent)]
      exact ⟨createdPolled, seatPolled⟩
    · cases isAfter
      rw [if_neg (fun threaded => by rw [threaded.2] at direct; contradiction)]
      refine ⟨?_, seatPolled⟩
      rw [← createdPolled, created_append]
      exact List.append_nil _
    · change after = _ at isAfter
      subst isAfter
      rw [if_pos ⟨by rw [isHandler]; nofun, threaded⟩]
      refine ⟨startThread_created.trans (by rw [createdPolled]), ?_⟩
      rw [startThread_seats (polled_get? found) there, seatPolled, isSeat]

theorem dropIdle_seats {event : ServerEvent} {tmp : Option CollectionId} (sound : server.Sound ring)
    (selects : server.Selects ring (.idle node tmp))
    (spares : ∀ client, server.clientAt node = some client → ¬ server.DropsHead client)
    (result : server.dropIdle node tmp outcomes = some (event, after)) :
    created after.log = created server.log ∧
      after.seat = Function.update server.seat node none := by
  obtain ⟨collection, found, result⟩ := Option.bind_eq_some_iff.mp result
  obtain ⟨⟨answer, later⟩, removes, result⟩ := Option.bind_eq_some_iff.mp result
  have owned := Sound.clientAt_of_get? found
  obtain ⟨-, createdLater, seatLater⟩ :=
    removeClient_seats sound owned (spares collection.client owned) removes
  cases tmp with
  | none =>
      cases result
      exact ⟨(Leaves.emit (unlockOf .server) : Leaves later later.unlock).created.trans
        createdLater, seatLater⟩
  | some tmp =>
      obtain ⟨behind, -, result⟩ := Option.bind_eq_some_iff.mp result
      cases result
      refine ⟨?_, seatLater⟩
      rw [← createdLater]
      exact (Leaves.emit (unlockOf .server) : Leaves later later.unlock).created

end Server

end SynapTCP
