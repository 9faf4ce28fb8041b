import SynapTCP.Data.Marks
import SynapTCP.Server.Keeping
import SynapTCP.Server.Runs

namespace SynapTCP

open Data

/-! # The clients of the server as marked places

What the operations of the server do to the descriptors and the pipes of its
clients.
-/

namespace Server

variable {server middle after : Server} {ring front back : List CollectionId}
  {node cList head : CollectionId} {collection : ClientCollection} {socket : Socket}
  {client : ClientId} {outcomes : Outcomes} {fuel : Nat}

/-- The descriptors of a node and its client. -/
def seat (server : Server) (node : CollectionId) : Option Seat :=
  (server.collections.get? node).bind fun collection =>
    (server.clients.get? collection.client).map fun socket => ⟨socket.sockFd, collection.pipe⟩

def watchAt (server : Server) (node : CollectionId) : Option Int :=
  (server.seat node).map Seat.watch

theorem seat_of_get? (found : server.collections.get? node = some collection)
    (there : server.clients.get? collection.client = some socket) :
    server.seat node = some ⟨socket.sockFd, collection.pipe⟩ := by
  rw [seat, found, Option.bind_some, there, Option.map_some]

theorem seat_eq_some {seat : Seat} (here : server.seat node = some seat) :
    ∃ collection socket, server.collections.get? node = some collection ∧
      server.clients.get? collection.client = some socket ∧
      seat = ⟨socket.sockFd, collection.pipe⟩ := by
  obtain ⟨collection, found, here⟩ := Option.bind_eq_some_iff.mp here
  obtain ⟨socket, there, isSeat⟩ := Option.map_eq_some_iff.mp here
  exact ⟨collection, socket, found, there, isSeat.symm⟩

theorem seat_of_absent (gone : server.collections.get? node = none) :
    server.seat node = none := by
  rw [seat, gone, Option.bind_none]

theorem seat_eq :
    server.seat node = (server.clientAt node).bind fun client =>
      ((server.clients.get? client).map Socket.sockFd).bind fun fd =>
        (server.pipeAt node).map fun pipe => ⟨fd, pipe⟩ := by
  unfold seat clientAt pipeAt
  cases server.collections.get? node with
  | none => rfl
  | some collection =>
      simp only [Option.bind_some, Option.map_some]
      cases server.clients.get? collection.client <;> rfl

/-- A seat is as it was with the client, its descriptor and the pipe. -/
theorem seat_congr (owner : after.clientAt node = server.clientAt node)
    (pipe : after.pipeAt node = server.pipeAt node)
    (sockFd : ∀ client, server.clientAt node = some client →
      (after.clients.get? client).map Socket.sockFd =
        (server.clients.get? client).map Socket.sockFd) :
    after.seat node = server.seat node := by
  rw [seat_eq, seat_eq, owner, pipe]
  cases owned : server.clientAt node with
  | none => rfl
  | some client => rw [Option.bind_some, Option.bind_some, sockFd client owned]

theorem Sound.seat_of_setClient {changed : Socket} (sound : server.Sound ring)
    (found : server.collections.get? node = some collection)
    (there : server.clients.get? collection.client = some socket) :
    ({ server with clients := server.clients.set collection.client changed } : Server).seat =
      Function.update server.seat node (some ⟨changed.sockFd, collection.pipe⟩) := by
  funext other
  by_cases same : other = node
  · rw [same, Function.update_self]
    exact seat_of_get? found (Arena.get?_set_self there)
  · rw [Function.update_of_ne same]
    refine seat_congr rfl rfl fun client owned => ?_
    have different : client ≠ collection.client := by
      intro equal
      exact same (sound.unique (equal ▸ owned) (Sound.clientAt_of_get? found))
    show (Arena.get? _ client).map _ = _
    rw [Arena.get?_set_of_ne different]

theorem Sound.seat_of_mem (sound : server.Sound ring) (member : node ∈ ring) :
    ∃ seat, server.seat node = some seat := by
  obtain ⟨collection, socket, -, found, there, -⟩ := sound.visit member
  exact ⟨_, seat_of_get? found there⟩

/-! ## The descriptors for `select` -/

theorem watched_eq (found : server.collections.get? node = some collection)
    (there : server.clients.get? collection.client = some socket) :
    server.watched collection = server.watchAt node := by
  unfold watched watchAt
  rw [seat_of_get? found there, there, Option.map_some, Option.map_some]
  by_cases unmarked : collection.pipe.1 ≤ 0
  · rw [if_pos unmarked, Seat.watch_of_not_marked (Int.not_lt.mpr unmarked)]
  · rw [if_neg unmarked, Seat.watch_of_marked (Int.not_le.mp unmarked)]

/-- The loop takes one descriptor for each node, and widens to each. -/
theorem fillLoop_eq (sound : server.Sound (front ++ cList :: back)) (enough : back.length < fuel)
    (max : UInt16) (fds : List Int) :
    server.fillLoop max fds fuel cList =
      some (((cList :: back).filterMap server.watchAt).foldl widen max,
        fds ++ (cList :: back).filterMap server.watchAt) := by
  induction back generalizing front cList fuel max fds with
  | nil =>
      cases fuel with
      | zero => contradiction
      | succ fuel =>
          obtain ⟨collection, socket, fd, found, there, watches, fills⟩ :=
            @fillLoop_last server front cList fuel sound max fds
          have watchAt : server.watchAt cList = some fd :=
            (watched_eq found there).symm.trans watches
          simp only [fills, List.filterMap_cons, watchAt, List.filterMap_nil, List.foldl_cons,
            List.foldl_nil]
  | cons next back ih =>
      cases fuel with
      | zero => contradiction
      | succ fuel =>
          obtain ⟨collection, socket, fd, found, there, watches, fills⟩ :=
            @fillLoop_inner server front back next cList fuel sound max fds
          have watchAt : server.watchAt cList = some fd :=
            (watched_eq found there).symm.trans watches
          rw [fills, ih sound.shift (Nat.lt_of_succ_lt_succ enough) (widen max fd) (fds ++ [fd])]
          rw [@List.filterMap_cons_some _ _ server.watchAt cList (next :: back) fd watchAt,
            List.append_assoc, List.singleton_append, List.foldl_cons]

theorem watchedSet_eq (sound : server.Sound ring) :
    server.watchedSet =
      some ((ring.filterMap server.watchAt).foldl widen (UInt16.ofInt server.sockFd),
        server.sockFd :: ring.filterMap server.watchAt) := by
  unfold watchedSet
  rw [sound.head]
  cases ring with
  | nil => rfl
  | cons head rest =>
      have short : rest.length < server.rounds := Nat.lt_of_succ_lt sound.length_lt_rounds
      exact @fillLoop_eq server [] rest head _ sound short _ [server.sockFd]

/-! ## The scan -/

/-- Pipes that were reported are closed, all else is as it was. -/
structure Reaped (outcomes : Outcomes) (before after : Server) : Prop where
  server : after.toTCPServer = before.toTCPServer
  clients : after.clients = before.clients
  nodes : ∀ node, after.collections.get? node = before.collections.get? node ∨
    ∃ collection, before.collections.get? node = some collection ∧ 0 < collection.pipe.1 ∧
      collection.pipe.1 ∈ outcomes.readfds ∧
      after.collections.get? node = some { collection with pipe := (0, 0) }

namespace Reaped

theorem refl (server : Server) : Reaped outcomes server server := ⟨rfl, rfl, fun _ => .inl rfl⟩

theorem trans (left : Reaped outcomes server middle) (right : Reaped outcomes middle after) :
    Reaped outcomes server after := by
  refine ⟨right.server.trans left.server, right.clients.trans left.clients, fun node => ?_⟩
  rcases right.nodes node with same | ⟨collection, found, open_, reported, closed⟩
  · rw [same]
    exact left.nodes node
  · rcases left.nodes node with same | ⟨before, -, -, -, closedBefore⟩
    · exact .inr ⟨collection, same.symm.trans found, open_, reported, closed⟩
    · rw [closedBefore] at found
      cases found
      exact absurd open_ (Int.lt_irrefl 0)

theorem reap (found : server.collections.get? node = some collection) :
    Reaped outcomes server (server.reap node collection outcomes.readfds) := by
  unfold Server.reap
  split
  · rename_i reported
    refine ⟨rfl, rfl, fun other => ?_⟩
    by_cases same : other = node
    · subst same
      exact .inr ⟨collection, found, reported.1, reported.2, Arena.get?_set_self found⟩
    · exact .inl (Arena.get?_set_of_ne same)
  · exact .refl _

end Reaped

/-- What the scan found at the node it ends with. -/
def Found (server : Server) (outcomes : Outcomes) : Scanning → Prop
  | .clientEvent node => ∃ collection socket, server.collections.get? node = some collection ∧
      server.clients.get? collection.client = some socket ∧ socket.sockFd ∈ outcomes.readfds
  | .idle node _ => ∃ collection, server.collections.get? node = some collection ∧
      collection.pipe.1 ≤ 0
  | .nothing => True

/-- No reported pipe is left at the node, and its client is not idle. -/
def Passed (server : Server) (outcomes : Outcomes) (node : CollectionId) : Prop :=
  ∀ collection socket, server.collections.get? node = some collection →
    server.clients.get? collection.client = some socket →
    (0 < collection.pipe.1 → collection.pipe.1 ∉ outcomes.readfds) ∧
      (collection.pipe.1 ≤ 0 →
        socket.isSocketTimeout outcomes.tv collection.lastActivity = false)

theorem Reaped.passed (reaped : Reaped outcomes server after)
    (passed : server.Passed outcomes node) : after.Passed outcomes node := by
  intro collection socket found there
  rw [reaped.clients] at there
  rcases reaped.nodes node with same | ⟨before, foundBefore, opened, reported, closed⟩
  · exact passed collection socket (same ▸ found) there
  · rw [closed] at found
    cases found
    exact absurd reported ((passed before socket foundBefore there).1 opened)

theorem Deferred.found {tmp : Option CollectionId} {scanning : Scanning}
    (deferred : server.Deferred outcomes tmp scanning) : server.Found outcomes scanning := by
  cases tmp with
  | none =>
      cases deferred
      trivial
  | some i =>
      obtain ⟨active, object, found, there, same⟩ := deferred
      subst same
      split
      · rename_i readable
        exact ⟨active, object, found, there, readable⟩
      · trivial

/-- One node of the scan, from what it gives: it ends there, or the node is passed. -/
theorem scanLoop_cases {tmp : Option CollectionId} {scanning : Scanning}
    (result : server.scanLoop outcomes tmp (fuel + 1) cList = some (after, scanning)) :
    ∃ middle, Reaped outcomes server middle ∧
      (after = middle ∧ middle.Found outcomes scanning ∧ scanning ≠ .nothing ∨
        middle.Passed outcomes cList ∧
          (middle.next cList = server.clientList ∧ after = middle ∧
              middle.Found outcomes scanning ∨
            ∃ behind tmp', middle.next cList = some behind ∧
              middle.scanLoop outcomes tmp' fuel behind = some (after, scanning))) := by
  obtain ⟨before, middle, collection, socket, foundBefore, reaps, found, there, turn⟩ :=
    scanLoop_succ result
  have reaped : Reaped outcomes server middle := reaps ▸ .reap foundBefore
  have closed : 0 < before.pipe.1 ∧ before.pipe.1 ∈ outcomes.readfds →
      middle.collections.get? cList = some { before with pipe := (0, 0) } := by
    intro reported
    rw [← reaps, reap, if_pos reported]
    exact Arena.get?_set_self foundBefore
  refine ⟨middle, reaped, ?_⟩
  rcases turn with ⟨ready, ends, isEvent⟩ | ⟨-, behind, link, ⟨idle, ends, isIdle⟩ | ⟨busy, goes⟩⟩
  · subst isEvent
    exact .inl ⟨ends, ⟨collection, socket, found, there, ready.2⟩, nofun⟩
  · subst isIdle
    exact .inl ⟨ends, ⟨collection, found, idle.1⟩, nofun⟩
  · right
    have linked : middle.next cList = some behind := (Sound.next_of_get? found).trans link
    refine ⟨?_, ?_⟩
    · intro again socketAgain foundAgain thereAgain
      rw [found] at foundAgain
      cases foundAgain
      rw [there] at thereAgain
      cases thereAgain
      refine ⟨fun opened reported => ?_, fun unmarked => ?_⟩
      · rcases reaped.nodes cList with same | ⟨again, -, -, -, closedHere⟩
        · rw [found, foundBefore, Option.some.injEq] at same
          subst same
          rw [closed ⟨opened, reported⟩, Option.some.injEq] at found
          rw [← found] at opened
          exact Int.lt_irrefl 0 opened
        · rw [found, Option.some.injEq] at closedHere
          rw [closedHere] at opened
          exact Int.lt_irrefl 0 opened
      · rw [Bool.eq_false_iff]
        exact fun timeout => busy ⟨unmarked, timeout⟩
    · rcases goes with ⟨last, ends, deferred⟩ | ⟨-, further⟩
      · have list : middle.clientList = server.clientList :=
          congrArg TCPServer.clientList reaped.server
        exact .inl ⟨linked.trans (last.trans list), ends, ends ▸ deferred.found⟩
      · exact .inr ⟨behind, _, linked, further⟩

theorem scanLoop_reaps {tmp : Option CollectionId} {scanning : Scanning}
    (result : server.scanLoop outcomes tmp fuel cList = some (after, scanning)) :
    Reaped outcomes server after ∧ after.Found outcomes scanning := by
  induction fuel generalizing server tmp cList with
  | zero => contradiction
  | succ fuel ih =>
      obtain ⟨middle, reaped, ⟨ends, found, -⟩ | ⟨-, ⟨-, ends, found⟩ | ⟨_, _, -, goes⟩⟩⟩ :=
        scanLoop_cases result
      · subst ends
        exact ⟨reaped, found⟩
      · subst ends
        exact ⟨reaped, found⟩
      · obtain ⟨later, found⟩ := ih goes
        exact ⟨reaped.trans later, found⟩

theorem Reaped.same (reaped : Reaped outcomes server after) : SameRing server after := by
  refine ⟨congrArg TCPServer.clientList reaped.server, congrArg TCPServer.client reaped.server,
    fun node => ?_, fun client => by rw [reaped.clients]⟩
  unfold shapeAt
  rcases reaped.nodes node with same | ⟨collection, found, -, -, closed⟩
  · rw [same]
  · rw [found, closed]
    rfl

theorem scanLoop_passes {tmp : Option CollectionId} (sound : server.Sound (front ++ cList :: back))
    (result : server.scanLoop outcomes tmp fuel cList = some (after, .nothing)) :
    ∀ node ∈ cList :: back, after.Passed outcomes node := by
  induction back generalizing server front cList tmp fuel with
  | nil =>
      intro node member
      rw [List.mem_singleton.mp member]
      cases fuel with
      | zero => contradiction
      | succ fuel =>
          obtain ⟨middle, -, ⟨-, -, something⟩ | ⟨passed, ⟨-, ends, -⟩ | ⟨_, _, -, goes⟩⟩⟩ :=
            scanLoop_cases result
          · exact absurd rfl something
          · exact ends ▸ passed
          · exact (scanLoop_reaps goes).1.passed passed
  | cons next back ih =>
      cases fuel with
      | zero => contradiction
      | succ fuel =>
          obtain ⟨middle, reaped, ⟨-, -, something⟩ | ⟨passed, ⟨last, -, -⟩ | ⟨_, _, linked, goes⟩⟩⟩ :=
            scanLoop_cases result
          · exact absurd rfl something
          · rw [reaped.same.next, sound.isRing.next_inner] at last
            exact absurd last sound.further
          · rw [reaped.same.next, sound.isRing.next_inner] at linked
            cases linked
            intro node member
            rcases List.mem_cons.mp member with here | later
            · rw [here]
              exact (scanLoop_reaps goes).1.passed passed
            · exact ih (reaped.same.sound sound).shift goes node later

theorem scan_found {scanning : Scanning}
    (result : server.scan outcomes = some (after, scanning)) :
    Reaped outcomes server after ∧ after.Found outcomes scanning := by
  unfold scan at result
  split at result
  · cases result
    exact ⟨.refl server, trivial⟩
  · exact scanLoop_reaps result

theorem scan_reaps {scanning : Scanning} (sound : server.Sound ring)
    (result : server.scan outcomes = some (after, scanning)) :
    Reaped outcomes server after ∧ after.Found outcomes scanning ∧
      (scanning = .nothing → ∀ node ∈ ring, after.Passed outcomes node) := by
  obtain ⟨reaped, found⟩ := scan_found result
  refine ⟨reaped, found, fun nothing => ?_⟩
  subst nothing
  unfold scan at result
  rw [sound.head] at result
  cases ring with
  | nil =>
      intro node member
      contradiction
  | cons head rest =>
      exact @scanLoop_passes server after [] rest head outcomes _ none sound result

theorem Reaped.seat (reaped : Reaped outcomes server after) (node : CollectionId) :
    after.seat node = server.seat node ∨
      ∃ seat, server.seat node = some seat ∧ seat.Marked ∧ seat.pipe.1 ∈ outcomes.readfds ∧
        after.seat node = some { seat with pipe := (0, 0) } := by
  rcases reaped.nodes node with same | ⟨collection, found, opened, reported, closed⟩
  · left
    unfold Server.seat
    rw [same, reaped.clients]
  · cases there : server.clients.get? collection.client with
    | none =>
        left
        unfold Server.seat
        rw [found, closed, reaped.clients, Option.bind_some, Option.bind_some, there]
        rfl
    | some socket =>
        right
        refine ⟨_, seat_of_get? found there, opened, reported, ?_⟩
        exact seat_of_get? closed (by rw [reaped.clients, there])

/-! ## Clients that go -/

def created (log : List Effect) : List CollectionId :=
  log.filterMap fun effect => match effect with
    | .create _ node => some node
    | _ => none

@[simp] theorem created_append (left right : List Effect) :
    created (left ++ right) = created left ++ created right := List.filterMap_append

@[simp] theorem created_acts (acts : List (Act (Resource Owner))) :
    created (acts.map .act) = [] := by
  induction acts with
  | nil => rfl
  | cons act acts ih => exact ih

/-- Nothing is started, and the nodes that are left keep their pipes. -/
structure Leaves (before after : Server) : Prop where
  created : created after.log = created before.log
  pipes : ∀ node pipe, after.pipeAt node = some pipe → before.pipeAt node = some pipe

theorem Leaves.trans (left : Leaves server middle) (right : Leaves middle after) :
    Leaves server after :=
  ⟨right.created.trans left.created,
    fun node pipe here => left.pipes node pipe (right.pipes node pipe here)⟩

theorem Leaves.emit (acts : List (Act (Resource Owner))) : Leaves server (server.emit acts) := by
  refine ⟨?_, fun _ _ here => here⟩
  show Server.created (server.log ++ acts.map .act) = _
  rw [created_append, created_acts, List.append_nil]

theorem deleteCollection_leaves (result : server.deleteCollection node outcomes = some after) :
    Leaves server after := by
  obtain ⟨collection, found, result⟩ := Option.bind_eq_some_iff.mp result
  obtain ⟨closed, deletes, result⟩ := Option.bind_eq_some_iff.mp result
  obtain ⟨socket, -, isClosed⟩ := Option.map_eq_some_iff.mp deletes
  cases result
  have leaves : Leaves server closed := by
    subst isClosed
    exact ⟨(@Leaves.emit server _).created, fun _ _ here => here⟩
  refine leaves.trans ((Leaves.emit (pipeEnds collection.pipe)).trans ⟨?_, ?_⟩)
  · show created (_ ++ if 0 < collection.th then [.join collection.th] else []) = _
    rw [created_append]
    split <;> exact List.append_nil _
  · intro other pipe here
    by_cases same : other = node
    · unfold pipeAt at here
      rw [same, Arena.get?_destroy_self] at here
      contradiction
    · unfold pipeAt at *
      rwa [Arena.get?_destroy_of_ne same] at here

theorem Leaves.link (found : server.collections.get? node = some collection)
    (next : Option CollectionId) :
    Leaves server { server with
      collections := server.collections.set node { collection with next } } := by
  refine ⟨rfl, fun other pipe here => ?_⟩
  by_cases same : other = node
  · unfold pipeAt at *
    rw [same, Arena.get?_set_self found] at here
    rw [same, found]
    exact here
  · unfold pipeAt at *
    rwa [Arena.get?_set_of_ne same] at here

theorem removeClient_leaves {answer : Bool}
    (result : server.removeClient (some client) outcomes = some (answer, after)) :
    Leaves server after := by
  have keeps : RemovalKeeps (Leaves server) outcomes :=
    ⟨fun _ _ _ next found leaves => leaves.trans (.link found next),
      fun _ _ _ leaves => ⟨leaves.created, leaves.pipes⟩,
      fun _ _ _ deletes leaves => leaves.trans (deleteCollection_leaves deletes)⟩
  exact removeClient_keeps keeps ⟨rfl, fun _ _ here => here⟩ result

/-- A client of the ring goes with its node, and nothing else changes for the rest. -/
theorem removeClient_seats {answer : Bool} (sound : server.Sound ring)
    (owned : server.clientAt node = some client) (spares : ¬ server.DropsHead client)
    (result : server.removeClient (some client) outcomes = some (answer, after)) :
    after.WellFormed ∧ created after.log = created server.log ∧
      after.seat = Function.update server.seat node none := by
  obtain ⟨again, removes, removed, wellFormed⟩ :=
    @removes_of_not_head server ring client outcomes sound spares node owned
  rw [result] at removes
  cases removes
  have leaves := removeClient_leaves result
  refine ⟨wellFormed, leaves.created, ?_⟩
  funext other
  by_cases same : other = node
  · rw [same, Function.update_self, seat_of_absent removed.gone]
  · rw [Function.update_of_ne same]
    apply seat_congr (removed.kept other same)
    · cases here : after.pipeAt other with
      | some pipe => exact (leaves.pipes other pipe here).symm
      | none =>
          have owner := removed.kept other same
          unfold pipeAt at *
          unfold clientAt at owner
          rw [Option.map_eq_none_iff.mp here, Option.map_none] at owner
          rw [Option.map_eq_none_iff.mp owner.symm, Option.map_none]
    · intro third owns
      have different : third ≠ client := by
        intro equal
        exact same (sound.unique (equal ▸ owns) owned)
      rw [removed.clients third different]

end Server

end SynapTCP
