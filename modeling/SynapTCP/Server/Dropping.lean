import SynapTCP.Server.Choosing
import SynapTCP.Socket.Idle

namespace SynapTCP

open Data

/-! # The clients that a check gives up

A check that reports a disconnection has removed one client.  Whether it should have
depends on the descriptor, the bytes waiting and the time without activity of that
client.
-/

namespace Server

variable {server after scanned : Server} {outcomes : Outcomes} {ring : List CollectionId}
  {node : CollectionId} {client : ClientId} {available : ClientId → Bool}

/-- The client is found on a walk from `clientList`. -/
def Listed (server : Server) (client : ClientId) : Prop :=
  ∃ head node, server.clientList = some head ∧
    Relation.ReflTransGen (fun i j => server.next i = some j) head node ∧
    server.clientAt node = some client

theorem Sound.listed (sound : server.Sound ring) (member : node ∈ ring)
    (owned : server.clientAt node = some client) : server.Listed client := by
  cases ring with
  | nil => contradiction
  | cons head rest =>
      exact ⟨head, node, sound.head, (isRing_cons.mp sound.isRing).2.reach member, owned⟩

/-- What a removal of a client of the ring does, whether the client is that of the
head or not: it is destroyed, all others are listed as before. -/
structure Lets (before after : Server) (client : ClientId) : Prop where
  closed : after.clients.get? client = none
  gone : ∀ node, before.clientAt node = some client → after.clientAt node = none
  others : ∀ other, other ≠ client → after.clients.get? other = before.clients.get? other
  nodes : ∀ node, before.clientAt node ≠ some client → after.clientAt node = before.clientAt node
  listed : ∀ other node, other ≠ client → before.clientAt node = some other → after.Listed other

/-- The head of a longer ring goes: the walk starts at the next node then. -/
theorem removeClient_head_lets {head second : CollectionId} {rest : List CollectionId}
    (sound : server.Sound (head :: second :: rest)) (owned : server.clientAt head = some client) :
    ∃ after, server.removeClient (some client) outcomes = some (true, after) ∧
      server.Lets after client := by
  obtain ⟨nodup, leads⟩ := isRing_cons.mp sound.isRing
  obtain ⟨collection, found⟩ := @Sound.get?_of_mem server _ head sound (.head _)
  have owner : collection.client = client := by
    rw [Sound.clientAt_of_get? found] at owned
    exact Option.some.inj owned
  subst owner
  obtain ⟨object, there⟩ := sound.socket_of_get? found
  have linked : server.next head = some second := (leads_cons_cons.mp leads).1
  have link : collection.next = some second := by
    rw [← Sound.next_of_get? found, linked]
  have other : second ≠ head := fun same => (List.nodup_cons.mp nodup).1 (same ▸ .head _)
  have short : (second :: rest).length < server.rounds := Nat.lt_of_succ_lt sound.length_lt_rounds
  obtain ⟨last, isLast⟩ : ∃ last, lastNode server.next head server.rounds head = some last := by
    rw [lastNode_eq leads (List.nodup_cons.mp nodup).1 short]
    exact ⟨_, List.getLast?_cons⟩
  obtain ⟨deleted, deletes, list, active, collections, clients⟩ :=
    @deleteCollection_eq { server with clientList := collection.next } head collection outcomes
      found object there
  have ran : server.removeClient (some collection.client) outcomes =
      some (true, deleted.forget collection.client) := by
    unfold removeClient
    rw [sound.head]
    simp only [List.head?_cons, found, link, Option.some.injEq, other, bind, Option.bind_some,
      and_false, if_false, if_true, isLast]
    rw [link] at deletes
    simp only [deletes, Option.bind_some]
  have kept : ∀ i, i ≠ head →
      (deleted.forget collection.client).collections.get? i = server.collections.get? i := by
    intro i apart
    show deleted.collections.get? i = _
    rw [collections, Arena.get?_destroy_of_ne apart]
  have apart : ∀ i, server.clientAt i ≠ some collection.client → i ≠ head := by
    intro i differs same
    rw [same] at differs
    exact differs owned
  refine ⟨_, ran, ?_, ?_, ?_, ?_, ?_⟩
  · show deleted.clients.get? _ = none
    rw [clients, Arena.get?_destroy_self]
  · intro i owns
    rw [sound.unique owns owned]
    show (deleted.collections.get? head).map _ = none
    rw [collections, Arena.get?_destroy_self]
    rfl
  · intro i differs
    show deleted.clients.get? i = _
    rw [clients, Arena.get?_destroy_of_ne differs]
  · intro i differs
    unfold clientAt
    rw [kept i (apart i differs)]
  · intro owner i differs owns
    have behind : i ≠ head := apart i (by rw [owns]; simpa using differs)
    have member : i ∈ second :: rest :=
      (List.mem_cons.mp (sound.mem_of_clientAt owns)).resolve_left behind
    refine ⟨second, i, list.trans link, ?_, ?_⟩
    · have links : LeadsTo (deleted.forget collection.client).next (second :: rest) head := by
        refine (leads_cons_cons.mp leads).2.congr fun j inner => ?_
        unfold next
        rw [kept j]
        intro same
        exact (List.nodup_cons.mp nodup).1 (same ▸ inner)
      exact links.reach member
    · unfold clientAt at owns ⊢
      rw [kept i behind, owns]

theorem removeClient_lets (sound : server.Sound ring) (owned : server.clientAt node = some client) :
    ∃ after, server.removeClient (some client) outcomes = some (true, after) ∧
      server.Lets after client := by
  by_cases drops : server.DropsHead client
  · obtain ⟨head, first, ownsHead, longer⟩ := drops
    rw [sound.head] at first
    cases ring with
    | nil => contradiction
    | cons start rest =>
        cases first
        cases rest with
        | nil => exact absurd (leadsTo_single.mp (isRing_cons.mp sound.isRing).2) longer
        | cons second rest => exact removeClient_head_lets sound ownsHead
  · obtain ⟨after, removes, removed, left, soundAfter⟩ :=
      @removes_of_not_head server ring client outcomes sound drops node owned
    have apart : ∀ other, server.clientAt other ≠ some client → other ≠ node := by
      intro other differs same
      rw [same] at differs
      exact differs owned
    have gone : ∀ other, server.clientAt other = some client → after.clientAt other = none := by
      intro other owns
      rw [sound.unique owns owned, clientAt, removed.gone]
      rfl
    refine ⟨after, removes, removed.closed, gone, removed.clients,
      fun other differs => removed.kept other (apart other differs), fun other i differs owns => ?_⟩
    have owner : after.clientAt i = some other := by
      rw [removed.kept i (apart i (by rw [owns]; simpa using differs)), owns]
    exact soundAfter.listed (soundAfter.mem_of_clientAt owner) owner

theorem Lets.of_same {before : Server} (lets : before.Lets after client)
    (clients : before.clients = server.clients)
    (owners : ∀ node, before.clientAt node = server.clientAt node) : server.Lets after client where
  closed := lets.closed
  gone node owns := lets.gone node (by rw [owners, owns])
  others other differs := by
    rw [lets.others other differs, clients]
  nodes node differs := by
    rw [← owners] at differs ⊢
    exact lets.nodes node differs
  listed other node differs owns := lets.listed other node differs (by rw [owners, owns])

theorem Lets.unlock (lets : server.Lets after client) : server.Lets after.unlock client :=
  ⟨lets.closed, lets.gone, lets.others, lets.nodes, lets.listed⟩

theorem clientEvent_lets (sound : server.Sound ring) (member : node ∈ ring)
    (owned : server.clientAt node = some client) (empty : outcomes.inputBytes = false) :
    ∃ after, server.clientEvent node outcomes = some (.clientDisconnected, after) ∧
      server.Lets after client := by
  obtain ⟨collection, found⟩ := sound.get?_of_mem member
  have owner : collection.client = client := by
    rw [Sound.clientAt_of_get? found] at owned
    exact Option.some.inj owned
  subst owner
  have owners (i : CollectionId) :
      (server.polled node collection outcomes).lock.clientAt i = server.clientAt i :=
    polled_clientAt found i
  obtain ⟨after, removes, lets⟩ := @removeClient_lets
    (server.polled node collection outcomes).lock outcomes ring node collection.client
    (SameRing.lock.sound (sound.polled found)) (by rw [owners, owned])
  have same : server.Lets after collection.client := lets.of_same rfl owners
  refine ⟨after.unlock, ?_, same.unlock⟩
  rw [clientEvent_eq found, if_pos empty, removes, Option.map_some]

theorem clientEvent_event {event : ServerEvent} (some_ : outcomes.inputBytes = true)
    (ran : server.clientEvent node outcomes = some (event, after)) : event = .bytesAvailable := by
  obtain ⟨collection, -, ⟨empty, -⟩ | ⟨-, isBytes, -⟩⟩ := clientEvent_cases ran
  · rw [some_] at empty
    contradiction
  · exact isBytes

theorem dropIdle_lets {tmp : Option CollectionId} (sound : server.Sound ring)
    (selects : server.Selects ring (.idle node tmp)) (owned : server.clientAt node = some client) :
    ∃ after, server.dropIdle node tmp outcomes = some (.clientDisconnected, after) ∧
      server.Lets after client := by
  obtain ⟨collection, found⟩ := sound.get?_of_mem selects.1
  have owner : collection.client = client := by
    rw [Sound.clientAt_of_get? found] at owned
    exact Option.some.inj owned
  subst owner
  obtain ⟨after, removes, lets⟩ :=
    @removeClient_lets server outcomes ring node collection.client sound owned
  unfold dropIdle
  simp only [found, bind, Option.bind_some, removes]
  cases tmp with
  | none => exact ⟨after.unlock, rfl, lets.unlock⟩
  | some next =>
      obtain ⟨apart, nextCollection, foundNext⟩ := selects.behind sound
      have ownsNext := Sound.clientAt_of_get? foundNext
      have differs : server.clientAt next ≠ some collection.client := fun same =>
        apart (sound.unique same owned)
      have ownedAfter := (lets.nodes next differs).trans ownsNext
      obtain ⟨stillThere, foundAfter⟩ := live_iff_clientAt.mpr ⟨_, ownedAfter⟩
      refine ⟨({ after with client := some stillThere.client } : Server).unlock, ?_, ?_⟩
      · simp only [foundAfter, Option.bind_some]
      · exact ⟨lets.closed, lets.gone, lets.others, lets.nodes, lets.listed⟩

/-- The client whose input the check asks for. -/
def asked (server : Server) (outcomes : Outcomes) : Option ClientId := do
  let filled ← server.lock.fillSet
  let scanned ← filled.scan outcomes
  match scanned.2 with
  | .clientEvent node => server.clientAt node
  | _ => none

/-- The client has bytes waiting and its descriptor is in the set. -/
def Busy (server : Server) (outcomes : Outcomes) (available : ClientId → Bool)
    (client : ClientId) : Prop :=
  ∃ socket, server.clients.get? client = some socket ∧ socket.sockFd ∈ outcomes.readfds ∧
    available client = true

/-- The client may be given up: it is readable without bytes, or not readable and
idle for longer than its timeout. -/
def MayGo (server : Server) (outcomes : Outcomes) (available : ClientId → Bool)
    (client : ClientId) : Prop :=
  ∃ node collection socket, server.collections.get? node = some collection ∧
    collection.client = client ∧ server.clients.get? client = some socket ∧
    ((socket.sockFd ∈ outcomes.readfds ∧ available client = false) ∨
      (socket.sockFd ∉ outcomes.readfds ∧ socket.Exceeds outcomes.tv collection.lastActivity))

/-- One client is destroyed, which may go, and every busy one is still listed. -/
structure DropsFairly (before after : Server) (outcomes : Outcomes)
    (available : ClientId → Bool) : Prop where
  one : ∃ client socket, before.clients.get? client = some socket ∧
    after.clients.get? client = none ∧ before.MayGo outcomes available client
  busy : ∀ client node, before.clientAt node = some client →
    before.Busy outcomes available client → after.Listed client

/-- The active client is busy and idle for longer than its timeout, no thread has
its node, and the scan does not stop at a node before. -/
def IdleThoughBusy (server : Server) (ring : List CollectionId) (outcomes : Outcomes)
    (available : ClientId → Bool) : Prop :=
  server.Looks outcomes ∧ ∃ front node back client, ring = front ++ node :: back ∧
    (∀ other ∈ front, ¬ (server.sight outcomes other).Stops) ∧
    server.sight outcomes node = ⟨true, true, true⟩ ∧
    server.clientAt node = some client ∧ available client = true

/-- A client that is not readable is found idle before its timeout has gone by, no thread
has its node, and the scan does not stop at a node before. -/
def IdleTooEarly (server : Server) (ring : List CollectionId) (outcomes : Outcomes) : Prop :=
  server.Looks outcomes ∧ ∃ front node back collection socket, ring = front ++ node :: back ∧
    (∀ other ∈ front, ¬ (server.sight outcomes other).Stops) ∧
    server.collections.get? node = some collection ∧
    server.clients.get? collection.client = some socket ∧ socket.sockFd ∉ outcomes.readfds ∧
    (collection.pipe.1 ≤ 0 ∨ collection.pipe.1 ∈ outcomes.readfds) ∧
    socket.Early outcomes.tv collection.lastActivity

theorem looks_of_disconnected (ran : server.eventCheck outcomes = some (.clientDisconnected, after)) :
    server.Looks outcomes := by
  unfold eventCheck at ran
  dsimp only at ran
  split at ran
  · cases ran
  · rename_i opened
    obtain ⟨filled, fills, ran⟩ := Option.bind_eq_some_iff.mp ran
    have unchanged := fillSet_toTCPServer fills
    have sockFd : filled.sockFd = server.sockFd :=
      congrArg (fun object : TCPServer => object.sockFd) unchanged
    split at ran
    · cases ran
    · rename_i selected
      split at ran
      · unfold connectRequest at ran
        split at ran
        · cases ran
        · obtain ⟨added, -, same⟩ := Option.map_eq_some_iff.mp ran
          cases same
      · rename_i quiet
        rw [sockFd] at quiet
        exact ⟨Int.not_le.mp opened, Int.not_lt.mp selected, quiet⟩

/-- What the scan sees of a node of the ring, in terms of what is stored there. -/
theorem Sound.sight (sound : server.Sound ring) (member : node ∈ ring) :
    ∃ collection socket, server.collections.get? node = some collection ∧
      server.clients.get? collection.client = some socket ∧
      server.clientAt node = some collection.client ∧
      ((server.sight outcomes node).readable = true ↔ socket.sockFd ∈ outcomes.readfds) ∧
      ((server.sight outcomes node).expired = true →
        (collection.pipe.1 ≤ 0 ∨ collection.pipe.1 ∈ outcomes.readfds) ∧
          socket.isSocketTimeout outcomes.tv collection.lastActivity = true) := by
  obtain ⟨collection, socket, -, found, there, -⟩ := sound.visit member
  refine ⟨collection, socket, found, there, Sound.clientAt_of_get? found, ?_, ?_⟩
  · rw [sight_of_get? found there]
    simp
  · rw [sight_of_get? found there]
    simp

/-- Where the choice drops a node, the check lets its client go. -/
theorem eventCheck_drops (sound : server.Sound ring) (looks : server.Looks outcomes)
    (dropped : chooseFrom (server.sight outcomes) none ring = .drop node)
    (owned : server.clientAt node = some client) :
    ∃ filled scanned tmp after, server.lock.fillSet = some filled ∧
      filled.scan outcomes = some (scanned, .idle node tmp) ∧
      server.eventCheck outcomes = some (.clientDisconnected, after) ∧
      server.Lets after client := by
  obtain ⟨filled, scanned, scanning, fills, scans, reaped, selects, choice, ran⟩ :=
    eventCheck_choice sound looks
  rw [dropped] at choice
  cases scanning with
  | clientEvent other => cases choice
  | nothing => cases choice
  | idle other tmp =>
      cases choice
      obtain ⟨after, drops, lets⟩ := @dropIdle_lets scanned outcomes ring node client tmp
        (reaped.same.sound sound) selects (by rw [reaped.same.clientAt, owned])
      exact ⟨filled, scanned, tmp, after, fills, scans, ran.trans drops,
        lets.of_same reaped.clients fun _ => reaped.same.clientAt⟩

/-- An idle active client is given up although it is busy. -/
theorem IdleThoughBusy.unfair (sound : server.Sound ring)
    (idle : server.IdleThoughBusy ring outcomes available) :
    ∃ after, server.eventCheck outcomes = some (.clientDisconnected, after) ∧
      ¬ server.DropsFairly after outcomes available := by
  obtain ⟨looks, front, node, back, client, split, passed, seen, owned, bytes⟩ := idle
  have dropped : chooseFrom (server.sight outcomes) none ring = .drop node :=
    chooseFrom_drop_iff.mpr ⟨front, back, split, passed, by rw [seen], by simp [seen]⟩
  obtain ⟨-, -, -, after, -, -, ran, lets⟩ := eventCheck_drops sound looks dropped owned
  refine ⟨after, ran, fun fair => ?_⟩
  obtain ⟨collection, socket, found, there, owns, readable, -⟩ :=
    @Sound.sight server outcomes ring node sound (sound.mem_of_clientAt owned)
  rw [owned] at owns
  cases owns
  have busy : server.Busy outcomes available collection.client :=
    ⟨socket, there, readable.mp (by rw [seen]), bytes⟩
  obtain ⟨-, place, -, -, still⟩ := fair.busy _ node owned busy
  by_cases here : server.clientAt place = some collection.client
  · rw [lets.gone place here] at still
    contradiction
  · rw [lets.nodes place here] at still
    exact here still

/-- A client that is not idle for long enough is given up although it is not readable. -/
theorem IdleTooEarly.unfair (sound : server.Sound ring)
    (early : server.IdleTooEarly ring outcomes) :
    ∃ after, server.eventCheck outcomes = some (.clientDisconnected, after) ∧
      ¬ server.DropsFairly after outcomes available := by
  obtain ⟨looks, front, node, back, collection, socket, split, passed, found, there, quiet,
    unthreaded, answers, fresh⟩ := early
  have owned : server.clientAt node = some collection.client := Sound.clientAt_of_get? found
  have seen := @sight_of_get? server outcomes node collection socket found there
  have dropped : chooseFrom (server.sight outcomes) none ring = .drop node :=
    chooseFrom_drop_iff.mpr ⟨front, back, split, passed, by simp [seen, unthreaded, answers],
      by simp [seen, quiet]⟩
  obtain ⟨-, -, -, after, -, -, ran, lets⟩ := eventCheck_drops sound looks dropped owned
  refine ⟨after, ran, fun fair => ?_⟩
  obtain ⟨client, object, before, gone, mayGo⟩ := fair.one
  have same : client = collection.client := by
    by_contra differs
    have left := lets.others client differs
    rw [gone, before] at left
    contradiction
  subst same
  obtain ⟨place, collectionThere, objectThere, foundThere, owner, thereAgain, reasons⟩ := mayGo
  have isNode : place = node := by
    refine sound.unique ?_ owned
    rw [Sound.clientAt_of_get? foundThere, owner]
  subst isNode
  cases found.symm.trans foundThere
  cases there.symm.trans thereAgain
  rcases reasons with ⟨readable, -⟩ | ⟨-, exceeds⟩
  · exact quiet readable
  · exact fresh exceeds

/-- Whoever is removed may go, and then every busy client stays. -/
theorem Lets.fairly (lets : server.Lets after client) (sound : server.Sound ring)
    (owned : server.clientAt node = some client) (mayGo : server.MayGo outcomes available client)
    (idle : ¬ server.Busy outcomes available client) :
    server.DropsFairly after outcomes available where
  one := by
    obtain ⟨collection, found⟩ := sound.get?_of_mem (sound.mem_of_clientAt owned)
    obtain ⟨socket, there⟩ := sound.socket_of_get? found
    rw [Sound.clientAt_of_get? found] at owned
    cases owned
    exact ⟨_, socket, there, lets.closed, mayGo⟩
  busy other place owns busy := by
    refine lets.listed other place ?_ owns
    intro same
    rw [same] at busy
    exact idle busy

/-- A readable client that sends nothing may go, and is not busy. -/
theorem Lets.fairly_silent {collection : ClientCollection} {socket : Socket}
    (lets : server.Lets after collection.client) (sound : server.Sound ring)
    (found : server.collections.get? node = some collection)
    (there : server.clients.get? collection.client = some socket)
    (readable : socket.sockFd ∈ outcomes.readfds) (silent : available collection.client = false) :
    server.DropsFairly after outcomes available := by
  have owned : server.clientAt node = some collection.client := Sound.clientAt_of_get? found
  have mayGo : server.MayGo outcomes available collection.client :=
    ⟨node, collection, socket, found, rfl, there, .inl ⟨readable, silent⟩⟩
  refine lets.fairly sound owned mayGo ?_
  intro busy
  obtain ⟨-, -, -, bytes⟩ := busy
  rw [silent] at bytes
  contradiction

theorem Lets.fairly_idle {collection : ClientCollection} {socket : Socket}
    (lets : server.Lets after collection.client) (sound : server.Sound ring)
    (found : server.collections.get? node = some collection)
    (there : server.clients.get? collection.client = some socket)
    (quiet : socket.sockFd ∉ outcomes.readfds)
    (exceeds : socket.Exceeds outcomes.tv collection.lastActivity) :
    server.DropsFairly after outcomes available := by
  have owned : server.clientAt node = some collection.client := Sound.clientAt_of_get? found
  have mayGo : server.MayGo outcomes available collection.client :=
    ⟨node, collection, socket, found, rfl, there, .inr ⟨quiet, exceeds⟩⟩
  refine lets.fairly sound owned mayGo ?_
  intro busy
  obtain ⟨again, thereAgain, inSet, -⟩ := busy
  rw [there] at thereAgain
  cases thereAgain
  exact quiet inSet

/-- A check reports a disconnection only for a client that may go, and keeps every
busy one, exactly if the scan comes neither to a busy active client that is idle nor to
one that is found idle too early. -/
theorem eventCheck_dropsFairly_iff (sound : server.Sound ring)
    (answers : ∀ client, server.asked outcomes = some client →
      outcomes.inputBytes = available client) :
    (∀ after, server.eventCheck outcomes = some (.clientDisconnected, after) →
      server.DropsFairly after outcomes available) ↔
      ¬ server.IdleThoughBusy ring outcomes available ∧ ¬ server.IdleTooEarly ring outcomes := by
  constructor
  · intro fair
    constructor
    · intro idle
      obtain ⟨after, ran, unfair⟩ := idle.unfair sound
      exact unfair (fair after ran)
    · intro early
      obtain ⟨after, ran, unfair⟩ := @IdleTooEarly.unfair _ _ _ available sound early
      exact unfair (fair after ran)
  · intro ⟨fine, inTime⟩ after disconnected
    have looks := looks_of_disconnected disconnected
    obtain ⟨filled, scanned, scanning, fills, scans, reaped, selects, choice, ran⟩ :=
      eventCheck_choice sound looks
    have soundScanned := reaped.same.sound sound
    have owners : ∀ i, scanned.clientAt i = server.clientAt i := fun i => reaped.same.clientAt
    rw [ran] at disconnected
    cases scanning with
    | nothing => cases disconnected
    | clientEvent node =>
        obtain ⟨ready, inRing | never⟩ := chooseFrom_serve choice.symm
        · obtain ⟨collection, socket, found, there, owned, readable, -⟩ :=
            @Sound.sight server outcomes ring node sound inRing
          have empty : outcomes.inputBytes = false := by
            rw [← Bool.not_eq_true]
            intro bytes
            cases clientEvent_event bytes disconnected
          have isAsked : server.asked outcomes = some collection.client := by
            unfold asked
            rw [fills]
            simp only [bind, Option.bind_some, scans]
            exact owned
          have none : available collection.client = false := by
            rw [← answers _ isAsked, empty]
          obtain ⟨later, again, lets⟩ := @clientEvent_lets scanned outcomes ring node
            collection.client soundScanned inRing (by rw [owners, owned]) empty
          cases again.symm.trans disconnected
          have same : server.Lets after collection.client := lets.of_same reaped.clients owners
          exact same.fairly_silent sound found there (readable.mp ready) none
        · contradiction
    | idle node tmp =>
        obtain ⟨front, back, split, passed, expired, unready⟩ := chooseFrom_drop_iff.mp choice.symm
        obtain ⟨collection, socket, found, there, owned, readable, timeout⟩ :=
          @Sound.sight server outcomes ring node sound selects.1
        obtain ⟨later, again, lets⟩ := @dropIdle_lets scanned outcomes ring node
          collection.client tmp soundScanned selects (by rw [owners, owned])
        cases again.symm.trans disconnected
        have same : server.Lets after collection.client := lets.of_same reaped.clients owners
        by_cases ready : (server.sight outcomes node).readable = true
        · have active : (server.sight outcomes node).active = true := by
            rw [← Bool.not_eq_false]
            intro inactive
            rw [unready inactive] at ready
            contradiction
          have none : available collection.client = false := by
            rw [← Bool.not_eq_true]
            intro bytes
            refine fine ⟨looks, front, node, back, _, split, passed, ?_, owned, bytes⟩
            generalize server.sight outcomes node = seen at active ready expired
            cases seen
            simp_all
          exact same.fairly_silent sound found there (readable.mp ready) none
        · have quiet : socket.sockFd ∉ outcomes.readfds := fun inSet => ready (readable.mpr inSet)
          obtain ⟨unthreaded, answers⟩ := timeout expired
          have exceeds : socket.Exceeds outcomes.tv collection.lastActivity := by
            by_contra fresh
            exact inTime ⟨looks, front, node, back, collection, socket, split, passed, found, there,
              quiet, unthreaded, answers, fresh⟩
          exact same.fairly_idle sound found there quiet exceeds

def spoken : Outcomes := { quiet with ret := 1, readfds := [5], inputBytes := true }

/-- It has again, two seconds later; the timeout is a second and a half. -/
def spokenLate : Outcomes := { spoken with tv := ⟨2, 0⟩ }

theorem eventCheck_dropsFairly_spoken :
    ∃ one ring, ServerStep.run listening (.addClient 5 quiet) = some one ∧ one.Sound ring ∧
      ((∀ after, one.eventCheck spokenLate = some (.clientDisconnected, after) →
        one.DropsFairly after spokenLate fun _ => true) ↔
        ¬ (one.IdleThoughBusy ring spokenLate fun _ => true) ∧
          ¬ one.IdleTooEarly ring spokenLate) := by
  have runs : (ServerStep.run listening (.addClient 5 quiet)).isSome = true := by decide +kernel
  obtain ⟨one, ran⟩ := Option.isSome_iff_exists.mp runs
  have reaches : listening.Reaches one := .single ⟨.addClient 5 quiet, trivial, ran⟩
  obtain ⟨ring, sound⟩ := (ring_wellFormed listening_new reaches).1
  exact ⟨one, ring, ran, sound, eventCheck_dropsFairly_iff sound fun _ _ => rfl⟩

/-- One client, which sends bytes twice with two seconds between: at the second time
it is dropped. -/
theorem eventCheck_drops_busy : ¬ ∀ (server after : Server) (ring : List CollectionId)
    (outcomes : Outcomes) (available : ClientId → Bool), server.Sound ring →
      (∀ client, server.asked outcomes = some client → outcomes.inputBytes = available client) →
      server.eventCheck outcomes = some (.clientDisconnected, after) →
      server.DropsFairly after outcomes available := by
  intro all
  have result : ((ServerStep.run listening (.addClient 5 quiet)).bind fun one =>
      (ServerStep.run one (.eventCheck spoken)).bind fun heard =>
        (heard.eventCheck spokenLate).map fun checked =>
          (one.dropped spoken, heard.clientAt 0, (heard.clients.get? 0).map Socket.sockFd,
            checked.1, checked.2.clientList)) =
      some (none, some 0, some 5, .clientDisconnected, none) := by
    decide +kernel
  obtain ⟨one, first, result⟩ := Option.bind_eq_some_iff.mp result
  obtain ⟨heard, second, result⟩ := Option.bind_eq_some_iff.mp result
  obtain ⟨⟨event, after⟩, third, values⟩ := Option.map_eq_some_iff.mp result
  simp only [Prod.mk.injEq] at values
  obtain ⟨undropped, owned, fd, isEvent, emptied⟩ := values
  subst isEvent
  obtain ⟨socket, there, isFd⟩ := Option.map_eq_some_iff.mp fd
  have spares : (ServerStep.eventCheck spoken).SparesHead one := by
    intro client dropped
    rw [undropped] at dropped
    contradiction
  have reaches : listening.Reaches heard :=
    .tail (.single ⟨.addClient 5 quiet, trivial, first⟩) ⟨.eventCheck spoken, spares, second⟩
  obtain ⟨ring, sound⟩ := (ring_wellFormed listening_new reaches).1
  have fair := all heard after ring spokenLate (fun _ => true) sound (fun _ _ => rfl) third
  have busy : heard.Busy spokenLate (fun _ => true) 0 :=
    ⟨socket, there, by rw [isFd]; decide, rfl⟩
  obtain ⟨head, -, first, -⟩ := fair.busy 0 0 owned busy
  rw [emptied] at first
  contradiction

end Server

end SynapTCP
