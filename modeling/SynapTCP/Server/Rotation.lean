import SynapTCP.Data.Throughout
import SynapTCP.Server.Dropping

namespace SynapTCP

open Data

/-! # Which clients are served in turn

Checks one after another while every client has bytes waiting.
-/

namespace Server

variable {server later : Server} {outcomes : Outcomes} {ring : List CollectionId}
  {node : CollectionId} {client : ClientId} {active : Option CollectionId}
  {checks : List Outcomes}

def checked (server : Server) (outcomes : Outcomes) : Option Server :=
  (server.eventCheck outcomes).map Prod.snd

def Checks (server : Server) (outcomes : Outcomes) (later : Server) : Prop :=
  server.checked outcomes = some later

/-- The client of the node is readable, and its timeout has not gone by. -/
def InTime (server : Server) (outcomes : Outcomes) (node : CollectionId) : Prop :=
  ∃ collection ∈ server.collections.get? node, ∃ socket ∈ server.clients.get? collection.client,
    socket.sockFd ∈ outcomes.readfds ∧ ¬ socket.Exceeds outcomes.tv collection.lastActivity

instance (server : Server) (outcomes : Outcomes) :
    DecidablePred (server.InTime outcomes) :=
  fun _ => inferInstanceAs (Decidable (∃ collection ∈ _, ∃ socket ∈ _, _ ∧ ¬ _))

/-- No peer asks for a connection, each client of the ring is readable with bytes
waiting and has not exceeded its timeout, and the handler is called without a thread. -/
structure AllReady (ring : List CollectionId) (server : Server) (outcomes : Outcomes) :
    Prop where
  looks : server.Looks outcomes
  ready : ∀ node ∈ ring, server.InTime outcomes node
  bytes : outcomes.inputBytes = true
  synchronous : server.receptionHandlerAsThread = false

/-- The first client of the ring is the active one, no thread has its node, and it is
found idle before its timeout has gone by. -/
def HeadTooEarly (server : Server) (outcomes : Outcomes) : Prop :=
  ∃ head ∈ server.clientList, ∃ collection ∈ server.collections.get? head,
    ∃ socket ∈ server.clients.get? collection.client, server.client = some collection.client ∧
      (collection.pipe.1 ≤ 0 ∨ collection.pipe.1 ∈ outcomes.readfds) ∧
      socket.Early outcomes.tv collection.lastActivity

instance (server : Server) (outcomes : Outcomes) : Decidable (server.HeadTooEarly outcomes) :=
  inferInstanceAs (Decidable (∃ head ∈ _, ∃ collection ∈ _, ∃ socket ∈ _, _ ∧ _))

instance (server : Server) (outcomes : Outcomes) : Decidable (server.Looks outcomes) :=
  inferInstanceAs (Decidable (_ ∧ _ ∧ _))

instance (ring : List CollectionId) (server : Server) (outcomes : Outcomes) :
    Decidable (AllReady ring server outcomes) :=
  decidable_of_iff (server.Looks outcomes ∧ (∀ node ∈ ring, server.InTime outcomes node) ∧
    outcomes.inputBytes = true ∧ server.receptionHandlerAsThread = false)
    ⟨fun all => ⟨all.1, all.2.1, all.2.2.1, all.2.2.2⟩,
      fun ready => ⟨ready.looks, ready.ready, ready.bytes, ready.synchronous⟩⟩

/-- The clients that the checks dispatch, one after another. -/
def dispatches (server : Server) : List Outcomes → Option (List ClientId)
  | [] => some []
  | outcomes :: checks =>
      match server.eventCheck outcomes with
      | some (.bytesAvailable, later) => do
          let client ← later.client
          let rest ← later.dispatches checks
          some (client :: rest)
      | _ => none

def ActiveAt (server : Server) (ring : List CollectionId) (active : Option CollectionId) : Prop :=
  ∀ node ∈ ring, active = some node ↔ server.client = server.clientAt node

theorem Sound.activeAt (sound : server.Sound ring) : ∃ active, server.ActiveAt ring active := by
  cases isActive : server.client with
  | none =>
      refine ⟨none, fun node member => ?_⟩
      obtain ⟨collection, found⟩ := sound.get?_of_mem member
      rw [isActive, Sound.clientAt_of_get? found]
      simp
  | some client =>
      obtain ⟨owner, member, owned⟩ := sound.active client isActive
      refine ⟨some owner, fun node inRing => ?_⟩
      rw [isActive, ← owned]
      constructor
      · intro same
        rw [Option.some.inj same]
      · intro same
        rw [sound.distinct owner member node inRing same]

theorem Sound.sight_active (sound : server.Sound ring) (activeAt : server.ActiveAt ring active)
    (member : node ∈ ring) : (server.sight outcomes node).active = true ↔ active = some node := by
  obtain ⟨collection, socket, -, found, there, -⟩ := sound.visit member
  have isActive := activeAt node member
  rw [Sound.clientAt_of_get? found] at isActive
  rw [sight_of_get? found there]
  simp [isActive]

theorem InTime.readable (inTime : server.InTime outcomes node) :
    (server.sight outcomes node).readable = true := by
  obtain ⟨collection, found, socket, there, readable, -⟩ := inTime
  rw [sight_of_get? found there]
  simpa using readable

/-- A head that is in time is found idle only too early. -/
theorem InTime.fresh {head : CollectionId} (inTime : server.InTime outcomes head)
    (first : server.clientList = some head) (ordered : ¬ server.HeadTooEarly outcomes)
    (active : (server.sight outcomes head).active = true) :
    (server.sight outcomes head).expired = false := by
  obtain ⟨collection, found, socket, there, -, fresh⟩ := inTime
  rw [← Bool.not_eq_true]
  intro expired
  rw [sight_of_get? found there] at active expired
  simp only [decide_eq_true_eq] at active expired
  exact ordered ⟨head, first, collection, found, socket, there, active, expired.1, expired.2, fresh⟩

/-- The client that is found idle too early is dropped. -/
theorem HeadTooEarly.drops (early : server.HeadTooEarly outcomes) (sound : server.Sound ring)
    (looks : server.Looks outcomes) :
    ∃ after, server.eventCheck outcomes = some (.clientDisconnected, after) := by
  obtain ⟨head, first, collection, found, socket, there, active, unthreaded, answers, -⟩ := early
  have seen := @sight_of_get? server outcomes head collection socket found there
  rw [sound.head] at first
  obtain ⟨rest, split⟩ := List.head?_eq_some_iff.mp first
  have dropped : chooseFrom (server.sight outcomes) none ring = .drop head :=
    chooseFrom_drop_iff.mpr ⟨[], rest, split, by simp, by simp [seen, unthreaded, answers],
      by simp [seen, active]⟩
  obtain ⟨-, -, -, after, -, -, ran, -⟩ :=
    eventCheck_drops sound looks dropped (Sound.clientAt_of_get? found)
  exact ⟨after, ran⟩

theorem clientEvent_dispatches (sound : server.Sound ring) (member : node ∈ ring)
    (bytes : outcomes.inputBytes = true) (synchronous : server.receptionHandlerAsThread = false) :
    ∃ later, server.clientEvent node outcomes = some (.bytesAvailable, later) ∧
      later.Sound ring ∧ later.client = server.clientAt node ∧
      ∀ i, later.clientAt i = server.clientAt i := by
  obtain ⟨collection, found⟩ := sound.get?_of_mem member
  have owned := Sound.clientAt_of_get? found
  have soundPolled := @Sound.polled server ring node outcomes collection sound found
  have owners := @polled_clientAt server node outcomes collection found
  rw [clientEvent_eq found, if_neg (by simp [bytes])]
  split
  · exact ⟨_, rfl, soundPolled, owned.symm, owners⟩
  · rw [if_pos synchronous]
    exact ⟨_, rfl, (SameRing.of_log _).sound soundPolled, owned.symm, owners⟩

/-- A check that serves a node dispatches its client. -/
theorem serve_dispatches (sound : server.Sound ring) (looks : server.Looks outcomes)
    (serves : chooseFrom (server.sight outcomes) none ring = .serve node)
    (bytes : outcomes.inputBytes = true) (synchronous : server.receptionHandlerAsThread = false) :
    ∃ later, server.eventCheck outcomes = some (.bytesAvailable, later) ∧
      later.Sound ring ∧ later.client = server.clientAt node ∧
      ∀ i, later.clientAt i = server.clientAt i := by
  obtain ⟨filled, scanned, scanning, -, -, reaped, selects, choice, ran⟩ :=
    eventCheck_choice sound looks
  rw [serves] at choice
  cases scanning with
  | idle other tmp => cases choice
  | nothing => cases choice
  | clientEvent other =>
      cases choice
      have handled : scanned.receptionHandlerAsThread = false :=
        (congrArg TCPServer.receptionHandlerAsThread reaped.server).trans synchronous
      obtain ⟨later, dispatches, soundLater, client, owners⟩ :=
        clientEvent_dispatches (reaped.same.sound sound) selects bytes handled
      refine ⟨later, ran.trans dispatches, soundLater, ?_, ?_⟩
      · rw [client, reaped.same.clientAt]
      · intro i
        rw [owners, reaped.same.clientAt]

/-- A check dispatches the client whose turn it is. -/
theorem AllReady.dispatches (ready : AllReady ring server outcomes) (sound : server.Sound ring)
    (ordered : ¬ server.HeadTooEarly outcomes) (activeAt : server.ActiveAt ring active)
    (nonempty : ring ≠ []) :
    ∃ node later, turn active ring = some node ∧ node ∈ ring ∧
      server.eventCheck outcomes = some (.bytesAvailable, later) ∧
      later.Sound ring ∧ later.client = server.clientAt node ∧
      ∀ i, later.clientAt i = server.clientAt i := by
  obtain ⟨head, rest, split⟩ := List.exists_cons_of_ne_nil nonempty
  have first : server.clientList = some head := by
    rw [sound.head, split]
    rfl
  have nodup := sound.isRing.nodup
  have atHead : head ∈ ring := by simp [split]
  obtain ⟨node, turned, serves⟩ : ∃ i, turn active (head :: rest) = some i ∧
      chooseFrom (server.sight outcomes) none (head :: rest) = .serve i := by
    refine chooseFrom_turn (ready.ready head atHead).readable (sound.sight_active activeAt atHead)
      ((ready.ready head atHead).fresh first ordered) fun second behind isHead => ?_
    have atSecond : second ∈ ring := by
      rw [split]
      exact .tail _ (List.mem_of_mem_head? behind)
    refine ⟨?_, (ready.ready second atSecond).readable⟩
    rw [← Bool.not_eq_true, sound.sight_active activeAt atSecond]
    intro isSecond
    rw [sound.sight_active activeAt atHead, isSecond] at isHead
    cases isHead
    rw [split] at nodup
    exact (List.nodup_cons.mp nodup).1 (List.mem_of_mem_head? behind)
  rw [← split] at turned serves
  obtain ⟨later, ran, soundLater, client, owners⟩ :=
    serve_dispatches sound ready.looks serves ready.bytes ready.synchronous
  have member : node ∈ ring := (chooseFrom_serve serves).2.resolve_right (by simp)
  exact ⟨node, later, turned, member, ran, soundLater, client, owners⟩

theorem Sound.activeAt_later (sound : server.Sound ring) (member : node ∈ ring)
    (client : later.client = server.clientAt node)
    (owners : ∀ i, later.clientAt i = server.clientAt i) : later.ActiveAt ring (some node) := by
  intro other inRing
  rw [client, owners]
  constructor
  · intro same
    rw [Option.some.inj same]
  · intro same
    rw [sound.distinct node member other inRing same]

theorem dispatches_turns (sound : server.Sound ring) (activeAt : server.ActiveAt ring active)
    (nonempty : ring ≠ []) (ready : Throughout Checks (AllReady ring) server checks)
    (ordered : Throughout Checks (fun server outcomes => ¬ server.HeadTooEarly outcomes) server
      checks) :
    ∃ clients, server.dispatches checks = some clients ∧
      clients.map some = (turns ring active checks.length).map server.clientAt := by
  induction checks generalizing server active with
  | nil => exact ⟨[], rfl, rfl⟩
  | cons outcomes checks ih =>
      obtain ⟨isReady, rest⟩ := ready
      obtain ⟨isOrdered, others⟩ := ordered
      obtain ⟨node, later, turned, member, ran, soundLater, client, owners⟩ :=
        isReady.dispatches sound isOrdered activeAt nonempty
      obtain ⟨collection, found⟩ := sound.get?_of_mem member
      have owned := Sound.clientAt_of_get? found
      have leads : Checks server outcomes later := by rw [Checks, checked, ran, Option.map_some]
      obtain ⟨clients, goesOn, same⟩ :=
        ih soundLater (sound.activeAt_later member client owners) (rest later leads)
          (others later leads)
      refine ⟨collection.client :: clients, ?_, ?_⟩
      · rw [dispatches, ran]
        simp only [client, owned, goesOn, bind, Option.bind_some]
      · rw [List.map_cons, same, List.length_cons, turns, turned, List.map_cons, owned,
          funext owners]

/-- Checks that all dispatch a client find none idle too early. -/
theorem ordered_of_dispatches {clients : List ClientId} (sound : server.Sound ring)
    (nonempty : ring ≠ []) (ready : Throughout Checks (AllReady ring) server checks)
    (dispatched : server.dispatches checks = some clients) :
    Throughout Checks (fun server outcomes => ¬ server.HeadTooEarly outcomes) server checks := by
  induction checks generalizing server clients with
  | nil => trivial
  | cons outcomes checks ih =>
      obtain ⟨isReady, rest⟩ := ready
      have ordered : ¬ server.HeadTooEarly outcomes := by
        intro early
        obtain ⟨after, ran⟩ := early.drops sound isReady.looks
        rw [dispatches, ran] at dispatched
        contradiction
      obtain ⟨active, activeAt⟩ := sound.activeAt
      obtain ⟨node, later, -, -, ran, soundLater, client, -⟩ :=
        isReady.dispatches sound ordered activeAt nonempty
      rw [dispatches, ran] at dispatched
      dsimp only at dispatched
      obtain ⟨first, -, dispatched⟩ := Option.bind_eq_some_iff.mp dispatched
      obtain ⟨others, goesOn, -⟩ := Option.bind_eq_some_iff.mp dispatched
      have leads : Checks server outcomes later := by rw [Checks, checked, ran, Option.map_some]
      refine ⟨ordered, fun next isNext => ?_⟩
      cases leads.symm.trans isNext
      exact ih soundLater (rest later leads) goesOn

/-- As many checks as clients dispatch each client once exactly if there are at most
two clients and no check finds the first one idle too early. -/
theorem dispatches_perm_iff (sound : server.Sound ring)
    (ready : Throughout Checks (AllReady ring) server checks) (calls : checks.length = ring.length) :
    (∃ clients, server.dispatches checks = some clients ∧
      (clients.map some).Perm (ring.map server.clientAt)) ↔
      ring.length ≤ 2 ∧
        Throughout Checks (fun server outcomes => ¬ server.HeadTooEarly outcomes) server checks := by
  obtain ⟨active, activeAt⟩ := sound.activeAt
  by_cases empty : ring = []
  · subst empty
    have none : checks = [] := List.eq_nil_of_length_eq_zero calls
    subst none
    exact iff_of_true ⟨[], rfl, .refl _⟩ ⟨Nat.zero_le 2, trivial⟩
  · have few := @turns_perm_iff _ ring _ active _ server.clientAt sound.isRing.nodup sound.distinct
    constructor
    · intro ⟨clients, dispatched, perm⟩
      have ordered := ordered_of_dispatches sound empty ready dispatched
      obtain ⟨others, again, same⟩ := dispatches_turns sound activeAt empty ready ordered
      rw [dispatched] at again
      cases again
      rw [same, calls] at perm
      exact ⟨few.mp perm, ordered⟩
    · intro ⟨atMostTwo, ordered⟩
      obtain ⟨clients, dispatched, same⟩ := dispatches_turns sound activeAt empty ready ordered
      refine ⟨clients, dispatched, ?_⟩
      rw [same, calls]
      exact few.mpr atMostTwo

def walk (server : Server) : Option (List CollectionId) :=
  server.clientList.bind fun head => nodesFrom server.next head server.rounds head

theorem Sound.ring_eq {nodes : List CollectionId} (sound : server.Sound ring)
    (walked : server.walk = some nodes) : ring = nodes := by
  unfold walk at walked
  rw [sound.head] at walked
  cases ring with
  | nil => contradiction
  | cons head rest =>
      obtain ⟨nodup, leads⟩ := isRing_cons.mp sound.isRing
      have short : rest.length < server.rounds := Nat.lt_of_succ_lt sound.length_lt_rounds
      have found := nodesFrom_eq leads (List.nodup_cons.mp nodup).1 short
      exact Option.some.inj (found.symm.trans walked)

def crowded : Outcomes := { quiet with ret := 3, readfds := [5, 6, 7], inputBytes := true }

/-- Two clients. -/
theorem dispatches_perm_two :
    ∃ one two ring, ServerStep.run listening (.addClient 5 quiet) = some one ∧
      ServerStep.run one (.addClient 6 quiet) = some two ∧ two.Sound ring ∧ ring.length = 2 ∧
      ((∃ clients, two.dispatches [crowded, crowded] = some clients ∧
        (clients.map some).Perm (ring.map two.clientAt)) ↔ ring.length ≤ 2 ∧
          Throughout Checks (fun server outcomes => ¬ server.HeadTooEarly outcomes) two
            [crowded, crowded]) := by
  have result : ((ServerStep.run listening (.addClient 5 quiet)).bind fun one =>
      (ServerStep.run one (.addClient 6 quiet)).map fun two =>
        (two.walk, checkThroughout checked (AllReady [0, 1]) two [crowded, crowded])) =
      some (some [0, 1], true) := by
    decide +kernel
  obtain ⟨one, ran, result⟩ := Option.bind_eq_some_iff.mp result
  obtain ⟨two, again, values⟩ := Option.map_eq_some_iff.mp result
  simp only [Prod.mk.injEq] at values
  obtain ⟨walked, ready⟩ := values
  have reaches : listening.Reaches two :=
    .tail (.single ⟨.addClient 5 quiet, trivial, ran⟩) ⟨.addClient 6 quiet, trivial, again⟩
  obtain ⟨ring, sound⟩ := (ring_wellFormed listening_new reaches).1
  have isRing := sound.ring_eq walked
  subst isRing
  exact ⟨one, two, _, ran, again, sound, rfl,
    dispatches_perm_iff sound (throughout_of_check ready) rfl⟩

/-- Three clients: the third one is not served. -/
theorem dispatches_three : ¬ ∀ (server : Server) (ring : List CollectionId)
    (checks : List Outcomes), server.Sound ring → Throughout Checks (AllReady ring) server checks →
      checks.length = ring.length →
      ∃ clients, server.dispatches checks = some clients ∧
        (clients.map some).Perm (ring.map server.clientAt) := by
  intro all
  have result : ((ServerStep.run listening (.addClient 5 quiet)).bind fun one =>
      (ServerStep.run one (.addClient 6 quiet)).bind fun two =>
        (ServerStep.run two (.addClient 7 quiet)).map fun three =>
          (three.walk, checkThroughout checked (AllReady [0, 1, 2]) three [crowded, crowded, crowded],
            three.dispatches [crowded, crowded, crowded], [0, 1, 2].map three.clientAt)) =
      some (some [0, 1, 2], true, some [0, 1, 0], [some 0, some 1, some 2]) := by
    decide +kernel
  obtain ⟨one, ran, result⟩ := Option.bind_eq_some_iff.mp result
  obtain ⟨two, again, result⟩ := Option.bind_eq_some_iff.mp result
  obtain ⟨three, last, values⟩ := Option.map_eq_some_iff.mp result
  simp only [Prod.mk.injEq] at values
  obtain ⟨walked, ready, dispatched, owners⟩ := values
  have reaches : listening.Reaches three :=
    .tail (.tail (.single ⟨.addClient 5 quiet, trivial, ran⟩) ⟨.addClient 6 quiet, trivial, again⟩)
      ⟨.addClient 7 quiet, trivial, last⟩
  obtain ⟨ring, sound⟩ := (ring_wellFormed listening_new reaches).1
  have isRing := sound.ring_eq walked
  subst isRing
  obtain ⟨clients, dispatches, perm⟩ := all three _ _ sound (throughout_of_check ready) rfl
  rw [dispatched] at dispatches
  cases dispatches
  rw [owners] at perm
  exact absurd perm (by decide)

end Server

end SynapTCP
