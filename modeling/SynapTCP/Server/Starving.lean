import SynapTCP.Server.Rotation

namespace SynapTCP

open Data

/-! # Clients that are never served

Two clients at the front of the ring that always have bytes waiting keep all others from
being served, whatever those do.
-/

namespace Server

variable {server : Server} {outcomes : Outcomes} {head second : CollectionId}
  {rest : List CollectionId} {checks : List Outcomes} {active : Option CollectionId}

/-- No peer asks for a connection, the first two clients are readable with bytes waiting,
the head has not exceeded its timeout and is not found idle too early, and the handler is
called without a thread. -/
structure BusyFront (head second : CollectionId) (server : Server) (outcomes : Outcomes) :
    Prop where
  looks : server.Looks outcomes
  first : server.InTime outcomes head
  second : (server.sight outcomes second).readable = true
  ordered : ¬ server.HeadTooEarly outcomes
  bytes : outcomes.inputBytes = true
  synchronous : server.receptionHandlerAsThread = false

instance (server : Server) (outcomes : Outcomes) :
    Decidable (BusyFront head second server outcomes) :=
  decidable_of_iff (server.Looks outcomes ∧ server.InTime outcomes head ∧
    (server.sight outcomes second).readable = true ∧ ¬ server.HeadTooEarly outcomes ∧
    outcomes.inputBytes = true ∧ server.receptionHandlerAsThread = false)
    ⟨fun all => ⟨all.1, all.2.1, all.2.2.1, all.2.2.2.1, all.2.2.2.2.1, all.2.2.2.2.2⟩,
      fun busy => ⟨busy.looks, busy.first, busy.second, busy.ordered, busy.bytes,
        busy.synchronous⟩⟩

/-- A check dispatches the head, or the second client behind an active head. -/
theorem BusyFront.dispatches (busy : BusyFront head second server outcomes)
    (sound : server.Sound (head :: second :: rest))
    (activeAt : server.ActiveAt (head :: second :: rest) active) :
    ∃ later, server.eventCheck outcomes = some (.bytesAvailable, later) ∧
      later.Sound (head :: second :: rest) ∧
      later.client = server.clientAt (if active = some head then second else head) ∧
      ∀ i, later.clientAt i = server.clientAt i := by
  have atHead := @Sound.sight_active _ outcomes _ head _ sound activeAt (.head _)
  obtain ⟨node, turned, serves⟩ : ∃ i, turn active (head :: second :: rest) = some i ∧
      chooseFrom (server.sight outcomes) none (head :: second :: rest) = .serve i := by
    refine chooseFrom_turn busy.first.readable atHead (busy.first.fresh sound.head busy.ordered)
      fun other behind isActive => ?_
    cases behind
    refine ⟨?_, busy.second⟩
    rw [← Bool.not_eq_true, sound.sight_active activeAt (.tail _ (.head _))]
    intro isSecond
    rw [atHead, isSecond] at isActive
    cases isActive
    exact (List.nodup_cons.mp sound.isRing.nodup).1 (.head _)
  obtain ⟨later, ran, soundLater, client, owners⟩ :=
    serve_dispatches sound busy.looks serves busy.bytes busy.synchronous
  refine ⟨later, ran, soundLater, ?_, owners⟩
  have isNode : node = if active = some head then second else head := by
    rw [turn] at turned
    split at turned
    · rename_i isHead
      rw [if_pos isHead]
      exact (Option.some.inj turned).symm
    · rename_i other
      rw [if_neg other]
      exact (Option.some.inj turned).symm
  rw [client, isNode]

/-- A list of checks dispatches only the first two clients, and never one of them twice
in a row. -/
theorem BusyFront.turns (sound : server.Sound (head :: second :: rest))
    (activeAt : server.ActiveAt (head :: second :: rest) active)
    (busy : Throughout Checks (BusyFront head second) server checks) :
    ∃ clients, server.dispatches checks = some clients ∧ clients.length = checks.length ∧
      (∀ client ∈ clients.head?, server.client ≠ some client) ∧ clients.IsChain (· ≠ ·) ∧
      ∀ client ∈ clients, server.clientAt head = some client ∨ server.clientAt second = some client := by
  induction checks generalizing server active with
  | nil => exact ⟨[], rfl, rfl, by simp, .nil, by simp⟩
  | cons outcomes checks ih =>
      obtain ⟨isBusy, others⟩ := busy
      obtain ⟨later, ran, soundLater, client, owners⟩ := isBusy.dispatches sound activeAt
      generalize chosen : (if active = some head then second else head) = node at client
      have front : node = head ∨ node = second := by grind
      have member : node ∈ head :: second :: rest := by grind
      have inactive : server.client ≠ server.clientAt node := by
        intro same
        have isActive := (activeAt node member).mpr same
        have apart := (List.nodup_cons.mp sound.isRing.nodup).1
        grind
      obtain ⟨collection, found⟩ := sound.get?_of_mem member
      have owned := Sound.clientAt_of_get? found
      obtain ⟨clients, goesOn, length, first, chain, fronts⟩ :=
        ih soundLater (sound.activeAt_later member client owners)
          (others later (by rw [Checks, checked, ran, Option.map_some]))
      rw [owned] at client inactive
      refine ⟨collection.client :: clients, ?_, by simp [length], ?_, ?_, ?_⟩
      · rw [Server.dispatches, ran]
        simp only [client, goesOn, bind, Option.bind_some]
      · intro other isFirst
        cases Option.some.inj isFirst
        exact inactive
      · rw [List.isChain_cons]
        refine ⟨fun other isNext => ?_, chain⟩
        intro same
        exact first other isNext (same ▸ client)
      · rw [List.forall_mem_cons]
        constructor
        · rcases front with isHead | isSecond
          · exact .inl (isHead ▸ owned)
          · exact .inr (isSecond ▸ owned)
        · intro other served
          rw [← owners, ← owners]
          exact fronts other served

/-- While the first two clients have bytes waiting the checks go back and forth between
them, and a client behind them is never dispatched. -/
theorem dispatches_front (sound : server.Sound (head :: second :: rest))
    (busy : Throughout Checks (BusyFront head second) server checks) :
    ∃ clients, server.dispatches checks = some clients ∧ clients.length = checks.length ∧
      clients.IsChain (· ≠ ·) ∧
      (∀ client ∈ clients,
        server.clientAt head = some client ∨ server.clientAt second = some client) ∧
      ∀ node ∈ rest, ∀ client ∈ clients, server.clientAt node ≠ some client := by
  obtain ⟨active, activeAt⟩ := sound.activeAt
  obtain ⟨clients, dispatched, length, -, chain, fronts⟩ := BusyFront.turns sound activeAt busy
  refine ⟨clients, dispatched, length, chain, fronts, ?_⟩
  intro node member client served same
  obtain ⟨headFresh, nodup⟩ := List.nodup_cons.mp sound.isRing.nodup
  have behind : node ∈ head :: second :: rest := .tail _ (.tail _ member)
  rcases fronts client served with isHead | isSecond
  · have isNode := sound.distinct head (.head _) node behind (isHead.trans same.symm)
    exact headFresh (isNode ▸ .tail _ member)
  · have isNode := sound.distinct second (.tail _ (.head _)) node behind (isSecond.trans same.symm)
    exact (List.nodup_cons.mp nodup).1 (isNode ▸ member)

/-- The first two of three clients have bytes waiting. -/
def busyPair : Outcomes := { quiet with ret := 2, readfds := [5, 6], inputBytes := true }

/-- Three clients, of which the third one is not dispatched in four checks. -/
theorem dispatches_front_three :
    ∃ server : Server, server.Sound [0, 1, 2] ∧ server.clientAt 2 = some 2 ∧
      ∃ clients, server.dispatches [busyPair, busyPair, busyPair, busyPair] = some clients ∧
        clients.length = 4 ∧ clients.IsChain (· ≠ ·) ∧
        (∀ client ∈ clients, server.clientAt 0 = some client ∨ server.clientAt 1 = some client) ∧
        ∀ node ∈ [2], ∀ client ∈ clients, server.clientAt node ≠ some client := by
  have result : ((ServerStep.run listening (.addClient 5 quiet)).bind fun one =>
      (ServerStep.run one (.addClient 6 quiet)).bind fun two =>
        (ServerStep.run two (.addClient 7 quiet)).map fun three =>
          (three.walk, checkThroughout checked (BusyFront 0 1) three
            [busyPair, busyPair, busyPair, busyPair], three.clientAt 2)) =
      some (some [0, 1, 2], true, some 2) := by
    decide +kernel
  obtain ⟨one, ran, result⟩ := Option.bind_eq_some_iff.mp result
  obtain ⟨two, again, result⟩ := Option.bind_eq_some_iff.mp result
  obtain ⟨three, last, values⟩ := Option.map_eq_some_iff.mp result
  simp only [Prod.mk.injEq] at values
  obtain ⟨walked, busy, third⟩ := values
  have reaches : listening.Reaches three :=
    .tail (.tail (.single ⟨.addClient 5 quiet, trivial, ran⟩) ⟨.addClient 6 quiet, trivial, again⟩)
      ⟨.addClient 7 quiet, trivial, last⟩
  obtain ⟨ring, sound⟩ := (ring_wellFormed listening_new reaches).1
  have isRing := sound.ring_eq walked
  subst isRing
  exact ⟨three, sound, third, dispatches_front sound (throughout_of_check busy)⟩

end Server

end SynapTCP
