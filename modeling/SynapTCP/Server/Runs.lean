import SynapTCP.Server.Checks
import Mathlib.Logic.Relation

namespace SynapTCP

open Data

/-! # Runs of the ring operations

Any sequence of `addClient`, `removeClient` and `eventCheck` from a new server.
What a handler does to the server while it is called by `eventCheck` comes after
everything else in that call, so it is the next part of the sequence.
-/

inductive ServerStep where
  | addClient (connFd : Int) (outcomes : Outcomes)
  | removeClient (socket : Option ClientId) (outcomes : Outcomes)
  | eventCheck (outcomes : Outcomes)

namespace ServerStep

def run (server : Server) : ServerStep → Option Server
  | .addClient connFd outcomes => (server.addClient connFd outcomes).map Prod.snd
  | .removeClient socket outcomes => (server.removeClient socket outcomes).map Prod.snd
  | .eventCheck outcomes => (server.eventCheck outcomes).map Prod.snd

/-- The step does not remove the client of the head of a ring with other nodes. -/
def SparesHead (server : Server) : ServerStep → Prop
  | .addClient _ _ => True
  | .removeClient socket _ => ∀ client, socket = some client → ¬ server.DropsHead client
  | .eventCheck outcomes =>
      ∀ client, server.dropped outcomes = some client → ¬ server.DropsHead client

end ServerStep

namespace Server

variable {server later : Server}

/-- A server as its constructors leave it, with any configuration. -/
structure New (server : Server) : Prop where
  clientList : server.clientList = none
  client : server.client = none
  collections : server.collections = Arena.empty
  clients : server.clients = Arena.empty

theorem New.wellFormed (new : server.New) : server.WellFormed := by
  refine ⟨[], ?_, new.clientList, ?_, ?_, ?_, ?_⟩
  · exact IsRing.nil
  · intro node
    rw [new.collections]
    simp
  · intro node member
    contradiction
  · intro client
    rw [new.clients]
    simp
  · intro client isActive
    rw [new.client] at isActive
    contradiction

def Goes (server later : Server) : Prop :=
  ∃ step : ServerStep, step.SparesHead server ∧ step.run server = some later

def Reaches : Server → Server → Prop := Relation.ReflTransGen Goes

theorem removeClient_absent {ring : List CollectionId} {socket : Option ClientId}
    {outcomes : Outcomes} (sound : server.Sound ring)
    (absent : ∀ client, socket = some client → ∀ node, server.clientAt node ≠ some client) :
    ∃ answer, server.removeClient socket outcomes = some (answer, server) := by
  cases socket with
  | none =>
      refine ⟨true, ?_⟩
      unfold removeClient
      cases server.clientList with
      | none => rfl
      | some head => rfl
  | some client =>
      by_cases empty : server.clientList = none
      · refine ⟨true, ?_⟩
        unfold removeClient
        rw [empty]
      · exact ⟨false, misses sound empty (absent client rfl)⟩

theorem removeClient_within {ring : List CollectionId} {socket : Option ClientId}
    {outcomes : Outcomes} (sound : server.Sound ring)
    (spares : ∀ client, socket = some client → ¬ server.DropsHead client) :
    ∃ answer after, server.removeClient socket outcomes = some (answer, after) ∧
      after.Within ring := by
  by_cases owned : ∃ client node, socket = some client ∧ server.clientAt node = some client
  · obtain ⟨client, node, isClient, owned⟩ := owned
    subst isClient
    obtain ⟨after, removes, removed, wellFormed⟩ :=
      @removes_of_not_head server ring client outcomes sound (spares client rfl) node owned
    exact ⟨true, after, removes, sound.within_of_removed removed wellFormed⟩
  · obtain ⟨answer, same⟩ := @removeClient_absent server ring socket outcomes sound
      fun client isClient node owns => owned ⟨client, node, isClient, owns⟩
    exact ⟨answer, server, same, sound.within⟩

/-- In a well-formed server such a step has an outcome, and a well-formed one. -/
theorem after_step {step : ServerStep} (wellFormed : server.WellFormed) (spares : step.SparesHead server) :
    ∃ later, step.run server = some later ∧ later.WellFormed := by
  obtain ⟨ring, sound⟩ := wellFormed
  cases step with
  | addClient connFd outcomes =>
      obtain ⟨added, after, adds, result⟩ := addClient_adds sound connFd outcomes
      refine ⟨after, by rw [ServerStep.run, adds, Option.map_some], ?_⟩
      cases added with
      | false => exact ⟨ring, result.same.sound sound⟩
      | true => exact ⟨_, result.2⟩
  | removeClient socket outcomes =>
      obtain ⟨answer, after, removes, left, soundAfter, -⟩ :=
        @removeClient_within server ring socket outcomes sound spares
      exact ⟨after, by rw [ServerStep.run, removes, Option.map_some], left, soundAfter⟩
  | eventCheck outcomes =>
      obtain ⟨event, after, checks, wellFormed⟩ := eventCheck_wellFormed sound spares
      exact ⟨after, by rw [ServerStep.run, checks, Option.map_some], wellFormed⟩

theorem Reaches.wellFormed (reaches : server.Reaches later) (wellFormed : server.WellFormed) :
    later.WellFormed := by
  induction reaches with
  | refl => exact wellFormed
  | tail _ goes ih =>
      obtain ⟨step, spares, ran⟩ := goes
      obtain ⟨after, result, wellFormedAfter⟩ := after_step ih spares
      rw [ran] at result
      cases result
      exact wellFormedAfter

/-- In every state reached by steps that spare the head of a longer ring, the
client list is well formed, a removal does what it should for exactly the clients
that are not such a head, and every such step has an outcome. -/
theorem ring_wellFormed (new : server.New) (reaches : server.Reaches later) :
    later.WellFormed ∧
      (∀ client outcomes, (later.Removes client outcomes ↔ ¬ later.DropsHead client) ∧
        later.Misses client outcomes) ∧
      ∀ step : ServerStep, step.SparesHead later → ∃ after, step.run later = some after := by
  have wellFormed := reaches.wellFormed new.wellFormed
  refine ⟨wellFormed, fun client outcomes => ?_, fun step spares => ?_⟩
  · obtain ⟨ring, sound⟩ := wellFormed
    exact ⟨removes_iff sound, misses sound⟩
  · obtain ⟨after, ran, -⟩ := after_step wellFormed spares
    exact ⟨after, ran⟩

def serve (server : Server) : List ServerStep → Option Server
  | [] => some server
  | step :: steps => (step.run server).bind fun later => later.serve steps

def listening : Server :=
  { Socket.new with
    sockFd := 3
    receptionHandlerAsThread := false
    maxClient := 10
    client := none
    clientList := none
    conReqCallbackFunction := none
    conReqCallbackParam := 0
    receptionCallbackFunction := none
    receptionCallbackParam := 0
    sslWarper := false
    collections := Arena.empty
    clients := Arena.empty
    log := [] }

theorem listening_new : listening.New := ⟨rfl, rfl, rfl, rfl⟩

/-- Nothing is ready, and no time has gone by. -/
def quiet : Outcomes where
  connFd := -1
  peer := ⟨0, [0, 0, 0, 0]⟩
  createSSL := none
  acceptSSL := false
  closes := true
  again := true
  ret := 0
  readfds := []
  created := ⟨0, 0⟩
  tv := ⟨0, 0⟩
  active := ⟨0, 0⟩
  inputBytes := false
  pipe := none
  thread := none

/-- The server with one client, and with two. -/
theorem ring_wellFormed_two :
    ∃ one two, ServerStep.run listening (.addClient 5 quiet) = some one ∧
      ServerStep.run one (.addClient 6 quiet) = some two ∧ two.WellFormed ∧
      (∀ client outcomes, (two.Removes client outcomes ↔ ¬ two.DropsHead client) ∧
        two.Misses client outcomes) ∧
      ∀ step : ServerStep, step.SparesHead two → ∃ after, step.run two = some after := by
  have runs : (listening.serve [.addClient 5 quiet, .addClient 6 quiet]).isSome = true := by
    decide +kernel
  obtain ⟨two, served⟩ := Option.isSome_iff_exists.mp runs
  obtain ⟨one, first, more⟩ := Option.bind_eq_some_iff.mp served
  obtain ⟨other, second, last⟩ := Option.bind_eq_some_iff.mp more
  cases last
  have reaches : listening.Reaches two :=
    .tail (.single ⟨.addClient 5 quiet, trivial, first⟩) ⟨.addClient 6 quiet, trivial, second⟩
  exact ⟨one, two, first, second, ring_wellFormed listening_new reaches⟩

/-- Two clients, and the first of them is removed: the node that is left points to
the one that is gone. -/
theorem removeClient_breaks_ring :
    ∃ later, listening.serve [.addClient 5 quiet, .addClient 6 quiet,
        .removeClient (some 0) quiet] = some later ∧ ¬ later.WellFormed := by
  have result : (listening.serve [.addClient 5 quiet, .addClient 6 quiet,
      .removeClient (some 0) quiet]).map
        (fun later => (later.next 1, later.collections.get? 0)) = some (some 0, none) := by
    decide +kernel
  obtain ⟨later, served, values⟩ := Option.map_eq_some_iff.mp result
  obtain ⟨linked, gone⟩ := Prod.mk.inj values
  refine ⟨later, served, ?_⟩
  intro wellFormed
  obtain ⟨ring, sound⟩ := wellFormed
  have live : ∃ collection, later.collections.get? 1 = some collection := by
    obtain ⟨collection, found, -⟩ := Option.bind_eq_some_iff.mp linked
    exact ⟨collection, found⟩
  obtain ⟨behind, inRing, linkedBehind⟩ := sound.isRing.next_mem ((sound.live 1).mpr live)
  rw [linked] at linkedBehind
  rw [← Option.some.inj linkedBehind] at inRing
  obtain ⟨collection, found⟩ := (sound.live 0).mp inRing
  rw [gone] at found
  contradiction

end Server

end SynapTCP
