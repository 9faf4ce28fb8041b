import SynapTCP.Server.Accepting
import SynapTCP.Server.Configuration
import SynapTCP.Server.Settings

namespace SynapTCP

open Data

/-! # The number of clients

How many clients are in the list through runs of `setMaximumClient`,
`acceptNewClient`, `eventCheck` and `removeClient`.
-/

namespace Server

variable {server later after : Server} {ring : List CollectionId} {outcomes : Outcomes}

/-- The number of clients in `clientList`, if it is a ring. -/
def clientCount (server : Server) : Option Nat :=
  match server.clientList with
  | none => some 0
  | some head => (nodesFrom server.next head server.rounds head).map List.length

theorem Chained.clientCount (chained : server.Chained ring) :
    server.clientCount = some ring.length := by
  unfold Server.clientCount
  rw [chained.head]
  cases ring with
  | nil => rfl
  | cons head rest =>
      obtain ⟨nodup, leads⟩ := isRing_cons.mp chained.isRing
      have short : rest.length < server.rounds := Nat.lt_of_succ_lt chained.length_lt_rounds
      show (nodesFrom server.next head server.rounds head).map List.length = _
      rw [nodesFrom_eq leads (List.nodup_cons.mp nodup).1 short, Option.map_some]

def WithinMaximum (server : Server) : Prop :=
  ∃ count, server.clientCount = some count ∧ count ≤ server.getMaximumClient

/-- `accept` gives a connection whose client is added. -/
def Takes (server : Server) (outcomes : Outcomes) : Prop :=
  0 < outcomes.connFd ∧ server.Admits outcomes

def HasRoom (server : Server) : Prop :=
  ∃ count, server.clientCount = some count ∧ count < server.getMaximumClient

theorem acceptNewClient_collections {added : Bool} (untaken : ¬ server.Takes outcomes)
    (accepts : server.acceptNewClient outcomes = some (added, after)) :
    after.collections = server.collections := by
  by_cases given : 0 < outcomes.connFd
  · exact acceptNewClient_refuses given (fun admits => untaken ⟨given, admits⟩) accepts
  · unfold acceptNewClient at accepts
    dsimp only at accepts
    rw [if_pos (by omega)] at accepts
    cases accepts
    show (if 0 ≤ outcomes.connFd then _ else server.lock).collections = _
    split <;> rfl

theorem acceptNewClient_count (sound : server.Sound ring) (outcomes : Outcomes) :
    ∃ added after left, server.acceptNewClient outcomes = some (added, after) ∧
      after.Sound left ∧ (server.Takes outcomes → left.length = ring.length + 1) ∧
      (¬ server.Takes outcomes → left = ring) := by
  obtain ⟨added, after, accepts, ends⟩ := acceptNewClient_exists sound outcomes
  have absent : ∀ {left : List CollectionId}, server.Sound left → server.collections.fresh ∉ left := by
    intro left sound member
    obtain ⟨collection, found⟩ := sound.get?_of_mem member
    rw [Arena.get?_fresh] at found
    contradiction
  rcases ends with same | longer
  · refine ⟨added, after, ring, accepts, same, fun takes => ?_, fun _ => rfl⟩
    obtain ⟨later, joins, joined, -⟩ := acceptNewClient_joins takes.1 sound.chained takes.2
    rw [accepts] at joins
    cases joins
    exact absurd (same.mem_of_clientAt joined.here) (absent sound)
  · refine ⟨added, after, _, accepts, longer, fun _ => by simp, fun untaken => ?_⟩
    have collections := acceptNewClient_collections untaken accepts
    obtain ⟨collection, found⟩ := @Sound.get?_of_mem _ _ server.collections.fresh longer (by simp)
    rw [collections, Arena.get?_fresh] at found
    contradiction

/-! ## One step -/

end Server

inductive ClientStep where
  | setMaximumClient (nClient : Int)
  | acceptNewClient (outcomes : Outcomes)
  | eventCheck (outcomes : Outcomes)
  | removeClient (socket : Option ClientId) (outcomes : Outcomes)

namespace ClientStep

variable {server later after : Server} {ring : List CollectionId} {outcomes : Outcomes}
  {step : ClientStep}

def run (server : Server) : ClientStep → Option Server
  | .setMaximumClient nClient => some (server.setMaximumClient nClient).2
  | .acceptNewClient outcomes => (server.acceptNewClient outcomes).map Prod.snd
  | .eventCheck outcomes => (server.eventCheck outcomes).map Prod.snd
  | .removeClient socket outcomes => (server.removeClient socket outcomes).map Prod.snd

/-- The maximum is set before there are clients, and no client is removed that is at
the head of a ring with other nodes. -/
def Spares (server : Server) : ClientStep → Prop
  | .setMaximumClient _ => server.clientList = none
  | .acceptNewClient _ => True
  | .eventCheck outcomes => (ServerStep.eventCheck outcomes).SparesHead server
  | .removeClient socket outcomes => (ServerStep.removeClient socket outcomes).SparesHead server

/-- The step takes a connection whose client is added. -/
def Takes (server : Server) : ClientStep → Prop
  | .acceptNewClient outcomes => server.Takes outcomes
  | .eventCheck outcomes => server.Accepts outcomes ∧ server.Takes outcomes
  | _ => False

/-- The number of clients goes up by one if the step takes a connection, and never
otherwise; the maximum changes only while there are none. -/
theorem run_count (sound : server.Sound ring) (spares : step.Spares server) :
    ∃ after left, step.run server = some after ∧ after.Sound left ∧
      (step.Takes server → left.length = ring.length + 1 ∧ after.maxClient = server.maxClient) ∧
      (¬ step.Takes server → left = [] ∨
        left.length ≤ ring.length ∧ after.maxClient = server.maxClient) := by
  cases step with
  | setMaximumClient nClient =>
      have empty : ring = [] := List.head?_eq_none_iff.mp (sound.head.symm.trans spares)
      have same : Server.SameRing server (server.setMaximumClient nClient).2 := by
        unfold Server.setMaximumClient
        split
        · exact .refl server
        · exact ⟨rfl, rfl, fun _ => rfl, fun _ => rfl⟩
      exact ⟨_, ring, rfl, same.sound sound, fun takes => absurd takes not_false,
        fun _ => .inl empty⟩
  | acceptNewClient outcomes =>
      obtain ⟨added, after, left, accepts, soundAfter, one, none⟩ :=
        Server.acceptNewClient_count sound outcomes
      have maximum := congrArg TCPServer.maxClient (Server.acceptNewClient_config accepts)
      exact ⟨after, left, by rw [run, accepts, Option.map_some], soundAfter,
        fun takes => ⟨one takes, maximum⟩,
        fun untaken => .inr ⟨Nat.le_of_eq (congrArg List.length (none untaken)), maximum⟩⟩
  | eventCheck outcomes =>
      obtain ⟨event, after, checks, ends⟩ := Server.eventCheck_exists sound spares
      have maximum := congrArg TCPServer.maxClient (Server.eventCheck_config checks)
      rcases ends with ⟨unaccepting, left, soundAfter, part⟩ |
        ⟨accepting, waited, added, same, unchanged, -, accepts⟩
      · exact ⟨after, left, by rw [run, checks, Option.map_some], soundAfter,
          fun takes => absurd takes.1 unaccepting, fun _ => .inr
            ⟨List.Nodup.length_le_of_subset soundAfter.isRing.nodup part, maximum⟩⟩
      · have takes : waited.Takes outcomes ↔ server.Takes outcomes := by
          unfold Server.Takes Server.Admits Server.Secures
          rw [unchanged]
        obtain ⟨again, later, left, acceptsToo, soundAfter, one, none⟩ :=
          Server.acceptNewClient_count (same.sound sound) outcomes
        rw [accepts] at acceptsToo
        cases acceptsToo
        exact ⟨after, left, by rw [run, checks, Option.map_some], soundAfter,
          fun took => ⟨one (takes.mpr took.2), maximum⟩,
          fun untaken => .inr ⟨Nat.le_of_eq (congrArg List.length
            (none fun took => untaken ⟨accepting, takes.mp took⟩)), maximum⟩⟩
  | removeClient socket outcomes =>
      obtain ⟨answer, after, removes, left, soundAfter, part⟩ :=
        @Server.removeClient_within server ring socket outcomes sound spares
      have maximum := congrArg TCPServer.maxClient (Server.removeClient_config removes)
      exact ⟨after, left, by rw [run, removes, Option.map_some], soundAfter,
        fun takes => absurd takes not_false, fun _ => .inr
          ⟨List.Nodup.length_le_of_subset soundAfter.isRing.nodup part, maximum⟩⟩

/-- Such a step has an outcome, and exceeds the maximum only by taking a connection
without room. -/
theorem run_within_iff (sound : server.Sound ring) (within : server.WithinMaximum)
    (spares : step.Spares server) :
    ∃ after, step.run server = some after ∧ after.WellFormed ∧
      (after.WithinMaximum ↔ (step.Takes server → server.HasRoom)) := by
  obtain ⟨after, left, ran, soundAfter, one, none⟩ := run_count sound spares
  have count := sound.chained.clientCount
  have countAfter := soundAfter.chained.clientCount
  obtain ⟨number, isNumber, bound⟩ := within
  cases count.symm.trans isNumber
  refine ⟨after, ran, ⟨left, soundAfter⟩, ?_⟩
  by_cases takes : step.Takes server
  · obtain ⟨longer, maximum⟩ := one takes
    unfold Server.WithinMaximum Server.HasRoom Server.getMaximumClient
    rw [maximum, countAfter, count, longer]
    constructor
    · intro bounded _
      obtain ⟨count, isCount, bound⟩ := bounded
      cases isCount
      exact ⟨ring.length, rfl, bound⟩
    · intro room
      obtain ⟨count, isCount, bound⟩ := room takes
      cases isCount
      exact ⟨ring.length + 1, rfl, bound⟩
  · refine iff_of_true ⟨left.length, countAfter, ?_⟩ fun took => absurd took takes
    rcases none takes with empty | ⟨shorter, maximum⟩
    · rw [empty]
      exact Nat.zero_le _
    · unfold Server.getMaximumClient at bound ⊢
      rw [maximum]
      exact Nat.le_trans shorter bound

/-! ## Runs -/

def Goes (server later : Server) : Prop :=
  ∃ step : ClientStep, step.Spares server ∧ (step.Takes server → server.HasRoom) ∧
    step.run server = some later

def Reaches : Server → Server → Prop := Relation.ReflTransGen Goes

theorem Reaches.within (reaches : Reaches server later) (wellFormed : server.WellFormed)
    (within : server.WithinMaximum) : later.WellFormed ∧ later.WithinMaximum := by
  induction reaches with
  | refl => exact ⟨wellFormed, within⟩
  | tail _ goes ih =>
      obtain ⟨step, spares, room, ran⟩ := goes
      obtain ⟨ring, sound⟩ := ih.1
      obtain ⟨after, result, wellFormedAfter, exceeds⟩ := run_within_iff sound ih.2 spares
      rw [ran] at result
      cases result
      exact ⟨wellFormedAfter, exceeds.mpr room⟩

/-- In every state reached by steps that take no connection without room there are no
more clients than the maximum, and there a step keeps it so if and only if it is
such a step. -/
theorem clients_within_maximum (new : server.New) (reaches : Reaches server later) :
    later.WithinMaximum ∧ ∀ step : ClientStep, step.Spares later →
      ∃ after, step.run later = some after ∧
        (after.WithinMaximum ↔ (step.Takes later → later.HasRoom)) := by
  have empty : server.WithinMaximum := by
    refine ⟨0, ?_, Nat.zero_le _⟩
    unfold Server.clientCount
    rw [new.clientList]
  obtain ⟨wellFormed, within⟩ := reaches.within new.wellFormed empty
  obtain ⟨ring, sound⟩ := wellFormed
  refine ⟨within, fun step spares => ?_⟩
  obtain ⟨after, ran, -, exceeds⟩ := run_within_iff sound within spares
  exact ⟨after, ran, exceeds⟩

def serve (server : Server) : List ClientStep → Option Server
  | [] => some server
  | step :: steps => (step.run server).bind fun later => serve later steps

/-- A maximum of one, and one connection. -/
theorem clients_within_maximum_one :
    ∃ one, (ClientStep.acceptNewClient Server.visited).run
        (Server.listening.setMaximumClient 1).2 = some one ∧
      one.WithinMaximum ∧ ∀ step : ClientStep, step.Spares one →
        ∃ after, step.run one = some after ∧
          (after.WithinMaximum ↔ (step.Takes one → one.HasRoom)) := by
  have runs : ((ClientStep.acceptNewClient Server.visited).run
      (Server.listening.setMaximumClient 1).2).isSome = true := by
    decide +kernel
  obtain ⟨one, ran⟩ := Option.isSome_iff_exists.mp runs
  have room : (Server.listening.setMaximumClient 1).2.HasRoom := ⟨0, by decide, by decide⟩
  have reaches : Reaches Server.listening one :=
    .tail (.single ⟨.setMaximumClient 1, rfl, fun takes => absurd takes not_false, rfl⟩)
      ⟨.acceptNewClient Server.visited, trivial, fun _ => room, ran⟩
  exact ⟨one, ran, clients_within_maximum Server.listening_new reaches⟩

/-- A maximum of one, and two connections. -/
theorem clients_exceed_maximum :
    ∃ later, serve Server.listening [.setMaximumClient 1, .acceptNewClient Server.visited,
        .acceptNewClient { Server.visited with connFd := 6 }] = some later ∧
      ¬ later.WithinMaximum := by
  have result : (serve Server.listening [.setMaximumClient 1, .acceptNewClient Server.visited,
      .acceptNewClient { Server.visited with connFd := 6 }]).map
        (fun later => (later.clientCount, later.getMaximumClient)) = some (some 2, 1) := by
    decide +kernel
  obtain ⟨later, served, values⟩ := Option.map_eq_some_iff.mp result
  obtain ⟨counts, maximum⟩ := Prod.mk.inj values
  refine ⟨later, served, ?_⟩
  intro within
  obtain ⟨count, isCount, bound⟩ := within
  rw [counts] at isCount
  cases isCount
  rw [maximum] at bound
  exact absurd bound (by decide)

end ClientStep

end SynapTCP
