import SynapTCP.Client.Exits
import SynapTCP.Socket.Closing
import Mathlib.Logic.Relation

namespace SynapTCP

open Data

/-! # The status of a client

`status` says whether there is a connection, and so do `sockFd`, `sslConn` and
the result of `init`.  Where they agree, over any sequence of `init` and
`closeSocket`.
-/

inductive ConnectionStep where
  | init (outcomes : InitOutcomes)
  | closeSocket

namespace TCPClient

variable {client later : TCPClient} {outcomes : InitOutcomes}

/-- A client that has not been used, with any configuration. -/
structure Unused (client : TCPClient) : Prop where
  sockFd : client.sockFd = -1
  sslConn : client.sslConn = none
  status : client.status = .uninitialized

/-- Between calls. -/
def InStep (client : TCPClient) : Prop := client.status = .connected ↔ 0 < client.sockFd

/-- What a result of `init` says about the object that it leaves. -/
structure Agrees (call : ClientCall Nat) : Prop where
  success : call.result = 0 ↔ 0 < call.client.sockFd ∧ call.client.status = .connected ∧
    (call.client.useSSL = true → call.client.sslConn ≠ none)
  failure : call.result ≠ 0 → call.client.sockFd = -1 ∧ call.client.sslConn = none ∧
    call.client.status = .uninitialized

/-- Where a failing exit leaves fields that it should reset as they were, they
are reset already; names are resolved, and the handshake does not fail. -/
structure Sound (client : TCPClient) (outcomes : InitOutcomes) : Prop where
  noSocket : outcomes.socket ≤ 0 →
    outcomes.socket = -1 ∧ client.sslConn = none ∧ client.status = .uninitialized
  resolves : 0 < outcomes.socket → client.resolve outcomes ≠ none
  noConnection : 0 < outcomes.socket → ¬ outcomes.connecting.Connects client.tvTimeout →
    client.sslConn = none
  noWarper : 0 < outcomes.socket → client.useSSL = true → client.sslWarper = false →
    client.sslConn = none
  handshake : 0 < outcomes.socket → outcomes.connecting.Connects client.tvTimeout →
    client.useSSL = true → client.sslWarper = true → outcomes.createSSL ≠ none →
    outcomes.connectSSL = true

theorem Agrees.inStep {call : ClientCall Nat} (agrees : Agrees call) : call.client.InStep := by
  by_cases succeeded : call.result = 0
  · obtain ⟨opened, connected, -⟩ := agrees.success.mp succeeded
    exact ⟨fun _ => opened, fun _ => connected⟩
  · obtain ⟨closed, -, uninitialized⟩ := agrees.failure succeeded
    unfold InStep
    rw [closed, uninitialized]
    simp

theorem agrees_of_failed {call : ClientCall Nat} (failed : call.result ≠ 0) :
    Agrees call ↔ call.client.sockFd = -1 ∧ call.client.sslConn = none ∧
      call.client.status = .uninitialized := by
  constructor
  · intro agrees
    exact agrees.failure failed
  · intro reset
    refine ⟨⟨fun succeeded => absurd succeeded failed, fun connected => ?_⟩, fun _ => reset⟩
    have opened := connected.1
    rw [reset.1] at opened
    contradiction

theorem agrees_of_succeeded {call : ClientCall Nat} (succeeded : call.result = 0) :
    Agrees call ↔ 0 < call.client.sockFd ∧ call.client.status = .connected ∧
      (call.client.useSSL = true → call.client.sslConn ≠ none) := by
  constructor
  · intro agrees
    exact agrees.success.mp succeeded
  · intro connected
    exact ⟨⟨fun _ => connected, fun _ => succeeded⟩, fun failed => absurd succeeded failed⟩

theorem secured_agrees_iff {opened : TCPClient} {acts : List (Act (Resource Unit))}
    {call : ClientCall Nat} (exit : SecureExit opened outcomes acts call)
    (opens : 0 < opened.sockFd) :
    Agrees call ↔ (opened.sslWarper = false → opened.sslConn = none) ∧
      (opened.sslWarper = true → outcomes.createSSL ≠ none → outcomes.connectSSL = true) := by
  cases exit with
  | noWarper missing =>
      have failed : (opened.fail 9 acts).result ≠ 0 := Nat.succ_ne_zero 8
      rw [agrees_of_failed failed]
      constructor
      · intro reset
        exact ⟨fun _ => reset.2.1, fun warper => by rw [missing] at warper; contradiction⟩
      · intro sound
        exact ⟨rfl, sound.1 missing, rfl⟩
  | noObject warper missing =>
      have failed : ({ opened with sslConn := none }.fail 9 acts).result ≠ 0 := Nat.succ_ne_zero 8
      rw [agrees_of_failed failed]
      constructor
      · intro _
        exact ⟨fun unset => by rw [warper] at unset; contradiction,
          fun _ created => absurd missing created⟩
      · intro _
        exact ⟨rfl, rfl, rfl⟩
  | noHandshake warper created fails =>
      -- the result is 0 although the descriptor is closed
      constructor
      · intro agrees
        have impossible := (agrees.success.mp rfl).1
        contradiction
      · intro sound
        have succeeds := sound.2 warper (by rw [created]; exact Option.some_ne_none _)
        rw [fails] at succeeds
        contradiction
  | @handshake warper ssl created succeeds =>
      constructor
      · intro _
        exact ⟨fun unset => by rw [warper] at unset; contradiction, fun _ _ => succeeds⟩
      · intro _
        have result : Agrees ({ opened with sslConn := some ssl }.succeed
            (acts ++ [Act.acquire (Resource.connection ssl)])) ↔ _ := agrees_of_succeeded rfl
        exact result.mpr ⟨opens, rfl, fun _ => Option.some_ne_none ssl⟩

theorem init_agrees_iff : Agrees (client.init outcomes) ↔ client.Sound outcomes := by
  have exits := @init_exits client outcomes
  generalize client.init outcomes = call at exits
  cases exits with
  | noSocket failed =>
      have closed : ¬ 0 < outcomes.socket := by omega
      constructor
      · intro agrees
        exact ⟨fun _ => agrees.failure (Nat.succ_ne_zero 1), fun opens => absurd opens closed,
          fun opens => absurd opens closed, fun opens => absurd opens closed,
          fun opens => absurd opens closed⟩
      · intro sound
        exact (agrees_of_failed (Nat.succ_ne_zero 1)).mpr (sound.noSocket failed)
  | noHost opens unresolved =>
      -- the closed descriptor stays in `sockFd`
      constructor
      · intro agrees
        have reset : outcomes.socket = -1 := (agrees.failure (Nat.succ_ne_zero 2)).1
        omega
      · intro sound
        exact absurd unresolved (sound.resolves opens)
  | @unconnected opens host left resolved fails =>
      have failed : ((client.dialed outcomes.socket host left).fail 8 (started outcomes)).result ≠ 0 :=
        Nat.succ_ne_zero 7
      rw [agrees_of_failed failed]
      constructor
      · intro reset
        exact ⟨fun closed => by omega, fun _ => by rw [resolved]; exact Option.some_ne_none host,
          fun _ _ => reset.2.1, fun _ _ _ => reset.2.1, fun _ connects => absurd connects fails⟩
      · intro sound
        exact ⟨rfl, sound.noConnection opens fails, rfl⟩
  | @plain opens host left resolved connects withoutSSL =>
      have result : Agrees ((client.dialed outcomes.socket host left).succeed (started outcomes)) ↔ _ :=
        agrees_of_succeeded rfl
      have noSSL : ¬ client.useSSL = true := by
        rw [withoutSSL]
        exact Bool.noConfusion
      constructor
      · intro _
        exact ⟨fun closed => by omega, fun _ => by rw [resolved]; exact Option.some_ne_none host,
          fun _ fails => absurd connects fails, fun _ withSSL => absurd withSSL noSSL,
          fun _ _ withSSL => absurd withSSL noSSL⟩
      · intro _
        exact result.mpr ⟨opens, rfl, fun withSSL => absurd withSSL noSSL⟩
  | @secured opens host left resolved connects withSSL _ exit =>
      rw [secured_agrees_iff exit opens]
      constructor
      · intro sound
        exact ⟨fun closed => by omega, fun _ => by rw [resolved]; exact Option.some_ne_none host,
          fun _ fails => absurd connects fails, fun _ _ => sound.1, fun _ _ _ => sound.2⟩
      · intro sound
        exact ⟨sound.noWarper opens withSSL, sound.handshake opens connects withSSL⟩

end TCPClient

namespace ConnectionStep

/-- The object behind the step; `close` succeeds. -/
def run (client : TCPClient) : ConnectionStep → TCPClient
  | .init outcomes => (client.init outcomes).client
  | .closeSocket => (client.onSocket (client.closeSocket true true)).client

/-- The status is right behind the step, and so is the result of an `init`. -/
def Meets (client : TCPClient) (step : ConnectionStep) : Prop :=
  (step.run client).InStep ∧ ∀ outcomes, step = .init outcomes → TCPClient.Agrees (client.init outcomes)

/-- `closeSocket` knows nothing of the status, so it may only find a closed port. -/
def Spares (client : TCPClient) : ConnectionStep → Prop
  | .init outcomes => client.Sound outcomes
  | .closeSocket => client.sockFd ≤ 0

end ConnectionStep

namespace TCPClient

variable {client later : TCPClient}

theorem closeSocket_sockFd :
    (ConnectionStep.closeSocket.run client).sockFd = client.closed.sockFd :=
  congrArg Socket.sockFd Socket.closeSocket_socket

theorem meets_iff {step : ConnectionStep} (inStep : client.InStep) :
    step.Meets client ↔ step.Spares client := by
  cases step with
  | init outcomes =>
      constructor
      · intro meets
        exact init_agrees_iff.mp (meets.2 outcomes rfl)
      · intro sound
        have agrees := init_agrees_iff.mpr sound
        refine ⟨agrees.inStep, fun others same => ?_⟩
        cases same
        exact agrees
  | closeSocket =>
      have inStepAfter : (ConnectionStep.closeSocket.run client).InStep ↔
          (client.status = .connected ↔ 0 < client.closed.sockFd) := by
        rw [← closeSocket_sockFd]
        exact Iff.rfl
      constructor
      · intro meets
        by_contra opened
        have connected := inStep.mpr (Int.lt_of_not_ge opened)
        exact Socket.closed_sockFd_not_pos ((inStepAfter.mp meets.1).mp connected)
      · intro closed
        refine ⟨inStepAfter.mpr ?_, fun outcomes isInit => by contradiction⟩
        rw [Socket.closed_of_closed (Int.not_lt.mpr closed)]
        exact inStep

def Goes (client later : TCPClient) : Prop :=
  ∃ step : ConnectionStep, step.Spares client ∧ step.run client = later

def Reaches : TCPClient → TCPClient → Prop := Relation.ReflTransGen Goes

theorem Unused.inStep (unused : client.Unused) : client.InStep := by
  unfold InStep
  rw [unused.status, unused.sockFd]
  simp

theorem Reaches.inStep (reaches : client.Reaches later) (inStep : client.InStep) : later.InStep := by
  induction reaches with
  | refl => exact inStep
  | tail _ goes ih =>
      obtain ⟨step, spares, ran⟩ := goes
      have meets := (meets_iff ih).mpr spares
      rw [← ran]
      exact meets.1

/-- In every run of steps that spare the object the status agrees with the
descriptor, and there a step does what it should exactly if it spares the object. -/
theorem status_agrees (unused : client.Unused) (reaches : client.Reaches later) :
    later.InStep ∧ ∀ step : ConnectionStep, step.Meets later ↔ step.Spares later := by
  have inStep := reaches.inStep unused.inStep
  exact ⟨inStep, fun _ => meets_iff inStep⟩

/-- After a refused connection the next one is made, with an SSL object. -/
theorem status_agrees_second : ∃ later : TCPClient, later.sslConn = some 7 ∧ later.InStep ∧
    ∀ step : ConnectionStep, step.Meets later ↔ step.Spares later := by
  have refused : prepared.Sound ⟨3, none, refusing, none, false⟩ := by
    apply init_agrees_iff.mp
    exact ⟨by decide, by decide⟩
  have secured : (prepared.init ⟨3, none, refusing, none, false⟩).client.Sound
      ⟨3, none, answering, some 7, true⟩ := by
    apply init_agrees_iff.mp
    exact ⟨by decide, by decide⟩
  have reaches : prepared.Reaches _ :=
    .tail (.tail .refl ⟨.init _, refused, rfl⟩) ⟨.init _, secured, rfl⟩
  exact ⟨_, by decide, status_agrees ⟨rfl, rfl, rfl⟩ reaches⟩

/-- A handshake that fails is reported as success, without a connection. -/
theorem init_status_disagrees :
    (prepared.init ⟨3, none, answering, some 7, false⟩).result = 0 ∧
      (prepared.init ⟨3, none, answering, some 7, false⟩).client.sockFd = -1 ∧
      prepared.Unused ∧ ¬ (ConnectionStep.init ⟨3, none, answering, some 7, false⟩).Meets prepared := by
  refine ⟨by decide, by decide, ⟨rfl, rfl, rfl⟩, fun meets => ?_⟩
  have opened := ((meets.2 _ rfl).success.mp (by decide)).1
  exact absurd opened (by decide)

end TCPClient

end SynapTCP
