import SynapTCP.Client.Exits
import SynapTCP.Data.Throughout
import SynapTCP.Socket.Closing

namespace SynapTCP

open Data

/-! # The timeout of a client

`tvTimeout` is what `setTimeout` configures, what `connectToServer` gives to `select`
to write the rest into, and what decides how the next `init` connects.
-/

/-- `struct timeval` for a time in milliseconds. -/
def TimeVal.ofMilliseconds (milliseconds : Int) : TimeVal :=
  ⟨milliseconds / 1000, milliseconds % 1000 * 1000⟩

def TimeVal.Positive (time : TimeVal) : Prop := 0 < time.sec ∨ 0 < time.usec

instance (time : TimeVal) : Decidable time.Positive :=
  inferInstanceAs (Decidable (_ ∨ _))

namespace Socket

variable {socket : Socket}

def getTimeout (socket : Socket) : TimeVal := socket.tvTimeout

/-- Both branches of `setTimeout` store the same time. -/
theorem setTimeout_getTimeout (milliseconds : Int) :
    (socket.setTimeout milliseconds).socket.getTimeout =
      if (socket.setTimeout milliseconds).result then TimeVal.ofMilliseconds milliseconds
      else socket.getTimeout := by
  unfold setTimeout
  by_cases negative : milliseconds < 0
  · rw [if_pos negative]
    rfl
  · rw [if_neg negative]
    by_cases short : milliseconds < 1000
    · have seconds : milliseconds / 1000 = 0 := by omega
      have rest : milliseconds % 1000 = milliseconds := by omega
      rw [if_pos short]
      simp [guarded, getTimeout, TimeVal.ofMilliseconds, seconds, rest]
    · rw [if_neg short]
      rfl

theorem setTimeoutParts_getTimeout (seconds milliseconds : Int) :
    (socket.setTimeoutParts seconds milliseconds).socket.getTimeout =
      if (socket.setTimeoutParts seconds milliseconds).result then ⟨seconds, milliseconds * 1000⟩
      else socket.getTimeout := by
  unfold setTimeoutParts
  split <;> rfl

theorem closeSocket_getTimeout (closes again : Bool) :
    (socket.closeSocket closes again).socket.getTimeout = socket.getTimeout := by
  obtain ⟨sockFd, sslConn, same⟩ := @closeSocket_frame socket closes again
  rw [same]
  rfl

end Socket

namespace TCPClient

variable {client : TCPClient} {outcomes : InitOutcomes}

/-- `init` gets to `connectToServer`. -/
def Dials (client : TCPClient) (outcomes : InitOutcomes) : Prop :=
  0 < outcomes.socket ∧ client.resolve outcomes ≠ none

def Retries (client : TCPClient) (outcomes : InitOutcomes) : Prop :=
  client.Dials outcomes ∧ ¬ client.tvTimeout.Positive

def Waits (client : TCPClient) (outcomes : InitOutcomes) : Prop :=
  client.Dials outcomes ∧ client.tvTimeout.Positive ∧
    outcomes.connecting.getFlags = true ∧ outcomes.connecting.setFlags = true ∧
    outcomes.connecting.connect = false ∧ outcomes.connecting.inProgress = true

instance : Decidable (client.Dials outcomes) := inferInstanceAs (Decidable (_ ∧ _))

instance : Decidable (client.Waits outcomes) := inferInstanceAs (Decidable (_ ∧ _))

theorem connectToServer_tvTimeout (outcomes : ConnectOutcomes) :
    (client.connectToServer outcomes).2.tvTimeout =
      if client.tvTimeout.Positive ∧ outcomes.getFlags = true ∧ outcomes.setFlags = true ∧
        outcomes.connect = false ∧ outcomes.inProgress = true then outcomes.left
      else client.tvTimeout := by
  unfold connectToServer
  by_cases timed : client.tvTimeout.Positive
  · have branch : 0 < client.tvTimeout.sec ∨ 0 < client.tvTimeout.usec := timed
    rw [if_pos branch]
    cases outcomes.getFlags with
    | false => simp
    | true =>
        cases outcomes.setFlags with
        | false => simp
        | true =>
            by_cases waits : outcomes.connect = false ∧ outcomes.inProgress = true
            · simp only [timed, waits, and_self, if_true, Bool.true_eq_false, if_false,
                apply_ite Prod.snd, ite_self]
            · simp only [waits, and_false, if_false, Bool.true_eq_false, apply_ite Prod.snd,
                ite_self]
  · have branch : ¬ (0 < client.tvTimeout.sec ∨ 0 < client.tvTimeout.usec) := timed
    rw [if_neg branch, if_neg fun waits => timed waits.1]

theorem initSSL_tvTimeout {acts : List (Act (Resource Unit))} :
    (client.initSSL outcomes acts).client.tvTimeout = client.tvTimeout := by
  have exits := @initSSL_exits client outcomes acts
  generalize client.initSSL outcomes acts = call at exits
  cases exits <;> rfl

theorem init_of_not_dials (notDials : ¬ client.Dials outcomes) :
    (client.init outcomes).client.getTimeout = client.getTimeout := by
  have exits := @init_exits client outcomes
  generalize client.init outcomes = call at exits
  have dials (opens : 0 < outcomes.socket) {host : List UInt8}
      (resolved : client.resolve outcomes = some host) : client.Dials outcomes :=
    ⟨opens, by rw [resolved]; exact Option.some_ne_none host⟩
  cases exits with
  | noSocket _ => rfl
  | noHost _ _ => rfl
  | unconnected opens _ resolved _ => exact absurd (dials opens resolved) notDials
  | plain opens _ resolved _ _ => exact absurd (dials opens resolved) notDials
  | secured opens _ resolved _ _ _ => exact absurd (dials opens resolved) notDials

theorem init_of_dials (dials : client.Dials outcomes) :
    ∃ hosted : TCPClient, hosted.tvTimeout = client.tvTimeout ∧
      (client.init outcomes).client.getTimeout =
        (hosted.connectToServer outcomes.connecting).2.tvTimeout := by
  obtain ⟨opens, resolves⟩ := dials
  obtain ⟨host, resolved⟩ := Option.ne_none_iff_exists'.mp resolves
  let hosted : TCPClient :=
    { client with sockFd := outcomes.socket, addr.host := host, status := .initialized }
  refine ⟨hosted, rfl, ?_⟩
  rw [@init_host _ _ _ hosted opens resolved rfl]
  split
  · rfl
  · split
    · exact initSSL_tvTimeout
    · rfl

/-- `init` leaves what `select` wrote, if it gets there. -/
theorem init_getTimeout : (client.init outcomes).client.getTimeout =
    if client.Waits outcomes then outcomes.connecting.left else client.getTimeout := by
  by_cases dials : client.Dials outcomes
  · obtain ⟨hosted, same, time⟩ := init_of_dials dials
    rw [time, connectToServer_tvTimeout, same]
    simp only [Waits, dials, true_and]
    rfl
  · rw [init_of_not_dials dials, if_neg fun waits => dials waits.1]

end TCPClient

/-! ## Runs -/

inductive TimeoutStep where
  | setTimeout (milliseconds : Int)
  | setTimeoutParts (seconds milliseconds : Int)
  | init (outcomes : InitOutcomes)
  | closeSocket (closes again : Bool)

/-- A client, and the time that `setTimeout` accepted last. -/
structure Configured where
  client : TCPClient
  accepted : TimeVal

namespace TimeoutStep

variable {state : Configured} {step : TimeoutStep} {steps : List TimeoutStep}

def run (state : Configured) : TimeoutStep → Configured
  | .setTimeout milliseconds =>
      let call := state.client.onSocket (state.client.setTimeout milliseconds)
      ⟨call.client, if call.result then .ofMilliseconds milliseconds else state.accepted⟩
  | .setTimeoutParts seconds milliseconds =>
      let call := state.client.onSocket (state.client.setTimeoutParts seconds milliseconds)
      ⟨call.client, if call.result then ⟨seconds, milliseconds * 1000⟩ else state.accepted⟩
  | .init outcomes => ⟨(state.client.init outcomes).client, state.accepted⟩
  | .closeSocket closes again =>
      ⟨(state.client.onSocket (state.client.closeSocket closes again)).client, state.accepted⟩

def Leads (state : Configured) (step : TimeoutStep) (next : Configured) : Prop :=
  step.run state = next

/-- The step leaves the time that was accepted last, and an `init` with a positive
one does not retry without an end. -/
structure Keeps (state : Configured) (step : TimeoutStep) : Prop where
  kept : (step.run state).client.getTimeout = (step.run state).accepted
  bounded : ∀ outcomes, step = .init outcomes → state.accepted.Positive →
    ¬ state.client.Retries outcomes

/-- A `select` that the step gets to leaves all of the time. -/
def NoneSlept (state : Configured) (step : TimeoutStep) : Prop :=
  ∀ outcomes, step = .init outcomes → state.client.Waits outcomes →
    outcomes.connecting.left = state.client.getTimeout

theorem keeps_iff (kept : state.client.getTimeout = state.accepted) :
    step.Keeps state ↔ step.NoneSlept state := by
  cases step with
  | setTimeout milliseconds =>
      refine iff_of_true ⟨?_, fun _ isInit => by contradiction⟩ fun _ isInit => by contradiction
      refine (Socket.setTimeout_getTimeout milliseconds).trans ?_
      rw [kept]
      rfl
  | setTimeoutParts seconds milliseconds =>
      refine iff_of_true ⟨?_, fun _ isInit => by contradiction⟩ fun _ isInit => by contradiction
      refine (Socket.setTimeoutParts_getTimeout seconds milliseconds).trans ?_
      rw [kept]
      rfl
  | closeSocket closes again =>
      refine iff_of_true ⟨?_, fun _ isInit => by contradiction⟩ fun _ isInit => by contradiction
      exact (Socket.closeSocket_getTimeout closes again).trans kept
  | init outcomes =>
      have after := @TCPClient.init_getTimeout state.client outcomes
      constructor
      · intro keeps others same waits
        cases same
        have stays : (state.client.init outcomes).client.getTimeout = state.accepted := keeps.kept
        rw [after, if_pos waits] at stays
        rw [stays, kept]
      · intro noneSlept
        refine ⟨?_, fun others same positive retries => ?_⟩
        · show (state.client.init outcomes).client.getTimeout = state.accepted
          rw [after, ← kept]
          split
          · rename_i waits
            exact noneSlept outcomes rfl waits
          · rfl
        · rw [← kept] at positive
          exact retries.2 positive

/-- A run that starts with the configured timeout keeps it exactly if no `select`
in it sleeps. -/
theorem keepsTimeout_iff (client : TCPClient) (steps : List TimeoutStep) :
    Throughout Leads (fun state step => step.Keeps state) ⟨client, client.getTimeout⟩ steps ↔
      Throughout Leads (fun state step => step.NoneSlept state) ⟨client, client.getTimeout⟩
        steps := by
  refine @throughout_congr _ _ _ _ _ (fun state => state.client.getTimeout = state.accepted)
    _ _ rfl ?_ ?_
  · intro state step kept
    exact keeps_iff kept
  · intro state step next _ keeps leads
    rw [← leads]
    exact keeps.kept

def silent : InitOutcomes :=
  ⟨3, none, { TCPClient.answering with connect := false, inProgress := true, left := ⟨0, 0⟩ },
    none, false⟩

/-- A second and a half to connect, twice: the second `init` has no timeout. -/
theorem init_forgets_timeout :
    TCPClient.prepared.getTimeout = ⟨1, 500000⟩ ∧
      ((TimeoutStep.init silent).run ⟨TCPClient.prepared, ⟨1, 500000⟩⟩).client.getTimeout =
        ⟨0, 0⟩ ∧
      ((TimeoutStep.init silent).run ⟨TCPClient.prepared, ⟨1, 500000⟩⟩).client.Retries silent ∧
      ¬ ∀ (client : TCPClient) (steps : List TimeoutStep),
        Throughout Leads (fun state step => step.Keeps state) ⟨client, client.getTimeout⟩
          steps := by
  have forgets : ((TimeoutStep.init silent).run
      ⟨TCPClient.prepared, ⟨1, 500000⟩⟩).client.getTimeout = ⟨0, 0⟩ := by
    decide
  refine ⟨rfl, forgets, ⟨⟨by decide, by decide⟩, by decide⟩, fun all => ?_⟩
  have first := (all TCPClient.prepared [.init silent]).1.kept
  exact absurd (forgets.symm.trans first) (by decide)

end TimeoutStep

end SynapTCP
