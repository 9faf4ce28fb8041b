import SynapTCP.Client.Exits
import SynapTCP.Data.Throughout
import SynapTCP.Socket.Closing
import SynapTCP.Socket.Runs

namespace SynapTCP

open Data

/-! # One connection after another

A client that closes its connection and opens another one on the same object goes on with
the bytes that are left over from the one before.
-/

/-- A client with what the peer of its present connection sends. -/
structure Line where
  client : TCPClient
  wire : Wire

inductive LineStep where
  /-- The peer of a new connection sends what is on this wire. -/
  | init (outcomes : InitOutcomes) (wire : Wire)
  | receive (request : Request)
  | closeConnection (closes : Bool)
  | closeSocket (closes again : Bool)

namespace LineStep

variable {line : Line} {step : LineStep}

def connection (line : Line) : Connection := ⟨line.client.toSocket, line.wire⟩

def run (line : Line) : LineStep → Line
  | .init outcomes wire => ⟨(line.client.init outcomes).client, wire⟩
  | .receive request =>
      let next := (connection line).next request
      ⟨{ line.client with toSocket := next.socket }, next.wire⟩
  | .closeConnection closes =>
      ⟨(line.client.onSocket (line.client.closeConnection closes)).client, line.wire⟩
  | .closeSocket closes again =>
      ⟨(line.client.onSocket (line.client.closeSocket closes again)).client, line.wire⟩

def Leads (line : Line) (step : LineStep) (next : Line) : Prop := some (step.run line) = some next

/-- The client receives on an open port only. -/
def Receives (line : Line) : LineStep → Prop
  | .receive _ => line.client.Readable
  | _ => True

instance (socket : Socket) : Decidable socket.Readable :=
  decidable_of_iff (0 < socket.sockFd ∧ (socket.useSSL && socket.sslConn.isNone) = false)
    ⟨fun both => ⟨both.1, both.2⟩, fun ready => ⟨ready.opened, ready.connected⟩⟩

instance (line : Line) : (step : LineStep) → Decidable (step.Receives line)
  | .receive _ => inferInstanceAs (Decidable line.client.Readable)
  | .init _ _ | .closeConnection _ | .closeSocket _ _ => .isTrue trivial

/-- The turns of a run, whatever is opened and closed in between. -/
def turns (line : Line) : List LineStep → List Turn
  | [] => []
  | .receive request :: steps =>
      ⟨connection line, request, (connection line).serve request⟩ ::
        turns ((LineStep.receive request).run line) steps
  | step :: steps => turns (step.run line) steps

def finish (line : Line) (steps : List LineStep) : Line := steps.foldl run line

end LineStep

namespace TCPClient

variable {client : TCPClient} {outcomes : InitOutcomes}

theorem secured_remainingData {acts : List (Act (Resource Unit))} {call : ClientCall Nat}
    (exit : SecureExit client outcomes acts call) :
    call.client.remainingData = client.remainingData := by
  cases exit with
  | noWarper missing => rfl
  | noObject warper missing => rfl
  | noHandshake warper created fails => rfl
  | handshake warper created succeeds => rfl

/-- What is left over stays at every exit. -/
theorem init_remainingData :
    (client.init outcomes).client.remainingData = client.remainingData := by
  have exits := @init_exits client outcomes
  generalize client.init outcomes = call at exits
  cases exits with
  | noSocket failed => rfl
  | noHost opens unresolved => rfl
  | unconnected opens left resolved fails => rfl
  | plain opens left resolved connects withoutSSL => rfl
  | secured opens left resolved connects withSSL exit =>
      have same := secured_remainingData exit
      exact same

end TCPClient

theorem Socket.closeConnection_remainingData {socket : Socket} (closes : Bool) :
    (socket.closeConnection closes).socket.remainingData = socket.remainingData := by
  obtain ⟨sslConn, freed⟩ := @freeSSL_frame socket
  obtain ⟨sockFd, closed⟩ := @closeFd_frame socket.freeSSL.socket closes
  have same : (socket.closeConnection closes).socket =
      (socket.freeSSL.socket.closeFd closes).socket := rfl
  rw [same, closed, freed]

theorem Socket.closeSocket_remainingData {socket : Socket} (closes again : Bool) :
    (socket.closeSocket closes again).socket.remainingData = socket.remainingData := by
  obtain ⟨sockFd, sslConn, closed⟩ := @closeSocket_frame socket closes again
  rw [closed]

namespace LineStep

variable {line : Line} {step : LineStep} {steps : List LineStep}

theorem run_remainingData (other : ∀ request, step ≠ .receive request) :
    (step.run line).client.remainingData = line.client.remainingData := by
  cases step with
  | init outcomes wire => exact TCPClient.init_remainingData
  | receive request => exact absurd rfl (other request)
  | closeConnection closes => exact Socket.closeConnection_remainingData closes
  | closeSocket closes again => exact Socket.closeSocket_remainingData closes again

theorem turns_of_other (other : ∀ request, step ≠ .receive request) :
    turns line (step :: steps) = turns (step.run line) steps := by
  cases step with
  | receive request => exact absurd rfl (other request)
  | init outcomes wire => rfl
  | closeConnection closes => rfl
  | closeSocket closes again => rfl

/-- However the connections of a client are opened and closed, each turn conserves its
bytes, and so do they all together: what they skip and hand over, followed by what is left
over at the end, is what was left over at the start followed by all that was read, one
connection behind the other. -/
theorem connections_conserve (receives : Throughout Leads Receives line steps) :
    ∃ portions : List (Bytes × Bytes),
      List.Forall₂ (fun turn portion => Turn.Conserves turn portion.1 portion.2)
        (turns line steps) portions ∧
      (List.zipWith (fun portion turn => portion.1 ++ turn.result.socket.data) portions
          (turns line steps)).flatten ++ (finish line steps).client.remainingData =
        line.client.remainingData ++ (portions.map Prod.snd).flatten := by
  induction steps generalizing line with
  | nil => exact ⟨[], .nil, by simp [turns, finish]⟩
  | cons step steps ih =>
      obtain ⟨portions, each, conserved⟩ := ih (receives.2 _ rfl)
      by_cases other : ∀ request, step ≠ .receive request
      · rw [turns_of_other other]
        rw [run_remainingData other] at conserved
        exact ⟨portions, each, conserved⟩
      · obtain ⟨request, isReceive⟩ := not_forall_not.mp other
        subst isReceive
        obtain ⟨-, skip, bytes, conserves⟩ :=
          @Connection.serve_conserves (connection line) (receives.1) request
        refine ⟨(skip, bytes) :: portions, .cons conserves each, ?_⟩
        have here := conserves.conserved
        calc
          _ = skip ++ ((connection line).serve request).socket.data ++
              ((List.zipWith (fun portion turn => portion.1 ++ turn.result.socket.data) portions
                (turns ((LineStep.receive request).run line) steps)).flatten ++
                (finish ((LineStep.receive request).run line) steps).client.remainingData) := by
            simp [turns, finish]
          _ = skip ++ ((connection line).serve request).socket.data ++
              ((connection line).serve request).socket.remainingData ++
                (portions.map Prod.snd).flatten := by
            rw [conserved, ← List.append_assoc]
            rfl
          _ = line.client.remainingData ++ (bytes ++ (portions.map Prod.snd).flatten) := by
            rw [here, List.append_assoc]
            rfl

/-- Of three bytes two are handed over before the client closes; the third comes before the
first of the next connection. -/
def lineSteps : List LineStep :=
  [.init ⟨3, none, TCPClient.answering, none, false⟩ ⟨[], [.chunk (.of 1 [2, 3])], 0⟩,
    .receive ⟨0, .receiveNBytes 2⟩, .closeSocket true true,
    .init ⟨4, none, TCPClient.answering, none, false⟩ ⟨[], [.chunk (.of 4 [])], 0⟩,
    .receive ⟨0, .receiveNBytes 2⟩]

def unconnected : Line := ⟨{ TCPClient.prepared with useSSL := false }, ⟨[], [], 0⟩⟩

theorem connections_conserve_leftover :
    (turns unconnected lineSteps).map (fun turn => turn.result.socket.data) = [[1, 2], [3, 4]] ∧
    ∃ portions : List (Bytes × Bytes),
      List.Forall₂ (fun turn portion => Turn.Conserves turn portion.1 portion.2)
        (turns unconnected lineSteps) portions ∧
      (List.zipWith (fun portion turn => portion.1 ++ turn.result.socket.data) portions
          (turns unconnected lineSteps)).flatten ++
          (finish unconnected lineSteps).client.remainingData =
        unconnected.client.remainingData ++ (portions.map Prod.snd).flatten := by
  refine ⟨by decide +kernel, connections_conserve ?_⟩
  have checked : checkThroughout (fun line step => some (run line step)) Receives unconnected
      lineSteps = true := by
    decide +kernel
  exact throughout_of_check checked

end LineStep

end SynapTCP
