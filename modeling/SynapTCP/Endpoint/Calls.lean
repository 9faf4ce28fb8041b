import SynapTCP.Client.Exits
import SynapTCP.Server.Object
import SynapTCP.Socket.Closing

namespace SynapTCP

open Data

/-! # Opening and closing an object of either class

What one call does to a descriptor and to an SSL object.
-/

inductive Endpoint where
  | tcpClient (client : TCPClient)
  | tcpServer (server : TCPServer)
deriving DecidableEq

/-- What the system answers to `init`; `listening` is for a server. -/
structure OpenOutcomes extends InitOutcomes where
  bind : Bool
  listen : Bool
deriving DecidableEq

inductive EndpointStep where
  | init (outcomes : OpenOutcomes)
  | setIsUseSSL (useSSL : Bool)
  | closeConnection
  | closeSocket

namespace Endpoint

def socket : Endpoint → Socket
  | .tcpClient client => client.toSocket
  | .tcpServer server => server.toSocket

def onSocket {α : Type} (endpoint : Endpoint) (call : Call α) :
    Endpoint × List (Act (Resource Unit)) :=
  match endpoint with
  | .tcpClient client => (.tcpClient { client with toSocket := call.socket }, call.acts)
  | .tcpServer server => (.tcpServer { server with toSocket := call.socket }, call.acts)

def init (endpoint : Endpoint) (outcomes : OpenOutcomes) : Endpoint × List (Act (Resource Unit)) :=
  match endpoint with
  | .tcpClient client =>
      let call := client.init outcomes.toInitOutcomes
      (.tcpClient call.client, call.acts)
  | .tcpServer server =>
      let call := server.initServer ⟨outcomes.socket, outcomes.bind, outcomes.listen⟩
      (.tcpServer { server with toSocket := call.socket }, call.acts)

def run (endpoint : Endpoint) : EndpointStep → Endpoint × List (Act (Resource Unit))
  | .init outcomes => endpoint.init outcomes
  | .setIsUseSSL useSSL => endpoint.onSocket (endpoint.socket.setIsUseSSL useSSL)
  | .closeConnection => endpoint.onSocket (endpoint.socket.closeConnection true)
  | .closeSocket => endpoint.onSocket (endpoint.socket.closeSocket true true)

end Endpoint

/-! ## The parts of a call -/

section Parts

variable {held : Bool} {fd : Int} {ssl : Nat} {outcomes : InitOutcomes}
  {acts : List (Act (Resource Unit))}

@[simp] theorem hold_lockOf_descriptor :
    hold (.descriptor fd) held (lockOf () ++ acts) = hold (.descriptor fd) held acts := by
  simp [lockOf, hold]

@[simp] theorem hold_unlockOf_descriptor :
    hold (.descriptor fd) held (unlockOf () ++ acts) = hold (.descriptor fd) held acts := by
  simp [unlockOf, hold]

@[simp] theorem hold_lockOf_connection :
    hold (.connection ssl) held (lockOf () ++ acts) = hold (.connection ssl) held acts := by
  simp [lockOf, hold]

@[simp] theorem hold_unlockOf_connection :
    hold (.connection ssl) held (unlockOf () ++ acts) = hold (.connection ssl) held acts := by
  simp [unlockOf, hold]

@[simp] theorem hold_unlockOf_descriptor_last :
    hold (.descriptor fd) held (unlockOf ()) = some held := by
  simp [unlockOf, hold]

@[simp] theorem hold_unlockOf_connection_last :
    hold (.connection ssl) held (unlockOf ()) = some held := by
  simp [unlockOf, hold]

theorem hold_opened_descriptor {socket : Int} (fresh : fd = socket → held = false) :
    hold (.descriptor fd) held (opened socket ++ acts) =
      hold (.descriptor fd) (held || decide (0 ≤ fd) && decide (fd = socket)) acts := by
  unfold opened
  by_cases same : fd = socket
  · subst same
    rw [fresh rfl]
    by_cases opens : 0 ≤ fd
    · simp [opens, hold]
    · simp [opens]
  · have other : ¬ socket = fd := fun equal => same equal.symm
    split <;> simp [same, other]

@[simp] theorem hold_opened_connection {socket : Int} :
    hold (.connection ssl) held (opened socket ++ acts) = hold (.connection ssl) held acts := by
  unfold opened
  split <;> simp

theorem hold_close_descriptor {socket : Int} (opens : 0 < socket) (fresh : fd = socket → held = false) :
    hold (.descriptor fd) (held || decide (0 ≤ fd) && decide (fd = socket))
      (.release (.descriptor socket) :: acts) = hold (.descriptor fd) held acts := by
  by_cases same : fd = socket
  · subst same
    rw [fresh rfl]
    simp [hold, Int.le_of_lt opens]
  · have other : ¬ socket = fd := fun equal => same equal.symm
    simp [hold, same, other]

end Parts

/-! ## What `init` does to a descriptor -/

namespace TCPClient

variable {client : TCPClient} {outcomes : InitOutcomes} {held : Bool} {fd : Int} {ssl : Nat}

theorem init_descriptor (fresh : fd = outcomes.socket → held = false)
    (resolves : 0 < outcomes.socket → client.resolve outcomes ≠ none) :
    hold (.descriptor fd) held (client.init outcomes).acts =
      some (held || decide (0 ≤ fd) && decide (fd = (client.init outcomes).client.sockFd)) := by
  have exits := @init_exits client outcomes
  generalize client.init outcomes = call at exits
  cases exits with
  | noSocket failed =>
      simp [started, hold_opened_descriptor fresh]
  | noHost opens unresolved => exact absurd unresolved (resolves opens)
  | @unconnected opens host left resolved fails =>
      simp [started, fail, dialed, hold_opened_descriptor fresh, hold_close_descriptor opens fresh]
      omega
  | @plain opens host left resolved connects withoutSSL =>
      simp [started, succeed, dialed, hold_opened_descriptor fresh]
  | @secured opens host left resolved connects withSSL _ exit =>
      cases exit with
      | noWarper missing =>
          simp [started, fail, dialed, hold_opened_descriptor fresh, hold_close_descriptor opens fresh]
          omega
      | noObject warper missing =>
          simp [started, fail, dialed, hold_opened_descriptor fresh, hold_close_descriptor opens fresh]
          omega
      | noHandshake warper created fails =>
          simp [started, succeed, dialed, hold_opened_descriptor fresh, hold_close_descriptor opens fresh]
          omega
      | handshake warper created succeeds =>
          simp [started, succeed, dialed, hold_opened_descriptor fresh]

/-- A name that is not resolved leaves the closed descriptor in the object. -/
theorem init_unresolved (fresh : fd = outcomes.socket → held = false) (opens : 0 < outcomes.socket)
    (unresolved : client.resolve outcomes = none) :
    hold (.descriptor fd) held (client.init outcomes).acts = some held ∧
      (client.init outcomes).client.sockFd = outcomes.socket := by
  have exits := @init_exits client outcomes
  generalize client.init outcomes = call at exits
  cases exits with
  | noSocket failed => omega
  | noHost _ _ =>
      refine ⟨?_, rfl⟩
      simp [started, hold_opened_descriptor fresh, hold_close_descriptor opens fresh]
  | unconnected _ _ resolved _ =>
      rw [unresolved] at resolved
      contradiction
  | plain _ _ resolved _ _ =>
      rw [unresolved] at resolved
      contradiction
  | secured _ _ resolved _ _ _ =>
      rw [unresolved] at resolved
      contradiction

theorem init_sockFd : (client.init outcomes).client.sockFd = outcomes.socket ∨
    (client.init outcomes).client.sockFd = -1 := by
  have exits := @init_exits client outcomes
  generalize client.init outcomes = call at exits
  cases exits with
  | noSocket _ => exact .inl rfl
  | noHost _ _ => exact .inl rfl
  | unconnected _ _ _ _ => exact .inr rfl
  | plain _ _ _ _ _ => exact .inl rfl
  | secured _ _ _ _ _ exit =>
      cases exit with
      | noWarper _ => exact .inr rfl
      | noObject _ _ => exact .inr rfl
      | noHandshake _ _ _ => exact .inr rfl
      | handshake _ _ _ => exact .inl rfl

/-! ## What `init` does to an SSL object -/

/-- `init` gets as far as `createSSL`. -/
structure Creates (client : TCPClient) (outcomes : InitOutcomes) : Prop where
  opens : 0 < outcomes.socket
  resolves : client.resolve outcomes ≠ none
  connects : outcomes.connecting.Connects client.tvTimeout
  withSSL : client.useSSL = true
  warper : client.sslWarper = true

/-- Then it ends in the part that is about SSL, behind the wrapper. -/
theorem Creates.secured (creates : client.Creates outcomes) :
    ∃ host left, SecureExit (client.dialed outcomes.socket host left) outcomes (started outcomes)
      (client.init outcomes) := by
  have exits := @init_exits client outcomes
  generalize client.init outcomes = call at exits
  cases exits with
  | noSocket failed => exact absurd creates.opens (Int.not_lt.mpr failed)
  | noHost _ unresolved => exact absurd unresolved creates.resolves
  | unconnected _ _ _ fails => exact absurd creates.connects fails
  | plain _ _ _ _ withoutSSL =>
      rw [creates.withSSL] at withoutSSL
      contradiction
  | @secured _ host left _ _ _ _ exit => exact ⟨host, left, exit⟩

theorem init_connection (fresh : outcomes.createSSL = some ssl → held = false)
    (creates : client.Creates outcomes) :
    hold (.connection ssl) held (client.init outcomes).acts =
      some (held || decide ((client.init outcomes).client.sslConn = some ssl)) := by
  obtain ⟨host, left, exit⟩ := creates.secured
  generalize client.init outcomes = call at exit
  cases exit with
  | noWarper missing =>
      have warper : client.sslWarper = false := missing
      rw [creates.warper] at warper
      contradiction
  | noObject _ _ => simp [started, fail]
  | @noHandshake _ other created _ =>
      by_cases same : other = ssl
      · subst same
        simp [started, succeed, hold, fresh created]
      · simp [started, succeed, same]
  | @handshake _ other created _ =>
      by_cases same : other = ssl
      · subst same
        simp [started, succeed, hold, fresh created]
      · simp [started, succeed, same]

/-- Where an SSL object is asked for, the one before is forgotten. -/
theorem init_sslConn (creates : client.Creates outcomes) :
    (client.init outcomes).client.sslConn = none ∨
      (client.init outcomes).client.sslConn = outcomes.createSSL := by
  obtain ⟨host, left, exit⟩ := creates.secured
  generalize client.init outcomes = call at exit
  cases exit with
  | noWarper missing =>
      have warper : client.sslWarper = false := missing
      rw [creates.warper] at warper
      contradiction
  | noObject _ _ => exact .inl rfl
  | noHandshake _ _ _ => exact .inl rfl
  | handshake _ created _ => exact .inr created.symm

theorem init_without (without : ¬ client.Creates outcomes) :
    hold (.connection ssl) held (client.init outcomes).acts = some held ∧
      (client.init outcomes).client.sslConn = client.sslConn := by
  have exits := @init_exits client outcomes
  generalize client.init outcomes = call at exits
  cases exits with
  | noSocket _ => simp [started]
  | noHost _ _ => simp [started]
  | unconnected _ _ _ _ => simp [started, fail, dialed]
  | plain _ _ _ _ _ => simp [started, succeed, dialed]
  | @secured opens host left resolved connects withSSL _ exit =>
      have creates (warper : client.sslWarper = true) : client.Creates outcomes :=
        ⟨opens, by rw [resolved]; exact Option.some_ne_none host, connects, withSSL, warper⟩
      cases exit with
      | noWarper _ => simp [started, fail, dialed]
      | noObject warper _ => exact absurd (creates warper) without
      | noHandshake warper _ _ => exact absurd (creates warper) without
      | handshake warper _ _ => exact absurd (creates warper) without

end TCPClient

namespace Socket

variable {socket : Socket} {outcomes : ListenOutcomes} {held : Bool} {fd : Int} {ssl : Nat}
  {acts : List (Act (Resource Unit))}

theorem initServer_descriptor (fresh : fd = outcomes.socket → held = false) :
    hold (.descriptor fd) held (socket.initServer outcomes).acts =
      some (held || decide (0 ≤ fd) && decide (fd = (socket.initServer outcomes).socket.sockFd)) := by
  unfold initServer
  by_cases failed : outcomes.socket ≤ 0
  · simp [failed, hold_opened_descriptor fresh]
  · have opens : 0 < outcomes.socket := by omega
    cases outcomes.bind with
    | false =>
        simp [failed, hold_opened_descriptor fresh, hold_close_descriptor opens fresh]
        omega
    | true =>
        cases outcomes.listen with
        | false =>
            simp [failed, hold_opened_descriptor fresh, hold_close_descriptor opens fresh]
            omega
        | true => simp [failed, hold_opened_descriptor fresh]

theorem initServer_sockFd : (socket.initServer outcomes).socket.sockFd = outcomes.socket ∨
    (socket.initServer outcomes).socket.sockFd = -1 := by
  unfold initServer
  by_cases failed : outcomes.socket ≤ 0
  · exact .inl (by simp [failed])
  · cases outcomes.bind with
    | false => exact .inr (by simp [failed])
    | true =>
        cases outcomes.listen with
        | false => exact .inr (by simp [failed])
        | true => exact .inl (by simp [failed])

theorem initServer_connection :
    hold (.connection ssl) held (socket.initServer outcomes).acts = some held ∧
      (socket.initServer outcomes).socket.sslConn = socket.sslConn := by
  unfold initServer
  by_cases failed : outcomes.socket ≤ 0
  · simp [failed]
  · cases outcomes.bind with
    | false => simp [failed]
    | true => cases outcomes.listen <;> simp [failed]

/-! ## What closing does -/

theorem returned_descriptor :
    hold (.descriptor fd) (decide (0 < socket.sockFd) && decide (fd = socket.sockFd))
      (socket.returned ++ acts) = hold (.descriptor fd) false acts := by
  have descriptor : ∀ held, hold (.descriptor fd) held (socket.returned ++ acts) =
      hold (.descriptor fd) held ((if 0 < socket.sockFd then
        [Act.release (Resource.descriptor socket.sockFd)] else []) ++ acts) := by
    intro held
    unfold returned
    cases socket.sslConn with
    | none => simp
    | some ssl => cases socket.useSSL <;> simp
  rw [descriptor]
  by_cases opened : 0 < socket.sockFd
  · by_cases same : fd = socket.sockFd
    · simp [opened, same, hold]
    · have other : ¬ socket.sockFd = fd := fun equal => same equal.symm
      simp [opened, same, other]
  · simp [opened]

theorem returned_connection :
    hold (.connection ssl) (decide (socket.sslConn = some ssl)) (socket.returned ++ acts) =
      hold (.connection ssl) (decide (socket.closed.sslConn = some ssl)) acts := by
  have noDescriptor : ∀ held, hold (.connection ssl) held ((if 0 < socket.sockFd then
      [Act.release (Resource.descriptor socket.sockFd)] else []) ++ acts) =
        hold (.connection ssl) held acts := by
    intro held
    split <;> simp
  unfold returned closed
  cases connection : socket.sslConn with
  | none => simp [noDescriptor]
  | some other =>
      cases socket.useSSL with
      | false => simp [noDescriptor]
      | true =>
          by_cases same : other = ssl
          · simp [same, hold, noDescriptor]
          · simp [same, noDescriptor]

end Socket

end SynapTCP
