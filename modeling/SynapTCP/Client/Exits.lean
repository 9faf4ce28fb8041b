import SynapTCP.Client.Init

namespace SynapTCP

open Data

/-! # The exits of `TCPClient::init` -/

variable {client : TCPClient} {outcomes : InitOutcomes}

/-- What `connectToServer` needs to come back with success. -/
structure ConnectOutcomes.Connects (outcomes : ConnectOutcomes) (timeout : TimeVal) : Prop where
  flags : 0 < timeout.sec ∨ 0 < timeout.usec →
    outcomes.getFlags = true ∧ outcomes.setFlags = true ∧ outcomes.restoreFlags = true
  connects : 0 < timeout.sec ∨ 0 < timeout.usec →
    outcomes.connect = true ∨ outcomes.inProgress = true ∧ 0 < outcomes.select
  noError : 0 < timeout.sec ∨ 0 < timeout.usec →
    outcomes.getError = true ∧ outcomes.error = 0

namespace TCPClient

theorem connectToServer_iff (outcomes : ConnectOutcomes) :
    (client.connectToServer outcomes).1 = true ↔ outcomes.Connects client.tvTimeout := by
  by_cases timed : 0 < client.tvTimeout.sec ∨ 0 < client.tvTimeout.usec
  · rw [connectToServer, if_pos timed]
    have fields : outcomes.Connects client.tvTimeout ↔
        (outcomes.getFlags = true ∧ outcomes.setFlags = true ∧ outcomes.restoreFlags = true) ∧
        (outcomes.connect = true ∨ outcomes.inProgress = true ∧ 0 < outcomes.select) ∧
        outcomes.getError = true ∧ outcomes.error = 0 := by
      constructor
      · intro connects
        exact ⟨connects.flags timed, connects.connects timed, connects.noError timed⟩
      · intro connects
        exact ⟨fun _ => connects.1, fun _ => connects.2.1, fun _ => connects.2.2⟩
    rw [fields]
    cases outcomes.getFlags <;> cases outcomes.setFlags <;> cases outcomes.restoreFlags <;>
      cases outcomes.connect <;> cases outcomes.inProgress <;> cases outcomes.getError <;>
      simp
    split <;> simp <;> omega
  · rw [connectToServer, if_neg timed]
    constructor
    · intro _
      exact ⟨fun isTimed => absurd isTimed timed, fun isTimed => absurd isTimed timed,
        fun isTimed => absurd isTimed timed⟩
    · intro _
      rfl

theorem connectToServer_client (outcomes : ConnectOutcomes) :
    ∃ left, (client.connectToServer outcomes).2 = { client with tvTimeout := left } := by
  by_cases timed : 0 < client.tvTimeout.sec ∨ 0 < client.tvTimeout.usec
  · rw [connectToServer, if_pos timed]
    cases outcomes.getFlags with
    | false => exact ⟨client.tvTimeout, rfl⟩
    | true =>
        cases outcomes.setFlags with
        | false => exact ⟨client.tvTimeout, rfl⟩
        | true =>
            by_cases waits : outcomes.connect = false ∧ outcomes.inProgress = true
            · refine ⟨outcomes.left, ?_⟩
              simp only [waits, and_self, if_true, Bool.true_eq_false, if_false,
                apply_ite Prod.snd, ite_self]
            · refine ⟨client.tvTimeout, ?_⟩
              simp only [waits, if_false, Bool.true_eq_false, apply_ite Prod.snd, ite_self]
  · rw [connectToServer, if_neg timed]
    exact ⟨client.tvTimeout, rfl⟩

/-- The client behind `connectToServer`, which may have used up some of the timeout. -/
def dialed (client : TCPClient) (fd : Int) (host : List UInt8) (left : TimeVal) : TCPClient :=
  { client with sockFd := fd, addr.host := host, tvTimeout := left, status := .initialized }

/-- What `init` has done when it has its descriptor. -/
def started (outcomes : InitOutcomes) : List (Act (Resource Unit)) :=
  unlockOf () ++ opened outcomes.socket

/-- The exits of the SSL part. -/
inductive SecureExit (client : TCPClient) (outcomes : InitOutcomes)
    (acts : List (Act (Resource Unit))) : ClientCall Nat → Prop where
  | noWarper (missing : client.sslWarper = false) :
      SecureExit client outcomes acts (client.fail 9 acts)
  | noObject (warper : client.sslWarper = true) (missing : outcomes.createSSL = none) :
      SecureExit client outcomes acts ({ client with sslConn := none }.fail 9 acts)
  | noHandshake (warper : client.sslWarper = true) {ssl : Nat}
      (created : outcomes.createSSL = some ssl) (fails : outcomes.connectSSL = false) :
      SecureExit client outcomes acts
        ({ client with sockFd := -1, status := .uninitialized, sslConn := none }.succeed
          (acts ++ [Act.acquire (Resource.connection ssl)] ++
            [Act.release (Resource.connection ssl)] ++
            [Act.release (Resource.descriptor client.sockFd)] ++ unlockOf ()))
  | handshake (warper : client.sslWarper = true) {ssl : Nat}
      (created : outcomes.createSSL = some ssl) (succeeds : outcomes.connectSSL = true) :
      SecureExit client outcomes acts
        ({ client with sslConn := some ssl }.succeed
          (acts ++ [Act.acquire (Resource.connection ssl)]))

theorem initSSL_exits {acts : List (Act (Resource Unit))} :
    SecureExit client outcomes acts (client.initSSL outcomes acts) := by
  unfold initSSL
  by_cases missing : client.sslWarper = false
  · rw [if_pos missing]
    exact .noWarper missing
  · have warper : client.sslWarper = true := by simpa using missing
    rw [if_neg missing]
    cases created : outcomes.createSSL with
    | none => exact .noObject warper created
    | some ssl =>
        by_cases fails : outcomes.connectSSL = false
        · simp only [fails, if_true]
          exact .noHandshake warper created fails
        · simp only [fails]
          exact .handshake warper created (by simpa using fails)

/-- The exits of `init` in their order, each with what led there. -/
inductive InitExit (client : TCPClient) (outcomes : InitOutcomes) : ClientCall Nat → Prop where
  | noSocket (failed : outcomes.socket ≤ 0) :
      InitExit client outcomes
        ⟨2, { client with sockFd := outcomes.socket }, started outcomes ++ unlockOf ()⟩
  | noHost (opens : 0 < outcomes.socket) (unresolved : client.resolve outcomes = none) :
      InitExit client outcomes
        ⟨3, { client with sockFd := outcomes.socket }, started outcomes ++
          [Act.release (Resource.descriptor outcomes.socket)] ++ unlockOf ()⟩
  | unconnected (opens : 0 < outcomes.socket) {host : List UInt8} (left : TimeVal)
      (resolved : client.resolve outcomes = some host)
      (fails : ¬ outcomes.connecting.Connects client.tvTimeout) :
      InitExit client outcomes
        ((client.dialed outcomes.socket host left).fail 8 (started outcomes))
  | plain (opens : 0 < outcomes.socket) {host : List UInt8} (left : TimeVal)
      (resolved : client.resolve outcomes = some host)
      (connects : outcomes.connecting.Connects client.tvTimeout) (withoutSSL : client.useSSL = false) :
      InitExit client outcomes
        ((client.dialed outcomes.socket host left).succeed (started outcomes))
  | secured (opens : 0 < outcomes.socket) {host : List UInt8} (left : TimeVal)
      (resolved : client.resolve outcomes = some host)
      (connects : outcomes.connecting.Connects client.tvTimeout) (withSSL : client.useSSL = true)
      {call : ClientCall Nat}
      (exit : SecureExit (client.dialed outcomes.socket host left) outcomes (started outcomes) call) :
      InitExit client outcomes call

theorem init_noHost (opens : 0 < outcomes.socket) (resolved : client.resolve outcomes = none) :
    client.init outcomes = ⟨3, { client with sockFd := outcomes.socket },
      started outcomes ++ [Act.release (Resource.descriptor outcomes.socket)] ++ unlockOf ()⟩ := by
  have asked : ({ client with sockFd := outcomes.socket } : TCPClient).resolve outcomes = none :=
    resolved
  rw [init, if_neg (Int.not_le.mpr opens)]
  simp only [asked]
  rfl

theorem init_host {host : List UInt8} {hosted : TCPClient} (opens : 0 < outcomes.socket)
    (resolved : client.resolve outcomes = some host)
    (holds : hosted =
      { client with sockFd := outcomes.socket, addr.host := host, status := .initialized }) :
    client.init outcomes =
      if (hosted.connectToServer outcomes.connecting).1 = false then
        (hosted.connectToServer outcomes.connecting).2.fail 8 (started outcomes)
      else if client.useSSL then
        (hosted.connectToServer outcomes.connecting).2.initSSL outcomes (started outcomes)
      else (hosted.connectToServer outcomes.connecting).2.succeed (started outcomes) := by
  have asked : ({ client with sockFd := outcomes.socket } : TCPClient).resolve outcomes =
      some host := resolved
  rw [init, if_neg (Int.not_le.mpr opens), holds]
  simp only [asked]
  rfl

theorem init_exits : InitExit client outcomes (client.init outcomes) := by
  by_cases failed : outcomes.socket ≤ 0
  · rw [init, if_pos failed]
    exact .noSocket failed
  · have opens : 0 < outcomes.socket := by omega
    cases resolved : client.resolve outcomes with
    | none =>
        rw [init_noHost opens resolved]
        exact .noHost opens resolved
    | some host =>
        let hosted : TCPClient :=
          { client with sockFd := outcomes.socket, addr.host := host, status := .initialized }
        have connected := @connectToServer_iff hosted outcomes.connecting
        obtain ⟨left, dials⟩ := @connectToServer_client hosted outcomes.connecting
        rw [@init_host _ _ _ hosted opens resolved rfl, dials]
        by_cases connects : (hosted.connectToServer outcomes.connecting).1 = true
        · rw [if_neg (by rw [connects]; exact Bool.noConfusion)]
          by_cases ssl : client.useSSL = true
          · rw [if_pos ssl]
            exact .secured opens left resolved (connected.mp connects) ssl initSSL_exits
          · rw [if_neg ssl]
            exact .plain opens left resolved (connected.mp connects) (Bool.eq_false_iff.mpr ssl)
        · rw [if_pos (Bool.eq_false_iff.mpr connects)]
          apply InitExit.unconnected opens left resolved
          intro doesConnect
          exact connects (connected.mpr doesConnect)

/-- A client for SSL with an SSL wrapper, and the times that the constructor sets. -/
def prepared : TCPClient :=
  { Socket.new with useSSL := true, status := .uninitialized, sslWarper := true }

def answering : ConnectOutcomes where
  getFlags := true
  setFlags := true
  connect := true
  inProgress := false
  select := 0
  left := ⟨1, 500000⟩
  restoreFlags := true
  getError := true
  error := 0

def refusing : ConnectOutcomes := { answering with connect := false }

end TCPClient

end SynapTCP
