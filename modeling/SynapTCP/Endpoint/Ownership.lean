import SynapTCP.Endpoint.Calls
import Mathlib.Logic.Relation

namespace SynapTCP

open Data

/-! # Who owns the descriptors and the SSL objects

Any sequence of `init`, `setIsUseSSL`, `closeConnection` and `closeSocket` on one
object, and its destruction at the end.
-/

/-- An object with the acts of all calls so far. -/
structure Holding where
  endpoint : Endpoint
  log : List (Act (Resource Unit))

namespace Endpoint

/-- The name of a host does not fail to be resolved. -/
def Resolves : Endpoint → OpenOutcomes → Prop
  | .tcpClient client, outcomes =>
      0 < outcomes.socket → client.resolve outcomes.toInitOutcomes ≠ none
  | .tcpServer _, _ => True

/-- `init` gets as far as `createSSL`. -/
def Creates : Endpoint → OpenOutcomes → Prop
  | .tcpClient client, outcomes => client.Creates outcomes.toInitOutcomes
  | .tcpServer _, _ => False

end Endpoint

namespace Holding

/-- A new object of either class, with any configuration. -/
structure Unused (holding : Holding) : Prop where
  sockFd : holding.endpoint.socket.sockFd = -1
  sslConn : holding.endpoint.socket.sslConn = none
  log : holding.log = []

def after (holding : Holding) (step : EndpointStep) : Holding :=
  let (endpoint, acts) := holding.endpoint.run step
  ⟨endpoint, holding.log ++ acts⟩

/-- The acts up to the end of the destruction; `~Socket` is `closeSocket`. -/
def destroyed (holding : Holding) : List (Act (Resource Unit)) :=
  (holding.after .closeSocket).log

/-- What is open is the descriptor in `sockFd` and the SSL object in `sslConn`,
and nothing was closed that was not open. -/
structure Owns (holding : Holding) : Prop where
  descriptors : ∀ fd, hold (.descriptor fd) false holding.log =
    some (decide (0 < holding.endpoint.socket.sockFd ∧ fd = holding.endpoint.socket.sockFd))
  connections : ∀ ssl, hold (.connection ssl) false holding.log =
    some (decide (holding.endpoint.socket.sslConn = some ssl))

/-- Nothing is open, and nothing was closed that was not open. -/
structure NothingLeft (log : List (Act (Resource Unit))) : Prop where
  descriptors : ∀ fd, hold (.descriptor fd) false log = some false
  connections : ∀ ssl, hold (.connection ssl) false log = some false

end Holding

namespace EndpointStep

/-- The system hands out a descriptor that is not open and an SSL object that is
not in use. -/
def Possible (holding : Holding) : EndpointStep → Prop
  | .init outcomes =>
      (0 ≤ outcomes.socket → hold (.descriptor outcomes.socket) false holding.log = some false) ∧
      ∀ ssl, outcomes.createSSL = some ssl → hold (.connection ssl) false holding.log = some false
  | _ => True

/-- `init` finds a closed port, gets no descriptor 0, can resolve the name and
does not ask for an SSL object while there is one. -/
def Spares (endpoint : Endpoint) : EndpointStep → Prop
  | .init outcomes => endpoint.socket.sockFd ≤ 0 ∧ outcomes.socket ≠ 0 ∧
      endpoint.Resolves outcomes ∧ (endpoint.Creates outcomes → endpoint.socket.sslConn = none)
  | _ => True

end EndpointStep

namespace Endpoint

variable {endpoint : Endpoint} {outcomes : OpenOutcomes} {held : Bool} {fd : Int} {ssl : Nat}

theorem init_descriptor (fresh : fd = outcomes.socket → held = false)
    (resolves : endpoint.Resolves outcomes) :
    hold (.descriptor fd) held (endpoint.init outcomes).2 =
      some (held || decide (0 ≤ fd) && decide (fd = (endpoint.init outcomes).1.socket.sockFd)) := by
  cases endpoint with
  | tcpClient client => exact TCPClient.init_descriptor fresh resolves
  | tcpServer server => exact Socket.initServer_descriptor fresh

theorem init_unresolved (fresh : fd = outcomes.socket → held = false)
    (unresolved : ¬ endpoint.Resolves outcomes) :
    hold (.descriptor fd) held (endpoint.init outcomes).2 = some held ∧
      (endpoint.init outcomes).1.socket.sockFd = outcomes.socket ∧ 0 < outcomes.socket := by
  cases endpoint with
  | tcpClient client =>
      unfold Resolves at unresolved
      push Not at unresolved
      obtain ⟨opens, noHost⟩ := unresolved
      obtain ⟨kept, stays⟩ := TCPClient.init_unresolved fresh opens noHost
      exact ⟨kept, stays, opens⟩
  | tcpServer server => exact absurd trivial unresolved

theorem init_sockFd : (endpoint.init outcomes).1.socket.sockFd = outcomes.socket ∨
    (endpoint.init outcomes).1.socket.sockFd = -1 := by
  cases endpoint with
  | tcpClient client => exact TCPClient.init_sockFd
  | tcpServer server => exact Socket.initServer_sockFd

theorem init_failed (failed : outcomes.socket ≤ 0) :
    (endpoint.init outcomes).1.socket.sockFd = outcomes.socket := by
  cases endpoint with
  | tcpClient client => simp [init, socket, TCPClient.init, failed]
  | tcpServer server => simp [init, socket, Socket.initServer, failed]

theorem init_connection (fresh : outcomes.createSSL = some ssl → held = false)
    (creates : endpoint.Creates outcomes) :
    hold (.connection ssl) held (endpoint.init outcomes).2 =
      some (held || decide ((endpoint.init outcomes).1.socket.sslConn = some ssl)) := by
  cases endpoint with
  | tcpClient client => exact TCPClient.init_connection fresh creates
  | tcpServer server => exact absurd creates not_false

theorem init_sslConn (creates : endpoint.Creates outcomes) :
    (endpoint.init outcomes).1.socket.sslConn = none ∨
      (endpoint.init outcomes).1.socket.sslConn = outcomes.createSSL := by
  cases endpoint with
  | tcpClient client => exact TCPClient.init_sslConn creates
  | tcpServer server => exact absurd creates not_false

theorem init_without (without : ¬ endpoint.Creates outcomes) :
    hold (.connection ssl) held (endpoint.init outcomes).2 = some held ∧
      (endpoint.init outcomes).1.socket.sslConn = endpoint.socket.sslConn := by
  cases endpoint with
  | tcpClient client => exact TCPClient.init_without without
  | tcpServer server => exact Socket.initServer_connection

theorem onSocket_socket {α : Type} (call : Call α) :
    (endpoint.onSocket call).1.socket = call.socket := by
  cases endpoint <;> rfl

theorem onSocket_acts {α : Type} (call : Call α) : (endpoint.onSocket call).2 = call.acts := by
  cases endpoint <;> rfl

end Endpoint

namespace Holding

variable {holding later : Holding}

section Init

variable {outcomes : OpenOutcomes} {fd : Int} {ssl : Nat}

theorem Owns.fresh_descriptor (owns : holding.Owns)
    (possible : (EndpointStep.init outcomes).Possible holding) :
    fd = outcomes.socket → decide (0 < holding.endpoint.socket.sockFd ∧
      fd = holding.endpoint.socket.sockFd) = false := by
  intro same
  by_cases opens : 0 ≤ outcomes.socket
  · have held := owns.descriptors outcomes.socket
    rw [possible.1 opens, ← same] at held
    exact (Option.some.inj held).symm
  · apply decide_eq_false
    omega

theorem Owns.fresh_connection (owns : holding.Owns)
    (possible : (EndpointStep.init outcomes).Possible holding) :
    outcomes.createSSL = some ssl →
      decide (holding.endpoint.socket.sslConn = some ssl) = false := by
  intro created
  have held := owns.connections ssl
  rw [possible.2 ssl created] at held
  exact (Option.some.inj held).symm

theorem Owns.closed_before (owns : holding.Owns)
    (possible : (EndpointStep.init outcomes).Possible holding)
    (after : (holding.after (.init outcomes)).Owns) : holding.endpoint.socket.sockFd ≤ 0 := by
  by_contra opened
  have positive : 0 < holding.endpoint.socket.sockFd := by omega
  have fresh := @Owns.fresh_descriptor holding outcomes holding.endpoint.socket.sockFd owns possible
  have other : holding.endpoint.socket.sockFd ≠ outcomes.socket := by
    intro same
    have free := fresh same
    simp [positive] at free
  -- `init` does nothing to it, so it is open still
  have kept : hold (.descriptor holding.endpoint.socket.sockFd) false
      (holding.after (.init outcomes)).log = some true := by
    change hold _ false (holding.log ++ (holding.endpoint.init outcomes).2) = some true
    rw [hold_then (owns.descriptors _)]
    by_cases resolves : holding.endpoint.Resolves outcomes
    · rw [Endpoint.init_descriptor fresh resolves]
      simp [positive]
    · rw [(Endpoint.init_unresolved fresh resolves).1]
      simp [positive]
  rw [after.descriptors] at kept
  have same := (of_decide_eq_true (Option.some.inj kept)).2
  change holding.endpoint.socket.sockFd = (holding.endpoint.init outcomes).1.socket.sockFd at same
  rcases @Endpoint.init_sockFd holding.endpoint outcomes with opens | fails
  · exact other (same.trans opens)
  · omega

theorem Owns.resolves_before (owns : holding.Owns)
    (possible : (EndpointStep.init outcomes).Possible holding)
    (after : (holding.after (.init outcomes)).Owns) : holding.endpoint.Resolves outcomes := by
  by_contra unresolved
  have fresh := @Owns.fresh_descriptor holding outcomes outcomes.socket owns possible
  obtain ⟨kept, stays, opens⟩ := Endpoint.init_unresolved fresh unresolved
  have held := after.descriptors outcomes.socket
  change hold _ false (holding.log ++ (holding.endpoint.init outcomes).2) =
    some (decide (0 < (holding.endpoint.init outcomes).1.socket.sockFd ∧
      outcomes.socket = (holding.endpoint.init outcomes).1.socket.sockFd)) at held
  rw [hold_then (owns.descriptors _), kept, fresh rfl, stays] at held
  simp [opens] at held

theorem Owns.nonzero_before (owns : holding.Owns)
    (possible : (EndpointStep.init outcomes).Possible holding)
    (after : (holding.after (.init outcomes)).Owns) : outcomes.socket ≠ 0 := by
  intro zero
  have fresh := @Owns.fresh_descriptor holding outcomes 0 owns possible
  have held := after.descriptors 0
  change hold _ false (holding.log ++ (holding.endpoint.init outcomes).2) =
    some (decide (0 < (holding.endpoint.init outcomes).1.socket.sockFd ∧
      0 = (holding.endpoint.init outcomes).1.socket.sockFd)) at held
  rw [hold_then (owns.descriptors _),
    Endpoint.init_descriptor fresh (owns.resolves_before possible after),
    Endpoint.init_failed (Int.le_of_eq zero), zero] at held
  simp at held

/-- An SSL object that is asked for takes the place of none. -/
theorem Owns.unconnected_before (owns : holding.Owns)
    (possible : (EndpointStep.init outcomes).Possible holding)
    (after : (holding.after (.init outcomes)).Owns) (creates : holding.endpoint.Creates outcomes) :
    holding.endpoint.socket.sslConn = none := by
  cases before : holding.endpoint.socket.sslConn with
  | none => rfl
  | some old =>
      have fresh := @Owns.fresh_connection holding outcomes old owns possible
      have held := after.connections old
      change hold _ false (holding.log ++ (holding.endpoint.init outcomes).2) =
        some (decide ((holding.endpoint.init outcomes).1.socket.sslConn = some old)) at held
      rw [hold_then (owns.connections _), Endpoint.init_connection fresh creates, before] at held
      have stays : (holding.endpoint.init outcomes).1.socket.sslConn = some old := by
        simpa using held
      rcases Endpoint.init_sslConn creates with cleared | replaced
      · rw [cleared] at stays
        contradiction
      · have free := fresh (replaced.symm.trans stays)
        simp [before] at free

theorem Owns.init_iff (owns : holding.Owns)
    (possible : (EndpointStep.init outcomes).Possible holding) :
    (holding.after (.init outcomes)).Owns ↔ (EndpointStep.init outcomes).Spares holding.endpoint := by
  constructor
  · intro after
    exact ⟨owns.closed_before possible after, owns.nonzero_before possible after,
      owns.resolves_before possible after, owns.unconnected_before possible after⟩
  · intro spares
    obtain ⟨closed, nonzero, resolves, unconnected⟩ := spares
    constructor
    · intro fd
      have fresh := @Owns.fresh_descriptor holding outcomes fd owns possible
      change hold _ false (holding.log ++ (holding.endpoint.init outcomes).2) = _
      rw [hold_then (owns.descriptors fd), Endpoint.init_descriptor fresh resolves]
      have notBefore : decide (0 < holding.endpoint.socket.sockFd ∧
          fd = holding.endpoint.socket.sockFd) = false := by
        apply decide_eq_false
        omega
      have nonzeroAfter : (holding.endpoint.init outcomes).1.socket.sockFd ≠ 0 := by
        rcases @Endpoint.init_sockFd holding.endpoint outcomes with opens | fails
        · rw [opens]
          exact nonzero
        · omega
      rw [notBefore, Bool.false_or, ← Bool.decide_and]
      apply congrArg
      apply decide_eq_decide.mpr
      change _ ↔ 0 < (holding.endpoint.init outcomes).1.socket.sockFd ∧
        fd = (holding.endpoint.init outcomes).1.socket.sockFd
      omega
    · intro ssl
      have fresh := @Owns.fresh_connection holding outcomes ssl owns possible
      change hold _ false (holding.log ++ (holding.endpoint.init outcomes).2) = _
      rw [hold_then (owns.connections ssl)]
      by_cases creates : holding.endpoint.Creates outcomes
      · rw [Endpoint.init_connection fresh creates, unconnected creates]
        rfl
      · obtain ⟨kept, stays⟩ :=
          @Endpoint.init_without holding.endpoint outcomes
            (decide (holding.endpoint.socket.sslConn = some ssl)) ssl creates
        rw [kept, ← stays]
        rfl

end Init

/-- Closing gives back what is owned; an SSL object stays where SSL is not used. -/
theorem Owns.closed {call : Call Unit} {rest : List (Act (Resource Unit))} (owns : holding.Owns)
    (closes : call.socket = holding.endpoint.socket.closed)
    (acts : call.acts = lockOf () ++ (holding.endpoint.socket.returned ++ rest))
    (descriptors : ∀ fd held, hold (.descriptor fd) held rest = some held)
    (connections : ∀ ssl held, hold (.connection ssl) held rest = some held) :
    Owns ⟨(holding.endpoint.onSocket call).1, holding.log ++ (holding.endpoint.onSocket call).2⟩ := by
  rw [Endpoint.onSocket_acts, acts]
  constructor
  · intro fd
    change hold _ false (holding.log ++ _) = some (decide (
      0 < (holding.endpoint.onSocket call).1.socket.sockFd ∧
        fd = (holding.endpoint.onSocket call).1.socket.sockFd))
    rw [Endpoint.onSocket_socket, closes, hold_then (owns.descriptors fd), hold_lockOf_descriptor,
      Bool.decide_and, Socket.returned_descriptor, descriptors]
    simp [Socket.closed_sockFd_not_pos]
  · intro ssl
    change hold _ false (holding.log ++ _) = some (decide (
      (holding.endpoint.onSocket call).1.socket.sslConn = some ssl))
    rw [Endpoint.onSocket_socket, closes, hold_then (owns.connections ssl), hold_lockOf_connection,
      Socket.returned_connection, connections]

theorem Owns.after_iff {step : EndpointStep} (owns : holding.Owns) (possible : step.Possible holding) :
    (holding.after step).Owns ↔ step.Spares holding.endpoint := by
  cases step with
  | init outcomes => exact owns.init_iff possible
  | setIsUseSSL useSSL =>
      refine ⟨fun _ => trivial, fun _ => ?_⟩
      have kept : (holding.after (.setIsUseSSL useSSL)).log = holding.log ++ (lockOf () ++ unlockOf ()) := by
        change holding.log ++ (holding.endpoint.onSocket _).2 = _
        rw [Endpoint.onSocket_acts]
        rfl
      have same := @Endpoint.onSocket_socket holding.endpoint Bool
        (holding.endpoint.socket.setIsUseSSL useSSL)
      constructor
      · intro fd
        rw [kept, hold_then (owns.descriptors fd), hold_lockOf_descriptor,
          hold_unlockOf_descriptor_last]
        change _ = some (decide (0 < (holding.endpoint.onSocket _).1.socket.sockFd ∧
          fd = (holding.endpoint.onSocket _).1.socket.sockFd))
        rw [same]
        rfl
      · intro ssl
        rw [kept, hold_then (owns.connections ssl), hold_lockOf_connection,
          hold_unlockOf_connection_last]
        change _ = some (decide ((holding.endpoint.onSocket _).1.socket.sslConn = some ssl))
        rw [same]
        rfl
  | closeConnection =>
      refine ⟨fun _ => trivial, fun _ => ?_⟩
      exact owns.closed Socket.closeConnection_socket (by rw [Socket.closeConnection_acts, List.append_assoc])
        (fun _ _ => hold_unlockOf_descriptor_last) (fun _ _ => hold_unlockOf_connection_last)
  | closeSocket =>
      refine ⟨fun _ => trivial, fun _ => ?_⟩
      refine owns.closed Socket.closeSocket_socket (by
        rw [Socket.closeSocket_acts, List.append_assoc, List.append_assoc]) ?_ ?_
      · intro fd held
        simp
      · intro ssl held
        simp

/-- Nothing is left behind the destruction if it frees the SSL object, if any. -/
theorem Owns.destroyed_iff (owns : holding.Owns) : NothingLeft holding.destroyed ↔
    holding.endpoint.socket.sslConn = none ∨ holding.endpoint.socket.useSSL = true := by
  have ownsAfter : (holding.after .closeSocket).Owns :=
    (@Owns.after_iff holding .closeSocket owns trivial).mpr trivial
  have closed : (holding.after .closeSocket).endpoint.socket = holding.endpoint.socket.closed :=
    Endpoint.onSocket_socket _ |>.trans Socket.closeSocket_socket
  have sslConn : holding.endpoint.socket.closed.sslConn = none ↔
      holding.endpoint.socket.sslConn = none ∨ holding.endpoint.socket.useSSL = true := by
    unfold Socket.closed
    cases holding.endpoint.socket.useSSL <;> simp
  rw [← sslConn]
  constructor
  · intro nothing
    cases left : holding.endpoint.socket.closed.sslConn with
    | none => rfl
    | some ssl =>
        have held := ownsAfter.connections ssl
        rw [closed, left] at held
        have free := nothing.connections ssl
        unfold destroyed at free
        rw [free] at held
        simp at held
  · intro freed
    constructor
    · intro fd
      unfold destroyed
      rw [ownsAfter.descriptors, closed]
      simp [Socket.closed_sockFd_not_pos]
    · intro ssl
      unfold destroyed
      rw [ownsAfter.connections, closed, freed]
      rfl

def Goes (holding later : Holding) : Prop :=
  ∃ step : EndpointStep, step.Possible holding ∧ step.Spares holding.endpoint ∧
    holding.after step = later

def Reaches : Holding → Holding → Prop := Relation.ReflTransGen Goes

theorem Unused.owns (unused : holding.Unused) : holding.Owns := by
  constructor
  · intro fd
    rw [unused.log, unused.sockFd]
    rfl
  · intro ssl
    rw [unused.log, unused.sslConn]
    rfl

theorem Reaches.owns (reaches : holding.Reaches later) (owns : holding.Owns) : later.Owns := by
  induction reaches with
  | refl => exact owns
  | tail _ goes ih =>
      obtain ⟨step, possible, spares, ran⟩ := goes
      rw [← ran]
      exact (ih.after_iff possible).mpr spares

/-- In every run of steps that spare what is owned, what is open is what the object
names; there a step keeps this exactly if it spares it, and a destruction leaves
nothing exactly if the SSL object is gone or SSL is still in use. -/
theorem open_is_owned (unused : holding.Unused) (reaches : holding.Reaches later) :
    later.Owns ∧
      (∀ step : EndpointStep, step.Possible later →
        ((later.after step).Owns ↔ step.Spares later.endpoint)) ∧
      (NothingLeft later.destroyed ↔
        later.endpoint.socket.sslConn = none ∨ later.endpoint.socket.useSSL = true) := by
  have owns := reaches.owns unused.owns
  exact ⟨owns, fun _ possible => owns.after_iff possible, owns.destroyed_iff⟩

def preparedClient : Holding := ⟨.tcpClient TCPClient.prepared, []⟩

/-- Connected, closed, connected again and destroyed. -/
theorem open_is_owned_reconnected : ∃ later : Holding,
    later.endpoint.socket.sslConn = some 8 ∧ NothingLeft later.destroyed := by
  let first : OpenOutcomes := ⟨⟨3, none, TCPClient.answering, some 7, true⟩, true, true⟩
  let second : OpenOutcomes := ⟨⟨3, none, TCPClient.answering, some 8, true⟩, true, true⟩
  have unused : preparedClient.Unused := ⟨rfl, rfl, rfl⟩
  have connects : preparedClient.Goes (preparedClient.after (.init first)) := by
    refine ⟨.init first, ⟨fun _ => rfl, fun _ _ => rfl⟩, ⟨by decide, by decide, ?_, fun _ => rfl⟩, rfl⟩
    intro _
    exact Option.some_ne_none _
  have closes : (preparedClient.after (.init first)).Goes
      ((preparedClient.after (.init first)).after .closeConnection) :=
    ⟨.closeConnection, trivial, trivial, rfl⟩
  have reconnects : ((preparedClient.after (.init first)).after .closeConnection).Goes
      (((preparedClient.after (.init first)).after .closeConnection).after (.init second)) := by
    refine ⟨.init second, ⟨fun _ => by decide, fun ssl created => ?_⟩,
      ⟨by decide, by decide, ?_, fun _ => by decide⟩, rfl⟩
    · cases created
      decide
    · intro _
      exact Option.some_ne_none _
  have reaches : preparedClient.Reaches _ := .tail (.tail (.tail .refl connects) closes) reconnects
  exact ⟨_, by decide, (open_is_owned unused reaches).2.2.mpr (.inr (by decide))⟩

/-- A client with an address of one octet. -/
def named : Holding := ⟨.tcpClient { TCPClient.prepared with address := [10] }, []⟩

/-- The name is not resolved, so `init` closes its descriptor, and `closeSocket`
closes it again. -/
theorem closed_twice :
    named.Unused ∧
    (EndpointStep.init ⟨⟨3, none, TCPClient.answering, none, false⟩, true, true⟩).Possible named ∧
    hold (.descriptor 3) false
      ((named.after (.init ⟨⟨3, none, TCPClient.answering, none, false⟩, true, true⟩)).after
        .closeSocket).log = none ∧
    ¬ (named.after (.init ⟨⟨3, none, TCPClient.answering, none, false⟩, true, true⟩)).Owns := by
  have notClosed : hold (.descriptor 3) false
      (named.after (.init ⟨⟨3, none, TCPClient.answering, none, false⟩, true, true⟩)).log =
        some false := by
    decide
  refine ⟨⟨rfl, rfl, rfl⟩, ⟨fun _ => rfl, fun _ _ => rfl⟩, by decide, fun owns => ?_⟩
  rw [owns.descriptors 3] at notClosed
  exact absurd notClosed (by decide)

end Holding

end SynapTCP
