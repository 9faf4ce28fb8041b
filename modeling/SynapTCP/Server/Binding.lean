import SynapTCP.Data.Throughout
import SynapTCP.Client.Init
import SynapTCP.Server.Configuration
import SynapTCP.Server.Runs
import SynapTCP.Socket.Closing

namespace SynapTCP

open Data

/-! # The endpoint of a server

`addr` holds the port that `setPort` configures, is what `accept` writes the peer
into, and is what `init` binds.
-/

namespace Socket

variable {socket : Socket} {outcomes : ListenOutcomes} {behind : Fin 4 → UInt8}

/-- What `init` binds, if it has a descriptor.  `memcpy` takes four bytes, also of an
address with fewer of them; `behind` is what lies behind it in memory. -/
def bound (socket : Socket) (outcomes : ListenOutcomes) (behind : Fin 4 → UInt8) :
    Option SockAddr :=
  if outcomes.socket ≤ 0 then none
  else some ⟨socket.addr.port, (socket.address ++ List.ofFn behind).take 4⟩

theorem take_four_iff (address : List UInt8) :
    (address ++ List.ofFn behind).take 4 = address ↔ address.length = 4 := by
  constructor
  · intro same
    have lengths := congrArg List.length same
    rw [List.length_take, List.length_append, List.length_ofFn] at lengths
    omega
  · intro four
    exact List.take_left' four

/-- The address of four octets that is bound is the one that `init` leaves. -/
theorem bound_eq (four : socket.address.length = 4) (opens : 0 < outcomes.socket) :
    socket.bound outcomes behind = some (socket.initServer outcomes).socket.addr := by
  have some : ¬ outcomes.socket ≤ 0 := Int.not_le.mpr opens
  have whole : socket.address.take 4 = socket.address := by
    rw [← four, List.take_length]
  unfold bound initServer
  rw [if_neg some, if_neg some, (take_four_iff socket.address).mpr four]
  dsimp only
  rw [whole]
  split
  · rfl
  · split <;> rfl

theorem initServer_frame : ∃ sockFd host,
    (socket.initServer outcomes).socket = { socket with sockFd, addr.host := host } := by
  unfold initServer
  dsimp only
  split
  · exact ⟨outcomes.socket, socket.addr.host, rfl⟩
  · split
    · exact ⟨-1, socket.address.take 4, rfl⟩
    · split
      · exact ⟨-1, socket.address.take 4, rfl⟩
      · exact ⟨outcomes.socket, socket.address.take 4, rfl⟩

theorem setPort_getPort (port : Int) : ((socket.setPort port).socket.getPort : Int) =
    if (socket.setPort port).result then port else socket.getPort := by
  unfold setPort
  by_cases refused : port ≤ 0 ∨ 65535 < port
  · rw [if_pos refused]
    rfl
  · rw [if_neg refused]
    have inRange : port.toNat % 2 ^ 16 = port.toNat := Nat.mod_eq_of_lt (by omega)
    show ((port.toNat.toUInt16.toNat : Nat) : Int) = port
    rw [UInt16.toNat_ofNat', inRange]
    omega

end Socket

/-- A server, and the port and the address that were accepted last. -/
structure Announced where
  server : Server
  port : Int
  address : List UInt8

inductive ListeningStep where
  | setPort (port : Int)
  | setAddress (address : Bytes)
  | setAddressOctets (address : List UInt8)
  | setAddressVector (address : List UInt8)
  | init (outcomes : ListenOutcomes) (behind : Fin 4 → UInt8)
  | eventCheck (outcomes : Outcomes)
  | acceptNewClient (outcomes : Outcomes)
  | closeSocket (closes again : Bool)

namespace Server

def onSelf {α : Type} (server : Server) (call : Call α) : Server :=
  { server with toSocket := call.socket }.emit (call.actsOf .server)

end Server

namespace ListeningStep

variable {state next : Announced} {step : ListeningStep} {steps : List ListeningStep}

def run (state : Announced) : ListeningStep → Option Announced
  | .setPort port =>
      let call := state.server.setPort port
      some { state with
        server := state.server.onSelf call
        port := if call.result then port else state.port }
  | .setAddress address =>
      let call := state.server.setAddress address
      some { state with
        server := state.server.onSelf call
        address := if call.result then Socket.octetsOf 0 address else state.address }
  | .setAddressOctets address =>
      let call := state.server.setAddressOctets address
      some { state with
        server := state.server.onSelf call
        address := if call.result then address.take 4 else state.address }
  | .setAddressVector address =>
      let call := state.server.setAddressVector address
      some { state with
        server := state.server.onSelf call
        address := if call.result then address else state.address }
  | .init outcomes _ =>
      some { state with server := state.server.onSelf (state.server.initServer outcomes) }
  | .eventCheck outcomes =>
      (state.server.eventCheck outcomes).map fun event => { state with server := event.2 }
  | .acceptNewClient outcomes =>
      (state.server.acceptNewClient outcomes).map fun added => { state with server := added.2 }
  | .closeSocket closes again =>
      some { state with server := state.server.onSelf (state.server.closeSocket closes again) }

def Leads (state : Announced) (step : ListeningStep) (next : Announced) : Prop :=
  step.run state = some next

/-- The object has the port and the address that were accepted last. -/
structure Kept (state : Announced) : Prop where
  port : (state.server.getPort : Int) = state.port
  address : state.server.address = state.address

/-- Behind the step `getPort` gives the port that was accepted last, and an `init`
binds that port and the address that was accepted last. -/
structure Keeps (state : Announced) (step : ListeningStep) : Prop where
  port : ∀ next, step.Leads state next → (next.server.getPort : Int) = next.port
  bound : ∀ outcomes behind addr, step = .init outcomes behind →
    state.server.bound outcomes behind = some addr →
    (addr.port.toNat : Int) = state.port ∧ addr.host = state.address

def TakesPeer (state : Announced) (step : ListeningStep) (peer : SockAddr) : Prop :=
  ∃ outcomes, outcomes.peer = peer ∧ 0 ≤ outcomes.connFd ∧
    (step = .acceptNewClient outcomes ∨
      step = .eventCheck outcomes ∧ state.server.Accepts outcomes)

/-- The step, if it returns, takes no connection from a peer with another port than
the server's, and does not bind an address without four octets. -/
structure Spares (state : Announced) (step : ListeningStep) : Prop where
  peers : ∀ next, step.Leads state next → ∀ peer, step.TakesPeer state peer →
    peer.port = state.server.addr.port
  octets : ∀ outcomes behind, step = .init outcomes behind → 0 < outcomes.socket →
    state.server.address.length = 4

theorem not_takesPeer (notAccept : ∀ outcomes, step ≠ .acceptNewClient outcomes)
    (notCheck : ∀ outcomes, step ≠ .eventCheck outcomes) (peer : SockAddr) :
    ¬ step.TakesPeer state peer := by
  intro takes
  obtain ⟨outcomes, -, -, isAccept | ⟨isCheck, -⟩⟩ := takes
  · exact notAccept outcomes isAccept
  · exact notCheck outcomes isCheck

theorem Kept.sets {call : Call Bool} {given : List UInt8} (kept : Kept state)
    (writes : call.result = true ∧ call.socket = { state.server.toSocket with address := given } ∨
      call.result = false ∧ call.socket = state.server.toSocket) :
    Kept { state with
      server := state.server.onSelf call
      address := if call.result then given else state.address } := by
  obtain ⟨accepted, same⟩ | ⟨refused, same⟩ := writes
  · refine ⟨Eq.trans ?_ kept.port, ?_⟩
    · exact (congrArg (fun socket : Socket => (socket.getPort : Int)) same :)
    · rw [accepted]
      exact (congrArg Socket.address same :)
  · refine ⟨Eq.trans ?_ kept.port, ?_⟩
    · exact (congrArg (fun socket : Socket => (socket.getPort : Int)) same :)
    · rw [refused]
      exact (congrArg Socket.address same :).trans kept.address

theorem Kept.frame {server : Server} (kept : Kept state)
    (addr : server.addr.port = state.server.addr.port)
    (address : server.address = state.server.address) : Kept { state with server } := by
  refine ⟨Eq.trans ?_ kept.port, address.trans kept.address⟩
  show ((server.addr.port.toNat : Nat) : Int) = _
  rw [addr]
  rfl

theorem eventCheck_kept_or_taken {outcomes : Outcomes} (kept : Kept state)
    (leads : (ListeningStep.eventCheck outcomes).Leads state next) :
    (Kept next ∧ ∀ peer, ¬ (ListeningStep.eventCheck outcomes).TakesPeer state peer) ∨
      ∃ peer, (ListeningStep.eventCheck outcomes).TakesPeer state peer ∧
        next.server.addr = peer ∧ next.server.address = next.address ∧ next.port = state.port := by
  obtain ⟨event, checks, result⟩ := Option.map_eq_some_iff.mp leads
  cases result
  rcases Server.eventCheck_setup checks with ⟨same, untaken⟩ | ⟨accepted, accepts, peer⟩
  · have object : event.2.toSocket = state.server.toSocket :=
      @Server.toSocket_of_setup state.server event.2 state.server.addr same
    have port : event.2.addr.port = state.server.addr.port :=
      (congrArg (fun socket : Socket => socket.addr.port) object :)
    refine .inl ⟨kept.frame port (congrArg Socket.address object :), fun peer takes => ?_⟩
    obtain ⟨others, -, opens, isAccept | ⟨isCheck, accepts⟩⟩ := takes
    · contradiction
    · cases isCheck
      exact untaken ⟨accepts, opens⟩
  · have object := Server.toSocket_of_setup accepted
    have address : event.2.address = state.server.address := (congrArg Socket.address object :)
    exact .inr ⟨_, ⟨outcomes, rfl, peer, .inr ⟨rfl, accepts⟩⟩, congrArg Socket.addr object,
      address.trans kept.address, rfl⟩

theorem acceptNewClient_kept_or_taken {outcomes : Outcomes} (kept : Kept state)
    (leads : (ListeningStep.acceptNewClient outcomes).Leads state next) :
    (Kept next ∧ ∀ peer, ¬ (ListeningStep.acceptNewClient outcomes).TakesPeer state peer) ∨
      ∃ peer, (ListeningStep.acceptNewClient outcomes).TakesPeer state peer ∧
        next.server.addr = peer ∧ next.server.address = next.address ∧ next.port = state.port := by
  obtain ⟨added, accepts, result⟩ := Option.map_eq_some_iff.mp leads
  cases result
  have object := Server.toSocket_of_setup (Server.acceptNewClient_setup accepts)
  have address : added.2.address = state.server.address := (congrArg Socket.address object :)
  have addr := congrArg Socket.addr object
  by_cases peer : 0 ≤ outcomes.connFd
  · rw [if_pos peer] at addr
    exact .inr ⟨_, ⟨outcomes, rfl, peer, .inl rfl⟩, addr, address.trans kept.address, rfl⟩
  · rw [if_neg peer] at addr
    have port : added.2.addr.port = state.server.addr.port := (congrArg SockAddr.port addr :)
    refine .inl ⟨kept.frame port address, fun peer takes => ?_⟩
    obtain ⟨others, -, opens, isAccept | ⟨isCheck, -⟩⟩ := takes
    · cases isAccept
      contradiction
    · contradiction

/-- A setter, an `init` and a close leave what was accepted, and so do the other
steps except that `accept` writes the peer into `addr`. -/
theorem kept_or_taken (kept : Kept state) (leads : step.Leads state next) :
    (Kept next ∧ ∀ peer, ¬ step.TakesPeer state peer) ∨
      ∃ peer, step.TakesPeer state peer ∧ next.server.addr = peer ∧
        next.server.address = next.address ∧ next.port = state.port := by
  cases step with
  | setPort port =>
      cases leads
      refine .inl ⟨⟨(Socket.setPort_getPort port).trans ?_, ?_⟩, not_takesPeer (by simp) (by simp)⟩
      · rw [kept.port]
      · refine Eq.trans ?_ kept.address
        unfold Socket.setPort
        split <;> rfl
  | setAddress address =>
      cases leads
      refine .inl ⟨kept.sets ?_, not_takesPeer (by simp) (by simp)⟩
      unfold Socket.setAddress
      split
      · exact .inr ⟨rfl, rfl⟩
      · exact .inl ⟨rfl, rfl⟩
  | setAddressOctets address =>
      cases leads
      refine .inl ⟨kept.sets ?_, not_takesPeer (by simp) (by simp)⟩
      unfold Socket.setAddressOctets
      split
      · exact .inr ⟨rfl, rfl⟩
      · exact .inl ⟨rfl, rfl⟩
  | setAddressVector address =>
      cases leads
      refine .inl ⟨kept.sets ?_, not_takesPeer (by simp) (by simp)⟩
      unfold Socket.setAddressVector
      split
      · exact .inr ⟨rfl, rfl⟩
      · exact .inl ⟨rfl, rfl⟩
  | init outcomes behind =>
      cases leads
      obtain ⟨sockFd, host, same⟩ := @Socket.initServer_frame state.server.toSocket outcomes
      refine .inl ⟨kept.frame ?_ (congrArg Socket.address same :), not_takesPeer (by simp) (by simp)⟩
      exact (congrArg (fun socket : Socket => socket.addr.port) same :)
  | closeSocket closes again =>
      cases leads
      obtain ⟨sockFd, sslConn, same⟩ :=
        @Socket.closeSocket_frame state.server.toSocket closes again
      refine .inl ⟨kept.frame ?_ (congrArg Socket.address same :), not_takesPeer (by simp) (by simp)⟩
      exact (congrArg (fun socket : Socket => socket.addr.port) same :)
  | eventCheck outcomes => exact eventCheck_kept_or_taken kept leads
  | acceptNewClient outcomes => exact acceptNewClient_kept_or_taken kept leads

theorem keeps_iff (kept : Kept state) : step.Keeps state ↔ step.Spares state := by
  have portIff : ∀ next, step.Leads state next → ((next.server.getPort : Int) = next.port ↔
      ∀ peer, step.TakesPeer state peer → peer.port = state.server.addr.port) := by
    intro next leads
    rcases kept_or_taken kept leads with ⟨keptNext, untaken⟩ | ⟨peer, takes, addr, -, port⟩
    · exact iff_of_true keptNext.port fun peer takes => absurd takes (untaken peer)
    · have here : (next.server.getPort : Int) = peer.port.toNat := by
        rw [← addr]
        rfl
      rw [here, port, ← kept.port]
      constructor
      · intro same other takesOther
        have unique : other = peer := by
          obtain ⟨outcomes, isPeer, -, isStep⟩ := takes
          obtain ⟨others, isOther, -, isStepOther⟩ := takesOther
          rw [← isPeer, ← isOther]
          rcases isStep with isAccept | ⟨isCheck, -⟩
          · rw [isAccept] at isStepOther
            simp_all
          · rw [isCheck] at isStepOther
            simp_all
        rw [unique]
        exact UInt16.toNat_inj.mp (Int.ofNat.inj same)
      · intro same
        rw [same peer takes]
        rfl
  constructor
  · intro keeps
    refine ⟨fun next leads => (portIff next leads).mp (keeps.port next leads), ?_⟩
    intro outcomes behind isInit opens
    have some : ¬ outcomes.socket ≤ 0 := Int.not_le.mpr opens
    have host := (keeps.bound outcomes behind _ isInit (if_neg some)).2
    rw [← kept.address] at host
    exact (Socket.take_four_iff _).mp host
  · intro spares
    refine ⟨fun next leads => (portIff next leads).mpr (spares.peers next leads), ?_⟩
    intro outcomes behind addr isInit bound
    unfold Socket.bound at bound
    split at bound
    · contradiction
    · rename_i some
      cases bound
      refine ⟨kept.port, ?_⟩
      rw [← kept.address]
      exact (Socket.take_four_iff _).mpr (spares.octets outcomes behind isInit (Int.not_le.mp some))

/-- A run keeps the endpoint exactly if it takes connections only from peers with
the server's port and binds only addresses of four octets. -/
theorem keepsEndpoint_iff (server : Server) (steps : List ListeningStep) :
    Throughout Leads (fun state step => step.Keeps state)
        ⟨server, server.getPort, server.address⟩ steps ↔
      Throughout Leads (fun state step => step.Spares state)
        ⟨server, server.getPort, server.address⟩ steps := by
  refine @throughout_congr _ _ _ _ _ Kept _ _ ⟨rfl, rfl⟩ ?_ ?_
  · intro state step kept
    exact keeps_iff kept
  · intro state step next kept keeps leads
    refine ⟨keeps.port next leads, ?_⟩
    rcases kept_or_taken kept leads with ⟨keptNext, -⟩ | ⟨peer, -, -, address, -⟩
    · exact keptNext.address
    · exact address

def connecting : Outcomes :=
  { Server.quiet with connFd := 5, peer := ⟨4000, [10, 0, 0, 7]⟩ }

/-- Behind it the server has the port 4000 and would bind it. -/
theorem accept_changes_port :
    (∃ next, (ListeningStep.acceptNewClient connecting).Leads
        ⟨Server.listening, Server.listening.getPort, Server.listening.address⟩ next ∧
      next.port = 3000 ∧ next.server.getPort = 4000 ∧
      next.server.bound ⟨3, true, true⟩ (fun _ => 0) = some ⟨4000, [127, 0, 0, 1]⟩) ∧
    ¬ ∀ (server : Server) (steps : List ListeningStep),
      Throughout Leads (fun state step => step.Keeps state)
        ⟨server, server.getPort, server.address⟩ steps := by
  have result : ((ListeningStep.acceptNewClient connecting).run
      ⟨Server.listening, Server.listening.getPort, Server.listening.address⟩).map
        (fun next => (next.port, next.server.getPort,
          next.server.bound ⟨3, true, true⟩ fun _ => 0)) =
      some (3000, 4000, some ⟨4000, [127, 0, 0, 1]⟩) := by
    decide +kernel
  obtain ⟨next, ran, values⟩ := Option.map_eq_some_iff.mp result
  simp only [Prod.mk.injEq] at values
  obtain ⟨port, getPort, bound⟩ := values
  refine ⟨⟨next, ran, port, getPort, bound⟩, fun all => ?_⟩
  have kept := (all Server.listening [.acceptNewClient connecting]).1.port next ran
  rw [port, getPort] at kept
  exact absurd kept (by decide)

end ListeningStep

end SynapTCP
