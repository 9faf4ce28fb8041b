import SynapTCP.Server.Runs
import SynapTCP.Socket.Addresses

namespace SynapTCP

open Data

/-! # Accepting a client

What `acceptNewClient` leaves behind for each descriptor and peer that `accept`
gives, and for each end of the SSL steps.
-/

namespace Server

variable {server middle after : Server} {ring : List CollectionId} {node : CollectionId}
  {client : ClientId} {socket object : Socket} {connFd : Int} {outcomes : Outcomes}

/-! ## The descriptors that are closed -/

def closed (log : List Effect) : List Int :=
  log.filterMap fun
    | .act (.release (.descriptor fd)) => some fd
    | _ => none

theorem closed_append (log more : List Effect) : closed (log ++ more) = closed log ++ closed more :=
  List.filterMap_append

theorem closed_emit {acts : List (Act (Resource Owner))} (nothing : closed (acts.map .act) = []) :
    closed (server.emit acts).log = closed server.log := by
  rw [emit, closed_append, nothing, List.append_nil]

theorem closed_setAddress {address : Bytes} :
    closed (server.onClient client (socket.setAddress address)).log = closed server.log := by
  apply closed_emit
  unfold Socket.setAddress
  split <;> rfl

theorem closed_setPort {port : Int} :
    closed (server.onClient client (socket.setPort port)).log = closed server.log := by
  apply closed_emit
  unfold Socket.setPort
  split <;> rfl

theorem closed_newClient : closed server.newClient.log = closed server.log := by
  unfold newClient
  rw [closed_emit rfl]
  exact (closed_emit rfl).trans (closed_emit rfl)

/-! ## Attaching the connection -/

/-- The SSL steps of the server succeed, or it does not use SSL. -/
def Secures (server : Server) (outcomes : Outcomes) : Prop :=
  server.useSSL = true →
    server.sslWarper = true ∧ outcomes.createSSL ≠ none ∧ outcomes.acceptSSL = true

theorem attachClient_result :
    (server.attachClient client socket connFd outcomes).1 = true ↔ server.Secures outcomes := by
  unfold attachClient Secures
  dsimp only
  split
  · rename_i ssl
    have ssl : server.useSSL = true := ssl
    split
    · rename_i without
      have without : server.sslWarper = false := without
      simp [ssl, without]
    · rename_i warper
      have warper : server.sslWarper = true := Bool.not_eq_false _ ▸ warper
      split
      · rename_i failed
        simp [ssl, failed]
      · rename_i created
        split
        · rename_i unaccepted
          simp [ssl, unaccepted]
        · rename_i accepted
          simp [ssl, warper, created, Bool.not_eq_false _ ▸ accepted]
  · rename_i plain
    exact iff_of_true rfl fun ssl => absurd ssl plain

/-- The client keeps its address, and takes the descriptor if `setSocketFd` does. -/
theorem attachClient_client (made : server.clients.get? client = some object) :
    ∃ attached, (server.attachClient client socket connFd outcomes).2.clients.get? client =
        some attached ∧
      attached.address = socket.address ∧ attached.addr = socket.addr ∧
      attached.sockFd = (socket.setSocketFd connFd).socket.sockFd := by
  have given : ((server.onClient client (socket.setSocketFd connFd)).onClient client
      ((socket.setSocketFd connFd).socket.setSSLPointer none)).clients.get? client =
        some ((socket.setSocketFd connFd).socket.setSSLPointer none).socket :=
    Arena.get?_set_self (Arena.get?_set_self made)
  have address : (socket.setSocketFd connFd).socket.address = socket.address ∧
      (socket.setSocketFd connFd).socket.addr = socket.addr := by
    unfold Socket.setSocketFd
    split <;> exact ⟨rfl, rfl⟩
  unfold attachClient
  dsimp only
  split
  · split
    · exact ⟨_, given, address.1, address.2, rfl⟩
    · split
      · exact ⟨_, given, address.1, address.2, rfl⟩
      · split
        · exact ⟨_, given, address.1, address.2, rfl⟩
        · exact ⟨_, Arena.get?_set_self given, address.1, address.2, rfl⟩
  · exact ⟨_, given, address.1, address.2, rfl⟩

theorem closed_attachClient :
    closed (server.attachClient client socket connFd outcomes).2.log = closed server.log := by
  have given : closed ((server.onClient client (socket.setSocketFd connFd)).onClient client
      ((socket.setSocketFd connFd).socket.setSSLPointer none)).log = closed server.log := by
    refine (closed_emit rfl).trans (closed_emit ?_)
    unfold Socket.setSocketFd
    split <;> rfl
  unfold attachClient
  dsimp only
  split
  · split
    · exact given
    · split
      · exact given
      · split
        · exact (closed_emit rfl).trans ((closed_emit rfl).trans given)
        · exact (closed_emit rfl).trans ((closed_emit rfl).trans given)
  · exact given

/-! ## Adding the client -/

/-- The new client is the last of the ring and reports the server's address. -/
structure Joined (server after : Server) (ring : List CollectionId) (connFd : Int) : Prop where
  chained : after.Chained (ring ++ [server.collections.fresh])
  kept : ∀ other, other ≠ server.collections.fresh → after.clientAt other = server.clientAt other
  here : after.clientAt server.collections.fresh = some server.clients.fresh
  attached : ∃ attached, after.clients.get? server.clients.fresh = some attached ∧
    attached.address = Socket.octetsOf 0 (Socket.dotted server.addr.host) ∧
    attached.addr = server.addr ∧
    attached.sockFd = if connFd ≤ 0 ∨ 65535 ≤ connFd then server.sockFd else connFd
  unclosed : closed after.log = closed server.log

theorem addClient_joins (chained : server.Chained ring)
    (address : Socket.isValidIPAddress (Socket.dotted server.addr.host) = true)
    (port : server.addr.port ≠ 0) (secures : server.Secures outcomes) :
    ∃ after, server.addClient connFd outcomes = some (true, after) ∧
      Joined server after ring connFd := by
  let client := server.clients.fresh
  let addressed := (server.toSocket.duplicate Socket.new).setAddress (Socket.dotted server.addr.host)
  let ported := addressed.socket.setPort server.addr.port.toNat
  let named := ((server.newClient.onClient client addressed).onClient client ported).lock
  have validAddress : addressed.result = true := Socket.setAddress_result.trans address
  have validPort : ported.result = true := by
    rw [Socket.setPort_result, decide_eq_true port]
  have prepared : Prepared server named client := ((Prepared.newClient.onClient _).onClient _).lock
  obtain ⟨object, made⟩ := prepared.made
  obtain ⟨attached, there, sameAddress, sameAddr, sockFd⟩ :=
    @attachClient_client named client ported.socket object connFd outcomes made
  have result : (named.attachClient client ported.socket connFd outcomes).1 = true :=
    attachClient_result.mpr secures
  have preparedToo : Prepared server (named.attachClient client ported.socket connFd outcomes).2
    client := prepared.attachClient
  obtain ⟨after, links, linked, chainedAfter⟩ :=
    @linkClient_chained _ _ client outcomes (preparedToo.chained chained)
  have adds : server.addClient connFd outcomes = some (true, after) := by
    show (if addressed.result = false then _ else if ported.result = false then _ else
      if (named.attachClient client ported.socket connFd outcomes).1 = false then _ else
        ((named.attachClient client ported.socket connFd outcomes).2.linkClient client outcomes).map
          (true, ·)) = _
    rw [validAddress, validPort, result, if_neg (by decide), if_neg (by decide),
      if_neg (by decide), links, Option.map_some]
  rw [preparedToo.collections] at linked chainedAfter
  have addressedSocket : addressed.socket = { server.toSocket.duplicate Socket.new with
      address := Socket.octetsOf 0 (Socket.dotted server.addr.host) } :=
    Socket.setAddress_socket address
  have portedSocket : ported.socket = { addressed.socket with addr.port := server.addr.port } :=
    Socket.setPort_socket port
  refine ⟨after, adds, chainedAfter, ?_, linked.here, ⟨attached, ?_, ?_, ?_, ?_⟩, ?_⟩
  · intro other apart
    rw [linked.kept other apart, clientAt, preparedToo.collections]
    rfl
  · rw [linked.clients, there]
  · rw [sameAddress, portedSocket, addressedSocket]
  · rw [sameAddr, portedSocket, addressedSocket]
    rfl
  · rw [sockFd, Socket.setSocketFd_sockFd, portedSocket, addressedSocket]
    rfl
  · rw [linked.log, closed_attachClient]
    exact (closed_emit rfl).trans (closed_setPort.trans (closed_setAddress.trans closed_newClient))

theorem addClient_refuses {added : Bool × Server}
    (refused : ¬ (Socket.isValidIPAddress (Socket.dotted server.addr.host) = true ∧
      server.addr.port ≠ 0 ∧ server.Secures outcomes))
    (adds : server.addClient connFd outcomes = some added) :
    added.2.collections = server.collections := by
  have prepared : Prepared server server.newClient server.clients.fresh := .newClient
  have gone : ∀ {middle}, Prepared server middle server.clients.fresh →
      (middle.deleteClient server.clients.fresh outcomes).map (false, ·) = some added →
        added.2.collections = server.collections := by
    intro middle prepared deletes
    obtain ⟨after, givesUp, same⟩ :=
      @Prepared.deleteClient server middle _ outcomes prepared Arena.get?_fresh
    rw [givesUp, Option.map_some] at deletes
    cases deletes
    exact same.collections
  unfold addClient at adds
  dsimp only at adds
  split at adds
  · exact gone (prepared.onClient _) adds
  · rename_i validAddress
    split at adds
    · exact gone ((prepared.onClient _).onClient _) adds
    · rename_i validPort
      split at adds
      · exact gone ((prepared.onClient _).onClient _).lock.attachClient adds
      · rename_i attached
        rw [Bool.not_eq_false, Socket.setAddress_result] at validAddress
        rw [Bool.not_eq_false, Socket.setPort_result, decide_eq_true_eq] at validPort
        rw [Bool.not_eq_false, attachClient_result] at attached
        exact absurd ⟨validAddress, validPort, attached⟩ refused

/-! ## Accepting it -/

/-- The object has the accepted descriptor and reports the peer. -/
structure ServesPeer (socket : Socket) (outcomes : Outcomes) : Prop where
  descriptor : socket.sockFd = outcomes.connFd
  address : socket.getAddress.result = Socket.dotted outcomes.peer.host
  port : socket.getPort = outcomes.peer.port.toNat

/-- The call appends one node with a client for the peer, and closes nothing. -/
structure Appends (server after : Server) (outcomes : Outcomes) : Prop where
  ring : ∃ ring node, server.Chained ring ∧ server.collections.get? node = none ∧
    after.Chained (ring ++ [node]) ∧ ∃ client socket, after.clientAt node = some client ∧
      after.clients.get? client = some socket ∧ ServesPeer socket outcomes
  unclosed : closed after.log = closed server.log

/-- The call leaves the server as it was, and closes the accepted descriptor only. -/
structure Refuses (server after : Server) (outcomes : Outcomes) : Prop where
  clientList : after.clientList = server.clientList
  nodes : ∀ node, after.shapeAt node = server.shapeAt node
  client : after.client = server.client
  sockFd : after.sockFd = server.sockFd
  closes : closed after.log = closed server.log ++ [outcomes.connFd]

/-- Accepting is all or nothing. -/
def AcceptsAtomically (server : Server) (outcomes : Outcomes) : Prop :=
  ∃ accepted after, server.acceptNewClient outcomes = some (accepted, after) ∧
    if accepted then Appends server after outcomes else Refuses server after outcomes

/-- The server behind `accept`. -/
def accepting (server : Server) (outcomes : Outcomes) : Server :=
  { server.lock with addr := outcomes.peer }.emit [.acquire (.descriptor outcomes.connFd)]

theorem acceptNewClient_eq (accepts : 0 < outcomes.connFd) : server.acceptNewClient outcomes =
    ((server.accepting outcomes).addClient outcomes.connFd outcomes).map
      fun added => (true, added.2.unlock) := by
  unfold acceptNewClient
  dsimp only
  rw [if_neg (by omega), if_pos (by omega)]
  rfl

/-- The peer's address and port are such that the setters of the client take them, and
the SSL steps succeed. -/
def Admits (server : Server) (outcomes : Outcomes) : Prop :=
  Socket.isValidIPAddress (Socket.dotted outcomes.peer.host) = true ∧
    outcomes.peer.port ≠ 0 ∧ server.Secures outcomes

theorem admits_iff (octets : outcomes.peer.host.length = 4) : server.Admits outcomes ↔
    outcomes.peer.host[3]? ≠ some 255 ∧ outcomes.peer.port ≠ 0 ∧ server.Secures outcomes := by
  rw [Admits, Socket.isValidIPAddress_dotted octets, Socket.isValidIPAddressOctets,
    decide_eq_true_eq]

theorem acceptNewClient_joins (accepts : 0 < outcomes.connFd) (chained : server.Chained ring)
    (admits : server.Admits outcomes) :
    ∃ after, server.acceptNewClient outcomes = some (true, after) ∧
      Joined (server.accepting outcomes) after ring outcomes.connFd ∧
      closed after.log = closed server.log := by
  obtain ⟨after, joins, joined⟩ := @addClient_joins (server.accepting outcomes) ring
    outcomes.connFd outcomes ⟨chained.isRing, chained.head⟩ admits.1 admits.2.1 admits.2.2
  have unlocked : closed after.unlock.log = closed after.log := closed_emit rfl
  have entered : closed (server.accepting outcomes).log = closed server.log :=
    (closed_emit rfl).trans (closed_emit rfl)
  refine ⟨after.unlock, by rw [acceptNewClient_eq accepts, joins, Option.map_some], ?_, ?_⟩
  · exact ⟨⟨joined.chained.isRing, joined.chained.head⟩, joined.kept, joined.here,
      joined.attached, unlocked.trans joined.unclosed⟩
  · exact unlocked.trans (joined.unclosed.trans entered)

theorem acceptNewClient_answers {accepted : Bool} (accepts : 0 < outcomes.connFd)
    (ran : server.acceptNewClient outcomes = some (accepted, after)) : accepted = true := by
  rw [acceptNewClient_eq accepts] at ran
  obtain ⟨added, -, same⟩ := Option.map_eq_some_iff.mp ran
  cases same
  rfl

theorem acceptNewClient_refuses {accepted : Bool} (accepts : 0 < outcomes.connFd)
    (refused : ¬ server.Admits outcomes)
    (ran : server.acceptNewClient outcomes = some (accepted, after)) :
    after.collections = server.collections := by
  rw [acceptNewClient_eq accepts] at ran
  obtain ⟨added, adds, same⟩ := Option.map_eq_some_iff.mp ran
  cases same
  exact @addClient_refuses (server.accepting outcomes) _ _ _ refused adds

/-- The one new node has the client with the accepted descriptor only if that is in the
range of `setSocketFd`. -/
theorem Joined.small (joined : Joined (server.accepting outcomes) after ring outcomes.connFd)
    (apart : outcomes.connFd ≠ server.sockFd) (appends : Appends server after outcomes) :
    outcomes.connFd < 65535 := by
  obtain ⟨ring, node, -, new, -, client, socket, here, there, serves⟩ := appends.ring
  obtain ⟨attached, found, -, -, sockFd⟩ := joined.attached
  have last : node = server.collections.fresh := by
    by_contra other
    have none : after.clientAt node = (server.collections.get? node).map _ :=
      joined.kept node other
    rw [new, Option.map_none, here] at none
    contradiction
  rw [last] at here
  rw [Option.some.inj (here.symm.trans joined.here)] at there
  rw [Option.some.inj (there.symm.trans found)] at serves
  by_contra large
  rw [serves.descriptor, if_pos (by omega)] at sockFd
  exact apart sockFd

theorem Joined.serves (joined : Joined (server.accepting outcomes) after ring outcomes.connFd)
    (octets : outcomes.peer.host.length = 4) (accepts : 0 < outcomes.connFd)
    (small : outcomes.connFd < 65535) :
    ∃ client socket, after.clientAt server.collections.fresh = some client ∧
      after.clients.get? client = some socket ∧ ServesPeer socket outcomes := by
  obtain ⟨attached, found, address, addr, sockFd⟩ := joined.attached
  have host : attached.address = outcomes.peer.host :=
    address.trans (Socket.octetsOf_dotted octets)
  refine ⟨_, attached, joined.here, found, ?_, ?_, ?_⟩
  · rw [sockFd, if_neg (by omega)]
  · rw [Socket.getAddress, host, if_neg (by omega)]
    rfl
  · rw [Socket.getPort, addr]
    rfl

/-- Accepting is atomic if and only if the list is a ring, `setAddress`, `setPort` and
`setSocketFd` take what they are given, and the SSL steps succeed. -/
theorem acceptNewClient_atomic_iff (accepts : 0 < outcomes.connFd)
    (apart : outcomes.connFd ≠ server.sockFd) (octets : outcomes.peer.host.length = 4) :
    server.AcceptsAtomically outcomes ↔ (∃ ring, server.Chained ring) ∧
      outcomes.peer.host[3]? ≠ some 255 ∧ outcomes.peer.port ≠ 0 ∧
      outcomes.connFd < 65535 ∧ server.Secures outcomes := by
  constructor
  · intro atomic
    obtain ⟨accepted, after, ran, ends⟩ := atomic
    rw [acceptNewClient_answers accepts ran, if_pos rfl] at ends
    by_cases admits : server.Admits outcomes
    · obtain ⟨ring, node, chained, -⟩ := ends.ring
      obtain ⟨later, joins, joined, -⟩ := acceptNewClient_joins accepts chained admits
      rw [joins] at ran
      cases ran
      obtain ⟨address, port, secures⟩ := (admits_iff octets).mp admits
      exact ⟨⟨ring, chained⟩, address, port, joined.small apart ends, secures⟩
    · have nothing := acceptNewClient_refuses accepts admits ran
      obtain ⟨ring, node, -, new, -, client, socket, here, -⟩ := ends.ring
      rw [clientAt, nothing, new, Option.map_none] at here
      contradiction
  · intro condition
    obtain ⟨⟨ring, chained⟩, address, port, small, secures⟩ := condition
    obtain ⟨after, joins, joined, unclosed⟩ :=
      acceptNewClient_joins accepts chained ((admits_iff octets).mpr ⟨address, port, secures⟩)
    exact ⟨true, after, joins, ⟨ring, _, chained, Arena.get?_fresh, joined.chained,
      joined.serves octets accepts small⟩, unclosed⟩

/-- `accept` gives a client of the host `10.0.0.7`. -/
def visited : Outcomes := { quiet with connFd := 5, peer := ⟨40000, [10, 0, 0, 7]⟩ }

theorem acceptNewClient_atomic_iff_plain :
    listening.AcceptsAtomically visited ↔ (∃ ring, listening.Chained ring) ∧
      visited.peer.host[3]? ≠ some 255 ∧ visited.peer.port ≠ 0 ∧
      visited.connFd < 65535 ∧ listening.Secures visited :=
  acceptNewClient_atomic_iff (by decide) (by decide) (by decide)

/-- `accept` gives a client of the host `10.1.0.255`. -/
def refused : Outcomes := { quiet with connFd := 5, peer := ⟨40000, [10, 1, 0, 255]⟩ }

/-- A peer whose address ends in 255: the call returns true, and the listening
descriptor is closed. -/
theorem acceptNewClient_not_atomic : ¬ listening.AcceptsAtomically refused := by
  intro atomic
  obtain ⟨accepted, after, ran, ends⟩ := atomic
  have result : (listening.acceptNewClient refused).map (fun accepted =>
      (accepted.1, accepted.2.clientList)) = some (true, none) := by
    decide +kernel
  rw [ran, Option.map_some] at result
  obtain ⟨isTrue, empty⟩ := Prod.ext_iff.mp (Option.some.inj result)
  dsimp only at isTrue empty
  rw [isTrue, if_pos rfl] at ends
  obtain ⟨ring, node, -, -, chained, -⟩ := ends.ring
  rw [chained.head, List.head?_eq_none_iff] at empty
  exact List.append_ne_nil_of_right_ne_nil ring (List.cons_ne_nil node []) empty

end Server

end SynapTCP
