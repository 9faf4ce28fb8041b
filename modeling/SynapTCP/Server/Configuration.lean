import SynapTCP.Server.Keeping

namespace SynapTCP

open Data

/-! # What the methods leave as it is

Adding, removing and checking work on the ring, the active client and the address
that `accept` fills in; the rest of the object stays as it was set.
-/

namespace Server

variable {server after : Server} {outcomes : Outcomes} {node : CollectionId}
  {client : ClientId} {socket : Socket} {connFd : Int} {collection : ClientCollection}

/-- The object without the list of its clients. -/
def setup (server : Server) : TCPServer :=
  { server.toTCPServer with client := none, clientList := none }

/-- The object without the fields that its methods work on. -/
def config (server : Server) : TCPServer :=
  { server.toTCPServer with addr := ⟨0, []⟩, client := none, clientList := none }

theorem config_of_setup (same : after.setup = server.setup) : after.config = server.config :=
  congrArg (fun object : TCPServer => { object with addr := ⟨0, []⟩ }) same

theorem toSocket_of_setup {addr : SockAddr} (same : after.setup = { server.setup with addr }) :
    after.toSocket = { server.toSocket with addr } := by
  have object : after.setup.toSocket = { server.setup.toSocket with addr } := by rw [same]
  exact object

theorem deleteCollection_setup (deletes : server.deleteCollection node outcomes = some after) :
    after.setup = server.setup := by
  obtain ⟨collection, -, deletes⟩ := Option.bind_eq_some_iff.mp deletes
  obtain ⟨deleted, given, result⟩ := Option.bind_eq_some_iff.mp deletes
  obtain ⟨socket, -, closed⟩ := Option.map_eq_some_iff.mp given
  cases result
  cases closed
  rfl

theorem removal_setup {object : TCPServer} :
    RemovalKeeps (fun after => after.setup = object) outcomes :=
  ⟨fun _ _ _ _ _ same => same, fun _ _ _ same => same,
    fun _ _ _ deletes same => (deleteCollection_setup deletes).trans same⟩

theorem removeClient_setup {target : Option ClientId} {removed : Bool × Server}
    (removes : server.removeClient target outcomes = some removed) :
    removed.2.setup = server.setup :=
  removeClient_keeps removal_setup rfl removes

theorem linkClient_setup (links : server.linkClient client outcomes = some after) :
    after.setup = server.setup := by
  unfold linkClient at links
  dsimp only at links
  split at links
  · cases links
    rfl
  · obtain ⟨tmp, -, links⟩ := Option.bind_eq_some_iff.mp links
    obtain ⟨last, -, result⟩ := Option.bind_eq_some_iff.mp links
    cases result
    rfl

theorem addition_setup {object : TCPServer} :
    AdditionKeeps (fun after => after.setup = object) outcomes :=
  ⟨fun _ _ _ same => same, fun _ _ _ links same => (linkClient_setup links).trans same⟩

theorem addClient_setup {added : Bool × Server}
    (adds : server.addClient connFd outcomes = some added) :
    added.2.setup = server.setup :=
  addClient_keeps addition_setup rfl adds

/-- `accept` fills in the address of the peer. -/
theorem acceptNewClient_setup {added : Bool × Server}
    (accepts : server.acceptNewClient outcomes = some added) :
    added.2.setup = { server.setup with
      addr := if 0 ≤ outcomes.connFd then outcomes.peer else server.addr } := by
  have accepted : (if 0 ≤ outcomes.connFd then
      { server.lock with addr := outcomes.peer }.emit [.acquire (.descriptor outcomes.connFd)]
      else server.lock).setup = { server.setup with
        addr := if 0 ≤ outcomes.connFd then outcomes.peer else server.addr } := by
    split <;> rfl
  unfold acceptNewClient at accepts
  dsimp only at accepts
  split at accepts
  · cases accepts
    exact accepted
  · obtain ⟨result, adds, same⟩ := Option.map_eq_some_iff.mp accepts
    cases same
    have same := addClient_setup adds
    exact same.trans accepted

theorem acceptNewClient_config {added : Bool × Server}
    (accepts : server.acceptNewClient outcomes = some added) :
    added.2.config = server.config :=
  congrArg (fun object : TCPServer => { object with addr := ⟨0, []⟩ })
    (acceptNewClient_setup accepts)

/-! ## Checking for events -/

theorem fillSet_setup (fills : server.fillSet = some after) : after.setup = server.setup := by
  obtain ⟨filled, -, result⟩ := Option.map_eq_some_iff.mp fills
  cases result
  rfl

theorem reap_setup {readfds : List Int} :
    (server.reap node collection readfds).setup = server.setup := by
  unfold reap
  split <;> rfl

theorem scan_setup {scanned : Server × Scanning} (scans : server.scan outcomes = some scanned) :
    scanned.1.setup = server.setup :=
  @scan_keeps (fun after => after.setup = server.setup) server outcomes scanned
    (fun _ _ _ _ same => reap_setup.trans same) rfl scans

theorem startThread_setup :
    (server.startThread node collection outcomes).setup = server.setup := by
  unfold startThread
  dsimp only
  split
  · split <;> rfl
  · split <;> rfl

theorem clientEvent_setup {event : ServerEvent × Server}
    (checks : server.clientEvent node outcomes = some event) :
    event.2.setup = server.setup := by
  obtain ⟨collection, -, ⟨-, removed, removes, result⟩ |
    ⟨-, -, ⟨-, result⟩ | ⟨function, -, ⟨-, result⟩ | ⟨-, result⟩⟩⟩⟩ := clientEvent_cases checks
  · rw [result]
    have same := removeClient_setup removes
    exact same
  · rw [result]
    rfl
  · rw [result]
    rfl
  · rw [result]
    exact startThread_setup

theorem dropIdle_setup {tmp : Option CollectionId} {event : ServerEvent × Server}
    (drops : server.dropIdle node tmp outcomes = some event) : event.2.setup = server.setup := by
  obtain ⟨collection, -, drops⟩ := Option.bind_eq_some_iff.mp drops
  obtain ⟨removed, removes, drops⟩ := Option.bind_eq_some_iff.mp drops
  cases tmp with
  | none =>
      cases drops
      have same := removeClient_setup removes
      exact same
  | some tmp =>
      obtain ⟨behind, -, result⟩ := Option.bind_eq_some_iff.mp drops
      cases result
      have same := removeClient_setup removes
      exact same

theorem removeClient_config {target : Option ClientId} {removed : Bool × Server}
    (removes : server.removeClient target outcomes = some removed) :
    removed.2.config = server.config :=
  config_of_setup (removeClient_setup removes)

theorem clientEvent_config {event : ServerEvent × Server}
    (checks : server.clientEvent node outcomes = some event) :
    event.2.config = server.config :=
  config_of_setup (clientEvent_setup checks)

theorem dropIdle_config {tmp : Option CollectionId} {event : ServerEvent × Server}
    (drops : server.dropIdle node tmp outcomes = some event) : event.2.config = server.config :=
  config_of_setup (dropIdle_setup drops)

theorem connectRequest_setup {event : ServerEvent × Server}
    (requests : server.connectRequest outcomes = some event) :
    event.2.setup = { server.setup with
      addr := if server.conReqCallbackFunction = none ∧ 0 ≤ outcomes.connFd then outcomes.peer
        else server.addr } := by
  unfold connectRequest at requests
  cases handled : server.conReqCallbackFunction with
  | some function =>
      rw [handled] at requests
      cases requests
      simp only [reduceCtorEq, false_and, if_false]
      rfl
  | none =>
      rw [handled] at requests
      obtain ⟨added, accepts, result⟩ := Option.map_eq_some_iff.mp requests
      cases result
      simp only [true_and]
      have same := acceptNewClient_setup accepts
      exact same

theorem connectRequest_config {event : ServerEvent × Server}
    (requests : server.connectRequest outcomes = some event) :
    event.2.config = server.config :=
  congrArg (fun object : TCPServer => { object with addr := ⟨0, []⟩ })
    (connectRequest_setup requests)

/-- Only a client that is accepted changes what is not the list. -/
theorem eventCheck_setup {event : ServerEvent × Server}
    (checks : server.eventCheck outcomes = some event) :
    event.2.setup = server.setup ∧ ¬ (server.Accepts outcomes ∧ 0 ≤ outcomes.connFd) ∨
      event.2.setup = { server.setup with addr := outcomes.peer } ∧
        server.Accepts outcomes ∧ 0 ≤ outcomes.connFd := by
  unfold eventCheck at checks
  dsimp only at checks
  split at checks
  · rename_i closed
    cases checks
    exact .inl ⟨rfl, fun accepts => absurd accepts.1.1 (Int.not_lt.mpr closed)⟩
  · rename_i opened
    obtain ⟨filled, fills, checks⟩ := Option.bind_eq_some_iff.mp checks
    have same : filled.setup = server.lock.setup := fillSet_setup fills
    have object : filled.toTCPServer = server.lock.toTCPServer := fillSet_toTCPServer fills
    split at checks
    · rename_i failed
      cases checks
      exact .inl ⟨same, fun accepts => absurd accepts.1.2.1 (Int.not_le.mpr failed)⟩
    · rename_i selected
      rw [object] at checks
      split at checks
      · rename_i listening
        have requested := connectRequest_setup checks
        rw [same, object] at requested
        by_cases peer : server.lock.conReqCallbackFunction = none ∧ 0 ≤ outcomes.connFd
        · rw [if_pos peer] at requested
          exact .inr ⟨requested,
            ⟨Int.not_le.mp opened, Int.not_lt.mp selected, listening, peer.1⟩, peer.2⟩
        · rw [if_neg peer] at requested
          exact .inl ⟨requested, fun accepts => peer ⟨accepts.1.2.2.2, accepts.2⟩⟩
      · rename_i quiet
        refine .inl ⟨?_, fun accepts => quiet accepts.1.2.2.1⟩
        obtain ⟨scanned, scans, checks⟩ := Option.bind_eq_some_iff.mp checks
        have sameScanned := (scan_setup scans).trans same
        split at checks
        · exact (clientEvent_setup checks).trans sameScanned
        · exact (dropIdle_setup checks).trans sameScanned
        · cases checks
          exact sameScanned

theorem eventCheck_config {event : ServerEvent × Server}
    (checks : server.eventCheck outcomes = some event) : event.2.config = server.config := by
  rcases eventCheck_setup checks with ⟨same, -⟩ | ⟨accepted, -⟩
  · exact config_of_setup same
  · exact congrArg (fun object : TCPServer => { object with addr := ⟨0, []⟩ }) accepted

end Server

end SynapTCP
