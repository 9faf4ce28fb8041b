import SynapTCP.Server.Holdings
import SynapTCP.Threads.Events

namespace SynapTCP

open Data

/-! # Nothing is lost and nothing is closed twice

What the clients hold, through runs of `acceptNewClient`, `eventCheck` and `removeClient`
and of handlers that close their connection.
-/

namespace Server

variable {server middle after : Server} {node : CollectionId} {client : ClientId}
  {collection : ClientCollection} {socket attached : Socket} {outcomes : Outcomes} {connFd : Int}
  {acts more : List (Act (Resource Owner))}

/-! ## Adding -/

/-- A new client is in memory that no node has; `acts` were done for it. -/
structure Making (server middle : Server) (socket : Socket) (acts : List (Act (Resource Owner))) :
    Prop where
  useSSL : middle.useSSL = server.useSSL
  clients : middle.clients = server.clients.make socket
  collections : middle.collections = server.collections
  traffic : traffic middle.log = traffic server.log ++ acts

namespace Making

theorem emit (making : Making server middle socket acts) (more : List (Act (Resource Owner))) :
    Making server (middle.emit more) socket (acts ++ lasting more) :=
  ⟨making.useSSL, making.clients, making.collections,
    by rw [traffic_emit, making.traffic, List.append_assoc]⟩

theorem silent (making : Making server middle socket acts) (silent : lasting more = []) :
    Making server (middle.emit more) socket acts := by
  have kept := making.emit more
  rwa [silent, List.append_nil] at kept

theorem onClient {α : Type} {call : Call α} (making : Making server middle socket acts)
    (silent : lasting (call.actsOf (Owner.client server.clients.fresh)) = []) :
    Making server (middle.onClient server.clients.fresh call) call.socket acts := by
  have put : Making server { middle with
      clients := middle.clients.set server.clients.fresh call.socket } call.socket acts :=
    ⟨making.useSSL, by rw [making.clients, Arena.make_set], making.collections, making.traffic⟩
  exact put.silent silent

end Making

theorem guarded_silent {α : Type} {result : α} {owner : Owner} :
    lasting ((Socket.guarded result socket).actsOf owner) = [] := rfl

theorem setAddress_silent {address : Bytes} {owner : Owner} :
    lasting ((socket.setAddress address).actsOf owner) = [] := by
  unfold Socket.setAddress
  split <;> rfl

theorem setPort_silent {port : Int} {owner : Owner} :
    lasting ((socket.setPort port).actsOf owner) = [] := by
  unfold Socket.setPort
  split <;> rfl

theorem setSocketFd_silent {owner : Owner} :
    lasting ((socket.setSocketFd connFd).actsOf owner) = [] := by
  unfold Socket.setSocketFd
  split <;> rfl

/-- The client takes the descriptor, and the SSL object if the server made one and the peer
accepts it. -/
structure Attaches (attached : Socket) (connFd : Int) (acts : List (Act (Resource Owner))) :
    Prop where
  frees : attached.Frees
  accounts : ∀ earlier things, Ledger earlier (.descriptor connFd :: things) →
    Granted (earlier ++ acts) → Ledger (earlier ++ acts) (attached.held ++ things)

theorem Attaches.plain (opened : 0 < connFd) (descriptor : attached.sockFd = connFd)
    (plain : attached.sslConn = none) : Attaches attached connFd [] := by
  refine ⟨fun some => absurd plain some, fun earlier things ledger granted => ?_⟩
  rw [Socket.held, plain, descriptor, if_pos opened, List.append_nil]
  exact ledger

theorem Making.attachClient (making : Making server middle socket acts)
    (inRange : 0 < connFd ∧ connFd < 65535) (uses : socket.useSSL = server.useSSL) :
    ∃ attached more, Making server
        (middle.attachClient server.clients.fresh socket connFd outcomes).2 attached
          (acts ++ more) ∧
      Attaches attached connFd more := by
  have descriptor : (socket.setSocketFd connFd).socket = { socket with sockFd := connFd } := by
    unfold Socket.setSocketFd
    rw [if_neg (by omega)]
    rfl
  have given := making.onClient (@setSocketFd_silent socket connFd _)
  have unset := given.onClient
    (@guarded_silent { (socket.setSocketFd connFd).socket with sslConn := none } _ true _)
  have plain : Attaches ((socket.setSocketFd connFd).socket.setSSLPointer none).socket connFd [] :=
    .plain inRange.1 (by rw [descriptor]; rfl) rfl
  unfold Server.attachClient
  dsimp only
  split
  · rename_i secured
    have secured : middle.useSSL = true := secured
    split
    · exact ⟨_, [], by rwa [List.append_nil], plain⟩
    · split
      · exact ⟨_, [], by rwa [List.append_nil], plain⟩
      · rename_i ssl created
        have acquired := unset.emit [.acquire (.connection ssl)]
        split
        · refine ⟨_, [.acquire (.connection ssl), .release (.connection ssl)],
            by rw [List.append_cons]; exact acquired.emit [.release (.connection ssl)],
            plain.frees, fun earlier things ledger granted => ?_⟩
          rw [List.append_cons] at granted ⊢
          have taken := ledger.acquire granted.front
          have back := plain.accounts _ things taken.release
            (by rw [List.append_nil]; exact granted)
          rw [List.append_nil] at back
          exact back
        · refine ⟨_, _, acquired.onClient (@guarded_silent _ _ true _), ?_, ?_⟩
          · intro _
            show (socket.setSocketFd connFd).socket.useSSL = true
            rw [descriptor, uses, ← making.useSSL]
            exact secured
          · intro earlier things ledger granted
            have taken := ledger.acquire granted
            show Ledger _ ((.connection ssl :: (if 0 < (socket.setSocketFd connFd).socket.sockFd
              then [.descriptor (socket.setSocketFd connFd).socket.sockFd] else [])) ++ things)
            rw [descriptor, if_pos inRange.1]
            exact taken
  · exact ⟨_, [], by rwa [List.append_nil], plain⟩

/-- The new client is given up again. -/
theorem Making.deleteClient (making : Making server middle attached acts)
    (custody : server.Custody) (frees : attached.Frees)
    (ledger : Ledger (Server.traffic middle.log) (attached.held ++ server.holdings))
    (once : outcomes.closes = true ∨ outcomes.again = true)
    (deletes : middle.deleteClient server.clients.fresh outcomes = some after) :
    after.Custody := by
  obtain ⟨socket, there, result⟩ := Option.map_eq_some_iff.mp deletes
  cases result
  rw [making.clients, Arena.get?_make_fresh, Option.some.injEq] at there
  subst there
  obtain ⟨given, part, gave⟩ :=
    (@Socket.closeSocket_givesBack attached (.client server.clients.fresh) frees outcomes.closes
      outcomes.again).part
  rw [Socket.closeSocket_held frees once, List.append_nil] at part
  have clients : ∀ client, (middle.clients.destroy server.clients.fresh).get? client =
      server.clients.get? client := by
    intro client
    rw [making.clients]
    by_cases same : client = server.clients.fresh
    · rw [same, Arena.get?_destroy_self, Arena.get?_fresh]
    · rw [Arena.get?_destroy_of_ne same, Arena.get?_make_of_ne same]
  have owners : ∀ node, Option.map ClientCollection.client (middle.collections.get? node) =
      server.clientAt node := by
    intro node
    rw [making.collections]
    rfl
  constructor
  · have back := (ledger.perm (part.append_right _)).releaseAll
    rw [← gave] at back
    show Ledger (Server.traffic ((_ : Server).emit _).log)
      ((middle.clients.destroy server.clients.fresh).contents _ ++ middle.collections.contents _)
    rw [traffic_emit, making.clients, Arena.contents_make_destroy, making.collections]
    exact back
  · intro node collection found
    have found : middle.collections.get? node = some collection := found
    rw [making.collections] at found
    exact custody.paired node collection found
  · intro client socket there
    have there : (middle.clients.destroy server.clients.fresh).get? client = some socket := there
    rw [clients] at there
    exact custody.frees client socket there
  · intro node other client left right
    exact custody.unique node other client ((owners node).symm.trans left)
      ((owners other).symm.trans right)
  · intro client
    show (∃ socket, (middle.clients.destroy server.clients.fresh).get? client = some socket) ↔
      ∃ node, Option.map ClientCollection.client (middle.collections.get? node) = some client
    simp only [clients, owners]
    exact custody.homes client

/-- The new client gets a node. -/
theorem Making.join {joined : ClientCollection} (making : Making server middle attached acts)
    (custody : server.Custody) (frees : attached.Frees)
    (ledger : Ledger (Server.traffic middle.log) (attached.held ++ server.holdings))
    (owner : joined.client = server.clients.fresh) (pipe : joined.pipe = (0, 0)) :
    Custody { middle with collections := middle.collections.make joined } := by
  have here : Option.map ClientCollection.client
      ((middle.collections.make joined).get? middle.collections.fresh) =
        some server.clients.fresh := by
    rw [Arena.get?_make_fresh, Option.map_some, owner]
  have others : ∀ node, node ≠ middle.collections.fresh →
      Option.map ClientCollection.client ((middle.collections.make joined).get? node) =
        server.clientAt node := by
    intro node other
    rw [Arena.get?_make_of_ne other, making.collections]
    rfl
  have unowned : ∀ node, server.clientAt node ≠ some server.clients.fresh := by
    intro node owns
    obtain ⟨socket, there⟩ := (custody.homes _).mpr ⟨node, owns⟩
    rw [Arena.get?_fresh] at there
    contradiction
  constructor
  · show Ledger (Server.traffic middle.log)
      (middle.clients.contents _ ++ (middle.collections.make joined).contents _)
    have nothing : pipeHeld joined.pipe = [] := by
      rw [pipe]
      rfl
    rw [Arena.contents_make, nothing, List.append_nil, making.clients, Arena.contents_make,
      making.collections]
    refine ledger.perm ?_
    rw [List.append_assoc]
    exact List.perm_append_comm_assoc _ _ _
  · intro node collection found
    have found : (middle.collections.make joined).get? node = some collection := found
    by_cases same : node = middle.collections.fresh
    · rw [same, Arena.get?_make_fresh] at found
      cases found
      exact .inl pipe
    · rw [Arena.get?_make_of_ne same, making.collections] at found
      exact custody.paired node collection found
  · intro client socket there
    have there : middle.clients.get? client = some socket := there
    rw [making.clients] at there
    by_cases same : client = server.clients.fresh
    · rw [same, Arena.get?_make_fresh] at there
      cases there
      exact frees
    · rw [Arena.get?_make_of_ne same] at there
      exact custody.frees client socket there
  · intro node other client left right
    by_cases first : node = middle.collections.fresh
    · by_cases second : other = middle.collections.fresh
      · rw [first, second]
      · subst first
        rw [Option.some.inj (left.symm.trans here)] at right
        exact absurd ((others other second).symm.trans right) (unowned other)
    · by_cases second : other = middle.collections.fresh
      · subst second
        rw [Option.some.inj (right.symm.trans here)] at left
        exact absurd ((others node first).symm.trans left) (unowned node)
      · exact custody.unique node other client ((others node first).symm.trans left)
          ((others other second).symm.trans right)
  · intro client
    show (∃ socket, middle.clients.get? client = some socket) ↔ _
    rw [making.clients]
    by_cases same : client = server.clients.fresh
    · rw [same, Arena.get?_make_fresh]
      exact iff_of_true ⟨_, rfl⟩ ⟨_, here⟩
    · rw [Arena.get?_make_of_ne same, custody.homes client]
      constructor
      · intro home
        obtain ⟨node, owns⟩ := home
        have old : node ≠ middle.collections.fresh := by
          intro is
          obtain ⟨found, live, -⟩ := Option.map_eq_some_iff.mp owns
          rw [is, making.collections, Arena.get?_fresh] at live
          contradiction
        exact ⟨node, (others node old).trans owns⟩
      · intro home
        obtain ⟨node, owns⟩ := home
        by_cases is : node = middle.collections.fresh
        · subst is
          exact absurd (Option.some.inj (here.symm.trans owns)).symm same
        · exact ⟨node, (others node is).symm.trans owns⟩

theorem Making.linkClient (making : Making server middle attached acts) (custody : server.Custody)
    (frees : attached.Frees)
    (ledger : Ledger (Server.traffic middle.log) (attached.held ++ server.holdings))
    (links : middle.linkClient server.clients.fresh outcomes = some after) : after.Custody := by
  let newClient : ClientCollection := ⟨server.clients.fresh, outcomes.created, 0, (0, 0), none⟩
  have joined := @Making.join server middle attached acts newClient making custody frees ledger
    rfl rfl
  unfold Server.linkClient at links
  dsimp only at links
  split at links
  · cases links
    exact @Custody.keepNode { middle with collections := middle.collections.make newClient } _
      middle.collections.fresh newClient { newClient with next := some middle.collections.fresh }
      joined Arena.get?_make_fresh rfl rfl rfl rfl rfl
  · rename_i head here
    obtain ⟨tmp, -, links⟩ := Option.bind_eq_some_iff.mp links
    obtain ⟨last, found, result⟩ := Option.bind_eq_some_iff.mp links
    cases result
    have linked := @Custody.keepNode { middle with collections := middle.collections.make newClient }
      { middle with
        collections := (middle.collections.make newClient).set tmp
          { last with next := some middle.collections.fresh } }
      tmp last { last with next := some middle.collections.fresh } joined found rfl rfl rfl rfl rfl
    obtain ⟨changed, live, owner, pipe⟩ : ∃ changed : ClientCollection,
        ((middle.collections.make newClient).set tmp
          { last with next := some middle.collections.fresh }).get? middle.collections.fresh =
            some changed ∧ changed.client = server.clients.fresh ∧ changed.pipe = (0, 0) := by
      by_cases same : middle.collections.fresh = tmp
      · have isNew : last = newClient := by
          have found : (middle.collections.make newClient).get? tmp = some last := found
          rw [← same, Arena.get?_make_fresh] at found
          exact (Option.some.inj found).symm
        exact ⟨_, by rw [same]; exact Arena.get?_set_self found, by rw [isNew], by rw [isNew]⟩
      · exact ⟨newClient, by rw [Arena.get?_set_of_ne same, Arena.get?_make_fresh], rfl, rfl⟩
    exact @Custody.keepNode _ _ middle.collections.fresh changed
      { newClient with next := some head } linked live owner.symm pipe.symm rfl rfl rfl

/-- `accept` gave a descriptor, the peer's address and port are such that the setters of
the client take them, and `close` succeeds once where the client is given up. -/
structure Welcomes (server : Server) (outcomes : Outcomes) : Prop where
  inRange : 0 < outcomes.connFd ∧ outcomes.connFd < 65535
  address : Socket.isValidIPAddress (Socket.dotted outcomes.peer.host) = true
  port : outcomes.peer.port ≠ 0
  once : server.Secures outcomes ∨ outcomes.closes = true ∨ outcomes.again = true

theorem deleteClient_log (deletes : server.deleteClient client outcomes = some after) :
    ∃ later, traffic after.log = traffic server.log ++ later := by
  obtain ⟨socket, -, result⟩ := Option.map_eq_some_iff.mp deletes
  cases result
  exact ⟨_, traffic_emit _⟩

theorem accepting_traffic : traffic (server.accepting outcomes).log =
    traffic server.log ++ [.acquire (.descriptor outcomes.connFd)] := by
  unfold accepting
  rw [traffic_emit]
  exact congrArg (· ++ _) traffic_lock

theorem addClient_custody {added : Bool × Server} (custody : server.Custody)
    (welcomes : server.Welcomes outcomes)
    (adds : (server.accepting outcomes).addClient outcomes.connFd outcomes = some added)
    (granted : Granted (traffic added.2.log)) : added.2.Custody := by
  let copy := (server.accepting outcomes).toSocket.duplicate Socket.new
  let addressed := copy.setAddress (Socket.dotted outcomes.peer.host)
  let ported := addressed.socket.setPort outcomes.peer.port.toNat
  let client := server.clients.fresh
  let named := (((server.accepting outcomes).newClient.onClient client addressed).onClient client
    ported).lock
  have making : Making server named ported.socket [.acquire (.descriptor outcomes.connFd)] := by
    have made : Making server { server.accepting outcomes with
        clients := server.clients.make copy } copy [.acquire (.descriptor outcomes.connFd)] :=
      ⟨rfl, rfl, rfl, accepting_traffic⟩
    have duplicated : Making server (server.accepting outcomes).newClient copy
        [.acquire (.descriptor outcomes.connFd)] :=
      ((made.silent rfl).silent rfl).silent rfl
    have located := duplicated.onClient
      (@setAddress_silent copy (Socket.dotted outcomes.peer.host) _)
    exact (located.onClient
      (@setPort_silent addressed.socket outcomes.peer.port.toNat _)).silent rfl
  have validAddress : addressed.result = true := Socket.setAddress_result.trans welcomes.address
  have validPort : ported.result = true := by
    rw [Socket.setPort_result, decide_eq_true welcomes.port]
  have addressedSocket : addressed.socket = { copy with
      address := Socket.octetsOf 0 (Socket.dotted outcomes.peer.host) } :=
    Socket.setAddress_socket welcomes.address
  have uses : ported.socket.useSSL = server.useSSL := by
    rw [show ported.socket = { addressed.socket with addr.port := outcomes.peer.port } from
      Socket.setPort_socket welcomes.port, addressedSocket]
    rfl
  obtain ⟨attached, more, making, attaches⟩ :=
    @Making.attachClient server named ported.socket outcomes outcomes.connFd _ making
      welcomes.inRange uses
  have adds : (if (named.attachClient client ported.socket outcomes.connFd outcomes).1 = false then
      ((named.attachClient client ported.socket outcomes.connFd outcomes).2.deleteClient client
        outcomes).map (false, ·)
      else ((named.attachClient client ported.socket outcomes.connFd outcomes).2.linkClient client
        outcomes).map (true, ·)) = some added := by
    rw [← adds]
    show _ = if addressed.result = false then _ else if ported.result = false then _ else _
    rw [@if_neg (addressed.result = false) _ (by rw [validAddress]; decide),
      @if_neg (ported.result = false) _ (by rw [validPort]; decide)]
    rfl
  have ledger {later : List (Act (Resource Owner))}
      (granted : Granted (traffic server.log ++
        (([.acquire (.descriptor outcomes.connFd)] ++ more) ++ later))) :
      Ledger (traffic server.log ++ ([.acquire (.descriptor outcomes.connFd)] ++ more))
        (attached.held ++ server.holdings) := by
    rw [← List.append_assoc] at granted
    have all := granted.front
    rw [← List.append_assoc] at all ⊢
    exact attaches.accounts _ _ (custody.ledger.acquire all.front) all
  split at adds
  · rename_i failed
    obtain ⟨result, deletes, same⟩ := Option.map_eq_some_iff.mp adds
    cases same
    obtain ⟨later, grows⟩ := deleteClient_log deletes
    rw [grows, making.traffic, List.append_assoc] at granted
    have once := welcomes.once.resolve_left fun secures => by
      have done := (@attachClient_result named client ported.socket outcomes.connFd
        outcomes).mpr secures
      rw [failed] at done
      contradiction
    exact making.deleteClient custody attaches.frees (by rw [making.traffic]; exact ledger granted)
      once deletes
  · obtain ⟨result, links, same⟩ := Option.map_eq_some_iff.mp adds
    cases same
    rw [linkClient_log links, making.traffic] at granted
    refine making.linkClient custody attaches.frees ?_ links
    rw [making.traffic]
    refine @ledger [] ?_
    rwa [List.append_nil]

/-- A client that is accepted holds what was acquired for it, or all of it is given back. -/
theorem acceptNewClient_custody {added : Bool × Server} (custody : server.Custody)
    (welcomes : 0 ≤ outcomes.connFd → server.Welcomes outcomes)
    (accepts : server.acceptNewClient outcomes = some added)
    (granted : Granted (traffic added.2.log)) : added.2.Custody := by
  by_cases given : 0 ≤ outcomes.connFd
  · have welcomed := welcomes given
    rw [acceptNewClient_eq welcomed.inRange.1] at accepts
    obtain ⟨result, adds, same⟩ := Option.map_eq_some_iff.mp accepts
    cases same
    have granted : Granted (traffic result.2.log) := by
      rwa [← traffic_unlock]
    exact (addClient_custody custody welcomed adds granted).unlock
  · unfold acceptNewClient at accepts
    dsimp only at accepts
    rw [if_neg given, if_pos (by omega)] at accepts
    cases accepts
    exact custody.lock.unlock

/-! ## Checking for events -/

theorem Custody.reap (custody : server.Custody)
    (found : server.collections.get? node = some collection) (readfds : List Int) :
    (server.reap node collection readfds).Custody := by
  unfold Server.reap
  split
  · rename_i reported
    have held := (custody.paired node collection found).held reported.1
    refine @Custody.setNode server _ node collection { collection with pipe := (0, 0) } _ custody
      found rfl (.inl rfl) rfl rfl (traffic_emit _) fun rest ledger => ?_
    rw [held] at ledger
    have both := ledger.release.release
    rwa [List.append_assoc] at both
  · exact custody

theorem Custody.scan {scanned : Server × Scanning} (custody : server.Custody)
    (scans : server.scan outcomes = some scanned) : scanned.1.Custody :=
  scan_keeps (fun _ _ _ found kept => kept.reap found outcomes.readfds) custody scans

theorem Custody.fillSet (custody : server.Custody) (fills : server.fillSet = some after) :
    after.Custody := by
  obtain ⟨filled, -, result⟩ := Option.map_eq_some_iff.mp fills
  cases result
  have sets : ∀ fds : List Int, traffic (fds.map Effect.fdSet) = [] := by
    intro fds
    induction fds with
    | nil => rfl
    | cons fd fds ih => exact ih
  refine custody.congr rfl rfl ?_
  have selects : traffic [Effect.select (filled.1.toNat + 1)] = [] := rfl
  simp only [traffic_append, sets, selects, traffic_acts, List.append_nil]
  exact (List.append_nil _).trans (List.append_nil _)

theorem fillLoop_watches {max : UInt16} {fds : List Int} {fuel : Nat} {filled : UInt16 × List Int}
    (fills : server.fillLoop max fds fuel node = some filled) :
    ∀ fd ∈ filled.2, fd ∈ fds ∨ ∃ node collection,
      server.collections.get? node = some collection ∧ server.watched collection = some fd := by
  induction fuel generalizing max fds node with
  | zero => contradiction
  | succ fuel ih =>
      obtain ⟨collection, found, fills⟩ := Option.bind_eq_some_iff.mp fills
      obtain ⟨own, watches, fills⟩ := Option.bind_eq_some_iff.mp fills
      obtain ⟨behind, -, fills⟩ := Option.bind_eq_some_iff.mp fills
      have added : ∀ fd ∈ fds ++ [own], fd ∈ fds ∨ ∃ node collection,
          server.collections.get? node = some collection ∧ server.watched collection = some fd := by
        intro fd member
        rcases List.mem_append.mp member with old | new
        · exact .inl old
        · rw [List.mem_singleton.mp new]
          exact .inr ⟨node, collection, found, watches⟩
      dsimp only at fills
      split at fills
      · cases fills
        exact added
      · intro fd member
        rcases ih fills fd member with inside | watched
        · exact added fd inside
        · exact .inr watched

theorem watchedSet_watches {filled : UInt16 × List Int} (fills : server.watchedSet = some filled) :
    ∀ fd ∈ filled.2, fd = server.sockFd ∨ ∃ node collection,
      server.collections.get? node = some collection ∧ server.watched collection = some fd := by
  intro fd member
  unfold watchedSet at fills
  split at fills
  · cases fills
    exact .inl (List.mem_singleton.mp member)
  · rcases fillLoop_watches fills fd member with only | watched
    · exact .inl (List.mem_singleton.mp only)
    · exact .inr watched

/-- `select` leaves only descriptors in the set that were in it. -/
def Reports (server : Server) (outcomes : Outcomes) : Prop :=
  ∀ fd ∈ outcomes.readfds, 0 < fd ∧ ∀ filled, server.watchedSet = some filled → fd ∈ filled.2

/-- A client whose descriptor is reported has no pipe: with one, its descriptor is not in the
set, and nobody else has it. -/
theorem Custody.reported {filled : UInt16 × List Int} (custody : server.Custody)
    (reports : server.Reports outcomes) (fills : server.watchedSet = some filled)
    (unrequested : server.sockFd ∉ outcomes.readfds)
    (found : server.collections.get? node = some collection)
    (there : server.clients.get? collection.client = some socket)
    (readable : socket.sockFd ∈ outcomes.readfds) : collection.pipe.1 ≤ 0 := by
  obtain ⟨opened, inSet⟩ := reports _ readable
  have once := List.nodup_append.mp custody.ledger.once
  have held : .descriptor socket.sockFd ∈ socket.held := by
    rw [Socket.held, if_pos opened]
    simp
  rcases watchedSet_watches fills _ (inSet filled fills) with listens | ⟨other, owner, live, watches⟩
  · rw [listens] at readable
    exact absurd readable unrequested
  · unfold watched at watches
    split at watches
    · rename_i unset
      obtain ⟨object, present, same⟩ := Option.map_eq_some_iff.mp watches
      have heldToo : .descriptor socket.sockFd ∈ object.held := by
        rw [Socket.held, same, if_pos opened]
        simp
      have client := Arena.owner_unique once.1 there present held heldToo
      have owned : server.clientAt other = some collection.client := by
        rw [Sound.clientAt_of_get? live, client]
      have isNode := custody.unique node other _ (Sound.clientAt_of_get? found) owned
      rw [isNode, live] at found
      cases found
      exact unset
    · rename_i set
      have same := Option.some.inj watches
      have inPipe : .descriptor socket.sockFd ∈ pipeHeld owner.pipe := by
        rw [← same, pipeHeld, if_pos (by rw [same]; exact opened)]
        simp
      exact absurd rfl (once.2.2 _ (Arena.mem_contents.mpr ⟨_, _, there, held⟩) _
        (Arena.mem_contents.mpr ⟨_, _, live, inPipe⟩))

/-- The pipe of the client that a thread is started for. -/
theorem Custody.startThread (custody : server.Custody)
    (found : server.collections.get? node = some collection) (unset : collection.pipe.1 ≤ 0)
    (positive : ∀ pipe ∈ outcomes.pipe, 0 < pipe.1 ∧ 0 < pipe.2)
    (granted : Granted (traffic (server.startThread node collection outcomes).log)) :
    (server.startThread node collection outcomes).Custody := by
  obtain ⟨changed, collections, clients, owner, pipe⟩ :=
    @startThread_collections server node collection outcomes
  have none : pipeHeld collection.pipe = [] := by
    rw [(custody.paired node collection found).unset unset]
    rfl
  cases piped : outcomes.pipe with
  | none =>
      rw [piped] at pipe
      refine @Custody.setNode server _ node collection changed [] custody found owner (.inl pipe)
        clients collections ?_ fun rest ledger => ?_
      · unfold Server.startThread
        rw [piped]
        cases outcomes.thread with
        | none => exact (List.append_nil _).symm
        | some th =>
            dsimp only
            rw [traffic_emit, traffic_append]
            exact List.append_nil _
      · rw [pipe, List.append_nil]
        rwa [none] at ledger
  | some ends =>
      rw [piped] at pipe
      have opened := positive ends piped
      have moved : traffic (server.startThread node collection outcomes).log =
          traffic server.log ++
            [.acquire (.descriptor ends.1), .acquire (.descriptor ends.2)] := by
        unfold Server.startThread
        rw [piped]
        cases outcomes.thread with
        | none => exact traffic_emit _
        | some th =>
            dsimp only
            rw [traffic_emit, traffic_append, traffic_emit]
            exact (List.append_nil _).trans (List.append_nil _)
      rw [moved, List.append_cons] at granted
      refine @Custody.setNode server _ node collection changed _ custody found owner
        (.inr (by rw [pipe]; exact opened)) clients collections moved fun rest ledger => ?_
      rw [none, List.nil_append] at ledger
      have taken := (ledger.acquire granted.front).acquire granted
      rw [pipe, List.append_cons]
      have held : pipeHeld ((some ends).getD (0, 0)) =
          [.descriptor ends.1, .descriptor ends.2] :=
        Paired.held (.inr opened) opened.1
      rw [held]
      exact taken.perm (List.Perm.swap _ _ _)

theorem Custody.polled (custody : server.Custody)
    (found : server.collections.get? node = some collection) :
    (server.polled node collection outcomes).Custody := by
  have touched := @Custody.keepNode server { server with
      collections := server.collections.set node { collection with lastActivity := outcomes.active }
      client := some collection.client }
    node collection { collection with lastActivity := outcomes.active } custody found rfl rfl rfl
    rfl rfl
  exact touched.unlock.emit rfl

theorem Custody.clientEvent {event : ServerEvent × Server} (custody : server.Custody)
    (unset : ∀ collection, server.collections.get? node = some collection →
      collection.pipe.1 ≤ 0)
    (once : outcomes.closes = true ∨ outcomes.again = true)
    (positive : ∀ pipe ∈ outcomes.pipe, 0 < pipe.1 ∧ 0 < pipe.2)
    (checks : server.clientEvent node outcomes = some event)
    (granted : Granted (traffic event.2.log)) : event.2.Custody := by
  obtain ⟨collection, found, cases⟩ := clientEvent_cases checks
  have polled := @Custody.polled server node collection outcomes custody found
  rcases cases with ⟨-, removed, removes, result⟩ |
    ⟨-, -, ⟨-, result⟩ | ⟨function, -, ⟨-, result⟩ | ⟨-, result⟩⟩⟩
  · rw [result]
    exact (removeClient_keeps (Custody.removal once) polled.lock removes).unlock
  · rw [result]
    exact polled
  · rw [result]
    refine polled.congr rfl rfl ?_
    rw [traffic_append]
    exact List.append_nil _
  · rw [result] at granted ⊢
    exact polled.startThread (polled_get? found) (unset collection found) positive granted

theorem Custody.dropIdle {tmp : Option CollectionId} {event : ServerEvent × Server}
    (custody : server.Custody) (once : outcomes.closes = true ∨ outcomes.again = true)
    (drops : server.dropIdle node tmp outcomes = some event) : event.2.Custody := by
  obtain ⟨collection, -, drops⟩ := Option.bind_eq_some_iff.mp drops
  obtain ⟨removed, removes, drops⟩ := Option.bind_eq_some_iff.mp drops
  have kept := removeClient_keeps (Custody.removal once) custody removes
  cases tmp with
  | none =>
      cases drops
      exact kept.unlock
  | some tmp =>
      obtain ⟨behind, -, result⟩ := Option.bind_eq_some_iff.mp drops
      cases result
      exact kept.unlock.congr rfl rfl rfl

theorem Custody.connectRequest {event : ServerEvent × Server} (custody : server.Custody)
    (welcomes : server.conReqCallbackFunction = none → 0 ≤ outcomes.connFd →
      server.Welcomes outcomes)
    (requests : server.connectRequest outcomes = some event)
    (granted : Granted (traffic event.2.log)) : event.2.Custody := by
  unfold Server.connectRequest at requests
  split at requests
  · cases requests
    refine custody.unlock.congr rfl rfl ?_
    rw [traffic_append]
    exact List.append_nil _
  · rename_i unhandled
    obtain ⟨added, accepts, result⟩ := Option.map_eq_some_iff.mp requests
    cases result
    refine acceptNewClient_custody custody.unlock (fun given => ?_) accepts granted
    have welcomed := welcomes unhandled given
    exact ⟨welcomed.inRange, welcomed.address, welcomed.port, welcomed.once⟩

/-- What `eventCheck` may be answered: accepted clients are welcome, `select` and `pipe` do
what they should, and `close` succeeds once. -/
structure Answered (server : Server) (outcomes : Outcomes) : Prop where
  welcomes : server.Accepts outcomes → 0 ≤ outcomes.connFd → server.Welcomes outcomes
  reports : server.lock.Reports outcomes
  positive : ∀ pipe ∈ outcomes.pipe, 0 < pipe.1 ∧ 0 < pipe.2
  once : outcomes.closes = true ∨ outcomes.again = true

theorem eventCheck_custody {event : ServerEvent × Server} (custody : server.Custody)
    (answered : server.Answered outcomes) (checks : server.eventCheck outcomes = some event)
    (granted : Granted (traffic event.2.log)) : event.2.Custody := by
  unfold eventCheck at checks
  dsimp only at checks
  split at checks
  · cases checks
    exact custody.lock.unlock
  · rename_i opened
    obtain ⟨filled, fills, checks⟩ := Option.bind_eq_some_iff.mp checks
    have kept := custody.lock.fillSet fills
    have object : filled.toTCPServer = server.toTCPServer :=
      @fillSet_toTCPServer server.lock filled fills
    split at checks
    · cases checks
      exact kept.unlock
    · rename_i selected
      split at checks
      · rename_i requested
        refine kept.connectRequest (fun unhandled given => ?_) checks granted
        rw [object] at requested unhandled
        have welcomed := answered.welcomes ⟨Int.not_le.mp opened, Int.not_lt.mp selected,
          requested, unhandled⟩ given
        refine ⟨welcomed.inRange, welcomed.address, welcomed.port, ?_⟩
        unfold Secures at welcomed ⊢
        rw [object]
        exact welcomed.once
      · rename_i quiet
        obtain ⟨⟨after, scanning⟩, scans, checks⟩ := Option.bind_eq_some_iff.mp checks
        have scanned := kept.scan scans
        obtain ⟨reaped, found⟩ := scan_found scans
        cases scanning with
        | clientEvent node =>
            refine scanned.clientEvent (fun collection here => ?_) answered.once
              answered.positive checks granted
            obtain ⟨again, socket, hereToo, there, readable⟩ := found
            rw [here] at hereToo
            cases hereToo
            rcases reaped.nodes node with same | ⟨before, -, -, -, closed⟩
            · rw [here] at same
              obtain ⟨set, watches, -⟩ := Option.map_eq_some_iff.mp fills
              have collections : server.collections.get? node = some collection := by
                rw [same, fillSet_collections fills]
                rfl
              have clients : server.clients.get? collection.client = some socket := by
                rw [← there, reaped.clients, fillSet_clients fills]
                rfl
              rw [object] at quiet
              exact custody.lock.reported answered.reports watches quiet collections clients
                readable
            · rw [here, Option.some.injEq] at closed
              have ended : collection.pipe.1 = 0 := by rw [closed]
              exact Int.le_of_eq ended
        | idle node tmp => exact scanned.dropIdle answered.once checks
        | nothing =>
            cases checks
            exact scanned.unlock

end Server

/-! ## Runs -/

/-- A call on the server, or a handler that closes its connection. -/
inductive ServiceStep where
  | acceptNewClient (outcomes : Outcomes)
  | eventCheck (outcomes : Outcomes)
  | removeClient (socket : Option ClientId) (outcomes : Outcomes)
  | closeConnection (client : ClientId) (closes : Bool)

namespace ServiceStep

def run (server : Server) : ServiceStep → Option Server
  | .acceptNewClient outcomes => (server.acceptNewClient outcomes).map Prod.snd
  | .eventCheck outcomes => (server.eventCheck outcomes).map Prod.snd
  | .removeClient socket outcomes => (server.removeClient socket outcomes).map Prod.snd
  | .closeConnection client closes =>
      (server.clients.get? client).map fun socket =>
        server.onClient client (socket.closeConnection closes)

def Answered (server : Server) : ServiceStep → Prop
  | .acceptNewClient outcomes => 0 ≤ outcomes.connFd → server.Welcomes outcomes
  | .eventCheck outcomes => server.Answered outcomes
  | .removeClient _ outcomes => outcomes.closes = true ∨ outcomes.again = true
  | .closeConnection _ _ => True

end ServiceStep

namespace Server

variable {server later : Server} {step : ServiceStep}

theorem Custody.serve (custody : server.Custody) (answered : step.Answered server)
    (ran : step.run server = some later) (granted : Granted (traffic later.log)) :
    later.Custody := by
  cases step with
  | acceptNewClient outcomes =>
      obtain ⟨added, accepts, same⟩ := Option.map_eq_some_iff.mp ran
      cases same
      exact acceptNewClient_custody custody answered accepts granted
  | eventCheck outcomes =>
      obtain ⟨event, checks, same⟩ := Option.map_eq_some_iff.mp ran
      cases same
      exact eventCheck_custody custody answered checks granted
  | removeClient socket outcomes =>
      obtain ⟨removed, removes, same⟩ := Option.map_eq_some_iff.mp ran
      cases same
      exact removeClient_keeps (Custody.removal answered) custody removes
  | closeConnection client closes =>
      obtain ⟨socket, there, same⟩ := Option.map_eq_some_iff.mp ran
      cases same
      exact custody.giveBack there
        (Socket.closeConnection_givesBack (custody.frees client socket there) closes)

/-- A step with an outcome, in which the system hands out nothing that is held. -/
def Serves (server later : Server) : Prop :=
  ∃ step : ServiceStep, step.Answered server ∧ step.run server = some later ∧
    Granted (traffic later.log)

theorem New.custody (new : server.New) (silent : server.log = []) : server.Custody where
  ledger := by
    rw [silent, holdings, new.clients, new.collections]
    exact .nil
  paired := by
    rw [new.collections]
    simp
  frees := by
    rw [new.clients]
    simp
  unique node other client owned := by
    rw [clientAt, new.collections, Arena.get?_empty] at owned
    contradiction
  homes client := by
    unfold clientAt
    rw [new.clients, new.collections]
    simp

/-- In every state of a run the descriptors and SSL objects that were taken and not given
back are those of the clients and of the pipes, each of one of them, and nothing was given
back that was not held; without clients nothing is held. -/
theorem custody_throughout (new : server.New) (silent : server.log = [])
    (serves : Relation.ReflTransGen Serves server later) :
    Ledger (traffic later.log) later.holdings ∧
      ((∀ node, later.collections.get? node = none) →
        ∀ thing, hold thing false (traffic later.log) = some false) := by
  have custody : later.Custody := by
    induction serves with
    | refl => exact new.custody silent
    | tail _ goes ih =>
        obtain ⟨step, answered, ran, granted⟩ := goes
        exact ih.serve answered ran granted
  refine ⟨custody.ledger, fun alone thing => ?_⟩
  have clients : ∀ client, later.clients.get? client = none := by
    intro client
    by_contra live
    obtain ⟨socket, there⟩ := Option.ne_none_iff_exists'.mp live
    obtain ⟨node, owned⟩ := (custody.homes client).mp ⟨socket, there⟩
    rw [clientAt, alone] at owned
    contradiction
  rw [custody.ledger.held]
  refine congrArg some (decide_eq_false fun member => ?_)
  rcases List.mem_append.mp member with inClient | inPipe
  · obtain ⟨client, socket, there, -⟩ := Arena.mem_contents.mp inClient
    rw [clients] at there
    contradiction
  · obtain ⟨node, collection, found, -⟩ := Arena.mem_contents.mp inPipe
    rw [alone] at found
    contradiction

/-- A listening server that gives its clients to threads. -/
def delegating : Server :=
  { listening with receptionHandlerAsThread := true, receptionCallbackFunction := some 0 }

/-- The client has sent bytes, and a thread is started for it. -/
def sending : Outcomes :=
  { quiet with ret := 1, readfds := [5], inputBytes := true, pipe := some (7, 8), thread := some 1 }

/-- A client is accepted, and a thread started for it. -/
theorem custody_throughout_delegated :
    ∃ one two, ServiceStep.run delegating (.acceptNewClient visited) = some one ∧
      ServiceStep.run one (.eventCheck sending) = some two ∧
      two.holdings = [.descriptor 5, .descriptor 7, .descriptor 8] ∧
      Ledger (traffic two.log) two.holdings ∧
      ((∀ node, two.collections.get? node = none) →
        ∀ thing, hold thing false (traffic two.log) = some false) := by
  have runs : ((ServiceStep.run delegating (.acceptNewClient visited)).bind fun one =>
      (ServiceStep.run one (.eventCheck sending)).map fun two =>
        (one.lock.watchedSet.map Prod.snd, decide (Granted (traffic one.log)),
          decide (Granted (traffic two.log)), two.holdings)) =
      some (some [3, 5], true, true, [.descriptor 5, .descriptor 7, .descriptor 8]) := by
    decide +kernel
  obtain ⟨one, accepts, runs⟩ := Option.bind_eq_some_iff.mp runs
  obtain ⟨two, checks, values⟩ := Option.map_eq_some_iff.mp runs
  simp only [Prod.mk.injEq] at values
  obtain ⟨watches, grantedOne, grantedTwo, holds⟩ := values
  have welcomes : delegating.Welcomes visited :=
    ⟨by decide, by decide +kernel, by decide, .inr (.inl rfl)⟩
  have reports : one.lock.Reports sending := by
    intro fd member
    obtain rfl : fd = 5 := List.mem_singleton.mp member
    refine ⟨by decide, fun filled fills => ?_⟩
    rw [fills, Option.map_some, Option.some.injEq] at watches
    rw [watches]
    decide
  have answered : one.Answered sending := by
    refine ⟨fun _ accepted => absurd accepted (by decide), reports, fun pipe given => ?_, .inl rfl⟩
    cases given
    decide
  have serves : Relation.ReflTransGen Serves delegating two :=
    .tail (.single ⟨.acceptNewClient visited, fun _ => welcomes, accepts,
      of_decide_eq_true grantedOne⟩)
      ⟨.eventCheck sending, answered, checks, of_decide_eq_true grantedTwo⟩
  exact ⟨one, two, accepts, checks, holds,
    custody_throughout ⟨rfl, rfl, rfl, rfl⟩ rfl serves⟩

end Server

end SynapTCP
