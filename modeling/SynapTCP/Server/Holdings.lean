import SynapTCP.Data.Ledger
import SynapTCP.Socket.Closing
import SynapTCP.Threads.Seats

namespace SynapTCP

open Data

/-! # What the clients hold

The descriptors and SSL objects of the clients and of the pipes, against all of them that
the methods have taken and given back.
-/

/-- A descriptor or an SSL object. -/
def Resource.lasting {ω : Type} : Resource ω → Bool
  | .mutex _ _ => false
  | .descriptor _ | .connection _ => true

def lasting {ω : Type} (acts : List (Act (Resource ω))) : List (Act (Resource ω)) :=
  acts.filter fun act => act.thing.lasting

@[simp] theorem lasting_append {ω : Type} (acts more : List (Act (Resource ω))) :
    lasting (acts ++ more) = lasting acts ++ lasting more := List.filter_append ..

/-- What a client holds. -/
def Socket.held (socket : Socket) : List (Resource Owner) :=
  socket.sslConn.toList.map .connection ++
    if 0 < socket.sockFd then [.descriptor socket.sockFd] else []

/-- `closeConnection` frees the SSL object, if there is one. -/
def Socket.Frees (socket : Socket) : Prop := socket.sslConn ≠ none → socket.useSSL = true

/-- What a pipe holds. -/
def pipeHeld (pipe : Int × Int) : List (Resource Owner) :=
  (if 0 < pipe.1 then [.descriptor pipe.1] else []) ++
    if 0 < pipe.2 then [.descriptor pipe.2] else []

/-- There is no pipe, or it has both ends. -/
def Paired (pipe : Int × Int) : Prop := pipe = (0, 0) ∨ 0 < pipe.1 ∧ 0 < pipe.2

theorem Paired.held {pipe : Int × Int} (paired : Paired pipe) (opened : 0 < pipe.1) :
    pipeHeld pipe = [.descriptor pipe.1, .descriptor pipe.2] := by
  rcases paired with unset | ends
  · rw [unset] at opened
    contradiction
  · rw [pipeHeld, if_pos ends.1, if_pos ends.2]
    rfl

theorem Paired.unset {pipe : Int × Int} (paired : Paired pipe) (closed : pipe.1 ≤ 0) :
    pipe = (0, 0) :=
  paired.resolve_right fun ends => absurd ends.1 (Int.not_lt.mpr closed)

namespace Socket

variable {socket : Socket} {call : Call Unit} {owner : Owner}

/-- The call gives back a part of what the object holds, and the object holds the rest. -/
structure GivesBack (owner : Owner) (socket : Socket) (call : Call Unit) : Prop where
  part : ∃ given, socket.held.Perm (given ++ call.socket.held) ∧
    lasting (call.actsOf owner) = given.map .release
  frees : call.socket.Frees

theorem GivesBack.early (frees : socket.Frees) : GivesBack owner socket (socket.early ()) :=
  ⟨⟨[], .refl _, rfl⟩, frees⟩

theorem GivesBack.bind {rest : Unit → Socket → Call Unit} (first : GivesBack owner socket call)
    (later : GivesBack owner call.socket (rest call.result call.socket)) :
    GivesBack owner socket (call.bind rest) := by
  obtain ⟨given, part, gave⟩ := first.part
  obtain ⟨more, partLater, gaveLater⟩ := later.part
  refine ⟨⟨given ++ more, ?_, ?_⟩, later.frees⟩
  · rw [List.append_assoc]
    exact part.trans (partLater.append_left given)
  · rw [List.map_append, ← gave, ← gaveLater, ← lasting_append]
    simp only [Call.actsOf, Call.bind, List.map_append]

/-- The mutexes do not count. -/
theorem GivesBack.locked (given : GivesBack owner socket call) :
    GivesBack owner socket ⟨(), call.socket, lockOf () ++ call.acts ++ unlockOf ()⟩ := by
  obtain ⟨things, part, gave⟩ := given.part
  refine ⟨⟨things, part, ?_⟩, given.frees⟩
  rw [← gave]
  simp only [Call.actsOf, List.map_append, lasting_append]
  show [] ++ _ ++ [] = _
  rw [List.nil_append, List.append_nil]

theorem freeSSL_givesBack (frees : socket.Frees) : GivesBack owner socket socket.freeSSL := by
  unfold freeSSL
  split
  · rename_i ssl here
    have uses : socket.useSSL = true := frees (by rw [here]; exact Option.some_ne_none ssl)
    rw [if_pos uses]
    refine ⟨⟨[.connection ssl], ?_, rfl⟩, fun unfreed => absurd rfl unfreed⟩
    rw [held, here]
    exact .refl _
  · exact .early frees

theorem closeFd_givesBack (frees : socket.Frees) (closes : Bool) :
    GivesBack owner socket (socket.closeFd closes) := by
  unfold closeFd
  split
  · rename_i opened
    split
    · refine ⟨⟨[.descriptor socket.sockFd], ?_, rfl⟩, frees⟩
      rw [held, if_pos opened]
      exact List.perm_append_comm.trans (by simp [held])
    · exact .early frees
  · exact .early frees

theorem closeConnection_givesBack (frees : socket.Frees) (closes : Bool) :
    GivesBack owner socket (socket.closeConnection closes) := by
  have freed := @freeSSL_givesBack socket owner frees
  exact (freed.bind (closeFd_givesBack freed.frees closes)).locked

theorem closeSocket_givesBack (frees : socket.Frees) (closes again : Bool) :
    GivesBack owner socket (socket.closeSocket closes again) := by
  have closed := @closeConnection_givesBack socket owner frees closes
  exact closed.bind (closeFd_givesBack closed.frees again).locked

theorem closeFd_closed {closes : Bool} (once : closes = true ∨ socket.sockFd ≤ 0) :
    (socket.closeFd closes).socket.sockFd ≤ 0 := by
  unfold closeFd
  split
  · rename_i opened
    rw [if_pos (once.resolve_right (Int.not_le.mpr opened))]
    exact show (-1 : Int) ≤ 0 by decide
  · rename_i closed
    exact Int.not_lt.mp closed

/-- `~Socket` leaves nothing, if `close` succeeds once. -/
theorem closeSocket_held {closes again : Bool} (frees : socket.Frees)
    (once : closes = true ∨ again = true) :
    (socket.closeSocket closes again).socket.held = [] := by
  have connection : (socket.closeSocket closes again).socket.sslConn = none := by
    obtain ⟨closedFd, closed⟩ := @closeFd_frame socket.freeSSL.socket closes
    obtain ⟨sockFd, last⟩ := @closeFd_frame (socket.freeSSL.socket.closeFd closes).socket again
    show ((socket.freeSSL.socket.closeFd closes).socket.closeFd again).socket.sslConn = none
    rw [last, closed, freeSSL_socket]
    by_cases free : socket.sslConn = none
    · simp [free]
    · simp [frees free]
  have closed : (socket.closeSocket closes again).socket.sockFd ≤ 0 := by
    refine closeFd_closed ?_
    rcases once with first | second
    · exact .inr (closeFd_closed (.inl first))
    · exact .inl second
  rw [held, connection, if_neg (Int.not_lt.mpr closed)]
  rfl

end Socket

namespace Server

variable {server after : Server} {node : CollectionId} {client : ClientId}
  {collection written : ClientCollection} {socket changed : Socket} {outcomes : Outcomes}
  {acts : List (Act (Resource Owner))}

/-- The descriptors and SSL objects that were taken and given back. -/
def traffic (log : List Effect) : List (Act (Resource Owner)) :=
  lasting (log.filterMap fun
    | .act act => some act
    | _ => none)

@[simp] theorem traffic_append (log more : List Effect) :
    traffic (log ++ more) = traffic log ++ traffic more := by
  simp only [traffic, List.filterMap_append, lasting_append]

@[simp] theorem traffic_acts (acts : List (Act (Resource Owner))) :
    traffic (acts.map .act) = lasting acts := by
  induction acts with
  | nil => rfl
  | cons act acts ih =>
      have single : traffic [Effect.act act] = lasting [act] := rfl
      rw [List.map_cons, ← List.singleton_append, traffic_append, ih, single, ← lasting_append]
      rfl

theorem traffic_emit (acts : List (Act (Resource Owner))) :
    traffic (server.emit acts).log = traffic server.log ++ lasting acts := by
  rw [emit, traffic_append, traffic_acts]

theorem traffic_lock : traffic server.lock.log = traffic server.log := by
  rw [lock, traffic_emit]
  exact List.append_nil _

theorem traffic_unlock : traffic server.unlock.log = traffic server.log := by
  rw [unlock, traffic_emit]
  exact List.append_nil _

def holdings (server : Server) : List (Resource Owner) :=
  server.clients.contents Socket.held ++
    server.collections.contents fun collection => pipeHeld collection.pipe

/-- What was taken and not given back is what the clients and the pipes hold, each by one
of them; each client belongs to one node. -/
structure Custody (server : Server) : Prop where
  ledger : Ledger (traffic server.log) server.holdings
  paired : ∀ node collection, server.collections.get? node = some collection →
    Paired collection.pipe
  frees : ∀ client socket, server.clients.get? client = some socket → socket.Frees
  unique : ∀ node other client, server.clientAt node = some client →
    server.clientAt other = some client → node = other
  homes : ∀ client, (∃ socket, server.clients.get? client = some socket) ↔
    ∃ node, server.clientAt node = some client

namespace Custody

theorem congr (custody : server.Custody) (clients : after.clients = server.clients)
    (collections : after.collections = server.collections)
    (same : traffic after.log = traffic server.log) : after.Custody where
  ledger := by
    rw [same, holdings, clients, collections]
    exact custody.ledger
  paired := by
    rw [collections]
    exact custody.paired
  frees := by
    rw [clients]
    exact custody.frees
  unique := by
    unfold clientAt
    rw [collections]
    exact custody.unique
  homes := by
    unfold clientAt
    rw [clients, collections]
    exact custody.homes

theorem emit (custody : server.Custody) (silent : lasting acts = []) :
    (server.emit acts).Custody :=
  custody.congr rfl rfl (by rw [traffic_emit, silent, List.append_nil])

theorem lock (custody : server.Custody) : server.lock.Custody := custody.emit rfl

theorem unlock (custody : server.Custody) : server.unlock.Custody := custody.emit rfl

/-- A node is written, and acts account for the change of its pipe. -/
theorem setNode (custody : server.Custody) (found : server.collections.get? node = some collection)
    (owner : written.client = collection.client) (paired : Paired written.pipe)
    (clients : after.clients = server.clients)
    (collections : after.collections = server.collections.set node written)
    (moved : traffic after.log = traffic server.log ++ acts)
    (accounts : ∀ rest, Ledger (traffic server.log) (pipeHeld collection.pipe ++ rest) →
      Ledger (traffic server.log ++ acts) (pipeHeld written.pipe ++ rest)) :
    after.Custody := by
  have owners : ∀ other, after.clientAt other = server.clientAt other := by
    intro other
    unfold clientAt
    rw [collections]
    by_cases same : other = node
    · rw [same, Arena.get?_set_self found, found, Option.map_some, Option.map_some, owner]
    · rw [Arena.get?_set_of_ne same]
  obtain ⟨rest, whole, put, -⟩ :=
    Arena.contents_split (fun collection => pipeHeld collection.pipe) found
  constructor
  · have before := custody.ledger.perm
      ((whole.append_left _).trans (List.perm_append_comm_assoc _ _ _))
    have ledger := accounts _ before
    rw [moved, holdings, clients, collections]
    exact ledger.perm ((List.perm_append_comm_assoc _ _ _).trans
      ((put written).symm.append_left _))
  · intro other there found'
    rw [collections] at found'
    by_cases same : other = node
    · rw [same, Arena.get?_set_self found] at found'
      cases found'
      exact paired
    · rw [Arena.get?_set_of_ne same] at found'
      exact custody.paired other there found'
  · rw [clients]
    exact custody.frees
  · simp only [owners]
    exact custody.unique
  · simp only [owners, clients]
    exact custody.homes

/-- A node is written that keeps its client and its pipe. -/
theorem keepNode (custody : server.Custody)
    (found : server.collections.get? node = some collection)
    (owner : written.client = collection.client) (pipe : written.pipe = collection.pipe)
    (clients : after.clients = server.clients)
    (collections : after.collections = server.collections.set node written)
    (same : traffic after.log = traffic server.log) : after.Custody := by
  refine custody.setNode found owner ?_ clients collections
    (same.trans (List.append_nil _).symm) fun rest ledger => ?_
  · rw [pipe]
    exact custody.paired node collection found
  · rwa [pipe, List.append_nil]

/-- A client gives back a part of what it holds. -/
theorem giveBack {call : Call Unit} (custody : server.Custody)
    (there : server.clients.get? client = some socket)
    (gives : Socket.GivesBack (.client client) socket call) :
    (server.onClient client call).Custody := by
  obtain ⟨given, part, gave⟩ := gives.part
  obtain ⟨rest, whole, put, -⟩ := Arena.contents_split Socket.held there
  constructor
  · have before : Ledger (traffic server.log) (given ++ (call.socket.held ++
        (rest ++ server.collections.contents fun collection => pipeHeld collection.pipe))) := by
      refine custody.ledger.perm ?_
      rw [← List.append_assoc, ← List.append_assoc]
      exact (whole.append_right _).trans ((part.append_right _).append_right _)
    have ledger := before.releaseAll
    rw [← gave] at ledger
    show Ledger (traffic ((_ : Server).emit _).log) _
    rw [traffic_emit]
    refine ledger.perm ?_
    rw [← List.append_assoc]
    exact ((put call.socket).symm.append_right _)
  · exact custody.paired
  · intro other object found
    by_cases same : other = client
    · subst same
      have is : (server.clients.set other call.socket).get? other = some object := found
      rw [Arena.get?_set_self there] at is
      cases is
      exact gives.frees
    · have is : (server.clients.set client call.socket).get? other = some object := found
      rw [Arena.get?_set_of_ne same] at is
      exact custody.frees other object is
  · exact custody.unique
  · intro other
    refine Iff.trans ?_ (custody.homes other)
    show (∃ object, (server.clients.set client call.socket).get? other = some object) ↔ _
    by_cases same : other = client
    · subst same
      rw [Arena.get?_set_self there, there]
      exact iff_of_true ⟨_, rfl⟩ ⟨_, rfl⟩
    · rw [Arena.get?_set_of_ne same]

theorem pipeEnds_lasting (pipe : Int × Int) :
    lasting (pipeEnds pipe) = (pipeHeld pipe).map .release := by
  unfold pipeEnds pipeHeld
  split <;> split <;> rfl

/-- A node is destroyed with its client and its pipe. -/
theorem delete (custody : server.Custody) (once : outcomes.closes = true ∨ outcomes.again = true)
    (deletes : server.deleteCollection node outcomes = some after) : after.Custody := by
  obtain ⟨collection, found, deletes⟩ := Option.bind_eq_some_iff.mp deletes
  obtain ⟨middle, closes, result⟩ := Option.bind_eq_some_iff.mp deletes
  obtain ⟨socket, there, deleted⟩ := Option.map_eq_some_iff.mp closes
  cases deleted
  cases result
  have owner : server.clientAt node = some collection.client := Sound.clientAt_of_get? found
  have frees := custody.frees _ _ there
  obtain ⟨given, part, gave⟩ :=
    (@Socket.closeSocket_givesBack socket (.client collection.client) frees outcomes.closes
      outcomes.again).part
  rw [Socket.closeSocket_held frees once, List.append_nil] at part
  obtain ⟨restClients, wholeClients, -, leftClients⟩ := Arena.contents_split Socket.held there
  obtain ⟨restNodes, wholeNodes, -, leftNodes⟩ :=
    Arena.contents_split (fun collection => pipeHeld collection.pipe) found
  have kept : ∀ other, other ≠ node →
      Option.map ClientCollection.client ((server.collections.destroy node).get? other) =
        server.clientAt other := by
    intro other apart
    rw [Arena.get?_destroy_of_ne apart]
    rfl
  constructor
  · have before : Ledger (traffic server.log)
        (given ++ (pipeHeld collection.pipe ++ (restClients ++ restNodes))) := by
      refine custody.ledger.perm ?_
      refine ((wholeClients.trans (part.append_right _)).append wholeNodes).trans ?_
      rw [List.append_assoc]
      exact (List.perm_append_comm_assoc _ _ _).append_left _
    have ledger := before.releaseAll.releaseAll
    rw [← gave, ← pipeEnds_lasting] at ledger
    have joins : traffic (if 0 < collection.th then [Effect.join collection.th] else []) = [] := by
      split <;> rfl
    show Ledger (traffic (((_ : Server).emit _).log ++ _)) _
    rw [traffic_append, joins, List.append_nil, traffic_emit, traffic_emit]
    exact ledger.perm (leftClients.symm.append leftNodes.symm)
  · intro other there found'
    have is : (server.collections.destroy node).get? other = some there := found'
    by_cases same : other = node
    · rw [same, Arena.get?_destroy_self] at is
      contradiction
    · rw [Arena.get?_destroy_of_ne same] at is
      exact custody.paired other there is
  · intro other object found'
    have is : (server.clients.destroy collection.client).get? other = some object := found'
    by_cases same : other = collection.client
    · rw [same, Arena.get?_destroy_self] at is
      contradiction
    · rw [Arena.get?_destroy_of_ne same] at is
      exact custody.frees other object is
  · intro first second client left right
    have apart : ∀ other, Option.map ClientCollection.client
        ((server.collections.destroy node).get? other) = some client → other ≠ node := by
      intro other owns same
      rw [same, Arena.get?_destroy_self] at owns
      contradiction
    have left' := (kept first (apart first left)).symm.trans left
    have right' := (kept second (apart second right)).symm.trans right
    exact custody.unique first second client left' right'
  · intro other
    show (∃ object, (server.clients.destroy collection.client).get? other = some object) ↔
      ∃ i, Option.map ClientCollection.client ((server.collections.destroy node).get? i) =
        some other
    by_cases same : other = collection.client
    · subst same
      rw [Arena.get?_destroy_self]
      refine iff_of_false (fun live => ?_) fun home => ?_
      · obtain ⟨object, live⟩ := live
        contradiction
      · obtain ⟨i, owns⟩ := home
        by_cases here : i = node
        · rw [here, Arena.get?_destroy_self] at owns
          contradiction
        · exact here (custody.unique i node _ ((kept i here).symm.trans owns) owner)
    · rw [Arena.get?_destroy_of_ne same, custody.homes other]
      constructor
      · intro home
        obtain ⟨i, owns⟩ := home
        have apart : i ≠ node := by
          intro here
          rw [here, owner] at owns
          exact same (Option.some.inj owns).symm
        exact ⟨i, (kept i apart).trans owns⟩
      · intro home
        obtain ⟨i, owns⟩ := home
        by_cases here : i = node
        · rw [here, Arena.get?_destroy_self] at owns
          contradiction
        · exact ⟨i, (kept i here).symm.trans owns⟩

theorem removal (once : outcomes.closes = true ∨ outcomes.again = true) :
    RemovalKeeps Custody outcomes where
  link server node collection next found custody :=
    @keepNode server _ node collection { collection with next } custody found rfl rfl rfl rfl rfl
  list _ _ _ custody := custody.congr rfl rfl rfl
  delete _ _ _ deletes custody := custody.delete once deletes

end Custody

end Server

end SynapTCP
