import SynapTCP.Server.EventCheck

namespace SynapTCP

open Data

/-! # The ring of clients

What it means for the client list to be well formed, and what keeps it so without
touching it.
-/

namespace Server

variable {server after : Server} {ring : List CollectionId} {node other : CollectionId}
  {client : ClientId} {collection : ClientCollection}

def clientAt (server : Server) (node : CollectionId) : Option ClientId :=
  (server.collections.get? node).map ClientCollection.client

def pipeAt (server : Server) (node : CollectionId) : Option (Int × Int) :=
  (server.collections.get? node).map ClientCollection.pipe

/-- The nodes that are made and not destroyed are the ring from `clientList` on,
one for each client that is made and not destroyed, and the active client is
one of these. -/
structure Sound (server : Server) (ring : List CollectionId) : Prop where
  isRing : IsRing server.next ring
  head : server.clientList = ring.head?
  live : ∀ node, node ∈ ring ↔ ∃ collection, server.collections.get? node = some collection
  distinct : ∀ node ∈ ring, ∀ other ∈ ring,
    server.clientAt node = server.clientAt other → node = other
  sockets : ∀ client, (∃ socket, server.clients.get? client = some socket) ↔
    ∃ node ∈ ring, server.clientAt node = some client
  active : ∀ client, server.client = some client →
    ∃ node ∈ ring, server.clientAt node = some client

def WellFormed (server : Server) : Prop := ∃ ring, server.Sound ring

/-- The client list is this ring, whatever else is in memory. -/
structure Chained (server : Server) (ring : List CollectionId) : Prop where
  isRing : IsRing server.next ring
  head : server.clientList = ring.head?

theorem Sound.chained (sound : server.Sound ring) : server.Chained ring :=
  ⟨sound.isRing, sound.head⟩

theorem Chained.get?_of_mem (chained : server.Chained ring) (member : node ∈ ring) :
    ∃ collection, server.collections.get? node = some collection := by
  obtain ⟨behind, -, linked⟩ := chained.isRing.next_mem member
  obtain ⟨collection, found, -⟩ := Option.bind_eq_some_iff.mp linked
  exact ⟨collection, found⟩

theorem Chained.length_lt_rounds (chained : server.Chained ring) :
    ring.length < server.rounds := by
  have bound : ring ⊆ List.range server.collections.fresh := by
    intro node member
    obtain ⟨collection, found⟩ := chained.get?_of_mem member
    exact List.mem_range.mpr (Arena.lt_fresh_of_get? found)
  have short := List.Nodup.length_le_of_subset chained.isRing.nodup bound
  rw [List.length_range] at short
  exact Nat.lt_succ_of_le short

/-- The client and the link of a node. -/
def shapeAt (server : Server) (node : CollectionId) :
    Option (ClientId × Option CollectionId) :=
  (server.collections.get? node).map fun collection => (collection.client, collection.next)

theorem clientAt_eq : server.clientAt node = (server.shapeAt node).map Prod.fst := by
  unfold clientAt shapeAt
  rw [Option.map_map]
  rfl

theorem next_eq : server.next node = (server.shapeAt node).bind Prod.snd := by
  unfold next shapeAt
  cases server.collections.get? node <;> rfl

theorem live_iff_shape :
    (∃ collection, server.collections.get? node = some collection) ↔
      ∃ shape, server.shapeAt node = some shape := by
  unfold shapeAt
  cases server.collections.get? node <;> simp

/-- The ring, the clients and the active client are as they were. -/
structure SameRing (before after : Server) : Prop where
  clientList : after.clientList = before.clientList
  client : after.client = before.client
  shape : ∀ node, after.shapeAt node = before.shapeAt node
  clients : ∀ client, (after.clients.get? client).isSome = (before.clients.get? client).isSome

namespace SameRing

variable {middle : Server}

theorem refl (server : Server) : SameRing server server :=
  ⟨rfl, rfl, fun _ => rfl, fun _ => rfl⟩

theorem symm (same : SameRing server after) : SameRing after server :=
  ⟨same.clientList.symm, same.client.symm, fun node => (same.shape node).symm,
    fun client => (same.clients client).symm⟩

theorem trans (left : SameRing server middle) (right : SameRing middle after) :
    SameRing server after :=
  ⟨right.clientList.trans left.clientList, right.client.trans left.client,
    fun node => (right.shape node).trans (left.shape node),
    fun client => (right.clients client).trans (left.clients client)⟩

theorem clientAt (same : SameRing server after) : after.clientAt node = server.clientAt node := by
  rw [clientAt_eq, clientAt_eq, same.shape]

theorem next (same : SameRing server after) : after.next = server.next := by
  funext node
  rw [next_eq, next_eq, same.shape]

theorem live (same : SameRing server after) :
    (∃ collection, after.collections.get? node = some collection) ↔
      ∃ collection, server.collections.get? node = some collection := by
  rw [live_iff_shape, live_iff_shape, same.shape]

theorem socket (same : SameRing server after) :
    (∃ socket, after.clients.get? client = some socket) ↔
      ∃ socket, server.clients.get? client = some socket := by
  rw [← Option.isSome_iff_exists, ← Option.isSome_iff_exists, same.clients]

theorem sound (same : SameRing server after) (sound : server.Sound ring) : after.Sound ring where
  isRing := by
    rw [same.next]
    exact sound.isRing
  head := same.clientList.trans sound.head
  live node := (sound.live node).trans same.live.symm
  distinct node member other memberOther equal := by
    rw [same.clientAt, same.clientAt] at equal
    exact sound.distinct node member other memberOther equal
  sockets client := by
    rw [same.socket, sound.sockets client]
    simp only [same.clientAt]
  active client isActive := by
    rw [same.client] at isActive
    simp only [same.clientAt]
    exact sound.active client isActive

theorem of_log (log : List Effect) : SameRing server { server with log } :=
  ⟨rfl, rfl, fun _ => rfl, fun _ => rfl⟩

theorem emit (acts : List (Act (Resource Owner))) : SameRing server (server.emit acts) :=
  of_log _

theorem lock : SameRing server server.lock := emit _

theorem unlock : SameRing server server.unlock := emit _

/-- A node may change in everything but its client and its link. -/
theorem of_set (found : server.collections.get? node = some collection)
    {changed : ClientCollection}
    (collections : after.collections = server.collections.set node changed)
    (sameClient : changed.client = collection.client) (sameNext : changed.next = collection.next)
    (unchanged : after.toTCPServer = server.toTCPServer) (clients : after.clients = server.clients) :
    SameRing server after := by
  refine ⟨congrArg TCPServer.clientList unchanged, congrArg TCPServer.client unchanged,
    fun other => ?_, fun _ => by rw [clients]⟩
  unfold shapeAt
  rw [collections]
  by_cases same : other = node
  · rw [same, Arena.get?_set_self found, found, Option.map_some, Option.map_some, sameClient,
      sameNext]
  · rw [Arena.get?_set_of_ne same]

theorem setClient {socket : Socket} (found : server.clients.get? client = some socket)
    (changed : Socket) :
    SameRing server { server with clients := server.clients.set client changed } := by
  refine ⟨rfl, rfl, fun _ => rfl, fun other => ?_⟩
  show ((server.clients.set client changed).get? other).isSome = _
  by_cases same : other = client
  · rw [same, Arena.get?_set_self found, found]
    rfl
  · rw [Arena.get?_set_of_ne same]

theorem onClient {α : Type} {socket : Socket} (found : server.clients.get? client = some socket)
    (call : Call α) : SameRing server (server.onClient client call) :=
  (setClient found call.socket).trans (emit _)

end SameRing

namespace Sound

theorem get?_of_mem (sound : server.Sound ring) (member : node ∈ ring) :
    ∃ collection, server.collections.get? node = some collection :=
  (sound.live node).mp member

theorem clientAt_of_get? (found : server.collections.get? node = some collection) :
    server.clientAt node = some collection.client := by
  rw [Server.clientAt, found, Option.map_some]

theorem next_of_get? (found : server.collections.get? node = some collection) :
    server.next node = collection.next := by
  rw [Server.next, found, Option.bind_some]

theorem socket_of_get? (sound : server.Sound ring)
    (found : server.collections.get? node = some collection) :
    ∃ socket, server.clients.get? collection.client = some socket :=
  (sound.sockets collection.client).mpr
    ⟨node, (sound.live node).mpr ⟨collection, found⟩, clientAt_of_get? found⟩

theorem length_lt_rounds (sound : server.Sound ring) : ring.length < server.rounds :=
  sound.chained.length_lt_rounds

end Sound

end Server

end SynapTCP
