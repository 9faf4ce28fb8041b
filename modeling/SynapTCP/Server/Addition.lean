import SynapTCP.Server.Removal

namespace SynapTCP

open Data

/-! # Adding a client to the ring -/

namespace Server

variable {server middle after : Server} {ring rest : List CollectionId}
  {node head : CollectionId} {client : ClientId} {socket : Socket} {connFd : Int}
  {outcomes : Outcomes}

/-- The new client is in memory, all else is as it was. -/
structure Prepared (before after : Server) (client : ClientId) : Prop where
  server : after.toTCPServer = before.toTCPServer
  collections : after.collections = before.collections
  made : ∃ socket, after.clients.get? client = some socket
  others : ∀ other, other ≠ client → after.clients.get? other = before.clients.get? other

/-- Nothing is left of a client that was given up again. -/
structure GivenUp (before after : Server) : Prop where
  server : after.toTCPServer = before.toTCPServer
  collections : after.collections = before.collections
  clients : ∀ client, after.clients.get? client = before.clients.get? client

theorem GivenUp.same (givenUp : GivenUp server after) : SameRing server after where
  clientList := congrArg TCPServer.clientList givenUp.server
  client := congrArg TCPServer.client givenUp.server
  shape node := by
    unfold shapeAt
    rw [givenUp.collections]
  clients client := by rw [givenUp.clients]

namespace Prepared

theorem newClient : Prepared server server.newClient server.clients.fresh where
  server := rfl
  collections := rfl
  made := ⟨_, Arena.get?_make_fresh⟩
  others _ apart := Arena.get?_make_of_ne apart

theorem emit (prepared : Prepared server middle client) (acts : List (Act (Resource Owner))) :
    Prepared server (middle.emit acts) client :=
  ⟨prepared.server, prepared.collections, prepared.made, prepared.others⟩

theorem lock (prepared : Prepared server middle client) : Prepared server middle.lock client :=
  prepared.emit _

theorem onClient {α : Type} (prepared : Prepared server middle client) (call : Call α) :
    Prepared server (middle.onClient client call) client := by
  obtain ⟨object, made⟩ := prepared.made
  refine ⟨prepared.server, prepared.collections, ⟨call.socket, Arena.get?_set_self made⟩, ?_⟩
  intro other apart
  rw [← prepared.others other apart]
  exact Arena.get?_set_of_ne apart

theorem attachClient (prepared : Prepared server middle client) :
    Prepared server (middle.attachClient client socket connFd outcomes).2 client := by
  have given := (prepared.onClient (socket.setSocketFd connFd)).onClient
    ((socket.setSocketFd connFd).socket.setSSLPointer none)
  unfold Server.attachClient
  dsimp only
  split
  · split
    · exact given
    · split
      · exact given
      · split
        · exact (given.emit _).emit _
        · exact (given.emit _).onClient _
  · exact given

theorem deleteClient (prepared : Prepared server middle client)
    (fresh : server.clients.get? client = none) :
    ∃ after, middle.deleteClient client outcomes = some after ∧ GivenUp server after := by
  obtain ⟨object, made⟩ := prepared.made
  refine ⟨_, by rw [Server.deleteClient, made, Option.map_some], ?_⟩
  refine ⟨prepared.server, prepared.collections, fun other => ?_⟩
  show (middle.clients.destroy client).get? other = _
  by_cases same : other = client
  · rw [same, Arena.get?_destroy_self, fresh]
  · rw [Arena.get?_destroy_of_ne same, prepared.others other same]

end Prepared

/-- A node for a new client, with all else as it was. -/
structure Added (before after : Server) (node : CollectionId) (client : ClientId) : Prop where
  absent : before.collections.get? node = none
  fresh : before.clients.get? client = none
  here : after.clientAt node = some client
  kept : ∀ other, other ≠ node → after.clientAt other = before.clientAt other
  pipe : after.pipeAt node = some (0, 0)
  pipes : ∀ other, other ≠ node → after.pipeAt other = before.pipeAt other
  made : ∃ socket, after.clients.get? client = some socket
  clients : ∀ other, other ≠ client → after.clients.get? other = before.clients.get? other
  active : after.client = before.client

theorem Sound.added {longer : List CollectionId} (sound : server.Sound ring)
    (added : Added server after node client) (isRing : IsRing after.next longer)
    (headAfter : after.clientList = longer.head?)
    (members : ∀ i, i ∈ longer ↔ i ∈ ring ∨ i = node) : after.Sound longer := by
  have apart : ∀ i ∈ ring, i ≠ node := by
    intro i member same
    obtain ⟨collection, found⟩ := sound.get?_of_mem member
    rw [same, added.absent] at found
    contradiction
  have unowned : ∀ i ∈ ring, server.clientAt i ≠ some client := by
    intro i member owned
    obtain ⟨socket, there⟩ := (sound.sockets client).mpr ⟨i, member, owned⟩
    rw [added.fresh] at there
    contradiction
  refine ⟨isRing, headAfter, ?_, ?_, ?_, ?_⟩
  · intro other
    rw [members, sound.live]
    by_cases same : other = node
    · rw [same, live_iff_clientAt, live_iff_clientAt, added.here]
      simp
    · rw [live_iff_clientAt, live_iff_clientAt, added.kept other same]
      exact or_iff_left same
  · intro i memberI j memberJ equal
    rcases (members i).mp memberI with inRing | isNew
    · rcases (members j).mp memberJ with inRingJ | isNewJ
      · rw [added.kept i (apart i inRing), added.kept j (apart j inRingJ)] at equal
        exact sound.distinct i inRing j inRingJ equal
      · rw [added.kept i (apart i inRing), isNewJ, added.here] at equal
        exact absurd equal (unowned i inRing)
    · rcases (members j).mp memberJ with inRingJ | isNewJ
      · rw [added.kept j (apart j inRingJ), isNew, added.here] at equal
        exact absurd equal.symm (unowned j inRingJ)
      · rw [isNew, isNewJ]
  · intro other
    by_cases same : other = client
    · rw [same]
      exact ⟨fun _ => ⟨node, (members node).mpr (.inr rfl), added.here⟩, fun _ => added.made⟩
    · rw [added.clients other same, sound.sockets other]
      constructor
      · intro owner
        obtain ⟨i, inRing, owns⟩ := owner
        exact ⟨i, (members i).mpr (.inl inRing), by rw [added.kept i (apart i inRing), owns]⟩
      · intro owner
        obtain ⟨i, memberI, owns⟩ := owner
        rcases (members i).mp memberI with inRing | isNew
        · exact ⟨i, inRing, by rw [← added.kept i (apart i inRing), owns]⟩
        · rw [isNew, added.here] at owns
          exact absurd (Option.some.inj owns).symm same
  · intro other isActive
    rw [added.active] at isActive
    obtain ⟨i, inRing, owns⟩ := sound.active other isActive
    exact ⟨i, (members i).mpr (.inl inRing), by rw [added.kept i (apart i inRing), owns]⟩

/-! ### The new node -/

/-- There is one more node, for the client. -/
structure Linked (before after : Server) (node : CollectionId) (client : ClientId) : Prop where
  absent : before.collections.get? node = none
  here : after.clientAt node = some client
  kept : ∀ other, other ≠ node → after.clientAt other = before.clientAt other
  pipe : after.pipeAt node = some (0, 0)
  pipes : ∀ other, other ≠ node → after.pipeAt other = before.pipeAt other
  clients : after.clients = before.clients
  active : after.client = before.client
  log : after.log = before.log

theorem linked_of_get? {linked : ClientCollection} (absent : server.collections.get? node = none)
    (here : after.collections.get? node = some linked)
    (kept : ∀ other, other ≠ node → (after.collections.get? other).map
      (fun collection => (collection.client, collection.pipe)) =
        (server.collections.get? other).map fun collection => (collection.client, collection.pipe))
    (unmarked : linked.pipe = (0, 0)) (clients : after.clients = server.clients)
    (active : after.client = server.client) (log : after.log = server.log) :
    Linked server after node linked.client := by
  refine ⟨absent, ?_, fun other apart => ?_, ?_, fun other apart => ?_, clients, active, log⟩
  · rw [clientAt, here, Option.map_some]
  · have same := congrArg (Option.map Prod.fst) (kept other apart)
    rw [Option.map_map, Option.map_map] at same
    exact same
  · rw [pipeAt, here, Option.map_some, unmarked]
  · have same := congrArg (Option.map Prod.snd) (kept other apart)
    rw [Option.map_map, Option.map_map] at same
    exact same

theorem linkClient_first (empty : server.clientList = none) :
    ∃ after, server.linkClient client outcomes = some after ∧
      Linked server after server.collections.fresh client ∧
      after.Chained [server.collections.fresh] := by
  let newClient : ClientCollection := ⟨client, outcomes.created, 0, (0, 0), none⟩
  let after : Server := { server with
    clientList := some server.collections.fresh
    collections := (server.collections.make newClient).set server.collections.fresh
      { newClient with next := some server.collections.fresh } }
  have links : server.linkClient client outcomes = some after := by
    unfold linkClient
    dsimp only
    rw [empty]
  have here : after.collections.get? server.collections.fresh =
      some { newClient with next := some server.collections.fresh } :=
    Arena.get?_set_self Arena.get?_make_fresh
  refine ⟨after, links, linked_of_get? Arena.get?_fresh here ?_ rfl rfl rfl rfl,
    IsRing.single ?_, rfl⟩
  · intro other apart
    rw [show after.collections.get? other = server.collections.get? other by
      rw [Arena.get?_set_of_ne apart, Arena.get?_make_of_ne apart]]
  · rw [next, here, Option.bind_some]

theorem get?_linked {collections : Arena ClientCollection} {tmp : CollectionId}
    {last made changed linked : ClientCollection} (live : collections.get? tmp = some last)
    (other : CollectionId) :
    (((collections.make made).set tmp changed).set collections.fresh linked).get? other =
      if other = collections.fresh then some linked
      else if other = tmp then some changed else collections.get? other := by
  have apart : collections.fresh ≠ tmp := (Arena.ne_fresh_of_get? live).symm
  by_cases isNew : other = collections.fresh
  · rw [if_pos isNew, isNew, @Arena.get?_set_self _ _ _ linked made]
    rw [Arena.get?_set_of_ne apart, Arena.get?_make_fresh]
  · rw [if_neg isNew, Arena.get?_set_of_ne isNew]
    by_cases isLast : other = tmp
    · rw [if_pos isLast, isLast, Arena.get?_set_self (Arena.get?_make_of_live live)]
    · rw [if_neg isLast, Arena.get?_set_of_ne isLast, Arena.get?_make_of_ne isNew]

theorem linkClient_behind (chained : server.Chained (head :: rest)) :
    ∃ after, server.linkClient client outcomes = some after ∧
      Linked server after server.collections.fresh client ∧
      after.Chained (head :: (rest ++ [server.collections.fresh])) := by
  have first : server.clientList = some head := chained.head
  obtain ⟨nodup, leads⟩ := isRing_cons.mp chained.isRing
  obtain ⟨front, tmp, split⟩ : ∃ front tmp, head :: rest = front ++ [tmp] :=
    ⟨_, _, (List.dropLast_append_getLast (List.cons_ne_nil head rest)).symm⟩
  obtain ⟨last, foundLast⟩ := @Chained.get?_of_mem server _ tmp chained (by rw [split]; simp)
  let newClient : ClientCollection := ⟨client, outcomes.created, 0, (0, 0), none⟩
  let made := { server with collections := server.collections.make newClient }
  have leadsMade : LeadsTo made.next (head :: rest) head := by
    apply leads.congr
    intro i member
    obtain ⟨collection, found⟩ := chained.get?_of_mem member
    show ((server.collections.make newClient).get? i).bind _ = _
    rw [Arena.get?_make_of_live found, next, found]
  have short : rest.length < made.rounds := by
    have bound := chained.length_lt_rounds
    unfold rounds at bound ⊢
    rw [List.length_cons] at bound
    rw [show made.collections.fresh = server.collections.fresh + 1 from Arena.fresh_make]
    omega
  have isLast : lastNode made.next head made.rounds head = some tmp := by
    rw [lastNode_eq leadsMade (List.nodup_cons.mp nodup).1 short, split, List.getLast?_concat]
  have foundMade : made.collections.get? tmp = some last := Arena.get?_make_of_live foundLast
  let after : Server := { made with
    collections := (made.collections.set tmp
      { last with next := some server.collections.fresh }).set server.collections.fresh
        { newClient with next := some head } }
  have links : server.linkClient client outcomes = some after := by
    unfold linkClient
    dsimp only
    rw [first]
    simp only [bind]
    rw [show lastNode _ head _ head = some tmp from isLast, Option.bind_some]
    rw [show Arena.get? _ tmp = some last from foundMade, Option.bind_some]
  have there : ∀ other, after.collections.get? other = _ := fun other =>
    @get?_linked server.collections tmp last newClient
      { last with next := some server.collections.fresh } { newClient with next := some head }
      foundLast other
  have notNew : ∀ i ∈ head :: rest, i ≠ server.collections.fresh := by
    intro i member
    obtain ⟨collection, found⟩ := chained.get?_of_mem member
    exact Arena.ne_fresh_of_get? found
  have here : after.collections.get? server.collections.fresh =
      some { newClient with next := some head } := by
    rw [there, if_pos rfl]
  have linked := @linked_of_get? server after _ _ Arena.get?_fresh here (fun other apart => by
    rw [there, if_neg apart]
    split
    · rename_i same
      rw [same, foundLast]
      rfl
    · rfl) rfl rfl rfl rfl
  refine ⟨after, links, linked, ?_, first⟩
  refine chained.isRing.append split (fun member => notNew _ member rfl) ?_ ?_ ?_
  · rw [next, there, if_neg (notNew tmp (by rw [split]; simp)), if_pos rfl]
    rfl
  · rw [next, here]
    rfl
  · intro i member
    have apart : i ≠ tmp := by
      intro same
      rw [split] at nodup
      exact (List.nodup_append.mp nodup).2.2 i member tmp (.head _) same
    rw [next, there, if_neg (notNew i (by rw [split]; exact List.mem_append_left _ member)),
      if_neg apart]
    rfl

theorem linkClient_chained (chained : server.Chained ring) :
    ∃ after, server.linkClient client outcomes = some after ∧
      Linked server after server.collections.fresh client ∧
      after.Chained (ring ++ [server.collections.fresh]) := by
  cases ring with
  | nil => exact linkClient_first chained.head
  | cons head rest => exact linkClient_behind chained

theorem Linked.added (linked : Linked middle after server.collections.fresh client)
    (prepared : Prepared server middle client) (fresh : server.clients.get? client = none) :
    Added server after server.collections.fresh client where
  absent := Arena.get?_fresh
  fresh := fresh
  here := linked.here
  kept other apart := by
    rw [linked.kept other apart, clientAt, prepared.collections]
    rfl
  pipe := linked.pipe
  pipes other apart := by
    rw [linked.pipes other apart, pipeAt, prepared.collections]
    rfl
  made := by
    rw [linked.clients]
    exact prepared.made
  clients other apart := by rw [linked.clients, prepared.others other apart]
  active := linked.active.trans (congrArg TCPServer.client prepared.server)

theorem Prepared.chained (prepared : Prepared server middle client)
    (chained : server.Chained ring) : middle.Chained ring where
  isRing := by
    have same : middle.next = server.next := by
      funext node
      rw [next, next, prepared.collections]
    rw [same]
    exact chained.isRing
  head := (congrArg TCPServer.clientList prepared.server).trans chained.head

theorem linkClient_adds (sound : server.Sound ring) (fresh : server.clients.get? client = none)
    (prepared : Prepared server middle client) :
    ∃ after, middle.linkClient client outcomes = some after ∧
      Added server after server.collections.fresh client ∧
      after.Sound (ring ++ [server.collections.fresh]) := by
  obtain ⟨after, links, linked, chained⟩ :=
    @linkClient_chained middle ring client outcomes (prepared.chained sound.chained)
  rw [prepared.collections] at linked chained
  have added := linked.added prepared fresh
  exact ⟨after, links, added, sound.added added chained.isRing chained.head (by simp)⟩

/-- The call either leaves the ring alone or makes one node for one client at its end. -/
theorem addClient_adds (sound : server.Sound ring) (connFd : Int) (outcomes : Outcomes) :
    ∃ added after, server.addClient connFd outcomes = some (added, after) ∧
      if added then
        Added server after server.collections.fresh server.clients.fresh ∧
          after.Sound (ring ++ [server.collections.fresh])
      else GivenUp server after := by
  have prepared : Prepared server server.newClient server.clients.fresh := .newClient
  have gone : ∀ {middle}, Prepared server middle server.clients.fresh →
      ∃ added after, (middle.deleteClient server.clients.fresh outcomes).map (false, ·) =
          some (added, after) ∧
        if added then
          Added server after server.collections.fresh server.clients.fresh ∧
            after.Sound (ring ++ [server.collections.fresh])
        else GivenUp server after := by
    intro middle prepared
    obtain ⟨after, deletes, same⟩ :=
      @Prepared.deleteClient server middle _ outcomes prepared Arena.get?_fresh
    exact ⟨false, after, by rw [deletes, Option.map_some], same⟩
  have linked : ∀ {middle}, Prepared server middle server.clients.fresh →
      ∃ added after, (middle.linkClient server.clients.fresh outcomes).map (true, ·) =
          some (added, after) ∧
        if added then
          Added server after server.collections.fresh server.clients.fresh ∧
            after.Sound (ring ++ [server.collections.fresh])
        else GivenUp server after := by
    intro middle prepared
    obtain ⟨after, links, added, soundAfter⟩ :=
      @linkClient_adds _ _ _ _ outcomes sound Arena.get?_fresh prepared
    exact ⟨true, after, by rw [links, Option.map_some], added, soundAfter⟩
  unfold addClient
  dsimp only
  split
  · exact gone (prepared.onClient _)
  · split
    · exact gone ((prepared.onClient _).onClient _)
    · split
      · exact gone ((prepared.onClient _).onClient _).lock.attachClient
      · exact linked ((prepared.onClient _).onClient _).lock.attachClient

end Server

end SynapTCP
