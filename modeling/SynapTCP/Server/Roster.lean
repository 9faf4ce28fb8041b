import SynapTCP.Data.Ascent
import SynapTCP.Server.Rotation
import SynapTCP.Server.Untimed
import Mathlib.Data.List.Sort

namespace SynapTCP

open Data

/-! # The ring as a queue

The clients in the order in which they were accepted, as the ring has them, and what
the steps of a run make of it.
-/

namespace Server

variable {server middle after : Server} {ring left : List CollectionId} {outcomes : Outcomes}
  {node prev head : CollectionId} {client : ClientId} {fuel : Nat}

/-- The clients as the links have them from `clientList` on. -/
def roster (server : Server) : List ClientId :=
  (server.walk.getD []).filterMap server.clientAt

theorem Chained.roster (chained : server.Chained ring) :
    server.roster = ring.filterMap server.clientAt := by
  unfold Server.roster walk
  rw [chained.head]
  cases ring with
  | nil => rfl
  | cons head rest =>
      obtain ⟨nodup, leads⟩ := isRing_cons.mp chained.isRing
      have short : rest.length < server.rounds := Nat.lt_of_succ_lt chained.length_lt_rounds
      rw [List.head?_cons, Option.bind_some,
        nodesFrom_eq leads (List.nodup_cons.mp nodup).1 short, Option.getD_some]

/-- The ring goes up from node to node, and so do the clients of the nodes. -/
structure InOrder (server : Server) (ring : List CollectionId) : Prop where
  sound : server.Sound ring
  nodes : ring.Pairwise (· < ·)
  owners : ∀ i j client other, server.clientAt i = some client → server.clientAt j = some other →
    i < j → client < other

namespace InOrder

theorem mem_roster (inOrder : server.InOrder ring) :
    client ∈ server.roster ↔ ∃ socket, server.clients.get? client = some socket := by
  rw [inOrder.sound.chained.roster, List.mem_filterMap, inOrder.sound.sockets client]

theorem sorted (inOrder : server.InOrder ring) : server.roster.Pairwise (· < ·) := by
  rw [inOrder.sound.chained.roster]
  refine inOrder.nodes.filterMap server.clientAt fun i j up client owns other ownsOther => ?_
  exact inOrder.owners i j client other owns ownsOther up

/-- The clients that are there make up the roster. -/
theorem roster_eq {clients : List ClientId} (inOrder : server.InOrder ring)
    (sorted : clients.Pairwise (· < ·))
    (members : ∀ client, client ∈ clients ↔ ∃ socket, server.clients.get? client = some socket) :
    server.roster = clients :=
  inOrder.sorted.eq_of_mem_iff sorted fun client => inOrder.mem_roster.trans (members client).symm

theorem goesUp (inOrder : server.InOrder ring) (first : server.clientList = some head) :
    GoesUp server.next head := by
  refine inOrder.sound.isRing.goesUp inOrder.nodes (inOrder.sound.head.symm.trans first) ?_
  intro i j linked
  obtain ⟨collection, found, -⟩ := Option.bind_eq_some_iff.mp linked
  exact (inOrder.sound.live i).mpr ⟨collection, found⟩

theorem congr (inOrder : server.InOrder ring) (sound : after.Sound ring)
    (owners : ∀ node, after.clientAt node = server.clientAt node) : after.InOrder ring where
  sound := sound
  nodes := inOrder.nodes
  owners i j client other owns ownsOther up := by
    rw [owners] at owns ownsOther
    exact inOrder.owners i j client other owns ownsOther up

theorem of_same (inOrder : server.InOrder ring) (same : SameRing server after) :
    after.InOrder ring :=
  inOrder.congr (same.sound inOrder.sound) fun _ => same.clientAt

theorem roster_of_same (inOrder : server.InOrder ring) (same : SameRing server after) :
    after.roster = server.roster := by
  refine (inOrder.of_same same).roster_eq inOrder.sorted fun client => ?_
  rw [inOrder.mem_roster, same.socket]

theorem of_new (new : server.New) : server.InOrder [] := by
  obtain ⟨ring, sound⟩ := new.wellFormed
  have none : ∀ node, server.clientAt node = none := by
    intro node
    rw [clientAt, new.collections, Arena.get?_empty, Option.map_none]
  have empty : ring = [] := by
    rw [← List.head?_eq_none_iff, ← sound.head, new.clientList]
  subst empty
  refine ⟨sound, List.Pairwise.nil, fun i j client other owns => ?_⟩
  rw [none] at owns
  contradiction

end InOrder

/-! ## Adding -/

/-- A client comes in at the end. -/
theorem InOrder.added (inOrder : server.InOrder ring)
    (added : Added server after server.collections.fresh server.clients.fresh)
    (sound : after.Sound (ring ++ [server.collections.fresh])) :
    after.InOrder (ring ++ [server.collections.fresh]) ∧
      after.roster = server.roster ++ [server.clients.fresh] := by
  have older : ∀ i client, server.clientAt i = some client →
      i < server.collections.fresh ∧ client < server.clients.fresh := by
    intro i client owns
    obtain ⟨collection, found, -⟩ := Option.map_eq_some_iff.mp owns
    obtain ⟨socket, there⟩ := (inOrder.sound.sockets client).mpr
      ⟨i, inOrder.sound.mem_of_clientAt owns, owns⟩
    exact ⟨Arena.lt_fresh_of_get? found, Arena.lt_fresh_of_get? there⟩
  have longer : after.InOrder (ring ++ [server.collections.fresh]) := by
    refine ⟨sound, List.pairwise_append.mpr ⟨inOrder.nodes, List.pairwise_singleton _ _, ?_⟩, ?_⟩
    · intro i member j last
      rw [List.mem_singleton.mp last]
      obtain ⟨collection, found⟩ := inOrder.sound.get?_of_mem member
      exact Arena.lt_fresh_of_get? found
    · intro i j client other owns ownsOther up
      by_cases lastJ : j = server.collections.fresh
      · rw [lastJ, added.here] at ownsOther
        cases ownsOther
        have apart : i ≠ server.collections.fresh := Nat.ne_of_lt (lastJ ▸ up)
        rw [added.kept i apart] at owns
        exact (older i client owns).2
      · rw [added.kept j lastJ] at ownsOther
        have apart : i ≠ server.collections.fresh :=
          Nat.ne_of_lt (up.trans (older j other ownsOther).1)
        rw [added.kept i apart] at owns
        exact inOrder.owners i j client other owns ownsOther up
  refine ⟨longer, longer.roster_eq ?_ fun client => ?_⟩
  · refine List.pairwise_append.mpr ⟨inOrder.sorted, List.pairwise_singleton _ _, ?_⟩
    intro client member last isLast
    rw [List.mem_singleton.mp isLast]
    obtain ⟨socket, there⟩ := inOrder.mem_roster.mp member
    exact Arena.lt_fresh_of_get? there
  · rw [List.mem_append, List.mem_singleton, inOrder.mem_roster]
    by_cases isNew : client = server.clients.fresh
    · rw [isNew]
      exact iff_of_true (.inr rfl) added.made
    · rw [added.clients client isNew]
      exact or_iff_left isNew

/-- The roster in some order of the ring. -/
def Lists (server : Server) (clients : List ClientId) : Prop :=
  ∃ ring, server.InOrder ring ∧ server.roster = clients

theorem InOrder.lists (inOrder : server.InOrder ring) : server.Lists server.roster :=
  ⟨ring, inOrder, rfl⟩

theorem Lists.of_same {clients : List ClientId} (lists : server.Lists clients)
    (same : SameRing server after) : after.Lists clients := by
  obtain ⟨ring, inOrder, rfl⟩ := lists
  exact ⟨ring, inOrder.of_same same, inOrder.roster_of_same same⟩

theorem addClient_lists {connFd : Int} {added : Bool × Server} (inOrder : server.InOrder ring)
    (adds : server.addClient connFd outcomes = some added) :
    added.2.Lists
      (if added.1 then server.roster ++ [server.clients.fresh] else server.roster) := by
  obtain ⟨answer, later, ran, result⟩ := addClient_adds inOrder.sound connFd outcomes
  cases adds.symm.trans ran
  cases answer with
  | false => exact inOrder.lists.of_same result.same
  | true =>
      obtain ⟨longer, roster⟩ := inOrder.added result.1 result.2
      exact ⟨_, longer, roster⟩

/-- A client may come, in the end. -/
def MayCome (server after : Server) : Prop :=
  after.Lists server.roster ∨ after.Lists (server.roster ++ [server.clients.fresh])

/-- The server behind `accept`, which fills in the peer. -/
def accepted (server : Server) (outcomes : Outcomes) : Server :=
  if 0 ≤ outcomes.connFd then
    { server.lock with addr := outcomes.peer }.emit [.acquire (.descriptor outcomes.connFd)]
  else server.lock

theorem accepted_clients : (server.accepted outcomes).clients = server.clients := by
  unfold accepted
  split <;> rfl

theorem accepted_same : SameRing server (server.accepted outcomes) := by
  unfold accepted
  split
  · exact ⟨rfl, rfl, fun _ => rfl, fun _ => rfl⟩
  · exact .lock

/-- Accepting adds a client, unless there is no descriptor for it. -/
theorem acceptNewClient_cases {added : Bool × Server}
    (accepts : server.acceptNewClient outcomes = some added) :
    added = (false, (server.accepted outcomes).unlock) ∨
      ∃ result, (server.accepted outcomes).addClient outcomes.connFd outcomes = some result ∧
        added = (true, result.2.unlock) := by
  have same : server.acceptNewClient outcomes =
      if outcomes.connFd ≤ 0 then some (false, (server.accepted outcomes).unlock)
      else ((server.accepted outcomes).addClient outcomes.connFd outcomes).map
        fun added => (true, added.2.unlock) := rfl
  rw [same] at accepts
  split at accepts
  · cases accepts
    exact .inl rfl
  · obtain ⟨result, adds, isAdded⟩ := Option.map_eq_some_iff.mp accepts
    exact .inr ⟨result, adds, isAdded.symm⟩

theorem acceptNewClient_mayCome {added : Bool × Server} (inOrder : server.InOrder ring)
    (accepts : server.acceptNewClient outcomes = some added) : server.MayCome added.2 := by
  rcases acceptNewClient_cases accepts with none | ⟨result, adds, isAdded⟩
  · rw [none]
    exact .inl (inOrder.lists.of_same (accepted_same.trans .unlock))
  · have lists := addClient_lists (inOrder.of_same accepted_same) adds
    rw [inOrder.roster_of_same accepted_same, accepted_clients] at lists
    rw [isAdded]
    cases answer : result.1 with
    | false =>
        rw [answer] at lists
        exact .inl (lists.of_same .unlock)
    | true =>
        rw [answer] at lists
        exact .inr (lists.of_same .unlock)

/-! ## Removing -/

theorem deleteCollection_links (deletes : server.deleteCollection node outcomes = some after) :
    after.clientList = server.clientList ∧
      ∀ i j, after.next i = some j → server.next i = some j := by
  obtain ⟨collection, -, deletes⟩ := Option.bind_eq_some_iff.mp deletes
  obtain ⟨closed, closes, result⟩ := Option.bind_eq_some_iff.mp deletes
  obtain ⟨object, -, isClosed⟩ := Option.map_eq_some_iff.mp closes
  cases result
  cases isClosed
  refine ⟨rfl, fun i j linked => ?_⟩
  have left : ((server.collections.destroy node).get? i).bind ClientCollection.next = some j :=
    linked
  by_cases same : i = node
  · rw [same, Arena.get?_destroy_self] at left
    contradiction
  · rw [Arena.get?_destroy_of_ne same] at left
    exact left

theorem removeLoop_goesUp {removed : Bool × Server}
    (removes : server.removeLoop head client outcomes fuel prev = some removed)
    (goesUp : GoesUp server.next head) (inner : server.clientAt head ≠ some client) :
    GoesUp removed.2.next head ∧ removed.2.clientList = server.clientList := by
  induction fuel generalizing prev with
  | zero => contradiction
  | succ fuel ih =>
      obtain ⟨tmp, linked, removes⟩ := Option.bind_eq_some_iff.mp removes
      obtain ⟨collection, found, removes⟩ := Option.bind_eq_some_iff.mp removes
      split at removes
      · rename_i owner
        obtain ⟨before, foundBefore, removes⟩ := Option.bind_eq_some_iff.mp removes
        obtain ⟨deleted, deletes, result⟩ := Option.bind_eq_some_iff.mp removes
        cases result
        obtain ⟨list, links⟩ := deleteCollection_links deletes
        have other : tmp ≠ head := by
          intro same
          rw [← same, Sound.clientAt_of_get? found, owner] at inner
          exact inner rfl
        refine ⟨goesUp.bridge linked other fun i j after => ?_, list⟩
        have bridged := links i j after
        by_cases same : i = prev
        · subst same
          have set : (server.collections.set i { before with next := collection.next }).get? i =
              some { before with next := collection.next } := Arena.get?_set_self foundBefore
          rw [next, set, Option.bind_some] at bridged
          exact .inr ⟨rfl, (Sound.next_of_get? found).trans bridged⟩
        · left
          rw [next, Arena.get?_set_of_ne same] at bridged
          exact bridged
      · split at removes
        · cases removes
          exact ⟨goesUp, rfl⟩
        · exact ih removes

theorem removeClient_goesUp {removed : Bool × Server}
    (removes : server.removeClient (some client) outcomes = some removed)
    (first : server.clientList = some head) (goesUp : GoesUp server.next head)
    (inner : ¬ server.DropsHead client) :
    GoesUp removed.2.next head ∧ ∀ other, removed.2.clientList = some other → other = head := by
  unfold removeClient at removes
  rw [first] at removes
  obtain ⟨collection, found, removes⟩ := Option.bind_eq_some_iff.mp removes
  have owned := Sound.clientAt_of_get? found
  split at removes
  · obtain ⟨deleted, deletes, result⟩ := Option.bind_eq_some_iff.mp removes
    cases result
    obtain ⟨-, links⟩ := deleteCollection_links deletes
    exact ⟨goesUp.of_subset links, fun other wrong => by contradiction⟩
  · rename_i longer
    split at removes
    · rename_i owner
      have drops : server.DropsHead client := by
        refine ⟨head, first, owned.trans (congrArg some owner), ?_⟩
        rw [Sound.next_of_get? found]
        exact fun itself => longer ⟨owner, itself⟩
      exact absurd drops inner
    · rename_i other
      have notHead : server.clientAt head ≠ some client := by
        rw [owned]
        exact fun same => other (Option.some.inj same)
      obtain ⟨up, list⟩ := removeLoop_goesUp removes goesUp notHead
      exact ⟨up, fun next isNext => Option.some.inj (isNext.symm.trans (list.trans first))⟩

/-- The roster but for one client, if any. -/
def rosterWithout (server : Server) (client : Option ClientId) : List ClientId :=
  client.elim server.roster server.roster.erase

theorem InOrder.removed (inOrder : server.InOrder ring) (removed : Removed server after node client)
    (sound : after.Sound left) (goesUp : ∀ head, after.clientList = some head → GoesUp after.next head) :
    after.Lists (server.roster.erase client) := by
  have shorter : after.InOrder left := by
    refine ⟨sound, ?_, ?_⟩
    · exact sound.isRing.pairwise fun head first => goesUp head (sound.head.trans first)
    · have before : ∀ i client, after.clientAt i = some client →
          server.clientAt i = some client := by
        intro i client owns
        have apart : i ≠ node := by
          intro same
          rw [same, clientAt, removed.gone] at owns
          contradiction
        rwa [removed.kept i apart] at owns
      intro i j client other owns ownsOther up
      exact inOrder.owners i j client other (before i client owns) (before j other ownsOther) up
  refine ⟨left, shorter, shorter.roster_eq (inOrder.sorted.sublist List.erase_sublist) ?_⟩
  intro other
  have nodup : server.roster.Nodup := inOrder.sorted.nodup
  rw [nodup.mem_erase_iff, inOrder.mem_roster]
  by_cases same : other = client
  · rw [same, removed.closed]
    simp
  · rw [removed.clients other same]
    exact and_iff_right same

/-- A client goes from its place. -/
theorem removeClient_lists {socket : Option ClientId} {removed : Bool × Server}
    (inOrder : server.InOrder ring)
    (spares : ∀ client, socket = some client → ¬ server.DropsHead client)
    (removes : server.removeClient socket outcomes = some removed) :
    removed.2.Lists (server.rosterWithout socket) := by
  by_cases owned : ∃ client node, socket = some client ∧ server.clientAt node = some client
  · obtain ⟨client, node, rfl, owns⟩ := owned
    obtain ⟨after, ran, gone, left, sound⟩ :=
      @removes_of_not_head server ring client outcomes inOrder.sound (spares client rfl) node owns
    cases removes.symm.trans ran
    refine inOrder.removed gone sound fun head first => ?_
    obtain ⟨start, isStart⟩ : ∃ start, server.clientList = some start := by
      have member := inOrder.sound.mem_of_clientAt owns
      rw [inOrder.sound.head]
      cases ring with
      | nil => contradiction
      | cons start rest => exact ⟨start, rfl⟩
    obtain ⟨up, same⟩ :=
      removeClient_goesUp removes isStart (inOrder.goesUp isStart) (spares client rfl)
    rw [same head first]
    exact up
  · obtain ⟨answer, ran⟩ := @removeClient_absent server ring socket outcomes inOrder.sound
      fun client isClient node owns => owned ⟨client, node, isClient, owns⟩
    cases removes.symm.trans ran
    cases socket with
    | none => exact inOrder.lists
    | some client =>
        have absent : client ∉ server.roster := by
          intro member
          obtain ⟨node, -, owns⟩ :=
            (inOrder.sound.sockets client).mp (inOrder.mem_roster.mp member)
          exact owned ⟨client, node, rfl, owns⟩
        have same : server.roster.erase client = server.roster := List.erase_of_not_mem absent
        show server.Lists (server.roster.erase client)
        rw [same]
        exact inOrder.lists

/-! ## Checking for events -/

theorem InOrder.lists_of_sound (inOrder : server.InOrder ring) (sound : after.Sound ring)
    (owners : ∀ node, after.clientAt node = server.clientAt node) :
    after.Lists server.roster := by
  refine ⟨ring, inOrder.congr sound owners, ?_⟩
  rw [sound.chained.roster, inOrder.sound.chained.roster, funext owners]

theorem clientEvent_lists {event : ServerEvent × Server} (inOrder : server.InOrder ring)
    (spares : ∀ client, Scanning.dropped server outcomes (.clientEvent node) = some client →
      ¬ server.DropsHead client)
    (checks : server.clientEvent node outcomes = some event) :
    event.2.Lists (server.rosterWithout (Scanning.dropped server outcomes (.clientEvent node))) := by
  obtain ⟨collection, found, branches⟩ := clientEvent_cases checks
  have owned := Sound.clientAt_of_get? found
  have owners := @polled_clientAt server node outcomes collection found
  have sound := @Sound.polled server ring node outcomes collection inOrder.sound found
  have polled := inOrder.lists_of_sound sound owners
  rcases branches with ⟨empty, removed, removes, result⟩ |
    ⟨bytes, -, ⟨-, same⟩ | ⟨function, -, ⟨-, same⟩ | ⟨-, same⟩⟩⟩
  · have drops : Scanning.dropped server outcomes (.clientEvent node) = some collection.client := by
      rw [Scanning.dropped, if_pos empty, owned]
    rw [drops] at spares ⊢
    obtain ⟨again, inOrderLocked, roster⟩ := polled.of_same .lock
    have lists := removeClient_lists inOrderLocked
      (fun client isClient => by
        cases isClient
        exact fun there => spares _ rfl ((polled_dropsHead found).mp there)) removes
    rw [rosterWithout, roster] at lists
    rw [result]
    exact lists.of_same .unlock
  all_goals
    have keeps : Scanning.dropped server outcomes (.clientEvent node) = none := by
      rw [Scanning.dropped, if_neg (by simp [bytes])]
    rw [keeps, same]
  · exact polled
  · exact polled.of_same (.of_log _)
  · exact polled.of_same (startThread_same (polled_get? found) outcomes)

theorem dropIdle_lists {tmp : Option CollectionId} {event : ServerEvent × Server}
    (inOrder : server.InOrder ring)
    (spares : ∀ client, server.clientAt node = some client → ¬ server.DropsHead client)
    (drops : server.dropIdle node tmp outcomes = some event) :
    event.2.Lists (server.rosterWithout (server.clientAt node)) := by
  obtain ⟨collection, found, drops⟩ := Option.bind_eq_some_iff.mp drops
  obtain ⟨removed, removes, drops⟩ := Option.bind_eq_some_iff.mp drops
  have owned := Sound.clientAt_of_get? found
  have lists := removeClient_lists inOrder
    (fun client isClient => by
      cases isClient
      exact spares _ owned) removes
  rw [owned]
  cases tmp with
  | none =>
      cases drops
      exact lists.of_same .unlock
  | some tmp =>
      obtain ⟨behind, foundBehind, result⟩ := Option.bind_eq_some_iff.mp drops
      cases result
      obtain ⟨left, inOrderLeft, roster⟩ := lists
      have active := inOrderLeft.sound.activate ((inOrderLeft.sound.live tmp).mpr ⟨_, foundBehind⟩)
        (Sound.clientAt_of_get? foundBehind)
      have chosen := (inOrderLeft.lists_of_sound active fun _ => rfl).of_same .unlock
      rw [roster] at chosen
      exact chosen

theorem connectRequest_mayCome {event : ServerEvent × Server} (inOrder : server.InOrder ring)
    (unhandled : server.conReqCallbackFunction = none)
    (requests : server.connectRequest outcomes = some event) : server.MayCome event.2 := by
  unfold connectRequest at requests
  rw [unhandled] at requests
  obtain ⟨added, accepts, result⟩ := Option.map_eq_some_iff.mp requests
  cases result
  have comes := acceptNewClient_mayCome (inOrder.of_same .unlock) accepts
  unfold MayCome at comes
  rw [inOrder.roster_of_same .unlock] at comes
  exact comes

theorem undropped {outcomes : Outcomes} (unscanned : server.sockFd ≤ 0 ∨ outcomes.ret < 0 ∨
    server.sockFd ∈ outcomes.readfds) : server.dropped outcomes = none := if_pos unscanned

/-- The ways that a check for events can go. -/
inductive Checked (server : Server) (outcomes : Outcomes) (event : ServerEvent × Server) :
    Prop where
  | shut (closed : server.sockFd ≤ 0) (result : event = (.none, server.lock.unlock))
  | failed {waited : Server} (seen : Reaped outcomes server waited) (ret : outcomes.ret < 0)
      (result : event = (.none, waited.unlock))
  | requested {waited : Server} (seen : Reaped outcomes server waited)
      (opened : 0 < server.sockFd) (ret : 0 ≤ outcomes.ret)
      (readable : server.sockFd ∈ outcomes.readfds)
      (requests : waited.connectRequest outcomes = some event)
  | heard {scanned : Server} {node : CollectionId} (seen : Reaped outcomes server scanned)
      (found : scanned.Found outcomes (.clientEvent node))
      (drops : server.dropped outcomes = Scanning.dropped server outcomes (.clientEvent node))
      (checks : scanned.clientEvent node outcomes = some event)
  | idle {scanned : Server} {node : CollectionId} {tmp : Option CollectionId}
      (seen : Reaped outcomes server scanned) (drops : server.dropped outcomes = server.clientAt node)
      (removes : scanned.dropIdle node tmp outcomes = some event)
  | nothing {scanned : Server} (seen : Reaped outcomes server scanned)
      (drops : server.dropped outcomes = none) (result : event = (.none, scanned.unlock))

theorem eventCheck_checked {event : ServerEvent × Server}
    (checks : server.eventCheck outcomes = some event) : server.Checked outcomes event := by
  unfold eventCheck at checks
  dsimp only at checks
  split at checks
  · rename_i closed
    cases checks
    exact .shut closed rfl
  · rename_i opened
    obtain ⟨filled, fills, checks⟩ := Option.bind_eq_some_iff.mp checks
    have object : filled.toTCPServer = server.toTCPServer := (fillSet_toTCPServer fills :)
    have collections : filled.collections = server.collections := (fillSet_collections fills :)
    have clients : filled.clients = server.clients := (fillSet_clients fills :)
    have sockFd : filled.sockFd = server.sockFd :=
      congrArg (fun object : TCPServer => object.sockFd) object
    have seen : Reaped outcomes server filled :=
      ⟨object, clients, fun node => .inl (by rw [collections])⟩
    split at checks
    · rename_i failed
      cases checks
      exact .failed seen failed rfl
    · rename_i selected
      split at checks
      · rename_i requested
        rw [sockFd] at requested
        exact .requested seen (Int.not_le.mp opened) (Int.not_lt.mp selected) requested checks
      · rename_i quiet
        obtain ⟨⟨scanned, scanning⟩, scans, checks⟩ := Option.bind_eq_some_iff.mp checks
        obtain ⟨reaped, found⟩ := scan_found scans
        have drops : server.dropped outcomes = Scanning.dropped server outcomes scanning := by
          rw [sockFd] at quiet
          exact dropped_of_scan (Int.not_le.mp opened) (Int.not_lt.mp selected) quiet fills scans
        cases scanning with
        | clientEvent node => exact .heard (seen.trans reaped) found drops checks
        | idle node tmp => exact .idle (seen.trans reaped) drops checks
        | nothing =>
            cases checks
            exact .nothing (seen.trans reaped) drops rfl

theorem heard_lists {scanned : Server} {event : ServerEvent × Server}
    (inOrder : server.InOrder ring) (seen : Reaped outcomes server scanned)
    (drops : server.dropped outcomes = Scanning.dropped server outcomes (.clientEvent node))
    (spares : ∀ client, server.dropped outcomes = some client → ¬ server.DropsHead client)
    (checks : scanned.clientEvent node outcomes = some event) :
    event.2.Lists (server.rosterWithout (server.dropped outcomes)) := by
  rw [drops] at spares ⊢
  have same : Scanning.dropped scanned outcomes (.clientEvent node) =
      Scanning.dropped server outcomes (.clientEvent node) := by
    rw [Scanning.dropped, Scanning.dropped, seen.same.clientAt]
  have lists := clientEvent_lists (inOrder.of_same seen.same)
    (fun client isDropped => by
      rw [same] at isDropped
      exact fun there => spares client isDropped (seen.same.dropsHead.mp there)) checks
  rw [same, rosterWithout, inOrder.roster_of_same seen.same] at lists
  exact lists

theorem idle_lists {scanned : Server} {tmp : Option CollectionId} {event : ServerEvent × Server}
    (inOrder : server.InOrder ring) (seen : Reaped outcomes server scanned)
    (drops : server.dropped outcomes = server.clientAt node)
    (spares : ∀ client, server.dropped outcomes = some client → ¬ server.DropsHead client)
    (removes : scanned.dropIdle node tmp outcomes = some event) :
    event.2.Lists (server.rosterWithout (server.dropped outcomes)) := by
  rw [drops] at spares ⊢
  have lists := dropIdle_lists (inOrder.of_same seen.same)
    (fun client owns => by
      rw [seen.same.clientAt] at owns
      exact fun there => spares client owns (seen.same.dropsHead.mp there)) removes
  rw [seen.same.clientAt, rosterWithout, inOrder.roster_of_same seen.same] at lists
  exact lists

/-- A check lets one client come or go. -/
theorem eventCheck_lists {event : ServerEvent × Server} (inOrder : server.InOrder ring)
    (spares : ∀ client, server.dropped outcomes = some client → ¬ server.DropsHead client)
    (checks : server.eventCheck outcomes = some event) :
    event.2.Lists (server.rosterWithout (server.dropped outcomes)) ∨
      server.Accepts outcomes ∧ server.MayCome event.2 := by
  cases eventCheck_checked checks with
  | shut closed result =>
      rw [undropped (.inl closed), result]
      exact .inl ((inOrder.lists.of_same .lock).of_same .unlock)
  | failed seen ret result =>
      rw [undropped (.inr (.inl ret)), result]
      exact .inl ((inOrder.lists.of_same seen.same).of_same .unlock)
  | @requested waited seen opened ret readable requests =>
      rw [undropped (.inr (.inr readable))]
      cases handler : server.conReqCallbackFunction with
      | some function =>
          left
          have handled : waited.conReqCallbackFunction = some function :=
            (congrArg TCPServer.conReqCallbackFunction seen.server).trans handler
          unfold connectRequest at requests
          rw [handled] at requests
          cases requests
          exact ((inOrder.lists.of_same seen.same).of_same .unlock).of_same (.of_log _)
      | none =>
          right
          have unhandled : waited.conReqCallbackFunction = none :=
            (congrArg TCPServer.conReqCallbackFunction seen.server).trans handler
          refine ⟨⟨opened, ret, readable, handler⟩, ?_⟩
          have comes := connectRequest_mayCome (inOrder.of_same seen.same) unhandled requests
          unfold MayCome at comes
          rw [inOrder.roster_of_same seen.same, seen.clients] at comes
          exact comes
  | heard seen found drops checks => exact .inl (heard_lists inOrder seen drops spares checks)
  | idle seen drops removes => exact .inl (idle_lists inOrder seen drops spares removes)
  | nothing seen drops result =>
      rw [drops, result]
      exact .inl ((inOrder.lists.of_same seen.same).of_same .unlock)

end Server

/-! ## Runs -/

namespace ServerStep

variable {server later : Server} {ring : List CollectionId}

/-- What becomes of the clients in their order. -/
def Turns (server : Server) (clients : List ClientId) : ServerStep → Prop
  | .addClient connFd outcomes =>
      clients = if (server.addClient connFd outcomes).map Prod.fst = some true then
        server.roster ++ [server.clients.fresh] else server.roster
  | .removeClient socket _ => clients = server.rosterWithout socket
  | .eventCheck outcomes =>
      clients = server.rosterWithout (server.dropped outcomes) ∨
        server.Accepts outcomes ∧
          (clients = server.roster ∨ clients = server.roster ++ [server.clients.fresh])

theorem turns {step : ServerStep} (inOrder : server.InOrder ring) (spares : step.SparesHead server)
    (ran : step.run server = some later) :
    step.Turns server later.roster ∧ ∃ ring, later.InOrder ring := by
  cases step with
  | addClient connFd outcomes =>
      obtain ⟨added, adds, isLater⟩ := Option.map_eq_some_iff.mp ran
      cases isLater
      obtain ⟨ring, inOrderLater, roster⟩ := Server.addClient_lists inOrder adds
      refine ⟨?_, ring, inOrderLater⟩
      simp only [Turns, adds, Option.map_some, Option.some.injEq, roster]
  | removeClient socket outcomes =>
      obtain ⟨removed, removes, isLater⟩ := Option.map_eq_some_iff.mp ran
      cases isLater
      obtain ⟨ring, inOrderLater, roster⟩ := Server.removeClient_lists inOrder spares removes
      exact ⟨roster, ring, inOrderLater⟩
  | eventCheck outcomes =>
      obtain ⟨event, checks, isLater⟩ := Option.map_eq_some_iff.mp ran
      cases isLater
      rcases Server.eventCheck_lists inOrder spares checks with ⟨ring, inOrderLater, roster⟩ |
        ⟨accepts, ⟨ring, inOrderLater, roster⟩ | ⟨ring, inOrderLater, roster⟩⟩
      · exact ⟨.inl roster, ring, inOrderLater⟩
      · exact ⟨.inr ⟨accepts, .inl roster⟩, ring, inOrderLater⟩
      · exact ⟨.inr ⟨accepts, .inr roster⟩, ring, inOrderLater⟩

end ServerStep

namespace Server

variable {server later : Server}

theorem Reaches.inOrder (reaches : server.Reaches later) (inOrder : ∃ ring, server.InOrder ring) :
    ∃ ring, later.InOrder ring := by
  induction reaches with
  | refl => exact inOrder
  | tail _ goes ih =>
      obtain ⟨step, spares, ran⟩ := goes
      obtain ⟨ring, inOrder⟩ := ih
      exact (ServerStep.turns inOrder spares ran).2

/-- In every state reached by steps that spare the head of a longer ring, the links pass
through the clients that are there in the order in which they were accepted, and each
such step treats them as a queue: who comes is put at the end, who goes leaves the others
in their order. -/
theorem ring_queues (new : server.New) (reaches : server.Reaches later) :
    later.roster.Pairwise (· < ·) ∧
      (∀ client, client ∈ later.roster ↔ ∃ socket, later.clients.get? client = some socket) ∧
      ∀ (step : ServerStep) (after : Server), step.SparesHead later →
        step.run later = some after → step.Turns later after.roster := by
  obtain ⟨ring, inOrder⟩ := reaches.inOrder ⟨[], .of_new new⟩
  exact ⟨inOrder.sorted, fun client => inOrder.mem_roster,
    fun step after spares ran => (ServerStep.turns inOrder spares ran).1⟩

/-- Three clients, of whom the second goes. -/
theorem ring_queues_left :
    ∃ later, listening.serve [.addClient 5 quiet, .addClient 6 quiet, .addClient 7 quiet,
        .removeClient (some 1) quiet] = some later ∧ later.roster = [0, 2] ∧
      later.roster.Pairwise (· < ·) ∧
      (∀ client, client ∈ later.roster ↔ ∃ socket, later.clients.get? client = some socket) ∧
      ∀ (step : ServerStep) (after : Server), step.SparesHead later →
        step.run later = some after → step.Turns later after.roster := by
  have result : (listening.serve [.addClient 5 quiet, .addClient 6 quiet,
      .addClient 7 quiet]).map (fun three => (decide (three.DropsHead 1),
        (ServerStep.run three (.removeClient (some 1) quiet)).map Server.roster)) =
      some (false, some [0, 2]) := by
    decide +kernel
  obtain ⟨three, served, values⟩ := Option.map_eq_some_iff.mp result
  obtain ⟨inner, values⟩ := Prod.mk.inj values
  obtain ⟨later, last, roster⟩ := Option.map_eq_some_iff.mp values
  obtain ⟨one, first, more⟩ := Option.bind_eq_some_iff.mp served
  obtain ⟨two, second, more⟩ := Option.bind_eq_some_iff.mp more
  obtain ⟨other, third, same⟩ := Option.bind_eq_some_iff.mp more
  cases same
  have spares : (ServerStep.removeClient (some 1) quiet).SparesHead three := by
    intro client isClient
    cases isClient
    exact of_decide_eq_false inner
  have reaches : listening.Reaches later :=
    .tail (.tail (.tail (.single ⟨.addClient 5 quiet, trivial, first⟩)
      ⟨.addClient 6 quiet, trivial, second⟩) ⟨.addClient 7 quiet, trivial, third⟩)
      ⟨.removeClient (some 1) quiet, spares, last⟩
  refine ⟨later, ?_, roster, ring_queues listening_new reaches⟩
  simp only [serve, first, second, third, last, Option.bind_some]

end Server

end SynapTCP
