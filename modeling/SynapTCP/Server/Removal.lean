import SynapTCP.Server.Rings

namespace SynapTCP

open Data

/-! # Removing a client from the ring -/

namespace Server

variable {server after : Server} {ring rest front back : List CollectionId}
  {node prev head : CollectionId} {client socket : ClientId} {collection : ClientCollection}
  {outcomes : Outcomes}

/-- The node and the client are gone, with them nothing else. -/
structure Removed (before after : Server) (node : CollectionId) (socket : ClientId) : Prop where
  gone : after.collections.get? node = none
  kept : ∀ other, other ≠ node → after.clientAt other = before.clientAt other
  closed : after.clients.get? socket = none
  clients : ∀ client, client ≠ socket →
    after.clients.get? client = before.clients.get? client
  active : after.client = if before.client = some socket then none else before.client

theorem live_iff_clientAt :
    (∃ collection, server.collections.get? node = some collection) ↔
      ∃ client, server.clientAt node = some client := by
  unfold clientAt
  cases server.collections.get? node <;> simp

theorem Sound.removed {left : List CollectionId} (sound : server.Sound ring)
    (member : node ∈ ring) (owned : server.clientAt node = some socket)
    (removed : Removed server after node socket) (isRing : IsRing after.next left)
    (headAfter : after.clientList = left.head?)
    (others : ∀ i, i ∈ left ↔ i ∈ ring ∧ i ≠ node) : after.Sound left where
  isRing := isRing
  head := headAfter
  live other := by
    rw [others, sound.live]
    by_cases same : other = node
    · rw [same, removed.gone]
      simp
    · rw [live_iff_clientAt, live_iff_clientAt, removed.kept other same]
      exact and_iff_left same
  distinct i memberI j memberJ equal := by
    obtain ⟨inRing, apart⟩ := (others i).mp memberI
    obtain ⟨inRingJ, apartJ⟩ := (others j).mp memberJ
    rw [removed.kept i apart, removed.kept j apartJ] at equal
    exact sound.distinct i inRing j inRingJ equal
  sockets client := by
    by_cases same : client = socket
    · rw [same, removed.closed]
      constructor
      · intro live
        obtain ⟨_, live⟩ := live
        contradiction
      · intro owner
        obtain ⟨i, memberI, owns⟩ := owner
        obtain ⟨inRing, apart⟩ := (others i).mp memberI
        rw [removed.kept i apart] at owns
        exact absurd (sound.distinct i inRing node member (owns.trans owned.symm)) apart
    · rw [removed.clients client same, sound.sockets client]
      constructor
      · intro owner
        obtain ⟨i, inRing, owns⟩ := owner
        have apart : i ≠ node := by
          intro equal
          rw [equal, owned] at owns
          exact same (Option.some.inj owns).symm
        exact ⟨i, (others i).mpr ⟨inRing, apart⟩, by rw [removed.kept i apart, owns]⟩
      · intro owner
        obtain ⟨i, memberI, owns⟩ := owner
        obtain ⟨inRing, apart⟩ := (others i).mp memberI
        exact ⟨i, inRing, by rw [← removed.kept i apart, owns]⟩
  active client isActive := by
    rw [removed.active] at isActive
    split at isActive
    · contradiction
    · rename_i notSocket
      obtain ⟨i, inRing, owns⟩ := sound.active client isActive
      have apart : i ≠ node := by
        intro equal
        rw [equal, owned] at owns
        exact notSocket (isActive.trans owns.symm)
      exact ⟨i, (others i).mpr ⟨inRing, apart⟩, by rw [removed.kept i apart, owns]⟩

theorem deleteCollection_eq (found : server.collections.get? node = some collection)
    {object : Socket} (there : server.clients.get? collection.client = some object) :
    ∃ after, server.deleteCollection node outcomes = some after ∧
      after.clientList = server.clientList ∧ after.client = server.client ∧
      after.collections = server.collections.destroy node ∧
      after.clients = server.clients.destroy collection.client := by
  simp only [deleteCollection, found, deleteClient, there, Option.map_some, bind,
    Option.bind_some]
  exact ⟨_, rfl, rfl, rfl, rfl, rfl⟩

theorem removed_of_delete {middle deleted : Server}
    (same : ∀ other, other ≠ node → middle.clientAt other = server.clientAt other)
    (clients : middle.clients = server.clients) (active : middle.client = server.client)
    (activeAfter : deleted.client = middle.client)
    (collectionsAfter : deleted.collections = middle.collections.destroy node)
    (clientsAfter : deleted.clients = middle.clients.destroy collection.client) :
    Removed server (deleted.forget collection.client) node collection.client where
  gone := by
    show deleted.collections.get? node = none
    rw [collectionsAfter, Arena.get?_destroy_self]
  kept other apart := by
    rw [← same other apart]
    show (deleted.collections.get? other).map _ = _
    rw [collectionsAfter, Arena.get?_destroy_of_ne apart]
    rfl
  closed := by
    show deleted.clients.get? _ = none
    rw [clientsAfter, Arena.get?_destroy_self]
  clients client apart := by
    show deleted.clients.get? client = _
    rw [clientsAfter, Arena.get?_destroy_of_ne apart, clients]
  active := by
    show (if deleted.client = some collection.client then none else deleted.client) = _
    rw [activeAfter, active]

theorem removeClient_single (sound : server.Sound [head])
    (found : server.collections.get? head = some collection) :
    ∃ after, server.removeClient (some collection.client) outcomes = some (true, after) ∧
      Removed server after head collection.client ∧ after.Sound [] := by
  obtain ⟨object, there⟩ := sound.socket_of_get? found
  obtain ⟨deleted, deletes, -, active, collections, clients⟩ :=
    @deleteCollection_eq server head collection outcomes found object there
  have linked : collection.next = some head := by
    rw [← Sound.next_of_get? found]
    exact @IsRing.next_last _ server.next head head [] sound.isRing rfl
  have removed : Removed server ({ deleted with clientList := none }.forget collection.client)
      head collection.client :=
    @removed_of_delete server head collection server { deleted with clientList := none }
      (fun _ _ => rfl) rfl rfl active collections clients
  refine ⟨_, ?_, removed, ?_⟩
  · unfold removeClient
    rw [sound.head]
    simp only [List.head?_cons, found, linked, bind, Option.bind_some, and_self, if_true, deletes]
  · exact sound.removed (.head _) (Sound.clientAt_of_get? found) removed IsRing.nil rfl
      (@mem_without _ head [] [] sound.isRing.nodup)

theorem remove_inner (sound : server.Sound (front ++ prev :: node :: back))
    (found : server.collections.get? node = some collection) {before : ClientCollection}
    (foundPrev : server.collections.get? prev = some before) :
    ∃ deleted, { server with
        collections := server.collections.set prev { before with next := collection.next }
      }.deleteCollection node outcomes = some deleted ∧
      Removed server (deleted.forget collection.client) node collection.client ∧
      (deleted.forget collection.client).Sound (front ++ prev :: back) := by
  have nodup := sound.isRing.nodup
  have apart : node ≠ prev := by
    have behind := (List.nodup_append.mp nodup).2.1
    intro same
    exact (List.nodup_cons.mp behind).1 (same ▸ .head _)
  obtain ⟨object, there⟩ := sound.socket_of_get? found
  have foundLinked : (server.collections.set prev
      { before with next := collection.next }).get? node = some collection := by
    rw [Arena.get?_set_of_ne apart, found]
  obtain ⟨deleted, deletes, list, active, collections, clients⟩ :=
    @deleteCollection_eq { server with
      collections := server.collections.set prev { before with next := collection.next } }
      node collection outcomes foundLinked object there
  have sameClient : ∀ other, other ≠ node → ({ server with
      collections := server.collections.set prev { before with next := collection.next } } :
        Server).clientAt other = server.clientAt other := by
    intro other _
    show ((server.collections.set prev _).get? other).map _ = _
    by_cases same : other = prev
    · rw [same, Arena.get?_set_self foundPrev, Sound.clientAt_of_get? foundPrev]
      rfl
    · rw [Arena.get?_set_of_ne same]
      rfl
  have removed := @removed_of_delete server node collection _ deleted sameClient rfl rfl active
    collections clients
  have nextAfter : ∀ i, i ≠ node → (deleted.forget collection.client).next i =
      if i = prev then collection.next else server.next i := by
    intro i other
    show (deleted.collections.get? i).bind ClientCollection.next = _
    rw [collections, Arena.get?_destroy_of_ne other]
    by_cases same : i = prev
    · rw [same, if_pos rfl, Arena.get?_set_self foundPrev]
      rfl
    · rw [if_neg same, Arena.get?_set_of_ne same]
      rfl
  have others : ∀ i, i ∈ front ++ prev :: back ↔
      i ∈ front ++ prev :: node :: back ∧ i ≠ node := by
    have split : front ++ prev :: node :: back = (front ++ [prev]) ++ node :: back := by simp
    rw [split] at nodup ⊢
    have joined : front ++ prev :: back = (front ++ [prev]) ++ back := by simp
    rw [joined]
    exact mem_without nodup
  refine ⟨deleted, deletes, removed, ?_⟩
  refine sound.removed (by simp) (Sound.clientAt_of_get? found) removed ?_ ?_ others
  · refine sound.isRing.bridge ?_ ?_
    · rw [nextAfter prev apart.symm, if_pos rfl, Sound.next_of_get? found]
    · intro i member notPrev
      rw [nextAfter i ((others i).mp member).2, if_neg notPrev]
  · show deleted.clientList = _
    rw [list]
    have first := sound.head
    cases front with
    | nil => exact first
    | cons i front => exact first

/-- The loop finds the client of a node behind `prev`. -/
theorem removeLoop_removes {fuel : Nat} (sound : server.Sound (front ++ prev :: back))
    (first : server.clientList = some head) (member : node ∈ back)
    (found : server.collections.get? node = some collection) (enough : back.length < fuel) :
    ∃ after left, server.removeLoop head collection.client outcomes fuel prev =
        some (true, after) ∧
      Removed server after node collection.client ∧ after.Sound left := by
  induction back generalizing front prev fuel with
  | nil => contradiction
  | cons behind back ih =>
      cases fuel with
      | zero => contradiction
      | succ fuel =>
          have linked : server.next prev = some behind := sound.isRing.next_inner
          obtain ⟨before, foundPrev⟩ := @Sound.get?_of_mem server _ prev sound (by simp)
          obtain ⟨next, foundNext⟩ := @Sound.get?_of_mem server _ behind sound (by simp)
          by_cases here : next.client = collection.client
          · have same : behind = node := by
              apply sound.distinct behind (by simp) node
                (List.mem_append_right _ (.tail _ member))
              rw [Sound.clientAt_of_get? foundNext, Sound.clientAt_of_get? found, here]
            subst same
            rw [found] at foundNext
            cases foundNext
            obtain ⟨deleted, deletes, removed, soundAfter⟩ :=
              @remove_inner server front back behind prev collection outcomes sound found before
                foundPrev
            refine ⟨_, _, ?_, removed, soundAfter⟩
            simp only [removeLoop, linked, found, foundPrev, bind, Option.bind_some, if_true,
              deletes]
          · have memberBack : node ∈ back := by
              rcases List.mem_cons.mp member with same | later
              · subst same
                rw [found] at foundNext
                cases foundNext
                exact absurd rfl here
              · exact later
            have notHead : behind ≠ head := by
              intro same
              rw [sound.head] at first
              have nodup := sound.isRing.nodup
              cases front with
              | nil =>
                  rw [List.nil_append, List.head?_cons] at first
                  rw [List.nil_append, Option.some.inj first, same] at nodup
                  exact (List.nodup_cons.mp nodup).1 (.head _)
              | cons i front =>
                  rw [List.cons_append, List.head?_cons] at first
                  rw [List.cons_append, Option.some.inj first] at nodup
                  exact (List.nodup_cons.mp nodup).1 (by rw [same]; simp)
            have soundNext : server.Sound ((front ++ [prev]) ++ behind :: back) := by
              rw [List.append_assoc]
              exact sound
            obtain ⟨after, left, loops, removed, soundAfter⟩ :=
              ih soundNext memberBack (Nat.lt_of_succ_lt_succ enough)
            refine ⟨after, left, ?_, removed, soundAfter⟩
            simp only [removeLoop, linked, foundNext, bind, Option.bind_some, if_neg here,
              if_neg notHead, loops]

/-- The loop comes back to the head when no node behind `prev` has the client. -/
theorem removeLoop_misses {fuel : Nat} (sound : server.Sound (front ++ prev :: back))
    (first : server.clientList = some head)
    (absent : ∀ node ∈ front ++ prev :: back, server.clientAt node ≠ some socket)
    (enough : back.length < fuel) :
    server.removeLoop head socket outcomes fuel prev = some (false, server) := by
  have other : ∀ node collection, server.collections.get? node = some collection →
      collection.client ≠ socket := by
    intro node collection found same
    apply absent node ((sound.live node).mpr ⟨collection, found⟩)
    rw [Sound.clientAt_of_get? found, same]
  induction back generalizing front prev fuel with
  | nil =>
      cases fuel with
      | zero => contradiction
      | succ fuel =>
          have headFirst : (front ++ [prev]).head? = some head := sound.head.symm.trans first
          have linked : server.next prev = some head := sound.isRing.next_last headFirst
          obtain ⟨collection, found⟩ :=
            @Sound.get?_of_mem server _ head sound (List.mem_of_head? headFirst)
          simp only [removeLoop, linked, found, bind, Option.bind_some,
            if_neg (other head collection found), if_true]
  | cons behind back ih =>
      cases fuel with
      | zero => contradiction
      | succ fuel =>
          have linked : server.next prev = some behind := sound.isRing.next_inner
          obtain ⟨collection, found⟩ := @Sound.get?_of_mem server _ behind sound (by simp)
          have rest : server.removeLoop head socket outcomes fuel behind =
              some (false, server) := by
            have split : front ++ prev :: behind :: back = (front ++ [prev]) ++ behind :: back := by
              simp
            rw [split] at sound absent
            exact ih sound absent (Nat.lt_of_succ_lt_succ enough)
          simp only [removeLoop, linked, found, bind, Option.bind_some,
            if_neg (other behind collection found), rest, ite_self]

/-- The client of the head is to be removed from a ring with other nodes in it. -/
def DropsHead (server : Server) (socket : ClientId) : Prop :=
  ∃ head, server.clientList = some head ∧ server.clientAt head = some socket ∧
    server.next head ≠ some head

instance (server : Server) (socket : ClientId) : Decidable (server.DropsHead socket) :=
  inferInstanceAs (Decidable (∃ head ∈ server.clientList, _))

/-- What the removal of a client of the ring does. -/
def Removes (server : Server) (socket : ClientId) (outcomes : Outcomes) : Prop :=
  ∀ node, server.clientAt node = some socket →
    ∃ after, server.removeClient (some socket) outcomes = some (true, after) ∧
      Removed server after node socket ∧ after.WellFormed

/-- Without the client in the list nothing happens, unless the list is empty. -/
def Misses (server : Server) (socket : ClientId) (outcomes : Outcomes) : Prop :=
  server.clientList ≠ none → (∀ node, server.clientAt node ≠ some socket) →
    server.removeClient (some socket) outcomes = some (false, server)

theorem Sound.mem_of_clientAt (sound : server.Sound ring)
    (owned : server.clientAt node = some client) : node ∈ ring :=
  (sound.live node).mpr (live_iff_clientAt.mpr ⟨client, owned⟩)

theorem Sound.unique (sound : server.Sound ring) {other : CollectionId}
    (left : server.clientAt node = some client) (right : server.clientAt other = some client) :
    node = other :=
  sound.distinct node (sound.mem_of_clientAt left) other (sound.mem_of_clientAt right)
    (left.trans right.symm)

theorem removes_of_not_head (sound : server.Sound ring) (inner : ¬ server.DropsHead socket) :
    server.Removes socket outcomes := by
  intro node owned
  have member := sound.mem_of_clientAt owned
  obtain ⟨collection, found⟩ := sound.get?_of_mem member
  have owner : collection.client = socket := by
    rw [Sound.clientAt_of_get? found] at owned
    exact Option.some.inj owned
  subst owner
  cases ring with
  | nil => contradiction
  | cons head rest =>
      have first : server.clientList = some head := sound.head
      obtain ⟨headCollection, foundHead⟩ := @Sound.get?_of_mem server _ head sound (.head _)
      by_cases atHead : node = head
      · subst atHead
        rw [found] at foundHead
        cases foundHead
        have itself : server.next node = some node := by
          by_contra longer
          exact inner ⟨node, first, owned, longer⟩
        cases rest with
        | nil =>
            obtain ⟨after, removes, removed, soundAfter⟩ := removeClient_single sound found
            exact ⟨after, removes, removed, _, soundAfter⟩
        | cons behind rest =>
            have linked : server.next node = some behind :=
              @IsRing.next_inner _ server.next behind node [] rest sound.isRing
            rw [linked] at itself
            have same := Option.some.inj itself
            exact absurd (List.nodup_cons.mp sound.isRing.nodup).1 (by rw [same]; simp)
      · have other : headCollection.client ≠ collection.client := by
          intro same
          apply atHead
          apply sound.unique owned
          rw [Sound.clientAt_of_get? foundHead, same]
        have short : rest.length < server.rounds :=
          Nat.lt_of_succ_lt sound.length_lt_rounds
        have memberRest : node ∈ rest := (List.mem_cons.mp member).resolve_left atHead
        obtain ⟨after, left, loops, removed, soundAfter⟩ :=
          @removeLoop_removes server [] rest node head head collection outcomes _ sound first
            memberRest found short
        refine ⟨after, ?_, removed, left, soundAfter⟩
        unfold removeClient
        rw [first]
        simp only [foundHead, bind, Option.bind_some, other, false_and, if_false, loops]

theorem misses (sound : server.Sound ring) : server.Misses socket outcomes := by
  intro some absent
  cases ring with
  | nil => exact absurd sound.head some
  | cons head rest =>
      have first : server.clientList = .some head := sound.head
      obtain ⟨collection, found⟩ := @Sound.get?_of_mem server _ head sound (.head _)
      have other : collection.client ≠ socket := by
        intro same
        apply absent head
        rw [Sound.clientAt_of_get? found, same]
      have short : rest.length < server.rounds := Nat.lt_of_succ_lt sound.length_lt_rounds
      have loops := @removeLoop_misses server [] rest head head socket outcomes _ sound first
        (fun node _ => absent node) short
      unfold removeClient
      rw [first]
      simp only [found, bind, Option.bind_some, other, false_and, if_false, loops]

/-- At the head of a longer ring nothing but the node itself goes. -/
theorem removeClient_head (sound : server.Sound (head :: rest))
    (found : server.collections.get? head = some collection)
    (longer : collection.next ≠ some head) :
    ∃ after, server.removeClient (some collection.client) outcomes = some (true, after) ∧
      after.collections = server.collections.destroy head := by
  obtain ⟨nodup, leads⟩ := isRing_cons.mp sound.isRing
  obtain ⟨object, there⟩ := sound.socket_of_get? found
  have short : rest.length < server.rounds := Nat.lt_of_succ_lt sound.length_lt_rounds
  obtain ⟨last, isLast⟩ : ∃ last, lastNode server.next head server.rounds head = some last := by
    rw [lastNode_eq leads (List.nodup_cons.mp nodup).1 short]
    exact ⟨_, List.getLast?_cons⟩
  obtain ⟨deleted, deletes, -, -, collections, -⟩ :=
    @deleteCollection_eq { server with clientList := collection.next } head collection outcomes
      found object there
  refine ⟨deleted.forget collection.client, ?_, collections⟩
  unfold removeClient
  rw [sound.head]
  simp only [List.head?_cons, found, longer, bind, Option.bind_some, and_false, if_false, if_true,
    isLast, deletes]

/-- The last node keeps its link to the head that is gone. -/
theorem not_removes_head (sound : server.Sound ring) (drops : server.DropsHead socket) :
    ¬ server.Removes socket outcomes := by
  intro removes
  obtain ⟨head, first, owned, longer⟩ := drops
  obtain ⟨after, result, removed, left, soundAfter⟩ := removes head owned
  obtain ⟨collection, found⟩ := sound.get?_of_mem (sound.mem_of_clientAt owned)
  rw [Sound.next_of_get? found] at longer
  rw [Sound.clientAt_of_get? found] at owned
  cases owned
  cases ring with
  | nil => exact absurd (sound.head.symm.trans first) (by simp)
  | cons other rest =>
      have same : other = head := Option.some.inj (sound.head.symm.trans first)
      subst same
      obtain ⟨again, headResult, collections⟩ := removeClient_head sound found longer
      rw [result] at headResult
      cases headResult
      obtain ⟨front, last, split⟩ : ∃ front last, other :: rest = front ++ [last] :=
        ⟨_, _, (List.dropLast_append_getLast (List.cons_ne_nil other rest)).symm⟩
      have linked : server.next last = some other := by
        have isRing := sound.isRing
        rw [split] at isRing
        exact isRing.next_last (by rw [← split]; rfl)
      have apart : last ≠ other := by
        intro same
        rw [same, Sound.next_of_get? found] at linked
        exact longer linked
      have lastRing : last ∈ other :: rest := by
        rw [split]
        simp
      obtain ⟨lastCollection, foundLast⟩ := sound.get?_of_mem lastRing
      have lastLeft : last ∈ left := by
        apply (soundAfter.live last).mpr
        rw [collections]
        exact ⟨lastCollection, by rw [Arena.get?_destroy_of_ne apart, foundLast]⟩
      obtain ⟨behind, inLeft, linkedAfter⟩ := soundAfter.isRing.next_mem lastLeft
      have kept : after.next last = server.next last := by
        rw [Server.next, Server.next, collections, Arena.get?_destroy_of_ne apart]
      rw [kept, linked] at linkedAfter
      rw [← Option.some.inj linkedAfter] at inLeft
      obtain ⟨gone, live⟩ := (soundAfter.live other).mp inLeft
      rw [removed.gone] at live
      contradiction

theorem removes_iff (sound : server.Sound ring) :
    server.Removes socket outcomes ↔ ¬ server.DropsHead socket :=
  ⟨fun removes drops => not_removes_head sound drops removes, removes_of_not_head sound⟩

end Server

end SynapTCP
