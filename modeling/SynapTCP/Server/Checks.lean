import SynapTCP.Server.Addition

namespace SynapTCP

open Data

/-! # What a check for events does to the ring -/

namespace Server

variable {server middle after : Server} {ring rest front back : List CollectionId}
  {node head cList : CollectionId} {client : ClientId} {collection : ClientCollection}
  {outcomes : Outcomes} {fuel : Nat}

/-- All that a loop reads at a node of the ring is there. -/
theorem Sound.visit (sound : server.Sound ring) (member : node ∈ ring) :
    ∃ collection socket behind, server.collections.get? node = some collection ∧
      server.clients.get? collection.client = some socket ∧ collection.next = some behind ∧
      server.next node = some behind ∧ behind ∈ ring := by
  obtain ⟨collection, found⟩ := sound.get?_of_mem member
  obtain ⟨socket, there⟩ := sound.socket_of_get? found
  obtain ⟨behind, inRing, linked⟩ := sound.isRing.next_mem member
  refine ⟨collection, socket, behind, found, there, ?_, linked, inRing⟩
  rw [← Sound.next_of_get? found, linked]

theorem Sound.visit_last (sound : server.Sound (front ++ [cList])) :
    server.next cList = server.clientList := by
  obtain ⟨head, first⟩ : ∃ head, (front ++ [cList]).head? = some head := by
    cases front with
    | nil => exact ⟨_, rfl⟩
    | cons i front => exact ⟨_, rfl⟩
  rw [sound.head, first]
  exact sound.isRing.next_last first

theorem Sound.shift (sound : server.Sound (front ++ cList :: node :: back)) :
    server.Sound ((front ++ [cList]) ++ node :: back) := by
  rw [List.append_assoc]
  exact sound

theorem watched_exists {socket : Socket}
    (there : server.clients.get? collection.client = some socket) :
    ∃ fd, server.watched collection = some fd := by
  unfold watched
  rw [there]
  split
  · exact ⟨_, rfl⟩
  · exact ⟨_, rfl⟩

/-- Only the first node is the head. -/
theorem Sound.further (sound : server.Sound (front ++ cList :: node :: back)) :
    some node ≠ server.clientList := by
  intro same
  rw [sound.head] at same
  have nodup := sound.isRing.nodup
  cases front with
  | nil =>
      rw [List.nil_append, List.head?_cons, Option.some.injEq] at same
      rw [List.nil_append, same] at nodup
      exact (List.nodup_cons.mp nodup).1 (.head _)
  | cons first front =>
      rw [List.cons_append, List.head?_cons, Option.some.injEq] at same
      rw [List.cons_append, ← same] at nodup
      exact (List.nodup_cons.mp nodup).1 (by simp)

theorem fillLoop_last (sound : server.Sound (front ++ [cList])) (max : UInt16) (fds : List Int) :
    ∃ collection socket fd, server.collections.get? cList = some collection ∧
      server.clients.get? collection.client = some socket ∧
      server.watched collection = some fd ∧
      server.fillLoop max fds (fuel + 1) cList = some (widen max fd, fds ++ [fd]) := by
  obtain ⟨collection, socket, behind, found, there, link, linked, -⟩ :=
    @Sound.visit server _ cList sound (by simp)
  obtain ⟨fd, watches⟩ := watched_exists there
  have last : some behind = server.clientList := linked.symm.trans sound.visit_last
  refine ⟨collection, socket, fd, found, there, watches, ?_⟩
  simp only [fillLoop, found, watches, link, bind, Option.bind_some, if_pos last]

theorem fillLoop_inner (sound : server.Sound (front ++ cList :: node :: back)) (max : UInt16)
    (fds : List Int) :
    ∃ collection socket fd, server.collections.get? cList = some collection ∧
      server.clients.get? collection.client = some socket ∧
      server.watched collection = some fd ∧
      server.fillLoop max fds (fuel + 1) cList =
        server.fillLoop (widen max fd) (fds ++ [fd]) fuel node := by
  obtain ⟨collection, socket, behind, found, there, link, linked, -⟩ :=
    @Sound.visit server _ cList sound (by simp)
  obtain ⟨fd, watches⟩ := watched_exists there
  have isNext : behind = node := Option.some.inj (linked.symm.trans sound.isRing.next_inner)
  refine ⟨collection, socket, fd, found, there, watches, ?_⟩
  simp only [fillLoop, found, watches, link, bind, Option.bind_some, isNext,
    if_neg sound.further]

theorem fillLoop_exists (sound : server.Sound (front ++ cList :: back))
    (enough : back.length < fuel) (max : UInt16) (fds : List Int) :
    ∃ filled, server.fillLoop max fds fuel cList = some filled := by
  induction back generalizing front cList fuel max fds with
  | nil =>
      cases fuel with
      | zero => contradiction
      | succ fuel =>
          obtain ⟨-, -, fd, -, -, -, fills⟩ := @fillLoop_last server front cList fuel sound max fds
          exact ⟨_, fills⟩
  | cons next back ih =>
      cases fuel with
      | zero => contradiction
      | succ fuel =>
          obtain ⟨-, -, fd, -, -, -, fills⟩ :=
            @fillLoop_inner server front back next cList fuel sound max fds
          rw [fills]
          exact ih sound.shift (Nat.lt_of_succ_lt_succ enough) _ _

theorem fillSet_exists (sound : server.Sound ring) :
    ∃ after, server.fillSet = some after ∧ SameRing server after ∧
      after.toTCPServer = server.toTCPServer := by
  have filled : ∃ filled, server.watchedSet = some filled := by
    unfold watchedSet
    rw [sound.head]
    cases ring with
    | nil => exact ⟨_, rfl⟩
    | cons head rest =>
        have short : rest.length < server.rounds := Nat.lt_of_succ_lt sound.length_lt_rounds
        exact @fillLoop_exists server [] rest head _ sound short _ _
  obtain ⟨filled, fills⟩ := filled
  have result : ∃ log, server.fillSet = some { server with log } :=
    ⟨_, by rw [fillSet, fills, Option.map_some]⟩
  obtain ⟨log, result⟩ := result
  exact ⟨_, result, SameRing.of_log _, rfl⟩

theorem reap_same (found : server.collections.get? node = some collection) (readfds : List Int) :
    SameRing server (server.reap node collection readfds) := by
  unfold reap
  split
  · exact SameRing.of_set found rfl rfl rfl rfl rfl
  · exact .refl _

theorem reap_toTCPServer (readfds : List Int) :
    (server.reap node collection readfds).toTCPServer = server.toTCPServer := by
  unfold reap
  split
  · rfl
  · rfl

/-- What the scan selects is in the ring. -/
def Selects (server : Server) (ring : List CollectionId) : Scanning → Prop
  | .clientEvent node => node ∈ ring
  | .idle node tmp => node ∈ ring ∧ ∃ behind, server.next node = some behind ∧
      tmp = if behind ≠ node then some behind else none
  | .nothing => True

theorem Selects.congr {scanning : Scanning} (same : SameRing server after)
    (selects : after.Selects ring scanning) : server.Selects ring scanning := by
  cases scanning with
  | clientEvent node => exact selects
  | idle node tmp =>
      unfold Selects at *
      rw [same.next] at selects
      exact selects
  | nothing => trivial

/-- One node of the scan: it ends there, or goes on with the server as it was but
for the pipe of the node. -/
theorem scanLoop_step (sound : server.Sound ring) (member : cList ∈ ring)
    (tmp : Option CollectionId) (inRing : ∀ node, tmp = some node → node ∈ ring) (fuel : Nat) :
    ∃ middle, SameRing server middle ∧ middle.toTCPServer = server.toTCPServer ∧
      ((∃ scanning, server.scanLoop outcomes tmp (fuel + 1) cList = some (middle, scanning) ∧
          server.Selects ring scanning) ∨
        ∃ behind tmp', server.next cList = some behind ∧ some behind ≠ server.clientList ∧
          (∀ node, tmp' = some node → node ∈ ring) ∧
          server.scanLoop outcomes tmp (fuel + 1) cList =
            middle.scanLoop outcomes tmp' fuel behind) := by
  obtain ⟨before, foundBefore⟩ := sound.get?_of_mem member
  have same := reap_same foundBefore outcomes.readfds
  have unchanged := @reap_toTCPServer server cList before outcomes.readfds
  have soundMiddle := same.sound sound
  generalize reaped : server.reap cList before outcomes.readfds = middle at *
  obtain ⟨collection, socket, behind, found, there, link, linked, -⟩ := soundMiddle.visit member
  rw [same.next] at linked
  refine ⟨middle, same, unchanged, ?_⟩
  have tmpRing : ∀ node, (if middle.client = some collection.client then some cList else tmp) =
      some node → node ∈ ring := by
    intro node chosen
    split at chosen
    · cases chosen
      exact member
    · exact inRing node chosen
  simp only [scanLoop, foundBefore, bind, Option.bind_some, reaped, found, there, link]
  split
  · exact .inl ⟨.clientEvent cList, rfl, member⟩
  · split
    · exact .inl ⟨.idle cList _, rfl, member, behind, linked, rfl⟩
    · rw [same.clientList]
      split
      · left
        split
        · exact ⟨.nothing, rfl, trivial⟩
        · rename_i active chosen
          have activeRing := tmpRing active chosen
          obtain ⟨activeCollection, activeSocket, -, foundActive, thereActive, -⟩ :=
            soundMiddle.visit activeRing
          simp only [foundActive, thereActive, Option.bind_some]
          split
          · exact ⟨.clientEvent active, rfl, activeRing⟩
          · exact ⟨.nothing, rfl, trivial⟩
      · rename_i further
        exact .inr ⟨behind, _, linked, further, tmpRing, rfl⟩

theorem scanLoop_exists (sound : server.Sound (front ++ cList :: back))
    (enough : back.length < fuel) (tmp : Option CollectionId)
    (inRing : ∀ node, tmp = some node → node ∈ front ++ cList :: back) :
    ∃ after scanning, server.scanLoop outcomes tmp fuel cList = some (after, scanning) ∧
      SameRing server after ∧ after.toTCPServer = server.toTCPServer ∧
      server.Selects (front ++ cList :: back) scanning := by
  induction back generalizing server front cList fuel tmp with
  | nil =>
      cases fuel with
      | zero => contradiction
      | succ fuel =>
          obtain ⟨middle, same, unchanged, ends | ⟨behind, _, linked, further, -⟩⟩ :=
            @scanLoop_step server _ cList outcomes sound (by simp) tmp inRing fuel
          · obtain ⟨scanning, result, selects⟩ := ends
            exact ⟨middle, scanning, result, same, unchanged, selects⟩
          · exact absurd (linked.symm.trans sound.visit_last) further
  | cons next back ih =>
      cases fuel with
      | zero => contradiction
      | succ fuel =>
          obtain ⟨middle, same, unchanged, ends | ⟨behind, tmp', linked, -, inRing', goes⟩⟩ :=
            @scanLoop_step server _ cList outcomes sound (by simp) tmp inRing fuel
          · obtain ⟨scanning, result, selects⟩ := ends
            exact ⟨middle, scanning, result, same, unchanged, selects⟩
          · have isNext : behind = next :=
              Option.some.inj (linked.symm.trans sound.isRing.next_inner)
            subst isNext
            have split : front ++ cList :: behind :: back = (front ++ [cList]) ++ behind :: back := by
              simp
            rw [split] at inRing' ⊢
            have soundMiddle := same.sound sound
            obtain ⟨after, scanning, result, sameAfter, unchangedAfter, selects⟩ :=
              ih soundMiddle.shift (Nat.lt_of_succ_lt_succ enough) tmp' inRing'
            refine ⟨after, scanning, goes.trans result, same.trans sameAfter,
              unchangedAfter.trans unchanged, ?_⟩
            exact selects.congr same

theorem scan_exists (sound : server.Sound ring) :
    ∃ after scanning, server.scan outcomes = some (after, scanning) ∧ SameRing server after ∧
      after.toTCPServer = server.toTCPServer ∧ server.Selects ring scanning := by
  unfold scan
  rw [sound.head]
  cases ring with
  | nil => exact ⟨server, .nothing, rfl, .refl _, rfl, trivial⟩
  | cons head rest =>
      have short : rest.length < server.rounds := Nat.lt_of_succ_lt sound.length_lt_rounds
      exact @scanLoop_exists server [] rest head outcomes _ sound short none
        (fun node chosen => by contradiction)

theorem Sound.activate (sound : server.Sound ring) (member : node ∈ ring)
    (owned : server.clientAt node = some client) :
    ({ server with client := some client } : Server).Sound ring where
  isRing := sound.isRing
  head := sound.head
  live := sound.live
  distinct := sound.distinct
  sockets := sound.sockets
  active _ isActive := by
    cases isActive
    exact ⟨node, member, owned⟩

theorem dropsHead_congr (clientList : after.clientList = server.clientList)
    (owners : ∀ node, after.clientAt node = server.clientAt node)
    (links : after.next = server.next) : after.DropsHead client ↔ server.DropsHead client := by
  unfold DropsHead
  rw [clientList, links]
  simp only [owners]

theorem SameRing.dropsHead (same : SameRing server after) :
    after.DropsHead client ↔ server.DropsHead client :=
  dropsHead_congr same.clientList (fun _ => same.clientAt) same.next

theorem startThread_same (found : server.collections.get? node = some collection)
    (outcomes : Outcomes) : SameRing server (server.startThread node collection outcomes) := by
  unfold startThread
  dsimp only
  split
  · split
    · exact SameRing.of_set found rfl rfl rfl rfl rfl
    · exact SameRing.of_set found rfl rfl rfl rfl rfl
  · split
    · exact SameRing.of_set found Arena.set_set rfl rfl rfl rfl
    · exact SameRing.of_set found Arena.set_set rfl rfl rfl rfl

/-- The client list is a ring of nodes that were in `ring`. -/
def Within (server : Server) (ring : List CollectionId) : Prop :=
  ∃ left, server.Sound left ∧ left ⊆ ring

theorem Sound.within (sound : server.Sound ring) : server.Within ring :=
  ⟨ring, sound, List.Subset.refl ring⟩

theorem Within.unlock (within : server.Within ring) : server.unlock.Within ring := by
  obtain ⟨left, sound, part⟩ := within
  exact ⟨left, SameRing.unlock.sound sound, part⟩

theorem Sound.within_of_removed (sound : server.Sound ring)
    (removed : Removed server after node client) (wellFormed : after.WellFormed) :
    after.Within ring := by
  obtain ⟨left, soundAfter⟩ := wellFormed
  refine ⟨left, soundAfter, fun i inLeft => ?_⟩
  obtain ⟨owner, owned⟩ := live_iff_clientAt.mp ((soundAfter.live i).mp inLeft)
  have apart : i ≠ node := by
    intro same
    rw [same, clientAt, removed.gone] at owned
    contradiction
  rw [removed.kept i apart] at owned
  exact sound.mem_of_clientAt owned

/-! The server behind the question for input. -/

theorem polled_get? {collection : ClientCollection}
    (found : server.collections.get? node = some collection) :
    (server.polled node collection outcomes).collections.get? node =
      some { collection with lastActivity := outcomes.active } :=
  Arena.get?_set_self found

theorem polled_same {collection : ClientCollection}
    (found : server.collections.get? node = some collection) :
    SameRing server { server.polled node collection outcomes with client := server.client } :=
  SameRing.of_set found rfl rfl rfl rfl rfl

theorem polled_clientAt {collection : ClientCollection}
    (found : server.collections.get? node = some collection) (other : CollectionId) :
    (server.polled node collection outcomes).clientAt other = server.clientAt other :=
  (polled_same found).clientAt

theorem polled_dropsHead {collection : ClientCollection}
    (found : server.collections.get? node = some collection) :
    (server.polled node collection outcomes).DropsHead client ↔ server.DropsHead client :=
  (polled_same found).dropsHead

theorem Sound.polled {collection : ClientCollection} (sound : server.Sound ring)
    (found : server.collections.get? node = some collection) :
    (server.polled node collection outcomes).Sound ring := by
  have owned := Sound.clientAt_of_get? found
  have same := @polled_same server node outcomes collection found
  have active := (same.sound sound).activate (sound.mem_of_clientAt owned)
    (by rw [same.clientAt, owned])
  exact active

theorem clientEvent_within (sound : server.Sound ring) (member : node ∈ ring)
    (spares : ∀ client, outcomes.inputBytes = false → server.clientAt node = some client →
      ¬ server.DropsHead client) :
    ∃ event after, server.clientEvent node outcomes = some (event, after) ∧ after.Within ring := by
  obtain ⟨collection, found⟩ := sound.get?_of_mem member
  have owned := Sound.clientAt_of_get? found
  have soundPolled : (server.polled node collection outcomes).Sound ring := sound.polled found
  rw [clientEvent_eq found]
  split
  · rename_i empty
    have inner : ¬ (server.polled node collection outcomes).lock.DropsHead collection.client :=
      fun drops => spares collection.client empty owned ((polled_dropsHead found).mp drops)
    have soundLocked := SameRing.lock.sound soundPolled
    have ownedLocked := (@polled_clientAt server node outcomes collection found node).trans owned
    obtain ⟨after, removes, removed, wellFormed⟩ :=
      @removes_of_not_head _ ring collection.client outcomes soundLocked inner node ownedLocked
    refine ⟨.clientDisconnected, after.unlock, ?_,
      (soundLocked.within_of_removed removed wellFormed).unlock⟩
    rw [removes, Option.map_some]
  · split
    · exact ⟨_, _, rfl, soundPolled.within⟩
    · split
      · exact ⟨_, _, rfl, ((SameRing.of_log _).sound soundPolled).within⟩
      · exact ⟨_, _, rfl,
          ((startThread_same (polled_get? found) outcomes).sound soundPolled).within⟩

/-- Behind a node that is dropped the check goes on at another one of the ring. -/
theorem Selects.behind {next : CollectionId} (sound : server.Sound ring)
    (selects : server.Selects ring (.idle node (some next))) :
    next ≠ node ∧ ∃ collection, server.collections.get? next = some collection := by
  obtain ⟨member, behind, linked, isTmp⟩ := selects
  have apart : next ≠ node ∧ next = behind := by
    split at isTmp
    · rename_i other
      cases isTmp
      exact ⟨other, rfl⟩
    · contradiction
  have inRing : next ∈ ring := by
    obtain ⟨other, otherRing, linkedOther⟩ := sound.isRing.next_mem member
    rw [linked] at linkedOther
    rw [apart.2, Option.some.inj linkedOther]
    exact otherRing
  exact ⟨apart.1, sound.get?_of_mem inRing⟩

theorem dropIdle_within (sound : server.Sound ring) {tmp : Option CollectionId}
    (selects : server.Selects ring (.idle node tmp))
    (spares : ∀ client, server.clientAt node = some client → ¬ server.DropsHead client) :
    ∃ event after, server.dropIdle node tmp outcomes = some (event, after) ∧
      after.Within ring := by
  obtain ⟨collection, found⟩ := sound.get?_of_mem selects.1
  have owned := Sound.clientAt_of_get? found
  obtain ⟨after, removes, removed, wellFormed⟩ :=
    @removes_of_not_head server ring collection.client outcomes sound
      (spares collection.client owned) node owned
  obtain ⟨left, soundAfter, part⟩ := sound.within_of_removed removed wellFormed
  unfold dropIdle
  simp only [found, bind, Option.bind_some, removes]
  cases tmp with
  | none => exact ⟨_, _, rfl, left, SameRing.unlock.sound soundAfter, part⟩
  | some next =>
      obtain ⟨apart, nextCollection, foundNext⟩ := selects.behind sound
      have ownedAfter : after.clientAt next = some nextCollection.client := by
        rw [removed.kept next apart, Sound.clientAt_of_get? foundNext]
      obtain ⟨stillThere, foundAfter⟩ := live_iff_clientAt.mpr ⟨_, ownedAfter⟩
      rw [Sound.clientAt_of_get? foundAfter] at ownedAfter
      refine ⟨.clientDisconnected, ({ after with client := some stillThere.client } : Server).unlock,
        by simp only [foundAfter, Option.bind_some], left, SameRing.unlock.sound ?_, part⟩
      exact soundAfter.activate ((soundAfter.live next).mpr ⟨_, foundAfter⟩)
        (Sound.clientAt_of_get? foundAfter)

/-- Accepting leaves the ring as it is, or appends the next node to it. -/
theorem acceptNewClient_exists (sound : server.Sound ring) (outcomes : Outcomes) :
    ∃ added after, server.acceptNewClient outcomes = some (added, after) ∧
      (after.Sound ring ∨ after.Sound (ring ++ [server.collections.fresh])) := by
  let accepted :=
    if 0 ≤ outcomes.connFd then
      { server.lock with addr := outcomes.peer }.emit [.acquire (.descriptor outcomes.connFd)]
    else server.lock
  have same : SameRing server accepted ∧ accepted.collections = server.collections := by
    unfold accepted
    split
    · exact ⟨⟨rfl, rfl, fun _ => rfl, fun _ => rfl⟩, rfl⟩
    · exact ⟨.lock, rfl⟩
  have soundAccepted : accepted.Sound ring := same.1.sound sound
  unfold acceptNewClient
  dsimp only
  rw [show (if 0 ≤ outcomes.connFd then _ else _) = accepted from rfl]
  split
  · exact ⟨false, _, rfl, .inl (SameRing.unlock.sound soundAccepted)⟩
  · obtain ⟨added, after, adds, result⟩ :=
      addClient_adds soundAccepted outcomes.connFd outcomes
    refine ⟨true, after.unlock, by rw [adds, Option.map_some], ?_⟩
    cases added with
    | false => exact .inl (SameRing.unlock.sound (result.same.sound soundAccepted))
    | true =>
        rw [← same.2]
        exact .inr (SameRing.unlock.sound result.2)

theorem acceptNewClient_wellFormed (sound : server.Sound ring) (outcomes : Outcomes) :
    ∃ added after, server.acceptNewClient outcomes = some (added, after) ∧ after.WellFormed := by
  obtain ⟨added, after, accepts, same | longer⟩ := acceptNewClient_exists sound outcomes
  · exact ⟨added, after, accepts, ring, same⟩
  · exact ⟨added, after, accepts, _, longer⟩

theorem connectRequest_wellFormed (sound : server.Sound ring) (outcomes : Outcomes) :
    ∃ event after, server.connectRequest outcomes = some (event, after) ∧ after.WellFormed := by
  unfold connectRequest
  split
  · exact ⟨_, _, rfl, ring, (SameRing.unlock.trans (.of_log _)).sound sound⟩
  · obtain ⟨added, after, accepts, wellFormed⟩ :=
      acceptNewClient_wellFormed (SameRing.unlock.sound sound) outcomes
    exact ⟨_, after, by rw [accepts, Option.map_some], wellFormed⟩

/-- The client that the scan gives up, if it does. -/
def Scanning.dropped (server : Server) (outcomes : Outcomes) : Scanning → Option ClientId
  | .clientEvent node => if outcomes.inputBytes = false then server.clientAt node else none
  | .idle node _ => server.clientAt node
  | .nothing => none

/-- The client that a check for events gives up, if it comes to the scan. -/
def dropped (server : Server) (outcomes : Outcomes) : Option ClientId :=
  if server.sockFd ≤ 0 ∨ outcomes.ret < 0 ∨ server.sockFd ∈ outcomes.readfds then none
  else do
    let filled ← server.lock.fillSet
    let scanned ← filled.scan outcomes
    Scanning.dropped server outcomes scanned.2

theorem dropped_of_scan {filled scanned : Server} {scanning : Scanning}
    (opened : 0 < server.sockFd) (selected : 0 ≤ outcomes.ret)
    (quiet : server.sockFd ∉ outcomes.readfds) (fills : server.lock.fillSet = some filled)
    (scans : filled.scan outcomes = some (scanned, scanning)) :
    server.dropped outcomes = Scanning.dropped server outcomes scanning := by
  unfold dropped
  rw [if_neg, fills]
  · simp only [bind, Option.bind_some, scans]
  · intro cases
    rcases cases with closed | failed | readable
    · exact Int.not_le.mpr opened closed
    · exact Int.not_lt.mpr selected failed
    · exact quiet readable

theorem scanning_within {scanned : Server} {scanning : Scanning} (whole : SameRing server scanned)
    (sound : scanned.Sound ring) (selects : scanned.Selects ring scanning)
    (spares : ∀ client, Scanning.dropped server outcomes scanning = some client →
      ¬ server.DropsHead client) :
    ∃ event after, (match scanning with
        | .clientEvent node => scanned.clientEvent node outcomes
        | .idle node tmp => scanned.dropIdle node tmp outcomes
        | .nothing => some (.none, scanned.unlock)) = some (event, after) ∧
      after.Within ring := by
  cases scanning with
  | clientEvent node =>
      apply clientEvent_within sound selects
      intro client empty owned
      rw [whole.dropsHead]
      apply spares client
      rw [Scanning.dropped, if_pos empty, ← whole.clientAt, owned]
  | idle node tmp =>
      apply dropIdle_within sound selects
      intro client owned
      rw [whole.dropsHead]
      apply spares client
      rw [Scanning.dropped, ← whole.clientAt, owned]
  | nothing => exact ⟨_, _, rfl, (SameRing.unlock.sound sound).within⟩

/-- A check for events accepts, or leaves a part of the ring. -/
theorem eventCheck_exists (sound : server.Sound ring)
    (spares : ∀ client, server.dropped outcomes = some client → ¬ server.DropsHead client) :
    ∃ event after, server.eventCheck outcomes = some (event, after) ∧
      ((¬ server.Accepts outcomes ∧ after.Within ring) ∨
        (server.Accepts outcomes ∧ ∃ waited added, SameRing server waited ∧
          waited.toTCPServer = server.toTCPServer ∧ waited.collections = server.collections ∧
          waited.acceptNewClient outcomes = some (added, after))) := by
  obtain ⟨filled, fills, sameFilled, unchanged⟩ := fillSet_exists (SameRing.lock.sound sound)
  have same : SameRing server filled := SameRing.lock.trans sameFilled
  have soundFilled := same.sound sound
  have sockFd : filled.sockFd = server.sockFd :=
    congrArg (fun object : TCPServer => object.sockFd) unchanged
  have handler : filled.conReqCallbackFunction = server.conReqCallbackFunction :=
    congrArg TCPServer.conReqCallbackFunction unchanged
  unfold eventCheck
  dsimp only
  split
  · rename_i closed
    exact ⟨_, _, rfl, .inl ⟨fun accepts => absurd accepts.1 (Int.not_lt.mpr closed),
      ((SameRing.lock.trans .unlock).sound sound).within⟩⟩
  · rename_i opened
    simp only [fills, bind, Option.bind_some]
    split
    · rename_i failed
      exact ⟨_, _, rfl, .inl ⟨fun accepts => absurd accepts.2.1 (Int.not_le.mpr failed),
        (SameRing.unlock.sound soundFilled).within⟩⟩
    · rename_i selected
      split
      · rename_i requested
        unfold connectRequest
        split
        · rename_i function handled
          rw [handler] at handled
          refine ⟨_, _, rfl, .inl ⟨fun accepts => ?_,
            ((SameRing.unlock.trans (.of_log _)).sound soundFilled).within⟩⟩
          rw [accepts.2.2.2] at handled
          contradiction
        · rename_i unhandled
          have collections : filled.collections = server.lock.collections :=
            fillSet_collections fills
          obtain ⟨added, after, accepts, -⟩ :=
            acceptNewClient_exists (SameRing.unlock.sound soundFilled) outcomes
          refine ⟨_, after, by rw [accepts, Option.map_some], .inr ⟨⟨?_, ?_, ?_, ?_⟩,
            filled.unlock, added, same.trans .unlock, unchanged, collections, accepts⟩⟩
          · exact Int.not_le.mp opened
          · exact Int.not_lt.mp selected
          · rw [← sockFd]
            exact requested
          · rw [← handler]
            exact unhandled
      · rename_i quiet
        have unrequested : ¬ server.Accepts outcomes := by
          intro accepts
          rw [sockFd] at quiet
          exact quiet accepts.2.2.1
        obtain ⟨scanned, scanning, scans, sameScanned, -, selects⟩ :=
          @scan_exists filled ring outcomes soundFilled
        have soundScanned := sameScanned.sound soundFilled
        have whole := same.trans sameScanned
        have drops : server.dropped outcomes = Scanning.dropped server outcomes scanning := by
          rw [sockFd] at quiet
          exact dropped_of_scan (Int.not_le.mp opened) (Int.not_lt.mp selected) quiet fills scans
        obtain ⟨event, after, ran, within⟩ := scanning_within whole soundScanned
          (Selects.congr sameScanned.symm selects) (by rw [← drops]; exact spares)
        simp only [scans, Option.bind_some]
        exact ⟨event, after, ran, .inl ⟨unrequested, within⟩⟩

theorem eventCheck_wellFormed (sound : server.Sound ring)
    (spares : ∀ client, server.dropped outcomes = some client → ¬ server.DropsHead client) :
    ∃ event after, server.eventCheck outcomes = some (event, after) ∧ after.WellFormed := by
  obtain ⟨event, after, checks, ends⟩ := eventCheck_exists sound spares
  rcases ends with ⟨-, left, soundAfter, -⟩ | ⟨-, waited, added, same, -, -, accepts⟩
  · exact ⟨event, after, checks, left, soundAfter⟩
  · obtain ⟨other, later, acceptsToo, wellFormed⟩ :=
      acceptNewClient_wellFormed (same.sound sound) outcomes
    rw [accepts] at acceptsToo
    cases acceptsToo
    exact ⟨event, after, checks, wellFormed⟩

end Server

end SynapTCP
