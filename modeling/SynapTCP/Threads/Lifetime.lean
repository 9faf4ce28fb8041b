import SynapTCP.Threads.Moves

namespace SynapTCP

open Data

/-! # The pipe marks the lifetime of the thread -/

variable {serving later : Serving} {server after : Server} {ring : List CollectionId}
  {node : CollectionId} {outcomes : Outcomes} {thread : Thread}

/-- The node at which the scan stopped. -/
def Scanning.chosen : Scanning → Option CollectionId
  | .clientEvent node => some node
  | .idle node _ => some node
  | .nothing => none

/-- What is known between the parts of `eventCheck`. -/
def Stage.Fits (server : Server) (ring : List CollectionId) : Stage → Prop
  | .resting => True
  | .selecting fds => fds = server.sockFd :: ring.filterMap server.watchAt
  | .selected scanning => server.Selects ring scanning ∧
      ∀ node, scanning.chosen = some node → ∀ seat, server.seat node = some seat → ¬ seat.Marked

theorem Stage.Fits.congr {stage : Stage} (fits : stage.Fits server ring)
    (same : Server.SameRing server after) (sockFd : after.sockFd = server.sockFd)
    (watchAt : after.watchAt = server.watchAt)
    (marks : ∀ node seat, after.seat node = some seat → seat.Marked →
      ∃ before, server.seat node = some before ∧ before.Marked) : stage.Fits after ring := by
  cases stage with
  | resting => trivial
  | selecting fds =>
      unfold Stage.Fits at *
      rw [sockFd, watchAt, fits]
  | selected scanning =>
      refine ⟨Server.Selects.congr same.symm fits.1, ?_⟩
      intro node chosen seat here marked
      obtain ⟨before, found, markedBefore⟩ := marks node seat here marked
      exact fits.2 node chosen before found markedBefore

namespace Serving

structure Kept (serving : Serving) (ring : List CollectionId) : Prop where
  sound : serving.server.Sound ring
  tracked : Tracked serving.server.seat serving.threads
  fits : serving.stage.Fits serving.server ring

/-- The move has an outcome, and the marks are kept. -/
def Steps (result : Option Serving) : Prop :=
  ∃ later, result = some later ∧ ∃ ring, later.Kept ring

/-! ## The parts of a call -/

theorem fresh_names {fd : Int} (fresh : Move.Fresh serving fd) (other : CollectionId) :
    ¬ Names serving.server.seat other fd := by
  intro names
  obtain ⟨seat, here, named⟩ := names
  obtain ⟨collection, -, found, -⟩ := Server.seat_eq_some here
  exact fresh other (Arena.lt_fresh_of_get? found) ⟨seat, here, named⟩

theorem tracked_of_grows {fd : Int} (tracked : Tracked serving.server.seat serving.threads)
    (fresh : Move.Fresh serving fd) (grows : serving.server.Grows after fd) :
    Tracked after.seat serving.threads := by
  rcases grows with same | ⟨node, absent, -, added⟩
  · rwa [same]
  · rw [added]
    exact tracked.add absent (fresh_names fresh)

theorem Kept.begin (kept : serving.Kept ring) (resting : serving.stage = .resting) :
    Steps serving.begin := by
  have soundLock := Server.SameRing.lock.sound kept.sound
  have filled := Server.watchedSet_eq soundLock
  unfold Serving.begin
  dsimp only
  split
  · refine ⟨_, rfl, ring, Server.SameRing.unlock.sound soundLock, kept.tracked, ?_⟩
    show Stage.Fits _ ring serving.stage
    rw [resting]
    trivial
  · unfold Server.fillSet
    rw [filled]
    exact ⟨_, rfl, ring, (Server.SameRing.of_log _).sound soundLock, kept.tracked, rfl⟩

theorem Kept.accept (kept : serving.Kept ring) (resting : serving.stage = .resting)
    (fresh : Move.Fresh serving outcomes.connFd) (inRange : outcomes.connFd < 65535) :
    Steps (serving.accept outcomes) := by
  obtain ⟨added, after, accepts, longer, sound⟩ :=
    Server.acceptNewClient_wellFormed kept.sound outcomes
  have grows := Server.acceptNewClient_grows kept.sound inRange accepts
  have ran : serving.accept outcomes = some { serving with server := after } := by
    rw [Serving.accept, accepts, Option.map_some]
  have tracked := tracked_of_grows kept.tracked fresh grows
  refine ⟨_, ran, longer, sound, tracked, ?_⟩
  show Stage.Fits _ longer serving.stage
  rw [resting]
  trivial

theorem not_marked_of_readable {fds : List Int} {seat : Seat} (kept : serving.Kept ring)
    (isFds : fds = serving.server.sockFd :: ring.filterMap serving.server.watchAt)
    (reports : Move.Reports serving fds outcomes.readfds)
    (quiet : serving.server.sockFd ∉ outcomes.readfds)
    (here : serving.server.seat node = some seat) (readable : seat.fd ∈ outcomes.readfds) :
    ¬ seat.Marked := by
  obtain ⟨member, positive⟩ := reports.1 seat.fd readable
  rw [isFds] at member
  rcases List.mem_cons.mp member with isServer | inRing
  · exact absurd (isServer ▸ readable) quiet
  · obtain ⟨other, -, watches⟩ := List.mem_filterMap.mp inRing
    obtain ⟨second, found, isWatch⟩ := Option.map_eq_some_iff.mp watches
    have named : Names serving.server.seat other seat.fd := by
      refine ⟨second, found, positive, ?_⟩
      by_cases marked : second.Marked
      · rw [Seat.watch_of_marked marked] at isWatch
        exact .inr isWatch
      · rw [Seat.watch_of_not_marked marked] at isWatch
        exact .inl isWatch
    have same := kept.tracked.apart other node seat.fd named ⟨seat, here, positive, .inl rfl⟩
    rw [same, here] at found
    cases found
    intro marked
    rw [Seat.watch_of_marked marked] at isWatch
    exact kept.tracked.own node seat here marked isWatch.symm

theorem closes_of_reaped {fds : List Int} (reports : Move.Reports serving fds outcomes.readfds)
    (reaped : Server.Reaped outcomes serving.server after) :
    Closes serving.server.seat after.seat serving.threads := by
  intro node
  rcases reaped.seat node with same | ⟨seat, here, marked, reported, closed⟩
  · exact .inl same
  · obtain ⟨collection, -, found, -⟩ := Server.seat_eq_some here
    exact .inr ⟨seat, here, marked, closed,
      reports.2 node (Arena.lt_fresh_of_get? found) seat here marked reported⟩

theorem Kept.look {fds : List Int} (kept : serving.Kept ring)
    (selecting : serving.stage = .selecting fds)
    (reports : Move.Reports serving fds outcomes.readfds)
    (fresh : Move.Fresh serving outcomes.connFd) (inRange : outcomes.connFd < 65535) :
    Steps (serving.look outcomes) := by
  have isFds := kept.fits
  rw [selecting] at isFds
  unfold Serving.look
  split
  · exact ⟨_, rfl, ring, Server.SameRing.unlock.sound kept.sound, kept.tracked, trivial⟩
  · split
    · obtain ⟨event, after, requests, longer, sound⟩ :=
        Server.connectRequest_wellFormed kept.sound outcomes
      have grows := Server.connectRequest_grows kept.sound inRange requests
      have tracked := tracked_of_grows kept.tracked fresh grows
      rw [requests, Option.map_some]
      exact ⟨_, rfl, longer, sound, tracked, trivial⟩
    · rename_i quiet
      obtain ⟨after, scanning, scans, same, -, selects⟩ :=
        @Server.scan_exists serving.server ring outcomes kept.sound
      obtain ⟨reaped, found, -⟩ := Server.scan_reaps kept.sound scans
      rw [scans, Option.map_some]
      refine ⟨_, rfl, ring, same.sound kept.sound,
        kept.tracked.collect (closes_of_reaped reports reaped),
        Server.Selects.congr same.symm selects, ?_⟩
      intro node chosen seat here marked
      cases scanning with
      | clientEvent selected =>
          cases chosen
          obtain ⟨collection, socket, foundAfter, there, readable⟩ := found
          have isSeat : seat = ⟨socket.sockFd, collection.pipe⟩ :=
            Option.some.inj (here.symm.trans (Server.seat_of_get? foundAfter there))
          rcases reaped.seat node with still | ⟨before, hereBefore, -, -, closed⟩
          · rw [← show seat.fd = socket.sockFd by rw [isSeat]] at readable
            exact not_marked_of_readable kept isFds reports quiet (still.symm.trans here)
              readable marked
          · rw [show after.seat node = some seat from here, Option.some.injEq] at closed
            rw [closed] at marked
            exact Int.lt_irrefl 0 marked
      | idle selected tmp =>
          cases chosen
          obtain ⟨collection, foundAfter, unmarked⟩ := found
          obtain ⟨again, socket, foundSeat, there, isSeat⟩ := Server.seat_eq_some here
          rw [foundAfter] at foundSeat
          cases foundSeat
          subst isSeat
          exact Int.not_lt.mpr unmarked marked
      | nothing => contradiction

/-- Without a mark all bytes of the node's threads are consumed. -/
theorem spare_of_unlocked (kept : serving.Kept ring) (unlocked : Move.Unlocked serving node)
    {seat : Seat} (here : serving.server.seat node = some seat) (unmarked : ¬ seat.Marked) :
    Spare serving.threads node := by
  intro thread member busy same
  have consumed : thread.byte = .consumed := by
    by_contra awaited
    exact unmarked ((kept.tracked.marks node seat here).mpr ⟨thread, member, same, awaited⟩)
  rcases busy with live | awaited
  · exact unlocked thread member same consumed live
  · exact awaited consumed

/-- A call that ends with `after` leaves the threads with those that it created. -/
theorem Kept.act_of {scanning : Scanning} {nodes longer : List CollectionId}
    (ran : outcome serving.server outcomes scanning = some after)
    (created : Server.created after.log = Server.created serving.server.log ++ nodes)
    (sound : after.Sound longer)
    (tracked : Tracked after.seat (serving.threads ++ nodes.map (⟨·, .starting, .unwritten⟩))) :
    Steps (serving.act outcomes scanning) := by
  unfold Serving.act
  rw [ran, Option.map_some, created, List.drop_left]
  exact ⟨_, rfl, longer, sound, tracked, trivial⟩

theorem Kept.act {scanning : Scanning} (kept : serving.Kept ring)
    (selected : serving.stage = .selected scanning)
    (fresh : ∀ pipe ∈ outcomes.pipe, Move.Fresh serving pipe.1)
    (spares : Move.ActSpares serving outcomes (.selected scanning)) : Steps (serving.act outcomes scanning) := by
  have fits := kept.fits
  rw [selected] at fits
  obtain ⟨selects, unmarked⟩ := fits
  have unchanged : ∀ {after : Server}, Tracked after.seat serving.threads →
      Tracked after.seat (serving.threads ++ ([] : List CollectionId).map
        (⟨·, .starting, .unwritten⟩)) := by
    intro after tracked
    rwa [List.map_nil, List.append_nil]
  cases scanning with
  | clientEvent node =>
      simp only [Move.ActSpares] at spares
      obtain ⟨seat, here⟩ := kept.sound.seat_of_mem selects
      have idle := unmarked node rfl seat here
      have heads : ∀ client, outcomes.inputBytes = false →
          serving.server.clientAt node = some client → ¬ serving.server.DropsHead client := by
        intro client empty
        rw [if_pos empty] at spares
        exact spares.2 client
      obtain ⟨event, after, ran, left, sound, -⟩ :=
        Server.clientEvent_within kept.sound selects heads
      have heard := Server.clientEvent_heard kept.sound here heads ran
      have isAfter : outcome serving.server outcomes (.clientEvent node) = some after := by
        rw [outcome, ran, Option.map_some]
      unfold Server.Heard at heard
      split at heard
      · rename_i empty
        rw [if_pos empty] at spares
        have tracked := kept.tracked.remove (spare_of_unlocked kept spares.1 here idle)
        rw [← heard.2] at tracked
        exact Kept.act_of isAfter (heard.1.trans (List.append_nil _).symm) sound
          (unchanged tracked)
      · rename_i bytes
        rw [if_neg bytes] at spares
        split at heard
        · rename_i threaded
          obtain ⟨whole, unlocked⟩ := spares threaded
          refine Kept.act_of isAfter heard.1 sound ?_
          rw [heard.2]
          unfold Move.StartsWhole at whole
          split at whole
          · rename_i pipe th isPipe isThread
            rw [isThread] at unlocked
            rw [isPipe, isThread]
            exact kept.tracked.start here (spare_of_unlocked kept (unlocked nofun) here idle) whole.1
              whole.2 (fresh_names (fresh pipe isPipe))
          · rename_i noPipe noThread
            rw [noPipe, noThread, if_pos rfl, List.map_nil, List.append_nil]
            exact kept.tracked.unmark here idle
          · contradiction
        · have tracked := kept.tracked
          rw [← heard.2] at tracked
          exact Kept.act_of isAfter (heard.1.trans (List.append_nil _).symm) sound
            (unchanged tracked)
  | idle node tmp =>
      obtain ⟨seat, here⟩ := kept.sound.seat_of_mem selects.1
      have idle := unmarked node rfl seat here
      obtain ⟨event, after, ran, left, sound, -⟩ :=
        @Server.dropIdle_within serving.server ring node outcomes kept.sound tmp selects spares.2
      obtain ⟨created, seats⟩ := Server.dropIdle_seats kept.sound selects spares.2 ran
      have isAfter : outcome serving.server outcomes (.idle node tmp) = some after := by
        rw [outcome, ran, Option.map_some]
      have tracked := kept.tracked.remove (spare_of_unlocked kept spares.1 here idle)
      rw [← seats] at tracked
      exact Kept.act_of isAfter (created.trans (List.append_nil _).symm) sound (unchanged tracked)
  | nothing =>
      have created := (Server.Leaves.emit (unlockOf .server) :
        Server.Leaves serving.server serving.server.unlock).created
      exact Kept.act_of rfl (created.trans (List.append_nil _).symm)
        (Server.SameRing.unlock.sound kept.sound)
        (@unchanged serving.server.unlock kept.tracked)

/-! ## The steps of a thread -/

theorem onThread_eq {i : Nat} {next : Thread} {collection : ClientCollection}
    {step : Thread → ClientCollection → Option (Server × Thread)}
    (there : serving.threads[i]? = some thread)
    (found : serving.server.collections.get? thread.place = some collection)
    (stepped : step thread collection = some (after, next)) :
    serving.onThread i step =
      some { serving with server := after, threads := serving.threads.set i next } := by
  simp only [onThread, there, found, stepped, bind, Option.bind_some]

/-- A thread that is not at its end finds its node and the client. -/
theorem Kept.visits {i : Nat} (kept : serving.Kept ring)
    (there : serving.threads[i]? = some thread) (live : thread.Live) :
    ∃ collection socket, serving.server.collections.get? thread.place = some collection ∧
      serving.server.clients.get? collection.client = some socket ∧
      serving.server.seat thread.place = some ⟨socket.sockFd, collection.pipe⟩ := by
  obtain ⟨seat, here⟩ := kept.tracked.there thread (List.mem_of_getElem? there) (.inl live)
  obtain ⟨collection, socket, found, owner, isSeat⟩ := Server.seat_eq_some here
  exact ⟨collection, socket, found, owner, isSeat ▸ here⟩

theorem Kept.of_steady {threads : List Thread} (kept : serving.Kept ring)
    (same : Server.SameRing serving.server after) (sockFd : after.sockFd = serving.server.sockFd)
    (watchAt : after.watchAt = serving.server.watchAt)
    (marks : ∀ node seat, after.seat node = some seat → seat.Marked →
      ∃ before, serving.server.seat node = some before ∧ before.Marked)
    (tracked : Tracked after.seat threads) :
    ({ serving with server := after, threads } : Serving).Kept ring :=
  ⟨same.sound kept.sound, tracked, kept.fits.congr same sockFd watchAt marks⟩

theorem Kept.start {i : Nat} (kept : serving.Kept ring) (inPhase : Move.InPhase serving i .starting) :
    Steps (serving.start i) := by
  obtain ⟨thread, there, starting⟩ := inPhase
  have live : thread.Live := by
    rw [Worker.Live, starting]
    nofun
  obtain ⟨collection, socket, found, -, -⟩ := kept.visits there live
  have tracked : Tracked serving.server.seat
      (serving.threads.set i { thread with phase := .handling }) := by
    refine kept.tracked.advance there rfl Iff.rfl (fun _ => .inl live) ?_
    have orderly := kept.tracked.orderly thread (List.mem_of_getElem? there)
    exact iff_of_true (orderly.mpr (.inl starting)) (.inr rfl)
  exact ⟨_, onThread_eq there found rfl, ring,
    kept.of_steady (.refl _) rfl rfl (fun _ seat here marked => ⟨seat, here, marked⟩) tracked⟩

theorem Kept.leave {i : Nat} (kept : serving.Kept ring)
    (inPhase : Move.InPhase serving i .finishing) : Steps (serving.leave i) := by
  obtain ⟨thread, there, finishing⟩ := inPhase
  have live : thread.Live := by
    rw [Worker.Live, finishing]
    nofun
  obtain ⟨collection, socket, found, -, -⟩ := kept.visits there live
  have tracked : Tracked serving.server.seat
      (serving.threads.set i { thread with phase := .ended }) := by
    refine kept.tracked.advance there rfl Iff.rfl (fun _ => .inl live) ?_
    have orderly := kept.tracked.orderly thread (List.mem_of_getElem? there)
    have written : thread.byte ≠ .unwritten := by
      intro unwritten
      rcases orderly.mp unwritten with early | early
      · rw [finishing] at early
        contradiction
      · rw [finishing] at early
        contradiction
    exact iff_of_false written (by simp)
  exact ⟨_, onThread_eq there found rfl, ring,
    kept.of_steady (.refl _) rfl rfl (fun _ seat here marked => ⟨seat, here, marked⟩) tracked⟩

theorem Kept.marked {i : Nat} {seat : Seat} (kept : serving.Kept ring)
    (there : serving.threads[i]? = some thread) (handling : thread.phase = .handling)
    (here : serving.server.seat thread.place = some seat) :
    seat.Marked ∧ thread.byte = .unwritten := by
  have member := List.mem_of_getElem? there
  have unwritten := (kept.tracked.orderly thread member).mpr (.inr handling)
  refine ⟨?_, unwritten⟩
  rw [kept.tracked.marks thread.place seat here]
  exact ⟨thread, member, rfl, by rw [Worker.Awaited, unwritten]; nofun⟩

theorem Kept.finish {i : Nat} {now : TimeVal} (kept : serving.Kept ring)
    (inPhase : Move.InPhase serving i .handling) : Steps (serving.finish i now) := by
  obtain ⟨thread, there, handling⟩ := inPhase
  have live : thread.Live := by
    rw [Worker.Live, handling]
    nofun
  obtain ⟨collection, socket, found, owner, here⟩ := kept.visits there live
  obtain ⟨marked, unwritten⟩ := kept.marked there handling here
  have writeEnd := kept.tracked.ends thread.place _ here marked
  let after : Server := { serving.server with
    collections := serving.server.collections.set thread.place
      { collection with th := 0, lastActivity := now } }
  have seats : after.seat = serving.server.seat :=
    Server.seat_of_kept found owner rfl rfl rfl rfl
  have tracked : Tracked after.seat (serving.threads.set i
      { thread with phase := .finishing, byte := .written }) := by
    rw [seats]
    refine kept.tracked.advance there rfl ?_ (fun _ => .inl live) (iff_of_false nofun (by simp))
    exact iff_of_true nofun (by rw [Worker.Awaited, unwritten]; nofun)
  have same : Server.SameRing serving.server after :=
    Server.SameRing.of_set found rfl rfl rfl rfl rfl
  refine ⟨_, onThread_eq there found ?_, ring, kept.of_steady same rfl ?_ ?_ tracked⟩
  · rw [if_pos (Int.ne_of_gt writeEnd)]
  · funext node
    unfold Server.watchAt
    rw [seats]
  · intro node seat hereAfter markedAfter
    rw [seats] at hereAfter
    exact ⟨seat, hereAfter, markedAfter⟩

theorem Kept.handle {i : Nat} {socket : Socket} (kept : serving.Kept ring)
    (possible : Move.Possible serving (.handle i socket)) : Steps (serving.handle i socket) := by
  obtain ⟨⟨thread, there, handling⟩, keeps⟩ := possible
  have live : thread.Live := by
    rw [Worker.Live, handling]
    nofun
  obtain ⟨collection, before, found, owner, here⟩ := kept.visits there live
  obtain ⟨marked, -⟩ := kept.marked there handling here
  let after : Server := { serving.server with
    clients := serving.server.clients.set collection.client socket }
  have seats : after.seat = Function.update serving.server.seat thread.place
      (some ⟨socket.sockFd, collection.pipe⟩) := kept.sound.seat_of_setClient found owner
  have given : Tracked after.seat serving.threads := by
    rw [seats]
    rcases keeps thread there _ here with same | closed
    · rw [same, Function.update_eq_self_iff.mpr here.symm]
      exact kept.tracked
    · rw [closed]
      exact kept.tracked.giveUp here (by decide)
  have tracked : Tracked after.seat (serving.threads.set i thread) :=
    given.advance there rfl Iff.rfl id (kept.tracked.orderly thread (List.mem_of_getElem? there))
  refine ⟨_, onThread_eq there found ?_, ring, kept.of_steady (.setClient owner socket) rfl ?_ ?_
    tracked⟩
  · rw [owner]
    rfl
  · funext node
    unfold Server.watchAt
    rw [seats]
    by_cases same : node = thread.place
    · have watch : Seat.watch ⟨socket.sockFd, collection.pipe⟩ = collection.pipe.1 :=
        Seat.watch_of_marked marked
      rw [same, Function.update_self, here, Option.map_some, Option.map_some, watch,
        Seat.watch_of_marked marked]
    · rw [Function.update_of_ne same]
  · intro node seat hereAfter markedAfter
    rw [seats] at hereAfter
    by_cases same : node = thread.place
    · exact ⟨_, same ▸ here, marked⟩
    · rw [Function.update_of_ne same] at hereAfter
      exact ⟨seat, hereAfter, markedAfter⟩

end Serving

end SynapTCP
