import SynapTCP.Threads.Marking

namespace SynapTCP

open Data

/-! # The descriptors of a check for events

What `eventCheck` gives to `FD_SET`, to `select` and to `FD_ISSET`.
-/

namespace Server

variable {server after : Server} {ring : List CollectionId} {node cList : CollectionId}
  {outcomes : Outcomes} {fuel : Nat} {tests : List Int}

/-! ## The tests -/

/-- `scanLoop` with the arguments of `FD_ISSET` in front of what it gives. -/
def scanLoopTested (server : Server) (outcomes : Outcomes) (tmp : Option CollectionId) :
    Nat → CollectionId → Option (List Int × Server × Scanning)
  | 0, _ => none
  | fuel + 1, cList => do
      let found ← server.collections.get? cList
      let server := server.reap cList found outcomes.readfds
      let collection ← server.collections.get? cList
      let socket ← server.clients.get? collection.client
      let tests := (if 0 < found.pipe.1 then [found.pipe.1] else []) ++
        if server.client = some collection.client then [] else [socket.sockFd]
      let tmp := if server.client = some collection.client then some cList else tmp
      if server.client ≠ some collection.client ∧ socket.sockFd ∈ outcomes.readfds then
        some (tests, server, .clientEvent cList)
      else
        let behind ← collection.next
        if collection.pipe.1 ≤ 0 ∧ socket.isSocketTimeout outcomes.tv collection.lastActivity then
          some (tests, server, .idle cList (if behind ≠ cList then some behind else none))
        else if some behind = server.clientList then
          match tmp with
          | none => some (tests, server, .nothing)
          | some tmp => do
              let active ← server.collections.get? tmp
              let socket ← server.clients.get? active.client
              if socket.sockFd ∈ outcomes.readfds then
                some (tests ++ [socket.sockFd], server, .clientEvent tmp)
              else some (tests ++ [socket.sockFd], server, .nothing)
        else
          (server.scanLoopTested outcomes tmp fuel behind).map fun rest => (tests ++ rest.1, rest.2)

/-- The tests change nothing. -/
theorem scanLoopTested_scans (server : Server) (outcomes : Outcomes) (tmp : Option CollectionId)
    (fuel : Nat) (cList : CollectionId) :
    (server.scanLoopTested outcomes tmp fuel cList).map Prod.snd =
      server.scanLoop outcomes tmp fuel cList := by
  induction fuel generalizing server tmp cList with
  | zero => rfl
  | succ fuel ih =>
      rw [scanLoopTested, scanLoop]
      cases server.collections.get? cList with
      | none => rfl
      | some found =>
          simp only [bind, Option.bind_some]
          generalize server.reap cList found outcomes.readfds = server
          cases server.collections.get? cList with
          | none => rfl
          | some collection =>
              simp only [Option.bind_some]
              cases server.clients.get? collection.client with
              | none => rfl
              | some socket =>
                  simp only [Option.bind_some]
                  generalize (if server.client = some collection.client then some cList
                    else tmp) = chosen
                  split
                  · rfl
                  · cases collection.next with
                    | none => rfl
                    | some behind =>
                        simp only [Option.bind_some]
                        split
                        · rfl
                        · split
                          · cases chosen with
                            | none => rfl
                            | some tmp =>
                                dsimp only
                                cases server.collections.get? tmp with
                                | none => rfl
                                | some active =>
                                    simp only [Option.bind_some]
                                    cases server.clients.get? active.client with
                                    | none => rfl
                                    | some socket =>
                                        simp only [Option.bind_some]
                                        split <;> rfl
                          · rw [← ih, Option.map_map]
                            rfl

theorem Reaped.traces {seat : Seat} (reaped : Reaped outcomes server after)
    (here : after.seat node = some seat) :
    ∃ before, server.seat node = some before ∧ seat.fd = before.fd ∧
      (seat.Marked → seat = before) := by
  rcases reaped.seat node with same | ⟨before, found, -, -, closed⟩
  · exact ⟨seat, same.symm.trans here, rfl, fun _ => rfl⟩
  · rw [here, Option.some.injEq] at closed
    refine ⟨before, found, by rw [closed], fun marked => ?_⟩
    rw [closed] at marked
    exact absurd marked (Int.lt_irrefl 0)

/-- The descriptor is that of a client, or of the read end of a pipe. -/
def Has (server : Server) (fd : Int) : Prop :=
  ∃ node seat, server.seat node = some seat ∧ (fd = seat.fd ∨ seat.Marked ∧ fd = seat.pipe.1)

theorem Reaped.has {fd : Int} (reaped : Reaped outcomes server after) (has : after.Has fd) :
    server.Has fd := by
  obtain ⟨node, seat, here, isFd⟩ := has
  obtain ⟨before, found, sameFd, same⟩ := reaped.traces here
  refine ⟨node, before, found, ?_⟩
  rcases isFd with own | ⟨marked, end_⟩
  · exact .inl (own.trans sameFd)
  · rw [← same marked]
    exact .inr ⟨marked, end_⟩

theorem scanLoopTested_has {tmp : Option CollectionId} {result : Server × Scanning}
    (ran : server.scanLoopTested outcomes tmp fuel cList = some (tests, result)) :
    ∀ fd ∈ tests, server.Has fd := by
  induction fuel generalizing server tmp cList tests with
  | zero => contradiction
  | succ fuel ih =>
      rw [scanLoopTested] at ran
      obtain ⟨found, foundBefore, ran⟩ := Option.bind_eq_some_iff.mp ran
      have reaped : Reaped outcomes server (server.reap cList found outcomes.readfds) :=
        .reap foundBefore
      have owner : ∀ collection,
          (server.reap cList found outcomes.readfds).collections.get? cList = some collection →
            collection.client = found.client := by
        intro collection there
        rcases reaped.nodes cList with same | ⟨before, again, -, -, closed⟩
        · rw [there, foundBefore, Option.some.injEq] at same
          rw [same]
        · rw [foundBefore, Option.some.injEq] at again
          rw [there, Option.some.injEq] at closed
          rw [closed, again]
      generalize server.reap cList found outcomes.readfds = middle at *
      obtain ⟨collection, foundHere, ran⟩ := Option.bind_eq_some_iff.mp ran
      obtain ⟨socket, there, ran⟩ := Option.bind_eq_some_iff.mp ran
      have first : ∀ fd ∈ (if 0 < found.pipe.1 then [found.pipe.1] else []) ++
          (if middle.client = some collection.client then [] else [socket.sockFd]),
            server.Has fd := by
        intro fd member
        rcases List.mem_append.mp member with isPipe | isOwn
        · split at isPipe
          · rename_i marked
            rw [List.mem_singleton.mp isPipe]
            have before : server.clients.get? found.client = some socket := by
              rw [← owner collection foundHere, ← reaped.clients, there]
            exact ⟨cList, _, seat_of_get? foundBefore before, .inr ⟨marked, rfl⟩⟩
          · contradiction
        · split at isOwn
          · contradiction
          · rw [List.mem_singleton.mp isOwn]
            exact reaped.has ⟨cList, _, seat_of_get? foundHere there, .inl rfl⟩
      dsimp only at ran
      generalize (if 0 < found.pipe.1 then [found.pipe.1] else []) ++
        (if middle.client = some collection.client then [] else [socket.sockFd]) = here at ran first
      generalize (if middle.client = some collection.client then some cList else tmp) = chosen at ran
      split at ran
      · cases ran
        exact first
      · obtain ⟨behind, -, ran⟩ := Option.bind_eq_some_iff.mp ran
        split at ran
        · cases ran
          exact first
        · split at ran
          · split at ran
            · cases ran
              exact first
            · obtain ⟨active, foundActive, ran⟩ := Option.bind_eq_some_iff.mp ran
              obtain ⟨object, thereActive, ran⟩ := Option.bind_eq_some_iff.mp ran
              have last : ∀ fd ∈ here ++ [object.sockFd], server.Has fd := by
                intro fd member
                rcases List.mem_append.mp member with early | late
                · exact first fd early
                · rw [List.mem_singleton.mp late]
                  exact reaped.has ⟨_, _, seat_of_get? foundActive thereActive, .inl rfl⟩
              split at ran
              · cases ran
                exact last
              · cases ran
                exact last
          · obtain ⟨⟨rest, ending⟩, goes, same⟩ := Option.map_eq_some_iff.mp ran
            cases same
            intro fd member
            rcases List.mem_append.mp member with early | late
            · exact first fd early
            · exact reaped.has (ih goes fd late)

/-! ## The first argument of `select` -/

theorem ofInt_toNat {fd : Int} (nonneg : 0 ≤ fd) (small : fd < 65536) :
    ((UInt16.ofInt fd).toNat : Int) = fd := by
  have value : (UInt16.ofInt fd).toNat = (fd % 65536).toNat % 65536 := rfl
  rw [value]
  omega

theorem widen_covers {max : UInt16} {fd : Int} (small : fd < 65536) :
    max.toNat ≤ (widen max fd).toNat ∧ fd ≤ (widen max fd).toNat := by
  unfold widen
  split
  · rename_i less
    have value := ofInt_toNat (show 0 ≤ fd by omega) small
    omega
  · omega

theorem foldl_widen_covers {max : UInt16} {fds : List Int} (small : ∀ fd ∈ fds, fd < 65536) :
    max.toNat ≤ (fds.foldl widen max).toNat ∧ ∀ fd ∈ fds, fd ≤ (fds.foldl widen max).toNat := by
  induction fds generalizing max with
  | nil => exact ⟨Nat.le_refl _, nofun⟩
  | cons fd fds ih =>
      rw [List.forall_mem_cons] at small
      obtain ⟨wider, covers⟩ := @widen_covers max fd small.1
      obtain ⟨widest, rest⟩ := @ih (widen max fd) small.2
      rw [List.foldl_cons, List.forall_mem_cons]
      exact ⟨wider.trans widest, by omega, rest⟩

/-- The first arguments of `select`. -/
def selects (log : List Effect) : List Int :=
  log.filterMap fun
    | .select nfds => some nfds
    | _ => none

theorem selects_append (log more : List Effect) :
    selects (log ++ more) = selects log ++ selects more := List.filterMap_append

theorem selects_fdSet (fds : List Int) : selects (fds.map .fdSet) = [] := by
  induction fds with
  | nil => rfl
  | cons fd fds ih => exact ih

/-- The first argument of the last `select`. -/
def nfds (log : List Effect) : Option Int := (selects log).getLast?

theorem fillSet_nfds (sound : server.Sound ring) (fills : server.fillSet = some after) :
    nfds after.log = some
      ((((ring.filterMap server.watchAt).foldl widen (UInt16.ofInt server.sockFd)).toNat : Int)
        + 1) := by
  rw [fillSet, watchedSet_eq sound, Option.map_some] at fills
  cases fills
  simp only [nfds, selects_append, selects_fdSet]
  have unlocked : selects ((unlockOf .server).map .act) = [] := rfl
  have locked : selects ((lockOf .server).map .act) = [] := rfl
  rw [unlocked, locked, List.append_nil, List.append_nil, List.append_nil]
  exact List.getLast?_concat

/-! ## What is known of the descriptors -/

/-- The descriptor is the server's own, a client's, or the read end of a pipe. -/
def Given (server : Server) (fd : Int) : Prop := fd = server.sockFd ∨ server.Has fd

theorem given_of_watched {fd : Int} (watched : fd ∈ server.sockFd :: ring.filterMap server.watchAt) :
    server.Given fd := by
  rcases List.mem_cons.mp watched with own | inRing
  · exact .inl own
  · obtain ⟨node, -, watches⟩ := List.mem_filterMap.mp inRing
    obtain ⟨seat, here, isWatch⟩ := Option.map_eq_some_iff.mp watches
    refine .inr ⟨node, seat, here, ?_⟩
    by_cases marked : seat.Marked
    · rw [Seat.watch_of_marked marked] at isWatch
      exact .inr ⟨marked, isWatch.symm⟩
    · rw [Seat.watch_of_not_marked marked] at isWatch
      exact .inl isWatch.symm

/-- A client whose pipe is open has a descriptor that is not above all of the set. -/
def Covers (server : Server) : Prop :=
  ∀ node < server.collections.fresh, ∀ seat ∈ server.seat node, seat.Marked →
    seat.fd ≤ server.sockFd ∨
      ∃ other < server.collections.fresh, ∃ fd ∈ server.watchAt other, seat.fd ≤ fd

instance : Decidable server.Covers :=
  inferInstanceAs (Decidable (∀ node < server.collections.fresh, _))

/-- `select` is given more than each descriptor. -/
theorem given_lt_nfds (sound : server.Sound ring) (small : ∀ fd, server.Given fd → fd < 65536)
    (nonneg : 0 ≤ server.sockFd) (covers : server.Covers) {fd : Int} (given : server.Given fd) :
    fd < ((ring.filterMap server.watchAt).foldl widen (UInt16.ofInt server.sockFd)).toNat + 1 := by
  obtain ⟨wider, each⟩ := @foldl_widen_covers (UInt16.ofInt server.sockFd)
    (ring.filterMap server.watchAt) fun fd watched =>
      small fd (given_of_watched (List.mem_cons_of_mem _ watched))
  have own := ofInt_toNat nonneg (small _ (.inl rfl))
  have watches : ∀ node fd, server.watchAt node = some fd → fd ∈ ring.filterMap server.watchAt := by
    intro node fd watches
    obtain ⟨seat, here, -⟩ := Option.map_eq_some_iff.mp watches
    obtain ⟨collection, -, found, -⟩ := seat_eq_some here
    exact List.mem_filterMap.mpr ⟨node, (sound.live node).mpr ⟨collection, found⟩, watches⟩
  rcases given with isOwn | ⟨node, seat, here, isFd⟩
  · omega
  · have watched : seat.watch ∈ ring.filterMap server.watchAt := by
      apply watches node
      rw [watchAt, here, Option.map_some]
    have below := each _ watched
    by_cases marked : seat.Marked
    · rw [Seat.watch_of_marked marked] at below
      rcases isFd with isFd | ⟨-, isFd⟩
      · obtain ⟨collection, -, found, -⟩ := seat_eq_some here
        rcases covers node (Arena.lt_fresh_of_get? found) seat here marked with
          low | ⟨other, -, higher, isWatch, low⟩
        · omega
        · have bound := each higher (watches other higher isWatch)
          omega
      · omega
    · rw [Seat.watch_of_not_marked marked] at below
      rcases isFd with isFd | ⟨isMarked, -⟩
      · omega
      · exact absurd isMarked marked

end Server

end SynapTCP
