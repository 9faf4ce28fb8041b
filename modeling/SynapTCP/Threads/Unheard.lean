import SynapTCP.Threads.Sessions

namespace SynapTCP

open Data

/-! # Clients that send nothing more

A client is served only when `select` reports its descriptor.  What a handler has left in
the remaining data of the object is not seen there.
-/

namespace Server

variable {server after : Server} {outcomes : Outcomes} {node : CollectionId}

@[simp] theorem created_calls (log : List Effect) : created (calls log) = created log := by
  induction log with
  | nil => rfl
  | cons effect log ih =>
      cases effect with
      | create th node => exact congrArg (node :: ·) ih
      | act act => exact ih
      | fdSet fd => exact ih
      | select nfds => exact ih
      | connectionRequest function param => exact ih
      | reception function client param => exact ih
      | join th => exact ih

theorem created_of_calls (same : calls after.log = calls server.log) :
    created after.log = created server.log := by
  rw [← created_calls, same, created_calls]

/-- The rest of a check starts a thread for the node that was selected, if at all. -/
theorem outcome_created {scanning : Scanning}
    (ran : Serving.outcome server outcomes scanning = some after) :
    ∃ nodes, created after.log = created server.log ++ nodes ∧
      ∀ node ∈ nodes, scanning = .clientEvent node := by
  have nothing : ∀ {after : Server}, calls after.log = calls server.log →
      ∃ nodes, created after.log = created server.log ++ nodes ∧
        ∀ node ∈ nodes, scanning = .clientEvent node := by
    intro after same
    refine ⟨[], ?_, fun node member => by contradiction⟩
    rw [created_of_calls same, List.append_nil]
  cases scanning with
  | clientEvent node =>
      obtain ⟨event, checks, isAfter⟩ := Option.map_eq_some_iff.mp ran
      cases isAfter
      rcases (clientEvent_calls checks).2 with same | ⟨client, function, -, -, called⟩
      · exact nothing same
      · refine ⟨created (server.callFor node client function outcomes.thread), ?_, ?_⟩
        · rw [← created_calls, called, created_append, created_calls]
        · intro other member
          unfold callFor at member
          split at member
          · contradiction
          · cases started : outcomes.thread with
            | none =>
                rw [started] at member
                contradiction
            | some th =>
                rw [started] at member
                rw [List.mem_singleton.mp member]
  | idle node tmp =>
      obtain ⟨event, drops, isAfter⟩ := Option.map_eq_some_iff.mp ran
      cases isAfter
      exact nothing (dropIdle_calm drops).calls
  | nothing =>
      cases ran
      exact nothing (Calm.emit (unlockOf .server)).calls

end Server

namespace Move

variable {serving later : Serving} {ring : List CollectionId} {node : CollectionId}
  {socket : Socket} {move : Move}

/-- `select` reports the descriptor. -/
def Tells (fd : Int) : Move → Prop
  | .look outcomes => fd ∈ outcomes.readfds
  | _ => False

instance (fd : Int) : (move : Move) → Decidable (move.Tells fd)
  | .look outcomes => inferInstanceAs (Decidable (fd ∈ outcomes.readfds))
  | .begin | .act _ | .accept _ | .start _ | .handle _ _ | .finish _ _ | .leave _ =>
      .isFalse id

/-- No thread of the node goes on, none is about to be started, and its object is this. -/
structure Unheard (serving : Serving) (node : CollectionId) (socket : Socket) : Prop where
  letGo : LetGo serving node
  unselected : serving.stage ≠ .selected (.clientEvent node)
  object : ∀ owner last, serving.server.object node = some (owner, last) → last = socket

/-- Threads that are new are for other nodes. -/
theorem letGo_of_ages (letGo : LetGo serving node) (ages : Ages serving.threads later.threads)
    (started : ∀ i thread, serving.threads.length ≤ i → later.threads[i]? = some thread →
      thread.place ≠ node) : LetGo later node := by
  intro thread member place live
  obtain ⟨i, there⟩ := List.mem_iff_getElem?.mp member
  by_cases old : i < serving.threads.length
  · obtain ⟨before, found, same, lives⟩ := ages.old i thread old there
    exact letGo before (List.mem_of_getElem? found) (same.trans place) (lives live)
  · exact started i thread (Nat.le_of_not_lt old) there place

/-- The move starts no thread for the node and does not select it. -/
structure Passes (serving later : Serving) (node : CollectionId) : Prop where
  started : ∀ i thread, serving.threads.length ≤ i → later.threads[i]? = some thread →
    thread.place ≠ node
  unselected : later.stage ≠ .selected (.clientEvent node)

theorem Passes.of_length (same : later.threads.length = serving.threads.length)
    (unselected : later.stage ≠ .selected (.clientEvent node)) : Passes serving later node := by
  refine ⟨fun i thread beyond there => ?_, unselected⟩
  have inside := (List.getElem?_eq_some_iff.mp there).1
  exact absurd inside (Nat.not_lt.mpr (same ▸ beyond))

theorem Unheard.passes (unheard : Unheard serving node socket)
    (made : node < serving.server.collections.fresh) (ran : move.run serving = some later)
    (silent : ¬ move.Tells socket.sockFd) : Passes serving later node := by
  have advanced : ∀ {i : Nat} {step : Thread → ClientCollection → Option (Server × Thread)},
      serving.onThread i step = some later → Passes serving later node := by
    intro i step ran
    obtain ⟨thread, collection, after, changed, -, -, -, isLater⟩ := advances ran
    subst isLater
    exact .of_length List.length_set unheard.unselected
  cases move with
  | begin =>
      simp only [run, Serving.begin] at ran
      split at ran
      · cases ran
        exact .of_length rfl unheard.unselected
      · obtain ⟨filled, -, ran⟩ := Option.bind_eq_some_iff.mp ran
        obtain ⟨server, -, result⟩ := Option.bind_eq_some_iff.mp ran
        cases result
        exact .of_length rfl (by simp)
  | look outcomes =>
      simp only [run, Serving.look] at ran
      split at ran
      · cases ran
        exact .of_length rfl (by simp)
      · split at ran
        · obtain ⟨requested, -, result⟩ := Option.map_eq_some_iff.mp ran
          cases result
          exact .of_length rfl (by simp)
        · obtain ⟨⟨scanned, scanning⟩, scans, result⟩ := Option.map_eq_some_iff.mp ran
          cases result
          refine .of_length (List.length_map _) fun selected => ?_
          cases selected
          obtain ⟨-, collection, object, found, there, readable⟩ := Server.scan_found scans
          have here : scanned.object node = some (collection.client, object) :=
            Server.object_eq_some.mpr ⟨Server.Sound.clientAt_of_get? found, there⟩
          have before := (Server.scan_leavesObjects scans).object node _ made here
          rw [unheard.object _ _ before] at readable
          exact silent readable
  | act outcomes =>
      obtain ⟨scanning, selected, acts⟩ := selected_of_act ran
      obtain ⟨server, acted, result⟩ := Option.map_eq_some_iff.mp acts
      cases result
      obtain ⟨nodes, created, chosen⟩ := Server.outcome_created acted
      refine ⟨fun i thread beyond there => ?_, by simp⟩
      dsimp only at there
      rw [created, List.drop_left, List.getElem?_append_right beyond] at there
      obtain ⟨other, member, isThread⟩ := List.mem_map.mp (List.mem_of_getElem? there)
      subst isThread
      intro same
      exact unheard.unselected (selected.trans (congrArg _ (same ▸ chosen other member)))
  | accept outcomes =>
      obtain ⟨added, -, result⟩ := Option.map_eq_some_iff.mp ran
      cases result
      exact .of_length rfl unheard.unselected
  | start i => exact advanced ran
  | handle i written => exact advanced ran
  | finish i now => exact advanced ran
  | leave i => exact advanced ran

theorem Unheard.step (unheard : Unheard serving node socket) (kept : serving.Kept ring)
    (made : node < serving.server.collections.fresh) (possible : move.Possible serving)
    (ran : move.run serving = some later) (silent : ¬ move.Tells socket.sockFd) :
    move.handled serving node = [] ∧ Unheard later node socket := by
  have unhandled : move.handled serving node = [] := by
    rcases handled_cases serving node move with none | ⟨entry, one⟩
    · exact none
    · have member : entry ∈ move.handled serving node := by simp [one]
      obtain ⟨thread, there, place, live⟩ := lives_of_handled possible member
      exact absurd live (unheard.letGo thread (List.mem_of_getElem? there) place)
  have passes := unheard.passes made ran silent
  refine ⟨unhandled, letGo_of_ages unheard.letGo (ages possible ran) passes.started,
    passes.unselected, fun owner last there => ?_⟩
  obtain ⟨-, writes⟩ := @writesObject serving later ring node move kept ran
  rw [unhandled] at writes
  obtain ⟨before, here, isLast⟩ := writes owner last made there
  exact isLast.trans (unheard.object owner before here)

end Move

namespace Serving

variable {serving later : Serving} {ring : List CollectionId} {node : CollectionId}
  {client : ClientId} {socket : Socket} {moves : List Move}

theorem Kept.unheard (kept : serving.Kept ring) (follows : serving.follow moves = some later)
    (made : node < serving.server.collections.fresh)
    (unheard : Move.Unheard serving node socket)
    (silent : ∀ move ∈ moves, ¬ move.Tells socket.sockFd) :
    serving.handled node moves = [] ∧ Move.Unheard later node socket := by
  induction moves generalizing serving ring with
  | nil =>
      cases follows
      exact ⟨rfl, unheard⟩
  | cons move moves ih =>
      obtain ⟨possible, spares, next, ran, rest, handled⟩ :=
        @follow_cons serving later node moves move follows
      obtain ⟨ringNext, keptNext⟩ := kept.next possible spares ran
      obtain ⟨grows, -⟩ := @Move.writesObject serving next ring node move kept ran
      rw [List.forall_mem_cons] at silent
      obtain ⟨now, unheardNext⟩ := unheard.step kept made possible ran silent.1
      obtain ⟨soon, unheardLater⟩ :=
        ih keptNext rest (Nat.lt_of_lt_of_le made grows) unheardNext silent.2
      exact ⟨by rw [handled, now, soon]; rfl, unheardLater⟩

/-- A client whose last thread has let go waits for `select` to report its descriptor:
until then no thread is started for it, and what the last handler has left in the
remaining data stays there, be it a whole frame. -/
theorem unheard_until_reported {server : Server} (new : server.New)
    (reaches : (of server).Reaches serving) (follows : serving.follow moves = some later)
    (here : serving.server.object node = some (client, socket))
    (letGo : Move.LetGo serving node)
    (unselected : serving.stage ≠ .selected (.clientEvent node))
    (silent : ∀ move ∈ moves, ¬ move.Tells socket.sockFd) :
    serving.handled node moves = [] ∧ Move.LetGo later node ∧
      ∀ owner last, later.server.object node = some (owner, last) → last = socket := by
  obtain ⟨ring, kept⟩ := reaches.kept (Kept.of_new new)
  have made := Server.lt_fresh_of_clientAt (Server.object_eq_some.mp here).1
  have unheard : Move.Unheard serving node socket := by
    refine ⟨letGo, unselected, fun owner last there => ?_⟩
    cases here.symm.trans there
    rfl
  obtain ⟨none, after⟩ := kept.unheard follows made unheard silent
  exact ⟨none, after.letGo, after.object⟩

/-- The pipe of a client is told and another client comes, without a byte of the first. -/
def unheardMoves : List Move :=
  [.begin, .look told, .act told, .begin, .look { asking with connFd := 6 }]

/-- A handler leaves a byte in the remaining data, its thread ends, and the byte stays. -/
theorem unheard_until_reported_left :
    ∃ (serving later : Serving) (client : ClientId) (socket : Socket),
      serving.follow unheardMoves = some later ∧
      serving.server.object 0 = some (client, socket) ∧ socket.remainingData = [1] ∧
      (later.server.object 0).isSome ∧
      serving.handled 0 unheardMoves = [] ∧ Move.LetGo later 0 ∧
        ∀ owner last, later.server.object 0 = some (owner, last) → last = socket := by
  have follows : ((of threaded).follow [.begin, .look asking, .begin, .look heard, .act heard,
      .start 0, .handle 0 (handedBack 1), .finish 0 ⟨0, 0⟩, .leave 0]).map (fun serving =>
        ((serving.server.object 0).map (fun there =>
            (there.2.remainingData, decide (∀ move ∈ unheardMoves, ¬ move.Tells there.2.sockFd))),
          decide (Move.LetGo serving 0), serving.stage,
          (serving.follow unheardMoves).map fun later => (later.server.object 0).isSome)) =
      some (some ([1], true), true, .resting, some true) := by
    decide +kernel
  obtain ⟨serving, first, values⟩ := Option.map_eq_some_iff.mp follows
  obtain ⟨object, values⟩ := Prod.mk.inj values
  obtain ⟨letGo, values⟩ := Prod.mk.inj values
  obtain ⟨resting, values⟩ := Prod.mk.inj values
  obtain ⟨⟨client, socket⟩, here, object⟩ := Option.map_eq_some_iff.mp object
  obtain ⟨remains, silent⟩ := Prod.mk.inj object
  obtain ⟨later, second, there⟩ := Option.map_eq_some_iff.mp values
  refine ⟨serving, later, client, socket, second, here, remains, there, ?_⟩
  exact unheard_until_reported threaded_new (reaches_of_follow first) second here
    (of_decide_eq_true letGo) (by simp [resting]) (of_decide_eq_true silent)

end Serving

end SynapTCP
