import SynapTCP.Server.Configuration
import SynapTCP.Server.Settings
import SynapTCP.Threads.Descriptors

namespace SynapTCP

open Data

/-! # The descriptors over whole runs

What happens to a server with its threads, and with what its owner and a handler
without a thread do between two checks for events.
-/

variable {serving later : Serving} {server after : Server} {ring : List CollectionId}
  {node : CollectionId} {outcomes : Outcomes} {fd : Int}

namespace Server

/-- The arguments of `FD_ISSET` behind `select`. -/
def tested (server : Server) (outcomes : Outcomes) : List Int :=
  if outcomes.ret < 0 then []
  else if server.sockFd ∈ outcomes.readfds then [server.sockFd]
  else match server.clientList with
    | none => [server.sockFd]
    | some head => server.sockFd ::
        ((server.scanLoopTested outcomes none server.rounds head).map Prod.fst).getD []

theorem given_of_tested (tested : fd ∈ server.tested outcomes) : server.Given fd := by
  unfold Server.tested at tested
  split at tested
  · contradiction
  · split at tested
    · exact .inl (List.mem_singleton.mp tested)
    · split at tested
      · exact .inl (List.mem_singleton.mp tested)
      · rename_i head isHead
        rcases List.mem_cons.mp tested with own | inScan
        · exact .inl own
        · cases ran : server.scanLoopTested outcomes none server.rounds head with
          | none =>
              rw [ran] at inScan
              contradiction
          | some result =>
              rw [ran] at inScan
              exact .inr (scanLoopTested_has ran fd inScan)

theorem acceptNewClient_seats {answer : Bool} (sound : server.Sound ring)
    (inRange : outcomes.connFd < 65535)
    (result : server.acceptNewClient outcomes = some (answer, after)) :
    after.seat = server.seat ∨ server.Admits outcomes ∧ 0 < outcomes.connFd ∧
      ∃ node, after.seat = Function.update server.seat node (some ⟨outcomes.connFd, 0, 0⟩) := by
  rcases acceptNewClient_grows sound inRange result with same | ⟨node, absent, positive, added⟩
  · exact .inl same
  · right
    refine ⟨?_, positive, node, added⟩
    by_contra refused
    have nothing := acceptNewClient_refuses positive refused result
    have here : after.seat node = some ⟨outcomes.connFd, 0, 0⟩ := by
      rw [added, Function.update_self]
    obtain ⟨collection, -, found, -⟩ := seat_eq_some here
    rw [nothing] at found
    obtain ⟨seat, there⟩ := sound.seat_of_mem ((sound.live node).mpr ⟨collection, found⟩)
    rw [absent] at there
    contradiction

/-- The descriptor that `accept` gives, if a client is added for it. -/
def TakesSmall (server : Server) (outcomes : Outcomes) : Prop :=
  outcomes.connFd < 65535 ∧ (server.Admits outcomes → outcomes.connFd < 1024)

instance (server : Server) (outcomes : Outcomes) : Decidable (server.Accepts outcomes) :=
  inferInstanceAs (Decidable (_ ∧ _ ∧ _ ∧ _))

instance (server : Server) (outcomes : Outcomes) : Decidable (server.Secures outcomes) :=
  inferInstanceAs (Decidable (_ → _))

instance (server : Server) (outcomes : Outcomes) : Decidable (server.Admits outcomes) :=
  inferInstanceAs (Decidable (_ ∧ _ ∧ server.Secures outcomes))

instance (server : Server) (outcomes : Outcomes) : Decidable (server.TakesSmall outcomes) :=
  inferInstanceAs (Decidable (_ ∧ (server.Admits outcomes → _)))

end Server

/-! ## What happens -/

inductive Happening where
  | move (part : Move)
  /-- A handler that has no thread works on its client, which it leaves as `socket`. -/
  | handled (node : CollectionId) (socket : Socket)
  | removeClient (client : Option ClientId) (outcomes : Outcomes)
  | setMaximumClient (nClient : Int)

namespace Happening

def handle (serving : Serving) (node : CollectionId) (socket : Socket) : Option Serving := do
  let collection ← serving.server.collections.get? node
  let _ ← serving.server.clients.get? collection.client
  some { serving with server := { serving.server with
    clients := serving.server.clients.set collection.client socket } }

def run (serving : Serving) : Happening → Option Serving
  | .move part => part.run serving
  | .handled node socket => handle serving node socket
  | .removeClient client outcomes =>
      (serving.server.removeClient client outcomes).map fun removed =>
        { serving with server := removed.2 }
  | .setMaximumClient nClient =>
      some { serving with server := (serving.server.setMaximumClient nClient).2 }

/-- A handler leaves its client with its descriptor, or without one. -/
def Leaves (serving : Serving) (node : CollectionId) (socket : Socket) : Prop :=
  ∀ seat ∈ serving.server.seat node, socket.sockFd = seat.fd ∨ socket.sockFd = -1

/-- A handler does not close the connection of its client. -/
def Keeps (serving : Serving) (node : CollectionId) (socket : Socket) : Prop :=
  ∀ seat ∈ serving.server.seat node, socket.sockFd = seat.fd

def Possible (serving : Serving) : Happening → Prop
  | .move part => part.Possible serving
  | .handled node socket => serving.stage = .resting ∧ Leaves serving node socket
  | .removeClient _ _ | .setMaximumClient _ => serving.stage = .resting

/-- The client goes, and is not the head of a longer list. -/
def Spares (server : Server) (node : CollectionId) : Prop :=
  ∀ client ∈ server.clientAt node, ¬ server.DropsHead client

/-- What the rest of a call gives to the clients. -/
def ActInRange (server : Server) (outcomes : Outcomes) : Stage → Prop
  | .selected (.clientEvent node) =>
      if outcomes.inputBytes = false then Spares server node
      else server.Threaded → ∀ pipe ∈ outcomes.pipe, pipe.1 < 1024
  | .selected (.idle node _) => Spares server node
  | _ => True

/-- The conditions under which the descriptors stay in the range of `fd_set`. -/
def InRange (serving : Serving) : Happening → Prop
  | .move .begin => serving.server.Covers
  | .move (.look outcomes) => serving.server.Accepts outcomes → serving.server.TakesSmall outcomes
  | .move (.act outcomes) => ActInRange serving.server outcomes serving.stage
  | .move (.accept outcomes) => serving.server.TakesSmall outcomes
  | .move (.handle i socket) => ∀ thread ∈ serving.threads[i]?, Keeps serving thread.place socket
  | .move _ => True
  | .handled node socket => Keeps serving node socket
  | .removeClient client _ => ∀ dropped ∈ client, ¬ serving.server.DropsHead dropped
  | .setMaximumClient _ => True

instance (serving : Serving) (node : CollectionId) (socket : Socket) :
    Decidable (Leaves serving node socket) :=
  inferInstanceAs (Decidable (∀ seat ∈ serving.server.seat node, _))

instance (serving : Serving) (node : CollectionId) (socket : Socket) :
    Decidable (Keeps serving node socket) :=
  inferInstanceAs (Decidable (∀ seat ∈ serving.server.seat node, _))

instance (server : Server) (node : CollectionId) : Decidable (Spares server node) :=
  inferInstanceAs (Decidable (∀ client ∈ server.clientAt node, _))

instance (serving : Serving) : (happening : Happening) → Decidable (happening.Possible serving)
  | .move part => inferInstanceAs (Decidable (part.Possible serving))
  | .handled _ _ => inferInstanceAs (Decidable (_ ∧ _))
  | .removeClient _ _ | .setMaximumClient _ =>
      inferInstanceAs (Decidable (serving.stage = .resting))

instance (server : Server) (outcomes : Outcomes) :
    (stage : Stage) → Decidable (ActInRange server outcomes stage)
  | .selected (.clientEvent node) => inferInstanceAs (Decidable
      (if outcomes.inputBytes = false then Spares server node
      else server.Threaded → ∀ pipe ∈ outcomes.pipe, pipe.1 < 1024))
  | .selected (.idle node _) => inferInstanceAs (Decidable (Spares server node))
  | .selected .nothing | .resting | .selecting _ => .isTrue trivial

instance (serving : Serving) : (happening : Happening) → Decidable (happening.InRange serving)
  | .move .begin => inferInstanceAs (Decidable serving.server.Covers)
  | .move (.look outcomes) => inferInstanceAs
      (Decidable (serving.server.Accepts outcomes → serving.server.TakesSmall outcomes))
  | .move (.act outcomes) =>
      inferInstanceAs (Decidable (ActInRange serving.server outcomes serving.stage))
  | .move (.accept outcomes) => inferInstanceAs (Decidable (serving.server.TakesSmall outcomes))
  | .move (.handle i socket) => inferInstanceAs
      (Decidable (∀ thread ∈ serving.threads[i]?, Keeps serving thread.place socket))
  | .move (.start _) | .move (.finish _ _) | .move (.leave _) | .setMaximumClient _ =>
      .isTrue trivial
  | .handled node socket => inferInstanceAs (Decidable (Keeps serving node socket))
  | .removeClient client _ => inferInstanceAs
      (Decidable (∀ dropped ∈ client, ¬ serving.server.DropsHead dropped))

end Happening

/-- The descriptors of a client that `FD_SET` takes. -/
structure Data.Seat.Fits (seat : Seat) : Prop where
  nonneg : 0 ≤ seat.fd
  small : seat.fd < 1024
  end_small : seat.pipe.1 < 1024

/-- What is known between the parts of `eventCheck`. -/
def Stage.InRange (server : Server) (ring : List CollectionId) : Stage → Prop
  | .resting => True
  | .selecting fds => 0 < server.sockFd ∧ (∀ fd ∈ fds, server.Given fd) ∧
      ∃ nfds, Server.nfds server.log = some nfds ∧ ∀ fd, server.Given fd → fd < nfds
  | .selected scanning => server.Selects ring scanning

namespace Serving

structure InRange (serving : Serving) (ring : List CollectionId) : Prop where
  sound : serving.server.Sound ring
  own : serving.server.sockFd < 1024
  fits : ∀ node seat, serving.server.seat node = some seat → seat.Fits
  stage : serving.stage.InRange serving.server ring

theorem InRange.small (inRange : serving.InRange ring) (given : serving.server.Given fd) :
    fd < 1024 := by
  rcases given with own | ⟨node, seat, here, own | ⟨-, end_⟩⟩
  · rw [own]
    exact inRange.own
  · rw [own]
    exact (inRange.fits node seat here).small
  · rw [end_]
    exact (inRange.fits node seat here).end_small

theorem InRange.nonneg (inRange : serving.InRange ring) (listens : 0 < serving.server.sockFd)
    (given : serving.server.Given fd) : 0 ≤ fd := by
  rcases given with own | ⟨node, seat, here, own | ⟨marked, end_⟩⟩
  · omega
  · rw [own]
    exact (inRange.fits node seat here).nonneg
  · rw [end_]
    exact Int.le_of_lt marked

/-- The clients are as they were for `select`. -/
theorem InRange.of_steady {threads : List Thread} (inRange : serving.InRange ring)
    (same : Server.SameRing serving.server after) (sockFd : after.sockFd = serving.server.sockFd)
    (seats : after.seat = serving.server.seat) (log : after.log = serving.server.log) :
    ({ serving with server := after, threads } : Serving).InRange ring := by
  have given : ∀ fd, after.Given fd ↔ serving.server.Given fd := by
    intro fd
    unfold Server.Given Server.Has
    rw [sockFd, seats]
  refine ⟨same.sound inRange.sound, ?_, ?_, ?_⟩
  · show after.sockFd < 1024
    rw [sockFd]
    exact inRange.own
  · show ∀ node seat, after.seat node = some seat → _
    rw [seats]
    exact inRange.fits
  · have stage := inRange.stage
    show Stage.InRange after ring serving.stage
    cases isStage : serving.stage with
    | resting => trivial
    | selecting fds =>
        rw [isStage] at stage
        obtain ⟨listens, inSet, nfds, isNfds, below⟩ := stage
        refine ⟨by rw [sockFd]; exact listens, fun fd member => (given fd).mpr (inSet fd member),
          nfds, by rw [log]; exact isNfds, fun fd isGiven => below fd ((given fd).mp isGiven)⟩
    | selected scanning =>
        rw [isStage] at stage
        exact Server.Selects.congr same.symm stage

theorem InRange.rest {longer : List CollectionId} {threads : List Thread}
    (inRange : serving.InRange ring) (sound : after.Sound longer)
    (config : after.config = serving.server.config)
    (fits : ∀ node seat, after.seat node = some seat → seat.Fits) :
    ({ server := after, threads, stage := .resting } : Serving).InRange longer := by
  have sockFd : after.sockFd = serving.server.sockFd := congrArg (fun config => config.sockFd) config
  refine ⟨sound, ?_, fits, trivial⟩
  show after.sockFd < 1024
  rw [sockFd]
  exact inRange.own

/-- One client is added, changed or removed. -/
theorem InRange.fits_update {changed : Option Seat} (inRange : serving.InRange ring)
    (fits : ∀ seat ∈ changed, seat.Fits) :
    ∀ other here, Function.update serving.server.seat node changed other = some here →
      here.Fits := by
  intro other here found
  by_cases same : other = node
  · rw [same, Function.update_self] at found
    exact fits here found
  · rw [Function.update_of_ne same] at found
    exact inRange.fits other here found

/-! ## The parts of a call -/

def Stays (later : Serving) : Prop := ∃ ring, later.InRange ring

theorem InRange.begin (inRange : serving.InRange ring) (resting : serving.stage = .resting)
    (covers : serving.server.Covers) (ran : serving.begin = some later) : later.Stays := by
  have soundLock := Server.SameRing.lock.sound inRange.sound
  unfold Serving.begin at ran
  dsimp only at ran
  split at ran
  · cases ran
    refine ⟨ring, Server.SameRing.unlock.sound soundLock, inRange.own, inRange.fits, ?_⟩
    show Stage.InRange _ ring serving.stage
    rw [resting]
    trivial
  · rename_i listens
    obtain ⟨filled, isFilled, ran⟩ := Option.bind_eq_some_iff.mp ran
    obtain ⟨after, fills, ran⟩ := Option.bind_eq_some_iff.mp ran
    cases ran
    have small : ∀ fd, serving.server.lock.Given fd → fd < 65536 := by
      intro fd given
      have below : fd < 1024 := inRange.small given
      omega
    have below := fun fd given => @Server.given_lt_nfds serving.server.lock ring soundLock small
      (Int.le_of_lt (Int.not_le.mp listens)) covers fd given
    have nfds := Server.fillSet_nfds soundLock fills
    rw [Server.watchedSet_eq soundLock] at isFilled
    cases isFilled
    rw [Server.fillSet, Server.watchedSet_eq soundLock, Option.map_some] at fills
    cases fills
    refine ⟨ring, (Server.SameRing.of_log _).sound soundLock, inRange.own, inRange.fits, ?_⟩
    exact ⟨Int.not_le.mp listens, fun fd member => Server.given_of_watched member, _, nfds, below⟩

theorem InRange.fits_of_accepted {answer : Bool} (inRange : serving.InRange ring)
    (takes : serving.server.TakesSmall outcomes)
    (accepts : serving.server.acceptNewClient outcomes = some (answer, after)) :
    ∀ node seat, after.seat node = some seat → seat.Fits := by
  rcases Server.acceptNewClient_seats inRange.sound takes.1 accepts with
    same | ⟨admits, positive, node, added⟩
  · rw [same]
    exact inRange.fits
  · rw [added]
    apply inRange.fits_update
    intro seat isSeat
    cases isSeat
    have unopened : (0 : Int) < 1024 := by decide
    exact ⟨Int.le_of_lt positive, takes.2 admits, unopened⟩

theorem InRange.accept (inRange : serving.InRange ring) (resting : serving.stage = .resting)
    (takes : serving.server.TakesSmall outcomes) (ran : serving.accept outcomes = some later) :
    later.Stays := by
  obtain ⟨⟨answer, after⟩, accepts, isLater⟩ := Option.map_eq_some_iff.mp ran
  subst isLater
  obtain ⟨again, same, ranAgain, longer, sound⟩ :=
    Server.acceptNewClient_wellFormed inRange.sound outcomes
  rw [accepts] at ranAgain
  cases ranAgain
  have rests := @InRange.rest serving _ ring longer serving.threads inRange sound
    (Server.acceptNewClient_config accepts) (inRange.fits_of_accepted takes accepts)
  rw [← resting] at rests
  exact ⟨longer, rests⟩

theorem InRange.look {fds : List Int} (inRange : serving.InRange ring)
    (selecting : serving.stage = .selecting fds)
    (takes : serving.server.Accepts outcomes → serving.server.TakesSmall outcomes)
    (ran : serving.look outcomes = some later) : later.Stays := by
  have stage := inRange.stage
  rw [selecting] at stage
  unfold Serving.look at ran
  split at ran
  · cases ran
    exact ⟨ring, inRange.rest (Server.SameRing.unlock.sound inRange.sound) rfl inRange.fits⟩
  · rename_i returned
    split at ran
    · rename_i reported
      obtain ⟨⟨event, after⟩, requests, isLater⟩ := Option.map_eq_some_iff.mp ran
      subst isLater
      obtain ⟨again, same, ranAgain, longer, sound⟩ :=
        Server.connectRequest_wellFormed inRange.sound outcomes
      rw [requests] at ranAgain
      cases ranAgain
      refine ⟨longer, inRange.rest sound (Server.connectRequest_config requests) ?_⟩
      unfold Server.connectRequest at requests
      split at requests
      · cases requests
        exact inRange.fits
      · rename_i direct
        obtain ⟨⟨answer, later⟩, accepts, isAfter⟩ := Option.map_eq_some_iff.mp requests
        cases isAfter
        have taken := takes ⟨stage.1, Int.not_lt.mp returned, reported, direct⟩
        have unlocked : ({ serving with server := serving.server.unlock, stage := .resting } :
            Serving).InRange ring :=
          inRange.rest (Server.SameRing.unlock.sound inRange.sound) rfl inRange.fits
        exact unlocked.fits_of_accepted taken accepts
    · obtain ⟨⟨after, scanning⟩, scans, isLater⟩ := Option.map_eq_some_iff.mp ran
      subst isLater
      obtain ⟨again, last, scansAgain, same, -, selects⟩ :=
        @Server.scan_exists serving.server ring outcomes inRange.sound
      rw [scans] at scansAgain
      cases scansAgain
      obtain ⟨reaped, -, -⟩ := Server.scan_reaps inRange.sound scans
      refine ⟨ring, same.sound inRange.sound, ?_, ?_, Server.Selects.congr same.symm selects⟩
      · show after.sockFd < 1024
        rw [show after.sockFd = serving.server.sockFd from
          congrArg (fun server => server.sockFd) reaped.server]
        exact inRange.own
      · intro node seat here
        obtain ⟨before, found, sameFd, -⟩ := reaped.traces here
        have fits := inRange.fits node before found
        rcases reaped.seat node with kept | ⟨opened, -, -, -, closed⟩
        · rw [show after.seat node = some seat from here, found, Option.some.injEq] at kept
          rw [kept]
          exact fits
        · rw [show after.seat node = some seat from here, Option.some.injEq] at closed
          have unopened : (0 : Int) < 1024 := by decide
          refine ⟨by rw [sameFd]; exact fits.nonneg, by rw [sameFd]; exact fits.small, ?_⟩
          rw [closed]
          exact unopened

theorem InRange.act_of {scanning : Scanning} (inRange : serving.InRange ring)
    (ends : outcome serving.server outcomes scanning = some after)
    (within : after.Within ring) (config : after.config = serving.server.config)
    (fits : ∀ node seat, after.seat node = some seat → seat.Fits)
    (ran : serving.act outcomes scanning = some later) : later.Stays := by
  obtain ⟨left, sound, -⟩ := within
  unfold Serving.act at ran
  rw [ends, Option.map_some] at ran
  cases ran
  exact ⟨left, inRange.rest sound config fits⟩

theorem InRange.act {scanning : Scanning} (inRange : serving.InRange ring)
    (selected : serving.stage = .selected scanning)
    (spares : Happening.ActInRange serving.server outcomes (.selected scanning))
    (ran : serving.act outcomes scanning = some later) : later.Stays := by
  have selects := inRange.stage
  rw [selected] at selects
  cases scanning with
  | clientEvent node =>
      simp only [Happening.ActInRange] at spares
      obtain ⟨seat, here⟩ := inRange.sound.seat_of_mem selects
      have heads : ∀ client, outcomes.inputBytes = false →
          serving.server.clientAt node = some client → ¬ serving.server.DropsHead client := by
        intro client empty
        rw [if_pos empty] at spares
        exact spares client
      obtain ⟨event, after, heard, within⟩ :=
        Server.clientEvent_within inRange.sound selects heads
      have hears := Server.clientEvent_heard inRange.sound here heads heard
      have ends : outcome serving.server outcomes (.clientEvent node) = some after := by
        rw [outcome, heard, Option.map_some]
      refine inRange.act_of ends within (Server.clientEvent_config heard) ?_ ran
      unfold Server.Heard at hears
      split at hears
      · rw [hears.2]
        exact inRange.fits_update (by simp)
      · rename_i bytes
        rw [if_neg bytes] at spares
        split at hears
        · rename_i threaded
          rw [hears.2]
          apply inRange.fits_update
          intro changed isChanged
          cases isChanged
          have fits := inRange.fits node seat here
          refine ⟨fits.nonneg, fits.small, ?_⟩
          cases opened : outcomes.pipe with
          | none =>
              have unopened : (0 : Int) < 1024 := by decide
              exact unopened
          | some pipe => exact spares threaded pipe opened
        · rw [hears.2]
          exact inRange.fits
  | idle node tmp =>
      obtain ⟨event, after, drops, within⟩ :=
        @Server.dropIdle_within serving.server ring node outcomes inRange.sound tmp selects spares
      obtain ⟨-, seats⟩ := Server.dropIdle_seats inRange.sound selects spares drops
      have ends : outcome serving.server outcomes (.idle node tmp) = some after := by
        rw [outcome, drops, Option.map_some]
      refine inRange.act_of ends within (Server.dropIdle_config drops) ?_ ran
      rw [seats]
      exact inRange.fits_update (by simp)
  | nothing =>
      exact inRange.act_of rfl inRange.sound.within.unlock rfl inRange.fits ran

/-! ## Threads, handlers and the owner -/

/-- The node of a thread, and what the step makes of it. -/
theorem onThread_cases {i : Nat} {step : Thread → ClientCollection → Option (Server × Thread)}
    (ran : serving.onThread i step = some later) :
    ∃ thread collection after next, serving.threads[i]? = some thread ∧
      serving.server.collections.get? thread.place = some collection ∧
      step thread collection = some (after, next) ∧
      later = { serving with server := after, threads := serving.threads.set i next } := by
  obtain ⟨thread, there, ran⟩ := Option.bind_eq_some_iff.mp ran
  obtain ⟨collection, found, ran⟩ := Option.bind_eq_some_iff.mp ran
  obtain ⟨⟨after, next⟩, stepped, ran⟩ := Option.bind_eq_some_iff.mp ran
  exact ⟨thread, collection, after, next, there, found, stepped, (Option.some.inj ran).symm⟩

theorem InRange.onThread_self {i : Nat} {next : Thread → Thread} (inRange : serving.InRange ring)
    (ran : serving.onThread i (fun thread _ => some (serving.server, next thread)) = some later) :
    later.Stays := by
  obtain ⟨thread, collection, after, changed, -, -, stepped, isLater⟩ := onThread_cases ran
  cases stepped
  subst isLater
  exact ⟨ring, inRange.of_steady (.refl _) rfl rfl rfl⟩

theorem InRange.finish {i : Nat} {now : TimeVal} (inRange : serving.InRange ring)
    (ran : serving.finish i now = some later) : later.Stays := by
  obtain ⟨thread, collection, after, next, -, found, stepped, isLater⟩ := onThread_cases ran
  cases stepped
  subst isLater
  obtain ⟨socket, owner⟩ := inRange.sound.socket_of_get? found
  let after : Server := { serving.server with
    collections := serving.server.collections.set thread.place
      { collection with th := 0, lastActivity := now } }
  have seats : after.seat = serving.server.seat :=
    Server.seat_of_kept found owner rfl rfl rfl rfl
  exact ⟨ring, @InRange.of_steady serving after ring _ inRange
    (Server.SameRing.of_set found rfl rfl rfl rfl rfl) rfl seats rfl⟩

theorem InRange.keep {threads : List Thread} {collection : ClientCollection}
    {before socket : Socket} (inRange : serving.InRange ring)
    (found : serving.server.collections.get? node = some collection)
    (owner : serving.server.clients.get? collection.client = some before)
    (keeps : Happening.Keeps serving node socket) :
    ({ serving with
      server := { serving.server with
        clients := serving.server.clients.set collection.client socket }
      threads } : Serving).InRange ring := by
  have here := Server.seat_of_get? found owner
  refine inRange.of_steady (.setClient owner socket) rfl ?_ rfl
  rw [inRange.sound.seat_of_setClient found owner, keeps _ here]
  exact Function.update_eq_self_iff.mpr here.symm

theorem InRange.handle {i : Nat} {socket : Socket} (inRange : serving.InRange ring)
    (keeps : ∀ thread ∈ serving.threads[i]?, Happening.Keeps serving thread.place socket)
    (ran : serving.handle i socket = some later) : later.Stays := by
  obtain ⟨thread, collection, after, next, there, found, stepped, isLater⟩ := onThread_cases ran
  obtain ⟨before, owner, same⟩ := Option.map_eq_some_iff.mp stepped
  cases same
  subst isLater
  exact ⟨ring, inRange.keep found owner (keeps thread there)⟩

theorem InRange.handled {socket : Socket} (inRange : serving.InRange ring)
    (keeps : Happening.Keeps serving node socket)
    (ran : Happening.handle serving node socket = some later) : later.Stays := by
  obtain ⟨collection, found, ran⟩ := Option.bind_eq_some_iff.mp ran
  obtain ⟨before, owner, ran⟩ := Option.bind_eq_some_iff.mp ran
  cases ran
  exact ⟨ring, inRange.keep found owner keeps⟩

theorem InRange.removeClient {client : Option ClientId} {removed : Bool × Server}
    (inRange : serving.InRange ring) (resting : serving.stage = .resting)
    (spares : ∀ dropped ∈ client, ¬ serving.server.DropsHead dropped)
    (removes : serving.server.removeClient client outcomes = some removed) :
    ({ serving with server := removed.2 } : Serving).Stays := by
  obtain ⟨answer, after, again, left, sound, -⟩ :=
    @Server.removeClient_within serving.server ring client outcomes inRange.sound spares
  rw [removes] at again
  cases again
  have fits : ∀ node seat, after.seat node = some seat → seat.Fits := by
    by_cases owned : ∃ dropped node, client = some dropped ∧
        serving.server.clientAt node = some dropped
    · obtain ⟨dropped, node, isClient, owned⟩ := owned
      subst isClient
      rw [(Server.removeClient_seats inRange.sound owned (spares dropped rfl) removes).2.2]
      exact inRange.fits_update (by simp)
    · obtain ⟨again, same⟩ := @Server.removeClient_absent serving.server ring client outcomes
        inRange.sound fun dropped isClient node owns => owned ⟨dropped, node, isClient, owns⟩
      rw [removes] at same
      cases same
      exact inRange.fits
  have rests := @InRange.rest serving _ ring left serving.threads inRange sound
    (Server.removeClient_config removes) fits
  rw [← resting] at rests
  exact ⟨left, rests⟩

theorem InRange.setMaximumClient {nClient : Int} (inRange : serving.InRange ring)
    (resting : serving.stage = .resting) :
    ({ serving with server := (serving.server.setMaximumClient nClient).2 } : Serving).Stays := by
  unfold Server.setMaximumClient
  split
  · exact ⟨ring, inRange⟩
  · have same : Server.SameRing serving.server
        { serving.server.lock with maxClient := nClient.toNat.toUInt16 }.unlock :=
      ⟨rfl, rfl, fun _ => rfl, fun _ => rfl⟩
    refine ⟨ring, same.sound inRange.sound, inRange.own, inRange.fits, ?_⟩
    show Stage.InRange _ ring serving.stage
    rw [resting]
    trivial

/-! ## Whole runs -/

theorem InRange.step {happening : Happening} (inRange : serving.InRange ring)
    (possible : happening.Possible serving) (meets : happening.InRange serving)
    (ran : happening.run serving = some later) : later.Stays := by
  cases happening with
  | move part =>
      cases part with
      | begin => exact inRange.begin possible.1 meets ran
      | look outcomes =>
          cases stage : serving.stage with
          | selecting fds => exact inRange.look stage meets ran
          | resting =>
              simp only [Happening.Possible, Move.Possible, stage, Move.LookPossible] at possible
          | selected scanning =>
              simp only [Happening.Possible, Move.Possible, stage, Move.LookPossible] at possible
      | act outcomes =>
          simp only [Happening.run, Move.run] at ran
          simp only [Happening.InRange] at meets
          cases stage : serving.stage with
          | selected scanning =>
              rw [stage] at ran meets
              exact inRange.act stage meets ran
          | resting =>
              rw [stage] at ran
              contradiction
          | selecting fds =>
              rw [stage] at ran
              contradiction
      | accept outcomes => exact inRange.accept possible.1.1 meets ran
      | start i => exact inRange.onThread_self ran
      | handle i socket => exact inRange.handle meets ran
      | finish i now => exact inRange.finish ran
      | leave i => exact inRange.onThread_self ran
  | handled node socket => exact inRange.handled meets ran
  | removeClient client outcomes =>
      obtain ⟨removed, removes, isLater⟩ := Option.map_eq_some_iff.mp ran
      rw [← isLater]
      exact inRange.removeClient possible meets removes
  | setMaximumClient nClient =>
      cases ran
      exact inRange.setMaximumClient possible

/-- One thing that can happen and that meets its condition. -/
def Moves (serving later : Serving) : Prop :=
  ∃ happening : Happening, happening.Possible serving ∧ happening.InRange serving ∧
    happening.run serving = some later

def Arrives : Serving → Serving → Prop := Relation.ReflTransGen Moves

theorem Arrives.stays (arrives : serving.Arrives later) (stays : serving.Stays) : later.Stays := by
  induction arrives with
  | refl => exact stays
  | tail _ moves ih =>
      obtain ⟨happening, possible, meets, ran⟩ := moves
      obtain ⟨ring, inRange⟩ := ih
      exact inRange.step possible meets ran

theorem Stays.of_new (new : server.New) (small : server.sockFd < 1024) : (of server).Stays := by
  obtain ⟨ring, sound⟩ := new.wellFormed
  refine ⟨ring, sound, small, ?_, trivial⟩
  intro node seat here
  have empty : server.seat node = none := by
    apply Server.seat_of_absent
    rw [new.collections, Arena.get?_empty]
  rw [show (of server).server.seat node = server.seat node from rfl, empty] at here
  contradiction

/-- All that the call gives to `FD_SET`, and to `FD_ISSET` whatever `select` returns,
has a place in an `fd_set`, and `select` looks at it. -/
def DescriptorsInRange (serving : Serving) : Prop :=
  ∀ fds, serving.stage = .selecting fds → ∃ nfds, Server.nfds serving.server.log = some nfds ∧
    ∀ outcomes, ∀ fd ∈ fds ++ serving.server.tested outcomes, 0 ≤ fd ∧ fd < 1024 ∧ fd < nfds

theorem Stays.descriptorsInRange (stays : serving.Stays) : serving.DescriptorsInRange := by
  intro fds selecting
  obtain ⟨ring, inRange⟩ := stays
  have stage := inRange.stage
  rw [selecting] at stage
  obtain ⟨listens, inSet, nfds, isNfds, below⟩ := stage
  refine ⟨nfds, isNfds, fun outcomes fd member => ?_⟩
  have given : serving.server.Given fd := by
    rcases List.mem_append.mp member with set | tested
    · exact inSet fd set
    · exact Server.given_of_tested tested
  exact ⟨inRange.nonneg listens given, inRange.small given, below fd given⟩

/-- In every state reached from a new server with a descriptor below 1024, by steps that
meet their conditions: clients are added and pipes opened only with descriptors below
1024, no handler closes its connection, a check starts only when no client with an open
pipe has a descriptor above all of the set, and no head of a longer list is deleted. -/
theorem descriptors_inRange (new : server.New) (small : server.sockFd < 1024)
    (arrives : (of server).Arrives later) : later.DescriptorsInRange :=
  (arrives.stays (.of_new new small)).descriptorsInRange

def befall (serving : Serving) : List Happening → Option Serving
  | [] => some serving
  | happening :: rest =>
      if happening.Possible serving then
        (happening.run serving).bind fun later => later.befall rest
      else none

/-- Each also meets its condition. -/
def abide (serving : Serving) : List Happening → Option Serving
  | [] => some serving
  | happening :: rest =>
      if happening.Possible serving ∧ happening.InRange serving then
        (happening.run serving).bind fun later => later.abide rest
      else none

theorem arrives_of_abide {happenings : List Happening}
    (abides : serving.abide happenings = some later) : serving.Arrives later := by
  induction happenings generalizing serving with
  | nil =>
      cases abides
      exact .refl
  | cons happening rest ih =>
      rw [abide] at abides
      split at abides
      · rename_i meets
        obtain ⟨next, ran, goes⟩ := Option.bind_eq_some_iff.mp abides
        exact (Relation.ReflTransGen.single ⟨happening, meets.1, meets.2, ran⟩).trans (ih goes)
      · contradiction

/-- A client comes and gets a thread with a pipe, and the next check waits for both. -/
theorem descriptors_inRange_threaded :
    ∃ later, (of threaded).abide [.move .begin, .move (.look asking), .move .begin,
        .move (.look heard), .move (.act heard), .move (.start 0), .setMaximumClient 20,
        .move .begin] = some later ∧ later.stage = .selecting [3, 7] ∧
      later.DescriptorsInRange := by
  have abides : ((of threaded).abide [.move .begin, .move (.look asking), .move .begin,
      .move (.look heard), .move (.act heard), .move (.start 0), .setMaximumClient 20,
      .move .begin]).map stage = some (.selecting [3, 7]) := by
    decide +kernel
  obtain ⟨later, abides, stage⟩ := Option.map_eq_some_iff.mp abides
  exact ⟨later, abides, stage,
    descriptors_inRange threaded_new (by decide) (arrives_of_abide abides)⟩

/-- A descriptor above those of an `fd_set` is accepted; a handler closes its connection;
the pipe of a client has lower descriptors than the client. -/
theorem descriptors_out_of_range :
    (∃ later, (of threaded).befall [.move .begin, .move (.look { asking with connFd := 1024 }),
        .move .begin] = some later ∧ ¬ later.DescriptorsInRange) ∧
      (∃ later, (of threaded).befall [.move .begin, .move (.look asking),
        .handled 0 { Socket.new with sockFd := -1 }, .move .begin] = some later ∧
          ¬ later.DescriptorsInRange) ∧
      ∃ later, (of threaded).befall [.move .begin, .move (.look { asking with connFd := 9 }),
        .move .begin, .move (.look { heard with readfds := [9] }), .move (.act heard),
        .move (.start 0), .move .begin] = some later ∧ ¬ later.DescriptorsInRange := by
  refine ⟨?_, ?_, ?_⟩
  · have result : ((of threaded).befall [.move .begin,
        .move (.look { asking with connFd := 1024 }), .move .begin]).map stage =
          some (.selecting [3, 1024]) := by
      decide +kernel
    obtain ⟨later, befalls, stage⟩ := Option.map_eq_some_iff.mp result
    refine ⟨later, befalls, fun inRange => ?_⟩
    obtain ⟨nfds, -, each⟩ := inRange [3, 1024] stage
    obtain ⟨-, small, -⟩ := each asking 1024 (by simp)
    exact absurd small (by decide)
  · have result : ((of threaded).befall [.move .begin, .move (.look asking),
        .handled 0 { Socket.new with sockFd := -1 }, .move .begin]).map stage =
          some (.selecting [3, -1]) := by
      decide +kernel
    obtain ⟨later, befalls, stage⟩ := Option.map_eq_some_iff.mp result
    refine ⟨later, befalls, fun inRange => ?_⟩
    obtain ⟨nfds, -, each⟩ := inRange [3, -1] stage
    obtain ⟨nonneg, -, -⟩ := each asking (-1) (by simp)
    exact absurd nonneg (by decide)
  · have result : ((of threaded).befall [.move .begin, .move (.look { asking with connFd := 9 }),
        .move .begin, .move (.look { heard with readfds := [9] }), .move (.act heard),
        .move (.start 0), .move .begin]).map (fun later =>
          (later.stage, Server.nfds later.server.log, later.server.tested Server.quiet)) =
            some (.selecting [3, 7], some 8, [3, 7, 9]) := by
      decide +kernel
    obtain ⟨later, befalls, values⟩ := Option.map_eq_some_iff.mp result
    obtain ⟨stage, rest⟩ := Prod.mk.inj values
    obtain ⟨isNfds, tests⟩ := Prod.mk.inj rest
    refine ⟨later, befalls, fun inRange => ?_⟩
    obtain ⟨nfds, first, each⟩ := inRange [3, 7] stage
    rw [isNfds, Option.some.injEq] at first
    obtain ⟨-, -, below⟩ := each Server.quiet 9 (by rw [tests]; simp)
    rw [← first] at below
    exact absurd below (by decide)

end Serving

end SynapTCP
