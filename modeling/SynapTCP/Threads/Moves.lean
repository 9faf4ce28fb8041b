import SynapTCP.Threads.Events

namespace SynapTCP

open Data

/-! # The server and its reception threads

`eventCheck` in the three parts between which the threads go on: up to `select`,
from there to the end of the scan, and what is done with the client that it
selected.  A thread goes on as `receptionThreadHandler` of `src/tcp-server.cpp`
does: it signals its start, runs the handler, writes its byte with the mutex of
its node locked, and unlocks.
-/

/-- Where the thread that calls `eventCheck` is. -/
inductive Stage where
  | resting
  | selecting (fds : List Int)
  | selected (scanning : Scanning)
deriving DecidableEq

abbrev Thread := Worker CollectionId

structure Serving where
  server : Server
  threads : List Thread
  stage : Stage
deriving DecidableEq

inductive Move where
  /-- `eventCheck` is called and comes to `select`. -/
  | begin
  /-- `select` returns and the scan is done. -/
  | look (outcomes : Outcomes)
  /-- The rest of `eventCheck`. -/
  | act (outcomes : Outcomes)
  /-- `acceptNewClient`, as the connection request handler calls it. -/
  | accept (outcomes : Outcomes)
  /-- The thread signals that it runs. -/
  | start (i : Nat)
  /-- The handler works on its client, which it leaves as `socket`. -/
  | handle (i : Nat) (socket : Socket)
  /-- Behind the handler, up to the byte. -/
  | finish (i : Nat) (now : TimeVal)
  /-- The mutex of the node is unlocked. -/
  | leave (i : Nat)

namespace Serving

def begin (serving : Serving) : Option Serving :=
  let server := serving.server.lock
  if server.sockFd ≤ 0 then some { serving with server := server.unlock }
  else do
    let filled ← server.watchedSet
    let server ← server.fillSet
    some { serving with server, stage := .selecting filled.2 }

def look (serving : Serving) (outcomes : Outcomes) : Option Serving :=
  if outcomes.ret < 0 then
    some { serving with server := serving.server.unlock, stage := .resting }
  else if serving.server.sockFd ∈ outcomes.readfds then
    (serving.server.connectRequest outcomes).map fun requested =>
      { serving with server := requested.2, stage := .resting }
  else
    (serving.server.scan outcomes).map fun scanned =>
      { server := scanned.1
        threads := serving.threads.map (Worker.collected serving.server.seat scanned.1.seat)
        stage := .selected scanned.2 }

/-- What the selected client leads to. -/
def outcome (server : Server) (outcomes : Outcomes) : Scanning → Option Server
  | .clientEvent node => (server.clientEvent node outcomes).map Prod.snd
  | .idle node tmp => (server.dropIdle node tmp outcomes).map Prod.snd
  | .nothing => some server.unlock

/-- A thread for each node for which one was created. -/
def act (serving : Serving) (outcomes : Outcomes) (scanning : Scanning) : Option Serving :=
  (outcome serving.server outcomes scanning).map fun server =>
    { server
      threads := serving.threads ++
        ((Server.created server.log).drop (Server.created serving.server.log).length).map
          (⟨·, .starting, .unwritten⟩)
      stage := .resting }

def accept (serving : Serving) (outcomes : Outcomes) : Option Serving :=
  (serving.server.acceptNewClient outcomes).map fun added => { serving with server := added.2 }

/-- A thread reads the node that it was started for. -/
def onThread (serving : Serving) (i : Nat)
    (step : Thread → ClientCollection → Option (Server × Thread)) : Option Serving := do
  let thread ← serving.threads[i]?
  let collection ← serving.server.collections.get? thread.place
  let stepped ← step thread collection
  some { serving with server := stepped.1, threads := serving.threads.set i stepped.2 }

def start (serving : Serving) (i : Nat) : Option Serving :=
  serving.onThread i fun thread _ => some (serving.server, { thread with phase := .handling })

def handle (serving : Serving) (i : Nat) (socket : Socket) : Option Serving :=
  serving.onThread i fun thread collection =>
    (serving.server.clients.get? collection.client).map fun _ =>
      ({ serving.server with
        clients := serving.server.clients.set collection.client socket }, thread)

def finish (serving : Serving) (i : Nat) (now : TimeVal) : Option Serving :=
  serving.onThread i fun thread collection =>
    some ({ serving.server with
        collections := serving.server.collections.set thread.place
          { collection with th := 0, lastActivity := now } },
      { thread with
        phase := .finishing
        byte := if collection.pipe.2 ≠ 0 then .written else thread.byte })

def leave (serving : Serving) (i : Nat) : Option Serving :=
  serving.onThread i fun thread _ => some (serving.server, { thread with phase := .ended })

/-- The three parts make up a call of `eventCheck`. -/
def checked (serving : Serving) (outcomes : Outcomes) : Option Serving :=
  serving.begin.bind fun begun => match begun.stage with
    | .selecting _ => (begun.look outcomes).bind fun looked => match looked.stage with
      | .selected scanning => looked.act outcomes scanning
      | _ => some looked
    | _ => some begun

theorem eventCheck_eq (serving : Serving) (resting : serving.stage = .resting)
    (outcomes : Outcomes) :
    (serving.server.eventCheck outcomes).map Prod.snd =
      (serving.checked outcomes).map Serving.server := by
  obtain ⟨server, threads, stage⟩ := serving
  cases resting
  unfold checked begin Server.eventCheck Server.fillSet
  dsimp only
  split
  · rfl
  · cases server.lock.watchedSet with
    | none => rfl
    | some filled =>
        simp only [bind, Option.map_some, Option.bind_some]
        unfold look
        dsimp only
        split
        · rfl
        · split
          · cases Server.connectRequest _ outcomes <;> rfl
          · cases Server.scan _ outcomes with
            | none => rfl
            | some scanned =>
                obtain ⟨after, scanning⟩ := scanned
                simp only [Option.bind_some, Option.map_some, act, Option.map_map]
                cases scanning with
                | clientEvent node =>
                    show Option.map Prod.snd (after.clientEvent node outcomes) =
                      Option.map _ (Option.map Prod.snd (after.clientEvent node outcomes))
                    cases after.clientEvent node outcomes <;> rfl
                | idle node tmp =>
                    show Option.map Prod.snd (after.dropIdle node tmp outcomes) =
                      Option.map _ (Option.map Prod.snd (after.dropIdle node tmp outcomes))
                    cases after.dropIdle node tmp outcomes <;> rfl
                | nothing => rfl

end Serving

namespace Move

def run (serving : Serving) : Move → Option Serving
  | .begin => serving.begin
  | .look outcomes => serving.look outcomes
  | .act outcomes =>
      match serving.stage with
      | .selected scanning => serving.act outcomes scanning
      | _ => none
  | .accept outcomes => serving.accept outcomes
  | .start i => serving.start i
  | .handle i socket => serving.handle i socket
  | .finish i now => serving.finish i now
  | .leave i => serving.leave i

/-- No client and no pipe has the descriptor. -/
def Fresh (serving : Serving) (fd : Int) : Prop :=
  ∀ node < serving.server.collections.fresh, ¬ Names serving.server.seat node fd

/-- No call is under way; one that started a thread waits for it to run. -/
def Resting (serving : Serving) : Prop :=
  serving.stage = .resting ∧ ∀ thread ∈ serving.threads, thread.phase ≠ .starting

/-- What `select` can leave in the set: nothing but what was put in, and the end
of a pipe only with a byte in it. -/
def Reports (serving : Serving) (fds readfds : List Int) : Prop :=
  (∀ fd ∈ readfds, fd ∈ fds ∧ 0 < fd) ∧
    ∀ node < serving.server.collections.fresh, ∀ seat ∈ serving.server.seat node,
      seat.Marked → seat.pipe.1 ∈ readfds →
        ∃ thread ∈ serving.threads, thread.place = node ∧ thread.byte = .written

/-- The thread that is in the phase. -/
def InPhase (serving : Serving) (i : Nat) (phase : Phase) : Prop :=
  ∃ thread ∈ serving.threads[i]?, thread.phase = phase

def LookPossible (serving : Serving) (outcomes : Outcomes) : Stage → Prop
  | .selecting fds => Reports serving fds outcomes.readfds ∧ Fresh serving outcomes.connFd
  | _ => False

def ActPossible (serving : Serving) (outcomes : Outcomes) : Stage → Prop
  | .selected _ => ∀ pipe ∈ outcomes.pipe, Fresh serving pipe.1
  | _ => False

/-- The moves that the calls and the system allow. -/
def Possible (serving : Serving) : Move → Prop
  | .begin => Resting serving
  | .look outcomes => LookPossible serving outcomes serving.stage
  | .act outcomes => ActPossible serving outcomes serving.stage
  | .accept outcomes => Resting serving ∧ Fresh serving outcomes.connFd
  | .start i => InPhase serving i .starting
  | .handle i socket => InPhase serving i .handling ∧
      ∀ thread ∈ serving.threads[i]?, ∀ seat ∈ serving.server.seat thread.place,
        socket.sockFd = seat.fd ∨ socket.sockFd = -1
  | .finish i _ => InPhase serving i .handling
  | .leave i => InPhase serving i .finishing

/-- The thread of the node has let go of it. -/
def LetGo (serving : Serving) (node : CollectionId) : Prop :=
  ∀ thread ∈ serving.threads, thread.place = node → ¬ thread.Live

/-- No thread of the node whose byte was consumed is still before its unlock. -/
def Unlocked (serving : Serving) (node : CollectionId) : Prop :=
  ∀ thread ∈ serving.threads, thread.place = node → thread.byte = .consumed → ¬ thread.Live

/-- The node and its client can be deleted. -/
def SparesNode (serving : Serving) (node : CollectionId) : Prop :=
  Unlocked serving node ∧
    ∀ client, serving.server.clientAt node = some client → ¬ serving.server.DropsHead client

/-- `pipe` and `pthread_create` succeed both or fail both. -/
def StartsWhole (outcomes : Outcomes) : Prop :=
  match outcomes.pipe, outcomes.thread with
  | some pipe, some _ => 0 < pipe.1 ∧ 0 < pipe.2
  | none, none => True
  | _, _ => False

/-- What is asked of the rest of a call. -/
def ActSpares (serving : Serving) (outcomes : Outcomes) : Stage → Prop
  | .selected (.clientEvent node) =>
      if outcomes.inputBytes = false then SparesNode serving node
      else serving.server.Threaded →
        StartsWhole outcomes ∧ (outcomes.thread ≠ none → Unlocked serving node)
  | .selected (.idle node _) => SparesNode serving node
  | _ => True

/-- The conditions under which a move keeps the marks. -/
def Spares (serving : Serving) : Move → Prop
  | .look outcomes => outcomes.connFd < 65535
  | .accept outcomes => outcomes.connFd < 65535
  | .act outcomes => ActSpares serving outcomes serving.stage
  | _ => True

instance (serving : Serving) (fd : Int) : Decidable (Fresh serving fd) :=
  inferInstanceAs (Decidable (∀ node < serving.server.collections.fresh, _))

instance (serving : Serving) : Decidable (Resting serving) :=
  inferInstanceAs (Decidable (_ ∧ _))

instance (serving : Serving) (fds readfds : List Int) : Decidable (Reports serving fds readfds) :=
  inferInstanceAs (Decidable (_ ∧ ∀ node < serving.server.collections.fresh, _))

instance (serving : Serving) (i : Nat) (phase : Phase) : Decidable (InPhase serving i phase) :=
  inferInstanceAs (Decidable (∃ thread ∈ serving.threads[i]?, _))

instance (serving : Serving) (outcomes : Outcomes) :
    (stage : Stage) → Decidable (LookPossible serving outcomes stage)
  | .selecting _ => inferInstanceAs (Decidable (_ ∧ _))
  | .resting | .selected _ => .isFalse id

instance (serving : Serving) (outcomes : Outcomes) :
    (stage : Stage) → Decidable (ActPossible serving outcomes stage)
  | .selected _ => inferInstanceAs (Decidable (∀ pipe ∈ outcomes.pipe, Fresh serving pipe.1))
  | .resting | .selecting _ => .isFalse id

instance (serving : Serving) : (move : Move) → Decidable (move.Possible serving)
  | .begin => inferInstanceAs (Decidable (Resting serving))
  | .look outcomes => inferInstanceAs (Decidable (LookPossible serving outcomes serving.stage))
  | .act outcomes => inferInstanceAs (Decidable (ActPossible serving outcomes serving.stage))
  | .accept _ => inferInstanceAs (Decidable (_ ∧ _))
  | .start i => inferInstanceAs (Decidable (InPhase serving i .starting))
  | .handle i socket => inferInstanceAs (Decidable (InPhase serving i .handling ∧
      ∀ thread ∈ serving.threads[i]?, ∀ seat ∈ serving.server.seat thread.place,
        socket.sockFd = seat.fd ∨ socket.sockFd = -1))
  | .finish i _ => inferInstanceAs (Decidable (InPhase serving i .handling))
  | .leave i => inferInstanceAs (Decidable (InPhase serving i .finishing))

instance (serving : Serving) (node : CollectionId) : Decidable (LetGo serving node) :=
  inferInstanceAs (Decidable (∀ thread ∈ serving.threads, _))

instance (serving : Serving) (node : CollectionId) : Decidable (Unlocked serving node) :=
  inferInstanceAs (Decidable (∀ thread ∈ serving.threads, _))

instance (serving : Serving) (node : CollectionId) : Decidable (SparesNode serving node) :=
  inferInstanceAs (Decidable (_ ∧ ∀ client ∈ serving.server.clientAt node, _))

instance (outcomes : Outcomes) : Decidable (StartsWhole outcomes) := by
  unfold StartsWhole
  cases outcomes.pipe <;> cases outcomes.thread <;> infer_instance

instance (serving : Serving) (outcomes : Outcomes) :
    (stage : Stage) → Decidable (ActSpares serving outcomes stage)
  | .selected (.clientEvent node) => inferInstanceAs (Decidable
      (if outcomes.inputBytes = false then SparesNode serving node
      else serving.server.Threaded →
        StartsWhole outcomes ∧ (outcomes.thread ≠ none → Unlocked serving node)))
  | .selected (.idle node _) => inferInstanceAs (Decidable (SparesNode serving node))
  | .selected .nothing | .resting | .selecting _ => .isTrue trivial

instance (serving : Serving) : (move : Move) → Decidable (move.Spares serving)
  | .look outcomes => inferInstanceAs (Decidable (outcomes.connFd < 65535))
  | .accept outcomes => inferInstanceAs (Decidable (outcomes.connFd < 65535))
  | .act outcomes => inferInstanceAs (Decidable (ActSpares serving outcomes serving.stage))
  | .begin | .start _ | .handle _ _ | .finish _ _ | .leave _ => .isTrue trivial

end Move

end SynapTCP
