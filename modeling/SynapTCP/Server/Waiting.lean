import SynapTCP.Server.Roster

namespace SynapTCP

open Data

/-! # Waiting for threads

Behind `pthread_create` the dispatch of `eventCheck` waits for the signal of the new
thread, and `~ClientCollection` waits for the end of a thread that still runs.
-/

/-- The start of a thread, for whose signal the call waits, or the wait for its end. -/
def Effect.isWait : Effect → Bool
  | .create _ _ | .join _ => true
  | .act _ | .fdSet _ | .select _ | .connectionRequest _ _ | .reception _ _ _ => false

/-- Whether the new thread signals once it is waited for, and the thread whose end is
waited for comes to it. -/
structure Waits where
  signalled : Bool
  ended : Bool

def Effect.comes (waits : Waits) : Effect → Bool
  | .create _ _ => waits.signalled
  | .join _ => waits.ended
  | .act _ | .fdSet _ | .select _ | .connectionRequest _ _ | .reception _ _ _ => true

namespace Server

variable {server middle after : Server} {outcomes : Outcomes} {node head : CollectionId}
  {client : ClientId} {socket : Socket} {connFd : Int} {collection : ClientCollection}
  {ring : List CollectionId} {fuel th : Nat}

def waits (log : List Effect) : List Effect := log.filter Effect.isWait

/-- The wait for a thread that runs. -/
def joinOf (th : Nat) : List Effect := if 0 < th then [.join th] else []

/-- The nodes of the client all have this thread. -/
def HasThread (server : Server) (client : ClientId) (th : Nat) : Prop :=
  ∀ node collection, server.collections.get? node = some collection →
    collection.client = client → collection.th = th

theorem HasThread.link (has : server.HasThread client th)
    (found : server.collections.get? node = some collection) (next : Option CollectionId) :
    HasThread { server with
      collections := server.collections.set node { collection with next } } client th := by
  intro other changed foundOther owner
  have foundOther : (server.collections.set node { collection with next }).get? other =
      some changed := foundOther
  by_cases same : other = node
  · rw [same, Arena.get?_set_self found] at foundOther
    cases foundOther
    exact has node collection found owner
  · rw [Arena.get?_set_of_ne same] at foundOther
    exact has other changed foundOther owner

/-- The wait for the signal of a thread that is started. -/
def createOf (node : CollectionId) : Option Nat → List Effect
  | none => []
  | some th => [.create th node]

/-- The scan is reached, a client with bytes is asked, and a thread is started for it. -/
def Starts (server : Server) (outcomes : Outcomes) : Prop :=
  server.Looks outcomes ∧ (∃ client, server.asked outcomes = some client) ∧
    outcomes.inputBytes = true ∧ server.Threaded ∧ outcomes.thread ≠ none

/-- The client that is given up has a thread that runs. -/
def Joins (server : Server) (outcomes : Outcomes) : Prop :=
  ∃ client, server.dropped outcomes = some client ∧ ∃ node collection,
    server.collections.get? node = some collection ∧ collection.client = client ∧ 0 < collection.th

theorem Sound.hasThread (sound : server.Sound ring)
    (found : server.collections.get? node = some collection) :
    server.HasThread collection.client collection.th := by
  intro other changed foundOther owner
  have ownsOther := Sound.clientAt_of_get? foundOther
  rw [owner] at ownsOther
  rw [sound.unique ownsOther (Sound.clientAt_of_get? found), found] at foundOther
  cases foundOther
  rfl

/-- Closing pipes leaves the threads to the nodes. -/
theorem Reaped.thread (reaped : Reaped outcomes server after)
    (found : after.collections.get? node = some collection) :
    ∃ before, server.collections.get? node = some before ∧ before.client = collection.client ∧
      before.th = collection.th := by
  rcases reaped.nodes node with same | ⟨before, foundBefore, -, -, closed⟩
  · exact ⟨collection, same.symm.trans found, rfl, rfl⟩
  · cases closed.symm.trans found
    exact ⟨before, foundBefore, rfl, rfl⟩

theorem joinOf_join : (∃ th', Effect.join th' ∈ joinOf th) ↔ 0 < th := by
  unfold joinOf
  split
  · rename_i runs
    simp [runs]
  · rename_i none
    simp [none]

theorem joinOf_create {th' : Nat} : Effect.create th' node ∉ joinOf th := by
  unfold joinOf
  split <;> simp

theorem createOf_create {thread : Option Nat} :
    (∃ th node', Effect.create th node' ∈ createOf node thread) ↔ thread ≠ none := by
  cases thread <;> simp [createOf]

theorem createOf_join {thread : Option Nat} {th' : Nat} :
    Effect.join th' ∉ createOf node thread := by
  cases thread <;> simp [createOf]

/-- What a check adds is the wait for a thread that it starts, and that for the end of the
thread of a client that it gives up. -/
def Awaits (server : Server) (outcomes : Outcomes) (log : List Effect) : Prop :=
  ∃ new, waits log = waits server.log ++ new ∧
    ((∃ th node, Effect.create th node ∈ new) ↔ server.Starts outcomes) ∧
    ((∃ th, Effect.join th ∈ new) ↔ server.Joins outcomes)

theorem joins_iff (sound : server.Sound ring)
    (found : server.collections.get? node = some collection)
    (dropped : server.dropped outcomes = some collection.client) :
    server.Joins outcomes ↔ 0 < collection.th := by
  constructor
  · rintro ⟨client, isDropped, other, changed, foundOther, owner, runs⟩
    cases dropped.symm.trans isDropped
    rw [sound.hasThread found other changed foundOther owner] at runs
    exact runs
  · intro runs
    exact ⟨collection.client, dropped, node, collection, found, rfl, runs⟩

namespace Awaits

variable {log : List Effect}

theorem nothing (waited : waits log = waits server.log) (unstarted : ¬ server.Starts outcomes)
    (unjoined : ¬ server.Joins outcomes) : server.Awaits outcomes log :=
  ⟨[], by rw [waited, List.append_nil], iff_of_false (by simp) unstarted,
    iff_of_false (by simp) unjoined⟩

theorem removal (sound : server.Sound ring)
    (found : server.collections.get? node = some collection)
    (dropped : server.dropped outcomes = some collection.client)
    (unstarted : ¬ server.Starts outcomes)
    (waited : waits log = waits server.log ++ joinOf collection.th) :
    server.Awaits outcomes log := by
  refine ⟨joinOf collection.th, waited, iff_of_false (by simp [joinOf_create]) unstarted, ?_⟩
  rw [joins_iff sound found dropped]
  exact joinOf_join

theorem starting (starts : server.Starts outcomes ↔ outcomes.thread ≠ none)
    (unjoined : ¬ server.Joins outcomes)
    (waited : waits log = waits server.log ++ createOf node outcomes.thread) :
    server.Awaits outcomes log :=
  ⟨createOf node outcomes.thread, waited, createOf_create.trans starts.symm,
    iff_of_false (by simp [createOf_join]) unjoined⟩

end Awaits

end Server

end SynapTCP
