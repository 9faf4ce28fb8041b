import SynapTCP.Data.Contest
import SynapTCP.Locks.Ascending
import SynapTCP.Locks.Returning

namespace SynapTCP

open Data

/-! # Threads on the same objects

Any number of threads, each making one call after another on objects that they share.
-/

/-- The objects from below; what a server makes is above the server. -/
structure Ranking where
  order : Holder → Nat
  above : ∀ i, Owner.MadeAbove fun owner => order (i, owner)

instance : DecidablePred (Resource.IsMutex : Resource Holder → Prop)
  | .mutex _ _ => isTrue trivial
  | .descriptor _ | .connection _ => isFalse not_false

theorem Socket.initServer_nests {order : Unit → Nat} {socket : Socket} {outcomes : ListenOutcomes} :
    Nests Resource.IsMutex (Resource.rank order) (socket.initServer outcomes).acts := by
  have closing : ∀ act ∈ opened outcomes.socket ++
      [Act.release (Resource.descriptor outcomes.socket)], ¬ act.thing.IsMutex := by
    intro act member
    unfold opened at member
    rcases List.mem_append.mp member with opens | closes
    · split at opens
      · rw [List.mem_singleton.mp opens]
        exact not_false
      · contradiction
    · rw [List.mem_singleton.mp closes]
      exact not_false
  have opening : ∀ act ∈ opened outcomes.socket, ¬ act.thing.IsMutex :=
    fun act member => closing act (List.mem_append_left _ member)
  unfold Socket.initServer
  dsimp only
  split
  · exact locked_nests opening
  · split
    · rw [List.append_assoc (lockOf ())]
      exact locked_nests closing
    · split
      · rw [List.append_assoc (lockOf ())]
        exact locked_nests closing
      · exact locked_nests opening

namespace ApiCall

variable {F : Type} [DataFrame F] {world later : World} {ranking : Ranking} {call : ApiCall F}

/-- A `duplicate` goes upwards. -/
def Upwards (ranking : Ranking) : ApiCall F → Prop
  | .duplicate this obj => ranking.order this < ranking.order obj
  | _ => True

/-- The call starts no thread, and gives up no client whose thread runs. -/
def Unwaiting (world : World) : ApiCall F → Prop
  | .eventCheck i outcomes _ => ∀ server, world.serverAt i = some server →
      ¬ server.Starts outcomes ∧ ¬ server.Joins outcomes
  | _ => True

/-- What the call does in one state of the objects between two points at which it holds no
mutex. -/
structure Stretch (call : ApiCall F) (world : World) (acts : List (Act (Resource Holder))) :
    Prop where
  spares : call.Spares world
  unwaiting : call.Unwaiting world
  balanced : Disciplined Resource.IsMutex acts
  part : ∃ later before behind, call.run world = some later ∧
    later.log = world.log ++ (before ++ acts ++ behind) ∧ Disciplined Resource.IsMutex before

/-- What the call does, where the objects may change at every point at which it holds no
mutex. -/
def Does (call : ApiCall F) (acts : List (Act (Resource Holder))) : Prop :=
  ∃ stretches : List (List (Act (Resource Holder))), acts = stretches.flatten ∧
    ∀ stretch ∈ stretches, ∃ world, call.Stretch world stretch

theorem method_nests {i : Nat} {method : Server → Option Server}
    (ran : world.onServer i method = some later)
    (ascends : ∀ server after, world.serverAt i = some server →
      Server.Ascends (fun owner => ranking.order (i, owner)) false server →
        method server = some after → after.Ascends (fun owner => ranking.order (i, owner)) false) :
    ∃ acts, later.log = world.log ++ acts ∧
      Nests Resource.IsMutex (Resource.rank ranking.order) acts := by
  obtain ⟨server, found, called⟩ := Option.bind_eq_some_iff.mp ran
  obtain ⟨after, runs, result⟩ := Option.map_eq_some_iff.mp called
  have nothing : server.trace = [] := by
    unfold Server.trace
    rw [World.serverAt_silent found]
    rfl
  have start : Server.Ascends (fun owner => ranking.order (i, owner)) false server := by
    refine ⟨fun owner lock => ?_, ?_⟩
    · rw [nothing]
      rfl
    · rw [nothing]
      trivial
  have ends := ascends server after found start runs
  refine ⟨_, by rw [← result], ?_⟩
  refine Nests.rename (fun _ _ same => (Prod.mk.inj same).2) ?_
  exact ⟨Server.holds_iff.mp ends.holds, ends.climbs⟩

/-- A call that spares the mutexes gives all of them back and takes them upwards. -/
theorem run_nests (ran : call.run world = some later) (spares : call.Spares world)
    (upwards : call.Upwards ranking) : ∃ acts, later.log = world.log ++ acts ∧
      Nests Resource.IsMutex (Resource.rank ranking.order) acts := by
  have constructed {holder : Holder} : Nests Resource.IsMutex (Resource.rank ranking.order)
      ((Socket.construct Socket.new).actsOf holder) :=
    Call.nests fun _ => Socket.construct_nests
  cases call with
  | constructSocket =>
      cases ran
      exact ⟨_, rfl, constructed⟩
  | constructClient =>
      cases ran
      exact ⟨_, rfl, constructed⟩
  | constructServer memory =>
      cases ran
      exact ⟨_, rfl, constructed⟩
  | onObject holder call outcomes =>
      obtain ⟨socket, found, runs⟩ := Option.bind_eq_some_iff.mp ran
      obtain ⟨after, called, result⟩ := Option.bind_eq_some_iff.mp runs
      refine ⟨_, World.withSocket_log result, ?_⟩
      exact @Call.nests _ ranking.order holder _ _ ⟨(), after.1, after.2⟩ fun _ =>
        SocketCall.run_nests called (spares socket found)
  | duplicate this obj =>
      obtain ⟨socket, _, runs⟩ := Option.bind_eq_some_iff.mp ran
      obtain ⟨other, _, duplicates⟩ := Option.bind_eq_some_iff.mp runs
      obtain ⟨middle, changed, result⟩ := Option.map_eq_some_iff.mp duplicates
      refine ⟨Socket.duplicateActs this obj, ?_, duplicateActs_nests upwards⟩
      rw [← result, World.withSocket_log changed, List.map_nil, List.append_nil]
  | initClient i outcomes => exact absurd spares not_false
  | initServer i outcomes =>
      rw [run] at ran
      refine method_nests ran fun server after _ ascends runs => ?_
      cases runs
      have same : Server.Ascends (fun owner => ranking.order (i, owner)) false
          { server with toSocket := (server.initServer outcomes).socket } :=
        ascends.congr rfl
      exact same.own fun _ => Socket.initServer_nests
  | initializeSSL i =>
      simp only [run] at ran
      split at ran
      · cases ran
        exact ⟨[], (List.append_nil _).symm, .nil⟩
      · cases ran
        exact ⟨[], (List.append_nil _).symm, .nil⟩
      · contradiction
  | setMaximumClient i nClient =>
      rw [run] at ran
      refine method_nests ran fun server after _ ascends runs => ?_
      cases runs
      unfold Server.setMaximumClient
      split
      · exact ascends
      · refine Server.Ascends.unlock ?_
        exact ascends.lock.congr rfl
  | setConnectionRequestHandler i func param =>
      rw [run] at ran
      refine method_nests ran fun server after _ ascends runs => ?_
      cases runs
      unfold Server.setConnectionRequestHandler
      refine Server.Ascends.unlock ?_
      exact ascends.lock.congr rfl
  | setReceptionHandler i func param asThread =>
      rw [run] at ran
      refine method_nests ran fun server after _ ascends runs => ?_
      cases runs
      unfold Server.setReceptionHandler
      refine Server.Ascends.unlock ?_
      exact ascends.lock.congr rfl
  | acceptNewClient i outcomes =>
      rw [run] at ran
      refine method_nests ran fun server after _ ascends runs => ?_
      obtain ⟨accepted, accepts, result⟩ := Option.map_eq_some_iff.mp runs
      cases result
      exact ascends.acceptNewClient (ranking.above i) spares accepts
  | eventCheck i outcomes waits =>
      rw [run] at ran
      refine method_nests ran fun server after found ascends runs => ?_
      obtain ⟨event, checks, result⟩ :=
        Option.map_eq_some_iff.mp (Option.filter_eq_some_iff.mp runs).1
      cases result
      exact ascends.eventCheck (ranking.above i) (spares server found) checks

theorem Stretch.nests {acts : List (Act (Resource Holder))} (stretch : call.Stretch world acts)
    (upwards : call.Upwards ranking) :
    Nests Resource.IsMutex (Resource.rank ranking.order) acts := by
  obtain ⟨later, before, behind, ran, log, -⟩ := stretch.part
  obtain ⟨same, grows, nests⟩ := run_nests ran stretch.spares upwards
  rw [log, List.append_cancel_left_eq] at grows
  exact (grows ▸ nests).middle stretch.balanced

theorem Does.nests {acts : List (Act (Resource Holder))} (does : call.Does acts)
    (upwards : call.Upwards ranking) :
    Nests Resource.IsMutex (Resource.rank ranking.order) acts := by
  obtain ⟨stretches, whole, each⟩ := does
  rw [whole]
  refine Nests.flatten fun stretch member => ?_
  obtain ⟨world, isStretch⟩ := each stretch member
  exact isStretch.nests upwards

/-- A call that nothing comes between. -/
theorem Does.of_run {acts : List (Act (Resource Holder))} (spares : call.Spares world)
    (unwaiting : call.Unwaiting world) (ran : call.run world = some later)
    (log : later.log = world.log ++ acts) : call.Does acts := by
  obtain ⟨same, grows, disciplined⟩ := call.run_log ran
  rw [log, List.append_cancel_left_eq] at grows
  refine ⟨[acts], by simp, fun stretch member => ⟨world, ?_⟩⟩
  rw [List.mem_singleton.mp member]
  exact ⟨spares, unwaiting, grows ▸ disciplined.mpr spares, later, [], [], ran, by simpa using log, .nil⟩

end ApiCall

/-! ## Threads -/

/-- What a thread does next: a call, or one of the two sections of `receptionThreadHandler`
with the mutex of its node. -/
inductive Task (F : Type) where
  | calls (call : ApiCall F)
  | handlerSection (i : Nat) (node : CollectionId)

namespace Task

variable {F : Type} [DataFrame F]

def Does : Task F → List (Act (Resource Holder)) → Prop
  | .calls call, acts => call.Does acts
  | .handlerSection i node, acts => acts = [.acquire (.mutex (i, .collection node) .mtx),
      .release (.mutex (i, .collection node) .mtx)]

def Upwards (ranking : Ranking) : Task F → Prop
  | .calls call => call.Upwards ranking
  | .handlerSection _ _ => True

theorem Does.nests {task : Task F} {acts : List (Act (Resource Holder))} {ranking : Ranking}
    (does : task.Does acts) (upwards : task.Upwards ranking) :
    Nests Resource.IsMutex (Resource.rank ranking.order) acts := by
  cases task with
  | calls call => exact ApiCall.Does.nests does upwards
  | handlerSection i node =>
      have single := @Call.nests _ ranking.order (i, .collection node) _ Unit ⟨(), Socket.new, _⟩
        fun _ => @single_nests _ .mtx
      have same : acts = _ := does
      rw [same]
      exact single

end Task

section Threads

variable {F : Type} [DataFrame F] {ι : Type*} [DecidableEq ι] {ranking : Ranking}
  {contest : Contest ι (Resource Holder)}

/-- What a thread may begin with. -/
def Permitted (F : Type) [DataFrame F] (ranking : Ranking) (acts : List (Act (Resource Holder))) :
    Prop :=
  ∃ task : Task F, task.Upwards ranking ∧ task.Does acts

/-- As long as a thread is in a call one of them can go on, and without further calls all
come to their end and leave all mutexes free. -/
theorem threads_finish [Finite ι]
    (reaches : Contest.Reaches Resource.IsMutex (Permitted F ranking) Contest.idle contest) :
    ((∃ i, contest.left i ≠ []) → ∃ i later, contest.step Resource.IsMutex i = some later) ∧
      ∃ later, contest.Proceeds Resource.IsMutex later ∧ (∀ i, later.left i = []) ∧
        ∀ holder lock, later.owner (.mutex holder lock) = none := by
  have orderly : contest.Orderly Resource.IsMutex (Resource.rank ranking.order) := by
    refine reaches.orderly fun acts permitted => ?_
    obtain ⟨task, upwards, does⟩ := permitted
    exact does.nests upwards
  obtain ⟨later, proceeds, nothing, free⟩ := orderly.finishes
  exact ⟨orderly.goesOn, later, proceeds, nothing, fun holder lock => free _ trivial⟩

end Threads

/-- Two threads that copy two objects onto each other can both wait for ever. -/
theorem duplicates_cross {allowed : List (Act (Resource Holder)) → Prop} {first second : Holder}
    (apart : first ≠ second) (copies : allowed (Socket.duplicateActs first second))
    (copiesBack : allowed (Socket.duplicateActs second first)) :
    ∃ contest : Contest Bool (Resource Holder),
      Contest.Reaches Resource.IsMutex allowed Contest.idle contest ∧
        (∀ i, contest.left i ≠ []) ∧ ∀ i, contest.step Resource.IsMutex i = none := by
  obtain ⟨contest, goes, stuck⟩ : ∃ contest,
      (Contest.begun true (Socket.duplicateActs first second) false
          (Socket.duplicateActs second first)).steps Resource.IsMutex [true, true, false, false] =
        some contest ∧
        (∀ i, contest.left i ≠ []) ∧ ∀ i, contest.step Resource.IsMutex i = none := by
    simp [Contest.begun, Contest.steps, Contest.step, Socket.duplicateActs, lockOf, Function.update, apart, apart.symm]
  have begins : Contest.Reaches Resource.IsMutex allowed Contest.idle _ :=
    .begun (by decide : false ≠ true) copies copiesBack
  exact ⟨contest, begins.steps goes, stuck⟩

/-- One object behind the other, and what a server makes behind the server. -/
def Ranking.byNumber : Ranking where
  order holder := if holder.2 = .server then 2 * holder.1 else 2 * holder.1 + 1
  above i owner other := by simp [other]

/-- Two objects. -/
def World.pair : World := (World.empty.made (.sock Socket.new)).made (.sock Socket.new)

/-- A thread copies the first of two objects to the second, of which another sets the port. -/
theorem threads_finish_copying :
    ∃ contest : Contest Bool (Resource Holder),
      contest.step Resource.IsMutex true = none ∧
      ((∃ i, contest.left i ≠ []) → ∃ i later, contest.step Resource.IsMutex i = some later) ∧
      ∃ later, contest.Proceeds Resource.IsMutex later ∧ (∀ i, later.left i = []) ∧
        ∀ holder lock, later.owner (.mutex holder lock) = none := by
  have copies : Permitted Element Ranking.byNumber
      (Socket.duplicateActs (0, .server) (1, .server)) :=
    ⟨.calls (.duplicate (0, .server) (1, .server)), (by decide : 0 < 2), @ApiCall.Does.of_run
      Element _ World.pair _ _ _ (by decide : ((0, .server) : Holder) ≠ (1, .server)) trivial rfl rfl⟩
  have sets : Permitted Element Ranking.byNumber
      ((Socket.guarded true Socket.new).actsOf (1, Owner.server)) :=
    ⟨.calls (.onObject (1, .server) (.setPort 80) World.quietCall), trivial, @ApiCall.Does.of_run
      Element _ World.pair _ _ _ (fun _ _ => ⟨by simp [SocketCall.inner], by simp⟩) trivial rfl rfl⟩
  obtain ⟨contest, goes, waits⟩ : ∃ contest,
      (Contest.begun true (Socket.duplicateActs (0, Owner.server) (1, Owner.server)) false
          ((Socket.guarded true Socket.new).actsOf (1, Owner.server))).steps Resource.IsMutex
            [true, true, false] = some contest ∧
        contest.step Resource.IsMutex true = none :=
    ⟨_, rfl, rfl⟩
  have begins : Contest.Reaches Resource.IsMutex (Permitted Element Ranking.byNumber)
      Contest.idle _ := .begun (by decide : false ≠ true) copies sets
  exact ⟨contest, waits, @threads_finish Element _ Bool _ _ contest _ (begins.steps goes)⟩

end SynapTCP
