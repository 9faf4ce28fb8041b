import SynapTCP.Data.Monitor
import SynapTCP.Data.Throughout
import SynapTCP.Server.Object
import Mathlib.Logic.Function.Basic
import Mathlib.Logic.Relation

namespace SynapTCP

open Data

/-! # Starting a reception thread

The dispatch of `eventCheck` and `receptionThreadHandler` of `src/tcp-server.cpp`, call
by call on the mutex and the condition of a node.
-/

/-- Where `eventCheck` is behind `pthread_create`: before the mutex, with it, in
`pthread_cond_wait`, and behind that. -/
inductive DispatchPhase where
  | created
  | holding
  | waiting
  | woken
deriving DecidableEq

/-- Where a reception thread is: before the mutex, with it, behind its signal, at its
handler, with the mutex behind the handler, and at its end. -/
inductive StartPhase where
  | starting
  | locked
  | signalled
  | handling
  | finishing
  | ended
deriving DecidableEq

/-- The next call of `eventCheck`, and where that leads. -/
def DispatchPhase.next : DispatchPhase → MonitorCall × Option DispatchPhase
  | .created => (.lock, some .holding)
  | .holding => (.wait, some .waiting)
  | .waiting => (.resume, some .woken)
  | .woken => (.unlock, none)

/-- The next call of a reception thread, and where that leads. -/
def StartPhase.next : StartPhase → Option (MonitorCall × StartPhase)
  | .starting => some (.lock, .locked)
  | .locked => some (.signal, .signalled)
  | .signalled => some (.unlock, .handling)
  | .handling => some (.lock, .finishing)
  | .finishing => some (.unlock, .ended)
  | .ended => none

def DispatchPhase.Holds (phase : DispatchPhase) : Prop := phase = .holding ∨ phase = .woken

def StartPhase.Holds (phase : StartPhase) : Prop :=
  phase = .locked ∨ phase = .signalled ∨ phase = .finishing

/-- The thread has signalled that it runs. -/
def StartPhase.Signalled (phase : StartPhase) : Prop := phase ≠ .starting ∧ phase ≠ .locked

theorem StartPhase.Signalled.next {phase later : StartPhase} {call : MonitorCall}
    (signalled : phase.Signalled) (follows : phase.next = some (call, later)) :
    later.Signalled := by
  cases phase with
  | starting => exact absurd rfl signalled.1
  | locked => exact absurd rfl signalled.2
  | signalled | handling | finishing =>
      cases follows
      exact ⟨by simp, by simp⟩
  | ended => contradiction

theorem StartPhase.locked_of_signal {phase later : StartPhase}
    (follows : phase.next = some (.signal, later)) : phase = .locked ∧ later = .signalled := by
  cases phase with
  | locked =>
      cases follows
      exact ⟨rfl, rfl⟩
  | starting | signalled | handling | finishing | ended => simp [StartPhase.next] at follows

theorem StartPhase.signals {phase later : StartPhase} {call : MonitorCall}
    (follows : phase.next = some (call, later)) (before : ¬ phase.Signalled) :
    phase = .starting ∧ call = .lock ∧ later = .locked ∨
      phase = .locked ∧ call = .signal ∧ later = .signalled := by
  cases phase with
  | starting =>
      cases follows
      exact .inl ⟨rfl, rfl, rfl⟩
  | locked =>
      cases follows
      exact .inr ⟨rfl, rfl, rfl⟩
  | signalled | handling | finishing | ended => exact absurd ⟨by simp, by simp⟩ before

structure Dispatch where
  collection : CollectionId
  thread : Nat
  phase : DispatchPhase
deriving DecidableEq

structure Starter where
  collection : CollectionId
  phase : StartPhase
deriving DecidableEq

inductive Party where
  | eventCheck
  | thread (i : Nat)
deriving DecidableEq

/-- The dispatch that `eventCheck` is in, the threads of all dispatches, and the mutex
and the condition of each node. -/
structure Starting where
  dispatch : Option Dispatch
  threads : List Starter
  monitors : CollectionId → Monitor Party

inductive StartStep where
  /-- `pthread_create` for a client. -/
  | create (collection : CollectionId) (succeeds : Bool)
  /-- The next call of `eventCheck` in its dispatch. -/
  | dispatch
  /-- The next call of a thread. -/
  | thread (i : Nat)

namespace Starting

variable {state next : Starting} {step : StartStep} {dispatch : Dispatch} {starter : Starter}
  {collection : CollectionId} {i : Nat}

def initial : Starting := ⟨none, [], fun _ => .free⟩

def perform (state : Starting) (collection : CollectionId) (party : Party) (call : MonitorCall) :
    Option Starting :=
  ((state.monitors collection).perform party call).map fun monitor =>
    { state with monitors := Function.update state.monitors collection monitor }

def run (state : Starting) : StartStep → Option Starting
  | .create collection succeeds =>
      if state.dispatch = none then
        some (if succeeds then
          { state with
            dispatch := some ⟨collection, state.threads.length, .created⟩
            threads := state.threads ++ [⟨collection, .starting⟩] }
        else state)
      else none
  | .dispatch => do
      let dispatch ← state.dispatch
      let after ← state.perform dispatch.collection .eventCheck dispatch.phase.next.1
      some { after with
        dispatch := dispatch.phase.next.2.map fun phase => { dispatch with phase } }
  | .thread i => do
      let starter ← state.threads[i]?
      let move ← starter.phase.next
      let after ← state.perform starter.collection (.thread i) move.1
      some { after with threads := state.threads.set i { starter with phase := move.2 } }

def Leads (state : Starting) (step : StartStep) (next : Starting) : Prop :=
  state.run step = some next

/-- What a step does. -/
inductive Does (state : Starting) : StartStep → Starting → Prop where
  | fails (collection : CollectionId) (idle : state.dispatch = none) :
      Does state (.create collection false) state
  | creates (collection : CollectionId) (idle : state.dispatch = none) :
      Does state (.create collection true)
        { state with
          dispatch := some ⟨collection, state.threads.length, .created⟩
          threads := state.threads ++ [⟨collection, .starting⟩] }
  | dispatches (dispatch : Dispatch) (under : state.dispatch = some dispatch)
      (permits : (state.monitors dispatch.collection).Permits .eventCheck dispatch.phase.next.1) :
      Does state .dispatch
        { state with
          dispatch := dispatch.phase.next.2.map fun phase => { dispatch with phase }
          monitors := Function.update state.monitors dispatch.collection
            ⟨(state.monitors dispatch.collection).ownerAfter .eventCheck dispatch.phase.next.1,
              (state.monitors dispatch.collection).waitersAfter .eventCheck
                dispatch.phase.next.1⟩ }
  | goes (i : Nat) (starter : Starter) (call : MonitorCall) (phase : StartPhase)
      (found : state.threads[i]? = some starter) (follows : starter.phase.next = some (call, phase))
      (permits : (state.monitors starter.collection).Permits (.thread i) call) :
      Does state (.thread i)
        { state with
          threads := state.threads.set i { starter with phase }
          monitors := Function.update state.monitors starter.collection
            ⟨(state.monitors starter.collection).ownerAfter (.thread i) call,
              (state.monitors starter.collection).waitersAfter (.thread i) call⟩ }

theorem perform_eq_some {party : Party} {call : MonitorCall} {after : Starting}
    (performs : state.perform collection party call = some after) :
    (state.monitors collection).Permits party call ∧
      after = { state with
        monitors := Function.update state.monitors collection
          ⟨(state.monitors collection).ownerAfter party call,
            (state.monitors collection).waitersAfter party call⟩ } := by
  obtain ⟨monitor, performed, same⟩ := Option.map_eq_some_iff.mp performs
  obtain ⟨permits, result⟩ := Monitor.perform_eq_some performed
  cases result
  cases same
  exact ⟨permits, rfl⟩

theorem leads_does (leads : state.Leads step next) : state.Does step next := by
  cases step with
  | create collection succeeds =>
      change (if state.dispatch = none then _ else none) = some next at leads
      split at leads
      · rename_i idle
        cases leads
        cases succeeds with
        | false => exact .fails collection idle
        | true => exact .creates collection idle
      · contradiction
  | dispatch =>
      obtain ⟨dispatch, under, leads⟩ := Option.bind_eq_some_iff.mp leads
      obtain ⟨after, performs, result⟩ := Option.bind_eq_some_iff.mp leads
      obtain ⟨permits, same⟩ := perform_eq_some performs
      cases same
      cases result
      exact .dispatches dispatch under permits
  | thread i =>
      obtain ⟨starter, found, leads⟩ := Option.bind_eq_some_iff.mp leads
      obtain ⟨⟨call, phase⟩, follows, leads⟩ := Option.bind_eq_some_iff.mp leads
      obtain ⟨after, performs, result⟩ := Option.bind_eq_some_iff.mp leads
      obtain ⟨permits, same⟩ := perform_eq_some performs
      cases same
      cases result
      exact .goes i starter call phase found follows permits

/-! ## What holds in every state -/

structure Coherent (state : Starting) : Prop where
  placed : ∀ dispatch, state.dispatch = some dispatch →
    ∃ starter, state.threads[dispatch.thread]? = some starter ∧
      starter.collection = dispatch.collection
  holds : ∀ dispatch, state.dispatch = some dispatch → dispatch.phase.Holds →
    (state.monitors dispatch.collection).owner = some .eventCheck
  held : ∀ i starter, state.threads[i]? = some starter → starter.phase.Holds →
    (state.monitors starter.collection).owner = some (.thread i)
  waits : ∀ collection, (state.monitors collection).waiters = [] ∨
    (state.monitors collection).waiters = [.eventCheck] ∧
      ∃ dispatch, state.dispatch = some dispatch ∧ dispatch.collection = collection ∧
        dispatch.phase = .waiting
  others : ∀ i starter, state.threads[i]? = some starter → ¬ starter.phase.Signalled →
    ∃ dispatch, state.dispatch = some dispatch ∧ dispatch.thread = i
  done : ∀ dispatch starter, state.dispatch = some dispatch →
    state.threads[dispatch.thread]? = some starter →
    dispatch.phase = .woken ∨ dispatch.phase = .waiting ∧
      (state.monitors dispatch.collection).waiters = [] →
    starter.phase.Signalled

theorem coherent_initial : initial.Coherent where
  placed dispatch under := by contradiction
  holds dispatch under := by contradiction
  held i starter found := by
    rw [initial, List.getElem?_nil] at found
    contradiction
  waits collection := .inl rfl
  others i starter found := by
    rw [initial, List.getElem?_nil] at found
    contradiction
  done dispatch starter under := by contradiction

/-- Nobody waits at a node but `eventCheck` in its dispatch there. -/
theorem Coherent.waiters_nil (coherent : state.Coherent) (under : state.dispatch = some dispatch)
    (elsewhere : dispatch.collection = collection → dispatch.phase ≠ .waiting) :
    (state.monitors collection).waiters = [] := by
  rcases coherent.waits collection with none | ⟨-, other, underOther, same, waiting⟩
  · exact none
  · rw [under] at underOther
    cases underOther
    exact absurd waiting (elsewhere same)

theorem getElem?_concat_cases {threads : List Starter} {last : Starter}
    (found : (threads ++ [last])[i]? = some starter) :
    threads[i]? = some starter ∨ i = threads.length ∧ starter = last := by
  rcases Nat.lt_trichotomy i threads.length with less | same | more
  · rw [List.getElem?_append_left less] at found
    exact .inl found
  · rw [same, List.getElem?_concat_length] at found
    exact .inr ⟨same, (Option.some.inj found).symm⟩
  · rw [List.getElem?_eq_none (by rw [List.length_append]; exact more)] at found
    contradiction

theorem Coherent.creates (coherent : state.Coherent) (idle : state.dispatch = none)
    (collection : CollectionId) :
    Coherent { state with
      dispatch := some ⟨collection, state.threads.length, .created⟩
      threads := state.threads ++ [⟨collection, .starting⟩] } where
  placed dispatch under := by
    cases under
    exact ⟨_, List.getElem?_concat_length, rfl⟩
  holds dispatch under holds := by
    cases under
    rcases holds with wrong | wrong <;> contradiction
  held i starter found holds := by
    rcases getElem?_concat_cases found with before | ⟨-, isNew⟩
    · exact coherent.held i starter before holds
    · rw [isNew] at holds
      rcases holds with wrong | wrong | wrong <;> contradiction
  waits collection := by
    rcases coherent.waits collection with none | ⟨-, dispatch, under, -⟩
    · exact .inl none
    · rw [idle] at under
      contradiction
  others i starter found silent := by
    rcases getElem?_concat_cases found with before | ⟨isLast, -⟩
    · obtain ⟨dispatch, under, -⟩ := coherent.others i starter before silent
      rw [idle] at under
      contradiction
    · exact ⟨_, rfl, isLast.symm⟩
  done dispatch starter under found finished := by
    cases under
    rcases finished with wrong | ⟨wrong, -⟩ <;> contradiction

def called (state : Starting) (collection : CollectionId) (party : Party) (call : MonitorCall) :
    CollectionId → Monitor Party :=
  Function.update state.monitors collection
    ⟨(state.monitors collection).ownerAfter party call,
      (state.monitors collection).waitersAfter party call⟩

theorem called_self {party : Party} {call : MonitorCall} :
    state.called collection party call collection =
      ⟨(state.monitors collection).ownerAfter party call,
        (state.monitors collection).waitersAfter party call⟩ :=
  Function.update_self _ _ _

theorem called_of_ne {other : CollectionId} {party : Party} {call : MonitorCall}
    (apart : other ≠ collection) :
    state.called collection party call other = state.monitors other :=
  Function.update_of_ne apart _ _

theorem called_owner {other : CollectionId} {party owner : Party} {call : MonitorCall}
    (owned : (state.monitors other).owner = some owner) (apart : owner ≠ party)
    (permits : (state.monitors collection).Permits party call) :
    (state.called collection party call other).owner = some owner := by
  by_cases same : other = collection
  · subst same
    rw [called_self]
    exact Monitor.ownerAfter_of_ne owned apart permits
  · rw [called_of_ne same, owned]

theorem Coherent.elsewhere {call : MonitorCall} (coherent : state.Coherent)
    (under : state.dispatch = some dispatch) (apart : collection ≠ dispatch.collection) :
    (state.called dispatch.collection .eventCheck call collection).waiters = [] := by
  rw [called_of_ne apart]
  exact coherent.waiters_nil under fun same => absurd same.symm apart

/-- Only the thread of the dispatch can still have to signal. -/
theorem Coherent.thread_eq (coherent : state.Coherent) (under : state.dispatch = some dispatch)
    (found : state.threads[i]? = some starter) (silent : ¬ starter.phase.Signalled) :
    dispatch.thread = i := by
  obtain ⟨before, underBefore, isThread⟩ := coherent.others i starter found silent
  rw [under] at underBefore
  cases underBefore
  exact isThread

/-- A call of `eventCheck` after which its dispatch goes on. -/
theorem Coherent.advances {call : MonitorCall} {phase : DispatchPhase} (coherent : state.Coherent)
    (under : state.dispatch = some dispatch)
    (permits : (state.monitors dispatch.collection).Permits .eventCheck call)
    (holds : phase.Holds → (state.called dispatch.collection .eventCheck call
      dispatch.collection).owner = some .eventCheck)
    (waits : (state.called dispatch.collection .eventCheck call dispatch.collection).waiters = [] ∨
      (state.called dispatch.collection .eventCheck call dispatch.collection).waiters =
        [.eventCheck] ∧ phase = .waiting)
    (done : ∀ starter, state.threads[dispatch.thread]? = some starter →
      phase = .woken ∨ phase = .waiting ∧
        (state.called dispatch.collection .eventCheck call dispatch.collection).waiters = [] →
      starter.phase.Signalled) :
    Coherent { state with
      dispatch := some { dispatch with phase }
      monitors := state.called dispatch.collection .eventCheck call } where
  placed moved isMoved := by
    cases isMoved
    exact (coherent.placed dispatch under :)
  holds moved isMoved := by
    cases isMoved
    exact holds
  held i starter found keeps :=
    called_owner (coherent.held i starter found keeps) (by simp) permits
  waits other := by
    by_cases same : other = dispatch.collection
    · subst same
      rcases waits with none | ⟨one, waiting⟩
      · exact .inl none
      · exact .inr ⟨one, _, rfl, rfl, waiting⟩
    · exact .inl (coherent.elsewhere under same)
  others i starter found silent := ⟨_, rfl, (coherent.thread_eq under found silent :)⟩
  done moved starter isMoved found := by
    cases isMoved
    exact done starter found

theorem Coherent.dispatches (coherent : state.Coherent) (under : state.dispatch = some dispatch)
    (permits : (state.monitors dispatch.collection).Permits .eventCheck dispatch.phase.next.1) :
    Coherent { state with
      dispatch := dispatch.phase.next.2.map fun phase => { dispatch with phase }
      monitors := state.called dispatch.collection .eventCheck dispatch.phase.next.1 } := by
  have here (notWaiting : dispatch.phase ≠ .waiting) :
      (state.monitors dispatch.collection).waiters = [] :=
    coherent.waiters_nil under fun _ => notWaiting
  obtain ⟨collection, thread, phase⟩ := dispatch
  cases phase with
  | created =>
      refine coherent.advances under permits (fun _ => congrArg Monitor.owner called_self)
        (.inl ((congrArg Monitor.waiters called_self).trans (here (by simp)))) ?_
      intro starter found finished
      rcases finished with wrong | ⟨wrong, -⟩ <;> contradiction
  | holding =>
      have waiters : (state.called collection .eventCheck .wait collection).waiters =
          [.eventCheck] := by
        refine (congrArg Monitor.waiters called_self).trans ?_
        show (state.monitors collection).waiters ++ [.eventCheck] = _
        rw [here (by simp), List.nil_append]
      refine coherent.advances under permits (fun holds => ?_) (.inr ⟨waiters, rfl⟩) ?_
      · rcases holds with wrong | wrong <;> contradiction
      · intro starter found finished
        rcases finished with wrong | ⟨-, none⟩
        · contradiction
        · exact absurd (waiters.symm.trans none) (by simp)
  | waiting =>
      -- a signal has ended the wait
      have signalled : (state.monitors collection).waiters = [] := by
        rcases coherent.waits collection with none | ⟨waits, -⟩
        · exact none
        · exact absurd permits.2 (not_not_intro (by rw [waits]; exact .head _))
      refine coherent.advances under permits (fun _ => congrArg Monitor.owner called_self)
        (.inl ((congrArg Monitor.waiters called_self).trans signalled)) ?_
      intro starter found _
      exact coherent.done _ starter under found (.inr ⟨rfl, signalled⟩)
  | woken =>
      refine ⟨fun _ none => by contradiction, fun _ none => by contradiction, ?_, ?_, ?_,
        fun _ _ none => by contradiction⟩
      · intro i starter found holds
        exact called_owner (coherent.held i starter found holds) (by simp) permits
      · intro other
        by_cases same : other = collection
        · subst same
          exact .inl ((congrArg Monitor.waiters called_self).trans (here (by simp)))
        · exact .inl (coherent.elsewhere under same)
      · intro i starter found silent
        rw [← coherent.thread_eq under found silent] at found
        exact absurd (coherent.done _ starter under found (.inl rfl)) silent

theorem getElem?_set_cases {threads : List Starter} {moved : Starter} {j : Nat}
    (found : (threads.set i moved)[j]? = some starter) :
    j = i ∧ starter = moved ∨ j ≠ i ∧ threads[j]? = some starter := by
  by_cases same : j = i
  · subst same
    rw [List.getElem?_set_self'] at found
    obtain ⟨before, -, isMoved⟩ := Option.map_eq_some_iff.mp found
    exact .inl ⟨rfl, isMoved.symm⟩
  · rw [List.getElem?_set_ne (Ne.symm same)] at found
    exact .inr ⟨same, found⟩

/-- A call of a thread leaves who waits, or signals. -/
theorem called_waiters {call : MonitorCall} {phase : StartPhase} (other : CollectionId)
    (follows : starter.phase.next = some (call, phase)) :
    (state.called starter.collection (.thread i) call other).waiters =
      if call = .signal ∧ other = starter.collection then (state.monitors other).waiters.tail
      else (state.monitors other).waiters := by
  by_cases same : other = starter.collection
  · rw [same, called_self]
    simp only [and_true]
    revert follows
    cases starter.phase with
    | ended => exact fun follows => by contradiction
    | starting | locked | signalled | handling | finishing =>
        intro follows
        cases follows
        rfl
  · rw [called_of_ne same, if_neg fun both => same both.2]

theorem Coherent.owner_of_goes {call : MonitorCall} {phase : StartPhase}
    (coherent : state.Coherent) (found : state.threads[i]? = some starter)
    (follows : starter.phase.next = some (call, phase)) (holds : phase.Holds) :
    (state.called starter.collection (.thread i) call starter.collection).owner =
      some (.thread i) := by
  refine (congrArg Monitor.owner called_self).trans ?_
  have heldBefore := coherent.held i starter found
  revert follows heldBefore
  cases starter.phase with
  | starting | handling =>
      intro follows _
      cases follows
      rfl
  | locked =>
      intro follows heldBefore
      cases follows
      exact heldBefore (.inl rfl)
  | signalled | finishing =>
      intro follows _
      cases follows
      rcases holds with wrong | wrong | wrong <;> contradiction
  | ended => exact fun follows => by contradiction

/-- Behind its wait a dispatch has a thread that has signalled, also when a thread goes on. -/
theorem Coherent.done_of_goes {call : MonitorCall} {phase : StartPhase} {other : Starter}
    (coherent : state.Coherent) (found : state.threads[i]? = some starter)
    (follows : starter.phase.next = some (call, phase)) (under : state.dispatch = some dispatch)
    (foundOther : (state.threads.set i { starter with phase })[dispatch.thread]? = some other)
    (finished : dispatch.phase = .woken ∨ dispatch.phase = .waiting ∧
      (state.called starter.collection (.thread i) call dispatch.collection).waiters = []) :
    other.phase.Signalled := by
  by_contra silent
  rw [called_waiters dispatch.collection follows] at finished
  by_cases signals : call = .signal ∧ dispatch.collection = starter.collection
  · -- only the thread that is waited for has not signalled before
    have wasLocked : ¬ starter.phase.Signalled ∧ phase.Signalled := by
      rw [signals.1] at follows
      obtain ⟨locked, isSignalled⟩ := StartPhase.locked_of_signal follows
      rw [isSignalled]
      exact ⟨fun signalled => signalled.2 locked, by simp, by simp⟩
    have isThis := coherent.thread_eq under found wasLocked.1
    rcases getElem?_set_cases foundOther with ⟨-, moved⟩ | ⟨apart, -⟩
    · rw [moved] at silent
      exact silent wasLocked.2
    · exact apart isThis
  · rw [if_neg signals] at finished
    rcases getElem?_set_cases foundOther with ⟨isThis, moved⟩ | ⟨-, before⟩
    · rw [← isThis] at found
      rw [moved] at silent
      exact silent ((coherent.done dispatch starter under found finished).next follows)
    · exact silent (coherent.done dispatch other under before finished)

theorem Coherent.goes {call : MonitorCall} {phase : StartPhase} (coherent : state.Coherent)
    (found : state.threads[i]? = some starter) (follows : starter.phase.next = some (call, phase))
    (permits : (state.monitors starter.collection).Permits (.thread i) call) :
    Coherent { state with
      threads := state.threads.set i { starter with phase }
      monitors := state.called starter.collection (.thread i) call } := by
  refine ⟨?_, ?_, ?_, ?_, ?_, ?_⟩
  · intro dispatch under
    obtain ⟨waited, foundWaited, same⟩ := coherent.placed dispatch under
    show ∃ starter_1, (state.threads.set i _)[dispatch.thread]? = some starter_1 ∧ _
    by_cases isThis : dispatch.thread = i
    · rw [isThis, found] at foundWaited
      cases foundWaited
      rw [isThis, List.getElem?_set_self', found]
      exact ⟨_, rfl, same⟩
    · rw [List.getElem?_set_ne (Ne.symm isThis), foundWaited]
      exact ⟨waited, rfl, same⟩
  · intro dispatch under holds
    exact called_owner (coherent.holds dispatch under holds) (by simp) permits
  · intro j other foundOther holds
    rcases getElem?_set_cases foundOther with ⟨isThis, moved⟩ | ⟨apart, before⟩
    · subst isThis
      subst moved
      exact (coherent.owner_of_goes found follows holds :)
    · exact called_owner (coherent.held j other before holds) (by simpa using apart) permits
  · intro other
    show (state.called starter.collection (.thread i) call other).waiters = [] ∨ _
    rw [called_waiters other follows]
    rcases coherent.waits other with none | ⟨one, waiting⟩
    · left
      rw [none]
      split <;> rfl
    · rw [one]
      split
      · exact .inl rfl
      · exact .inr ⟨rfl, waiting⟩
  · intro j other foundOther silent
    rcases getElem?_set_cases foundOther with ⟨isThis, moved⟩ | ⟨apart, before⟩
    · rw [isThis]
      rw [moved] at silent
      exact coherent.others i starter found fun signalled => silent (signalled.next follows)
    · exact coherent.others j other before silent
  · intro dispatch other under foundOther finished
    exact coherent.done_of_goes found follows under foundOther finished

theorem Coherent.leads (coherent : state.Coherent) (leads : state.Leads step next) :
    next.Coherent := by
  cases leads_does leads with
  | fails collection idle => exact coherent
  | creates collection idle => exact coherent.creates idle collection
  | dispatches dispatch under permits => exact coherent.dispatches under permits
  | goes i starter call phase found follows permits => exact coherent.goes found follows permits

/-! ## The deadlock -/

/-- `eventCheck` waits for a signal that the thread has already given. -/
def Deadlocked (state : Starting) : Prop :=
  ∃ dispatch starter, state.dispatch = some dispatch ∧ dispatch.phase = .waiting ∧
    .eventCheck ∈ (state.monitors dispatch.collection).waiters ∧
    state.threads[dispatch.thread]? = some starter ∧ starter.phase.Signalled

def Safe (state : Starting) (step : StartStep) : Prop :=
  ∀ next, state.Leads step next → ¬ next.Deadlocked

/-- `eventCheck` begins to wait before the new thread has locked the mutex. -/
def InTime (state : Starting) (step : StartStep) : Prop :=
  ∀ dispatch starter, step = .dispatch → state.dispatch = some dispatch →
    dispatch.phase = .holding → state.threads[dispatch.thread]? = some starter →
    starter.phase = .starting

theorem Coherent.leads_wait (coherent : state.Coherent) (under : state.dispatch = some dispatch)
    (holding : dispatch.phase = .holding) :
    state.Leads .dispatch { state with
      dispatch := some { dispatch with phase := .waiting }
      monitors := state.called dispatch.collection .eventCheck .wait } := by
  have owned := coherent.holds dispatch under (.inl holding)
  have permits : (state.monitors dispatch.collection).Permits .eventCheck .wait := owned
  unfold Leads run
  simp only [under, bind, Option.bind_some, holding, DispatchPhase.next, perform, Monitor.perform,
    if_pos permits, Option.map_some]
  rfl

/-- A thread that gives its signal ends the wait for it. -/
theorem Coherent.not_waiting_of_signal (coherent : state.Coherent)
    (under : state.dispatch = some dispatch) (isThread : dispatch.thread = i)
    (found : state.threads[i]? = some starter) (locked : starter.phase = .locked) :
    .eventCheck ∉ (state.called starter.collection (.thread i) .signal
      dispatch.collection).waiters := by
  obtain ⟨waited, foundWaited, same⟩ := coherent.placed dispatch under
  rw [isThread, found] at foundWaited
  cases foundWaited
  have follows : starter.phase.next = some (.signal, .signalled) := by rw [locked]; rfl
  rw [called_waiters dispatch.collection follows, if_pos ⟨rfl, same.symm⟩]
  rcases coherent.waits dispatch.collection with none | ⟨one, -⟩
  · rw [none]
    exact List.not_mem_nil
  · rw [one]
    exact List.not_mem_nil

/-- A deadlock behind a call of a thread was there before. -/
theorem Coherent.deadlocked_of_goes {call : MonitorCall} {phase : StartPhase}
    (coherent : state.Coherent) (found : state.threads[i]? = some starter)
    (follows : starter.phase.next = some (call, phase))
    (deadlocked : Deadlocked { state with
      threads := state.threads.set i { starter with phase }
      monitors := state.called starter.collection (.thread i) call }) : state.Deadlocked := by
  obtain ⟨dispatch, other, under, waiting, waits, foundOther, signalled⟩ := deadlocked
  have under : state.dispatch = some dispatch := under
  have waited : .eventCheck ∈ (state.monitors dispatch.collection).waiters := by
    have waits : .eventCheck ∈
        (state.called starter.collection (.thread i) call dispatch.collection).waiters := waits
    rw [called_waiters dispatch.collection follows] at waits
    split at waits
    · exact List.mem_of_mem_tail waits
    · exact waits
  rcases getElem?_set_cases foundOther with ⟨isThread, moved⟩ | ⟨-, before⟩
  · rw [moved] at signalled
    by_cases before : starter.phase.Signalled
    · exact ⟨dispatch, starter, under, waiting, waited, by rw [isThread, found], before⟩
    · rcases StartPhase.signals follows before with ⟨-, -, later⟩ | ⟨locked, isSignal, -⟩
      · exact absurd later signalled.2
      · subst isSignal
        exact absurd waits (coherent.not_waiting_of_signal under isThread found locked)
  · exact ⟨dispatch, other, under, waiting, waited, before, signalled⟩

theorem safe_iff (coherent : state.Coherent) (fine : ¬ state.Deadlocked) :
    state.Safe step ↔ state.InTime step := by
  constructor
  · intro safe dispatch starter isDispatch under holding found
    by_contra begun
    subst isDispatch
    refine safe _ (coherent.leads_wait under holding)
      ⟨_, starter, rfl, rfl, ?_, found, begun, fun locked => ?_⟩
    · show .eventCheck ∈ (state.called _ _ _ dispatch.collection).waiters
      rw [called_self]
      exact List.mem_append_right _ (.head _)
    · -- they do not have the mutex both
      obtain ⟨waited, foundWaited, same⟩ := coherent.placed dispatch under
      rw [found] at foundWaited
      cases foundWaited
      have byThread := coherent.held dispatch.thread starter found (.inl locked)
      rw [same, coherent.holds dispatch under (.inl holding)] at byThread
      cases byThread
  · intro inTime next leads deadlocked
    cases leads_does leads with
    | fails collection idle => exact fine deadlocked
    | creates collection idle =>
        obtain ⟨dispatch, starter, under, waiting, -⟩ := deadlocked
        cases under
        contradiction
    | dispatches dispatch under permits =>
        obtain ⟨later, starter, underLater, waiting, -, found, signalled⟩ := deadlocked
        obtain ⟨phase, follows, same⟩ := Option.map_eq_some_iff.mp underLater
        subst same
        have holding : dispatch.phase = .holding := by
          have waiting : phase = .waiting := waiting
          rw [waiting] at follows
          revert follows
          cases dispatch.phase <;> simp [DispatchPhase.next]
        exact absurd (inTime dispatch starter rfl under holding found) signalled.1
    | goes i starter call phase found follows permits =>
        exact fine (coherent.deadlocked_of_goes found follows deadlocked)

/-- A run comes to no deadlock exactly if `eventCheck` always begins to wait before the
new thread has locked the mutex. -/
theorem safe_throughout_iff (steps : List StartStep) :
    Throughout Leads Safe initial steps ↔ Throughout Leads InTime initial steps := by
  refine @throughout_congr _ _ _ _ _ (fun state => state.Coherent ∧ ¬ state.Deadlocked) _ _
    ⟨coherent_initial, ?_⟩ ?_ ?_
  · intro deadlocked
    obtain ⟨dispatch, starter, under, -⟩ := deadlocked
    contradiction
  · intro state step kept
    exact safe_iff kept.1 kept.2
  · intro state step next kept safe leads
    exact ⟨kept.1.leads leads, safe next leads⟩

/-- It is for ever: the thread gives no second signal, and `eventCheck` starts no
other. -/
theorem Deadlocked.stays (deadlocked : state.Deadlocked) (coherent : state.Coherent)
    (leads : state.Leads step next) : next.Deadlocked ∧ next.dispatch = state.dispatch := by
  obtain ⟨dispatch, waited, under, waiting, waits, foundWaited, signalled⟩ := deadlocked
  cases leads_does leads with
  | fails collection idle =>
      rw [under] at idle
      contradiction
  | creates collection idle =>
      rw [under] at idle
      contradiction
  | dispatches other underOther permits =>
      rw [under] at underOther
      cases underOther
      rw [waiting] at permits
      exact absurd waits permits.2
  | goes i starter call phase found follows permits =>
      refine ⟨⟨dispatch, ?_⟩, rfl⟩
      have silent : call ≠ .signal := by
        intro isSignal
        rw [isSignal] at follows
        have locked := (StartPhase.locked_of_signal follows).1
        have before : ¬ starter.phase.Signalled := fun signalled => signalled.2 locked
        obtain ⟨again, underAgain, isThread⟩ := coherent.others i starter found before
        rw [under] at underAgain
        cases underAgain
        rw [isThread, found] at foundWaited
        cases foundWaited
        exact before signalled
      have stillWaits : .eventCheck ∈
          (state.called starter.collection (.thread i) call dispatch.collection).waiters := by
        rw [called_waiters dispatch.collection follows, if_neg fun both => silent both.1]
        exact waits
      by_cases isThread : dispatch.thread = i
      · rw [isThread, found] at foundWaited
        cases foundWaited
        refine ⟨{ waited with phase }, under, waiting, stillWaits, ?_, signalled.next follows⟩
        show (state.threads.set i _)[dispatch.thread]? = _
        rw [isThread, List.getElem?_set_self', found]
        rfl
      · refine ⟨waited, under, waiting, stillWaits, ?_, signalled⟩
        show (state.threads.set i _)[dispatch.thread]? = _
        rw [List.getElem?_set_ne (Ne.symm isThread), foundWaited]

/-- Whatever the threads do, `eventCheck` does not come back. -/
theorem Deadlocked.forever {later : Starting} (deadlocked : state.Deadlocked)
    (coherent : state.Coherent)
    (reaches : Relation.ReflTransGen (fun before after => ∃ step, Leads before step after)
      state later) :
    later.Deadlocked ∧ later.dispatch = state.dispatch := by
  have kept : later.Coherent ∧ later.Deadlocked ∧ later.dispatch = state.dispatch := by
    induction reaches with
    | refl => exact ⟨coherent, deadlocked, rfl⟩
    | tail _ goes ih =>
        obtain ⟨step, leads⟩ := goes
        obtain ⟨coherentBefore, deadlockedBefore, same⟩ := ih
        obtain ⟨stays, unchanged⟩ := deadlockedBefore.stays coherentBefore leads
        exact ⟨coherentBefore.leads leads, stays, unchanged.trans same⟩
  exact kept.2

/-- The new thread locks, signals and unlocks before `eventCheck` locks. -/
def early : List StartStep :=
  [.create 0 true, .thread 0, .thread 0, .thread 0, .dispatch, .dispatch]

theorem early_deadlocks : ¬ ∀ steps, Throughout Leads Safe initial steps := by
  intro all
  have last := ((((((all early).2 _ rfl).2 _ rfl).2 _ rfl).2 _ rfl).2 _ rfl).1
  exact last _ rfl ⟨_, _, rfl, rfl, .head _, rfl, by decide, by decide⟩

end Starting

end SynapTCP
