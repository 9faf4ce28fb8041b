import SynapTCP.Data.Exclusion
import SynapTCP.Socket.Send
import Mathlib.Logic.Function.Basic

namespace SynapTCP

open Data

/-! # Threads that send

`sendData` of `src/socket.cpp` in the steps between which another thread can go
on: `pthread_mutex_lock` on `wmtx`, each `write` or `SSL_write`, and
`pthread_mutex_unlock`.
-/

/-- Where a thread is in `sendData`. -/
inductive SendPoint where
  | outside
  /-- At the next write, with `total` bytes written. -/
  | writing (buffer : Bytes) (total : Nat)
  /-- At the unlock, in front of `return code`. -/
  | unlocking (code : Nat)
deriving DecidableEq

/-- At a write there is something left to write, and an SSL connection where one is used. -/
def SendPoint.Fits (socket : Socket) : SendPoint → Prop
  | .writing buffer total =>
      total < buffer.length ∧ (socket.useSSL && socket.sslConn.isNone) = false
  | _ => True

/-- A thread has the calls in `todo` ahead of it. -/
structure Sender where
  todo : List Bytes
  point : SendPoint
deriving DecidableEq

structure Senders (ι : Type*) where
  socket : Socket
  wmtx : Option ι
  threads : ι → Sender
  wire : Bytes

inductive SendAction (ι : Type*) where
  | lock (i : ι)
  /-- `bytes` is what the write returns. -/
  | write (i : ι) (bytes : Int)
  | unlock (i : ι)
  /-- A setter; they lock `wmtx` all the while. -/
  | configure (socket : Socket)

namespace Socket

/-- The head of the loop, up to the write. -/
def nextWrite (s : Socket) (buffer : Bytes) (total : Nat) : SendPoint :=
  if total < buffer.length then
    if s.useSSL && s.sslConn.isNone then .unlocking 1 else .writing buffer total
  else .unlocking 0

def firstWrite (s : Socket) (buffer : Bytes) : SendPoint :=
  if s.sockFd ≤ 0 then .unlocking 1 else s.nextWrite buffer 0

def wrote (s : Socket) (buffer : Bytes) (total : Nat) (bytes : Int) : SendPoint :=
  if 0 < bytes then s.nextWrite buffer (total + bytes.toNat) else .unlocking 2

end Socket

abbrev SendTrace (ι : Type*) := List (ι × Deed Bytes UInt8 Nat)

namespace Senders

variable {ι : Type*} [DecidableEq ι]

/-- No thread has begun a call. -/
def of (socket : Socket) (program : ι → List Bytes) : Senders ι :=
  ⟨socket, none, fun i => ⟨program i, .outside⟩, []⟩

def setThread (senders : Senders ι) (i : ι) (sender : Sender) : Senders ι :=
  { senders with threads := Function.update senders.threads i sender }

def lock (senders : Senders ι) (i : ι) : Option (Senders ι × SendTrace ι) :=
  match senders.wmtx, senders.threads i with
  | none, ⟨buffer :: todo, .outside⟩ =>
      some ({ senders.setThread i ⟨todo, senders.socket.firstWrite buffer⟩ with wmtx := some i },
        [(i, .enter buffer)])
  | _, _ => none

/-- At most the requested bytes are written. -/
def write (senders : Senders ι) (i : ι) (bytes : Int) : Option (Senders ι × SendTrace ι) :=
  match senders.threads i with
  | ⟨todo, .writing buffer total⟩ =>
      if bytes ≤ buffer.length - total then
        let items := (buffer.drop total).take bytes.toNat
        some ({ senders.setThread i ⟨todo, senders.socket.wrote buffer total bytes⟩ with
          wire := senders.wire ++ items }, [(i, .write items)])
      else none
  | _ => none

def unlock (senders : Senders ι) (i : ι) : Option (Senders ι × SendTrace ι) :=
  match senders.threads i with
  | ⟨todo, .unlocking code⟩ =>
      some ({ senders.setThread i ⟨todo, .outside⟩ with wmtx := none }, [(i, .leave code)])
  | _ => none

/-- The descriptor and the SSL pointer do not change. -/
def configure (senders : Senders ι) (socket : Socket) : Option (Senders ι × SendTrace ι) :=
  if senders.wmtx = none ∧ socket.sockFd = senders.socket.sockFd ∧
      socket.sslConn = senders.socket.sslConn then
    some ({ senders with socket }, [])
  else none

def step (senders : Senders ι) : SendAction ι → Option (Senders ι × SendTrace ι)
  | .lock i => senders.lock i
  | .write i bytes => senders.write i bytes
  | .unlock i => senders.unlock i
  | .configure socket => senders.configure socket

def run (senders : Senders ι) : List (SendAction ι) → Option (Senders ι × SendTrace ι)
  | [] => some (senders, [])
  | action :: actions => do
      let (next, deeds) ← senders.step action
      let (later, trace) ← next.run actions
      some (later, deeds ++ trace)

variable {senders next later : Senders ι} {action : SendAction ι} {actions : List (SendAction ι)}
  {deeds trace : SendTrace ι} {i : ι} {buffer : Bytes} {total : Nat}

/-! ## What a step can do -/

inductive Steps (senders : Senders ι) : Senders ι → SendTrace ι → Prop where
  | lock {i buffer todo} (free : senders.wmtx = none)
      (there : senders.threads i = ⟨buffer :: todo, .outside⟩) :
      Steps senders
        { senders.setThread i ⟨todo, senders.socket.firstWrite buffer⟩ with wmtx := some i }
        [(i, .enter buffer)]
  | write {i buffer todo total bytes} (there : senders.threads i = ⟨todo, .writing buffer total⟩)
      (requested : bytes ≤ (buffer.length : Int) - total) :
      Steps senders
        { senders.setThread i ⟨todo, senders.socket.wrote buffer total bytes⟩ with
          wire := senders.wire ++ (buffer.drop total).take bytes.toNat }
        [(i, .write ((buffer.drop total).take bytes.toNat))]
  | unlock {i todo code} (there : senders.threads i = ⟨todo, .unlocking code⟩) :
      Steps senders { senders.setThread i ⟨todo, .outside⟩ with wmtx := none } [(i, .leave code)]
  | configure {socket} (free : senders.wmtx = none)
      (sockFd : socket.sockFd = senders.socket.sockFd)
      (sslConn : socket.sslConn = senders.socket.sslConn) :
      Steps senders { senders with socket } []

theorem step_steps (ran : senders.step action = some (next, deeds)) : senders.Steps next deeds := by
  cases action with
  | lock i =>
      simp only [step, lock] at ran
      split at ran
      · rename_i buffer todo free there
        cases ran
        exact .lock free there
      · contradiction
  | write i bytes =>
      simp only [step, write] at ran
      split at ran
      · rename_i todo buffer total there
        split at ran
        · rename_i requested
          cases ran
          exact .write there requested
        · contradiction
      · contradiction
  | unlock i =>
      simp only [step, unlock] at ran
      split at ran
      · rename_i todo code there
        cases ran
        exact .unlock there
      · contradiction
  | configure socket =>
      simp only [step, configure] at ran
      split at ran
      · rename_i keeps
        cases ran
        exact .configure keeps.1 keeps.2.1 keeps.2.2
      · contradiction

theorem run_cons (ran : senders.run (action :: actions) = some (later, trace)) :
    ∃ next deeds rest, senders.Steps next deeds ∧ next.run actions = some (later, rest) ∧
      trace = deeds ++ rest := by
  obtain ⟨⟨next, deeds⟩, stepped, ran⟩ := Option.bind_eq_some_iff.mp ran
  obtain ⟨⟨after, rest⟩, goes, ran⟩ := Option.bind_eq_some_iff.mp ran
  cases ran
  exact ⟨next, deeds, rest, step_steps stepped, goes, rfl⟩

/-! ## The lock covers the loop -/

/-- Only the thread that has the lock is in `sendData`. -/
structure Exclusive (senders : Senders ι) : Prop where
  held : ∀ i, (senders.threads i).point ≠ .outside → senders.wmtx = some i
  fits : ∀ i, (senders.threads i).point.Fits senders.socket

theorem nextWrite_fits (s : Socket) : (s.nextWrite buffer total).Fits s := by
  unfold Socket.nextWrite
  split
  · rename_i more
    split
    · trivial
    · rename_i connected
      exact ⟨more, Bool.eq_false_iff.mpr connected⟩
  · trivial

theorem firstWrite_fits (s : Socket) : (s.firstWrite buffer).Fits s := by
  unfold Socket.firstWrite
  split
  · trivial
  · exact nextWrite_fits s

theorem wrote_fits (s : Socket) (bytes : Int) : (s.wrote buffer total bytes).Fits s := by
  unfold Socket.wrote
  split
  · exact nextWrite_fits s
  · trivial

theorem nextWrite_inside (s : Socket) : s.nextWrite buffer total ≠ .outside := by
  unfold Socket.nextWrite
  split
  · split <;> nofun
  · nofun

theorem firstWrite_inside (s : Socket) : s.firstWrite buffer ≠ .outside := by
  unfold Socket.firstWrite
  split
  · nofun
  · exact nextWrite_inside s

theorem wrote_inside (s : Socket) (bytes : Int) : s.wrote buffer total bytes ≠ .outside := by
  unfold Socket.wrote
  split
  · exact nextWrite_inside s
  · nofun

omit [DecidableEq ι] in
theorem Exclusive.of (socket : Socket) (program : ι → List Bytes) :
    (Senders.of socket program).Exclusive :=
  ⟨fun _ inside => absurd rfl inside, fun _ => trivial⟩

theorem Exclusive.setThread {wmtx : Option ι} {wire : Bytes} {sender : Sender}
    (exclusive : senders.Exclusive) (fits : sender.point.Fits senders.socket)
    (held : sender.point ≠ .outside → wmtx = some i)
    (others : ∀ j, j ≠ i → (senders.threads j).point ≠ .outside → wmtx = some j) :
    ({ senders.setThread i sender with wmtx, wire } : Senders ι).Exclusive := by
  constructor
  · show ∀ j, (Function.update senders.threads i sender j).point ≠ .outside → wmtx = some j
    intro j inside
    by_cases same : j = i
    · subst same
      rw [Function.update_self] at inside
      exact held inside
    · rw [Function.update_of_ne same] at inside
      exact others j same inside
  · intro j
    show (Function.update senders.threads i sender j).point.Fits senders.socket
    by_cases same : j = i
    · subst same
      rw [Function.update_self]
      exact fits
    · rw [Function.update_of_ne same]
      exact exclusive.fits j

theorem Exclusive.step (exclusive : senders.Exclusive) (steps : senders.Steps next deeds) :
    next.Exclusive := by
  cases steps with
  | @lock i buffer todo free there =>
      refine exclusive.setThread (firstWrite_fits _) (fun _ => rfl) fun j _ inside => ?_
      have held := exclusive.held j inside
      rw [free] at held
      contradiction
  | @write i buffer todo total bytes there requested =>
      have holder := exclusive.held i (by simp [there])
      refine exclusive.setThread (wrote_fits _ _) (fun _ => holder) fun j other inside => ?_
      exact exclusive.held j inside
  | @unlock i todo code there =>
      have holder := exclusive.held i (by simp [there])
      refine exclusive.setThread trivial (fun inside => absurd rfl inside) fun j other inside => ?_
      have held := exclusive.held j inside
      rw [holder, Option.some.injEq] at held
      exact absurd held.symm other
  | configure free sockFd sslConn =>
      have outside : ∀ i, (senders.threads i).point = .outside := by
        intro i
        by_contra inside
        have held := exclusive.held i inside
        rw [free] at held
        contradiction
      refine ⟨exclusive.held, fun i => ?_⟩
      show (senders.threads i).point.Fits _
      rw [outside i]
      trivial

/-- Threads enter one at a time and write only inside, and all that they write is on
the wire. -/
theorem Exclusive.orderly (exclusive : senders.Exclusive)
    (ran : senders.run actions = some (later, trace)) :
    Orderly senders.wmtx trace ∧ later.wire = senders.wire ++ written trace := by
  induction actions generalizing senders trace with
  | nil =>
      cases ran
      exact ⟨.nil, (List.append_nil _).symm⟩
  | cons action actions ih =>
      obtain ⟨next, deeds, rest, steps, goes, isTrace⟩ := run_cons ran
      subst isTrace
      obtain ⟨orderly, wire⟩ := ih (exclusive.step steps) goes
      cases steps with
      | lock free there =>
          rw [free]
          exact ⟨.enter orderly, wire⟩
      | @write i buffer todo total bytes there requested =>
          have holder := exclusive.held i (by simp [there])
          have same : senders.wmtx = some i := holder
          rw [show ({ senders.setThread i _ with wire := _ } : Senders ι).wmtx = some i from same]
            at orderly
          rw [holder]
          refine ⟨.write orderly, ?_⟩
          rw [wire, List.singleton_append, written, List.append_assoc]
      | @unlock i todo code there =>
          rw [exclusive.held i (by simp [there])]
          exact ⟨.leave orderly, wire⟩
      | configure free sockFd sslConn => exact ⟨orderly, wire⟩

/-! ## What a call contributes -/

/-- From `total` on, `sent` is put on the wire, and as by the loop if it comes to an end. -/
def Loops (s : Socket) (buffer : Bytes) (total : Nat) (sent : Bytes) (code : Option Nat) : Prop :=
  sent <+: buffer.drop total ∧ ∀ ended ∈ code, ∃ writes stop,
    s.sendLoop buffer.length total writes = (ended, stop) ∧ total ≤ stop ∧
      sent = (buffer.take stop).drop total

/-- What a thread still does from a point of the call on. -/
def Remains (s : Socket) (sent : Bytes) (code : Option Nat) : SendPoint → Prop
  | .outside => False
  | .writing buffer total => Loops s buffer total sent code
  | .unlocking last => sent = [] ∧ ∀ ended ∈ code, ended = last

variable {s : Socket} {sent : Bytes} {code : Option Nat} {bytes : Int}

theorem loops_of_ended {last : Nat} (empty : sent = []) (same : ∀ ended ∈ code, ended = last)
    (ends : s.sendLoop buffer.length total [] = (last, total)) : Loops s buffer total sent code := by
  subst empty
  refine ⟨List.nil_prefix, fun ended isEnded => ⟨[], total, ?_, Nat.le_refl _, ?_⟩⟩
  · rw [same ended isEnded, ends]
  · rw [List.drop_eq_nil_of_le (List.length_take_le _ _)]

theorem loops_of_nextWrite (remains : Remains s sent code (s.nextWrite buffer total)) :
    Loops s buffer total sent code := by
  unfold Socket.nextWrite at remains
  split at remains
  · rename_i more
    split at remains
    · rename_i refused
      refine loops_of_ended remains.1 remains.2 ?_
      rw [Socket.sendLoop, if_pos more, if_pos refused]
    · exact remains
  · rename_i all
    refine loops_of_ended remains.1 remains.2 ?_
    rw [Socket.sendLoop, if_neg all]

theorem loops_of_wrote (fits : (SendPoint.writing buffer total).Fits s)
    (requested : bytes ≤ (buffer.length : Int) - total)
    (remains : Remains s sent code (s.wrote buffer total bytes)) :
    Loops s buffer total ((buffer.drop total).take bytes.toNat ++ sent) code := by
  obtain ⟨more, connected⟩ := fits
  have refused : ¬ (s.useSSL && s.sslConn.isNone) = true := by
    rw [connected]
    nofun
  unfold Socket.wrote at remains
  split at remains
  · rename_i positive
    obtain ⟨part, ends⟩ := loops_of_nextWrite remains
    rw [← List.drop_drop] at part
    refine ⟨?_, fun ended isEnded => ?_⟩
    · obtain ⟨behind, isPart⟩ := part
      exact ⟨behind, by rw [List.append_assoc, isPart, List.take_append_drop]⟩
    · obtain ⟨writes, stop, loops, within, isSent⟩ := ends ended isEnded
      refine ⟨bytes.toNat :: writes, stop, ?_, by omega, ?_⟩
      · rw [Socket.sendLoop, if_pos more, if_neg refused, if_pos (by omega),
          Nat.min_eq_left (by omega), loops]
      · have written : (buffer.drop total).take bytes.toNat =
            ((buffer.take stop).drop total).take bytes.toNat := by
          rw [List.drop_take, List.take_take, Nat.min_eq_left (by omega)]
        rw [isSent, written, ← List.drop_drop, List.take_append_drop]
  · rename_i failed
    obtain ⟨empty, same⟩ := remains
    have nothing : (buffer.drop total).take bytes.toNat = [] := by
      rw [Int.toNat_of_nonpos (Int.not_lt.mp failed), List.take_zero]
    rw [empty, nothing, List.nil_append]
    refine ⟨List.nil_prefix, fun ended isEnded => ⟨[0], total, ?_, Nat.le_refl _, ?_⟩⟩
    · rw [Socket.sendLoop, if_pos more, if_neg refused, if_neg (Nat.lt_irrefl 0), same ended isEnded]
    · rw [List.drop_eq_nil_of_le (List.length_take_le _ _)]

/-- While a thread has the lock it alone goes on, with the socket as it is. -/
theorem Exclusive.remains (exclusive : senders.Exclusive) (holder : senders.wmtx = some i)
    (inside : (senders.threads i).point ≠ .outside)
    (ran : senders.run actions = some (later, trace)) :
    Remains senders.socket (output i trace) (result i trace) (senders.threads i).point := by
  induction actions generalizing senders trace with
  | nil =>
      cases ran
      cases point : (later.threads i).point with
      | outside => exact absurd point inside
      | writing buffer total => exact ⟨List.nil_prefix, by simp [result]⟩
      | unlocking last => exact ⟨rfl, by simp [result]⟩
  | cons action actions ih =>
      obtain ⟨next, deeds, rest, steps, goes, isTrace⟩ := run_cons ran
      subst isTrace
      have exclusiveNext := exclusive.step steps
      cases steps with
      | lock free there =>
          rw [free] at holder
          contradiction
      | @write j buffer todo total bytes there requested =>
          have same := exclusive.held j (by simp [there])
          rw [holder, Option.some.injEq] at same
          subst same
          have fits := exclusive.fits i
          rw [there] at fits
          have point : (Function.update senders.threads i
              ⟨todo, senders.socket.wrote buffer total bytes⟩ i).point =
                senders.socket.wrote buffer total bytes := by
            rw [Function.update_self]
          have stays := @wrote_inside buffer total senders.socket bytes
          rw [← point] at stays
          have rests := ih exclusiveNext holder stays goes
          rw [there]
          show Loops senders.socket buffer total (output i ((i, .write _) :: rest)) _
          rw [output, if_pos rfl]
          exact loops_of_wrote fits requested (point ▸ rests)
      | @unlock j todo last there =>
          have same := exclusive.held j (by simp [there])
          rw [holder, Option.some.injEq] at same
          subst same
          rw [there]
          refine ⟨?_, fun ended isEnded => ?_⟩
          · simp only [List.singleton_append, output, if_true]
          · simp only [List.singleton_append, result, if_true, Option.mem_def,
              Option.some.injEq] at isEnded
            exact isEnded.symm
      | configure free sockFd sslConn =>
          rw [free] at holder
          contradiction

/-- From the lock on a call does what it does alone. -/
theorem sendData_of_firstWrite (remains : Remains s sent code (s.firstWrite buffer)) :
    sent <+: buffer ∧ ∀ ended ∈ code, ∃ writes, s.sendData buffer writes = ⟨ended, sent⟩ := by
  unfold Socket.firstWrite at remains
  unfold Socket.sendData
  split at remains
  · rename_i closed
    obtain ⟨empty, same⟩ := remains
    subst empty
    refine ⟨List.nil_prefix, fun ended isEnded => ⟨[], ?_⟩⟩
    rw [if_pos closed, same ended isEnded]
  · rename_i opened
    obtain ⟨part, ends⟩ := loops_of_nextWrite remains
    refine ⟨part, fun ended isEnded => ?_⟩
    obtain ⟨writes, stop, loops, -, isSent⟩ := ends ended isEnded
    exact ⟨writes, by rw [if_neg opened, loops, isSent, List.drop_zero]⟩

/-- Each section does what `sendData` does with the same descriptor and SSL pointer. -/
theorem Exclusive.visits_send (exclusive : senders.Exclusive)
    (ran : senders.run actions = some (later, trace)) :
    ∀ visit ∈ visits trace, visit.output <+: visit.call ∧
      ∀ ended ∈ visit.result, ∃ (s : Socket) (writes : List Nat),
        s.sockFd = senders.socket.sockFd ∧ s.sslConn = senders.socket.sslConn ∧
          s.sendData visit.call writes = ⟨ended, visit.output⟩ := by
  induction actions generalizing senders trace with
  | nil =>
      cases ran
      nofun
  | cons action actions ih =>
      obtain ⟨next, deeds, rest, steps, goes, isTrace⟩ := run_cons ran
      subst isTrace
      have exclusiveNext := exclusive.step steps
      have further := ih exclusiveNext goes
      cases steps with
      | @lock i buffer todo free there =>
          show ∀ visit ∈ ⟨i, buffer, output i rest, result i rest⟩ :: visits rest, _
          rw [List.forall_mem_cons]
          refine ⟨?_, further⟩
          have point : (Function.update senders.threads i
              ⟨todo, senders.socket.firstWrite buffer⟩ i).point =
                senders.socket.firstWrite buffer := by
            rw [Function.update_self]
          have inside := @firstWrite_inside buffer senders.socket
          rw [← point] at inside
          have remains := exclusiveNext.remains rfl inside goes
          obtain ⟨part, ends⟩ := sendData_of_firstWrite (point ▸ remains)
          refine ⟨part, fun ended isEnded => ?_⟩
          obtain ⟨writes, sends⟩ := ends ended isEnded
          exact ⟨senders.socket, writes, rfl, rfl, sends⟩
      | write there requested => exact further
      | unlock there => exact further
      | @configure socket free sockFd sslConn =>
          intro visit member
          obtain ⟨part, ends⟩ := further visit member
          refine ⟨part, fun ended isEnded => ?_⟩
          obtain ⟨s, writes, sameFd, sameConn, sends⟩ := ends ended isEnded
          exact ⟨s, writes, sameFd.trans sockFd, sameConn.trans sslConn, sends⟩

/-- The calls of a thread that have taken the lock. -/
def calls (i : ι) (trace : SendTrace ι) : List Bytes :=
  ((visits trace).filter fun visit => visit.thread = i).map Visit.call

theorem setThread_todo {sender : Sender} (same : sender.todo = (senders.threads i).todo) (j : ι) :
    ((senders.setThread i sender).threads j).todo = (senders.threads j).todo := by
  show (Function.update senders.threads i sender j).todo = _
  by_cases equal : j = i
  · rw [equal, Function.update_self, same]
  · rw [Function.update_of_ne equal]

/-- The calls of a thread are made one after another, each once. -/
theorem calls_prefix (i : ι) (ran : senders.run actions = some (later, trace)) :
    calls i trace <+: (senders.threads i).todo := by
  induction actions generalizing senders trace with
  | nil =>
      cases ran
      exact List.nil_prefix
  | cons action actions ih =>
      obtain ⟨next, deeds, rest, steps, goes, isTrace⟩ := run_cons ran
      subst isTrace
      have further := ih goes
      cases steps with
      | @lock j buffer todo free there =>
          have first : calls i ((j, .enter buffer) :: rest) =
              if j = i then buffer :: calls i rest else calls i rest := by
            simp only [calls, visits, List.filter_cons, decide_eq_true_eq]
            split <;> rfl
          show calls i ((j, .enter buffer) :: rest) <+: _
          rw [first]
          change calls i rest <+: (Function.update senders.threads j _ i).todo at further
          split
          · rename_i same
            subst same
            rw [Function.update_self] at further
            rw [there]
            exact List.prefix_cons_inj buffer |>.mpr further
          · rename_i other
            rw [Function.update_of_ne (Ne.symm other)] at further
            exact further
      | @write j buffer todo total bytes there requested =>
          rw [← @setThread_todo _ _ senders j ⟨todo, senders.socket.wrote buffer total bytes⟩
            (by rw [there]) i]
          exact further
      | @unlock j todo last there =>
          rw [← @setThread_todo _ _ senders j ⟨todo, .outside⟩ (by rw [there]) i]
          exact further
      | configure free sockFd sslConn => exact further

/-- What a call puts on the wire: the whole buffer if it returns 0, nothing if it returns
1, a proper prefix if it returns 2; and some prefix before it returns. -/
def Contributes (visit : Visit ι Bytes UInt8 Nat) : Prop :=
  match visit.result with
  | none => visit.output <+: visit.call
  | some code => code = 0 ∧ visit.output = visit.call ∨ code = 1 ∧ visit.output = [] ∨
      code = 2 ∧ visit.output <+: visit.call ∧ visit.output ≠ visit.call

theorem Exclusive.contributes (exclusive : senders.Exclusive)
    (ran : senders.run actions = some (later, trace)) : ∀ visit ∈ visits trace, Contributes visit := by
  intro visit member
  obtain ⟨part, ends⟩ := exclusive.visits_send ran visit member
  unfold Contributes
  cases ended : visit.result with
  | none => exact part
  | some code =>
      obtain ⟨s, writes, -, -, sends⟩ := ends code ended
      rcases @Socket.sendData_cases s visit.call writes with all | nothing | ⟨failed, short⟩
      · rw [sends, Sending.mk.injEq] at all
        exact .inl all
      · rw [sends, Sending.mk.injEq] at nothing
        exact .inr (.inl nothing)
      · rw [sends] at failed short
        exact .inr (.inr ⟨failed, short⟩)

/-- Messages are atomic on the wire: in every run of any threads that send, the wire has
the contributions of the calls in the order in which they took the lock, and the calls of
a thread are those of its program in their order. -/
theorem messages_atomic {socket : Socket} {program : ι → List Bytes}
    (ran : (of socket program).run actions = some (later, trace)) :
    later.wire = (visits trace).flatMap Visit.output ∧
      (∀ visit ∈ visits trace, Contributes visit) ∧ ∀ i, calls i trace <+: program i := by
  have exclusive := Exclusive.of socket program
  obtain ⟨orderly, wire⟩ := exclusive.orderly ran
  exact ⟨wire.trans orderly.written_visits, exclusive.contributes ran, fun i => calls_prefix i ran⟩

def both : Bool → List Bytes
  | true => [[1, 2, 3], [4]]
  | false => [[9, 8]]

/-- A call in two writes, one whose second write fails, and one more. -/
theorem messages_atomic_two :
    ∃ later trace, (of { Socket.new with sockFd := 5 } both).run [.lock true, .write true 2,
        .write true 1, .unlock true, .lock false, .write false 1, .write false (-1),
        .unlock false, .lock true, .write true 1, .unlock true] = some (later, trace) ∧
      later.wire = [1, 2, 3, 9, 4] ∧ later.wire = (visits trace).flatMap Visit.output ∧
      (∀ visit ∈ visits trace, Contributes visit) ∧ ∀ i, calls i trace <+: both i := by
  have result : ((of { Socket.new with sockFd := 5 } both).run [.lock true, .write true 2,
      .write true 1, .unlock true, .lock false, .write false 1, .write false (-1),
      .unlock false, .lock true, .write true 1, .unlock true]).map (fun ran => ran.1.wire) =
        some [1, 2, 3, 9, 4] := by
    decide +kernel
  obtain ⟨⟨later, trace⟩, ran, wire⟩ := Option.map_eq_some_iff.mp result
  exact ⟨later, trace, ran, wire, messages_atomic ran⟩

end Senders

end SynapTCP
