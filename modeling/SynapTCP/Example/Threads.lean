import SynapTCP.Data.SharedCell
import SynapTCP.Example.Reception
import SynapTCP.Frame.Loop

namespace SynapTCP

open Data DataFrame ProtocolFrame

/-! # Callbacks on several threads

The example registers its callback to be run on a thread for each connection, and `ret`
is a static variable: all these threads share it.
-/

/-- Where a thread is in `receptionCallbackFunction`. -/
inductive CallbackPhase where
  | outside
  /-- `ret` is assigned, `ret == 0` comes next. -/
  | received
  | accepted
  /-- `ret == 4` comes next. -/
  | failed
  /-- `errorMessage[ret - 1]` comes next. -/
  | undescribed
  | answered
deriving DecidableEq

/-- What a call does with its connection: the echo, the details of invalid data, or a
message by its index. -/
inductive Ending where
  | echoed (sending : Sending)
  | detailed
  | described (message : Int)
deriving DecidableEq

structure CallbackThread (F : Type) where
  connection : SynapSock F
  wire : Wire
  phase : CallbackPhase
  endings : List Ending

inductive CallbackLook where
  | testSuccess
  | testInvalid
  | describe
deriving DecidableEq

inductive CallbackAct where
  | echo (writes : List Nat)
  | destroyFormat
deriving DecidableEq

abbrev CallbackStep := SharedStep Unit CallbackLook CallbackAct

namespace CallbackThread

variable {F : Type}

/-- A call ends in this way, but for `destroyFormat`. -/
def ends (thread : CallbackThread F) (ending : Ending) : CallbackThread F :=
  { thread with phase := .answered, endings := thread.endings ++ [ending] }

def look (thread : CallbackThread F) (ret : Nat) : CallbackLook → Option (CallbackThread F)
  | .testSuccess =>
      if thread.phase = .received then
        some { thread with phase := if ret = 0 then .accepted else .failed }
      else none
  | .testInvalid =>
      if thread.phase = .failed then
        some (if ret = 4 then thread.ends .detailed else { thread with phase := .undescribed })
      else none
  | .describe =>
      if thread.phase = .undescribed then some (thread.ends (.described (ret - 1))) else none

def act (thread : CallbackThread F) : CallbackAct → Option (CallbackThread F)
  | .echo writes =>
      if thread.phase = .accepted then
        some (thread.ends
          (.echoed (thread.connection.toSocket.sendData thread.connection.data writes)))
      else none
  | .destroyFormat =>
      if thread.phase = .answered then
        some { thread with connection := thread.connection.destroyFormat, phase := .outside }
      else none

variable [ProtocolFrame F]

/-- The format is set up, the data received and `ret` assigned. -/
def receive (thread : CallbackThread F) : Option (Nat × CallbackThread F) :=
  if thread.phase = .outside then
    (thread.connection.prepared.receiveFramedData thread.wire).map fun r =>
      (r.code, { thread with connection := r.sock, wire := r.wire, phase := .received })
  else none

end CallbackThread

/-- The threads with `ret`. -/
def callbacks (F : Type) [ProtocolFrame F] :
    Sharing Nat (CallbackThread F) Unit CallbackLook CallbackAct where
  write thread _ := thread.receive
  look := CallbackThread.look
  act := CallbackThread.act

namespace Served

variable {F : Type}

/-- How the call ends that a call of the callback alone describes. -/
def ending (served : Served F) : Ending :=
  match served.echo with
  | some sending => .echoed sending
  | none => if served.ret = 4 then .detailed else .described (served.ret - 1)

end Served

variable {F : Type} [ProtocolFrame F]

/-- The object and the wire behind calls. -/
def behind (connection : SynapSock F) (w : Wire) (calls : List (Served F)) : SynapSock F × Wire :=
  (calls.getLast?.map fun last => (last.connection, last.wire)).getD (connection, w)

/-- Within a call, `reception` being what it received.  `known` tells whether `ret` is
what this thread assigned. -/
structure CallbackThread.Amid (known : Prop) (before : SynapSock F × Wire) (ret : Nat)
    (thread : CallbackThread F) (reception : FramedReception F) : Prop where
  received : before.1.prepared.receiveFramedData before.2 = some reception
  sock : thread.connection = reception.sock
  wire : thread.wire = reception.wire
  code : known → ret = reception.code
  accepted : known → thread.phase = .accepted → ret = 0
  failed : known → thread.phase = .failed → ret ≠ 0
  undescribed : known → thread.phase = .undescribed → ret ≠ 0 ∧ ret ≠ 4

/-- How far a thread is behind its complete calls. -/
def CallbackThread.Progress (known : Prop) (before : SynapSock F × Wire) (ret : Nat)
    (thread : CallbackThread F) : Prop :=
  if thread.phase = .outside then (thread.connection, thread.wire) = before
  else if thread.phase = .answered then (thread.connection.destroyFormat, thread.wire) = before
  else ∃ reception, thread.Amid known before ret reception

/-- A call echoes what it received itself or nothing; if it knows `ret`, it ends as it
does alone. -/
structure Served.Ends (known : Prop) (call : Served F) (ending : Ending) : Prop where
  own : ∀ sending, ending = .echoed sending → sending.sent <+: call.connection.data
  alone : known → ending = call.ending

/-- What a thread has done belongs to so many calls of the callback on its connection. -/
def CallbackThread.Calls (known : Prop) (connection : SynapSock F) (w : Wire)
    (endings : List Ending) (ret : Nat) (thread : CallbackThread F) : Prop :=
  ∃ echoes calls soFar, receptionCallbacks connection w echoes = some calls ∧
    thread.endings = endings ++ soFar ∧ List.Forall₂ (Served.Ends known) calls soFar ∧
    thread.Progress known (behind connection w calls) ret

section Solo

variable {connection : SynapSock F} {w : Wire} {echoes : List (List Nat)} {writes : List Nat}
  {calls : List (Served F)} {served : Served F} {endings : List Ending} {ret : Nat}
  {thread : CallbackThread F}

omit [ProtocolFrame F] in
theorem behind_cons : behind connection w (served :: calls) =
    behind served.connection served.wire calls := by
  cases calls with
  | nil => rfl
  | cons next calls => rw [behind, behind, List.getLast?_cons_cons, List.getLast?_cons]; rfl

omit [ProtocolFrame F] in
theorem endings_alone {soFar : List Ending}
    (ends : List.Forall₂ (Served.Ends True) calls soFar) : soFar = calls.map Served.ending := by
  induction ends with
  | nil => rfl
  | cons call _ ih => rw [List.map_cons, call.alone trivial, ih]

omit [ProtocolFrame F] in
theorem behind_append : behind connection w (calls ++ [served]) =
    (served.connection, served.wire) := by
  simp [behind]

theorem receptionCallbacks_append (called : receptionCallbacks connection w echoes = some calls)
    (last : receptionCallbackFunction (behind connection w calls).1 (behind connection w calls).2
      writes = some served) :
    receptionCallbacks connection w (echoes ++ [writes]) = some (calls ++ [served]) := by
  induction echoes generalizing connection w calls with
  | nil =>
      cases called
      have alone : receptionCallbackFunction connection w writes = some served := last
      simp [receptionCallbacks, alone]
  | cons first echoes ih =>
      obtain ⟨head, headCalled, more⟩ := Option.bind_eq_some_iff.mp called
      obtain ⟨others, othersCalled, rfl⟩ := Option.map_eq_some_iff.mp more
      rw [behind_cons] at last
      rw [List.cons_append, receptionCallbacks, headCalled, Option.bind_some, ih othersCalled last]
      rfl

namespace CallbackThread

variable {known : Prop} {before : SynapSock F × Wire} {reception : FramedReception F}
  {ending : Ending} {soFar : List Ending} {ret' : Nat} {thread' : CallbackThread F}
  {step : CallbackStep}

theorem Progress.amid (progress : thread.Progress known before ret)
    (entered : thread.phase ≠ .outside) (unanswered : thread.phase ≠ .answered) :
    ∃ reception, thread.Amid known before ret reception := by
  rw [Progress, if_neg entered, if_neg unanswered] at progress
  exact progress

theorem Amid.progress (amid : thread.Amid known before ret reception)
    (entered : thread.phase ≠ .outside) (unanswered : thread.phase ≠ .answered) :
    thread.Progress known before ret := by
  rw [Progress, if_neg entered, if_neg unanswered]
  exact ⟨reception, amid⟩

theorem Amid.ends (writes : List Nat)
    (called : receptionCallbacks connection w echoes = some calls)
    (split : thread.endings = endings ++ soFar)
    (earlier : List.Forall₂ (Served.Ends known) calls soFar)
    (amid : thread.Amid known (behind connection w calls) ret reception)
    (now : (reception.answered writes).Ends known ending) :
    (thread.ends ending).Calls known connection w endings ret := by
  have last : receptionCallbackFunction (behind connection w calls).1
      (behind connection w calls).2 writes = some (reception.answered writes) := by
    rw [receptionCallbackFunction, amid.received]
    rfl
  have answered : (thread.ends ending).phase = .answered := rfl
  refine ⟨_, _, soFar ++ [ending], receptionCallbacks_append called last, ?_,
    List.rel_append earlier (.cons now .nil), ?_⟩
  · rw [← List.append_assoc, ← split]
    rfl
  · rw [behind_append, Progress, if_neg (by simp [answered]), if_pos answered]
    simp only [CallbackThread.ends, FramedReception.answered, amid.sock, amid.wire]

theorem Calls.receive (so : thread.Calls known connection w endings ret)
    (moves : thread.receive = some (ret', thread')) :
    thread'.Calls known connection w endings ret' := by
  obtain ⟨echoes, calls, soFar, called, split, earlier, progress⟩ := so
  simp only [CallbackThread.receive, Option.ite_none_right_eq_some] at moves
  obtain ⟨outside, moves⟩ := moves
  rw [Progress, if_pos outside] at progress
  obtain ⟨reception, received, same⟩ := Option.map_eq_some_iff.mp moves
  cases same
  refine ⟨echoes, calls, soFar, called, split, earlier,
    @Amid.progress _ _ _ _ _ _ reception ?_ (by simp) (by simp)⟩
  rw [← progress]
  exact ⟨received, rfl, rfl, fun _ => rfl, by simp, by simp, by simp⟩

theorem Calls.look {what : CallbackLook} (so : thread.Calls known connection w endings ret)
    (moves : thread.look ret what = some thread') :
    thread'.Calls known connection w endings ret := by
  obtain ⟨echoes, calls, soFar, called, divided, earlier, progress⟩ := so
  cases what with
  | testSuccess =>
      simp only [CallbackThread.look, Option.ite_none_right_eq_some, Option.some.injEq] at moves
      obtain ⟨phase, rfl⟩ := moves
      obtain ⟨reception, amid⟩ := progress.amid (by simp [phase]) (by simp [phase])
      refine ⟨echoes, calls, soFar, called, divided, earlier,
        @Amid.progress _ _ _ _ _ _ reception ?_ ?_ ?_⟩
      · exact {
          received := amid.received
          sock := amid.sock
          wire := amid.wire
          code := amid.code
          accepted := fun _ accepted => by
            by_contra failed
            rw [if_neg failed] at accepted
            contradiction
          failed := fun _ failed zero => by
            rw [if_pos zero] at failed
            contradiction
          undescribed := fun _ undescribed => by
            split at undescribed <;> contradiction }
      · dsimp only
        split <;> simp
      · dsimp only
        split <;> simp
  | testInvalid =>
      simp only [CallbackThread.look, Option.ite_none_right_eq_some, Option.some.injEq] at moves
      obtain ⟨phase, rfl⟩ := moves
      obtain ⟨reception, amid⟩ := progress.amid (by simp [phase]) (by simp [phase])
      split
      · rename_i invalid
        refine Amid.ends [] called divided earlier amid
          ⟨by simp, fun own => ?_⟩
        have code : reception.code = 4 := (amid.code own).symm.trans invalid
        simp [FramedReception.answered, Served.ending, code]
      · rename_i valid
        exact ⟨echoes, calls, soFar, called, divided, earlier,
          @Amid.progress _ _ _ _ _ _ reception
            ⟨amid.received, amid.sock, amid.wire, amid.code, by simp, by simp,
              fun own _ => ⟨amid.failed own phase, valid⟩⟩ (by simp) (by simp)⟩
  | describe =>
      simp only [CallbackThread.look, Option.ite_none_right_eq_some, Option.some.injEq] at moves
      obtain ⟨phase, rfl⟩ := moves
      obtain ⟨reception, amid⟩ := progress.amid (by simp [phase]) (by simp [phase])
      refine Amid.ends [] called divided earlier amid
        ⟨by simp, fun own => ?_⟩
      obtain ⟨failed, valid⟩ := amid.undescribed own phase
      rw [amid.code own] at failed valid ⊢
      simp [FramedReception.answered, Served.ending, failed, valid]

theorem Calls.act {what : CallbackAct} (so : thread.Calls known connection w endings ret)
    (moves : thread.act what = some thread') :
    thread'.Calls known connection w endings ret := by
  obtain ⟨echoes, calls, soFar, called, split, earlier, progress⟩ := so
  cases what with
  | echo writes =>
      simp only [CallbackThread.act, Option.ite_none_right_eq_some, Option.some.injEq] at moves
      obtain ⟨phase, rfl⟩ := moves
      obtain ⟨reception, amid⟩ := progress.amid (by simp [phase]) (by simp [phase])
      refine Amid.ends writes called split earlier amid
        ⟨fun sending sends => ?_, fun own => ?_⟩
      · cases sends
        rw [amid.sock]
        exact sendData_prefix
      · have code : reception.code = 0 := (amid.code own).symm.trans (amid.accepted own phase)
        simp [FramedReception.answered, Served.ending, code, amid.sock]
  | destroyFormat =>
      simp only [CallbackThread.act, Option.ite_none_right_eq_some, Option.some.injEq] at moves
      obtain ⟨phase, rfl⟩ := moves
      refine ⟨echoes, calls, soFar, called, split, earlier, ?_⟩
      rw [Progress, if_neg (by simp [phase]), if_pos phase] at progress
      rw [Progress, if_pos rfl]
      exact progress

theorem Calls.move (so : thread.Calls known connection w endings ret)
    (moves : (callbacks F).move ret thread step = some (ret', thread')) :
    thread'.Calls known connection w endings ret' := by
  cases step with
  | write step => exact so.receive moves
  | look step =>
      obtain ⟨later, looked, same⟩ := Option.map_eq_some_iff.mp moves
      cases same
      exact so.look looked
  | act step =>
      obtain ⟨later, acted, same⟩ := Option.map_eq_some_iff.mp moves
      cases same
      exact so.act acted

/-- Without knowledge of `ret` its value does not matter. -/
theorem Calls.unknown (so : thread.Calls False connection w endings ret) :
    thread.Calls False connection w endings ret' := by
  obtain ⟨echoes, calls, soFar, called, split, earlier, progress⟩ := so
  refine ⟨echoes, calls, soFar, called, split, earlier, ?_⟩
  unfold Progress at progress ⊢
  split
  · rename_i outside
    rwa [if_pos outside] at progress
  · rename_i entered
    rw [if_neg entered] at progress
    split
    · rename_i answered
      rwa [if_pos answered] at progress
    · rename_i unanswered
      rw [if_neg unanswered] at progress
      obtain ⟨reception, amid⟩ := progress
      exact ⟨reception, amid.received, amid.sock, amid.wire, False.elim, False.elim, False.elim,
        False.elim⟩

theorem Calls.run {steps : List CallbackStep}
    (so : thread.Calls known connection w endings ret)
    (ran : (callbacks F).runAlone ret thread steps = some (ret', thread')) :
    thread'.Calls known connection w endings ret' := by
  induction steps generalizing ret thread with
  | nil =>
      cases ran
      exact so
  | cons step steps ih =>
      obtain ⟨moved, moves, more⟩ := Option.bind_eq_some_iff.mp ran
      exact ih (so.move moves) more

theorem Calls.start (outside : thread.phase = .outside) :
    thread.Calls known thread.connection thread.wire thread.endings ret := by
  refine ⟨[], [], [], rfl, (List.append_nil _).symm, .nil, ?_⟩
  rw [Progress, if_pos outside]
  rfl

end CallbackThread

end Solo

/-! ## What the codes allow -/

section Codes

variable {framing last : Framing F} {f : F} {code : Nat}

theorem Framing.receiveElement_codes : (framing.receiveElement f).1 = 0 ∨
    (framing.receiveElement f).1 = 2 ∨ (framing.receiveElement f).1 = 4 := by
  unfold receiveElement receiveMarker receiveFixed receiveUntill
  dsimp only
  repeat' split
  all_goals simp

theorem Framing.pass_leave_code (left : framing.pass = .leave code last) :
    code = 2 ∨ code = 4 := by
  unfold pass at left
  dsimp only at left
  split at left
  · cases left
    exact .inr rfl
  · rename_i tmp _
    split at left
    · rename_i failed
      cases left
      exact receiveElement_codes.resolve_left failed
    · split at left
      · cases left
        exact .inr rfl
      · contradiction

theorem SynapSock.receiveFramedData_codes {sock : SynapSock F} {w : Wire} {r : FramedReception F}
    (set : sock.frameFormat ≠ []) (received : sock.receiveFramedData w = some r) :
    r.code = 0 ∨ r.code = 2 ∨ r.code = 4 := by
  rw [receiveFramedData, if_neg set] at received
  dsimp only at received
  generalize ended : (sock.opening w).frameLoop = result at received
  obtain ⟨code, last⟩ := result
  rw [(conclude_code received).1]
  rcases Framing.frameLoop_reaches ended with ⟨zero, -, -⟩ | ⟨before, -, -, left⟩
  · exact .inl zero
  · exact .inr (Framing.pass_leave_code left)

theorem SynapSock.prepared_set (connection : SynapSock F) : connection.prepared.frameFormat ≠ [] := by
  unfold prepared
  split
  · exact List.cons_ne_nil _ _
  · assumption

/-- The only message that a call gives is the second, `Timeout`. -/
theorem receptionCallbackFunction_described {connection : SynapSock F} {w : Wire}
    {writes : List Nat} {served : Served F} {message : Int}
    (called : receptionCallbackFunction connection w writes = some served)
    (described : served.ending = .described message) : message = 1 := by
  obtain ⟨reception, received, rfl⟩ := Option.map_eq_some_iff.mp called
  rcases SynapSock.receiveFramedData_codes connection.prepared_set received with
    code | code | code
  · simp [Served.ending, FramedReception.answered, code] at described
  · simpa [Served.ending, FramedReception.answered, code] using described.symm
  · simp [Served.ending, FramedReception.answered, code] at described

theorem receptionCallbacks_described {connection : SynapSock F} {w : Wire}
    {echoes : List (List Nat)} {calls : List (Served F)} {message : Int}
    (called : receptionCallbacks connection w echoes = some calls)
    (described : .described message ∈ calls.map Served.ending) : message = 1 := by
  induction echoes generalizing connection w calls with
  | nil =>
      cases called
      contradiction
  | cons writes echoes ih =>
      obtain ⟨first, firstCalled, more⟩ := Option.bind_eq_some_iff.mp called
      obtain ⟨others, othersCalled, rfl⟩ := Option.map_eq_some_iff.mp more
      rcases List.mem_cons.mp described with here | later
      · exact receptionCallbackFunction_described firstCalled here.symm
      · exact ih othersCalled later

end Codes

section Together

variable {ι : Type} [DecidableEq ι] {threads : ι → CallbackThread F}
  {steps : List (ι × CallbackStep)} {ret : Nat} {later : Nat × (ι → CallbackThread F)}

/-- The callbacks of all threads, step by step in any order: each thread receives what it
receives alone on its connection, and what it echoes in a call is what it received in
that call, or the front of it. -/
theorem callbacks_separate (outside : ∀ i, (threads i).phase = .outside)
    (ran : (callbacks F).run ret threads steps = some later) (i : ι) :
    ∃ echoes calls soFar,
      receptionCallbacks (threads i).connection (threads i).wire echoes = some calls ∧
      (later.2 i).endings = (threads i).endings ++ soFar ∧
      List.Forall₂ (fun call ending => ∀ sending, ending = .echoed sending →
        sending.sent <+: call.connection.data) calls soFar ∧
      ((later.2 i).phase = .outside → ((later.2 i).connection, (later.2 i).wire) =
        behind (threads i).connection (threads i).wire calls) := by
  have kept := @Sharing.run_keeps ι _ _ _ _ _ _ (callbacks F) ret threads steps later
    (fun i thread => thread.Calls False (threads i).connection (threads i).wire
      (threads i).endings 0)
    (fun i cell own step moved so moves => (so.unknown.move moves).unknown)
    (fun i => .start (outside i)) ran i
  obtain ⟨echoes, calls, soFar, called, split, ends, progress⟩ := kept
  refine ⟨echoes, calls, soFar, called, split, ends.imp fun _ _ call => call.own, fun idle => ?_⟩
  rw [CallbackThread.Progress, if_pos idle] at progress
  exact progress

/-- Where no thread assigns `ret` between that of another and the last look that the
other takes at it, each thread echoes and reports what it does alone on its connection,
and no message but `Timeout` is asked for. -/
theorem callbacks_undisturbed (outside : ∀ i, (threads i).phase = .outside)
    (ran : (callbacks F).run ret threads steps = some later)
    (undisturbed : Sharing.Undisturbed none steps) (i : ι) :
    ∃ echoes calls,
      receptionCallbacks (threads i).connection (threads i).wire echoes = some calls ∧
      (later.2 i).endings = (threads i).endings ++ calls.map Served.ending ∧
      (∀ message, .described message ∈ calls.map Served.ending → message = 1) ∧
      ((later.2 i).phase = .outside → ((later.2 i).connection, (later.2 i).wire) =
        behind (threads i).connection (threads i).wire calls) := by
  obtain ⟨last, alone⟩ := Sharing.runAlone_of_run ran undisturbed i ret (by simp)
  obtain ⟨echoes, calls, soFar, called, split, ends, progress⟩ :=
    (@CallbackThread.Calls.start _ _ _ _ True (outside i)).run alone
  refine ⟨echoes, calls, called, by rw [split, endings_alone ends],
    fun message => receptionCallbacks_described called, fun idle => ?_⟩
  rw [CallbackThread.Progress, if_pos idle] at progress
  exact progress

end Together

/-- One client sends the frame of the example, the other a start mark and an unknown
command. -/
def guests (valid : Bool) : CallbackThread ProtocolElement where
  connection := visitor
  wire :=
    { polls := []
      reads := if valid then [.chunk (.of 0x31 [0x32, 0x33, 0x34, 0x35, 0x36, 0x37, 0x38, 0x15,
        0x90, 0x39, 0x30, 0x2D, 0x3D])] else [.chunk (.of 0x31 [0x32, 0x33, 0x34, 7])]
      stray := 0 }
  phase := .outside
  endings := []

/-- The one thread receives while the other echoes. -/
def apart : List (Bool × CallbackStep) :=
  [(true, .write ()), (true, .look .testSuccess), (false, .write ()), (true, .act (.echo [14])),
    (false, .look .testSuccess), (true, .act .destroyFormat), (false, .look .testInvalid)]

theorem callbacks_undisturbed_apart :
    ∃ later, (callbacks ProtocolElement).run 0 guests apart = some later ∧ ∀ valid,
      ∃ echoes calls, receptionCallbacks visitor (guests valid).wire echoes = some calls ∧
        (later.2 valid).endings = [] ++ calls.map Served.ending ∧
        (∀ message, .described message ∈ calls.map Served.ending → message = 1) ∧
        ((later.2 valid).phase = .outside → ((later.2 valid).connection, (later.2 valid).wire) =
          behind visitor (guests valid).wire calls) := by
  have runs : ((callbacks ProtocolElement).run 0 guests apart).isSome = true := by
    decide +kernel
  obtain ⟨later, ran⟩ := Option.isSome_iff_exists.mp runs
  exact ⟨later, ran, fun valid => callbacks_undisturbed (fun _ => rfl) ran
    ⟨rfl, rfl, rfl, trivial⟩ valid⟩

/-- The one thread receives before the other has looked at `ret`. -/
def crossing : List (Bool × CallbackStep) :=
  [(false, .write ()), (true, .write ()), (false, .look .testSuccess),
    (false, .act (.echo [5]))]

theorem callbacks_separate_crossing :
    ∃ later, (callbacks ProtocolElement).run 0 guests crossing = some later ∧ ∀ valid,
      ∃ echoes calls soFar, receptionCallbacks visitor (guests valid).wire echoes = some calls ∧
        (later.2 valid).endings = [] ++ soFar ∧
        List.Forall₂ (fun call ending => ∀ sending, ending = .echoed sending →
          sending.sent <+: call.connection.data) calls soFar ∧
        ((later.2 valid).phase = .outside → ((later.2 valid).connection, (later.2 valid).wire) =
          behind visitor (guests valid).wire calls) := by
  have runs : ((callbacks ProtocolElement).run 0 guests crossing).isSome = true := by
    decide +kernel
  obtain ⟨later, ran⟩ := Option.isSome_iff_exists.mp runs
  exact ⟨later, ran, fun valid => callbacks_separate (fun _ => rfl) ran valid⟩

/-- What the one thread has refused is echoed there. -/
example : ((callbacks ProtocolElement).run 0 guests crossing).map
    (fun later => (later.2 false).endings) =
      some [.echoed ⟨0, [0x31, 0x32, 0x33, 0x34, 7]⟩] := by
  decide +kernel

end SynapTCP
