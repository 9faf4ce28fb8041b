import SynapTCP.Data.Throughout
import SynapTCP.Frame.RoundTrip

namespace SynapTCP

open Data DataFrame

/-! # Calls with and without a format

The methods of `src/synapsock.cpp` that work on `frameFormat`, which is null in a new
object and again behind each `destroyFormat`.
-/

/-- What the element library does with formats: making an element, `+=` on a format, and
the data between two elements.  What is added to is still there. -/
structure FormatLibrary (F : Type) where
  construct : FrameType → Nat → Bytes → Option (Callback F) → Option (Callback F) → F
  append : List F → List F → List F
  getSpecificDataAsVector : List F → Option Nat → Option Nat → Bytes
  append_ne_nil : ∀ format obj, format ≠ [] → append format obj ≠ []

/-- An argument is an element with those that it links to. -/
inductive FormatCall (F : Type) where
  | assign (first : F) (rest : List F)
  | addAssign (first : F) (rest : List F)
  | add (first : F) (rest : List F)
  | destroyFormat
  | sendFramedData (writes : List Nat)
  | receiveFramedData (wire : Wire)
  | getSpecificBufferAsVector (first last : FrameType)
  | getSpecificBufferBetween (first last : Option Nat)
  | elementAt (idx : Int)
  | elementOf (type : FrameType)
  | elementOfAt (type : FrameType) (idx : Int)

inductive Answer where
  | nothing
  | code (code : Nat)
  | bytes (bytes : Bytes)
  | element (position : Option Nat)

/-- How a call ends: it uses `frameFormat` although it is null, it has no outcome for
another reason, or it returns. -/
inductive Performed (F : Type) where
  | nullFormat
  | undefined
  | returned (answer : Answer) (sock : SynapSock F)

namespace SynapSock

variable {F : Type}

/-- A new object. -/
def fresh (socket : Socket) : SynapSock F := ⟨socket, [], true⟩

def destroyFormat (sock : SynapSock F) : SynapSock F := { sock with frameFormat := [] }

/-- `*(this->frameFormat) += obj`. -/
def addAssign (library : FormatLibrary F) (sock : SynapSock F) (obj : List F) : Performed F :=
  if sock.frameFormat = [] then .nullFormat
  else .returned .nothing { sock with frameFormat := library.append sock.frameFormat obj }

def getSpecificBuffer (library : FormatLibrary F) (sock : SynapSock F)
    (first last : Option Nat) : Performed F :=
  if sock.frameFormat = [] then .nullFormat
  else .returned (.bytes (library.getSpecificDataAsVector sock.frameFormat first last)) sock

/-! Adding and reading find a format and keep one. -/

theorem addAssign_present {library : FormatLibrary F} {sock after : SynapSock F} {obj : List F}
    {answer : Answer} (returns : sock.addAssign library obj = .returned answer after) :
    after.frameFormat = [] ↔ sock.frameFormat = [] := by
  unfold addAssign at returns
  split at returns
  · contradiction
  · rename_i set
    cases returns
    exact iff_of_false (library.append_ne_nil _ _ set) set

theorem getSpecificBuffer_same {library : FormatLibrary F} {sock after : SynapSock F}
    {first last : Option Nat} {answer : Answer}
    (returns : sock.getSpecificBuffer library first last = .returned answer after) :
    after = sock := by
  unfold getSpecificBuffer at returns
  split at returns
  · contradiction
  · cases returns
    rfl

/-- The position of the `idx`-th element of those that are counted. -/
def locate (counted : F → Bool) (idx i : Int) (position : Nat) : List F → Option Nat
  | [] => none
  | tmp :: rest =>
      if counted tmp then
        if i = idx then some position else locate counted idx (i + 1) (position + 1) rest
      else locate counted idx i (position + 1) rest

variable [DataFrame F]

/-- A copy of the first element, with the elements behind it added. -/
def assign (library : FormatLibrary F) (sock : SynapSock F) (first : F) (rest : List F) :
    SynapSock F :=
  let copy := library.construct (getType first) (getSize first) (getReference first)
    (getExecuteFunction first) (getPostExecuteFunction first)
  { sock with frameFormat := if rest = [] then [copy] else library.append [copy] rest }

/-- `operator[]` for an index. -/
def elementAt (sock : SynapSock F) (idx : Int) : Option Nat :=
  locate (fun _ => true) idx 0 0 sock.frameFormat

/-- `operator[]` for a type. -/
def elementOf (sock : SynapSock F) (type : FrameType) : Option Nat :=
  sock.frameFormat.findIdx? fun tmp => getType tmp = type

/-- `operator[]` for a type and an index among its elements. -/
def elementOfAt (sock : SynapSock F) (type : FrameType) (idx : Int) : Option Nat :=
  locate (fun tmp => getType tmp = type) idx 0 0 sock.frameFormat

def perform (library : FormatLibrary F) (sock : SynapSock F) : FormatCall F → Performed F
  | .assign first rest => .returned .nothing (sock.assign library first rest)
  | .addAssign first rest => sock.addAssign library (first :: rest)
  | .add first rest => sock.addAssign library (first :: rest)
  | .destroyFormat => .returned .nothing sock.destroyFormat
  | .sendFramedData writes =>
      if sock.frameFormat = [] then .nullFormat
      else .returned (.code (sock.sendFramedData writes).code) sock
  | .receiveFramedData wire =>
      match sock.receiveFramedData wire with
      | none => .undefined
      | some reception => .returned (.code reception.code) reception.sock
  | .getSpecificBufferAsVector first last =>
      sock.getSpecificBuffer library (sock.elementOf first) (sock.elementOf last)
  | .getSpecificBufferBetween first last => sock.getSpecificBuffer library first last
  | .elementAt idx => .returned (.element (sock.elementAt idx)) sock
  | .elementOf type => .returned (.element (sock.elementOf type)) sock
  | .elementOfAt type idx => .returned (.element (sock.elementOfAt type idx)) sock

end SynapSock

/-! ## A reception keeps the format -/

namespace Framing

variable {F : Type} [DataFrame F] {framing later last : Framing F} {ret : Nat}

theorem pass_length (ends : framing.pass = .onward later ∨ framing.pass = .leave ret later) :
    later.sock.frameFormat.length = framing.sock.frameFormat.length := by
  unfold pass at ends
  dsimp only at ends
  split at ends
  · rcases ends with passed | left
    · contradiction
    · cases left
      exact execute_length getExecuteFunction
  · rename_i tmp _
    obtain ⟨-, links⟩ := (framing.execute getExecuteFunction).receiveElement_tmp tmp
    rw [execute_length] at links
    split at ends
    · rcases ends with passed | left
      · contradiction
      · cases left
        exact links
    · split at ends
      · rcases ends with passed | left
        · contradiction
        · cases left
          exact (execute_length getPostExecuteFunction).trans links
      · rcases ends with passed | left
        · cases passed
          exact (execute_length getPostExecuteFunction).trans links
        · contradiction

theorem frameLoop_length :
    framing.frameLoop.2.sock.frameFormat.length = framing.sock.frameFormat.length := by
  fun_induction frameLoop framing with
  | case1 framing more later passed ih =>
      exact ih.trans (@pass_length _ _ framing later 0 (.inl passed))
  | case2 framing more ret last left => exact pass_length (.inr left)
  | case3 framing beyond => rfl

end Framing

namespace SynapSock

variable {F : Type} [DataFrame F] {sock : SynapSock F} {w : Wire} {r : FramedReception F}

theorem conclude_frameFormat {ret : Nat} {last : Framing F}
    (concluded : conclude ret last = some r) : r.sock.frameFormat = last.sock.frameFormat := by
  unfold conclude at concluded
  dsimp only at concluded
  split at concluded
  · cases concluded
    rfl
  · split at concluded
    · cases concluded
      rfl
    · split at concluded
      · split at concluded
        · contradiction
        · cases concluded
          rfl
      · cases concluded
        rfl

theorem receiveFramedData_length (received : sock.receiveFramedData w = some r) :
    r.sock.frameFormat.length = sock.frameFormat.length := by
  unfold receiveFramedData at received
  split at received
  · cases received
    rfl
  · rw [conclude_frameFormat received]
    exact Framing.frameLoop_length

theorem receiveFramedData_unset (unset : sock.frameFormat = []) :
    ∃ after, sock.receiveFramedData w = some after ∧ after.code = 3 := by
  unfold receiveFramedData
  rw [if_pos unset]
  exact ⟨_, rfl, rfl⟩

end SynapSock

/-! ## Runs -/

namespace FormatCall

variable {F : Type}

/-- Whether there is a format behind the call. -/
def sets (set : Bool) : FormatCall F → Bool
  | .assign _ _ => true
  | .destroyFormat => false
  | _ => set

/-- The calls without a look at the pointer before its use. -/
def Needs : FormatCall F → Prop
  | .addAssign _ _ | .add _ _ | .sendFramedData _ | .getSpecificBufferAsVector _ _
  | .getSpecificBufferBetween _ _ => True
  | _ => False

/-- Each call that needs a format comes behind one that sets it, with none between that
destroys it. -/
def Ordered (set : Bool) : List (FormatCall F) → Prop
  | [] => True
  | call :: calls => (call.Needs → set = true) ∧ Ordered (call.sets set) calls

def Framed : FormatCall F → Prop
  | .sendFramedData _ | .receiveFramedData _ => True
  | _ => False

end FormatCall

/-- An object, and whether the last call of the run that sets or destroys the format has
set it. -/
structure Formatting (F : Type) where
  sock : SynapSock F
  set : Bool

namespace Formatting

variable {F : Type} [DataFrame F] {library : FormatLibrary F} {state next : Formatting F}
  {call : FormatCall F} {calls : List (FormatCall F)}

def start (socket : Socket) : Formatting F := ⟨.fresh socket, false⟩

def Leads (library : FormatLibrary F) (state : Formatting F) (call : FormatCall F)
    (next : Formatting F) : Prop :=
  ∃ answer, state.sock.perform library call = .returned answer next.sock ∧
    next.set = call.sets state.set

/-- The call does not use a missing format, and sending or receiving without one
returns 3. -/
structure Guarded (library : FormatLibrary F) (state : Formatting F) (call : FormatCall F) :
    Prop where
  present : state.sock.perform library call ≠ .nullFormat
  three : call.Framed → state.sock.frameFormat = [] →
    ∃ after, state.sock.perform library call = .returned (.code 3) after

/-- A call that needs a format comes behind one that sets it. -/
def SetFirst (state : Formatting F) (call : FormatCall F) : Prop :=
  call.Needs → state.set = true

def Tracked (state : Formatting F) : Prop := state.set = true ↔ state.sock.frameFormat ≠ []

theorem needs_guarded_iff (needs : call.Needs) :
    state.Guarded library call ↔ state.sock.frameFormat ≠ [] := by
  constructor
  · intro guarded unset
    refine guarded.present ?_
    cases call with
    | addAssign | add => simp [SynapSock.perform, SynapSock.addAssign, unset]
    | sendFramedData => simp [SynapSock.perform, unset]
    | getSpecificBufferAsVector | getSpecificBufferBetween =>
        simp [SynapSock.perform, SynapSock.getSpecificBuffer, unset]
    | _ => exact needs.elim
  · intro set
    refine ⟨?_, fun _ unset => absurd unset set⟩
    cases call with
    | addAssign | add => simp [SynapSock.perform, SynapSock.addAssign, set]
    | sendFramedData => simp [SynapSock.perform, set]
    | getSpecificBufferAsVector | getSpecificBufferBetween =>
        simp [SynapSock.perform, SynapSock.getSpecificBuffer, set]
    | _ => exact needs.elim

theorem guarded_of_not_needs (checks : ¬ call.Needs) : state.Guarded library call := by
  cases call with
  | receiveFramedData wire =>
      refine ⟨?_, fun _ unset => ?_⟩
      · simp only [SynapSock.perform]
        split <;> simp
      · obtain ⟨after, receives, code⟩ := @SynapSock.receiveFramedData_unset _ _ _ wire unset
        exact ⟨after.sock, by simp [SynapSock.perform, receives, code]⟩
  | assign | destroyFormat | elementAt | elementOf | elementOfAt =>
      exact ⟨by simp [SynapSock.perform], fun framed => framed.elim⟩
  | addAssign | add | sendFramedData | getSpecificBufferAsVector | getSpecificBufferBetween =>
      exact absurd trivial checks

theorem guarded_iff (tracked : state.Tracked) :
    state.Guarded library call ↔ state.SetFirst call := by
  by_cases needs : call.Needs
  · have present : state.set = true ↔ state.sock.frameFormat ≠ [] := tracked
    rw [needs_guarded_iff needs, ← present, SetFirst]
    exact ⟨fun set _ => set, fun set => set needs⟩
  · exact iff_of_true (guarded_of_not_needs needs) fun is => absurd is needs

theorem assign_ne_nil (sock : SynapSock F) (first : F) (rest : List F) :
    (sock.assign library first rest).frameFormat ≠ [] := by
  unfold SynapSock.assign
  dsimp only
  split
  · simp
  · exact library.append_ne_nil _ _ (by simp)

/-- A call that returns sets, destroys or keeps the format. -/
theorem leads_tracked (tracked : state.Tracked) (leads : Leads library state call next) :
    next.Tracked := by
  obtain ⟨after, set⟩ := next
  obtain ⟨answer, performs, sets⟩ := leads
  cases sets
  have keeps (same : after.frameFormat = [] ↔ state.sock.frameFormat = []) :
      Tracked ⟨after, state.set⟩ := by
    unfold Tracked at tracked ⊢
    rw [tracked, Ne, Ne, same]
  cases call with
  | assign first rest =>
      cases performs
      exact iff_of_true rfl (assign_ne_nil state.sock first rest)
  | destroyFormat =>
      cases performs
      exact iff_of_false Bool.false_ne_true fun present => present rfl
  | addAssign first rest | add first rest => exact keeps (SynapSock.addAssign_present performs)
  | sendFramedData writes =>
      simp only [SynapSock.perform] at performs
      split at performs
      · contradiction
      · cases performs
        exact keeps Iff.rfl
  | receiveFramedData wire =>
      simp only [SynapSock.perform] at performs
      split at performs
      · contradiction
      · rename_i reception receives
        cases performs
        have length := SynapSock.receiveFramedData_length receives
        exact keeps (by rw [← List.length_eq_zero_iff, ← List.length_eq_zero_iff, length])
  | getSpecificBufferAsVector first last | getSpecificBufferBetween first last =>
      have same : after = state.sock := SynapSock.getSpecificBuffer_same performs
      exact keeps (by rw [same])
  | elementAt | elementOf | elementOfAt =>
      cases performs
      exact keeps Iff.rfl

/-- In a run from a new object no call uses a missing format, and sending and receiving
without one return 3, exactly if each call that needs a format comes behind one that
sets it, with none between that destroys it. -/
theorem throughout_guarded_iff (library : FormatLibrary F) (socket : Socket)
    (calls : List (FormatCall F)) :
    Throughout (Leads library) (Guarded library) (start socket) calls ↔
      Throughout (Leads library) SetFirst (start socket) calls := by
  refine @throughout_congr _ _ _ _ _ Tracked _ _ ?_ ?_ ?_
  · simp [Tracked, start, SynapSock.fresh]
  · intro state call tracked
    exact guarded_iff tracked
  · intro state call next tracked _ leads
    exact leads_tracked tracked leads

/-- The order of the calls is enough, whatever they return. -/
theorem setFirst_of_ordered (ordered : FormatCall.Ordered state.set calls) :
    Throughout (Leads library) SetFirst state calls := by
  induction calls generalizing state with
  | nil => trivial
  | cons call calls ih =>
      refine ⟨ordered.1, fun next leads => ih ?_⟩
      obtain ⟨answer, -, set⟩ := leads
      rw [set]
      exact ordered.2

/-- Elements that are plain records, in lists. -/
def records : FormatLibrary Element where
  construct type size reference _ post := ⟨type, size, reference, [], post.isSome⟩
  append format obj := format ++ obj
  getSpecificDataAsVector format first last :=
    getAllData ((format.take (last.getD format.length)).drop (first.getD 0))
  append_ne_nil _ _ some := by simp [some]

/-- A format is set, sent with, destroyed and set again; in between nothing is done that
needs one. -/
theorem throughout_guarded_set :
    Throughout (Leads records) (Guarded records) (start Socket.new)
      [.receiveFramedData ⟨[], [], 0⟩, .assign (.start [2]) [.stop [3]], .sendFramedData [2],
        .destroyFormat, .elementAt 0, .assign (.start [2]) []] := by
  refine (throughout_guarded_iff records Socket.new _).mpr (setFirst_of_ordered ?_)
  simp [FormatCall.Ordered, FormatCall.Needs, FormatCall.sets]

/-- Sending from a new object: there is no format, and it is used. -/
theorem sendFramedData_unset :
    (SynapSock.fresh Socket.new).perform records (.sendFramedData []) = .nullFormat ∧
      ¬ ∀ (F : Type) (_ : DataFrame F) (library : FormatLibrary F) (socket : Socket)
        (calls : List (FormatCall F)),
        Throughout (Leads library) (Guarded library) (start socket) calls := by
  refine ⟨rfl, fun all => ?_⟩
  have first := (all Element inferInstance records Socket.new [.sendFramedData []]).1
  exact first.present rfl

end Formatting

end SynapTCP
