import SynapTCP.Data.Occurrence
import SynapTCP.Frame.Receive

namespace SynapTCP

open Data DataFrame

/-! # The decoder that a format stands for

A format with its functions read as a decoder of a stream of bytes: no socket, no
reads, no buffers that are filled piece by piece.  It takes one element after
another from the front of the stream; where the stream ends too early it has no
result.
-/

structure Decoding (F : Type) where
  format : List F
  valid : Bool
  tmp : Nat
  /-- The bytes of the element that was taken last. -/
  data : Bytes
  rest : Bytes

/-- What becomes of one element. -/
inductive Intake (F : Type) where
  /-- The stream ends before the element does. -/
  | starved
  /-- Other bytes in the place of a stop marker. -/
  | differs
  /-- No kind of element that can be taken from a stream. -/
  | unreadable
  | took (later : Decoding F)

/-- The result of decoding once, with what is still to be decoded. -/
structure Decoded (F : Type) where
  code : Nat
  data : Bytes
  format : List F
  rest : Bytes
deriving DecidableEq

inductive DecodingStep (F : Type) where
  | starved
  | onward (later : Decoding F)
  | missed (last : Decoding F)
  | refused (last : Decoding F)

namespace Decoding

variable {F : Type} {decoding : Decoding F}

/-- Call the function that `select` finds in the element at `tmp`, if any. -/
def call (decoding : Decoding F) (select : F → Option (Callback F)) : Decoding F :=
  match decoding.format[decoding.tmp]?.bind select with
  | none => decoding
  | some callback =>
      let called := callback.run decoding.format decoding.tmp
      { decoding with format := called.1, valid := decoding.valid && !called.2 }

/-- The first bytes are taken from the stream. -/
def drop (decoding : Decoding F) (data : Bytes) (taken : Nat) : Decoding F :=
  { decoding with data, rest := decoding.rest.drop taken }

@[simp] theorem call_tmp (select : F → Option (Callback F)) :
    (decoding.call select).tmp = decoding.tmp := by
  unfold call
  split <;> rfl

@[simp] theorem call_length (select : F → Option (Callback F)) :
    (decoding.call select).format.length = decoding.format.length := by
  unfold call
  split
  · rfl
  · rename_i callback _
    exact callback.links _ _

@[simp] theorem drop_tmp (data : Bytes) (taken : Nat) :
    (decoding.drop data taken).tmp = decoding.tmp := rfl

@[simp] theorem drop_format (data : Bytes) (taken : Nat) :
    (decoding.drop data taken).format = decoding.format := rfl

variable [DataFrame F]

def store (decoding : Decoding F) (bytes : Bytes) : Decoding F :=
  { decoding with format := decoding.format.modify decoding.tmp (setData · bytes) }

/-- From a field of variable size to its stop marker. -/
def toMarker (decoding : Decoding F) : Decoding F :=
  let decoding := decoding.call getPostExecuteFunction
  { decoding with tmp := decoding.tmp + 1 }.call getExecuteFunction

/-- The bytes up to a start marker are passed by. -/
def takeStart (decoding : Decoding F) (startBytes : Bytes) : Intake F :=
  match firstOccurrence startBytes decoding.rest with
  | none => .starved
  | some index => .took (decoding.drop startBytes (index + startBytes.length))

def takeStop (decoding : Decoding F) (stopBytes : Bytes) : Intake F :=
  if decoding.rest.length < stopBytes.length then .starved
  else if decoding.rest.take stopBytes.length = stopBytes then
    .took (decoding.drop stopBytes stopBytes.length)
  else .differs

def takeFixed (decoding : Decoding F) (size : Nat) : Intake F :=
  if decoding.rest.length < size then .starved
  else .took ((decoding.drop (decoding.rest.take size) size).store (decoding.rest.take size))

/-- A field of variable size, with the stop marker behind it. -/
def takeUntill (decoding : Decoding F) (stopBytes : Bytes) : Intake F :=
  match firstOccurrence stopBytes decoding.rest with
  | none => .starved
  | some index =>
      let whole := index + stopBytes.length
      .took ((decoding.drop (decoding.rest.take whole) whole).store
        (decoding.rest.take index)).toMarker

/-- The element `tmp` from the front of the stream. -/
def take (decoding : Decoding F) (tmp : F) : Intake F :=
  if getType tmp = .startBytes ∧ 0 < (getReference tmp).length then
    decoding.takeStart (getReference tmp)
  else if getType tmp = .stopBytes ∧ 0 < (getReference tmp).length then
    decoding.takeStop (getReference tmp)
  else if (getType tmp).isField then
    if 0 < getSize tmp then decoding.takeFixed (getSize tmp)
    else match decoding.format[decoding.tmp + 1]? with
      | none => .unreadable
      | some next =>
          if getType next = .stopBytes ∧ 0 < (getReference next).length then
            decoding.takeUntill (getReference next)
          else .unreadable
  else .unreadable

/-- The element in its turn, between its two functions. -/
def step (decoding : Decoding F) : DecodingStep F :=
  let entered := decoding.call getExecuteFunction
  match entered.format[entered.tmp]? with
  | none => .refused entered
  | some tmp =>
      match entered.take tmp with
      | .starved => .starved
      | .differs => .missed entered
      | .unreadable => .refused entered
      | .took taken =>
          let called := taken.call getPostExecuteFunction
          if called.valid = false then .refused called
          else .onward { called with tmp := called.tmp + 1, data := [] }

/-! Every step that goes on brings `tmp` nearer to the end of the format. -/

@[simp] theorem store_length (bytes : Bytes) :
    (decoding.store bytes).format.length = decoding.format.length := by
  simp [store]

@[simp] theorem store_tmp (bytes : Bytes) : (decoding.store bytes).tmp = decoding.tmp := rfl

/-- An element that is taken leaves `tmp` at itself, or at the stop marker behind it. -/
theorem take_place {tmp : F} {later : Decoding F} (taken : decoding.take tmp = .took later) :
    later.format.length = decoding.format.length ∧ (later.tmp = decoding.tmp ∨
      later.tmp = decoding.tmp + 1 ∧ decoding.tmp + 1 < decoding.format.length) := by
  unfold take at taken
  split at taken
  · unfold takeStart at taken
    split at taken
    · contradiction
    · cases taken
      exact ⟨rfl, .inl rfl⟩
  · split at taken
    · unfold takeStop at taken
      repeat' split at taken
      · contradiction
      · cases taken
        exact ⟨rfl, .inl rfl⟩
      · contradiction
    · split at taken
      · split at taken
        · unfold takeFixed at taken
          split at taken
          · contradiction
          · cases taken
            exact ⟨store_length _, .inl rfl⟩
        · split at taken
          · contradiction
          · rename_i next behind
            have inside := (List.getElem?_eq_some_iff.mp behind).1
            split at taken
            · unfold takeUntill at taken
              split at taken
              · contradiction
              · cases taken
                exact ⟨by simp [toMarker], .inr ⟨by simp [toMarker], inside⟩⟩
            · contradiction
      · contradiction

theorem step_refused_inside {last : Decoding F} (more : decoding.tmp < decoding.format.length)
    (passed : decoding.step = .refused last) : last.tmp < last.format.length := by
  have inside : (decoding.call getExecuteFunction).tmp <
      (decoding.call getExecuteFunction).format.length := by
    simpa using more
  unfold step at passed
  dsimp only at passed
  split at passed
  · cases passed
    exact inside
  · split at passed
    · contradiction
    · contradiction
    · cases passed
      exact inside
    · rename_i taken took
      have further := take_place took
      split at passed
      · cases passed
        simp only [call_tmp, call_length] at inside further ⊢
        omega
      · contradiction

theorem step_remaining {later : Decoding F} (more : decoding.tmp < decoding.format.length)
    (passed : decoding.step = .onward later) :
    later.format.length - later.tmp < decoding.format.length - decoding.tmp := by
  unfold step at passed
  dsimp only at passed
  split at passed
  · contradiction
  · split at passed
    · contradiction
    · contradiction
    · contradiction
    · rename_i taken took
      have further := take_place took
      split at passed
      · contradiction
      · cases passed
        simp only [call_tmp, call_length] at further ⊢
        omega

/-- What is left in the object by a stop marker that is not there: one byte is given
up, the others are to be decoded again. -/
def giveUp (last : Decoding F) : Option (Decoded F) :=
  if last.tmp = 0 then none
  else match SynapSock.dataFail last.format last.tmp with
    | [] => none
    | first :: others => some ⟨2, [first], last.format, others ++ last.rest⟩

def refuse (last : Decoding F) : Decoded F :=
  ⟨4, SynapSock.dataFail last.format last.tmp ++ last.data, last.format, last.rest⟩

def run (decoding : Decoding F) : Option (Decoded F) :=
  if _more : decoding.tmp < decoding.format.length then
    match _passed : decoding.step with
    | .starved => none
    | .onward later => later.run
    | .missed last => last.giveUp
    | .refused last => some last.refuse
  else some ⟨0, getAllData decoding.format, decoding.format, decoding.rest⟩
termination_by decoding.format.length - decoding.tmp
decreasing_by exact step_remaining _more _passed

/-! The run by what becomes of the element it is at. -/

/-- What the decoding gives that has got as far as a step did. -/
def outcome : DecodingStep F → Option (Decoded F)
  | .starved => none
  | .onward later => later.run
  | .missed last => last.giveUp
  | .refused last => some last.refuse

theorem run_step (more : decoding.tmp < decoding.format.length) :
    decoding.run = outcome decoding.step := by
  rw [run, dif_pos more]
  split
  all_goals
    rename_i passed
    rw [passed]
    rfl

variable {f : F} {taken called : Decoding F}

theorem run_here (here : decoding.format[decoding.tmp]? = some f) :
    decoding.run = outcome decoding.step :=
  run_step (List.getElem?_eq_some_iff.mp here).1

theorem run_starved (here : decoding.format[decoding.tmp]? = some f)
    (entered : decoding.call getExecuteFunction = decoding)
    (starved : decoding.take f = .starved) : decoding.run = none := by
  rw [run_here here, step]
  simp only [entered, here, starved, outcome]

theorem run_differs (here : decoding.format[decoding.tmp]? = some f)
    (entered : decoding.call getExecuteFunction = decoding)
    (differs : decoding.take f = .differs) : decoding.run = decoding.giveUp := by
  rw [run_here here, step]
  simp only [entered, here, differs, outcome]

theorem run_took (here : decoding.format[decoding.tmp]? = some f)
    (entered : decoding.call getExecuteFunction = decoding)
    (took : decoding.take f = .took taken)
    (left : taken.call getPostExecuteFunction = called) (valid : called.valid = true) :
    decoding.run = ({ called with tmp := called.tmp + 1, data := [] } : Decoding F).run := by
  rw [run_here here, step]
  simp only [entered, here, took, left, valid, Bool.true_eq_false, if_false, outcome]

theorem run_vetoed (here : decoding.format[decoding.tmp]? = some f)
    (entered : decoding.call getExecuteFunction = decoding)
    (took : decoding.take f = .took taken)
    (left : taken.call getPostExecuteFunction = called) (vetoed : called.valid = false) :
    decoding.run = some called.refuse := by
  rw [run_here here, step]
  simp only [entered, here, took, left, vetoed, if_true, outcome]

theorem run_beyond (beyond : ¬ decoding.tmp < decoding.format.length) :
    decoding.run = some ⟨0, getAllData decoding.format, decoding.format, decoding.rest⟩ := by
  rw [run, dif_neg beyond]

end Decoding

variable {F : Type} [DataFrame F]

/-- Decode once from the front of the stream.  `data` is what the buffer holds when the
decoding begins. -/
def decode (format : List F) (data rest : Bytes) : Option (Decoded F) :=
  Decoding.run ⟨format, true, 0, data, rest⟩

/-- Decode so many times, each time what the last time left. -/
def decodes (format : List F) (data rest : Bytes) : Nat → Option (List (Decoded F))
  | 0 => some []
  | calls + 1 =>
      (decode format data rest).bind fun first =>
        (decodes first.format first.data first.rest calls).map (first :: ·)

end SynapTCP
