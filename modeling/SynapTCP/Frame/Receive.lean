import SynapTCP.Socket.Receive
import SynapTCP.Frame.DataFrame

namespace SynapTCP

open DataFrame

/-! # Receiving a frame

`SynapSock::receiveFramedData` of `src/synapsock.cpp`: the loop over the
elements of the format, and what is made of the buffers behind it.
-/

structure SynapSock (F : Type) extends Socket where
  frameFormat : List F
  isFormatValid : Bool

/-- The state inside the loop.  The pointer `tmp` is a position in the format,
null from the length of the format on. -/
structure Framing (F : Type) where
  sock : SynapSock F
  wire : Wire
  tmp : Nat

/-- How one pass through the loop body ends. -/
inductive Pass (F : Type) where
  | onward (framing : Framing F)
  | leave (ret : Nat) (framing : Framing F)

/-- The outcome of a call; `none` in its place stands for the iterators past the
end of an empty `dataFail`. -/
structure FramedReception (F : Type) where
  code : Nat
  sock : SynapSock F
  wire : Wire

namespace Framing

variable {F : Type} {framing : Framing F}

/-- Call the function that `select` finds in the element at `tmp`, if any. -/
def execute (framing : Framing F) (select : F → Option (Callback F)) : Framing F :=
  match framing.sock.frameFormat[framing.tmp]?.bind select with
  | none => framing
  | some callback =>
      let called := callback.run framing.sock.frameFormat framing.tmp
      { framing with
        sock.frameFormat := called.1
        sock.isFormatValid := framing.sock.isFormatValid && !called.2 }

/-- The object and the wire as a receive operation left them. -/
def receive (framing : Framing F) (reception : Reception) : Framing F :=
  { framing with sock.toSocket := reception.socket, wire := reception.wire }

@[simp] theorem execute_tmp (select : F → Option (Callback F)) :
    (framing.execute select).tmp = framing.tmp := by
  unfold execute
  split <;> rfl

@[simp] theorem execute_length (select : F → Option (Callback F)) :
    (framing.execute select).sock.frameFormat.length = framing.sock.frameFormat.length := by
  unfold execute
  split
  · rfl
  · rename_i callback _
    exact callback.links _ _

@[simp] theorem execute_toSocket (select : F → Option (Callback F)) :
    (framing.execute select).sock.toSocket = framing.sock.toSocket := by
  unfold execute
  split <;> rfl

@[simp] theorem execute_wire (select : F → Option (Callback F)) :
    (framing.execute select).wire = framing.wire := by
  unfold execute
  split <;> rfl

variable [DataFrame F]

def store (framing : Framing F) (bytes : Bytes) : Framing F :=
  { framing with
    sock.frameFormat := framing.sock.frameFormat.modify framing.tmp (setData · bytes) }

def receiveMarker (framing : Framing F) (reception : Reception) : Nat × Framing F :=
  (if reception.code ≠ 0 then 2 else 0, framing.receive reception)

/-- A field of fixed size.  The source has no branch for a `receiveNBytes` that
fails. -/
def receiveFixed (framing : Framing F) (size : Nat) : Nat × Framing F :=
  let reception := framing.sock.toSocket.receiveNBytes framing.wire size
  let framing := framing.receive reception
  if reception.code = 0 then
    if 0 < framing.sock.data.length then (0, framing.store framing.sock.data)
    else (2, framing)
  else (0, framing)

/-- From a field of variable size to the stop marker that was received with it. -/
def toMarker (framing : Framing F) : Framing F :=
  let framing := framing.execute getPostExecuteFunction
  { framing with tmp := framing.tmp + 1 }.execute getExecuteFunction

/-- A field of variable size up to the stop marker `next`, which is received
with it. -/
def receiveUntill (framing : Framing F) (next : F) : Nat × Framing F :=
  let reception := framing.sock.toSocket.receiveUntillStopBytes framing.wire (getReference next)
  let framing := framing.receive reception
  if reception.code = 0 then
    if 0 < framing.sock.data.length then
      let framing := framing.store
        (framing.sock.data.take (framing.sock.data.length - getSize next))
      (0, framing.toMarker)
    else (0, framing)
  else (2, framing)

/-- The receiving part of the loop body for the element `tmp`. -/
def receiveElement (framing : Framing F) (tmp : F) : Nat × Framing F :=
  if getType tmp = .startBytes ∧ 0 < (getReference tmp).length then
    framing.receiveMarker
      (framing.sock.toSocket.receiveStartBytes framing.wire (getReference tmp))
  else if getType tmp = .stopBytes ∧ 0 < (getReference tmp).length then
    framing.receiveMarker
      (framing.sock.toSocket.receiveStopBytes framing.wire (getReference tmp))
  else if (getType tmp).isField then
    if 0 < getSize tmp then framing.receiveFixed (getSize tmp)
    else match framing.sock.frameFormat[framing.tmp + 1]? with
      | none => (4, framing)
      | some next =>
          if getType next = .stopBytes ∧ 0 < (getReference next).length then
            framing.receiveUntill next
          else (4, framing)
  else (4, framing)

/-- On to the next element, with an empty buffer. -/
def advance (framing : Framing F) : Framing F :=
  { framing with tmp := framing.tmp + 1, sock.data := [] }

/-- The loop body for the element at `tmp`. -/
def pass (framing : Framing F) : Pass F :=
  let framing := framing.execute getExecuteFunction
  match framing.sock.frameFormat[framing.tmp]? with
  | none => .leave 4 framing
  | some tmp =>
      let received := framing.receiveElement tmp
      if received.1 ≠ 0 then .leave received.1 received.2
      else
        let framing := received.2.execute getPostExecuteFunction
        if framing.sock.isFormatValid = false then .leave 4 framing
        else .onward framing.advance

/-! The callbacks and the receive operations keep the number of elements, so
every pass brings `tmp` nearer to the end of the format. -/

def remaining (framing : Framing F) : Nat :=
  framing.sock.frameFormat.length - framing.tmp

@[simp] theorem store_length (bytes : Bytes) :
    (framing.store bytes).sock.frameFormat.length = framing.sock.frameFormat.length := by
  simp [store]

theorem receiveElement_tmp (tmp : F) :
    framing.tmp ≤ (framing.receiveElement tmp).2.tmp ∧
      (framing.receiveElement tmp).2.sock.frameFormat.length =
        framing.sock.frameFormat.length := by
  unfold receiveElement receiveMarker receiveFixed receiveUntill toMarker
  dsimp only
  repeat' split
  all_goals simp [receive, store]

theorem pass_remaining {later : Framing F} (more : framing.tmp < framing.sock.frameFormat.length)
    (passed : framing.pass = .onward later) : later.remaining < framing.remaining := by
  unfold pass at passed
  dsimp only at passed
  split at passed
  · contradiction
  · rename_i tmp _
    obtain ⟨position, links⟩ := (framing.execute getExecuteFunction).receiveElement_tmp tmp
    rw [execute_tmp] at position
    rw [execute_length] at links
    split at passed
    · contradiction
    · split at passed
      · contradiction
      · cases passed
        simp only [remaining, advance, execute_length, execute_tmp, links]
        omega

/-- The loop: what `ret` is behind it, and the state there. -/
def frameLoop (framing : Framing F) : Nat × Framing F :=
  if _more : framing.tmp < framing.sock.frameFormat.length then
    match _passed : framing.pass with
    | .onward later => later.frameLoop
    | .leave ret last => (ret, last)
  else (0, framing)
termination_by framing.remaining
decreasing_by exact pass_remaining _more _passed

end Framing

namespace SynapSock

variable {F : Type}

/-- The framing that the loop starts with. -/
def opening (sock : SynapSock F) (w : Wire) : Framing F :=
  ⟨{ sock with isFormatValid := true }, w, 0⟩

variable [DataFrame F]

/-- The bytes stored in the elements before position `fail`. -/
def dataFail (format : List F) (fail : Nat) : Bytes :=
  (format.take fail).flatMap getData

/-- What is made of the buffers behind the loop. -/
def conclude (ret : Nat) (last : Framing F) : Option (FramedReception F) :=
  let kept := dataFail last.sock.frameFormat last.tmp
  if ret = 0 then
    some ⟨0, { last.sock with data := getAllData last.sock.frameFormat }, last.wire⟩
  else match last.sock.frameFormat[last.tmp]? with
    | none => some ⟨ret, last.sock, last.wire⟩
    | some tmp =>
        if ret ≠ 4 ∧ last.tmp ≠ 0 ∧ getType tmp = .stopBytes then
          match kept with
          | [] => none
          | first :: rest =>
              some ⟨ret, { last.sock with
                data := [first]
                remainingData := rest ++ (last.sock.data ++ last.sock.remainingData) }, last.wire⟩
        else some ⟨ret, { last.sock with data := kept ++ last.sock.data }, last.wire⟩

def receiveFramedData (sock : SynapSock F) (w : Wire) : Option (FramedReception F) :=
  if sock.frameFormat = [] then
    let reception := sock.toSocket.receiveData w 0 false
    some ⟨3, { sock with toSocket := reception.socket }, reception.wire⟩
  else
    let ended := (sock.opening w).frameLoop
    conclude ended.1 ended.2

end SynapSock

end SynapTCP
