import SynapTCP.Frame.Receive

namespace SynapTCP

open DataFrame

/-! # The events of a call

The loop of `receiveFramedData` once more, as the list of what happens in it: the
functions that are called, each with its answer, and the elements whose bytes
come.
-/

/-- A place for a function: that of the element at `index` before or behind its
reception. -/
inductive Slot where
  | execute (index : Nat)
  | postExecute (index : Nat)
deriving DecidableEq

/-- `vetoed` tells that the function called `trigInvDataIndicator`. -/
inductive FrameEvent where
  | called (slot : Slot) (vetoed : Bool)
  | received (index : Nat)
deriving DecidableEq

namespace Slot

def index : Slot → Nat
  | .execute index => index
  | .postExecute index => index

end Slot

namespace FrameEvent

def index : FrameEvent → Nat
  | .called slot _ => slot.index
  | .received index => index

def slot : FrameEvent → Option Slot
  | .called slot _ => some slot
  | .received _ => none

def vetoes : FrameEvent → Bool
  | .called _ vetoed => vetoed
  | .received _ => false

@[simp] theorem index_execute (i : Nat) (vetoed : Bool) :
    (called (.execute i) vetoed).index = i := rfl

@[simp] theorem index_postExecute (i : Nat) (vetoed : Bool) :
    (called (.postExecute i) vetoed).index = i := rfl

@[simp] theorem index_received (i : Nat) : (received i).index = i := rfl

@[simp] theorem slot_called (place : Slot) (vetoed : Bool) :
    (called place vetoed).slot = some place := rfl

@[simp] theorem slot_received (i : Nat) : (received i).slot = none := rfl

@[simp] theorem vetoes_called (place : Slot) (vetoed : Bool) :
    (called place vetoed).vetoes = vetoed := rfl

@[simp] theorem vetoes_received (i : Nat) : (received i).vetoes = false := rfl

end FrameEvent

namespace Framing

variable {F : Type} {framing : Framing F}

/-- What the function that `execute` calls answers, if there is one. -/
def answer (framing : Framing F) (select : F → Option (Callback F)) : Option Bool :=
  (framing.sock.frameFormat[framing.tmp]?.bind select).map fun callback =>
    (callback.run framing.sock.frameFormat framing.tmp).2

def called (framing : Framing F) (select : F → Option (Callback F)) (slot : Nat → Slot) :
    List FrameEvent :=
  (framing.answer select).toList.map (.called (slot framing.tmp))

/-- The element at `tmp` comes if the receive operation succeeds. -/
def served (framing : Framing F) (reception : Reception) : List FrameEvent :=
  if reception.code = 0 then [.received framing.tmp] else []

variable [DataFrame F]

def toMarkerEvents (framing : Framing F) : List FrameEvent :=
  framing.called getPostExecuteFunction .postExecute ++
    { framing.execute getPostExecuteFunction with tmp := framing.tmp + 1 }.called
      getExecuteFunction .execute

/-- The field and the stop marker behind it come if the search finds the marker. -/
def untillEvents (framing : Framing F) (next : F) : List FrameEvent :=
  let reception := framing.sock.toSocket.receiveUntillStopBytes framing.wire (getReference next)
  let search := framing.sock.toSocket.searchLoop (getReference next) framing.wire [] 0 0 false
  let framing := framing.receive reception
  if reception.code = 0 then
    (if search.found then [.received framing.tmp, .received (framing.tmp + 1)] else []) ++
      if 0 < framing.sock.data.length then
        (framing.store
          (framing.sock.data.take (framing.sock.data.length - getSize next))).toMarkerEvents
      else []
  else []

def elementEvents (framing : Framing F) (tmp : F) : List FrameEvent :=
  if getType tmp = .startBytes ∧ 0 < (getReference tmp).length then
    framing.served (framing.sock.toSocket.receiveStartBytes framing.wire (getReference tmp))
  else if getType tmp = .stopBytes ∧ 0 < (getReference tmp).length then
    framing.served (framing.sock.toSocket.receiveStopBytes framing.wire (getReference tmp))
  else if (getType tmp).isField then
    if 0 < getSize tmp then
      framing.served (framing.sock.toSocket.receiveNBytes framing.wire (getSize tmp))
    else match framing.sock.frameFormat[framing.tmp + 1]? with
      | none => []
      | some next =>
          if getType next = .stopBytes ∧ 0 < (getReference next).length then
            framing.untillEvents next
          else []
  else []

def passEvents (framing : Framing F) : List FrameEvent :=
  let calls := framing.called getExecuteFunction .execute
  let framing := framing.execute getExecuteFunction
  match framing.sock.frameFormat[framing.tmp]? with
  | none => calls
  | some tmp =>
      let received := framing.receiveElement tmp
      calls ++ framing.elementEvents tmp ++
        if received.1 ≠ 0 then [] else received.2.called getPostExecuteFunction .postExecute

def loopEvents (framing : Framing F) : List FrameEvent :=
  if _more : framing.tmp < framing.sock.frameFormat.length then
    match _passed : framing.pass with
    | .onward later => framing.passEvents ++ later.loopEvents
    | .leave _ _ => framing.passEvents
  else []
termination_by framing.remaining
decreasing_by exact pass_remaining _more _passed

end Framing

namespace SynapSock

variable {F : Type} [DataFrame F]

def frameEvents (sock : SynapSock F) (w : Wire) : List FrameEvent :=
  if sock.frameFormat = [] then [] else (sock.opening w).loopEvents

end SynapSock

end SynapTCP
