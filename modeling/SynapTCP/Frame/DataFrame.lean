import SynapTCP.Socket.Object
import Mathlib.Algebra.GroupWithZero.Nat
import Mathlib.Tactic.Common

namespace SynapTCP

/-! # Frame formats

The elements of a frame format come from a library that is not part of the
repository.  They are a type with the methods that the framed operations call; a
format is the list of the elements in the order of their links, and a null
pointer to a format is the empty list.
-/

/-- The `FRAME_TYPE_t` values that the framed operations tell apart; `other`
stands for all the rest. -/
inductive FrameType where
  | startBytes
  | contentLength
  | data
  | validator
  | command
  | stopBytes
  | other
deriving DecidableEq

namespace FrameType

def isField : FrameType → Bool
  | .contentLength | .data | .validator | .command => true
  | .startBytes | .stopBytes | .other => false

def isMarker : FrameType → Bool
  | .startBytes | .stopBytes => true
  | .contentLength | .data | .validator | .command | .other => false

theorem not_isField {type : FrameType} (marker : type.isMarker = true) : type.isField = false := by
  cases type with
  | startBytes | stopBytes => rfl
  | contentLength | data | validator | command | other => contradiction

end FrameType

/-- An execute or post-execute function bound to its parameter.  It is handed
the format and the element it is called for; it leaves a format with the same
links and may call `trigInvDataIndicator`. -/
structure Callback (F : Type) where
  run : List F → Nat → List F × Bool
  links : ∀ format index, (run format index).1.length = format.length

class DataFrame (F : Type) where
  getType : F → FrameType
  getSize : F → Nat
  getReference : F → Bytes
  getData : F → Bytes
  setData : F → Bytes → F
  getExecuteFunction : F → Option (Callback F)
  getPostExecuteFunction : F → Option (Callback F)
  getAllData : List F → Bytes

open DataFrame

/-- What the element library promises: a marker is as long as its reference and
holds it, a field holds what was set last and nothing else of it changes, and
the data of a format is that of its elements in order. -/
class LawfulDataFrame (F : Type) [DataFrame F] : Prop where
  getData_marker : ∀ f : F, (getType f).isMarker = true → getData f = getReference f
  getSize_marker : ∀ f : F, (getType f).isMarker = true → getSize f = (getReference f).length
  getData_setData : ∀ (f : F) bytes, (getType f).isField = true → getData (setData f bytes) = bytes
  getType_setData : ∀ (f : F) bytes, getType (setData f bytes) = getType f
  getSize_setData : ∀ (f : F) bytes, getSize (setData f bytes) = getSize f
  getReference_setData : ∀ (f : F) bytes, getReference (setData f bytes) = getReference f
  getExecuteFunction_setData : ∀ (f : F) bytes,
    getExecuteFunction (setData f bytes) = getExecuteFunction f
  getPostExecuteFunction_setData : ∀ (f : F) bytes,
    getPostExecuteFunction (setData f bytes) = getPostExecuteFunction f
  getAllData_eq : ∀ format : List F, getAllData format = format.flatMap getData

attribute [simp] LawfulDataFrame.getType_setData LawfulDataFrame.getSize_setData
  LawfulDataFrame.getReference_setData LawfulDataFrame.getExecuteFunction_setData
  LawfulDataFrame.getPostExecuteFunction_setData

/-- A plain record of what an element holds.  An element that `vetoes` has a
post-execute function that does nothing but call `trigInvDataIndicator`. -/
structure Element where
  type : FrameType
  size : Nat
  reference : Bytes
  stored : Bytes
  vetoes : Bool
deriving DecidableEq

namespace Element

def veto : Callback Element where
  run format _ := (format, true)
  links _ _ := rfl

instance : DataFrame Element where
  getType f := f.type
  getSize f := if f.type.isMarker then f.reference.length else f.size
  getReference f := f.reference
  getData f := if f.type.isMarker then f.reference else f.stored
  setData f bytes := { f with stored := bytes }
  getExecuteFunction _ := none
  getPostExecuteFunction f := if f.vetoes then some veto else none
  getAllData format := format.flatMap fun f => if f.type.isMarker then f.reference else f.stored

instance : LawfulDataFrame Element where
  getData_marker f marker := by
    simp only [getData, getReference]
    exact if_pos marker
  getSize_marker f marker := by
    simp only [getSize, getReference]
    exact if_pos marker
  getData_setData f bytes field := by
    cases f with
    | mk type size reference stored vetoes => cases type <;> simp_all [getData, setData, getType,
        FrameType.isField, FrameType.isMarker]
  getType_setData _ _ := rfl
  getSize_setData _ _ := rfl
  getReference_setData _ _ := rfl
  getExecuteFunction_setData _ _ := rfl
  getPostExecuteFunction_setData _ _ := rfl
  getAllData_eq _ := rfl

def start (reference : Bytes) : Element := ⟨.startBytes, 0, reference, [], false⟩

def stop (reference : Bytes) : Element := ⟨.stopBytes, 0, reference, [], false⟩

def field (size : Nat) (stored : Bytes) : Element := ⟨.data, size, [], stored, false⟩

end Element

end SynapTCP
