import SynapTCP.Data.Crc
import SynapTCP.Frame.Receive

namespace SynapTCP

open Data DataFrame

/-! # The protocol of the examples

The frame format of `src/examples/data-formating.cpp` with its two functions: one
sets the length of the data by the command, the other checks the CRC.
-/

/-- One turn of the inner loop of `crc16`. -/
def crc16Shift (crc : UInt16) : UInt16 :=
  if crc &&& 0x8000 ≠ 0 then (crc <<< 1) ^^^ 0x1021 else crc <<< 1

def crc16Byte (crc : UInt16) (byte : UInt8) : UInt16 :=
  (List.range 8).foldl (fun crc _ => crc16Shift crc) (crc ^^^ (byte.toUInt16 <<< 8))

/-- The value that `crc16` calculates. -/
def crc16Of (data : Bytes) : UInt16 := data.foldl crc16Byte 0x0000

/-- The functions that the example gives to its elements, by name. -/
inductive Handler where
  | setupLengthByCommand
  | crc16
deriving DecidableEq

/-- What the example asks of the element library beside the framed operations. -/
class ProtocolFrame (F : Type) extends DataFrame F where
  create : FrameType → Nat → Bytes → Option Handler → F
  setSize : F → Nat → F
  getSpecificDataAsVector : List F → Option Nat → Option Nat → Bytes
  /-- What `getData` with a buffer of so many bytes copies into it. -/
  getDataUpTo : F → Nat → Bytes

open ProtocolFrame

section

variable {F : Type} [ProtocolFrame F]

/-- `operator[]` for a type, on the format of the object. -/
def elementOf (format : List F) (type : FrameType) : Option Nat :=
  format.findIdx? fun tmp => getType tmp = type

/-- What a function gets of the element that it is called for. -/
def frameData (format : List F) (index sz : Nat) : Bytes :=
  (format[index]?.map fun frame => getDataUpTo frame sz).getD []

def setupLengthByCommand : Callback F where
  run format index :=
    match elementOf format .data with
    | none => (format, false)
    | some target =>
        let data := (frameData format index 1).headD 0
        if data = 0x35 then (format.modify target (setSize · 3), false)
        else if data = 0x36 then (format.modify target (setSize · 2), false)
        else (format, true)
  links format index := by
    dsimp only
    split
    · rfl
    · split
      · simp
      · split
        · simp
        · rfl

/-- A number of 16 bits in the order of the host, the low byte first. -/
def hostWord (bytes : Bytes) : UInt16 :=
  (bytes.headD 0).toUInt16 + ((bytes.tail.headD 0).toUInt16 <<< 8)

def crc16 : Callback F where
  run format index :=
    let data := getSpecificDataAsVector format (elementOf format .startBytes)
      (elementOf format .data)
    let rcvCRC := hostWord (frameData format index 2)
    (format, decide (rcvCRC ≠ crc16Of data))
  links _ _ := rfl

def Handler.callback : Handler → Callback F
  | .setupLengthByCommand => SynapTCP.setupLengthByCommand
  | .crc16 => SynapTCP.crc16

/-- `1234`. -/
def startMark : Bytes := [0x31, 0x32, 0x33, 0x34]

/-- `90-=`. -/
def stopMark : Bytes := [0x39, 0x30, 0x2D, 0x3D]

namespace ProtocolFrame

def startBytes : F := create .startBytes 4 startMark none

def cmdBytes : F := create .command 1 [] (some .setupLengthByCommand)

def dataBytes : F := create .data 0 [] none

def crcValidatorBytes : F := create .validator 2 [] (some .crc16)

def stopBytes : F := create .stopBytes 4 stopMark none

end ProtocolFrame

/-- The format that `socketSetupDataFrameProtocol` gives to the object. -/
def socketSetupDataFrameProtocol : List F :=
  [startBytes, cmdBytes, dataBytes, crcValidatorBytes, stopBytes]

end

/-- What the element library promises of the functions that the example calls. -/
class LawfulProtocolFrame (F : Type) [ProtocolFrame F] : Prop extends LawfulDataFrame F where
  getType_create : ∀ type size reference handler,
    getType (create type size reference handler : F) = type
  getSize_create : ∀ type size reference handler, type.isField = true →
    getSize (create type size reference handler : F) = size
  getReference_create : ∀ type size reference handler,
    getReference (create type size reference handler : F) = reference
  getExecuteFunction_create : ∀ type size reference handler,
    getExecuteFunction (create type size reference handler : F) = none
  getPostExecuteFunction_create : ∀ type size reference handler,
    getPostExecuteFunction (create type size reference handler : F) =
      handler.map Handler.callback
  getType_setSize : ∀ (f : F) size, getType (setSize f size) = getType f
  getSize_setSize : ∀ (f : F) size, (getType f).isField = true → getSize (setSize f size) = size
  getReference_setSize : ∀ (f : F) size, getReference (setSize f size) = getReference f
  getExecuteFunction_setSize : ∀ (f : F) size,
    getExecuteFunction (setSize f size) = getExecuteFunction f
  getPostExecuteFunction_setSize : ∀ (f : F) size,
    getPostExecuteFunction (setSize f size) = getPostExecuteFunction f
  getSpecificDataAsVector_eq : ∀ (format : List F) (first last : Nat), first ≤ last →
    last < format.length →
    getSpecificDataAsVector format (some first) (some last) =
      ((format.take (last + 1)).drop first).flatMap getData
  getDataUpTo_eq : ∀ (f : F) (sz : Nat), sz ≤ (getData f).length →
    getDataUpTo f sz = (getData f).take sz

attribute [simp] LawfulProtocolFrame.getType_create LawfulProtocolFrame.getReference_create
  LawfulProtocolFrame.getExecuteFunction_create LawfulProtocolFrame.getPostExecuteFunction_create
  LawfulProtocolFrame.getType_setSize LawfulProtocolFrame.getReference_setSize
  LawfulProtocolFrame.getExecuteFunction_setSize LawfulProtocolFrame.getPostExecuteFunction_setSize

section

variable {F : Type} [ProtocolFrame F] [LawfulProtocolFrame F] {size : Nat} {reference : Bytes}
  {handler : Option Handler}

@[simp] theorem getData_create_startBytes :
    getData (create .startBytes size reference handler : F) = reference := by
  rw [LawfulDataFrame.getData_marker _ (by simp [FrameType.isMarker])]
  simp

@[simp] theorem getData_create_stopBytes :
    getData (create .stopBytes size reference handler : F) = reference := by
  rw [LawfulDataFrame.getData_marker _ (by simp [FrameType.isMarker])]
  simp

/-- An element that holds as many bytes as are asked for. -/
theorem frameData_of_getData {format : List F} {index : Nat} {f : F} {bytes : Bytes}
    (here : format[index]? = some f) (holds : getData f = bytes) :
    frameData format index bytes.length = bytes := by
  unfold frameData
  rw [here, Option.map_some, Option.getD_some,
    LawfulProtocolFrame.getDataUpTo_eq f bytes.length (by rw [holds]), holds, List.take_length]

end

/-- A plain record of what an element of the example holds. -/
structure ProtocolElement where
  type : FrameType
  size : Nat
  reference : Bytes
  stored : Bytes
  handler : Option Handler
deriving DecidableEq

namespace ProtocolElement

def bytes (f : ProtocolElement) : Bytes := if f.type.isMarker then f.reference else f.stored

/-- The elements as the functions of the example see them, who call no other function. -/
@[reducible] def plain : ProtocolFrame ProtocolElement where
  getType f := f.type
  getSize f := if f.type.isMarker then f.reference.length else f.size
  getReference f := f.reference
  getData := bytes
  setData f bytes := { f with stored := bytes }
  getExecuteFunction _ := none
  getPostExecuteFunction _ := none
  getAllData format := format.flatMap bytes
  create type size reference handler := ⟨type, size, reference, [], handler⟩
  setSize f size := { f with size }
  getSpecificDataAsVector format first last :=
    match first, last with
    | some first, some last => ((format.take (last + 1)).drop first).flatMap bytes
    | _, _ => []
  getDataUpTo f sz := f.bytes.take sz

instance : ProtocolFrame ProtocolElement where
  toDataFrame := { plain.toDataFrame with
    getPostExecuteFunction := fun f => f.handler.map (@Handler.callback _ plain) }
  create := plain.create
  setSize := plain.setSize
  getSpecificDataAsVector := plain.getSpecificDataAsVector
  getDataUpTo := plain.getDataUpTo

instance : LawfulProtocolFrame ProtocolElement where
  getData_marker f marker := if_pos marker
  getSize_marker f marker := if_pos marker
  getData_setData f bytes field := by
    cases f with
    | mk type size reference stored handler =>
        cases type with
        | startBytes | stopBytes | other => contradiction
        | contentLength | data | validator | command => rfl
  getType_setData _ _ := rfl
  getSize_setData _ _ := rfl
  getReference_setData _ _ := rfl
  getExecuteFunction_setData _ _ := rfl
  getPostExecuteFunction_setData _ _ := rfl
  getAllData_eq _ := rfl
  getType_create _ _ _ _ := rfl
  getSize_create type _ _ _ field := by
    cases type with
    | startBytes | stopBytes | other => contradiction
    | contentLength | data | validator | command => rfl
  getReference_create _ _ _ _ := rfl
  getExecuteFunction_create _ _ _ _ := rfl
  getPostExecuteFunction_create _ _ _ handler := by
    cases handler with
    | none => rfl
    | some handler => cases handler <;> rfl
  getType_setSize _ _ := rfl
  getSize_setSize f _ field := by
    cases f with
    | mk type size reference stored handler =>
        cases type with
        | startBytes | stopBytes | other => contradiction
        | contentLength | data | validator | command => rfl
  getReference_setSize _ _ := rfl
  getExecuteFunction_setSize _ _ := rfl
  getPostExecuteFunction_setSize _ _ := rfl
  getSpecificDataAsVector_eq _ _ _ _ _ := rfl
  getDataUpTo_eq _ _ _ := rfl

end ProtocolElement

/-! ## Frames of the protocol -/

/-- How long the data is by the command. -/
def payloadSize (command : UInt8) : Option Nat :=
  if command = 0x35 then some 3 else if command = 0x36 then some 2 else none

/-- The bytes that the CRC is calculated from. -/
def covered (command : UInt8) (payload : Bytes) : Bytes := startMark ++ command :: payload

/-- The bytes of a number in the order of the host. -/
def wordBytes (word : UInt16) : Bytes := [word.toUInt8, (word >>> 8).toUInt8]

def encode (command : UInt8) (payload : Bytes) : Bytes :=
  covered command payload ++ wordBytes (crc16Of (covered command payload)) ++ stopMark

/-- A frame as the comment of the example describes it. -/
def ValidFrame (frame : Bytes) : Prop :=
  ∃ command payload, payloadSize command = some payload.length ∧ frame = encode command payload

/-- The frame that the comment of the example gives. -/
example : encode 0x35 [0x36, 0x37, 0x38] =
    [0x31, 0x32, 0x33, 0x34, 0x35, 0x36, 0x37, 0x38, 0x15, 0x90, 0x39, 0x30, 0x2D, 0x3D] := by
  decide +kernel

end SynapTCP
