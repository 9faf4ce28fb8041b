import SynapTCP.Example.Protocol
import SynapTCP.Frame.Messages

namespace SynapTCP

open Data DataFrame ProtocolFrame

/-! # What the example recognises

A stream is searched for the frames of the example, stated without elements and their
functions; and the decoder of the example's format finds the same.
-/

structure Recognised where
  code : Nat
  data : Bytes
  rest : Bytes
deriving DecidableEq

/-- Behind a command with `size` bytes of data; `others` is the stream without the first
byte of the frame. -/
def recogniseBody (others : Bytes) (command : UInt8) (size : Nat) (behind : Bytes) :
    Option Recognised :=
  let body := covered command (behind.take size)
  let check := (behind.drop size).take 2
  let after := behind.drop (size + 2)
  if behind.length < size + 2 then none
  else if check ≠ wordBytes (crc16Of body) then some ⟨4, body ++ check, after⟩
  else if after.length < 4 then none
  else if after.take 4 = stopMark then some ⟨0, body ++ check ++ stopMark, after.drop 4⟩
  else some ⟨2, [0x31], others⟩

/-- Behind the first start mark. -/
def recogniseFrame (others : Bytes) : Bytes → Option Recognised
  | [] => none
  | command :: behind =>
      (payloadSize command).elim (some ⟨4, startMark ++ [command], behind⟩)
        fun size => recogniseBody others command size behind

/-- A frame, or what is wrong with it; no result on a stream that ends too early. -/
def recognise (stream : Bytes) : Option Recognised :=
  (firstOccurrence startMark stream).bind fun index =>
    recogniseFrame (stream.drop (index + 1)) (stream.drop (index + 4))

/-! ## The number that is compared -/

theorem hostWord_eq_iff {check : Bytes} (width : check.length = 2) (word : UInt16) :
    hostWord check = word ↔ check = wordBytes word := by
  match check, width with
  | [low, high], _ =>
      have lowBound := low.toNat_lt
      have highBound := high.toNat_lt
      have wordBound := word.toNat_lt
      have value : (hostWord [low, high]).toNat = low.toNat + 256 * high.toNat := by
        simp [hostWord, UInt16.toNat_add, UInt16.toNat_shiftLeft, Nat.shiftLeft_eq]
        omega
      have lowByte : word.toUInt8.toNat = word.toNat % 256 := by simp
      have highByte : (word >>> 8).toUInt8.toNat = word.toNat / 256 := by
        simp [UInt16.toNat_shiftRight, Nat.shiftRight_eq_div_pow]
        omega
      rw [wordBytes, List.cons.injEq, List.cons.injEq, ← UInt16.toNat_inj, ← UInt8.toNat_inj,
        ← UInt8.toNat_inj, value, lowByte, highByte]
      constructor
      · intro same
        exact ⟨by omega, by omega, rfl⟩
      · intro same
        omega

/-! ## The elements one after another -/

namespace Decoding

variable {F : Type} [ProtocolFrame F] {format : List F} {valid : Bool} {tmp : Nat}
  {data rest : Bytes}

omit [ProtocolFrame F] in
theorem call_none {select : F → Option (Callback F)} (none : ∀ f ∈ format, select f = none) :
    (⟨format, valid, tmp, data, rest⟩ : Decoding F).call select =
      ⟨format, valid, tmp, data, rest⟩ := by
  unfold call
  split
  · rfl
  · rename_i callback selected
    obtain ⟨f, here, function⟩ := Option.bind_eq_some_iff.mp selected
    rw [none f (List.mem_of_getElem? here)] at function
    contradiction

attribute [local simp] startBytes cmdBytes dataBytes crcValidatorBytes stopBytes

variable [LawfulProtocolFrame F] {command : UInt8} {size : Nat} {payload check : Bytes}

/-- The format with the command received. -/
def commanded (command : UInt8) : List F :=
  [startBytes, setData cmdBytes [command], dataBytes, crcValidatorBytes, stopBytes]

def sized (command : UInt8) (size : Nat) : List F :=
  [startBytes, setData cmdBytes [command], setSize dataBytes size, crcValidatorBytes, stopBytes]

def loaded (command : UInt8) (size : Nat) (payload : Bytes) : List F :=
  [startBytes, setData cmdBytes [command], setData (setSize dataBytes size) payload,
    crcValidatorBytes, stopBytes]

def checked (command : UInt8) (size : Nat) (payload check : Bytes) : List F :=
  [startBytes, setData cmdBytes [command], setData (setSize dataBytes size) payload,
    setData crcValidatorBytes check, stopBytes]

theorem entered_protocol : (⟨socketSetupDataFrameProtocol, valid, tmp, data, rest⟩ :
    Decoding F).call getExecuteFunction = ⟨socketSetupDataFrameProtocol, valid, tmp, data, rest⟩ :=
  call_none (by simp [socketSetupDataFrameProtocol])

theorem take_startBytes :
    take (⟨socketSetupDataFrameProtocol, true, 0, data, rest⟩ : Decoding F) startBytes =
      takeStart ⟨socketSetupDataFrameProtocol, true, 0, data, rest⟩ startMark := by
  simp [take, startMark]

theorem run_startBytes_none (absent : firstOccurrence startMark rest = none) :
    (⟨socketSetupDataFrameProtocol, true, 0, data, rest⟩ : Decoding F).run = none := by
  refine run_starved rfl entered_protocol ?_
  rw [take_startBytes, takeStart, absent]

theorem run_startBytes {index : Nat} (found : firstOccurrence startMark rest = some index) :
    (⟨socketSetupDataFrameProtocol, true, 0, data, rest⟩ : Decoding F).run =
      (⟨socketSetupDataFrameProtocol, true, 1, [], rest.drop (index + 4)⟩ : Decoding F).run := by
  have took : take (⟨socketSetupDataFrameProtocol, true, 0, data, rest⟩ : Decoding F) startBytes =
      .took ⟨socketSetupDataFrameProtocol, true, 0, startMark, rest.drop (index + 4)⟩ := by
    rw [take_startBytes, takeStart, found]
    rfl
  have left : (⟨socketSetupDataFrameProtocol, true, 0, startMark, rest.drop (index + 4)⟩ :
      Decoding F).call getPostExecuteFunction =
        ⟨socketSetupDataFrameProtocol, true, 0, startMark, rest.drop (index + 4)⟩ := by
    simp [call, socketSetupDataFrameProtocol]
  exact run_took rfl entered_protocol took left rfl

omit [LawfulProtocolFrame F] in
theorem take_field {f : F} (field : (getType f).isField = true) (width : getSize f = size)
    (positive : 0 < size) (enough : size ≤ rest.length) :
    take ⟨format, valid, tmp, data, rest⟩ f =
      .took ⟨format.modify tmp (setData · (rest.take size)), valid, tmp, rest.take size,
        rest.drop size⟩ := by
  rw [take_of_sized field (by rw [width]; exact positive), width, takeFixed,
    if_neg (Nat.not_lt.mpr enough)]
  rfl

omit [LawfulProtocolFrame F] in
theorem take_field_starved {f : F} (field : (getType f).isField = true) (width : getSize f = size)
    (positive : 0 < size) (short : rest.length < size) :
    take ⟨format, valid, tmp, data, rest⟩ f = .starved := by
  rw [take_of_sized field (by rw [width]; exact positive), width, takeFixed, if_pos short]

/-! The command, with the function that sets the length. -/

theorem getSize_cmdBytes : getSize (cmdBytes : F) = 1 :=
  LawfulProtocolFrame.getSize_create _ _ _ _ rfl

theorem getData_cmdBytes : getData (setData (cmdBytes : F) [command]) = [command] :=
  LawfulDataFrame.getData_setData _ _ (by simp [FrameType.isField])

theorem run_cmdBytes_nil :
    (⟨socketSetupDataFrameProtocol, true, 1, [], []⟩ : Decoding F).run = none :=
  run_starved rfl entered_protocol
    (take_field_starved (by simp [FrameType.isField]) getSize_cmdBytes Nat.one_pos Nat.one_pos)

theorem take_cmdBytes :
    take (⟨socketSetupDataFrameProtocol, true, 1, [], command :: rest⟩ : Decoding F) cmdBytes =
      .took ⟨commanded command, true, 1, [command], rest⟩ :=
  take_field (by simp [FrameType.isField]) getSize_cmdBytes Nat.one_pos (by simp)

theorem setupLengthByCommand_eq : setupLengthByCommand.run (commanded command : List F) 1 =
    (payloadSize command).elim (commanded command, true)
      fun size => (sized command size, false) := by
  have target : elementOf (commanded command : List F) .data = some 2 := by
    simp [elementOf, commanded, List.findIdx?_cons]
  have copied : frameData (commanded command : List F) 1 1 = [command] :=
    frameData_of_getData rfl getData_cmdBytes
  simp only [setupLengthByCommand, target, copied, List.headD_cons, payloadSize]
  split
  · rfl
  · split <;> rfl

theorem call_cmdBytes : (⟨commanded command, true, 1, [command], rest⟩ : Decoding F).call
    getPostExecuteFunction = ⟨(setupLengthByCommand.run (commanded command : List F) 1).1,
      !(setupLengthByCommand.run (commanded command : List F) 1).2, 1, [command], rest⟩ := by
  have function : (commanded command : List F)[1]?.bind getPostExecuteFunction =
      some setupLengthByCommand := by
    simp [commanded, Handler.callback]
  simp only [call, function, Bool.true_and]

theorem run_cmdBytes_some (known : payloadSize command = some size) :
    (⟨socketSetupDataFrameProtocol, true, 1, [], command :: rest⟩ : Decoding F).run =
      (⟨sized command size, true, 2, [], rest⟩ : Decoding F).run := by
  have called := @call_cmdBytes F _ rest _ command
  rw [setupLengthByCommand_eq, known] at called
  exact run_took rfl entered_protocol take_cmdBytes called rfl

theorem run_cmdBytes_none (unknown : payloadSize command = none) :
    (⟨socketSetupDataFrameProtocol, true, 1, [], command :: rest⟩ : Decoding F).run =
      some ⟨4, startMark ++ [command], commanded command, rest⟩ := by
  have called := @call_cmdBytes F _ rest _ command
  rw [setupLengthByCommand_eq, unknown] at called
  rw [run_vetoed rfl entered_protocol take_cmdBytes called rfl]
  simp [refuse, SynapSock.dataFail, commanded]

/-! The data, as long as the command says. -/

theorem entered_sized : (⟨sized command size, valid, tmp, data, rest⟩ : Decoding F).call
    getExecuteFunction = ⟨sized command size, valid, tmp, data, rest⟩ :=
  call_none (by simp [sized])

theorem getSize_dataBytes : getSize (setSize (dataBytes : F) size) = size :=
  LawfulProtocolFrame.getSize_setSize _ _ (by simp [FrameType.isField])

theorem getData_dataBytes : getData (setData (setSize (dataBytes : F) size) payload) = payload :=
  LawfulDataFrame.getData_setData _ _ (by simp [FrameType.isField])

theorem run_dataBytes_starved (positive : 0 < size) (short : rest.length < size) :
    (⟨sized command size, true, 2, [], rest⟩ : Decoding F).run = none :=
  run_starved rfl entered_sized
    (take_field_starved (by simp [FrameType.isField]) getSize_dataBytes positive short)

theorem run_dataBytes (positive : 0 < size) (enough : size ≤ rest.length) :
    (⟨sized command size, true, 2, [], rest⟩ : Decoding F).run =
      (⟨loaded command size (rest.take size), true, 3, [], rest.drop size⟩ : Decoding F).run := by
  have took : take (⟨sized command size, true, 2, [], rest⟩ : Decoding F)
      (setSize dataBytes size) =
      .took ⟨loaded command size (rest.take size), true, 2, rest.take size, rest.drop size⟩ :=
    take_field (by simp [FrameType.isField]) getSize_dataBytes positive enough
  have left : (⟨loaded command size (rest.take size), true, 2, rest.take size, rest.drop size⟩ :
      Decoding F).call getPostExecuteFunction =
        ⟨loaded command size (rest.take size), true, 2, rest.take size, rest.drop size⟩ := by
    simp [call, loaded]
  exact run_took rfl entered_sized took left rfl

/-! The CRC, with the function that compares it. -/

theorem entered_loaded : (⟨loaded command size payload, valid, tmp, data, rest⟩ :
    Decoding F).call getExecuteFunction = ⟨loaded command size payload, valid, tmp, data, rest⟩ :=
  call_none (by simp [loaded])

theorem getSize_crcValidatorBytes : getSize (crcValidatorBytes : F) = 2 :=
  LawfulProtocolFrame.getSize_create _ _ _ _ rfl

theorem getData_crcValidatorBytes : getData (setData (crcValidatorBytes : F) check) = check :=
  LawfulDataFrame.getData_setData _ _ (by simp [FrameType.isField])

theorem run_crcValidatorBytes_starved (short : rest.length < 2) :
    (⟨loaded command size payload, true, 3, [], rest⟩ : Decoding F).run = none :=
  run_starved rfl entered_loaded
    (take_field_starved (by simp [FrameType.isField]) getSize_crcValidatorBytes Nat.two_pos short)

/-- What the CRC is calculated from, in the elements. -/
theorem flatMap_covered : ([startBytes, setData cmdBytes [command],
    setData (setSize dataBytes size) payload] : List F).flatMap getData =
      covered command payload := by
  simp only [List.flatMap_cons, List.flatMap_nil, getData_cmdBytes, getData_dataBytes]
  simp [covered]

theorem crc16_eq (width : check.length = 2) :
    crc16.run (checked command size payload check : List F) 3 =
      (checked command size payload check,
        decide (check ≠ wordBytes (crc16Of (covered command payload)))) := by
  have first : elementOf (checked command size payload check : List F) .startBytes = some 0 := by
    simp [elementOf, checked, List.findIdx?_cons]
  have last : elementOf (checked command size payload check : List F) .data = some 2 := by
    simp [elementOf, checked, List.findIdx?_cons]
  have copied : frameData (checked command size payload check : List F) 3 2 = check := by
    have whole := @frameData_of_getData F _ _ (checked command size payload check) 3 _ check rfl
      getData_crcValidatorBytes
    rwa [width] at whole
  have body : getSpecificDataAsVector (checked command size payload check : List F) (some 0)
      (some 2) = covered command payload := by
    rw [LawfulProtocolFrame.getSpecificDataAsVector_eq _ _ _ (by decide) (by simp [checked])]
    exact flatMap_covered
  simp only [crc16, first, last, copied, body, Ne, hostWord_eq_iff width]

theorem take_crcValidatorBytes (enough : 2 ≤ rest.length) :
    take (⟨loaded command size payload, true, 3, [], rest⟩ : Decoding F) crcValidatorBytes =
      .took ⟨checked command size payload (rest.take 2), true, 3, rest.take 2, rest.drop 2⟩ :=
  take_field (by simp [FrameType.isField]) getSize_crcValidatorBytes Nat.two_pos enough

theorem call_crcValidatorBytes (width : check.length = 2) :
    (⟨checked command size payload check, true, 3, data, rest⟩ : Decoding F).call
      getPostExecuteFunction = ⟨checked command size payload check,
        decide (check = wordBytes (crc16Of (covered command payload))), 3, data, rest⟩ := by
  have function : (checked command size payload check : List F)[3]?.bind getPostExecuteFunction =
      some crc16 := by
    simp [checked, Handler.callback]
  simp [call, function, crc16_eq width]

theorem run_crcValidatorBytes_wrong (enough : 2 ≤ rest.length)
    (wrong : rest.take 2 ≠ wordBytes (crc16Of (covered command payload))) :
    (⟨loaded command size payload, true, 3, [], rest⟩ : Decoding F).run =
      some ⟨4, covered command payload ++ rest.take 2, checked command size payload (rest.take 2),
        rest.drop 2⟩ := by
  have called := @call_crcValidatorBytes F _ (rest.take 2) (rest.drop 2) _ command size payload
    (rest.take 2) (List.length_take_of_le enough)
  rw [decide_eq_false wrong] at called
  rw [run_vetoed rfl entered_loaded (take_crcValidatorBytes enough) called rfl]
  have kept : SynapSock.dataFail (checked command size payload (rest.take 2) : List F) 3 =
      covered command payload := flatMap_covered
  simp only [refuse, kept]

theorem run_crcValidatorBytes (enough : 2 ≤ rest.length)
    (right : rest.take 2 = wordBytes (crc16Of (covered command payload))) :
    (⟨loaded command size payload, true, 3, [], rest⟩ : Decoding F).run =
      (⟨checked command size payload (rest.take 2), true, 4, [], rest.drop 2⟩ :
        Decoding F).run := by
  have called := @call_crcValidatorBytes F _ (rest.take 2) (rest.drop 2) _ command size payload
    (rest.take 2) (List.length_take_of_le enough)
  rw [decide_eq_true right] at called
  exact run_took rfl entered_loaded (take_crcValidatorBytes enough) called rfl

/-! The stop mark. -/

theorem entered_checked : (⟨checked command size payload check, valid, tmp, data, rest⟩ :
    Decoding F).call getExecuteFunction =
      ⟨checked command size payload check, valid, tmp, data, rest⟩ :=
  call_none (by simp [checked])

theorem take_stopBytes :
    take (⟨checked command size payload check, true, 4, [], rest⟩ : Decoding F) stopBytes =
      if rest.length < 4 then .starved
      else if rest.take 4 = stopMark then
        .took ⟨checked command size payload check, true, 4, stopMark, rest.drop 4⟩
      else .differs := by
  have marker : take (⟨checked command size payload check, true, 4, [], rest⟩ : Decoding F)
      stopBytes = takeStop ⟨checked command size payload check, true, 4, [], rest⟩ stopMark := by
    simp [take, stopMark]
  exact marker

theorem flatMap_checked : (checked command size payload check : List F).flatMap getData =
    covered command payload ++ check ++ stopMark := by
  have front := @flatMap_covered F _ _ command size payload
  simp only [List.flatMap_cons, List.flatMap_nil, List.append_nil] at front
  simp only [checked, List.flatMap_cons, List.flatMap_nil, getData_crcValidatorBytes, ← front]
  simp

theorem run_stopBytes_starved (short : rest.length < 4) :
    (⟨checked command size payload check, true, 4, [], rest⟩ : Decoding F).run = none := by
  refine run_starved rfl entered_checked ?_
  rw [take_stopBytes, if_pos short]

theorem run_stopBytes (enough : 4 ≤ rest.length) (same : rest.take 4 = stopMark) :
    (⟨checked command size payload check, true, 4, [], rest⟩ : Decoding F).run =
      some ⟨0, covered command payload ++ check ++ stopMark, checked command size payload check,
        rest.drop 4⟩ := by
  have took : take (⟨checked command size payload check, true, 4, [], rest⟩ : Decoding F)
      stopBytes = .took ⟨checked command size payload check, true, 4, stopMark, rest.drop 4⟩ := by
    rw [take_stopBytes, if_neg (Nat.not_lt.mpr enough), if_pos same]
  have left : (⟨checked command size payload check, true, 4, stopMark, rest.drop 4⟩ :
      Decoding F).call getPostExecuteFunction =
        ⟨checked command size payload check, true, 4, stopMark, rest.drop 4⟩ := by
    simp [call, checked]
  rw [run_took rfl entered_checked took left rfl, run_beyond (by simp [checked])]
  rw [LawfulDataFrame.getAllData_eq, flatMap_checked]

/-- One byte is given up, all the others are there again. -/
theorem run_stopBytes_differs (enough : 4 ≤ rest.length) (other : rest.take 4 ≠ stopMark) :
    (⟨checked command size payload check, true, 4, [], rest⟩ : Decoding F).run =
      some ⟨2, [0x31], checked command size payload check,
        (covered command payload ++ check).tail ++ rest⟩ := by
  have differs : take (⟨checked command size payload check, true, 4, [], rest⟩ : Decoding F)
      stopBytes = .differs := by
    rw [take_stopBytes, if_neg (Nat.not_lt.mpr enough), if_neg other]
  rw [run_differs rfl entered_checked differs]
  have kept : SynapSock.dataFail (checked command size payload check : List F) 4 =
      covered command payload ++ check := by
    have front : SynapSock.dataFail (checked command size payload check : List F) 3 =
      covered command payload := flatMap_covered
    rw [SynapSock.dataFail_succ rfl, front, getData_crcValidatorBytes]
  simp only [giveUp, kept]
  rfl

end Decoding

/-! ## The decoder as a recogniser -/

variable {F : Type} [ProtocolFrame F] [LawfulProtocolFrame F] {data stream : Bytes}

/-- What the recogniser tells of a decoding. -/
def Decoded.recognised (decoded : Decoded F) : Recognised := ⟨decoded.code, decoded.data, decoded.rest⟩

theorem payloadSize_bounds {command : UInt8} {size : Nat}
    (known : payloadSize command = some size) : 2 ≤ size ∧ size ≤ 3 := by
  unfold payloadSize at known
  split at known
  · cases known
    decide
  · split at known
    · cases known
      decide
    · contradiction

theorem run_recogniseBody {command : UInt8} {size : Nat} {behind : Bytes} (positive : 0 < size) :
    (⟨Decoding.sized command size, true, 2, [], behind⟩ : Decoding F).run.map
      Decoded.recognised =
        recogniseBody (startMark.tail ++ command :: behind) command size behind := by
  have whole : covered command (behind.take size) ++ (behind.drop size).take 2 ++
      (behind.drop size).drop 2 = startMark ++ command :: behind := by
    simp [covered]
  unfold recogniseBody
  dsimp only
  by_cases enough : size + 2 ≤ behind.length
  · rw [if_neg (Nat.not_lt.mpr enough), Decoding.run_dataBytes positive (by omega)]
    have two : 2 ≤ (behind.drop size).length := by
      rw [List.length_drop]
      omega
    by_cases right : (behind.drop size).take 2 = wordBytes (crc16Of (covered command (behind.take size)))
    · rw [if_neg (not_not_intro right), Decoding.run_crcValidatorBytes two right]
      rw [List.drop_drop] at whole ⊢
      by_cases long : 4 ≤ (behind.drop (size + 2)).length
      · rw [if_neg (Nat.not_lt.mpr long)]
        by_cases same : (behind.drop (size + 2)).take 4 = stopMark
        · rw [if_pos same, Decoding.run_stopBytes long same]
          rfl
        · rw [if_neg same, Decoding.run_stopBytes_differs long same]
          have left : (covered command (behind.take size) ++ (behind.drop size).take 2).tail ++
              behind.drop (size + 2) = startMark.tail ++ command :: behind :=
            congrArg List.tail whole
          simp only [Option.map_some, Decoded.recognised, left]
      · rw [if_pos (Nat.lt_of_not_le long), Decoding.run_stopBytes_starved (Nat.lt_of_not_le long)]
        rfl
    · rw [if_pos right, Decoding.run_crcValidatorBytes_wrong two right, List.drop_drop]
      rfl
  · rw [if_pos (Nat.lt_of_not_le enough)]
    by_cases all : size ≤ behind.length
    · rw [Decoding.run_dataBytes positive all, Decoding.run_crcValidatorBytes_starved]
      · rfl
      · rw [List.length_drop]
        omega
    · rw [Decoding.run_dataBytes_starved positive (Nat.lt_of_not_le all)]
      rfl

theorem run_recogniseFrame {rest : Bytes} :
    (⟨socketSetupDataFrameProtocol, true, 1, [], rest⟩ : Decoding F).run.map
      Decoded.recognised = recogniseFrame (startMark.tail ++ rest) rest := by
  cases rest with
  | nil =>
      rw [Decoding.run_cmdBytes_nil]
      rfl
  | cons command behind =>
      cases known : payloadSize command with
      | none =>
          rw [Decoding.run_cmdBytes_none known, recogniseFrame, known]
          rfl
      | some size =>
          rw [Decoding.run_cmdBytes_some known, recogniseFrame, known]
          exact run_recogniseBody (Nat.lt_of_lt_of_le Nat.two_pos (payloadSize_bounds known).1)

theorem decode_eq_recognise :
    (decode (socketSetupDataFrameProtocol : List F) data stream).map Decoded.recognised =
      recognise stream := by
  unfold decode recognise
  cases found : firstOccurrence startMark stream with
  | none =>
      rw [Decoding.run_startBytes_none found]
      rfl
  | some index =>
      have occurs := (leftmostAt_of_firstOccurrence found).occurs
      have others : stream.drop (index + 1) = startMark.tail ++ stream.drop (index + 4) := by
        have mark := List.take_append_drop startMark.length (stream.drop index)
        rw [occursAt_iff_take.mp occurs, List.drop_drop] at mark
        rw [← List.drop_drop, ← mark]
        rfl
      rw [Decoding.run_startBytes found, Option.bind_some, others]
      exact run_recogniseFrame

end SynapTCP
