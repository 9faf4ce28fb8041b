import SynapTCP.Example.Reception

namespace SynapTCP

open Data

/-! # Frames hit by a burst

The CRC of the example as one of 16 bits, and what it is good for: a frame in which no
more than 16 consecutive bits are changed is not taken for another one.
-/

/-- The bits of a byte as the CRC takes them, the highest first. -/
def bitsOf (byte : UInt8) : List Bool := (List.range 8).map byte.toBitVec.getMsbD

def bits (data : Bytes) : List Bool := data.flatMap bitsOf

theorem bitsOf_length (byte : UInt8) : (bitsOf byte).length = 8 := by
  simp [bitsOf]

theorem bits_cons (byte : UInt8) (data : Bytes) : bits (byte :: data) = bitsOf byte ++ bits data :=
  List.flatMap_cons

theorem bits_length (data : Bytes) : (bits data).length = 8 * data.length := by
  induction data with
  | nil => rfl
  | cons byte data ih =>
      rw [bits_cons, List.length_append, bitsOf_length, ih, List.length_cons]
      omega

theorem highest_bit (crc : UInt16) : crc &&& 0x8000 ≠ 0 ↔ crc.toBitVec.msb = true := by
  have mask : (crc &&& 0x8000).toBitVec = crc.toBitVec &&& BitVec.twoPow 16 15 := rfl
  rw [Ne, ← UInt16.toBitVec_inj, mask, BitVec.and_twoPow, BitVec.msb_eq_getLsbD_last]
  cases top : crc.toBitVec.getLsbD (16 - 1) with
  | false => simp
  | true =>
      simp only [if_true]
      decide

theorem crc16Shift_toBitVec (crc : UInt16) :
    (crc16Shift crc).toBitVec = crcShift 0x1021#16 crc.toBitVec := by
  unfold crc16Shift crcShift
  by_cases top : crc &&& 0x8000 ≠ 0
  · rw [if_pos top, if_pos ((highest_bit crc).mp top)]
    rfl
  · rw [if_neg top, if_neg fun msb => top ((highest_bit crc).mpr msb)]
    rfl

theorem crc16Byte_toBitVec (crc : UInt16) (byte : UInt8) :
    (crc16Byte crc byte).toBitVec = (crcShift 0x1021#16)^[8]
      (crc.toBitVec ^^^ (byte.toUInt16 <<< 8).toBitVec) := by
  have shifts : ∀ (count : Nat) (start : UInt16),
      ((List.range count).foldl (fun crc _ => crc16Shift crc) start).toBitVec =
        (crcShift 0x1021#16)^[count] start.toBitVec := by
    intro count start
    induction count with
    | zero => rfl
    | succ count ih =>
        rw [List.range_succ, List.foldl_append, Function.iterate_succ_apply', ← ih]
        exact crc16Shift_toBitVec _
  exact shifts 8 _

theorem loaded_bitsOf (byte : UInt8) :
    (loaded (bitsOf byte) : BitVec 16) = (byte.toUInt16 <<< 8).toBitVec := by
  apply BitVec.eq_of_getLsbD_eq
  intro i inside
  have moved : (byte.toUInt16 <<< 8).toBitVec = byte.toBitVec.setWidth 16 <<< 8 := rfl
  rw [loaded_getLsbD inside, moved, BitVec.getLsbD_shiftLeft, BitVec.getLsbD_setWidth, bitsOf,
    List.getElem?_map]
  by_cases high : 8 ≤ i
  · rw [List.getElem?_range (by omega), Option.map_some, Option.getD_some, BitVec.getMsbD]
    have place : 8 - 1 - (16 - 1 - i) = i - 8 := by omega
    rw [place, decide_eq_true (by omega), decide_eq_true inside, decide_eq_false (by omega),
      decide_eq_true (by omega)]
    rfl
  · rw [List.getElem?_eq_none (by rw [List.length_range]; omega), decide_eq_true inside,
      decide_eq_true (Nat.lt_of_not_le high)]
    rfl

/-- The CRC of the example is the one of 16 bits with the polynomial 0x1021. -/
theorem crc16Of_toBitVec (data : Bytes) :
    (crc16Of data).toBitVec = crcBits 0x1021#16 0#16 (bits data) := by
  have fed : ∀ crc : UInt16, (data.foldl crc16Byte crc).toBitVec =
      crcBits 0x1021#16 crc.toBitVec (bits data) := by
    induction data with
    | nil => exact fun _ => rfl
    | cons byte data ih =>
        intro crc
        have byteBits : (crc16Byte crc byte).toBitVec =
            crcBits 0x1021#16 crc.toBitVec (bitsOf byte) := by
          rw [crcBits_eq (by rw [bitsOf_length]; decide), bitsOf_length, loaded_bitsOf]
          exact crc16Byte_toBitVec crc byte
        rw [List.foldl_cons, ih, byteBits, bits_cons, crcBits_append]
  exact fed 0

theorem crc16Of_ne_of_burst {text damaged : Bytes} (burst : Burst 16 (bits text) (bits damaged)) :
    crc16Of text ≠ crc16Of damaged := by
  intro same
  have registers := congrArg UInt16.toBitVec same
  rw [crc16Of_toBitVec, crc16Of_toBitVec] at registers
  exact burst.crcBits_ne (by decide) registers

theorem wordBytes_injective : Function.Injective wordBytes := by
  intro first second same
  have width : (wordBytes first).length = 2 := rfl
  have value := (hostWord_eq_iff width first).mpr rfl
  rw [same] at value
  rw [← value]
  exact (hostWord_eq_iff rfl second).mpr rfl

/-! ## Damaged frames -/

variable {text damaged trailer tail : Bytes} {command other : UInt8} {payload payload' : Bytes}

/-- The last six bytes of a frame are its CRC and the stop mark. -/
theorem encode_split (six : trailer.length = 6) (whole : text ++ trailer = encode command payload) :
    text = covered command payload ∧
      trailer = wordBytes (crc16Of (covered command payload)) ++ stopMark := by
  have parts : text ++ trailer =
      covered command payload ++ (wordBytes (crc16Of (covered command payload)) ++ stopMark) := by
    rw [whole, encode, List.append_assoc]
  have total := congrArg List.length parts
  have end_length : (wordBytes (crc16Of (covered command payload)) ++ stopMark).length = 6 := rfl
  rw [List.length_append, List.length_append, six, end_length] at total
  exact List.append_inj parts (by omega)

theorem length_of_burst (burst : Burst 16 (bits text) (bits damaged)) :
    damaged.length = text.length := by
  have length := burst.length
  rw [bits_length, bits_length] at length
  omega

/-- A burst in front of the CRC of a frame leaves no frame. -/
theorem not_validFrame_of_burst (valid : ValidFrame (text ++ trailer)) (six : trailer.length = 6)
    (burst : Burst 16 (bits text) (bits damaged)) : ¬ ValidFrame (damaged ++ trailer) := by
  rintro ⟨command', payload', known', whole'⟩
  obtain ⟨command, payload, known, whole⟩ := valid
  obtain ⟨front, check⟩ := encode_split six whole
  obtain ⟨front', check'⟩ := encode_split six whole'
  have words := List.append_cancel_right (check.symm.trans check')
  have sums := wordBytes_injective words
  rw [← front, ← front'] at sums
  exact crc16Of_ne_of_burst burst sums

/-- Nor is it taken for the front of a shorter or a longer frame: the stop mark is in the
wrong place for those. -/
theorem encode_length_eq_of_burst (known : payloadSize command = some payload.length)
    (known' : payloadSize other = some payload'.length) (six : trailer.length = 6)
    (whole : text ++ trailer = encode command payload) (length : damaged.length = text.length)
    {after : Bytes} (front : damaged ++ trailer ++ tail = encode other payload' ++ after) :
    payload'.length = payload.length := by
  have bounds := payloadSize_bounds known
  have bounds' := payloadSize_bounds known'
  obtain ⟨textIs, trailerIs⟩ := encode_split six whole
  have text_length : text.length = payload.length + 5 := by rw [textIs, covered_length]
  -- the bytes of the stop mark, where the frame has them
  have sent : ∀ i, (damaged ++ trailer ++ tail)[text.length + 2 + i]? = (stopMark ++ tail)[i]? := by
    intro i
    rw [List.append_assoc, List.getElem?_append_right (by omega), trailerIs, List.append_assoc,
      List.getElem?_append_right (by rw [length]; show 2 ≤ _; omega)]
    congr 1
    rw [length]
    show _ - 2 = i
    omega
  have taken : ∀ i, (damaged ++ trailer ++ tail)[payload'.length + 7 + i]? =
      (stopMark ++ after)[i]? := by
    intro i
    rw [front, encode, List.append_assoc, List.getElem?_append_right]
    · congr 1
      rw [List.length_append, covered_length]
      show _ - (_ + 2) = i
      omega
    · rw [List.length_append, covered_length]
      show _ + 2 ≤ _
      omega
  by_contra different
  rcases Nat.lt_or_gt_of_ne different with shorter | longer
  · have first := sent 0
    have second := taken 1
    rw [show text.length + 2 + 0 = payload'.length + 7 + 1 by omega, second] at first
    simp [stopMark] at first
  · have first := sent 1
    have second := taken 0
    rw [show text.length + 2 + 1 = payload'.length + 7 + 0 by omega, second] at first
    simp [stopMark] at first

theorem recognise_refuses_burst {noise stream : Bytes} {r : Recognised}
    (valid : ValidFrame (text ++ trailer)) (six : trailer.length = 6)
    (burst : Burst 16 (bits text) (bits damaged))
    (there : stream.drop noise.length = damaged ++ trailer ++ tail)
    (first : LeftmostAt startMark stream noise.length)
    (recognised : recognise stream = some r) : r.code ≠ 0 := by
  intro accepted
  have recognises := recognises_of_recognise recognised
  cases recognises with
  | unknown | mismatch | unstopped => contradiction
  | @accepted index command' payload' after first' there' known' =>
      obtain ⟨command, payload, known, whole⟩ := valid
      obtain rfl := first.unique first'
      have front : damaged ++ trailer ++ tail = encode command' payload' ++ after :=
        there.symm.trans there'
      have length := encode_length_eq_of_burst known known' six whole (length_of_burst burst) front
      have sizes : (damaged ++ trailer).length = (encode command' payload').length := by
        rw [encode_length, length, ← @encode_length command payload, ← whole,
          List.length_append, List.length_append, (length_of_burst burst)]
      exact not_validFrame_of_burst ⟨command, payload, known, whole⟩ six burst
        ⟨command', payload', known', (List.append_inj front sizes).1⟩

/-- A frame in which up to 16 consecutive bits in front of the CRC are changed is refused
and not sent back, if it is the first that still has a start mark. -/
theorem receptionCallbackFunction_refuses_burst {F : Type} [ProtocolFrame F]
    [LawfulProtocolFrame F] {connection : SynapSock F} {w : Wire} {writes : List Nat}
    {noise : Bytes} (ready : connection.Readable) (format : connection.frameFormat = [])
    (chunks : .failed ∉ w.reads) (valid : ValidFrame (text ++ trailer))
    (six : trailer.length = 6) (burst : Burst 16 (bits text) (bits damaged))
    (there : (connection.toSocket.stream w).drop noise.length = damaged ++ trailer ++ tail)
    (first : LeftmostAt startMark (connection.toSocket.stream w) noise.length)
    (enough : 14 ≤ (damaged ++ trailer ++ tail).length) :
    ∃ served, receptionCallbackFunction connection w writes = some served ∧
      served.ret ≠ 0 ∧ served.echo = none := by
  have long : noise.length + 14 ≤ (connection.toSocket.stream w).length := by
    have length := congrArg List.length there
    rw [List.length_drop] at length
    omega
  obtain ⟨r, recognised⟩ := Option.isSome_iff_exists.mp (recognise_isSome first long)
  have refused := recognise_refuses_burst valid six burst there first recognised
  obtain ⟨served, called, serves⟩ := @receptionCallbackFunction_serves F _ _ connection w writes r
    ready format (Socket.supplied_of_chunks chunks) recognised
  refine ⟨served, called, ?_, serves.silent refused⟩
  rw [serves.ret]
  exact refused

/-- The frame of the example with the other command in it. -/
def damagedWire : Wire where
  polls := []
  reads := [.chunk (.of 9 [0x31, 0x32, 0x33, 0x34, 0x36, 0x36]),
    .chunk (.of 0x37 [0x38, 0x15, 0x90, 0x39, 0x30, 0x2D, 0x3D])]
  stray := 0

theorem receptionCallbackFunction_refuses_burst_command :
    ∃ served, receptionCallbackFunction visitor damagedWire [] = some served ∧
      served.ret ≠ 0 ∧ served.echo = none := by
  have burst : Burst 16 (bits [0x31, 0x32, 0x33, 0x34, 0x35, 0x36, 0x37, 0x38])
      (bits [0x31, 0x32, 0x33, 0x34, 0x36, 0x36, 0x37, 0x38]) :=
    ⟨bits [0x31, 0x32, 0x33, 0x34], bits [0x35], bits [0x36], bits [0x36, 0x37, 0x38],
      by decide, by decide, by decide, by decide, by decide⟩
  exact @receptionCallbackFunction_refuses_burst [0x31, 0x32, 0x33, 0x34, 0x35, 0x36, 0x37, 0x38]
    [0x31, 0x32, 0x33, 0x34, 0x36, 0x36, 0x37, 0x38] [0x15, 0x90, 0x39, 0x30, 0x2D, 0x3D] []
    _ _ _ visitor damagedWire [] [9] visitor_readable rfl (by decide)
    ⟨0x35, [0x36, 0x37, 0x38], rfl, by decide +kernel⟩ rfl burst (by decide)
    ⟨by decide, by decide⟩ (by decide)

end SynapTCP
