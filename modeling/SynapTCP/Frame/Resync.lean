import SynapTCP.Data.Scanner
import SynapTCP.Frame.Delivery

namespace SynapTCP

open Data DataFrame

/-! # Resynchronisation behind a false start

For a format of a start marker, fields of fixed sizes and a stop marker, one call
of `receiveFramedData` after another gives what a scanner over the whole stream
gives.
-/

section

variable {F : Type} [DataFrame F]

structure FixedField (f : F) (width : Nat) : Prop where
  field : (getType f).isField = true
  size : getSize f = width
  sized : 0 < width

/-- A start marker, fields of the sizes given, and a stop marker. -/
structure FixedParts (r0 r1 : Bytes) (sizes : List Nat) (start : F) (fields : List F)
    (stop : F) : Prop where
  opening : getType start = .startBytes
  first : getReference start = r0
  opens : r0 ≠ []
  fields : List.Forall₂ FixedField fields sizes
  closing : getType stop = .stopBytes
  last : getReference stop = r1
  closes : r1 ≠ []

def FixedFormat (r0 r1 : Bytes) (sizes : List Nat) (format : List F) : Prop :=
  ∃ start fields stop, format = start :: (fields ++ [stop]) ∧
    FixedParts r0 r1 sizes start fields stop

end

namespace Framing

variable {F : Type} [DataFrame F] {framing middle later : Framing F} {f : F}
  {count taken : Nat}

theorem Handed.trans {position final more : Nat} {format finalFormat : List F}
    (left : Handed framing middle count taken position format)
    (right : Handed middle later (count - taken) more final finalFormat) :
    Handed framing later count (taken + more) final finalFormat where
  fluent := by
    rw [← Nat.sub_sub]
    exact right.fluent
  stream := by rw [right.stream, left.stream, List.drop_drop]
  position := right.position
  format := right.format

/-- What a stop marker that is not there leaves. -/
structure Refused (framing last : Framing F) (count : Nat) : Prop where
  ready : last.sock.Readable
  format : last.sock.frameFormat = framing.sock.frameFormat
  position : last.tmp = framing.tmp
  remaining : last.sock.remainingData = []
  stream : last.sock.data ++ last.wire.unread = framing.stream
  supplied : count ≤ last.sock.data.length + (promptBytes last.wire.reads).length

theorem pass_refused (fluent : Fluent framing count)
    (here : framing.sock.frameFormat[framing.tmp]? = some f)
    (type : getType f = .stopBytes) (nonempty : getReference f ≠ [])
    (other : framing.stream.take (getReference f).length ≠ getReference f)
    (within : (getReference f).length ≤ count) :
    ∃ last, framing.pass = .leave 2 last ∧ Refused framing last count := by
  obtain ⟨same, -, missed⟩ :=
    Socket.receiveStopBytes_supplied fluent.ready nonempty fluent.supplied within
  obtain ⟨code, remaining, stream, supplied⟩ := missed other
  have received : framing.receiveElement f = (2, framing.receive
      (framing.sock.receiveStopBytes framing.wire (getReference f))) := by
    rw [receiveElement, if_neg (by simp [type]), if_pos ⟨type, List.length_pos_iff.mpr nonempty⟩,
      receiveMarker, if_pos (by simp [code])]
  have passed := pass_silent fluent.silent here received fluent.silent fluent.valid
  rw [if_pos (by simp)] at passed
  have ready := same.readable fluent.ready
  exact ⟨_, passed, ⟨⟨ready.opened, ready.connected⟩, rfl, rfl, remaining, stream, supplied⟩⟩

variable [LawfulDataFrame F]

theorem reaches_through_fields {fields : List F} {sizes : List Nat}
    (fixed : List.Forall₂ FixedField fields sizes) {framing : Framing F} {front back : List F}
    {count : Nat} (format : framing.sock.frameFormat = front ++ (fields ++ back))
    (position : framing.tmp = front.length) (fluent : Fluent framing count)
    (within : sizes.sum ≤ count) (enough : sizes.sum ≤ framing.stream.length) :
    ∃ later filled, framing.Reaches later ∧ List.Forall₂ FixedField filled sizes ∧
      Handed framing later count sizes.sum (front ++ filled).length (front ++ (filled ++ back)) ∧
      filled.flatMap getData = framing.stream.take sizes.sum := by
  induction fixed generalizing framing front count with
  | nil =>
      refine ⟨framing, [], .refl, .nil, ⟨fluent, rfl, ?_, format⟩, rfl⟩
      rw [position, List.append_nil]
  | @cons f size fields sizes fixed rest ih =>
      rw [List.sum_cons] at within enough
      have here : framing.sock.frameFormat[framing.tmp]? = some f := by
        rw [format, position]
        simp
      have more : framing.tmp < framing.sock.frameFormat.length :=
        (List.getElem?_eq_some_iff.mp here).1
      obtain ⟨middle, passed, handed⟩ := pass_fixed fluent here fixed.field
        (by rw [fixed.size]; exact fixed.sized) (by rw [fixed.size]; omega)
        (by rw [fixed.size]; omega)
      rw [fixed.size] at handed
      have middleFormat : middle.sock.frameFormat =
          (front ++ [setData f (framing.stream.take size)]) ++ (fields ++ back) := by
        rw [handed.format, format, position, List.cons_append, modify_append, List.append_assoc]
        rfl
      have middlePosition :
          middle.tmp = (front ++ [setData f (framing.stream.take size)]).length := by
        rw [handed.position, position, List.length_append]
        rfl
      obtain ⟨later, filled, reaches, fields, rest, content⟩ :=
        ih middleFormat middlePosition handed.fluent (by omega)
          (by rw [handed.stream, List.length_drop]; omega)
      rw [List.append_assoc] at rest
      refine ⟨later, setData f (framing.stream.take size) :: filled, .head ⟨more, passed⟩ reaches,
        .cons ⟨?_, ?_, fixed.sized⟩ fields, ?_, ?_⟩
      · simp [fixed.field]
      · simp [fixed.size]
      · have all := handed.trans rest
        rw [List.append_assoc] at all
        exact all
      · rw [List.flatMap_cons, LawfulDataFrame.getData_setData _ _ fixed.field, content,
          handed.stream, List.sum_cons, List.take_add]

variable {r0 r1 : Bytes} {sizes : List Nat} {start stop : F} {fields : List F} {skip : Nat}

/-- Where a whole candidate is in the stream, the loop gets to the stop marker
with all of the candidate before it in the elements. -/
theorem reaches_stop (parts : FixedParts r0 r1 sizes start fields stop)
    (format : framing.sock.frameFormat = start :: (fields ++ [stop])) (position : framing.tmp = 0)
    (fluent : Fluent framing count) (leftmost : LeftmostAt r0 framing.stream skip)
    (within : skip + (r0.length + sizes.sum) ≤ count)
    (enough : skip + (r0.length + sizes.sum) ≤ framing.stream.length) :
    ∃ later filled, framing.Reaches later ∧ FixedParts r0 r1 sizes start filled stop ∧
      Handed framing later count (skip + (r0.length + sizes.sum)) (start :: filled).length
        (start :: (filled ++ [stop])) ∧
      (start :: filled).flatMap getData =
        (framing.stream.drop skip).take (r0.length + sizes.sum) := by
  have here : framing.sock.frameFormat[framing.tmp]? = some start := by
    rw [format, position]
    rfl
  have more : framing.tmp < framing.sock.frameFormat.length := (List.getElem?_eq_some_iff.mp here).1
  have first := parts.first
  obtain ⟨middle, passed, handed⟩ := pass_start fluent here parts.opening
    (by rw [first]; exact parts.opens) (by rw [first]; exact leftmost) (by rw [first]; omega)
  rw [first] at handed
  obtain ⟨later, filled, reaches, fixed, rest, content⟩ :=
    @reaches_through_fields F _ _ fields sizes parts.fields middle [start] [stop] _
      (by rw [handed.format, format]; rfl) (by rw [handed.position, position]; rfl)
      handed.fluent (by omega) (by rw [handed.stream, List.length_drop]; omega)
  have all := handed.trans rest
  rw [Nat.add_assoc] at all
  refine ⟨later, filled, .head ⟨more, passed⟩ reaches,
    ⟨parts.opening, parts.first, parts.opens, fixed, parts.closing, parts.last, parts.closes⟩,
    all, ?_⟩
  have marker : getData start = r0 := by
    rw [← first]
    exact LawfulDataFrame.getData_marker start (by rw [parts.opening]; rfl)
  rw [List.flatMap_cons, content, marker, handed.stream, List.take_add, List.drop_drop,
    occursAt_iff_take.mp leftmost.occurs]

end Framing

namespace SynapSock

variable {F : Type} [DataFrame F] {sock : SynapSock F} {w : Wire}
  {r0 r1 rest text : Bytes} {sizes : List Nat} {skip position : Nat} {result : Scan UInt8}

/-- Between two calls: `rest` is still to be received, with no failing read in it. -/
structure Resuming (r0 r1 : Bytes) (sizes : List Nat) (sock : SynapSock F) (w : Wire)
    (rest : Bytes) : Prop where
  format : FixedFormat r0 r1 sizes sock.frameFormat
  silent : Silent sock.frameFormat
  ready : sock.Readable
  stream : sock.toSocket.stream w = rest
  supplied : Socket.Supplied rest.length sock.toSocket w

theorem suffix_frame_iff {kept tail pattern : Bytes} (width : tail.length = pattern.length) :
    pattern <:+ kept ++ tail ↔ tail = pattern := by
  constructor
  · intro ends
    have inner := List.suffix_of_suffix_length_le ends (List.suffix_append kept tail) width.ge
    exact (inner.eq_of_length width.symm).symm
  · intro same
    rw [same]
    exact List.suffix_append kept pattern

/-- A call has got to the stop marker of the candidate `skip` bytes ahead. -/
structure AtStop (r0 r1 : Bytes) (sizes : List Nat) (sock : SynapSock F) (w : Wire)
    (rest : Bytes) (skip : Nat) (later : Framing F) (start : F) (filled : List F) (stop : F) :
    Prop where
  framed : sock.frameFormat ≠ []
  reaches : (sock.opening w).Reaches later
  parts : FixedParts r0 r1 sizes start filled stop
  inside : skip + (r0.length + sizes.sum + r1.length) ≤ rest.length
  handed : Framing.Handed (sock.opening w) later rest.length (skip + (r0.length + sizes.sum))
    (start :: filled).length (start :: (filled ++ [stop]))
  stream : later.stream = rest.drop (skip + (r0.length + sizes.sum))
  content : (start :: filled).flatMap getData = (rest.drop skip).take (r0.length + sizes.sum)

variable {later : Framing F} {start stop : F} {filled : List F}

theorem AtStop.element (here : AtStop r0 r1 sizes sock w rest skip later start filled stop) :
    later.sock.frameFormat[later.tmp]? = some stop := by
  rw [here.handed.format, here.handed.position]
  simp

theorem AtStop.frame (here : AtStop r0 r1 sizes sock w rest skip later start filled stop) :
    (rest.drop skip).take (r0.length + sizes.sum + r1.length) =
      (start :: filled).flatMap getData ++ later.stream.take r1.length := by
  rw [List.take_add, here.content, here.stream, List.drop_drop]

theorem AtStop.width (here : AtStop r0 r1 sizes sock w rest skip later start filled stop) :
    (later.stream.take r1.length).length = r1.length := by
  have inside := here.inside
  rw [here.stream, List.length_take, List.length_drop]
  omega

/-- The candidate is given up: its first byte is the data, the rest is received again. -/
theorem AtStop.rejects (here : AtStop r0 r1 sizes sock w rest skip later start filled stop)
    (differs : later.stream.take r1.length ≠ r1) :
    ∃ r, sock.receiveFramedData w = some r ∧ r.code = 2 ∧
      r.sock.data = ((rest.drop skip).take (r0.length + sizes.sum + r1.length)).take 1 ∧
      Resuming r0 r1 sizes r.sock r.wire (rest.drop (skip + 1)) := by
  have parts := here.parts
  have inside := here.inside
  have more := (List.getElem?_eq_some_iff.mp here.element).1
  obtain ⟨last, passed, refused⟩ := Framing.pass_refused here.handed.fluent here.element
    parts.closing (by rw [parts.last]; exact parts.closes) (by rw [parts.last]; exact differs)
    (by rw [parts.last]; omega)
  have ended : (sock.opening w).frameLoop = (2, last) := by
    rw [← here.reaches.frameLoop_eq]
    exact Framing.frameLoop_left more passed
  have format : last.sock.frameFormat = start :: (filled ++ [stop]) := by
    rw [refused.format, here.handed.format]
  have position : last.tmp = (start :: filled).length := by
    rw [refused.position, here.handed.position]
  have element : last.sock.frameFormat[last.tmp]? = some stop := by
    rw [refused.format, refused.position]
    exact here.element
  have kept : dataFail last.sock.frameFormat last.tmp = (start :: filled).flatMap getData := by
    rw [dataFail, format, position, ← List.cons_append, List.take_left]
  have opens := List.length_pos_iff.mpr parts.opens
  have wide : (dataFail last.sock.frameFormat last.tmp).length = r0.length + sizes.sum := by
    rw [kept, here.content, List.length_take, List.length_drop]
    omega
  obtain ⟨first, others, split⟩ : ∃ first others,
      dataFail last.sock.frameFormat last.tmp = first :: others :=
    List.exists_cons_of_length_pos (by omega)
  have whole : rest.drop skip = first :: (others ++ later.stream) := by
    rw [← List.cons_append, ← split, kept, here.content, here.stream, ← List.drop_drop,
      List.take_append_drop]
  have behind : rest.drop (skip + 1) = others ++ later.stream := by
    rw [← List.drop_drop, whole]
    rfl
  refine ⟨⟨2, { last.sock with
      data := [first]
      remainingData := others ++ (last.sock.data ++ last.sock.remainingData) }, last.wire⟩, ?_,
    rfl, ?_, ⟨start, filled, stop, format, parts⟩, ?_,
    ⟨refused.ready.opened, refused.ready.connected⟩, ?_, ?_⟩
  · rw [receiveFramedData, if_neg here.framed]
    simp only [ended, conclude, element, split]
    rw [if_neg (by decide), if_pos ⟨by decide, by rw [position]; simp, parts.closing⟩]
  · rw [List.take_take, min_eq_left (by omega), whole]
    rfl
  · show Silent last.sock.frameFormat
    rw [refused.format]
    exact here.handed.fluent.silent
  · show others ++ (last.sock.data ++ last.sock.remainingData) ++ last.wire.unread = _
    rw [behind, refused.remaining, List.append_nil, List.append_assoc, refused.stream]
  · have supplied := refused.supplied
    have counts := congrArg List.length split
    unfold Socket.Supplied
    rw [refused.remaining, List.append_nil, List.length_append, List.length_drop]
    rw [wide, List.length_cons] at counts
    dsimp only
    omega

variable [LawfulDataFrame F]

theorem Resuming.at_stop (resuming : Resuming r0 r1 sizes sock w rest)
    (leftmost : LeftmostAt r0 rest skip)
    (inside : skip + (r0.length + sizes.sum + r1.length) ≤ rest.length) :
    ∃ later start filled stop, AtStop r0 r1 sizes sock w rest skip later start filled stop := by
  obtain ⟨start, fields, stop, format, parts⟩ := resuming.format
  have formatThere : (sock.opening w).sock.frameFormat = start :: (fields ++ [stop]) := format
  have stream : (sock.opening w).stream = rest := resuming.stream
  have fluent : (sock.opening w).Fluent rest.length :=
    ⟨⟨resuming.ready.opened, resuming.ready.connected⟩, resuming.silent, rfl, resuming.supplied⟩
  have leftmostThere : LeftmostAt r0 (sock.opening w).stream skip := by
    rw [stream]
    exact leftmost
  obtain ⟨later, filled, reaches, parts, handed, content⟩ :=
    Framing.reaches_stop parts formatThere rfl fluent leftmostThere (by omega)
      (by rw [stream]; omega)
  rw [stream] at content
  refine ⟨later, start, filled, stop, ?_, reaches, parts, inside, handed, ?_, content⟩
  · rw [format]
    exact List.cons_ne_nil _ _
  · rw [handed.stream, stream]

theorem AtStop.accepts (here : AtStop r0 r1 sizes sock w rest skip later start filled stop)
    (ends : later.stream.take r1.length = r1) :
    ∃ r, sock.receiveFramedData w = some r ∧ r.code = 0 ∧
      r.sock.data = (rest.drop skip).take (r0.length + sizes.sum + r1.length) ∧
      Resuming r0 r1 sizes r.sock r.wire
        (rest.drop (skip + (r0.length + sizes.sum + r1.length))) := by
  have parts := here.parts
  have inside := here.inside
  have more := (List.getElem?_eq_some_iff.mp here.element).1
  obtain ⟨last, passed, done⟩ := Framing.pass_stop here.handed.fluent here.element parts.closing
    (by rw [parts.last]; exact parts.closes) (by rw [parts.last]; exact ends)
    (by rw [parts.last]; omega)
  rw [parts.last] at done
  have format : last.sock.frameFormat = start :: (filled ++ [stop]) := by
    rw [done.format, here.handed.format]
  have stream : last.stream = rest.drop (skip + (r0.length + sizes.sum + r1.length)) := by
    rw [done.stream, here.stream, List.drop_drop, Nat.add_assoc skip]
  have ended : (sock.opening w).frameLoop = (0, last) := by
    rw [← here.reaches.frameLoop_eq, ← (Framing.Reaches.frameLoop_eq (.single ⟨more, passed⟩)),
      Framing.frameLoop, dif_neg]
    rw [format, done.position, here.handed.position]
    simp
  have marker : getData stop = r1 := by
    rw [← parts.last]
    exact LawfulDataFrame.getData_marker stop (by rw [parts.closing]; rfl)
  refine ⟨⟨0, { last.sock with data := getAllData last.sock.frameFormat }, last.wire⟩, ?_, rfl,
    ?_, ⟨start, filled, stop, format, parts⟩, done.fluent.silent,
    ⟨done.fluent.ready.opened, done.fluent.ready.connected⟩, stream, ?_⟩
  · rw [receiveFramedData, if_neg here.framed]
    simp only [ended, conclude, if_true]
  · show getAllData last.sock.frameFormat = _
    rw [LawfulDataFrame.getAllData_eq, format, here.frame, ends]
    simp [marker]
  · have supplied := done.fluent.supplied
    rw [Nat.sub_sub, Nat.add_assoc skip] at supplied
    rw [List.length_drop]
    exact supplied

/-- One call gives what the scanner gives. -/
theorem receiveFramedData_scan
    (resuming : Resuming r0 r1 sizes sock w (text.drop position))
    (scanned : scan r0 r1 (r0.length + sizes.sum + r1.length) text position = some result) :
    ∃ r, sock.receiveFramedData w = some r ∧ r.code = result.code ∧ r.sock.data = result.data ∧
      Resuming r0 r1 sizes r.sock r.wire (text.drop result.next) := by
  obtain ⟨skip, there⟩ := scan_scanned scanned
  obtain ⟨later, start, filled, stop, here⟩ := resuming.at_stop there.leftmost there.inside
  by_cases ends : r1 <:+ ((text.drop position).drop skip).take (r0.length + sizes.sum + r1.length)
  · rw [there.accepted ends]
    have matched := ends
    rw [here.frame, suffix_frame_iff here.width] at matched
    obtain ⟨r, received, code, data, next⟩ := here.accepts matched
    rw [List.drop_drop] at next
    exact ⟨r, received, code, data, next⟩
  · rw [there.rejected ends]
    have differs := ends
    rw [here.frame, suffix_frame_iff here.width] at differs
    obtain ⟨r, received, code, data, next⟩ := here.rejects differs
    rw [List.drop_drop] at next
    exact ⟨r, received, code, data, next⟩

def receiveFrames (sock : SynapSock F) (w : Wire) : Nat → Option (List (FramedReception F))
  | 0 => some []
  | calls + 1 =>
      (sock.receiveFramedData w).bind fun first =>
        (first.sock.receiveFrames first.wire calls).map (first :: ·)

/-- A call that returned what the scanner gave, and left the rest of the text. -/
structure Agrees (text : Bytes) (result : Scan UInt8) (r : FramedReception F) : Prop where
  code : r.code = result.code
  data : r.sock.data = result.data
  left : r.sock.remainingData ++ r.wire.unread = text.drop result.next

theorem Resuming.receiveFrames {calls : Nat} {results : List (Scan UInt8)}
    (resuming : Resuming r0 r1 sizes sock w (text.drop position))
    (scanned : scans r0 r1 (r0.length + sizes.sum + r1.length) text calls position =
      some results) :
    ∃ receptions, sock.receiveFrames w calls = some receptions ∧
      List.Forall₂ (Agrees text) results receptions := by
  induction calls generalizing sock w position results with
  | zero =>
      cases scanned
      exact ⟨[], rfl, .nil⟩
  | succ calls ih =>
      obtain ⟨first, scannedFirst, more⟩ := Option.bind_eq_some_iff.mp scanned
      obtain ⟨others, scannedOthers, rfl⟩ := Option.map_eq_some_iff.mp more
      obtain ⟨r, received, code, data, next⟩ := receiveFramedData_scan resuming scannedFirst
      obtain ⟨receptions, receivedOthers, agree⟩ := ih next scannedOthers
      refine ⟨r :: receptions, ?_, .cons ⟨code, data, next.stream⟩ agree⟩
      simp only [SynapSock.receiveFrames, received, Option.bind_some, receivedOthers,
        Option.map_some]

/-- The calls return what the scanner returns, and after each of them the bytes
still to be received are those from the position of the scanner on. -/
theorem receiveFrames_refines_scans (format : FixedFormat r0 r1 sizes sock.frameFormat)
    (silent : Silent sock.frameFormat) (ready : sock.Readable) (chunks : .failed ∉ w.reads)
    {calls : Nat} {results : List (Scan UInt8)}
    (scanned : scans r0 r1 (r0.length + sizes.sum + r1.length) (sock.toSocket.stream w) calls 0 =
      some results) :
    ∃ receptions, sock.receiveFrames w calls = some receptions ∧
      List.Forall₂ (Agrees (sock.toSocket.stream w)) results receptions := by
  have supplied : Socket.Supplied (sock.toSocket.stream w).length sock.toSocket w := by
    unfold Socket.Supplied Socket.stream Wire.unread
    rw [promptBytes_of_chunks chunks, List.length_append]
  have resuming : Resuming r0 r1 sizes sock w ((sock.toSocket.stream w).drop 0) :=
    ⟨format, silent, ready, rfl, supplied⟩
  exact resuming.receiveFrames scanned

theorem sampleFormat_fixed : FixedFormat [2] [3] [2] sampleFormat :=
  ⟨_, [.field 2 []], _, rfl, ⟨rfl, rfl, by decide, .cons ⟨rfl, rfl, by decide⟩ .nil, rfl, rfl,
    by decide⟩⟩

/-- A false start and the frame that begins inside it. -/
def nestedWire : Wire where
  polls := []
  reads := [.chunk (.of 9 [2, 2]), .chunk (.of 7 [8, 3, 5])]
  stray := 0

theorem receiveFrames_refines_scans_nested :
    ∃ receptions, (sample sampleFormat []).receiveFrames nestedWire 2 = some receptions ∧
      List.Forall₂ (Agrees [9, 2, 2, 7, 8, 3, 5])
        [⟨2, [2], 2⟩, ⟨0, [2, 7, 8, 3], 6⟩] receptions :=
  receiveFrames_refines_scans sampleFormat_fixed (silent_of_no_functions (by decide))
    (sample_readable _ _) (by decide) (by decide +kernel)

end SynapSock

end SynapTCP
