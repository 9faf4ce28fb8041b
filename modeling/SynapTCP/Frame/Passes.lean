import SynapTCP.Frame.Events
import SynapTCP.Frame.Format
import SynapTCP.Socket.Conservation

namespace SynapTCP

open Data DataFrame

/-! # One pass through the loop

The ways in which one element is received, each with the bytes it divides, and
from them what a pass that goes on to the next element has done.
-/

namespace Framing

variable {F : Type} [DataFrame F]

/-- The receive buffers and the wire replaced, all else kept. -/
def buffers (framing : Framing F) (data remainingData : Bytes) (wire : Wire) : Framing F :=
  { framing with sock.data := data, sock.remainingData := remainingData, wire := wire }

/-- The element at `i` is one that the loop knows how to receive. -/
def Receivable (format : List F) (i : Nat) : Prop :=
  ∃ f, format[i]? = some f ∧
    ((getType f).isMarker = true ∧ getReference f ≠ [] ∨
      (getType f).isField = true ∧ (0 < getSize f ∨ ∃ next, format[i + 1]? = some next ∧
        getType next = .stopBytes ∧ getReference next ≠ []))

/-- Where the loop body goes with the element `tmp`, and the events of that way. -/
inductive Dispatch (entry : Framing F) (tmp : F) : Nat × Framing F → List FrameEvent → Prop where
  | start (type : getType tmp = .startBytes) (nonempty : getReference tmp ≠ []) :
      Dispatch entry tmp
        (entry.receiveMarker (entry.sock.receiveStartBytes entry.wire (getReference tmp)))
        (entry.served (entry.sock.receiveStartBytes entry.wire (getReference tmp)))
  | stop (type : getType tmp = .stopBytes) (nonempty : getReference tmp ≠ []) :
      Dispatch entry tmp
        (entry.receiveMarker (entry.sock.receiveStopBytes entry.wire (getReference tmp)))
        (entry.served (entry.sock.receiveStopBytes entry.wire (getReference tmp)))
  | fixed (field : (getType tmp).isField = true) (sized : 0 < getSize tmp) :
      Dispatch entry tmp (entry.receiveFixed (getSize tmp))
        (entry.served (entry.sock.receiveNBytes entry.wire (getSize tmp)))
  | untill {next : F} (field : (getType tmp).isField = true) (free : getSize tmp = 0)
      (behind : entry.sock.frameFormat[entry.tmp + 1]? = some next)
      (marker : getType next = .stopBytes) (nonempty : getReference next ≠ []) :
      Dispatch entry tmp (entry.receiveUntill next) (entry.untillEvents next)
  | invalid (odd : ¬ Receivable entry.sock.frameFormat entry.tmp) :
      Dispatch entry tmp (4, entry) []

/-- How the element `tmp` is received from `text`, the bytes left over at entry
and those read. -/
inductive Received (entry : Framing F) (tmp : F) (text : Bytes) (wire : Wire) :
    Nat × Framing F → Prop where
  | start {index : Nat} (type : getType tmp = .startBytes) (nonempty : getReference tmp ≠ [])
      (leftmost : LeftmostAt (getReference tmp) text index) :
      Received entry tmp text wire
        (0, entry.buffers (getReference tmp) (text.drop (index + (getReference tmp).length)) wire)
  | startMissed (type : getType tmp = .startBytes) (nonempty : getReference tmp ≠ []) :
      Received entry tmp text wire (2, entry.buffers text [] wire)
  | stop (type : getType tmp = .stopBytes) (nonempty : getReference tmp ≠ [])
      (front : text.take (getReference tmp).length = getReference tmp) :
      Received entry tmp text wire
        (0, entry.buffers (getReference tmp) (text.drop (getReference tmp).length) wire)
  | stopMissed (type : getType tmp = .stopBytes) (nonempty : getReference tmp ≠ []) :
      Received entry tmp text wire (2, entry.buffers text [] wire)
  | fixed (field : (getType tmp).isField = true) (sized : 0 < getSize tmp)
      (served : (entry.sock.receiveNBytes entry.wire (getSize tmp)).code = 0)
      (enough : getSize tmp ≤ text.length) :
      Received entry tmp text wire
        (0, (entry.buffers (text.take (getSize tmp)) (text.drop (getSize tmp)) wire).store
          (text.take (getSize tmp)))
  | starved (field : (getType tmp).isField = true) (sized : 0 < getSize tmp)
      (unserved : (entry.sock.receiveNBytes entry.wire (getSize tmp)).code ≠ 0)
      (came : (entry.sock.receiveNBytes entry.wire (getSize tmp)).socket.data = text)
      (short : text.length < getSize tmp) :
      Received entry tmp text wire (0, entry.buffers text [] wire)
  | untill {next : F} {index : Nat} (field : (getType tmp).isField = true) (free : getSize tmp = 0)
      (behind : entry.sock.frameFormat[entry.tmp + 1]? = some next)
      (marker : getType next = .stopBytes) (nonempty : getReference next ≠ [])
      (found : (entry.sock.searchLoop (getReference next) entry.wire [] 0 0 false).found = true)
      (served : (entry.sock.receiveUntillStopBytes entry.wire (getReference next)).code = 0)
      (came : (entry.sock.receiveUntillStopBytes entry.wire (getReference next)).socket.data =
        text.take (index + (getReference next).length))
      (leftmost : LeftmostAt (getReference next) text index) :
      Received entry tmp text wire
        (0, ((entry.buffers (text.take (index + (getReference next).length))
          (text.drop (index + (getReference next).length)) wire).store (text.take index)).toMarker)
  | untillMissed {next : F} (field : (getType tmp).isField = true) (free : getSize tmp = 0)
      (behind : entry.sock.frameFormat[entry.tmp + 1]? = some next)
      (marker : getType next = .stopBytes) (short : text.length < (getReference next).length) :
      Received entry tmp text wire (2, entry.buffers text [] wire)
  | overrun {next : F} {stray : UInt8} (field : (getType tmp).isField = true)
      (free : getSize tmp = 0)
      (behind : entry.sock.frameFormat[entry.tmp + 1]? = some next)
      (marker : getType next = .stopBytes) (nonempty : getReference next ≠ [])
      (missed : (entry.sock.searchLoop (getReference next) entry.wire [] 0 0 false).found = false)
      (served : (entry.sock.receiveUntillStopBytes entry.wire (getReference next)).code = 0)
      (came : (entry.sock.receiveUntillStopBytes entry.wire (getReference next)).socket.data =
        text ++ [stray])
      (past : (getReference next).length ≤ text.length) :
      Received entry tmp text wire
        (0, ((entry.buffers (text ++ [stray]) [] wire).store
          ((text ++ [stray]).take (text.length + 1 - (getReference next).length))).toMarker)
  | invalid (wire_eq : wire = entry.wire) (untouched : text = entry.sock.remainingData)
      (odd : ¬ Receivable entry.sock.frameFormat entry.tmp) :
      Received entry tmp text wire (4, entry)

variable {entry : Framing F}

theorem receiveStart_received (ready : entry.sock.Readable) {tmp : F}
    (type : getType tmp = .startBytes) (nonempty : getReference tmp ≠ []) :
    ∃ bytes wire, entry.wire.Reads bytes wire ∧
      Received entry tmp (entry.sock.remainingData ++ bytes) wire
        (entry.receiveMarker (entry.sock.receiveStartBytes entry.wire (getReference tmp))) := by
  obtain ⟨bytes, reads, ends⟩ :=
    Socket.receiveStartBytes_cases ready entry.wire (getReference tmp)
  refine ⟨bytes, _, reads, ?_⟩
  rcases ends with ⟨-, index, -, -, leftmost, code, socket⟩ | ⟨-, -, code, socket⟩
  · rw [receiveMarker, receive, code, socket]
    exact .start type nonempty (leftmost nonempty)
  · rw [receiveMarker, receive, code, socket]
    exact .startMissed type nonempty

theorem receiveStop_received (ready : entry.sock.Readable) {tmp : F}
    (type : getType tmp = .stopBytes) (nonempty : getReference tmp ≠ []) :
    ∃ bytes wire, entry.wire.Reads bytes wire ∧
      Received entry tmp (entry.sock.remainingData ++ bytes) wire
        (entry.receiveMarker (entry.sock.receiveStopBytes entry.wire (getReference tmp))) := by
  obtain ⟨bytes, reads, ends⟩ :=
    Socket.receiveStopBytes_cases ready entry.wire (getReference tmp)
  refine ⟨bytes, _, reads, ?_⟩
  rcases ends with ⟨-, front, code, socket⟩ | ⟨socket, ⟨code, -⟩ | ⟨code, -⟩⟩
  · rw [receiveMarker, receive, code, socket]
    exact .stop type nonempty front
  · rw [receiveMarker, receive, code, socket]
    exact .stopMissed type nonempty
  · rw [receiveMarker, receive, code, socket]
    exact .stopMissed type nonempty

theorem receiveFixed_received (ready : entry.sock.Readable) {tmp : F}
    (field : (getType tmp).isField = true) (sized : 0 < getSize tmp) :
    ∃ bytes wire, entry.wire.Reads bytes wire ∧
      Received entry tmp (entry.sock.remainingData ++ bytes) wire
        (entry.receiveFixed (getSize tmp)) := by
  obtain ⟨bytes, reads, ends⟩ := Socket.receiveNBytes_cases ready entry.wire (getSize tmp)
  refine ⟨bytes, _, reads, ?_⟩
  rcases ends with ⟨enough, code, socket⟩ | ⟨short, code, socket⟩
  · have some : 0 < ((entry.sock.remainingData ++ bytes).take (getSize tmp)).length := by
      rw [List.length_take]
      omega
    simp only [receiveFixed, receive, code, socket, if_pos some, ↓reduceIte]
    exact .fixed field sized code enough
  · rw [receiveFixed, if_neg (by rw [code]; decide), receive, socket]
    exact .starved field sized (by omega) (by rw [socket]) short

theorem receiveUntill_received [LawfulDataFrame F] (ready : entry.sock.Readable) {tmp next : F}
    (field : (getType tmp).isField = true) (free : getSize tmp = 0)
    (behind : entry.sock.frameFormat[entry.tmp + 1]? = some next)
    (marker : getType next = .stopBytes) (nonempty : getReference next ≠ []) :
    ∃ bytes wire, entry.wire.Reads bytes wire ∧
      Received entry tmp (entry.sock.remainingData ++ bytes) wire (entry.receiveUntill next) := by
  have size : getSize next = (getReference next).length :=
    LawfulDataFrame.getSize_marker next (by rw [marker]; rfl)
  have positive := List.length_pos_iff.mpr nonempty
  obtain ⟨bytes, reads, ends⟩ :=
    Socket.receiveUntillStopBytes_cases ready entry.wire nonempty
  refine ⟨bytes, _, reads, ?_⟩
  rcases ends with ⟨found, index, leftmost, code, socket⟩ | ⟨-, -, short, code, socket⟩ |
    ⟨missed, -, past, code, stray, socket⟩
  · have fits := leftmost.occurs.fits nonempty
    have width : ((entry.sock.remainingData ++ bytes).take
        (index + (getReference next).length)).length = index + (getReference next).length := by
      rw [List.length_take]
      omega
    rw [receiveUntill, if_pos code, receive, socket, if_pos (by simp only [width]; omega)]
    simp only [width, size, Nat.add_sub_cancel, List.take_take,
      Nat.min_eq_left (Nat.le_add_right _ _)]
    exact .untill field free behind marker nonempty found code (by rw [socket]) leftmost
  · rw [receiveUntill, if_neg (by rw [code]; decide), receive, socket]
    exact .untillMissed field free behind marker short
  · have width : (entry.sock.remainingData ++ bytes ++ [stray]).length =
        (entry.sock.remainingData ++ bytes).length + 1 := List.length_append
    rw [receiveUntill, if_pos code, receive, socket, if_pos (by simp only [width]; omega)]
    simp only [width, size]
    exact .overrun field free behind marker nonempty missed code (by rw [socket]) past

/-- An element is receivable if it can be received as a marker, as a fixed field
or as a variable one. -/
theorem not_receivable {tmp : F} (here : entry.sock.frameFormat[entry.tmp]? = some tmp)
    (notMarker : ¬ ((getType tmp).isMarker = true ∧ getReference tmp ≠ []))
    (notSized : (getType tmp).isField = true → ¬ 0 < getSize tmp)
    (notFree : (getType tmp).isField = true → ∀ next,
      entry.sock.frameFormat[entry.tmp + 1]? = some next →
      ¬ (getType next = .stopBytes ∧ getReference next ≠ [])) :
    ¬ Receivable entry.sock.frameFormat entry.tmp := by
  intro receivable
  obtain ⟨g, there, ways⟩ := receivable
  rw [here] at there
  cases there
  rcases ways with marker | ⟨field, sized | ⟨next, behind, stop⟩⟩
  · exact notMarker marker
  · exact notSized field sized
  · exact notFree field next behind stop

theorem receiveElement_dispatch {tmp : F} (here : entry.sock.frameFormat[entry.tmp]? = some tmp) :
    Dispatch entry tmp (entry.receiveElement tmp) (entry.elementEvents tmp) := by
  unfold receiveElement elementEvents
  split
  · rename_i start
    exact .start start.1 (List.length_pos_iff.mp start.2)
  · rename_i notStart
    split
    · rename_i stop
      exact .stop stop.1 (List.length_pos_iff.mp stop.2)
    · rename_i notStop
      have notMarker : ¬ ((getType tmp).isMarker = true ∧ getReference tmp ≠ []) := by
        intro marker
        have positive := List.length_pos_iff.mpr marker.2
        cases type : getType tmp <;> simp_all [FrameType.isMarker]
      split
      · rename_i field
        split
        · rename_i sized
          exact .fixed field sized
        · rename_i free
          cases behind : entry.sock.frameFormat[entry.tmp + 1]? with
          | none =>
              exact .invalid (not_receivable here notMarker (fun _ => free) (by simp [behind]))
          | some next =>
              dsimp only
              split
              · rename_i stop
                exact .untill field (by omega) behind stop.1 (List.length_pos_iff.mp stop.2)
              · rename_i notStop
                refine .invalid (not_receivable here notMarker (fun _ => free) ?_)
                intro _ g there stop
                rw [behind] at there
                cases there
                exact notStop ⟨stop.1, List.length_pos_iff.mpr stop.2⟩
      · rename_i notField
        exact .invalid (not_receivable here notMarker (fun field => absurd field notField)
          fun field => absurd field notField)

/-- Every way through the receiving part of the loop body is one of those. -/
theorem receiveElement_received [LawfulDataFrame F] (ready : entry.sock.Readable) {tmp : F}
    (here : entry.sock.frameFormat[entry.tmp]? = some tmp) :
    ∃ bytes wire, entry.wire.Reads bytes wire ∧
      Received entry tmp (entry.sock.remainingData ++ bytes) wire (entry.receiveElement tmp) := by
  have dispatch := receiveElement_dispatch here
  generalize entry.receiveElement tmp = result at dispatch ⊢
  generalize entry.elementEvents tmp = events at dispatch
  cases dispatch with
  | start type nonempty => exact receiveStart_received ready type nonempty
  | stop type nonempty => exact receiveStop_received ready type nonempty
  | fixed field sized => exact receiveFixed_received ready field sized
  | untill field free behind marker nonempty =>
      exact receiveUntill_received ready field free behind marker nonempty
  | invalid odd =>
      exact ⟨[], entry.wire, Wire.Reads.refl _, .invalid rfl (List.append_nil _) odd⟩

/-! ## What a pass has done when the functions have run -/

/-- The state in which the element at `tmp` is received. -/
def entered (framing : Framing F) : Framing F := framing.execute getExecuteFunction

/-- At a field of fixed size. -/
structure AtFixed (framing : Framing F) (f : F) : Prop where
  here : framing.entered.sock.frameFormat[framing.tmp]? = some f
  field : (getType f).isField = true
  sized : 0 < getSize f

/-- At a field of variable size in front of the stop marker `next`. -/
structure AtFree (framing : Framing F) (f next : F) : Prop where
  here : framing.entered.sock.frameFormat[framing.tmp]? = some f
  field : (getType f).isField = true
  free : getSize f = 0
  behind : framing.entered.sock.frameFormat[framing.tmp + 1]? = some next
  marker : getType next = .stopBytes
  nonempty : getReference next ≠ []

/-- What `receiveNBytes` gives for the fixed field `f`. -/
def fixedReception (framing : Framing F) (f : F) : Reception :=
  framing.entered.sock.receiveNBytes framing.entered.wire (getSize f)

/-- What `receiveUntillStopBytes` gives for a variable field before `next`. -/
def freeReception (framing : Framing F) (next : F) : Reception :=
  framing.entered.sock.receiveUntillStopBytes framing.entered.wire (getReference next)

/-- The reads fail before the fixed field at `tmp` is complete. -/
def Starved (framing : Framing F) : Prop :=
  ∃ f, framing.AtFixed f ∧ (framing.fixedReception f).code ≠ 0

/-- And what did come is not what the field holds already. -/
def Loses (framing : Framing F) : Prop :=
  ∃ f, framing.AtFixed f ∧ (framing.fixedReception f).code ≠ 0 ∧
    (framing.fixedReception f).socket.data ≠ getData f

/-- The reads fail before the stop marker of the variable field at `tmp` comes,
and `receiveUntillStopBytes` reports success all the same. -/
def Overrun (framing : Framing F) : Prop :=
  ∃ f next, framing.AtFree f next ∧ (framing.freeReception next).code = 0 ∧
    (framing.entered.sock.searchLoop (getReference next) framing.entered.wire
      [] 0 0 false).found = false

/-- A variable field at `tmp` is received with some content. -/
def Doubles (framing : Framing F) : Prop :=
  ∃ f next, framing.AtFree f next ∧ (framing.freeReception next).code = 0 ∧
    (getReference next).length < (framing.freeReception next).socket.data.length

instance (framing : Framing F) : Decidable framing.Starved :=
  decidable_of_iff (∃ f ∈ framing.entered.sock.frameFormat[framing.tmp]?,
    ((getType f).isField = true ∧ 0 < getSize f) ∧ (framing.fixedReception f).code ≠ 0)
    ⟨fun starved => starved.imp fun _ given => ⟨⟨given.1, given.2.1.1, given.2.1.2⟩, given.2.2⟩,
      fun starved => starved.imp fun _ given =>
        ⟨given.1.here, ⟨given.1.field, given.1.sized⟩, given.2⟩⟩

/-- There is no field of variable size. -/
def Fixed (framing : Framing F) : Prop :=
  ∀ f ∈ framing.entered.sock.frameFormat, (getType f).isField = true → 0 < getSize f

instance (framing : Framing F) : Decidable framing.Fixed :=
  inferInstanceAs (Decidable (∀ f ∈ _, _))

theorem Fixed.not_free {framing : Framing F} {f next : F} (fixed : framing.Fixed) :
    ¬ framing.AtFree f next := by
  intro free
  have sized := fixed f (List.mem_of_getElem? free.here) free.field
  rw [free.free] at sized
  contradiction

/-- The part of a pass that does not depend on how the element was received.
`added` is what the elements passed hold in the end, `doubled` what those before
`tmp` hold of it. -/
structure Moved (framing done : Framing F) (bytes added doubled : Bytes) : Prop where
  reads : framing.wire.Reads bytes done.wire
  ready : done.sock.Readable
  rewrites : Rewrites framing.tmp framing.sock.frameFormat done.sock.frameFormat
  forward : framing.tmp ≤ done.tmp
  within : done.tmp < done.sock.frameFormat.length
  stored : SynapSock.dataFail done.sock.frameFormat (done.tmp + 1) =
    SynapSock.dataFail framing.sock.frameFormat framing.tmp ++ added
  held : SynapSock.dataFail done.sock.frameFormat done.tmp =
    SynapSock.dataFail framing.sock.frameFormat framing.tmp ++ doubled

/-- The element at `tmp` is received and its post-execute function has run;
`skipped` are the bytes in front of a start marker. -/
structure Done (framing done : Framing F) (bytes skipped added doubled : Bytes) : Prop
    extends Moved framing done bytes added doubled where
  skipping : skipped ≠ [] → ∃ f, framing.sock.frameFormat[framing.tmp]? = some f ∧
    getType f = .startBytes ∧ getReference f ≠ [] ∧
    LeftmostAt (getReference f) (framing.sock.remainingData ++ bytes) skipped.length
  exactly : ¬ framing.Loses → ¬ framing.Overrun →
    framing.sock.remainingData ++ bytes = skipped ++ added ++ done.sock.remainingData
  handed : ¬ framing.Overrun →
    framing.sock.remainingData ++ bytes = skipped ++ done.sock.data ++ done.sock.remainingData
  overran : framing.Overrun → (framing.sock.remainingData ++ bytes).length <
    done.sock.data.length + done.sock.remainingData.length
  doubling : doubled ≠ [] ↔ framing.Doubles
  fits : ¬ framing.Starved →
    ∀ i, framing.tmp ≤ i → i ≤ done.tmp → Fits done.sock.frameFormat i
  lag : (∀ i, framing.tmp ≤ i → i ≤ done.tmp → Fits done.sock.frameFormat i) →
    (framing.sock.remainingData ++ bytes).length ≤
        skipped.length + added.length + done.sock.remainingData.length ∧
      (framing.Starved ∨ framing.Overrun → (framing.sock.remainingData ++ bytes).length <
        skipped.length + added.length + done.sock.remainingData.length)

variable {framing middle : Framing F} {f g next : F} {bytes : Bytes}

@[simp] theorem toMarker_toSocket : framing.toMarker.sock.toSocket = framing.sock.toSocket := by
  simp [toMarker]

@[simp] theorem toMarker_wire : framing.toMarker.wire = framing.wire := by
  simp [toMarker]

@[simp] theorem toMarker_tmp : framing.toMarker.tmp = framing.tmp + 1 := by
  simp [toMarker]

theorem toMarker_rewrites (considerate : Considerate framing.sock.frameFormat) :
    Rewrites (framing.tmp + 1) framing.sock.frameFormat framing.toMarker.sock.frameFormat := by
  have behind := postExecute_rewrites considerate
  have before : Rewrites ((framing.execute getPostExecuteFunction).tmp + 1)
      (framing.execute getPostExecuteFunction).sock.frameFormat
      framing.toMarker.sock.frameFormat :=
    @execute_rewrites F _ { framing.execute getPostExecuteFunction with
      tmp := (framing.execute getPostExecuteFunction).tmp + 1 } (considerate.rewrites behind)
  rw [execute_tmp] at before
  exact behind.trans before

/-- Behind an element received in its place nothing before it has changed, nor has it. -/
theorem element_in_place (considerate : Considerate framing.sock.frameFormat)
    (rewrites : Rewrites framing.tmp framing.sock.frameFormat middle.sock.frameFormat)
    (position : middle.tmp = framing.tmp) (here : middle.sock.frameFormat[framing.tmp]? = some g) :
    Rewrites framing.tmp framing.sock.frameFormat
        (middle.execute getPostExecuteFunction).sock.frameFormat ∧
      (middle.execute getPostExecuteFunction).sock.frameFormat[framing.tmp]? = some g := by
  have behind := postExecute_rewrites (considerate.rewrites rewrites)
  rw [position] at behind
  obtain ⟨last, there, -, kept⟩ := behind.element_after here
  refine ⟨rewrites.trans (behind.weaken (Nat.le_succ _)), ?_⟩
  rw [there, kept (Nat.lt_succ_self _)]

theorem elements_across [LawfulDataFrame F] (considerate : Considerate framing.sock.frameFormat)
    (rewrites : Rewrites framing.tmp framing.sock.frameFormat middle.sock.frameFormat)
    (position : middle.tmp = framing.tmp) (here : middle.sock.frameFormat[framing.tmp]? = some g)
    (behind : middle.sock.frameFormat[framing.tmp + 1]? = some next)
    (marker : getType next = .stopBytes) :
    Rewrites framing.tmp framing.sock.frameFormat
        (middle.toMarker.execute getPostExecuteFunction).sock.frameFormat ∧
      (middle.toMarker.execute getPostExecuteFunction).sock.frameFormat[framing.tmp]? = some g ∧
      ∃ last, (middle.toMarker.execute getPostExecuteFunction).sock.frameFormat[
        framing.tmp + 1]? = some last ∧ getType last = .stopBytes ∧
        getData last = getReference next := by
  have considerateMiddle := considerate.rewrites rewrites
  have across := toMarker_rewrites considerateMiddle
  have after := postExecute_rewrites (considerateMiddle.rewrites across)
  rw [toMarker_tmp, position] at after
  rw [position] at across
  have total := across.trans (after.weaken (Nat.le_succ _))
  obtain ⟨field, there, -, kept⟩ := total.element_after here
  obtain ⟨last, closing, same, -⟩ := total.element_after behind
  have type : getType last = .stopBytes := by rw [same.type, marker]
  refine ⟨rewrites.trans (total.weaken (Nat.le_succ _)), ?_, last, closing, type, ?_⟩
  · rw [there, kept (Nat.lt_succ_self _)]
  · rw [LawfulDataFrame.getData_marker last (by rw [type]; rfl), same.reference]

theorem moved_in_place (considerate : Considerate framing.sock.frameFormat)
    (position : middle.tmp = framing.tmp) (ready : middle.sock.Readable)
    (reads : framing.wire.Reads bytes middle.wire)
    (rewrites : Rewrites framing.tmp framing.sock.frameFormat middle.sock.frameFormat)
    (here : middle.sock.frameFormat[framing.tmp]? = some g) :
    Moved framing (middle.execute getPostExecuteFunction) bytes (getData g) [] ∧
      (middle.execute getPostExecuteFunction).sock.frameFormat[framing.tmp]? = some g := by
  obtain ⟨total, there⟩ := element_in_place considerate rewrites position here
  have held := SynapSock.dataFail_rewrites total (Nat.le_refl _)
  refine ⟨?_, there⟩
  exact {
    reads := by simpa using reads
    ready := by simpa using ready
    rewrites := total
    forward := by simp [position]
    within := by
      rw [execute_tmp, position]
      exact (List.getElem?_eq_some_iff.mp there).1
    stored := by
      rw [execute_tmp, position, SynapSock.dataFail_succ there, held]
    held := by
      rw [execute_tmp, position, held, List.append_nil] }

theorem moved_across [LawfulDataFrame F] (considerate : Considerate framing.sock.frameFormat)
    (position : middle.tmp = framing.tmp) (ready : middle.sock.Readable)
    (reads : framing.wire.Reads bytes middle.wire)
    (rewrites : Rewrites framing.tmp framing.sock.frameFormat middle.sock.frameFormat)
    (here : middle.sock.frameFormat[framing.tmp]? = some g)
    (behind : middle.sock.frameFormat[framing.tmp + 1]? = some next)
    (marker : getType next = .stopBytes) :
    Moved framing (middle.toMarker.execute getPostExecuteFunction) bytes
        (getData g ++ getReference next) (getData g) ∧
      (middle.toMarker.execute getPostExecuteFunction).sock.frameFormat[framing.tmp]? = some g ∧
      ∃ last, (middle.toMarker.execute getPostExecuteFunction).sock.frameFormat[
        framing.tmp + 1]? = some last ∧ getType last = .stopBytes := by
  obtain ⟨total, there, last, closing, type, content⟩ :=
    elements_across considerate rewrites position here behind marker
  have before := SynapSock.dataFail_rewrites total (Nat.le_refl _)
  have held := SynapSock.dataFail_succ there
  refine ⟨?_, there, last, closing, type⟩
  exact {
    reads := by simpa using reads
    ready := by simpa using ready
    rewrites := total
    forward := by simp [position]
    within := by
      rw [execute_tmp, toMarker_tmp, position]
      exact (List.getElem?_eq_some_iff.mp closing).1
    stored := by
      rw [execute_tmp, toMarker_tmp, position, SynapSock.dataFail_succ closing, held, before,
        content, List.append_assoc]
    held := by
      rw [execute_tmp, toMarker_tmp, position, held, before] }

end Framing

end SynapTCP
