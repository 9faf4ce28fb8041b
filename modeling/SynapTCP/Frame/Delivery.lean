import SynapTCP.Frame.Soundness
import SynapTCP.Socket.Prompt

namespace SynapTCP

open Data DataFrame

/-! # Passes on a stream that is supplied

With functions that change nothing and no failing read in the way, a pass takes
its element from the front of the stream and hands on the rest.
-/

section

variable {F : Type} [DataFrame F]

/-- No function of the format changes it or calls `trigInvDataIndicator`. -/
def Silent (format : List F) : Prop :=
  ∀ f ∈ format, ∀ callback,
    getExecuteFunction f = some callback ∨ getPostExecuteFunction f = some callback →
    ∀ any index, callback.run any index = (any, false)

theorem silent_of_no_functions {format : List F}
    (none : ∀ f ∈ format, getExecuteFunction f = none ∧ getPostExecuteFunction f = none) :
    Silent format := by
  intro f member callback function
  rw [(none f member).1, (none f member).2] at function
  rcases function with absent | absent
  · contradiction
  · contradiction

theorem Silent.modify [LawfulDataFrame F] {format : List F} (silent : Silent format) (i : Nat)
    (bytes : Bytes) : Silent (format.modify i (setData · bytes)) := by
  intro f member callback function
  obtain ⟨j, here⟩ := List.mem_iff_getElem?.mp member
  rw [List.getElem?_modify] at here
  obtain ⟨g, there, changed⟩ := Option.map_eq_some_iff.mp here
  have old : g ∈ format := List.mem_of_getElem? there
  apply silent g old callback
  by_cases same : i = j
  · rw [if_pos same] at changed
    subst changed
    simpa using function
  · rw [if_neg same] at changed
    subst changed
    exact function

theorem modify_append {α : Type*} (front : List α) (x : α) (back : List α) (change : α → α) :
    (front ++ x :: back).modify front.length change = front ++ change x :: back := by
  induction front with
  | nil => rfl
  | cons y front ih =>
      rw [List.cons_append, List.length_cons, List.modify_succ_cons, ih]
      rfl

end

namespace Framing

variable {F : Type} [DataFrame F]

def stream (framing : Framing F) : Bytes := framing.sock.stream framing.wire

/-- The loop works on a quiet format, from a stream with `count` bytes to come. -/
structure Fluent (framing : Framing F) (count : Nat) : Prop where
  ready : framing.sock.Readable
  silent : Silent framing.sock.frameFormat
  valid : framing.sock.isFormatValid = true
  supplied : Socket.Supplied count framing.sock.toSocket framing.wire

/-- The pass has taken `taken` bytes of the stream and gone on to `position`. -/
structure Handed (framing later : Framing F) (count taken position : Nat)
    (format : List F) : Prop where
  fluent : Fluent later (count - taken)
  stream : later.stream = framing.stream.drop taken
  position : later.tmp = position
  format : later.sock.frameFormat = format

variable {framing : Framing F} {f next : F} {count index : Nat}

theorem execute_silent (silent : Silent framing.sock.frameFormat) :
    framing.execute getExecuteFunction = framing ∧
      framing.execute getPostExecuteFunction = framing := by
  have unchanged : ∀ select : F → Option (Callback F),
      (∀ f ∈ framing.sock.frameFormat, ∀ callback, select f = some callback →
        ∀ any index, callback.run any index = (any, false)) →
      framing.execute select = framing := by
    intro select quiet
    unfold execute
    split
    · rfl
    · rename_i callback selected
      obtain ⟨f, here, function⟩ := Option.bind_eq_some_iff.mp selected
      rw [quiet f (List.mem_of_getElem? here) callback function]
      simp
  constructor
  · exact unchanged _ fun f member callback function =>
      silent f member callback (.inl function)
  · exact unchanged _ fun f member callback function =>
      silent f member callback (.inr function)

/-- On a quiet format a pass is its receive, and the step to the next element. -/
theorem pass_silent (silent : Silent framing.sock.frameFormat)
    (here : framing.sock.frameFormat[framing.tmp]? = some f) {ret : Nat} {middle : Framing F}
    (received : framing.receiveElement f = (ret, middle))
    (silentAfter : Silent middle.sock.frameFormat)
    (valid : middle.sock.isFormatValid = true) :
    framing.pass = if ret ≠ 0 then .leave ret middle else .onward middle.advance := by
  unfold pass
  rw [(execute_silent silent).1]
  simp only [here, received, (execute_silent silentAfter).2, valid, Bool.true_eq_false, if_false]

theorem handed_of_reception (fluent : Fluent framing count)
    (here : framing.sock.frameFormat[framing.tmp]? = some f) {middle : Framing F}
    {reception : Reception} {taken : Nat} (received : framing.receiveElement f = (0, middle))
    (socket : middle.sock.toSocket = reception.socket) (wire : middle.wire = reception.wire)
    (valid : middle.sock.isFormatValid = true) (silent : Silent middle.sock.frameFormat)
    (same : framing.sock.SameSetup reception.socket)
    (rest : reception.socket.stream reception.wire = framing.stream.drop taken)
    (left : Socket.Supplied (count - taken) reception.socket reception.wire) :
    ∃ later, framing.pass = .onward later ∧
      Handed framing later count taken (middle.tmp + 1) middle.sock.frameFormat := by
  have passed := pass_silent fluent.silent here received silent valid
  rw [if_neg (by simp)] at passed
  have ready : middle.sock.Readable := by
    rw [socket]
    exact same.readable fluent.ready
  refine ⟨_, passed, ⟨⟨ready.opened, ready.connected⟩, silent, valid, ?_⟩, ?_, rfl, rfl⟩
  · rw [← socket, ← wire] at left
    exact left
  · rw [← socket, ← wire] at rest
    exact rest

theorem pass_start (fluent : Fluent framing count)
    (here : framing.sock.frameFormat[framing.tmp]? = some f)
    (type : getType f = .startBytes) (nonempty : getReference f ≠ [])
    (leftmost : LeftmostAt (getReference f) framing.stream index)
    (within : index + (getReference f).length ≤ count) :
    ∃ later, framing.pass = .onward later ∧ Handed framing later count
      (index + (getReference f).length) (framing.tmp + 1) framing.sock.frameFormat := by
  obtain ⟨code, same, -, rest, left⟩ := Socket.receiveStartBytes_supplied fluent.ready nonempty
    leftmost fluent.supplied within
  have received : framing.receiveElement f = (0, framing.receive
      (framing.sock.receiveStartBytes framing.wire (getReference f))) := by
    rw [receiveElement, if_pos ⟨type, List.length_pos_iff.mpr nonempty⟩, receiveMarker,
      if_neg (by simp [code])]
  have handed :=
    handed_of_reception fluent here received rfl rfl fluent.valid fluent.silent same rest left
  exact handed

theorem pass_stop (fluent : Fluent framing count)
    (here : framing.sock.frameFormat[framing.tmp]? = some f)
    (type : getType f = .stopBytes) (nonempty : getReference f ≠ [])
    (front : framing.stream.take (getReference f).length = getReference f)
    (within : (getReference f).length ≤ count) :
    ∃ later, framing.pass = .onward later ∧ Handed framing later count
      (getReference f).length (framing.tmp + 1) framing.sock.frameFormat := by
  obtain ⟨same, matched, -⟩ :=
    Socket.receiveStopBytes_supplied fluent.ready nonempty fluent.supplied within
  obtain ⟨code, -, rest, left⟩ := matched front
  have received : framing.receiveElement f = (0, framing.receive
      (framing.sock.receiveStopBytes framing.wire (getReference f))) := by
    rw [receiveElement, if_neg (by simp [type]), if_pos ⟨type, List.length_pos_iff.mpr nonempty⟩,
      receiveMarker, if_neg (by simp [code])]
  have handed :=
    handed_of_reception fluent here received rfl rfl fluent.valid fluent.silent same rest left
  exact handed

theorem not_marker_of_field (field : (getType f).isField = true) :
    getType f ≠ .startBytes ∧ getType f ≠ .stopBytes := by
  constructor
  · intro type
    rw [type] at field
    contradiction
  · intro type
    rw [type] at field
    contradiction

variable [LawfulDataFrame F]

theorem pass_fixed (fluent : Fluent framing count)
    (here : framing.sock.frameFormat[framing.tmp]? = some f)
    (field : (getType f).isField = true) (sized : 0 < getSize f) (within : getSize f ≤ count)
    (enough : getSize f ≤ framing.stream.length) :
    ∃ later, framing.pass = .onward later ∧ Handed framing later count (getSize f)
      (framing.tmp + 1) (framing.sock.frameFormat.modify framing.tmp
        (setData · (framing.stream.take (getSize f)))) := by
  obtain ⟨code, same, data, rest, left⟩ :=
    Socket.receiveNBytes_supplied fluent.ready fluent.supplied within
  obtain ⟨notStart, notStop⟩ := not_marker_of_field field
  have some : 0 < (framing.receive
      (framing.sock.receiveNBytes framing.wire (getSize f))).sock.data.length := by
    show 0 < (framing.sock.receiveNBytes framing.wire (getSize f)).socket.data.length
    rw [data, List.length_take]
    exact lt_min sized (Nat.lt_of_lt_of_le sized enough)
  have received : framing.receiveElement f = (0, (framing.receive
      (framing.sock.receiveNBytes framing.wire (getSize f))).store
        (framing.stream.take (getSize f))) := by
    rw [receiveElement, if_neg (by simp [notStart]), if_neg (by simp [notStop]), if_pos field,
      if_pos sized, receiveFixed, if_pos code, if_pos some, stream, ← data]
    rfl
  have handed := handed_of_reception fluent here received rfl rfl fluent.valid
    (fluent.silent.modify _ _) same rest left
  exact handed

theorem pass_free (fluent : Fluent framing count)
    (here : framing.sock.frameFormat[framing.tmp]? = some f)
    (field : (getType f).isField = true) (free : getSize f = 0)
    (behind : framing.sock.frameFormat[framing.tmp + 1]? = some next)
    (marker : getType next = .stopBytes) (nonempty : getReference next ≠ [])
    (leftmost : LeftmostAt (getReference next) framing.stream index)
    (within : index + (getReference next).length ≤ count) :
    ∃ later, framing.pass = .onward later ∧ Handed framing later count
      (index + (getReference next).length) (framing.tmp + 2)
      (framing.sock.frameFormat.modify framing.tmp (setData · (framing.stream.take index))) := by
  obtain ⟨code, same, data, rest, left⟩ := Socket.receiveUntillStopBytes_supplied fluent.ready
    nonempty leftmost fluent.supplied within
  obtain ⟨notStart, notStop⟩ := not_marker_of_field field
  have positive := List.length_pos_iff.mpr nonempty
  have fits := leftmost.occurs.fits nonempty
  have width : (framing.sock.receiveUntillStopBytes framing.wire
      (getReference next)).socket.data.length = index + (getReference next).length := by
    rw [data, List.length_take]
    exact min_eq_left fits
  have size : getSize next = (getReference next).length :=
    LawfulDataFrame.getSize_marker next (by rw [marker]; rfl)
  have content : (framing.sock.receiveUntillStopBytes framing.wire
      (getReference next)).socket.data.take ((framing.sock.receiveUntillStopBytes framing.wire
        (getReference next)).socket.data.length - getSize next) = framing.stream.take index := by
    rw [width, size, Nat.add_sub_cancel, data, List.take_take]
    rw [Nat.min_eq_left (Nat.le_add_right _ _)]
    rfl
  let stored := (framing.receive (framing.sock.receiveUntillStopBytes framing.wire
    (getReference next))).store (framing.stream.take index)
  have silent : Silent stored.sock.frameFormat := fluent.silent.modify _ _
  have crossed : stored.toMarker = { stored with tmp := framing.tmp + 1 } := by
    unfold toMarker
    rw [(execute_silent silent).2]
    exact (@execute_silent F _ { stored with tmp := stored.tmp + 1 } silent).1
  have received : framing.receiveElement f = (0, stored.toMarker) := by
    rw [receiveElement, if_neg (by simp [notStart]), if_neg (by simp [notStop]), if_pos field,
      if_neg (by omega), behind]
    dsimp only
    rw [if_pos ⟨marker, positive⟩, receiveUntill, if_pos code, if_pos (by
      simp only [receive]
      omega)]
    simp only [receive, content]
    rfl
  rw [crossed] at received
  have handed :=
    handed_of_reception fluent here received rfl rfl fluent.valid silent same rest left
  exact handed

end Framing

end SynapTCP
