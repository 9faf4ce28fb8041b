import SynapTCP.Data.Script
import SynapTCP.Socket.Prompt
import SynapTCP.Socket.Runs

namespace SynapTCP

open Data

/-! # Programs over the receive operations

Any program that calls `receiveNBytes`, `receiveStartBytes`, `receiveUntillStopBytes` and
`receiveStopBytes`, and looks at the buffer behind a call that returned 0, sees the bytes
of the peer as one stream: it cannot tell how they were cut.
-/

inductive StreamCall where
  | receiveNBytes (sz : Nat)
  | receiveStartBytes (startBytes : Bytes)
  | receiveUntillStopBytes (stopBytes : Bytes)
  | receiveStopBytes (stopBytes : Bytes)

/-- What a program sees of a call: the code, and the buffer if the code is 0. -/
structure Answered where
  code : Nat
  data : Bytes
deriving DecidableEq

namespace Connection

def perform (connection : Connection) : StreamCall → Reception
  | .receiveNBytes sz => connection.socket.receiveNBytes connection.wire sz
  | .receiveStartBytes startBytes => connection.socket.receiveStartBytes connection.wire startBytes
  | .receiveUntillStopBytes stopBytes => connection.socket.receiveUntillStopBytes connection.wire stopBytes
  | .receiveStopBytes stopBytes => connection.socket.receiveStopBytes connection.wire stopBytes

def answer (connection : Connection) (call : StreamCall) : Answered × Connection :=
  let reception := connection.perform call
  (⟨reception.code, if reception.code = 0 then reception.socket.data else []⟩,
    ⟨reception.socket, reception.wire⟩)

end Connection

/-- A call on a stream; no result where the stream does not hold enough.  Behind a missed
stop marker nothing is known of the rest, which is `none`. -/
def StreamCall.take (stream : Bytes) : StreamCall → Option (Answered × Option Bytes)
  | .receiveNBytes sz =>
      if sz ≤ stream.length then some (⟨0, stream.take sz⟩, some (stream.drop sz)) else none
  | .receiveStartBytes startBytes =>
      if startBytes = [] then none
      else (firstOccurrence startBytes stream).map fun index =>
        (⟨0, startBytes⟩, some (stream.drop (index + startBytes.length)))
  | .receiveUntillStopBytes stopBytes =>
      if stopBytes = [] then none
      else (firstOccurrence stopBytes stream).map fun index =>
        (⟨0, stream.take (index + stopBytes.length)⟩, some (stream.drop (index + stopBytes.length)))
  | .receiveStopBytes stopBytes =>
      if stopBytes = [] ∨ stream.length < stopBytes.length then none
      else if stream.take stopBytes.length = stopBytes then
        some (⟨0, stopBytes⟩, some (stream.drop stopBytes.length))
      else some (⟨3, []⟩, none)

def StreamCall.answerWhere (rest : Option Bytes) (call : StreamCall) :
    Option (Answered × Option Bytes) :=
  rest.bind fun stream => call.take stream

/-- The stream is what the connection still has, none of it behind a failing read. -/
structure Connection.Holds (connection : Connection) (rest : Option Bytes) : Prop where
  ready : connection.socket.Readable
  stream : ∀ stream ∈ rest, connection.socket.stream connection.wire = stream ∧
    Socket.Supplied stream.length connection.socket connection.wire

namespace Connection

variable {connection : Connection} {stream pattern : Bytes} {answered : Answered × Option Bytes} {sz : Nat}

/-- A call that succeeds and takes the first bytes. -/
theorem Holds.answer (holds : connection.Holds (some stream)) {call : StreamCall} {data : Bytes}
    {taken : Nat} (code : (connection.perform call).code = 0)
    (same : connection.socket.SameSetup (connection.perform call).socket)
    (content : (connection.perform call).socket.data = data)
    (rest : (connection.perform call).socket.stream (connection.perform call).wire = stream.drop taken)
    (left : Socket.Supplied (stream.length - taken) (connection.perform call).socket
      (connection.perform call).wire) :
    (connection.answer call).1 = ⟨0, data⟩ ∧ (connection.answer call).2.Holds (some (stream.drop taken)) := by
  refine ⟨?_, same.readable holds.ready, ?_⟩
  · simp only [Connection.answer, code, if_true, content]
  · intro later isLater
    cases isLater
    rw [List.length_drop]
    exact ⟨rest, left⟩

theorem Holds.receiveNBytes (holds : connection.Holds (some stream))
    (took : StreamCall.take stream (.receiveNBytes sz) = some answered) :
    (connection.answer (.receiveNBytes sz)).1 = answered.1 ∧
      (connection.answer (.receiveNBytes sz)).2.Holds answered.2 := by
  obtain ⟨same, supplied⟩ := holds.stream stream rfl
  simp only [StreamCall.take] at took
  split at took
  · rename_i within
    cases took
    obtain ⟨code, setup, data, rest, left⟩ :=
      Socket.receiveNBytes_supplied holds.ready supplied within
    rw [same] at data rest
    exact holds.answer code setup data rest left
  · contradiction

theorem Holds.receiveStartBytes (holds : connection.Holds (some stream))
    (took : StreamCall.take stream (.receiveStartBytes pattern) = some answered) :
    (connection.answer (.receiveStartBytes pattern)).1 = answered.1 ∧
      (connection.answer (.receiveStartBytes pattern)).2.Holds answered.2 := by
  obtain ⟨same, supplied⟩ := holds.stream stream rfl
  simp only [StreamCall.take] at took
  split at took
  · contradiction
  · rename_i nonempty
    obtain ⟨index, found, rfl⟩ := Option.map_eq_some_iff.mp took
    have leftmost := leftmostAt_of_firstOccurrence found
    have fits := leftmost.occurs.fits nonempty
    rw [← same] at leftmost
    obtain ⟨code, setup, data, rest, left⟩ :=
      Socket.receiveStartBytes_supplied holds.ready nonempty leftmost supplied fits
    rw [same] at rest
    exact holds.answer code setup data rest left

theorem Holds.receiveUntillStopBytes (holds : connection.Holds (some stream))
    (took : StreamCall.take stream (.receiveUntillStopBytes pattern) = some answered) :
    (connection.answer (.receiveUntillStopBytes pattern)).1 = answered.1 ∧
      (connection.answer (.receiveUntillStopBytes pattern)).2.Holds answered.2 := by
  obtain ⟨same, supplied⟩ := holds.stream stream rfl
  simp only [StreamCall.take] at took
  split at took
  · contradiction
  · rename_i nonempty
    obtain ⟨index, found, rfl⟩ := Option.map_eq_some_iff.mp took
    have leftmost := leftmostAt_of_firstOccurrence found
    have fits := leftmost.occurs.fits nonempty
    rw [← same] at leftmost
    obtain ⟨code, setup, data, rest, left⟩ :=
      Socket.receiveUntillStopBytes_supplied holds.ready nonempty leftmost supplied fits
    rw [same] at data rest
    exact holds.answer code setup data rest left

theorem Holds.receiveStopBytes (holds : connection.Holds (some stream))
    (took : StreamCall.take stream (.receiveStopBytes pattern) = some answered) :
    (connection.answer (.receiveStopBytes pattern)).1 = answered.1 ∧
      (connection.answer (.receiveStopBytes pattern)).2.Holds answered.2 := by
  obtain ⟨same, supplied⟩ := holds.stream stream rfl
  simp only [StreamCall.take] at took
  split at took
  · contradiction
  · rename_i enough
    obtain ⟨nonempty, within⟩ := not_or.mp enough
    obtain ⟨setup, equal, differs⟩ := Socket.receiveStopBytes_supplied holds.ready nonempty
      supplied (Nat.le_of_not_lt within)
    rw [same] at equal differs
    split at took
    · rename_i found
      cases took
      obtain ⟨code, data, rest, left⟩ := equal found
      exact holds.answer code setup data rest left
    · rename_i other
      cases took
      have code := (differs other).1
      refine ⟨?_, setup.readable holds.ready, by simp⟩
      show (⟨_, _⟩ : Answered) = _
      simp only [Connection.perform, code]
      rfl

theorem Holds.answerWhere {rest : Option Bytes} (holds : connection.Holds rest) {call : StreamCall}
    (took : StreamCall.answerWhere rest call = some answered) :
    (connection.answer call).1 = answered.1 ∧ (connection.answer call).2.Holds answered.2 := by
  obtain ⟨stream, rfl, taken⟩ := Option.bind_eq_some_iff.mp took
  cases call with
  | receiveNBytes sz => exact holds.receiveNBytes taken
  | receiveStartBytes startBytes => exact holds.receiveStartBytes taken
  | receiveUntillStopBytes stopBytes => exact holds.receiveUntillStopBytes taken
  | receiveStopBytes stopBytes => exact holds.receiveStopBytes taken

/-- Whatever a program does with the answers, on a stream without a failing read it ends
as on the stream of the bytes alone, as far as that has them; so it ends in the same way
however the stream is cut. -/
theorem script_ends {α : Type} {script : Script StreamCall Answered α}
    {ended : α × Option Bytes} (ready : connection.socket.Readable)
    (chunks : .failed ∉ connection.wire.reads)
    (ran : script.runWhere StreamCall.answerWhere
      (some (connection.socket.stream connection.wire)) = some ended) :
    (script.run answer connection).1 = ended.1 ∧
      ∀ rest ∈ ended.2, (script.run answer connection).2.socket.stream
        (script.run answer connection).2.wire = rest := by
  have holds : connection.Holds (some (connection.socket.stream connection.wire)) := by
    refine ⟨ready, fun stream isStream => ?_⟩
    cases isStream
    exact ⟨rfl, Socket.supplied_of_chunks chunks⟩
  obtain ⟨result, left⟩ := Script.run_of_runWhere
    (fun connection rest call answered (holds : connection.Holds rest) took =>
      holds.answerWhere took) holds ran
  exact ⟨result, fun rest isRest => (left.stream rest isRest).1⟩

/-- A start marker, a length, so many bytes and a stop marker. -/
def lengthFirst : Script StreamCall Answered (Option Bytes) :=
  .call (.receiveStartBytes [2]) fun _ => .call (.receiveNBytes 1) fun length =>
    .call (.receiveNBytes (length.data.headD 0).toNat) fun content =>
      .call (.receiveStopBytes [3, 3]) fun stop =>
        .done (if stop.code = 0 then some content.data else none)

/-- A stray byte left over from before, then the rest in three pieces. -/
def lengthFirstLine : Connection where
  socket := { Socket.new with sockFd := 3, remainingData := [9] }
  wire := ⟨[], [.chunk (.of 2 [3, 7]), .chunk (.of 8 [2, 3]), .chunk (.of 3 [5])], 0⟩

theorem script_ends_lengthFirst :
    (lengthFirst.run answer lengthFirstLine).1 = some [7, 8, 2] ∧
      ∀ rest ∈ (some [5] : Option Bytes), (lengthFirst.run answer lengthFirstLine).2.socket.stream
        (lengthFirst.run answer lengthFirstLine).2.wire = rest :=
  @script_ends lengthFirstLine _ lengthFirst (some [7, 8, 2], some [5])
    ⟨show (0 : Int) < 3 by decide, rfl⟩ (by decide) (by decide +kernel)

end Connection

end SynapTCP
