import SynapTCP.Socket.Conservation

namespace SynapTCP

open Data

/-! # Runs of the unframed receive operations

A run is a list of requests served one after another by the same object over
the same wire; `keepAliveMs` may be set anew before each of them.
-/

inductive Operation where
  | receiveData (sz : Nat) (dontSplitRemainingData : Bool)
  | receiveNBytes (sz : Nat)
  | receiveStartBytes (startBytes : Bytes)
  | receiveStopBytes (stopBytes : Bytes)
deriving DecidableEq

structure Request where
  keepAliveMs : UInt16
  operation : Operation
deriving DecidableEq

structure Connection where
  socket : Socket
  wire : Wire
deriving DecidableEq

/-- One served request: where it started and what it gave back. -/
structure Turn where
  before : Connection
  request : Request
  result : Reception

def Operation.perform (s : Socket) (w : Wire) : Operation → Reception
  | .receiveData sz dontSplitRemainingData => s.receiveData w sz dontSplitRemainingData
  | .receiveNBytes sz => s.receiveNBytes w sz
  | .receiveStartBytes startBytes => s.receiveStartBytes w startBytes
  | .receiveStopBytes stopBytes => s.receiveStopBytes w stopBytes

namespace Connection

def serve (connection : Connection) (request : Request) : Reception :=
  request.operation.perform
    { connection.socket with keepAliveMs := request.keepAliveMs } connection.wire

def next (connection : Connection) (request : Request) : Connection :=
  ⟨(connection.serve request).socket, (connection.serve request).wire⟩

def turns (connection : Connection) : List Request → List Turn
  | [] => []
  | request :: requests =>
      ⟨connection, request, connection.serve request⟩ :: (connection.next request).turns requests

def finish (connection : Connection) : List Request → Connection
  | [] => connection
  | request :: requests => (connection.next request).finish requests

end Connection

/-- The turn reads `bytes` and divides them, behind the bytes left over before,
into `skip`, `data` and the bytes left over afterwards. -/
structure Turn.Conserves (turn : Turn) (skip bytes : Bytes) : Prop where
  reads : turn.before.wire.Reads bytes turn.result.wire
  conserved : skip ++ turn.result.socket.data ++ turn.result.socket.remainingData =
    turn.before.socket.remainingData ++ bytes
  skipped : skip ≠ [] → turn.result.code = 0 ∧
    ∃ startBytes, turn.request.operation = .receiveStartBytes startBytes
  split : ∀ sz, turn.request.operation = .receiveData sz false → 0 < sz → turn.result.code = 0 →
    turn.result.socket.data.length ≤ sz ∧
      (turn.result.socket.remainingData ≠ [] → turn.result.socket.data.length = sz)

namespace Socket

variable {s : Socket}

/-- What every operation does with the bytes it reads, whatever its exit. -/
theorem perform_conserves (ready : s.Readable) (w : Wire) (operation : Operation) :
    ∃ skip bytes, w.Reads bytes (operation.perform s w).wire ∧
      s.SameSetup (operation.perform s w).socket ∧
      skip ++ (operation.perform s w).socket.data ++ (operation.perform s w).socket.remainingData =
        s.remainingData ++ bytes ∧
      (skip ≠ [] → (operation.perform s w).code = 0 ∧
        ∃ startBytes, operation = .receiveStartBytes startBytes) := by
  cases operation with
  | receiveData sz flag =>
      obtain ⟨bytes, reads, ends⟩ := receiveData_cases ready w sz flag
      refine ⟨[], bytes, reads, ?_, ?_, fun some => absurd rfl some⟩
      all_goals
        simp only [Operation.perform]
        rcases ends with ⟨nothing, -, after⟩ | ⟨-, -, -, after⟩ | ⟨-, -, -, -, after⟩
      · rw [after]; exact SameSetup.buffers s _ _
      · rw [after]; exact SameSetup.buffers s _ _
      · rw [after]; exact SameSetup.buffers s _ _
      · rw [after, nothing]; rfl
      · rw [after]; simp
      · rw [after]; simp
  | receiveNBytes sz =>
      obtain ⟨bytes, reads, ends⟩ := receiveNBytes_cases ready w sz
      refine ⟨[], bytes, reads, ?_, ?_, fun some => absurd rfl some⟩
      all_goals
        simp only [Operation.perform]
        rcases ends with ⟨-, -, after⟩ | ⟨-, -, after⟩
      · rw [after]; exact SameSetup.buffers s _ _
      · rw [after]; exact SameSetup.buffers s _ _
      · rw [after]; simp
      · rw [after]; simp
  | receiveStartBytes startBytes =>
      obtain ⟨bytes, reads, ends⟩ := receiveStartBytes_cases ready w startBytes
      rcases ends with ⟨-, index, occurs, -, -, code, after⟩ | ⟨-, -, -, after⟩
      · refine ⟨(s.remainingData ++ bytes).take index, bytes, reads, ?_, ?_, fun _ => ?_⟩
        · rw [Operation.perform, after]
          exact SameSetup.buffers s _ _
        · rw [Operation.perform, after]
          exact occurs.split.symm
        · exact ⟨code, startBytes, rfl⟩
      · refine ⟨[], bytes, reads, ?_, ?_, fun some => absurd rfl some⟩
        · rw [Operation.perform, after]
          exact SameSetup.buffers s _ _
        · rw [Operation.perform, after]
          simp
  | receiveStopBytes stopBytes =>
      obtain ⟨bytes, reads, ends⟩ := receiveStopBytes_cases ready w stopBytes
      refine ⟨[], bytes, reads, ?_, ?_, fun some => absurd rfl some⟩
      all_goals
        simp only [Operation.perform]
        rcases ends with ⟨-, front, -, after⟩ | ⟨after, -⟩
      · rw [after]; exact SameSetup.buffers s _ _
      · rw [after]; exact SameSetup.buffers s _ _
      · rw [after]
        conv_rhs => rw [← List.take_append_drop stopBytes.length (s.remainingData ++ bytes), front]
        simp
      · rw [after]; simp

/-- A receive that may split never hands over more than it was asked for, and
leaves something over only when it hands over all of it. -/
theorem receiveData_splits (ready : s.Readable) (w : Wire) {sz : Nat} (positive : 0 < sz)
    (received : (s.receiveData w sz false).code = 0) :
    (s.receiveData w sz false).socket.data.length ≤ sz ∧
      ((s.receiveData w sz false).socket.remainingData ≠ [] →
        (s.receiveData w sz false).socket.data.length = sz) := by
  obtain ⟨bytes, -, ends⟩ := receiveData_cases ready w sz false
  rcases ends with ⟨-, code, -⟩ | ⟨-, -, within, after⟩ | ⟨-, -, -, surplus, after⟩
  · rw [code] at received
    contradiction
  · have fits : (s.remainingData ++ bytes).length ≤ sz := by
      rcases within with flag | zero | fits
      · contradiction
      · omega
      · exact fits
    rw [after]
    exact ⟨fits, fun some => absurd rfl some⟩
  · have width : ((s.remainingData ++ bytes).take sz).length = sz := by
      rw [List.length_take]
      omega
    rw [after]
    exact ⟨width.le, fun _ => width⟩

end Socket

namespace Connection

def sample : Connection where
  socket := { Socket.new with sockFd := 3, remainingData := [1] }
  wire := ⟨[true, false], [.chunk (.of 2 [3]), .failed,
    .chunk (.of 4 [5, 6])], 0⟩

def sampleRequests : List Request :=
  [⟨0, .receiveStopBytes [9]⟩, ⟨0, .receiveStartBytes [3]⟩, ⟨5, .receiveNBytes 2⟩,
    ⟨0, .receiveData 1 false⟩]

variable {connection : Connection}

theorem serve_conserves (ready : connection.socket.Readable) (request : Request) :
    (connection.next request).socket.Readable ∧
      ∃ skip bytes, Turn.Conserves ⟨connection, request, connection.serve request⟩ skip bytes := by
  have set : ({ connection.socket with keepAliveMs := request.keepAliveMs } : Socket).Readable :=
    ⟨ready.opened, ready.connected⟩
  obtain ⟨skip, bytes, reads, same, conserved, skipped⟩ :=
    Socket.perform_conserves set connection.wire request.operation
  refine ⟨same.readable set, skip, bytes, reads, conserved, skipped, ?_⟩
  intro sz asked positive received
  have operation : request.operation = .receiveData sz false := asked
  simp only [serve, operation, Operation.perform] at received ⊢
  exact Socket.receiveData_splits set connection.wire positive received

/-- Every turn of a run conserves its bytes, and so does the run: what the turns
skip and hand over, followed by what is left over at the end, is what was left
over at the start followed by all that was read. -/
theorem turns_conserve (ready : connection.socket.Readable) (requests : List Request) :
    ∃ skipped : List Bytes,
      List.Forall₂ (fun turn skip => ∃ bytes, Turn.Conserves turn skip bytes)
        (connection.turns requests) skipped ∧
      ∃ bytes, connection.wire.Reads bytes (connection.finish requests).wire ∧
        (List.zipWith (fun skip turn => skip ++ turn.result.socket.data) skipped
            (connection.turns requests)).flatten ++
          (connection.finish requests).socket.remainingData =
        connection.socket.remainingData ++ bytes := by
  induction requests generalizing connection with
  | nil => exact ⟨[], .nil, [], Wire.Reads.refl _, by simp [turns, finish]⟩
  | cons request requests ih =>
      obtain ⟨readyNext, skip, bytes, conserves⟩ := serve_conserves ready request
      obtain ⟨skipped, each, more, readsMore, conservedMore⟩ := ih readyNext
      refine ⟨skip :: skipped, .cons ⟨bytes, conserves⟩ each, bytes ++ more,
        conserves.reads.trans readsMore, ?_⟩
      calc
        _ = skip ++ (connection.serve request).socket.data ++
            ((List.zipWith (fun skip turn => skip ++ turn.result.socket.data) skipped
              ((connection.next request).turns requests)).flatten ++
              ((connection.next request).finish requests).socket.remainingData) := by
          simp [turns, finish]
        _ = skip ++ (connection.serve request).socket.data ++
            (connection.serve request).socket.remainingData ++ more := by
          rw [conservedMore, ← List.append_assoc]
          rfl
        _ = connection.socket.remainingData ++ (bytes ++ more) := by
          rw [conserves.conserved, List.append_assoc]

/-- A stop marker that is not there, a start marker behind two other bytes, and
two requests for what is left. -/
theorem turns_conserve_sample :
    ∃ skipped : List Bytes,
      List.Forall₂ (fun turn skip => ∃ bytes, Turn.Conserves turn skip bytes)
        (sample.turns sampleRequests) skipped ∧
      ∃ bytes, sample.wire.Reads bytes (sample.finish sampleRequests).wire ∧
        (List.zipWith (fun skip turn => skip ++ turn.result.socket.data) skipped
            (sample.turns sampleRequests)).flatten ++
          (sample.finish sampleRequests).socket.remainingData =
        sample.socket.remainingData ++ bytes :=
  turns_conserve ⟨by decide, rfl⟩ sampleRequests

end Connection

end SynapTCP
