import SynapTCP.Socket.Object
import SynapTCP.Data.Occurrence
import Mathlib.Tactic.Common

namespace SynapTCP

open Data

/-! # The receive operations

`receiveData` and the four operations built on it, as `src/socket.cpp` computes
them.  A method takes the object and the wire behind its descriptor and gives
the return code with both afterwards.
-/

structure Reception where
  code : Nat
  socket : Socket
  wire : Wire

/-- The wait at the head of each reading round: with bytes already in `data`
the round goes on only if `keepAliveMs` is set and the poll after the waiting
loop sees input. -/
def awaitInput (keepAliveMs : UInt16) (data : Bytes) (polls : List Bool) : Bool × List Bool :=
  if data = [] then (true, polls)
  else if keepAliveMs = 0 then (false, polls)
  else match polls with
    | [] => (false, [])
    | available :: polls => (available, polls)

structure Reading where
  /-- SSL mode without an SSL connection: the loop returns `1` at once. -/
  refused : Bool
  data : Bytes
  polls : List Bool
  reads : List ReadResult

namespace Socket

/-- The reading loop of `receiveData`. -/
def readLoop (s : Socket) (sz : Nat) (data : Bytes) (polls : List Bool) :
    List ReadResult → Reading
  | [] =>
      let (ready, polls) := awaitInput s.keepAliveMs data polls
      ⟨ready && s.useSSL && s.sslConn.isNone, data, polls, []⟩
  | read :: reads =>
      match awaitInput s.keepAliveMs data polls with
      | (false, polls) => ⟨false, data, polls, read :: reads⟩
      | (true, polls) =>
          if s.useSSL && s.sslConn.isNone then ⟨true, data, polls, read :: reads⟩
          else match read with
            | .failed => ⟨false, data, polls, reads⟩
            | .chunk piece =>
                let data := data ++ piece.bytes
                if sz = 0 ∨ data.length < sz then s.readLoop sz data polls reads
                else ⟨false, data, polls, reads⟩

def receiveData (s : Socket) (w : Wire) (sz : Nat) (dontSplitRemainingData : Bool) : Reception :=
  if s.sockFd ≤ 0 then ⟨1, s, w⟩
  else
    let reading := s.readLoop sz s.remainingData w.polls w.reads
    let wire := { w with polls := reading.polls, reads := reading.reads }
    let socket := { s with data := reading.data, remainingData := [] }
    if reading.refused then ⟨1, socket, wire⟩
    else if reading.data = [] then ⟨2, socket, wire⟩
    else if dontSplitRemainingData = false ∧ 0 < sz ∧ sz < reading.data.length then
      ⟨0, { s with data := reading.data.take sz, remainingData := reading.data.drop sz }, wire⟩
    else ⟨0, socket, wire⟩

/-- The first half of every gathering round: take what is left over, or receive. -/
def fetch (s : Socket) (w : Wire) (sz : Nat) : Reception :=
  if s.remainingData ≠ [] then
    ⟨0, { s with data := s.remainingData, remainingData := [] }, w⟩
  else s.receiveData w sz true

end Socket

/-- The local variables of a gathering loop at its end. -/
structure Gathering where
  code : Nat
  found : Bool
  index : Nat
  tmp : Bytes
  socket : Socket
  wire : Wire

/-- What a gathering loop can still take: unread results and the left-over bytes. -/
def supply (s : Socket) (w : Wire) : Nat :=
  w.reads.length + if s.remainingData = [] then 0 else 1

namespace Socket

theorem readLoop_reads_suffix (s : Socket) (sz : Nat) (data : Bytes) (polls : List Bool)
    (reads : List ReadResult) : (s.readLoop sz data polls reads).reads <:+ reads := by
  induction reads generalizing data polls with
  | nil => simp [readLoop]
  | cons read reads ih =>
      unfold readLoop
      split
      · exact List.suffix_refl _
      · split
        · exact List.suffix_refl _
        · cases read with
          | failed => exact List.suffix_cons _ _
          | chunk piece =>
              dsimp only
              split
              · exact (ih _ _).trans (List.suffix_cons _ _)
              · exact List.suffix_cons _ _

theorem readLoop_progress (s : Socket) (sz : Nat) (polls : List Bool) (reads : List ReadResult)
    (received : (s.readLoop sz [] polls reads).data ≠ []) :
    (s.readLoop sz [] polls reads).reads.length < reads.length := by
  cases reads with
  | nil => simp [readLoop] at received
  | cons read reads =>
      have bound := fun data polls => (s.readLoop_reads_suffix sz data polls reads).length_le
      unfold readLoop at received ⊢
      simp only [awaitInput, ↓reduceIte] at received ⊢
      split at received
      · simp at received
      · rename_i connected
        rw [if_neg connected]
        cases read with
        | failed => simp
        | chunk piece =>
            dsimp only
            split
            · exact Nat.lt_succ_of_le (bound _ _)
            · simp

theorem receiveData_supply (s : Socket) (w : Wire) (sz : Nat) (flag : Bool) :
    (s.receiveData w sz flag).wire.reads.length ≤ w.reads.length := by
  have bound := (s.readLoop_reads_suffix sz s.remainingData w.polls w.reads).length_le
  unfold receiveData
  split
  · exact Nat.le_refl _
  · dsimp only
    split
    · exact bound
    · split
      · exact bound
      · split <;> exact bound

theorem fetch_supply (s : Socket) (w : Wire) (sz : Nat) (received : (s.fetch w sz).code = 0) :
    supply { (s.fetch w sz).socket with remainingData := [] } (s.fetch w sz).wire < supply s w := by
  unfold fetch at received ⊢
  by_cases left : s.remainingData ≠ []
  · simp [left, supply]
  · simp only [left, ↓reduceIte] at received ⊢
    have empty : s.remainingData = [] := by simpa using left
    simp only [supply, empty, ↓reduceIte, Nat.add_zero]
    unfold receiveData at received ⊢
    split at received
    · simp at received
    · rename_i opened
      rw [if_neg opened]
      dsimp only at received ⊢
      rw [empty] at received ⊢
      split at received
      · simp at received
      · rename_i accepted
        rw [if_neg accepted]
        split at received
        · simp at received
        · rename_i some
          rw [if_neg some]
          have progress := s.readLoop_progress sz w.polls w.reads some
          split <;> exact progress

theorem fetch_failed_remaining (s : Socket) (w : Wire) (sz : Nat) (failed : (s.fetch w sz).code ≠ 0) :
    s.remainingData = [] ∧ (s.fetch w sz).socket.remainingData = [] := by
  unfold fetch at failed ⊢
  by_cases left : s.remainingData ≠ []
  · simp [left] at failed
  · have empty : s.remainingData = [] := by simpa using left
    refine ⟨empty, ?_⟩
    rw [if_neg left] at failed ⊢
    unfold receiveData at failed ⊢
    split
    · exact empty
    · dsimp only at failed ⊢
      split
      · rfl
      · split
        · rfl
        · simp_all

theorem fetch_failed_supply (s : Socket) (w : Wire) (sz : Nat) (failed : (s.fetch w sz).code ≠ 0) :
    supply (s.fetch w sz).socket (s.fetch w sz).wire ≤ supply s w := by
  obtain ⟨before, after⟩ := s.fetch_failed_remaining w sz failed
  simp only [supply, before, after, ↓reduceIte, Nat.add_zero]
  unfold fetch
  rw [if_neg (by simp [before])]
  exact s.receiveData_supply w sz true

/-- The loop that `receiveStartBytes` and `receiveUntillStopBytes` share: gather
until `pattern` is found or a round fails. -/
def searchLoop (s : Socket) (pattern : Bytes) (w : Wire) (tmp : Bytes) (i idxCheck : Nat)
    (isRcvFirstBytes : Bool) : Gathering :=
  let round := s.fetch w pattern.length
  if _received : round.code = 0 then
    let idxCheck :=
      if isRcvFirstBytes = true ∧ pattern.length < tmp.length then tmp.length + 1 - pattern.length
      else idxCheck
    let tmp := tmp ++ round.socket.data ++ round.socket.remainingData
    let socket := { round.socket with remainingData := [] }
    let searched :=
      if pattern.length ≤ tmp.length then searchFrom pattern tmp idxCheck else (false, i)
    if searched.1 then ⟨0, true, searched.2, tmp, socket, round.wire⟩
    else searchLoop socket pattern round.wire tmp searched.2 idxCheck true
  else ⟨round.code, false, i, tmp, round.socket, round.wire⟩
termination_by supply s w
decreasing_by exact s.fetch_supply w _ _received

/-- The loop of `receiveStopBytes`: gather as many bytes as the pattern has and
compare. -/
def compareLoop (s : Socket) (pattern : Bytes) (w : Wire) (tmp : Bytes) : Gathering :=
  let round := s.fetch w (pattern.length - tmp.length)
  if _received : round.code = 0 then
    let tmp := tmp ++ round.socket.data ++ round.socket.remainingData
    let socket := { round.socket with remainingData := [] }
    if pattern.length ≤ tmp.length then
      ⟨0, tmp.take pattern.length = pattern, 0, tmp, socket, round.wire⟩
    else compareLoop socket pattern round.wire tmp
  else ⟨round.code, false, 0, tmp, round.socket, round.wire⟩
termination_by supply s w
decreasing_by exact s.fetch_supply w _ _received

/-- The loop of `receiveNBytes`.  `tryTimes` is armed by the first bytes and
counts down with every failing round after them. -/
def countLoop (s : Socket) (sz : Nat) (w : Wire) (tmp : Bytes) (tryTimes : Nat)
    (isRcvFirstBytes : Bool) : Gathering :=
  let round := s.fetch w sz
  if _received : round.code = 0 then
    let tryTimes := if isRcvFirstBytes = true then tryTimes else 3
    let tmp := tmp ++ round.socket.data ++ round.socket.remainingData
    let socket := { round.socket with remainingData := [] }
    if sz ≤ tmp.length then ⟨0, true, 0, tmp, socket, round.wire⟩
    else if 0 < tryTimes then countLoop socket sz round.wire tmp tryTimes true
    else ⟨0, false, 0, tmp, socket, round.wire⟩
  else if _again : isRcvFirstBytes = true ∧ 0 < tryTimes - 1 then
    countLoop round.socket sz round.wire tmp (tryTimes - 1) isRcvFirstBytes
  else ⟨round.code, false, 0, tmp, round.socket, round.wire⟩
termination_by 4 * supply s w + tryTimes
decreasing_by
  · have less := s.fetch_supply w sz _received
    show 4 * supply { (s.fetch w sz).socket with remainingData := [] } (s.fetch w sz).wire +
      (if isRcvFirstBytes = true then _ else 3) < _
    split <;> omega
  · have bound := s.fetch_failed_supply w sz _received
    omega

/-- `tmp.begin()` to `tmp.begin() + count`, with what memory holds behind the
buffer where the range runs over its end. -/
def copyFront (tmp : Bytes) (count : Nat) (stray : UInt8) : Bytes :=
  tmp.take count ++ List.replicate (count - tmp.length) stray

/-- The tail of `receiveUntillStopBytes`, `receiveStopBytes` and `receiveNBytes`:
keep the first `count` bytes and give the rest back.  `tmp` is taken instead of
`data` if their sizes differ. -/
def settle (s : Socket) (w : Wire) (tmp : Bytes) (count code : Nat) : Reception :=
  if s.data.length ≠ tmp.length then
    ⟨0, { s with
      data := copyFront tmp count w.stray
      remainingData := if count < tmp.length then tmp.drop count else s.remainingData }, w⟩
  else if count < s.data.length then
    ⟨code, { s with data := s.data.take count, remainingData := s.data.drop count }, w⟩
  else ⟨code, s, w⟩

def receiveStartBytes (s : Socket) (w : Wire) (startBytes : Bytes) : Reception :=
  let last := s.searchLoop startBytes w [] 0 0 false
  if last.found then
    ⟨last.code, { last.socket with
      data := (last.tmp.drop last.index).take startBytes.length
      remainingData :=
        if last.index + startBytes.length < last.tmp.length then
          last.tmp.drop (last.index + startBytes.length)
        else last.socket.remainingData }, last.wire⟩
  else ⟨last.code, { last.socket with data := last.tmp }, last.wire⟩

def receiveUntillStopBytes (s : Socket) (w : Wire) (stopBytes : Bytes) : Reception :=
  let last := s.searchLoop stopBytes w [] 0 0 false
  if last.tmp.length < stopBytes.length then
    ⟨2, { last.socket with data := last.tmp }, last.wire⟩
  else last.socket.settle last.wire last.tmp (last.index + stopBytes.length) last.code

def receiveStopBytes (s : Socket) (w : Wire) (stopBytes : Bytes) : Reception :=
  let last := s.compareLoop stopBytes w []
  if last.tmp.length < stopBytes.length then
    ⟨2, { last.socket with data := last.tmp }, last.wire⟩
  else if last.found = false then ⟨3, { last.socket with data := last.tmp }, last.wire⟩
  else last.socket.settle last.wire last.tmp stopBytes.length last.code

def receiveNBytes (s : Socket) (w : Wire) (sz : Nat) : Reception :=
  let last := s.countLoop sz w [] 0 false
  if last.tmp.length < sz then ⟨2, { last.socket with data := last.tmp }, last.wire⟩
  else last.socket.settle last.wire last.tmp sz 0

end Socket

end SynapTCP
