import SynapTCP.Socket.Conservation
import Mathlib.Data.Nat.Find

namespace SynapTCP.Socket

open Data

/-! # What the two searches return

The text that a search sees are the bytes left over at entry and those read.
-/

variable {s : Socket} {w : Wire} {startBytes stopBytes text : Bytes}

/-! ## The start bytes -/

/-- The outcome is that of one search of the whole text. -/
structure FindsStart (startBytes text : Bytes) (found : Reception) : Prop where
  code : found.code = 0 ↔ ∃ index, OccursAt startBytes text index
  split : found.code = 0 → found.socket.data = startBytes ∧
    ∃ skip, text = skip ++ found.socket.data ++ found.socket.remainingData ∧
      LeftmostAt startBytes text skip.length
  missed : found.code ≠ 0 → found.code = 2 ∧ found.socket.data = text ∧
    found.socket.remainingData = []

/-- `receiveStartBytes` finds the leftmost occurrence, however the bytes come. -/
theorem receiveStartBytes_leftmost (ready : s.Readable) (w : Wire) (nonempty : startBytes ≠ []) :
    ∃ bytes, w.Reads bytes (s.receiveStartBytes w startBytes).wire ∧
      FindsStart startBytes (s.remainingData ++ bytes) (s.receiveStartBytes w startBytes) := by
  obtain ⟨bytes, reads, ends⟩ := receiveStartBytes_cases ready w startBytes
  refine ⟨bytes, reads, ?_⟩
  rcases ends with ⟨-, index, occurs, -, leftmost, code, socket⟩ | ⟨-, absent, code, socket⟩
  · refine ⟨iff_of_true code ⟨index, occurs⟩, fun _ => ?_, fun failed => absurd code failed⟩
    have fits := occurs.fits nonempty
    rw [socket]
    refine ⟨rfl, (s.remainingData ++ bytes).take index, occurs.split, ?_⟩
    rw [List.length_take, Nat.min_eq_left (by omega)]
    exact leftmost nonempty
  · have failed : ¬ (s.receiveStartBytes w startBytes).code = 0 := by
      rw [code]
      decide
    refine ⟨iff_of_false failed ?_, fun found => absurd found failed, fun _ => ⟨code, ?_, ?_⟩⟩
    · intro occurrence
      obtain ⟨index, occurs⟩ := occurrence
      exact absent nonempty index occurs
    · rw [socket]
    · rw [socket]

def plainPort : Socket := { Socket.new with sockFd := 3 }

theorem plainPort_readable : plainPort.Readable := ⟨show (0 : Int) < 3 by decide, rfl⟩

/-- The start bytes `[2, 2, 7]` overlap themselves and come in three pieces. -/
def piecewise : Wire where
  polls := []
  reads := [.chunk (.of 9 [2]), .chunk (.of 2 []),
    .chunk (.of 2 [7, 5])]
  stray := 0

theorem receiveStartBytes_leftmost_piecewise :
    ∃ bytes, piecewise.Reads bytes (plainPort.receiveStartBytes piecewise [2, 2, 7]).wire ∧
      FindsStart [2, 2, 7] (plainPort.remainingData ++ bytes)
        (plainPort.receiveStartBytes piecewise [2, 2, 7]) :=
  receiveStartBytes_leftmost plainPort_readable piecewise (by decide)

/-! ## The stop bytes -/

def straddling : Wire where
  polls := []
  reads := [.chunk (.of 7 [3]), .chunk (.of 3 [5])]
  stray := 0

def unstopped : Wire where
  polls := []
  reads := [.chunk (.of 7 []), .failed]
  stray := 0

/-- The byte past the buffer is not looked at by the loops. -/
theorem readLoop_stray (stray : UInt8) (sz : Nat) (flag : Bool) :
    s.receiveData { w with stray } sz flag =
      { s.receiveData w sz flag with wire := { (s.receiveData w sz flag).wire with stray } } := by
  unfold receiveData
  dsimp only
  split
  · rfl
  · split
    · rfl
    · split
      · rfl
      · split <;> rfl

theorem fetch_stray (stray : UInt8) (sz : Nat) :
    s.fetch { w with stray } sz =
      { s.fetch w sz with wire := { (s.fetch w sz).wire with stray } } := by
  unfold fetch
  split
  · rfl
  · exact readLoop_stray stray sz true

theorem searchLoop_stray (stray : UInt8) (pattern tmp : Bytes) (i idxCheck : Nat) (begun : Bool) :
    s.searchLoop pattern { w with stray } tmp i idxCheck begun =
      { s.searchLoop pattern w tmp i idxCheck begun with
        wire := { (s.searchLoop pattern w tmp i idxCheck begun).wire with stray } } := by
  fun_induction searchLoop s pattern w tmp i idxCheck begun with
  | case1 s w tmp i idxCheck begun round received resumed longer socket searched hit =>
      rw [searchLoop]
      simp only [fetch_stray]
      exact (dif_pos received).trans (if_pos hit)
  | case2 s w tmp i idxCheck begun round received resumed longer socket searched missed ih =>
      rw [searchLoop]
      simp only [fetch_stray]
      exact (dif_pos received).trans ((if_neg missed).trans ih)
  | case3 s w tmp i idxCheck begun round failed =>
      rw [searchLoop]
      simp only [fetch_stray]
      exact dif_neg failed

theorem settle_stray {tmp : Bytes} {count : Nat} (stray : UInt8) (code : Nat)
    (within : count ≤ tmp.length) :
    (s.settle { w with stray } tmp count code).socket = (s.settle w tmp count code).socket := by
  unfold settle
  rw [copyFront_of_le _ within, copyFront_of_le _ within]
  split
  · rfl
  · split <;> rfl

theorem receiveUntillStopBytes_stray (ready : s.Readable) (stray : UInt8)
    (within : (s.searchLoop stopBytes w [] 0 0 false).found = true ∨
      (s.searchLoop stopBytes w [] 0 0 false).tmp.length < stopBytes.length) :
    (s.receiveUntillStopBytes { w with stray } stopBytes).socket =
      (s.receiveUntillStopBytes w stopBytes).socket := by
  obtain ⟨bytes, -, -, ends⟩ := searchLoop_gathers ready (rfl : s.searchLoop stopBytes w [] 0 0 false = _)
  simp only [receiveUntillStopBytes, searchLoop_stray]
  generalize s.searchLoop stopBytes w [] 0 0 false = last at within ends
  by_cases short : last.tmp.length < stopBytes.length
  · rw [if_pos short, if_pos short]
  · rw [if_neg short, if_neg short]
    rcases ends with ⟨-, -, fits, -⟩ | ⟨missed, -⟩
    · exact settle_stray stray last.code fits
    · rw [missed] at within
      rcases within with found | few
      · exact absurd found (by decide)
      · exact absurd few short

/-- The bytes that arrive before the first round of `sz` that brings nothing. -/
def arriving (s : Socket) (sz : Nat) (w : Wire) : Bytes :=
  let round := s.fetch w sz
  if _received : round.code = 0 then
    round.socket.data ++ round.socket.remainingData ++
      arriving { round.socket with remainingData := [] } sz round.wire
  else []
termination_by supply s w
decreasing_by exact s.fetch_supply w _ _received

/-- A search takes of them what it needs, and without a hit all. -/
theorem searchLoop_arriving (s : Socket) (pattern : Bytes) (w : Wire) (tmp : Bytes)
    (i idxCheck : Nat) (begun : Bool) :
    (s.searchLoop pattern w tmp i idxCheck begun).tmp <+: tmp ++ s.arriving pattern.length w ∧
      ((s.searchLoop pattern w tmp i idxCheck begun).found = false →
        (s.searchLoop pattern w tmp i idxCheck begun).tmp = tmp ++ s.arriving pattern.length w) := by
  fun_induction searchLoop s pattern w tmp i idxCheck begun with
  | case1 s w tmp i idxCheck begun round received resumed longer socket searched hit =>
      refine ⟨?_, fun missed => Bool.noConfusion missed⟩
      rw [arriving, dif_pos received, ← List.append_assoc, ← List.append_assoc]
      exact List.prefix_append _ _
  | case2 s w tmp i idxCheck begun round received resumed longer socket searched missed ih =>
      rw [arriving, dif_pos received, ← List.append_assoc, ← List.append_assoc]
      exact ih
  | case3 s w tmp i idxCheck begun round failed =>
      rw [arriving, dif_neg failed, List.append_nil]
      exact ⟨List.prefix_rfl, fun _ => rfl⟩

theorem receiveUntillStopBytes_gathers (ready : s.Readable) {bytes : Bytes}
    (reads : w.Reads bytes (s.receiveUntillStopBytes w stopBytes).wire) :
    (s.searchLoop stopBytes w [] 0 0 false).tmp = s.remainingData ++ bytes := by
  obtain ⟨same, readsSame, gathered, -⟩ :=
    searchLoop_gathers ready (rfl : s.searchLoop stopBytes w [] 0 0 false = _)
  rw [receiveUntillStopBytes_wire] at reads
  rw [gathered, reads.unique readsSame, List.nil_append]

/-- The outcome is that of one search of the whole text, and the byte behind
the gathered buffer has no part in it. -/
structure FindsStop (s : Socket) (w : Wire) (stopBytes text : Bytes) : Prop where
  code : (s.receiveUntillStopBytes w stopBytes).code = 0 ↔ ∃ index, OccursAt stopBytes text index
  split : ∀ index, LeftmostAt stopBytes text index →
    (s.receiveUntillStopBytes w stopBytes).socket.data = text.take (index + stopBytes.length) ∧
    (s.receiveUntillStopBytes w stopBytes).socket.data ++
      (s.receiveUntillStopBytes w stopBytes).socket.remainingData = text
  missed : (∀ index, ¬ OccursAt stopBytes text index) →
    (s.receiveUntillStopBytes w stopBytes).socket.data = text ∧
    (s.receiveUntillStopBytes w stopBytes).socket.remainingData = []
  within : ∀ stray, (s.receiveUntillStopBytes { w with stray } stopBytes).socket =
    (s.receiveUntillStopBytes w stopBytes).socket

/-- `receiveUntillStopBytes` is exact unless reading stops after enough bytes
for the stop bytes have come without them. -/
theorem receiveUntillStopBytes_exact_iff (ready : s.Readable) (w : Wire)
    (nonempty : stopBytes ≠ []) :
    ∃ bytes, w.Reads bytes (s.receiveUntillStopBytes w stopBytes).wire ∧
      (FindsStop s w stopBytes (s.remainingData ++ bytes) ↔
        (∃ index, OccursAt stopBytes (s.arriving stopBytes.length w) index) ∨
          (s.arriving stopBytes.length w).length < stopBytes.length) := by
  obtain ⟨bytes, reads, ends⟩ := receiveUntillStopBytes_cases ready w nonempty
  have gathered := receiveUntillStopBytes_gathers ready reads
  obtain ⟨part, all⟩ := s.searchLoop_arriving stopBytes w [] 0 0 false
  have unread := @receiveUntillStopBytes_stray s w stopBytes ready
  rw [gathered, List.nil_append] at part all
  rw [gathered] at unread
  refine ⟨bytes, reads, ?_⟩
  rcases ends with ⟨found, index, leftmost, code, socket⟩ |
    ⟨missed, absent, short, code, socket⟩ | ⟨missed, absent, enough, code, stray, socket⟩
  · refine iff_of_true ⟨iff_of_true code ⟨index, leftmost.occurs⟩, ?_, ?_, ?_⟩ (.inl ⟨index, ?_⟩)
    · intro first isFirst
      rw [socket, isFirst.unique leftmost]
      exact ⟨rfl, List.take_append_drop _ _⟩
    · exact fun absent => absurd leftmost.occurs (absent index)
    · exact fun stray => unread stray (.inl found)
    · obtain ⟨behind, longer⟩ := part
      rw [← longer]
      exact leftmost.occurs.append
  · have failed : ¬ (s.receiveUntillStopBytes w stopBytes).code = 0 := by
      rw [code]
      decide
    rw [← all missed]
    refine iff_of_true ⟨iff_of_false failed ?_, ?_, ?_, ?_⟩ (.inr short)
    · intro occurrence
      obtain ⟨index, occurs⟩ := occurrence
      exact absent index occurs
    · exact fun index leftmost => absurd leftmost.occurs (absent index)
    · intro none
      rw [socket]
      exact ⟨rfl, rfl⟩
    · exact fun stray => unread stray (.inr short)
  · rw [← all missed]
    refine iff_of_false (fun exact => ?_) (fun condition => ?_)
    · obtain ⟨index, occurs⟩ := exact.code.mp code
      exact absent index occurs
    · rcases condition with ⟨index, occurs⟩ | short
      · exact absent index occurs
      · omega

/-- Behind the stop bytes `[3, 3]`, of which a chunk brings the second, stands `5`. -/
theorem receiveUntillStopBytes_exact_iff_split :
    ∃ bytes, straddling.Reads bytes (plainPort.receiveUntillStopBytes straddling [3, 3]).wire ∧
      (FindsStop plainPort straddling [3, 3] (plainPort.remainingData ++ bytes) ↔
        (∃ index, OccursAt [3, 3] (plainPort.arriving [3, 3].length straddling) index) ∨
          (plainPort.arriving [3, 3].length straddling).length < [3, 3].length) :=
  receiveUntillStopBytes_exact_iff plainPort_readable straddling (by decide)

/-- Of the stop byte `3` nothing comes behind `7`, and still the call returns `0`. -/
theorem receiveUntillStopBytes_unstopped :
    ¬ ∃ bytes, unstopped.Reads bytes (plainPort.receiveUntillStopBytes unstopped [3]).wire ∧
      FindsStop plainPort unstopped [3] (plainPort.remainingData ++ bytes) := by
  intro finds
  obtain ⟨bytes, reads, finds⟩ := finds
  have ends : (plainPort.receiveUntillStopBytes unstopped [3]).code = 0 ∧
      (plainPort.receiveUntillStopBytes unstopped [3]).wire.unread = [] := by
    decide +kernel
  have all := reads.unread
  rw [ends.2, List.append_nil] at all
  obtain ⟨index, occurs⟩ := finds.code.mp ends.1
  rw [← all] at occurs
  have first : index = 0 := Nat.le_zero.mp (Nat.le_of_succ_le_succ (occurs.fits (by decide)))
  rw [first] at occurs
  exact absurd occurs (by decide)

end SynapTCP.Socket
