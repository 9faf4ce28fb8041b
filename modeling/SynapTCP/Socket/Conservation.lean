import SynapTCP.Socket.Gathering

namespace SynapTCP

open Data

/-! # What a receive operation does with the bytes it gets

Each operation on a readable port is described by the bytes it reads: with
the bytes left over at entry in front they are all there is to divide between
`data`, `remainingData` and, after a start marker, the skipped bytes.
-/

namespace Socket

variable {s : Socket} {w : Wire}

theorem copyFront_of_le {tmp : Bytes} {count : Nat} (stray : UInt8) (within : count ≤ tmp.length) :
    copyFront tmp count stray = tmp.take count := by
  simp [copyFront, Nat.sub_eq_zero_of_le within]

theorem copyFront_past (tmp : Bytes) (stray : UInt8) :
    copyFront tmp (tmp.length + 1) stray = tmp ++ [stray] := by
  simp [copyFront]

@[simp] theorem settle_wire {tmp : Bytes} (count code : Nat) :
    (s.settle w tmp count code).wire = w := by
  unfold settle
  split
  · rfl
  · split <;> rfl

/-- `data` is then the newest part of `tmp`, so equal sizes make them equal and
both ways of settling split the same bytes. -/
theorem settle_within {tmp newest : Bytes} {count : Nat} (part : newest <:+ tmp)
    (within : count ≤ tmp.length) :
    ({ s with data := newest, remainingData := [] } : Socket).settle w tmp count 0 =
      ⟨0, { s with data := tmp.take count, remainingData := tmp.drop count }, w⟩ := by
  unfold settle
  by_cases sizes : newest.length ≠ tmp.length
  · rw [if_pos sizes]
    by_cases surplus : count < tmp.length
    · simp only [copyFront_of_le _ within, if_pos surplus]
    · have all : tmp.drop count = [] := List.drop_eq_nil_of_le (by omega)
      simp only [copyFront_of_le _ within, if_neg surplus, all]
  · have same : newest = tmp := part.eq_of_length (by simpa using sizes)
    subst same
    rw [if_neg (by simp)]
    by_cases surplus : count < newest.length
    · rw [if_pos surplus]
    · have all : newest.take count = newest := List.take_of_length_le (by omega)
      have none : newest.drop count = [] := List.drop_eq_nil_of_le (by omega)
      rw [if_neg surplus, all, none]

/-! Where the operations stop reading is where their loops do. -/

theorem receiveNBytes_wire {sz : Nat} :
    (s.receiveNBytes w sz).wire = (s.countLoop sz w [] 0 false).wire := by
  unfold receiveNBytes
  dsimp only
  split
  · rfl
  · exact settle_wire _ _

theorem receiveStartBytes_wire {pattern : Bytes} :
    (s.receiveStartBytes w pattern).wire = (s.searchLoop pattern w [] 0 0 false).wire := by
  unfold receiveStartBytes
  dsimp only
  split <;> rfl

theorem receiveStopBytes_wire {pattern : Bytes} :
    (s.receiveStopBytes w pattern).wire = (s.compareLoop pattern w []).wire := by
  unfold receiveStopBytes
  dsimp only
  split
  · rfl
  · split
    · rfl
    · exact settle_wire _ _

theorem receiveUntillStopBytes_wire {pattern : Bytes} :
    (s.receiveUntillStopBytes w pattern).wire = (s.searchLoop pattern w [] 0 0 false).wire := by
  unfold receiveUntillStopBytes
  dsimp only
  split
  · rfl
  · exact settle_wire _ _

theorem receiveNBytes_cases (ready : s.Readable) (w : Wire) (sz : Nat) :
    ∃ bytes, w.Reads bytes (s.receiveNBytes w sz).wire ∧
      ((sz ≤ (s.remainingData ++ bytes).length ∧ (s.receiveNBytes w sz).code = 0 ∧
          (s.receiveNBytes w sz).socket =
            { s with
              data := (s.remainingData ++ bytes).take sz
              remainingData := (s.remainingData ++ bytes).drop sz }) ∨
        ((s.remainingData ++ bytes).length < sz ∧ (s.receiveNBytes w sz).code = 2 ∧
          (s.receiveNBytes w sz).socket =
            { s with data := s.remainingData ++ bytes, remainingData := [] })) := by
  unfold receiveNBytes
  generalize ended : s.countLoop sz w [] 0 false = last
  obtain ⟨bytes, reads, gathered, ends⟩ := countLoop_gathers ready (.inr rfl) (by simp) ended
  rw [List.nil_append] at gathered
  dsimp only
  rw [gathered] at ends ⊢
  rcases ends with ⟨-, enough, newest, part, socket⟩ | ⟨-, short, socket⟩
  · rw [if_neg (by omega), socket, settle_within part enough]
    exact ⟨bytes, reads, .inl ⟨enough, rfl, rfl⟩⟩
  · by_cases lacking : (s.remainingData ++ bytes).length < sz
    · rw [if_pos lacking, socket]
      exact ⟨bytes, reads, .inr ⟨lacking, rfl, rfl⟩⟩
    · have empty : s.remainingData ++ bytes = [] := short.resolve_left lacking
      rw [if_neg lacking, socket, empty, settle_within List.nil_suffix (by simpa [empty] using lacking)]
      exact ⟨bytes, reads, .inl ⟨by simpa [empty] using lacking, rfl, by simp [empty]⟩⟩

theorem receiveStopBytes_cases (ready : s.Readable) (w : Wire) (stopBytes : Bytes) :
    ∃ bytes, w.Reads bytes (s.receiveStopBytes w stopBytes).wire ∧
      ((stopBytes.length ≤ (s.remainingData ++ bytes).length ∧
          (s.remainingData ++ bytes).take stopBytes.length = stopBytes ∧
          (s.receiveStopBytes w stopBytes).code = 0 ∧
          (s.receiveStopBytes w stopBytes).socket =
            { s with
              data := stopBytes
              remainingData := (s.remainingData ++ bytes).drop stopBytes.length }) ∨
        ((s.receiveStopBytes w stopBytes).socket =
            { s with data := s.remainingData ++ bytes, remainingData := [] } ∧
          (((s.receiveStopBytes w stopBytes).code = 2 ∧
              (s.remainingData ++ bytes).length < stopBytes.length) ∨
            ((s.receiveStopBytes w stopBytes).code = 3 ∧
              stopBytes.length ≤ (s.remainingData ++ bytes).length ∧
              ((s.remainingData ++ bytes).take stopBytes.length ≠ stopBytes ∨
                s.remainingData ++ bytes = []))))) := by
  unfold receiveStopBytes
  generalize ended : s.compareLoop stopBytes w [] = last
  obtain ⟨bytes, reads, gathered, ends⟩ := compareLoop_gathers ready (.inr rfl) ended
  rw [List.nil_append] at gathered
  dsimp only
  rw [gathered] at ends ⊢
  rcases ends with ⟨code, enough, found, newest, part, socket⟩ | ⟨found, short, socket⟩
  · rw [if_neg (by omega)]
    by_cases matched : (s.remainingData ++ bytes).take stopBytes.length = stopBytes
    · rw [if_neg (by simp [found.mpr matched]), socket, code, settle_within part enough, matched]
      exact ⟨bytes, reads, .inl ⟨enough, matched, rfl, rfl⟩⟩
    · have missed : last.found = false := by
        rw [← Bool.not_eq_true]
        exact fun hit => matched (found.mp hit)
      rw [if_pos missed, socket]
      exact ⟨bytes, reads, .inr ⟨rfl, .inr ⟨rfl, enough, .inl matched⟩⟩⟩
  · by_cases lacking : (s.remainingData ++ bytes).length < stopBytes.length
    · rw [if_pos lacking, socket]
      exact ⟨bytes, reads, .inr ⟨rfl, .inl ⟨rfl, lacking⟩⟩⟩
    · rw [if_neg lacking, if_pos found, socket]
      exact ⟨bytes, reads, .inr ⟨rfl, .inr ⟨rfl, by omega, .inr (short.resolve_left lacking)⟩⟩⟩

theorem receiveStartBytes_cases (ready : s.Readable) (w : Wire) (startBytes : Bytes) :
    ∃ bytes, w.Reads bytes (s.receiveStartBytes w startBytes).wire ∧
      (((s.searchLoop startBytes w [] 0 0 false).found = true ∧
          ∃ index, OccursAt startBytes (s.remainingData ++ bytes) index ∧
          index + startBytes.length ≤ (s.remainingData ++ bytes).length ∧
          (startBytes ≠ [] → LeftmostAt startBytes (s.remainingData ++ bytes) index) ∧
          (s.receiveStartBytes w startBytes).code = 0 ∧
          (s.receiveStartBytes w startBytes).socket =
            { s with
              data := startBytes
              remainingData := (s.remainingData ++ bytes).drop (index + startBytes.length) }) ∨
        ((s.searchLoop startBytes w [] 0 0 false).found = false ∧
          (startBytes ≠ [] → ∀ index, ¬ OccursAt startBytes (s.remainingData ++ bytes) index) ∧
          (s.receiveStartBytes w startBytes).code = 2 ∧
          (s.receiveStartBytes w startBytes).socket =
            { s with data := s.remainingData ++ bytes, remainingData := [] })) := by
  unfold receiveStartBytes
  generalize ended : s.searchLoop startBytes w [] 0 0 false = last
  obtain ⟨bytes, reads, gathered, ends⟩ := searchLoop_gathers ready ended
  have exactly := fun nonempty : startBytes ≠ [] =>
    searchLoop_exact_start nonempty ended
  rw [List.nil_append] at gathered
  dsimp only
  rw [gathered] at ends exactly ⊢
  rcases ends with ⟨found, code, fits, occurs, newest, part, socket⟩ | ⟨found, code, socket⟩
  · rw [if_pos found, occursAt_iff_take.mp occurs, socket, code]
    refine ⟨bytes, reads, .inl ⟨found, last.index, occurs, fits, ?_, rfl, ?_⟩⟩
    · exact fun nonempty => (exactly nonempty).1 found
    · by_cases surplus : last.index + startBytes.length < (s.remainingData ++ bytes).length
      · rw [if_pos surplus]
      · rw [if_neg surplus, List.drop_eq_nil_of_le (by omega)]
  · rw [if_neg (by simp [found]), socket, code]
    exact ⟨bytes, reads, .inr ⟨found, fun nonempty => ((exactly nonempty).2 found).1, rfl, rfl⟩⟩

/-- The third end is the overrun: the reads failed after enough bytes for the
marker had come without it, and the copy takes one byte past the buffer. -/
theorem receiveUntillStopBytes_cases (ready : s.Readable) (w : Wire) {stopBytes : Bytes}
    (nonempty : stopBytes ≠ []) :
    ∃ bytes, w.Reads bytes (s.receiveUntillStopBytes w stopBytes).wire ∧
      (((s.searchLoop stopBytes w [] 0 0 false).found = true ∧
          ∃ index, LeftmostAt stopBytes (s.remainingData ++ bytes) index ∧
          (s.receiveUntillStopBytes w stopBytes).code = 0 ∧
          (s.receiveUntillStopBytes w stopBytes).socket =
            { s with
              data := (s.remainingData ++ bytes).take (index + stopBytes.length)
              remainingData := (s.remainingData ++ bytes).drop (index + stopBytes.length) }) ∨
        ((s.searchLoop stopBytes w [] 0 0 false).found = false ∧
          (∀ index, ¬ OccursAt stopBytes (s.remainingData ++ bytes) index) ∧
          (s.remainingData ++ bytes).length < stopBytes.length ∧
          (s.receiveUntillStopBytes w stopBytes).code = 2 ∧
          (s.receiveUntillStopBytes w stopBytes).socket =
            { s with data := s.remainingData ++ bytes, remainingData := [] }) ∨
        ((s.searchLoop stopBytes w [] 0 0 false).found = false ∧
          (∀ index, ¬ OccursAt stopBytes (s.remainingData ++ bytes) index) ∧
          stopBytes.length ≤ (s.remainingData ++ bytes).length ∧
          (s.receiveUntillStopBytes w stopBytes).code = 0 ∧
          ∃ stray, (s.receiveUntillStopBytes w stopBytes).socket =
            { s with data := s.remainingData ++ bytes ++ [stray], remainingData := [] })) := by
  unfold receiveUntillStopBytes
  generalize ended : s.searchLoop stopBytes w [] 0 0 false = last
  obtain ⟨bytes, reads, gathered, ends⟩ := searchLoop_gathers ready ended
  have positive := List.length_pos_iff.mpr nonempty
  obtain ⟨hit, miss⟩ := searchLoop_exact_start nonempty ended
  rw [List.nil_append] at gathered
  dsimp only
  rw [gathered] at ends hit miss ⊢
  rcases ends with ⟨found, code, fits, -, newest, part, socket⟩ | ⟨found, code, socket⟩
  · rw [if_neg (by omega), socket, code, settle_within part fits]
    exact ⟨bytes, reads, .inl ⟨found, last.index, hit found, rfl, rfl⟩⟩
  · obtain ⟨absent, past⟩ := miss found
    by_cases lacking : (s.remainingData ++ bytes).length < stopBytes.length
    · rw [if_pos lacking, socket]
      exact ⟨bytes, reads, .inr (.inl ⟨found, absent, lacking, rfl, rfl⟩)⟩
    · have some : ([] : Bytes).length ≠ (s.remainingData ++ bytes).length := by
        rw [List.length_nil]
        omega
      have behind := past (by omega)
      rw [if_neg lacking, socket, settle, if_pos some, behind, copyFront_past, if_neg (by omega)]
      exact ⟨bytes, reads, .inr (.inr ⟨found, absent, by omega, rfl, _, rfl⟩)⟩

end Socket

end SynapTCP
