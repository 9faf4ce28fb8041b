import SynapTCP.Socket.Conservation

namespace SynapTCP

open Data

/-! # Receiving without a failing read

`Supplied count s w` says that the next `count` bytes of the stream, those left
over first, come before any failing read.  An operation that needs no more than
these succeeds, however they are cut into chunks, and hands on the stream behind
what it took.
-/

/-- The bytes that come before the first failing read. -/
def promptBytes : List ReadResult → Bytes
  | [] => []
  | .failed :: _ => []
  | .chunk piece :: reads => piece.bytes ++ promptBytes reads

theorem promptBytes_of_chunks {reads : List ReadResult} (chunks : .failed ∉ reads) :
    promptBytes reads = delivered reads := by
  induction reads with
  | nil => rfl
  | cons read reads ih =>
      cases read with
      | failed => simp at chunks
      | chunk piece =>
          have rest : ReadResult.failed ∉ reads := fun member => chunks (.tail _ member)
          rw [promptBytes, ih rest]
          rfl

/-- What has been taken counts for what was to come promptly. -/
theorem promptBytes_append (taken rest : List ReadResult) :
    (promptBytes (taken ++ rest)).length ≤ (delivered taken).length + (promptBytes rest).length := by
  induction taken with
  | nil => simp
  | cons read taken ih =>
      cases read with
      | failed => simp [promptBytes]
      | chunk piece =>
          simp only [List.cons_append, promptBytes, delivered_cons, ReadResult.bytes_chunk,
            List.length_append]
          omega

namespace Wire

theorem Reads.prompt {before after : Wire} {bytes : Bytes} (reads : before.Reads bytes after) :
    (promptBytes before.reads).length ≤ bytes.length + (promptBytes after.reads).length := by
  obtain ⟨taken, split, handed⟩ := reads
  rw [split, ← handed]
  exact promptBytes_append taken after.reads

end Wire

namespace Socket

/-- The bytes still to be received: those left over and those unread. -/
def stream (s : Socket) (w : Wire) : Bytes := s.remainingData ++ w.unread

def Supplied (count : Nat) (s : Socket) (w : Wire) : Prop :=
  count ≤ s.remainingData.length + (promptBytes w.reads).length

instance (count : Nat) (s : Socket) (w : Wire) : Decidable (Supplied count s w) :=
  inferInstanceAs (Decidable (_ ≤ _))

variable {s : Socket} {w : Wire} {sz count : Nat} {pattern tmp : Bytes}

/-- Without a failing read the whole stream can be received. -/
theorem supplied_of_chunks (chunks : .failed ∉ w.reads) : Supplied (s.stream w).length s w := by
  unfold Supplied stream Wire.unread
  rw [promptBytes_of_chunks chunks, List.length_append]

theorem readLoop_prompt (connected : (s.useSSL && s.sslConn.isNone) = false) (sz : Nat)
    (polls : List Bool) {reads : List ReadResult} (prompt : promptBytes reads ≠ []) :
    (s.readLoop sz [] polls reads).data ≠ [] := by
  cases reads with
  | nil => exact absurd rfl prompt
  | cons read reads =>
      cases read with
      | failed => exact absurd rfl prompt
      | chunk piece =>
          obtain ⟨-, taken, -, gathered⟩ :=
            readLoop_reads connected sz piece.bytes polls reads
          unfold readLoop
          simp only [awaitInput, ↓reduceIte, connected, Bool.false_eq_true, List.nil_append]
          split
          · rw [gathered]
            simp [piece.nonempty]
          · exact piece.nonempty

theorem fetch_prompt (ready : s.Readable) (w : Wire) (sz : Nat)
    (some : s.remainingData ≠ [] ∨ promptBytes w.reads ≠ []) : (s.fetch w sz).code = 0 := by
  unfold fetch
  by_cases left : s.remainingData ≠ []
  · rw [if_pos left]
  · have empty : s.remainingData = [] := by simpa using left
    have prompt := readLoop_prompt ready.connected sz w.polls (some.resolve_left left)
    obtain ⟨accepted, -⟩ := readLoop_reads ready.connected sz [] w.polls w.reads
    have opened : ¬ s.sockFd ≤ 0 := by have := ready.opened; omega
    rw [if_neg left]
    unfold receiveData
    simp only [opened, ↓reduceIte, empty, accepted, Bool.false_eq_true, prompt]
    split <;> rfl

/-- A failing round has no prompt byte before it and none left over. -/
theorem fetch_failed (ready : s.Readable) (w : Wire) (sz : Nat) (failed : (s.fetch w sz).code ≠ 0) :
    s.remainingData = [] ∧ promptBytes w.reads = [] := by
  constructor
  · by_contra some
    exact failed (fetch_prompt ready w sz (.inl some))
  · by_contra some
    exact failed (fetch_prompt ready w sz (.inr some))

/-- The search loop gathers everything that comes promptly before it gives up. -/
theorem searchLoop_prompt (ready : s.Readable) {i idxCheck : Nat} {begun : Bool}
    (prompt : count ≤ tmp.length + s.remainingData.length + (promptBytes w.reads).length)
    {last : Gathering} (ended : s.searchLoop pattern w tmp i idxCheck begun = last)
    (missed : last.found = false) : count ≤ last.tmp.length := by
  subst ended
  fun_induction searchLoop s pattern w tmp i idxCheck begun with
  | case1 s w tmp i idxCheck begun round received resumed longer socket searched hit =>
      contradiction
  | case2 s w tmp i idxCheck begun round received resumed longer socket searched absent ih =>
      obtain ⟨bytes, reads, -, (next : socket = _), readable, (grown : longer = _)⟩ :=
        fetch_received ready received tmp
      have bound : _ ≤ bytes.length + (promptBytes round.wire.reads).length := reads.prompt
      refine ih readable ?_ missed
      rw [grown, next]
      simp only [List.length_append, List.length_nil]
      omega
  | case3 s w tmp i idxCheck begun round failed =>
      obtain ⟨empty, none⟩ := fetch_failed ready w _ failed
      rw [empty, none] at prompt
      simpa using prompt

theorem compareLoop_prompt (ready : s.Readable)
    (prompt : pattern.length ≤ tmp.length + s.remainingData.length + (promptBytes w.reads).length)
    {last : Gathering} (ended : s.compareLoop pattern w tmp = last) :
    pattern.length ≤ last.tmp.length := by
  subst ended
  fun_induction compareLoop s pattern w tmp with
  | case1 s w tmp round received longer socket enough => exact enough
  | case2 s w tmp round received longer socket lacking ih =>
      obtain ⟨bytes, reads, -, (next : socket = _), readable, (grown : longer = _)⟩ :=
        fetch_received ready received tmp
      have bound : _ ≤ bytes.length + (promptBytes round.wire.reads).length := reads.prompt
      refine ih readable ?_
      rw [grown, next]
      simp only [List.length_append, List.length_nil]
      omega
  | case3 s w tmp round failed =>
      obtain ⟨empty, none⟩ := fetch_failed ready w _ failed
      rw [empty, none] at prompt
      simpa using prompt

theorem countLoop_prompt (ready : s.Readable)
    (prompt : sz ≤ tmp.length + s.remainingData.length + (promptBytes w.reads).length)
    {tryTimes : Nat} {begun : Bool} {last : Gathering}
    (armed : begun = true → 0 < tryTimes)
    (ended : s.countLoop sz w tmp tryTimes begun = last) : sz ≤ last.tmp.length := by
  subst ended
  fun_induction countLoop s sz w tmp tryTimes begun with
  | case1 s w tmp tryTimes begun round received longer socket enough => exact enough
  | case2 s w tmp tryTimes begun round received tries longer socket lacking left ih =>
      obtain ⟨bytes, reads, -, (next : socket = _), readable, (grown : longer = _)⟩ :=
        fetch_received ready received tmp
      have bound : _ ≤ bytes.length + (promptBytes round.wire.reads).length := reads.prompt
      refine ih readable ?_ fun _ => left
      rw [grown, next]
      simp only [List.length_append, List.length_nil]
      omega
  | case3 s w tmp tryTimes begun round received tries longer socket lacking spent =>
      exfalso
      apply spent
      simp only [tries]
      split
      · rename_i again
        exact armed again
      · decide
  | case4 s w tmp tryTimes begun round failed again ih =>
      obtain ⟨empty, none⟩ := fetch_failed ready w _ failed
      obtain ⟨-, -, -, (next : round.socket = _)⟩ := fetch_missed ready failed
      rw [empty, none] at prompt
      simp only [List.length_nil] at prompt
      apply ih
      · rw [next]
        exact ⟨ready.opened, ready.connected⟩
      · omega
      · exact fun _ => again.2
  | case5 s w tmp tryTimes begun round failed spent =>
      obtain ⟨empty, none⟩ := fetch_failed ready w _ failed
      rw [empty, none] at prompt
      simpa using prompt

/-! ## The operations on a stream that is supplied -/

theorem stream_eq {bytes : Bytes} {after : Wire} (reads : w.Reads bytes after) :
    s.stream w = s.remainingData ++ bytes ++ after.unread := by
  rw [stream, reads.unread, List.append_assoc]

/-- What is taken from the front of the stream leaves the rest of it, and of the
supply. -/
theorem supplied_rest {bytes : Bytes} {after : Wire} {taken : Nat} {last : Socket}
    (reads : w.Reads bytes after) (supplied : Supplied count s w)
    (within : taken ≤ (s.remainingData ++ bytes).length)
    (left : last.remainingData = (s.remainingData ++ bytes).drop taken) :
    last.stream after = (s.stream w).drop taken ∧ Supplied (count - taken) last after := by
  constructor
  · rw [stream, left, stream_eq reads, List.drop_append_of_le_length within]
  · have bound := reads.prompt
    unfold Supplied at supplied ⊢
    rw [left, List.length_drop, List.length_append]
    rw [List.length_append] at within
    omega

theorem receiveNBytes_supplied (ready : s.Readable) (supplied : Supplied count s w)
    (within : sz ≤ count) :
    (s.receiveNBytes w sz).code = 0 ∧
      s.SameSetup (s.receiveNBytes w sz).socket ∧
      (s.receiveNBytes w sz).socket.data = (s.stream w).take sz ∧
      (s.receiveNBytes w sz).socket.stream (s.receiveNBytes w sz).wire = (s.stream w).drop sz ∧
      Supplied (count - sz) (s.receiveNBytes w sz).socket (s.receiveNBytes w sz).wire := by
  have prompt : sz ≤ ([] : Bytes).length + s.remainingData.length +
      (promptBytes w.reads).length := by
    unfold Supplied at supplied
    simp only [List.length_nil]
    omega
  obtain ⟨gathered, readsLoop, content, -⟩ :=
    countLoop_gathers ready (.inr rfl) (by simp) (rfl : s.countLoop sz w [] 0 false = _)
  have enough := countLoop_prompt ready prompt (by simp) (rfl : s.countLoop sz w [] 0 false = _)
  obtain ⟨bytes, reads, ends⟩ := receiveNBytes_cases ready w sz
  have same : gathered = bytes := readsLoop.unique (by rw [← receiveNBytes_wire]; exact reads)
  subst same
  rw [content, List.nil_append] at enough
  rcases ends with ⟨-, code, socket⟩ | ⟨short, code, socket⟩
  · obtain ⟨rest, left⟩ := supplied_rest reads supplied enough
      (show (s.receiveNBytes w sz).socket.remainingData = _ by rw [socket])
    refine ⟨code, ?_, ?_, rest, left⟩
    · rw [socket]
      exact SameSetup.buffers s _ _
    · rw [socket, stream_eq reads, List.take_append_of_le_length enough]
  · omega

/-- The stop marker is compared with the front of the stream; where it differs
nothing is taken, all that was read is in `data`. -/
theorem receiveStopBytes_supplied (ready : s.Readable) (nonempty : pattern ≠ [])
    (supplied : Supplied count s w) (within : pattern.length ≤ count) :
    s.SameSetup (s.receiveStopBytes w pattern).socket ∧
      ((s.stream w).take pattern.length = pattern →
        (s.receiveStopBytes w pattern).code = 0 ∧
        (s.receiveStopBytes w pattern).socket.data = pattern ∧
        (s.receiveStopBytes w pattern).socket.stream (s.receiveStopBytes w pattern).wire =
          (s.stream w).drop pattern.length ∧
        Supplied (count - pattern.length) (s.receiveStopBytes w pattern).socket
          (s.receiveStopBytes w pattern).wire) ∧
      ((s.stream w).take pattern.length ≠ pattern →
        (s.receiveStopBytes w pattern).code = 3 ∧
        (s.receiveStopBytes w pattern).socket.remainingData = [] ∧
        (s.receiveStopBytes w pattern).socket.data ++
          (s.receiveStopBytes w pattern).wire.unread = s.stream w ∧
        count ≤ (s.receiveStopBytes w pattern).socket.data.length +
          (promptBytes (s.receiveStopBytes w pattern).wire.reads).length) := by
  have prompt : pattern.length ≤ ([] : Bytes).length + s.remainingData.length +
      (promptBytes w.reads).length := by
    unfold Supplied at supplied
    simp only [List.length_nil]
    omega
  have positive := List.length_pos_iff.mpr nonempty
  obtain ⟨gathered, readsLoop, content, -⟩ :=
    compareLoop_gathers ready (.inr rfl) (rfl : s.compareLoop pattern w [] = _)
  have enough := compareLoop_prompt ready prompt (rfl : s.compareLoop pattern w [] = _)
  obtain ⟨bytes, reads, ends⟩ := receiveStopBytes_cases ready w pattern
  have same : gathered = bytes := readsLoop.unique (by rw [← receiveStopBytes_wire]; exact reads)
  subst same
  rw [content, List.nil_append] at enough
  have front : (s.stream w).take pattern.length =
      (s.remainingData ++ gathered).take pattern.length := by
    rw [stream_eq reads, List.take_append_of_le_length enough]
  rw [front]
  rcases ends with ⟨-, matched, code, socket⟩ | ⟨socket, ⟨-, short⟩ | ⟨code, -, differs⟩⟩
  · obtain ⟨rest, left⟩ := supplied_rest reads supplied enough
      (show (s.receiveStopBytes w pattern).socket.remainingData = _ by rw [socket])
    refine ⟨by rw [socket]; exact SameSetup.buffers s _ _, fun _ => ?_, fun other => ?_⟩
    · exact ⟨code, by rw [socket], rest, left⟩
    · exact absurd matched other
  · omega
  · have other : (s.remainingData ++ gathered).take pattern.length ≠ pattern := by
      rcases differs with other | empty
      · exact other
      · rw [empty, List.length_nil] at enough
        omega
    refine ⟨by rw [socket]; exact SameSetup.buffers s _ _, fun matched => ?_, fun _ => ?_⟩
    · exact absurd matched other
    · refine ⟨code, by rw [socket], by rw [socket, stream_eq reads], ?_⟩
      have bound := reads.prompt
      unfold Supplied at supplied
      rw [socket]
      simp only [List.length_append]
      omega

theorem searchLoop_reach (ready : s.Readable) (supplied : Supplied count s w) {bytes : Bytes}
    (reads : w.Reads bytes (s.searchLoop pattern w [] 0 0 false).wire)
    (missed : (s.searchLoop pattern w [] 0 0 false).found = false) :
    count ≤ (s.remainingData ++ bytes).length := by
  have prompt : count ≤ ([] : Bytes).length + s.remainingData.length +
      (promptBytes w.reads).length := by
    unfold Supplied at supplied
    simp only [List.length_nil]
    omega
  obtain ⟨gathered, readsLoop, content, -⟩ :=
    searchLoop_gathers ready (rfl : s.searchLoop pattern w [] 0 0 false = _)
  have enough := searchLoop_prompt ready prompt
    (rfl : s.searchLoop pattern w [] 0 0 false = _) missed
  have same : gathered = bytes := readsLoop.unique reads
  subst same
  rw [content, List.nil_append] at enough
  exact enough

theorem occurs_in_gathered {index : Nat} {bytes : Bytes} {after : Wire}
    (reads : w.Reads bytes after) (leftmost : LeftmostAt pattern (s.stream w) index)
    (reach : index + pattern.length ≤ (s.remainingData ++ bytes).length)
    (absent : ∀ index, ¬ OccursAt pattern (s.remainingData ++ bytes) index) : False := by
  rw [stream_eq reads] at leftmost
  exact absent index (leftmost.of_append reach).occurs

theorem leftmost_in_stream (nonempty : pattern ≠ []) {index found : Nat} {bytes : Bytes}
    {after : Wire} (reads : w.Reads bytes after)
    (leftmost : LeftmostAt pattern (s.stream w) index)
    (hit : LeftmostAt pattern (s.remainingData ++ bytes) found) : found = index := by
  rw [stream_eq reads] at leftmost
  exact (hit.append (hit.occurs.fits nonempty)).unique leftmost

theorem receiveStartBytes_supplied (ready : s.Readable) (nonempty : pattern ≠ []) {index : Nat}
    (leftmost : LeftmostAt pattern (s.stream w) index) (supplied : Supplied count s w)
    (within : index + pattern.length ≤ count) :
    (s.receiveStartBytes w pattern).code = 0 ∧
      s.SameSetup (s.receiveStartBytes w pattern).socket ∧
      (s.receiveStartBytes w pattern).socket.data = pattern ∧
      (s.receiveStartBytes w pattern).socket.stream (s.receiveStartBytes w pattern).wire =
        (s.stream w).drop (index + pattern.length) ∧
      Supplied (count - (index + pattern.length)) (s.receiveStartBytes w pattern).socket
        (s.receiveStartBytes w pattern).wire := by
  obtain ⟨bytes, reads, ends⟩ := receiveStartBytes_cases ready w pattern
  rcases ends with ⟨-, found, -, fits, hit, code, socket⟩ | ⟨missed, absent, -⟩
  · have same := leftmost_in_stream nonempty reads leftmost (hit nonempty)
    subst same
    obtain ⟨rest, left⟩ := supplied_rest reads supplied fits
      (show (s.receiveStartBytes w pattern).socket.remainingData = _ by rw [socket])
    exact ⟨code, by rw [socket]; exact SameSetup.buffers s _ _, by rw [socket], rest, left⟩
  · have readsLoop := receiveStartBytes_wire ▸ reads
    have reach := searchLoop_reach ready supplied readsLoop missed
    exact (occurs_in_gathered reads leftmost (by omega) (absent nonempty)).elim

theorem receiveUntillStopBytes_supplied (ready : s.Readable) (nonempty : pattern ≠ [])
    {index : Nat} (leftmost : LeftmostAt pattern (s.stream w) index)
    (supplied : Supplied count s w) (within : index + pattern.length ≤ count) :
    (s.receiveUntillStopBytes w pattern).code = 0 ∧
      s.SameSetup (s.receiveUntillStopBytes w pattern).socket ∧
      (s.receiveUntillStopBytes w pattern).socket.data =
        (s.stream w).take (index + pattern.length) ∧
      (s.receiveUntillStopBytes w pattern).socket.stream
          (s.receiveUntillStopBytes w pattern).wire =
        (s.stream w).drop (index + pattern.length) ∧
      Supplied (count - (index + pattern.length)) (s.receiveUntillStopBytes w pattern).socket
        (s.receiveUntillStopBytes w pattern).wire := by
  have reach : ∀ bytes, w.Reads bytes (s.receiveUntillStopBytes w pattern).wire →
      (s.searchLoop pattern w [] 0 0 false).found = false →
      count ≤ (s.remainingData ++ bytes).length := by
    intro bytes reads missed
    exact searchLoop_reach ready supplied (receiveUntillStopBytes_wire ▸ reads) missed
  obtain ⟨bytes, reads, ends⟩ := receiveUntillStopBytes_cases ready w nonempty
  rcases ends with ⟨-, found, hit, code, socket⟩ | ⟨missed, absent, -⟩ | ⟨missed, absent, -⟩
  · have same := leftmost_in_stream nonempty reads leftmost hit
    subst same
    have fits := hit.occurs.fits nonempty
    obtain ⟨rest, left⟩ := supplied_rest reads supplied fits
      (show (s.receiveUntillStopBytes w pattern).socket.remainingData = _ by rw [socket])
    refine ⟨code, by rw [socket]; exact SameSetup.buffers s _ _, ?_, rest, left⟩
    rw [socket, stream_eq reads, List.take_append_of_le_length fits]
  · have enough := reach bytes reads missed
    exact (occurs_in_gathered reads leftmost (by omega) absent).elim
  · have enough := reach bytes reads missed
    exact (occurs_in_gathered reads leftmost (by omega) absent).elim

end Socket

end SynapTCP
