import SynapTCP.Socket.Counting
import SynapTCP.Socket.Searching

namespace SynapTCP

open Data

/-! # Comparing as counting and then comparing

`receiveStopBytes` gathers until it has as many bytes as the pattern, and
`receiveNBytes` gathers as many bytes; where these come before a failing read, the
two leave the stream at the same place.
-/

namespace Socket

variable {s : Socket} {w : Wire} {pattern tmp : Bytes} {failures : Nat}

/-- What the rounds of `receiveStopBytes` ask for. -/
def lacking (pattern : Bytes) (gathered : Nat) : Nat := pattern.length - gathered

def CompareOver (pattern : Bytes) (progress : Progress) : Prop :=
  pattern.length ≤ progress.tmp.length ∨ 0 < progress.failures

/-- The rounds of the comparing loop, from any of them on. -/
theorem compareLoop_rounds (short : tmp.length < pattern.length) :
    ∃ rounds, EndsAfter (Progress.next (lacking pattern)) (CompareOver pattern)
        ⟨s, w, tmp, 0⟩ rounds ∧
      ((Progress.next (lacking pattern))^[rounds] ⟨s, w, tmp, 0⟩).tmp =
        (s.compareLoop pattern w tmp).tmp := by
  have open_ : ∀ (socket : Socket) (wire : Wire) (bytes : Bytes),
      bytes.length < pattern.length → ¬ CompareOver pattern ⟨socket, wire, bytes, 0⟩ := by
    intro socket wire bytes less halted
    rcases halted with enough | failed
    · exact Nat.not_le_of_lt less enough
    · exact Nat.lt_irrefl 0 failed
  fun_induction compareLoop s pattern w tmp with
  | case1 s w tmp round received longer socket enough =>
      have next : Progress.next (lacking pattern) ⟨s, w, tmp, 0⟩ =
          ⟨socket, round.wire, longer, 0⟩ := next_received received
      refine ⟨1, .succ (open_ s w tmp short) (.zero ?_), ?_⟩
      · rw [next]
        exact .inl enough
      · rw [Function.iterate_one, next]
  | case2 s w tmp round received longer socket lacks ih =>
      have next : Progress.next (lacking pattern) ⟨s, w, tmp, 0⟩ =
          ⟨socket, round.wire, longer, 0⟩ := next_received received
      obtain ⟨rounds, ends, gathered⟩ := ih (by omega)
      refine ⟨rounds + 1, .succ (open_ s w tmp short) ?_, ?_⟩
      · rw [next]
        exact ends
      · rw [Function.iterate_succ_apply, next]
        exact gathered
  | case3 s w tmp round failed =>
      have next : Progress.next (lacking pattern) ⟨s, w, tmp, 0⟩ =
          ⟨round.socket, round.wire, tmp, 1⟩ := next_failed failed
      refine ⟨1, .succ (open_ s w tmp short) (.zero ?_), ?_⟩
      · rw [next]
        exact .inr Nat.one_pos
      · rw [Function.iterate_one, next]

theorem compareOver_next {ask : Nat → Nat} (progress : Progress)
    (halted : CompareOver pattern progress) : CompareOver pattern (progress.next ask) := by
  unfold Progress.next CompareOver
  dsimp only
  split
  · rcases halted with enough | failed
    · refine .inl ?_
      simp only [List.length_append]
      omega
    · exact .inr failed
  · exact .inr (Nat.succ_pos _)

theorem next_tmp_of_failed {ask : Nat → Nat} {progress : Progress}
    (failed : (progress.next ask).failures ≠ progress.failures) :
    (progress.next ask).tmp = progress.tmp := by
  unfold Progress.next at failed ⊢
  dsimp only at failed ⊢
  split
  · rename_i received
    rw [if_pos received] at failed
    contradiction
  · rfl

/-- The call of `receiveData` in the round behind the first `rounds` is the first
to fail, and fewer bytes than the pattern has are there. -/
structure Starved (s : Socket) (w : Wire) (pattern : Bytes) (rounds : Nat) : Prop where
  before : (s.progress w (lacking pattern) rounds).failures = 0
  failed : (s.progress w (lacking pattern) (rounds + 1)).failures = 1
  short : (s.progress w (lacking pattern) rounds).tmp.length < pattern.length

theorem Starved.gathered {rounds : Nat} (starved : Starved s w pattern rounds) :
    (s.compareLoop pattern w []).tmp = (s.progress w (lacking pattern) rounds).tmp := by
  obtain ⟨before, failed, short⟩ := starved
  have first : ([] : Bytes).length < pattern.length := by
    rw [List.length_nil]
    omega
  obtain ⟨count, ends, gathered⟩ := @compareLoop_rounds s w pattern [] first
  have last : count = rounds + 1 := by
    refine ends.eq_succ compareOver_next ?_ ?_
    · intro halted
      rcases halted with enough | early
      · exact Nat.not_le_of_lt short enough
      · exact Nat.ne_of_gt early before
    · refine .inr ?_
      rw [show ((Progress.next (lacking pattern))^[rounds + 1] ⟨s, w, [], 0⟩).failures = 1 from
        failed]
      exact Nat.one_pos
  rw [← gathered, last, Function.iterate_succ_apply']
  apply next_tmp_of_failed
  rw [← Function.iterate_succ_apply' (Progress.next (lacking pattern))]
  unfold progress at before failed
  rw [failed, before]
  exact Nat.one_ne_zero

/-- The inner call fails before enough bytes are there: they are all in `data`. -/
theorem receiveStopBytes_starved (ready : s.Readable) {rounds : Nat}
    (starved : Starved s w pattern rounds) :
    (s.receiveStopBytes w pattern).code = 2 ∧
      (s.receiveStopBytes w pattern).socket.data =
        (s.progress w (lacking pattern) rounds).tmp ∧
      (s.receiveStopBytes w pattern).socket.remainingData = [] ∧
      ∃ bytes, w.Reads bytes (s.receiveStopBytes w pattern).wire ∧
        (s.receiveStopBytes w pattern).socket.data = s.remainingData ++ bytes := by
  have short := starved.short
  have content := starved.gathered
  obtain ⟨gathered, readsLoop, loopTmp, -⟩ :=
    compareLoop_gathers ready (.inr rfl) (rfl : s.compareLoop pattern w [] = _)
  obtain ⟨bytes, reads, ends⟩ := receiveStopBytes_cases ready w pattern
  have same : gathered = bytes := readsLoop.unique (by rw [← receiveStopBytes_wire]; exact reads)
  subst same
  rw [List.nil_append, content] at loopTmp
  rw [loopTmp] at short ⊢
  rcases ends with ⟨enough, -⟩ | ⟨socket, ⟨code, -⟩ | ⟨-, enough, -⟩⟩
  · omega
  · rw [socket]
    exact ⟨code, rfl, rfl, gathered, reads, rfl⟩
  · omega

/-- On streams of the same bytes that supply the pattern's length, however they are
cut, `receiveStopBytes` succeeds exactly if `receiveNBytes` leaves the pattern; it
ends in the same place then, and otherwise keeps in `data` all that it read.  If it
is starved, it keeps in `data` what was gathered until then. -/
theorem receiveStopBytes_counts (ready : s.Readable) (nonempty : pattern ≠ []) :
    (∀ first second : Wire, first.unread = second.unread → Supplied pattern.length s first →
      Supplied pattern.length s second →
      ((s.receiveStopBytes first pattern).code = 0 ↔
        (s.receiveNBytes second pattern.length).socket.data = pattern) ∧
      ((s.receiveStopBytes first pattern).code = 0 →
        (s.receiveStopBytes first pattern).socket.data =
          (s.receiveNBytes second pattern.length).socket.data ∧
        (s.receiveStopBytes first pattern).socket.stream (s.receiveStopBytes first pattern).wire =
          (s.receiveNBytes second pattern.length).socket.stream
            (s.receiveNBytes second pattern.length).wire) ∧
      ((s.receiveStopBytes first pattern).code ≠ 0 →
        (s.receiveStopBytes first pattern).code = 3 ∧
        (s.receiveStopBytes first pattern).socket.remainingData = [] ∧
        (s.receiveStopBytes first pattern).socket.data ++
            (s.receiveStopBytes first pattern).wire.unread =
          (s.receiveNBytes second pattern.length).socket.data ++
            (s.receiveNBytes second pattern.length).socket.stream
              (s.receiveNBytes second pattern.length).wire)) ∧
    (∀ wire rounds, Starved s wire pattern rounds →
      (s.receiveStopBytes wire pattern).code = 2 ∧
        (s.receiveStopBytes wire pattern).socket.data =
          (s.progress wire (lacking pattern) rounds).tmp ∧
        (s.receiveStopBytes wire pattern).socket.remainingData = [] ∧
        ∃ bytes, wire.Reads bytes (s.receiveStopBytes wire pattern).wire ∧
          (s.receiveStopBytes wire pattern).socket.data = s.remainingData ++ bytes) := by
  refine ⟨?_, fun wire rounds starved => receiveStopBytes_starved ready starved⟩
  intro first second same suppliedFirst suppliedSecond
  have streams : s.stream second = s.stream first := by
    unfold stream
    rw [same]
  obtain ⟨-, -, counted, behind, -⟩ :=
    receiveNBytes_supplied ready suppliedSecond (Nat.le_refl _)
  obtain ⟨-, matches_, differs⟩ :=
    receiveStopBytes_supplied ready nonempty suppliedFirst (Nat.le_refl _)
  rw [streams] at counted behind
  by_cases front : (s.stream first).take pattern.length = pattern
  · obtain ⟨code, data, rest, -⟩ := matches_ front
    refine ⟨?_, fun _ => ⟨?_, ?_⟩, fun failed => absurd code failed⟩
    · rw [counted]
      exact iff_of_true code front
    · rw [data, counted, front]
    · rw [rest, behind]
  · obtain ⟨code, empty, kept, -⟩ := differs front
    have failed : (s.receiveStopBytes first pattern).code ≠ 0 := by
      rw [code]
      decide
    refine ⟨?_, fun received => absurd received failed, fun _ => ⟨code, empty, ?_⟩⟩
    · rw [counted]
      exact iff_of_false failed front
    · rw [kept, counted, behind, List.take_append_drop]

/-- The bytes of `straddling` in other pieces, with a failing read behind them. -/
def whole : Wire where
  polls := []
  reads := [.chunk (.of 7 [3, 3, 5]), .failed]
  stray := 0

theorem receiveStopBytes_counts_straddling :
    (plainPort.receiveNBytes whole 3).socket.data = [7, 3, 3] ∧
      (plainPort.receiveStopBytes straddling [7, 3, 3]).code = 0 := by
  obtain ⟨segmented, -⟩ := @receiveStopBytes_counts plainPort [7, 3, 3] plainPort_readable (by decide)
  obtain ⟨counted, -⟩ := segmented straddling whole (by decide) (by decide) (by decide)
  have received : (plainPort.receiveStopBytes straddling [7, 3, 3]).code = 0 := by decide +kernel
  exact ⟨counted.mp received, received⟩

end Socket

end SynapTCP
