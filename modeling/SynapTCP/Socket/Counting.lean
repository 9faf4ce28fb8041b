import SynapTCP.Data.Rounds
import SynapTCP.Locks.Receiving
import SynapTCP.Socket.Prompt

namespace SynapTCP

open Data

/-! # The rounds of the gathering loops

`receiveNBytes` and `receiveStopBytes` repeat one round; they differ in how much
it asks for and in when they give up.  Here the rounds are repeated without any
end, and each operation stops at the first of them that ends its loop.
-/

/-- Between two rounds: what has been gathered, and how many `receiveData` calls
have failed. -/
structure Progress where
  socket : Socket
  wire : Wire
  tmp : Bytes
  failures : Nat

/-- One round; `ask` is the size it asks for when so many bytes are there. -/
def Progress.next (ask : Nat → Nat) (progress : Progress) : Progress :=
  let round := progress.socket.fetch progress.wire (ask progress.tmp.length)
  if round.code = 0 then
    ⟨{ round.socket with remainingData := [] }, round.wire,
      progress.tmp ++ round.socket.data ++ round.socket.remainingData, progress.failures⟩
  else ⟨round.socket, round.wire, progress.tmp, progress.failures + 1⟩

/-- The failing calls that `receiveNBytes` puts up with: its counter is armed by
the first bytes. -/
def budget (tmp : Bytes) : Nat := if tmp = [] then 1 else 3

def Progress.Spent (progress : Progress) : Prop := budget progress.tmp ≤ progress.failures

/-- What the operations ask `receiveData` for always comes unsplit. -/
def Inner.fails : Inner → Bool
  | .receiveData socket wire sz => (socket.receiveData wire sz true).code ≠ 0
  | .getBuffer _ => false

def ReadResult.isChunk : ReadResult → Bool
  | .chunk _ => true
  | .failed => false

/-- The chunks still to come. -/
def Wire.chunks (wire : Wire) : Nat := wire.reads.countP ReadResult.isChunk

theorem Wire.Reads.chunks_le {before after : Wire} {bytes : Bytes}
    (reads : before.Reads bytes after) : after.chunks ≤ before.chunks := by
  obtain ⟨taken, split, -⟩ := reads
  simp only [Wire.chunks, split, List.countP_append]
  omega

theorem delivered_of_no_chunk {reads : List ReadResult}
    (none : reads.countP ReadResult.isChunk = 0) : delivered reads = [] := by
  induction reads with
  | nil => rfl
  | cons read reads ih =>
      cases read with
      | failed => exact ih (by simpa [ReadResult.isChunk] using none)
      | chunk piece => simp [ReadResult.isChunk] at none

theorem Wire.Reads.chunks_lt {before after : Wire} {bytes : Bytes}
    (reads : before.Reads bytes after) (some : bytes ≠ []) : after.chunks < before.chunks := by
  obtain ⟨taken, split, handed⟩ := reads
  have positive : taken.countP ReadResult.isChunk ≠ 0 := by
    intro none
    exact some (by rw [← handed, delivered_of_no_chunk none])
  simp only [Wire.chunks, split, List.countP_append]
  omega

namespace Socket

variable {s : Socket} {w : Wire} {sz : Nat} {pattern tmp : Bytes} {ask : Nat → Nat}
  {failures : Nat}

/-- Where the rounds of a call get to. -/
def progress (s : Socket) (w : Wire) (ask : Nat → Nat) (rounds : Nat) : Progress :=
  (Progress.next ask)^[rounds] ⟨s, w, [], 0⟩

/-- `sz` bytes are there before the failing calls use up the budget. -/
def ReachedInBudget (s : Socket) (w : Wire) (sz : Nat) : Prop :=
  ∃ rounds, sz ≤ (s.progress w (fun _ => sz) rounds).tmp.length ∧
    ∀ earlier < rounds, ¬ (s.progress w (fun _ => sz) earlier).Spent

/-- The calls of `receiveData` in a round that has nothing left over to take. -/
theorem fetchInner_countP :
    (s.fetchInner w sz).countP Inner.fails = if (s.fetch w sz).code = 0 then 0 else 1 := by
  unfold fetchInner fetch
  split
  · rfl
  · by_cases received : (s.receiveData w sz true).code = 0
    · simp [Inner.fails, received]
    · simp [Inner.fails, received]

theorem fetchInner_length (ready : s.Readable) :
    (s.fetchInner w sz).length + (s.fetch w sz).wire.chunks ≤
      w.chunks + (s.fetchInner w sz).countP Inner.fails := by
  rw [fetchInner_countP]
  rcases fetch_cases ready w sz with ⟨bytes, reads, code, some, -⟩ | ⟨reads, code, -, -⟩
  · rw [if_pos code]
    have bound := reads.chunks_le
    unfold fetchInner
    split
    · simpa using bound
    · rename_i empty
      have less := reads.chunks_lt (by
        have nothing : s.remainingData = [] := by simpa using empty
        simpa [nothing] using some)
      simp only [List.length_singleton]
      omega
  · rw [if_neg (by omega)]
    have bound := reads.chunks_le
    unfold fetchInner
    split <;> simp only [List.length_nil, List.length_singleton] <;> omega

/-- From `start` on the counting loop makes `rounds` rounds and the calls `calls`. -/
structure Counts (sz : Nat) (start : Progress) (rounds : Nat) (last : Gathering)
    (calls : List Inner) : Prop where
  ends : EndsAfter (Progress.next fun _ => sz)
    (fun progress => sz ≤ progress.tmp.length ∨ progress.Spent) start rounds
  tmp : ((Progress.next fun _ => sz)^[rounds] start).tmp = last.tmp
  failures : ((Progress.next fun _ => sz)^[rounds] start).failures =
    start.failures + calls.countP Inner.fails
  frugal : start.failures + calls.countP Inner.fails ≤ budget last.tmp
  calls : calls.length ≤ start.wire.chunks + calls.countP Inner.fails

theorem Counts.zero {start : Progress} {last : Gathering} (same : start.tmp = last.tmp)
    (halted : sz ≤ start.tmp.length ∨ start.Spent) (within : start.failures ≤ budget start.tmp) :
    Counts sz start 0 last [] where
  ends := .zero halted
  tmp := same
  failures := rfl
  frugal := by
    rw [← same]
    exact within
  calls := Nat.zero_le _

theorem Counts.succ (ready : s.Readable) {rounds : Nat} {last : Gathering} {calls : List Inner}
    (short : tmp.length < sz) (unspent : failures < budget tmp)
    (rest : Counts sz (Progress.next (fun _ => sz) ⟨s, w, tmp, failures⟩) rounds last calls) :
    Counts sz ⟨s, w, tmp, failures⟩ (rounds + 1) last (s.fetchInner w sz ++ calls) := by
  have failed : (Progress.next (fun _ => sz) ⟨s, w, tmp, failures⟩).failures =
      failures + (s.fetchInner w sz).countP Inner.fails := by
    rw [fetchInner_countP]
    unfold Progress.next
    dsimp only
    split <;> rfl
  have wire : (Progress.next (fun _ => sz) ⟨s, w, tmp, failures⟩).wire = (s.fetch w sz).wire := by
    unfold Progress.next
    dsimp only
    split <;> rfl
  have made := @fetchInner_length s w sz ready
  obtain ⟨ends, gathered, count, frugal, bound⟩ := rest
  rw [failed] at count frugal
  rw [wire] at bound
  refine ⟨.succ ?_ ends, ?_, ?_, ?_, ?_⟩
  · intro halted
    rcases halted with enough | spent
    · exact Nat.not_le_of_lt short enough
    · exact Nat.not_le_of_lt unspent spent
  · exact gathered
  · rw [Function.iterate_succ_apply, count, List.countP_append]
    dsimp only
    omega
  · rw [List.countP_append]
    dsimp only
    omega
  · rw [List.length_append, List.countP_append]
    dsimp only
    omega

theorem next_received (received : (s.fetch w (ask tmp.length)).code = 0) :
    Progress.next ask ⟨s, w, tmp, failures⟩ =
      ⟨{ (s.fetch w (ask tmp.length)).socket with remainingData := [] },
        (s.fetch w (ask tmp.length)).wire,
        tmp ++ (s.fetch w (ask tmp.length)).socket.data ++
          (s.fetch w (ask tmp.length)).socket.remainingData, failures⟩ := by
  unfold Progress.next
  dsimp only
  rw [if_pos received]

theorem next_failed (failed : (s.fetch w (ask tmp.length)).code ≠ 0) :
    Progress.next ask ⟨s, w, tmp, failures⟩ =
      ⟨(s.fetch w (ask tmp.length)).socket, (s.fetch w (ask tmp.length)).wire, tmp,
        failures + 1⟩ := by
  unfold Progress.next
  dsimp only
  rw [if_neg failed]

/-- What has come is never taken back, so the budget does not shrink. -/
theorem budget_append {more rest : Bytes} (unspent : failures < budget tmp) :
    failures < budget (tmp ++ more ++ rest) := by
  unfold budget at unspent ⊢
  split at unspent
  · split <;> omega
  · rename_i some
    rw [if_neg (by simp [some])]
    exact unspent

theorem unspent_of_armed {tryTimes : Nat} {begun : Bool}
    (armed : begun = true → tmp ≠ [] ∧ 0 < tryTimes ∧ tryTimes + failures = 3)
    (unarmed : begun = false → tmp = [] ∧ failures = 0) : failures < budget tmp := by
  unfold budget
  cases begun with
  | false =>
      obtain ⟨empty, none⟩ := unarmed rfl
      rw [if_pos empty]
      omega
  | true =>
      obtain ⟨some, positive, tries⟩ := armed rfl
      rw [if_neg some]
      omega

/-- The counter of the loop is what the budget leaves. -/
theorem countLoop_counts (ready : s.Readable) (short : tmp.length < sz) {tryTimes : Nat}
    {begun : Bool} (armed : begun = true → tmp ≠ [] ∧ 0 < tryTimes ∧ tryTimes + failures = 3)
    (unarmed : begun = false → tmp = [] ∧ failures = 0) :
    ∃ rounds, Counts sz ⟨s, w, tmp, failures⟩ rounds (s.countLoop sz w tmp tryTimes begun)
      (s.countLoopInner sz w tmp tryTimes begun) := by
  fun_induction countLoop s sz w tmp tryTimes begun generalizing failures with
  | case1 s w tmp tryTimes begun round received longer socket =>
      rename_i enough
      have calls : s.countLoopInner sz w tmp tryTimes begun = s.fetchInner w sz ++ [] := by
        rw [countLoopInner]
        dsimp only
        rw [dif_pos received, if_pos enough]
      have next : Progress.next (fun _ => sz) ⟨s, w, tmp, failures⟩ =
          ⟨socket, round.wire, longer, failures⟩ := next_received received
      have unspent := unspent_of_armed armed unarmed
      rw [calls]
      refine ⟨1, .succ ready short unspent ?_⟩
      rw [next]
      exact .zero rfl (.inl enough) (Nat.le_of_lt (budget_append unspent))
  | case2 s w tmp tryTimes begun round received tries longer socket lacking =>
      rename_i left ih
      have leftHere : 0 < if begun = true then tryTimes else 3 := left
      have calls : s.countLoopInner sz w tmp tryTimes begun =
          s.fetchInner w sz ++ socket.countLoopInner sz round.wire longer tries true := by
        rw [countLoopInner]
        dsimp only
        rw [dif_pos received, if_neg lacking, if_pos leftHere]
        rfl
      have next : Progress.next (fun _ => sz) ⟨s, w, tmp, failures⟩ =
          ⟨socket, round.wire, longer, failures⟩ := next_received received
      have unspent := unspent_of_armed armed unarmed
      obtain ⟨bytes, -, some, -, stays, (grown : longer = _)⟩ := fetch_received ready received tmp
      have begins : longer ≠ [] := by
        rw [grown, List.append_assoc]
        simp [some]
      have armedNow : tries + failures = 3 := by
        simp only [tries]
        split
        · rename_i again
          exact (armed again).2.2
        · rename_i first
          have none := (unarmed (by simpa using first)).2
          omega
      obtain ⟨rounds, counts⟩ := ih stays (by omega) (fun _ => ⟨begins, left, armedNow⟩)
        (fun never => by contradiction)
      rw [calls]
      refine ⟨rounds + 1, .succ ready short unspent ?_⟩
      rw [next]
      exact counts
  | case3 s w tmp tryTimes begun round received tries longer socket lacking =>
      rename_i spent
      exfalso
      apply spent
      simp only [tries]
      split
      · rename_i again
        exact (armed again).2.1
      · decide
  | case4 s w tmp tryTimes begun round failed again =>
      rename_i ih
      have calls : s.countLoopInner sz w tmp tryTimes begun =
          s.fetchInner w sz ++ round.socket.countLoopInner sz round.wire tmp (tryTimes - 1) begun := by
        rw [countLoopInner]
        dsimp only
        rw [dif_neg failed, dif_pos again]
      have next : Progress.next (fun _ => sz) ⟨s, w, tmp, failures⟩ =
          ⟨round.socket, round.wire, tmp, failures + 1⟩ := next_failed failed
      have unspent := unspent_of_armed armed unarmed
      obtain ⟨-, -, -, (fetched : round.socket = _)⟩ := fetch_missed ready failed
      have stays : round.socket.Readable := by
        rw [fetched]
        exact ⟨ready.opened, ready.connected⟩
      obtain ⟨some, -, tries⟩ := armed again.1
      have armedNow : tryTimes - 1 + (failures + 1) = 3 := by
        have left := again.2
        omega
      obtain ⟨rounds, counts⟩ := ih stays short (fun _ => ⟨some, again.2, armedNow⟩)
        (fun never => by simp [again.1] at never)
      rw [calls]
      refine ⟨rounds + 1, .succ ready short unspent ?_⟩
      rw [next]
      exact counts
  | case5 s w tmp tryTimes begun round failed =>
      rename_i spent
      have calls : s.countLoopInner sz w tmp tryTimes begun = s.fetchInner w sz ++ [] := by
        rw [countLoopInner]
        dsimp only
        rw [dif_neg failed, dif_neg spent]
      have next : Progress.next (fun _ => sz) ⟨s, w, tmp, failures⟩ =
          ⟨round.socket, round.wire, tmp, failures + 1⟩ := next_failed failed
      have unspent := unspent_of_armed armed unarmed
      have used : failures + 1 = budget tmp := by
        unfold budget at unspent ⊢
        cases begun with
        | false =>
            obtain ⟨empty, none⟩ := unarmed rfl
            rw [if_pos empty, none]
        | true =>
            obtain ⟨some, positive, tries⟩ := armed rfl
            rw [if_neg some]
            simp only [true_and, not_lt] at spent
            omega
      rw [calls]
      refine ⟨1, .succ ready short unspent ?_⟩
      rw [next]
      exact .zero rfl (.inr (Nat.le_of_eq used.symm)) (Nat.le_of_eq used)

theorem Readable.of_plain (opened : 0 < s.sockFd) (plain : s.useSSL = false) : s.Readable where
  opened := opened
  connected := by
    rw [plain]
    rfl

/-- `receiveNBytes` on an open plain socket.  With `bytes` read behind what was left
over, it makes one failing call if that is nothing at all and up to three otherwise;
it succeeds exactly if enough comes before these are used up; and the number of its
calls is bounded by the chunks that are to come. -/
theorem receiveNBytes_budget (opened : 0 < s.sockFd) (plain : s.useSSL = false)
    (positive : 0 < sz) (w : Wire) :
    ∃ bytes, w.Reads bytes (s.receiveNBytes w sz).wire ∧
      (s.receiveNBytesInner w sz).countP Inner.fails ≤
        (if s.remainingData ++ bytes = [] then 1 else 3) ∧
      ((s.receiveNBytes w sz).code = 0 ↔ s.ReachedInBudget w sz) ∧
      ((s.receiveNBytes w sz).code = 0 →
        sz ≤ (s.remainingData ++ bytes).length ∧
        (s.receiveNBytes w sz).socket.data = (s.remainingData ++ bytes).take sz ∧
        (s.receiveNBytes w sz).socket.data ++ (s.receiveNBytes w sz).socket.remainingData =
          s.remainingData ++ bytes) ∧
      ((s.receiveNBytes w sz).code ≠ 0 →
        (s.receiveNBytes w sz).code = 2 ∧
        (s.receiveNBytes w sz).socket.data = s.remainingData ++ bytes ∧
        (s.remainingData ++ bytes).length < sz ∧
        (s.receiveNBytes w sz).socket.remainingData = []) ∧
      (s.receiveNBytesInner w sz).length ≤ w.chunks + 3 := by
  have ready := Readable.of_plain opened plain
  obtain ⟨gathered, readsLoop, content, -⟩ :=
    countLoop_gathers ready (.inr rfl) (by simp) (rfl : s.countLoop sz w [] 0 false = _)
  obtain ⟨rounds, counts⟩ := @countLoop_counts s w sz [] 0 ready positive 0 false
    (fun never => by contradiction) (fun _ => ⟨rfl, rfl⟩)
  obtain ⟨bytes, reads, ends⟩ := receiveNBytes_cases ready w sz
  have same : gathered = bytes := readsLoop.unique (by rw [← receiveNBytes_wire]; exact reads)
  subst same
  rw [List.nil_append] at content
  have frugal := counts.frugal
  rw [content, Nat.zero_add] at frugal
  have within : budget (s.remainingData ++ gathered) ≤ 3 := by
    unfold budget
    split <;> omega
  have reached : sz ≤ (s.remainingData ++ gathered).length ↔ s.ReachedInBudget w sz := by
    have goal := counts.ends.reached_iff
    rw [counts.tmp, content] at goal
    exact goal
  have calls := counts.calls
  refine ⟨gathered, reads, frugal, ?_, ?_, ?_, ?_⟩
  · rw [← reached]
    rcases ends with ⟨enough, code, -⟩ | ⟨short, code, -⟩
    · exact ⟨fun _ => enough, fun _ => code⟩
    · rw [code]
      constructor
      · intro never
        contradiction
      · intro enough
        omega
  · intro received
    rcases ends with ⟨enough, code, socket⟩ | ⟨short, code, socket⟩
    · rw [socket]
      exact ⟨enough, rfl, List.take_append_drop sz _⟩
    · rw [code] at received
      contradiction
  · intro failed
    rcases ends with ⟨enough, code, socket⟩ | ⟨short, code, socket⟩
    · contradiction
    · rw [socket]
      exact ⟨code, rfl, short, rfl⟩
  · unfold receiveNBytesInner
    exact Nat.le_trans calls (Nat.add_le_add_left (Nat.le_trans frugal within) _)

/-- Two failing reads between the bytes, with one byte left over before. -/
def halting : Wire where
  polls := []
  reads := [.failed, .chunk (.of 2 []), .failed,
    .chunk (.of 3 [4])]
  stray := 0

def begunPort : Socket := { Socket.new with sockFd := 3, remainingData := [1] }

/-- The third failing call does not come. -/
theorem receiveNBytes_budget_halting :
    begunPort.ReachedInBudget halting 3 ∧ (begunPort.receiveNBytes halting 3).code = 0 := by
  obtain ⟨-, -, -, reached, -⟩ :=
    @receiveNBytes_budget begunPort 3 (by decide) rfl (by decide) halting
  have received : (begunPort.receiveNBytes halting 3).code = 0 := by decide +kernel
  exact ⟨reached.mp received, received⟩

end Socket

end SynapTCP
