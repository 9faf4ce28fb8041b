import SynapTCP.Frame.Soundness

namespace SynapTCP

open Data DataFrame SynapSock

/-! # A failed framed receive

Where the loop is left, the elements before `tmp`, the buffer and what is left
over hold the bytes there were, unless the pass that leaves it counts some twice.
-/

namespace Framing

variable {F : Type} [DataFrame F] {framing last done : Framing F} {ret : Nat}
  {bytes skipped doubled total skip : Bytes}

/-- The pass from `framing` leaves the loop with `ret` at `last`. -/
structure Exit (framing : Framing F) (ret : Nat) (last : Framing F)
    (bytes skipped doubled : Bytes) : Prop where
  reads : framing.wire.Reads bytes last.wire
  rewrites : Rewrites framing.tmp framing.sock.frameFormat last.sock.frameFormat
  forward : framing.tmp ≤ last.tmp
  inside : last.tmp < last.sock.frameFormat.length
  stored : dataFail last.sock.frameFormat last.tmp =
    dataFail framing.sock.frameFormat framing.tmp ++ doubled
  skipping : Skips framing bytes skipped
  handed : (ret = 4 → ¬ framing.Overrun) →
    (¬ Receivable framing.entered.sock.frameFormat framing.tmp → framing.sock.data = []) →
    framing.sock.remainingData ++ bytes = skipped ++ last.sock.data ++ last.sock.remainingData
  excess : (framing.sock.remainingData ++ bytes).length ≤
    skipped.length + last.sock.data.length + last.sock.remainingData.length
  doubling : doubled ≠ [] ↔ ret = 4 ∧ framing.Doubles

theorem Doubles.inside (doubles : framing.Doubles) :
    framing.tmp < framing.sock.frameFormat.length := by
  obtain ⟨f, next, free, -⟩ := doubles
  simpa [entered] using (List.getElem?_eq_some_iff.mp free.here).1

/-- What is taken past the end is content that the field did not have. -/
theorem Overrun.doubles (ready : framing.sock.Readable) (overrun : framing.Overrun) :
    framing.Doubles := by
  obtain ⟨f, next, free, served, missed⟩ := overrun
  refine ⟨f, next, free, served, ?_⟩
  have enteredReady : framing.entered.sock.Readable := by simpa using ready
  obtain ⟨bytes, -, ends⟩ :=
    Socket.receiveUntillStopBytes_cases enteredReady framing.entered.wire free.nonempty
  rcases ends with ⟨found, -⟩ | ⟨-, -, -, code, -⟩ | ⟨-, -, past, -, stray, socket⟩
  · rw [missed] at found
    contradiction
  · have both := served.symm.trans code
    contradiction
  · have came : (framing.freeReception next).socket.data =
        framing.entered.sock.remainingData ++ bytes ++ [stray] := by
      rw [freeReception, socket]
    rw [came, List.length_append, List.length_singleton]
    omega

variable [LawfulDataFrame F]

theorem Course.exit (course : Course framing total skip)
    (more : framing.tmp < framing.sock.frameFormat.length)
    (left : framing.pass = .leave ret last) :
    ∃ bytes skipped doubled, Exit framing ret last bytes skipped doubled := by
  have entering := entered_rewrites course.considerate
  have same : dataFail framing.entered.sock.frameFormat framing.tmp =
      dataFail framing.sock.frameFormat framing.tmp :=
    dataFail_rewrites entering (Nat.le_refl _)
  have inside : framing.tmp < framing.entered.sock.frameFormat.length := by
    rw [entering.length]
    exact more
  rcases pass_cases course.ready course.considerate more with
    ⟨bytes, skipped, added, doubled, done, account, went | vetoed⟩ | ⟨bytes, wire, reads, failed⟩ |
    ⟨odd, unread⟩
  · rw [went] at left
    contradiction
  · rw [vetoed] at left
    cases left
    refine ⟨bytes, skipped, doubled, account.reads, account.rewrites, account.forward,
      account.within, account.held, account.skipping, ?_, ?_, ?_⟩
    · intro found _
      exact account.handed (found rfl)
    · by_cases overrun : framing.Overrun
      · have short := account.overran overrun
        omega
      · rw [account.handed overrun, List.length_append, List.length_append]
    · rw [account.doubling]
      exact ⟨fun doubles => ⟨rfl, doubles⟩, fun doubles => doubles.2⟩
  · rw [failed] at left
    cases left
    refine ⟨bytes, [], [], reads, entering, by simp, by simpa using inside,
      by simpa using same, fun some => absurd rfl some, ?_, by simp, ?_⟩
    · intro _ _
      simp
    · constructor
      · intro some
        exact absurd rfl some
      · intro bad
        exact absurd bad.1 (by decide)
  · rw [unread] at left
    cases left
    refine ⟨[], [], [], by simpa using Wire.Reads.refl _, entering, by simp,
      by simpa using inside, by simpa using same, fun some => absurd rfl some, ?_, by simp, ?_⟩
    · intro _ clean
      simp [clean odd]
    · constructor
      · intro some
        exact absurd rfl some
      · intro given
        obtain ⟨-, f, next, free, -⟩ := given
        exact absurd free.receivable odd

end Framing

namespace SynapSock

variable {F : Type} [DataFrame F] {sock : SynapSock F} {w : Wire} {r : FramedReception F}
  {ret : Nat} {framing last : Framing F} {bytes total skip skipped doubled : Bytes}

/-- `data` and `remainingData` hold all of `total` but a prefix, and a prefix only
in front of a start marker that was matched. -/
def Conserved (format : List F) (total data remainingData : Bytes) : Prop :=
  ∃ skip, total = skip ++ data ++ remainingData ∧
    (skip ≠ [] → ∃ f, format.head? = some f ∧ getType f = .startBytes ∧ getReference f ≠ [] ∧
      ∃ index, OccursAt (getReference f) total index)

/-- No fixed field is passed that was cut off. -/
def Unstarved (sock : SynapSock F) (w : Wire) : Prop :=
  ∀ framing next, (sock.opening w).Reaches framing → framing.Onward next → ¬ framing.Starved

/-- The ways in which a failed call gets the bytes wrong are not met. -/
structure Faultless (sock : SynapSock F) (w : Wire) : Prop where
  kept : ∀ framing next, (sock.opening w).Reaches framing → framing.Onward next →
    ¬ framing.Loses
  found : ∀ framing next, (sock.opening w).Reaches framing → framing.Onward next →
    ¬ framing.Overrun
  once : ∀ framing last, (sock.opening w).Reaches framing → framing.pass = .leave 4 last →
    ¬ framing.Doubles
  fresh : Framing.Receivable (sock.opening w).entered.sock.frameFormat 0 ∨ sock.data = []

/-- Behind a failure the buffers hold what the elements before `tmp` held, and
after it what was in the buffers already. -/
theorem conclude_failure (failed : ret ≠ 0) (inside : last.tmp < last.sock.frameFormat.length)
    (concluded : conclude ret last = some r) :
    r.sock.data ++ r.sock.remainingData = dataFail last.sock.frameFormat last.tmp ++
      (last.sock.data ++ last.sock.remainingData) := by
  unfold conclude at concluded
  rw [if_neg failed, List.getElem?_eq_getElem inside] at concluded
  dsimp only at concluded
  split at concluded
  · split at concluded
    · contradiction
    · rename_i first rest kept
      cases concluded
      rw [kept]
      rfl
  · cases concluded
    simp

theorem reaches_head (reaches : (sock.opening w).Reaches framing) (head : framing.tmp = 0)
    (course : Framing.Course (sock.opening w) total skip) [LawfulDataFrame F] :
    framing = sock.opening w := by
  cases reaches with
  | refl => rfl
  | tail reached onward =>
      obtain ⟨_, _, -, courseThere, -⟩ := Framing.Reaches.course course reached
      obtain ⟨_, _, _, _, done, -, rfl⟩ := courseThere.onward onward
      exact absurd head (Nat.succ_ne_zero _)

theorem receiveFramedData_failure (received : sock.receiveFramedData w = some r)
    (failed : r.code = 2 ∨ r.code = 4) :
    ∃ framing last, (sock.opening w).Reaches framing ∧
      framing.tmp < framing.sock.frameFormat.length ∧
      framing.pass = .leave r.code last ∧ framing.frameLoop = (r.code, last) ∧
      conclude r.code last = some r := by
  unfold receiveFramedData at received
  split at received
  · cases received
    exact absurd failed (by simp)
  · dsimp only at received
    generalize ended : (sock.opening w).frameLoop = result at received
    obtain ⟨ret, last⟩ := result
    obtain ⟨rfl, -⟩ := conclude_code received
    rcases Framing.frameLoop_reaches ended with ⟨zero, -⟩ | ⟨framing, reaches, more, left⟩
    · rcases failed with two | four
      · rw [zero] at two
        contradiction
      · rw [zero] at four
        contradiction
    · exact ⟨framing, last, reaches, more, left, reaches.frameLoop_eq.trans ended, received⟩

/-- Nothing amiss on the way and at the exit: the bytes are all there. -/
theorem conserved_of_exit (course : Framing.Course framing total skip)
    (rewrites : Rewrites 0 sock.frameFormat framing.sock.frameFormat)
    (balanced : Framing.Balanced framing total skip)
    (exit : framing.Exit ret last bytes skipped []) (failed : ret ≠ 0)
    (found : ret = 4 → ¬ framing.Overrun)
    (clean : ¬ Framing.Receivable framing.entered.sock.frameFormat framing.tmp →
      framing.sock.data = [])
    (concluded : conclude ret last = some r) :
    Conserved sock.frameFormat (total ++ bytes) r.sock.data r.sock.remainingData := by
  have handed := exit.handed found clean
  have held := conclude_failure failed exit.inside concluded
  rw [exit.stored, List.append_nil] at held
  refine ⟨skip ++ skipped, ?_, ?_⟩
  · calc
      total ++ bytes = skip ++ dataFail framing.sock.frameFormat framing.tmp ++
          (framing.sock.remainingData ++ bytes) := by
        rw [balanced]
        simp only [List.append_assoc]
      _ = skip ++ (dataFail framing.sock.frameFormat framing.tmp ++ skipped) ++
          (last.sock.data ++ last.sock.remainingData) := by
        rw [handed]
        simp only [List.append_assoc]
      _ = skip ++ skipped ++ (dataFail framing.sock.frameFormat framing.tmp ++
          (last.sock.data ++ last.sock.remainingData)) := by
        rw [course.skipped_comm exit.skipping]
        simp only [List.append_assoc]
      _ = skip ++ skipped ++ r.sock.data ++ r.sock.remainingData := by
        rw [← held]
        simp only [List.append_assoc]
  · intro headed
    obtain ⟨f, here, type, nonempty, leftmost⟩ :=
      course.lead_after (Rewrites.refl 0 _) exit.skipping headed
    obtain ⟨g, there, same, -⟩ := rewrites.element here
    exact ⟨g, by rw [List.head?_eq_getElem?]; exact there, by rw [← same.type, type],
      by rw [← same.reference]; exact nonempty, _, by rw [← same.reference]; exact leftmost.occurs⟩

variable [LawfulDataFrame F]

/-- More in the buffers than there was: some of it has been counted twice, or
taken from past the end. -/
theorem not_conserved_of_exit {gap : Nat} (course : Framing.Course framing total skip)
    (behind : Framing.Behind gap framing total skip)
    (fits : ∀ i < framing.tmp, Fits framing.sock.frameFormat i)
    (exit : framing.Exit ret last bytes skipped doubled) (failed : ret ≠ 0)
    (concluded : conclude ret last = some r) (extra : 0 < gap + doubled.length) :
    ¬ Conserved sock.frameFormat (total ++ bytes) r.sock.data r.sock.remainingData := by
  intro given
  obtain ⟨lead, split, -⟩ := given
  have held := conclude_failure failed exit.inside concluded
  have there := behind fits
  have excess := exit.excess
  have width := congrArg List.length split
  have heldWidth := congrArg List.length held
  rw [exit.stored] at heldWidth
  simp only [List.length_append] at excess width heldWidth
  have shorter : lead.length < (skip ++ skipped).length := by
    rw [List.length_append]
    omega
  obtain ⟨f, here, type, nonempty, leftmost⟩ :=
    course.lead_after exit.rewrites exit.skipping (List.ne_nil_of_length_pos (by omega))
  -- Something has been stored before the exit, so the marker stands at the front of it.
  have past : 0 < last.tmp := by
    rcases Nat.eq_zero_or_pos last.tmp with zero | positive
    · have stored := congrArg List.length exit.stored
      rw [zero, dataFail_zero, List.length_append, List.length_nil] at stored
      have head : framing.tmp = 0 := by
        have forward := exit.forward
        omega
      obtain ⟨none, whole⟩ := course.fresh head
      rw [none, whole, head, dataFail_zero] at there
      simp only [List.length_nil] at there
      omega
    · exact positive
  have content : getData f = getReference f :=
    LawfulDataFrame.getData_marker f (by rw [type]; rfl)
  have front : getReference f <+: dataFail last.sock.frameFormat last.tmp := by
    cases format : last.sock.frameFormat with
    | nil => simp [format] at here
    | cons g rest =>
        have head : g = f := by simpa [format] using here
        obtain ⟨i, position⟩ := Nat.exists_eq_succ_of_ne_zero (Nat.ne_of_gt past)
        rw [position, dataFail, List.take_succ_cons, List.flatMap_cons, head, content]
        exact List.prefix_append _ _
  have occurs : OccursAt (getReference f) (total ++ bytes) lead.length := by
    unfold OccursAt
    rw [split, List.append_assoc, List.drop_left, held]
    exact front.trans (List.prefix_append _ _)
  exact absurd (leftmost.le_of_occursAt occurs) (by omega)

omit [LawfulDataFrame F] in
theorem exit_behind {next : Framing F} (onward : framing.Onward next)
    (ended : framing.frameLoop = (ret, last)) (failed : ret ≠ 0) :
    ∃ before, next.Reaches before ∧ before.tmp < before.sock.frameFormat.length ∧
      before.pass = .leave ret last := by
  rcases Framing.frameLoop_reaches ended with ⟨zero, -⟩ | ⟨before, reaches, more, left⟩
  · exact absurd zero failed
  · rcases reaches.cases_head with same | ⟨other, first, rest⟩
    · rw [← same, onward.2] at left
      contradiction
    · have same := onward.2.symm.trans first.2
      cases same
      exact ⟨before, rest, more, left⟩

theorem Faultless.conserved (faultless : sock.Faultless w)
    (opening : Framing.Course (sock.opening w) sock.remainingData [])
    (reaches : (sock.opening w).Reaches framing)
    (more : framing.tmp < framing.sock.frameFormat.length)
    (left : framing.pass = .leave ret last) (failed : ret ≠ 0)
    (concluded : conclude ret last = some r) :
    ∃ bytes, w.Reads bytes last.wire ∧
      Conserved sock.frameFormat (sock.remainingData ++ bytes) r.sock.data r.sock.remainingData := by
  obtain ⟨bytes, skip, reads, course, rewrites, -, -, balanced⟩ := reaches.course opening
  obtain ⟨further, skipped, doubled, exit⟩ := course.exit more left
  have single : ret = 4 → ¬ framing.Doubles := by
    intro four
    exact faultless.once framing last reaches (by rw [← four]; exact left)
  have none : doubled = [] := by
    by_contra some
    obtain ⟨four, doubles⟩ := exit.doubling.mp some
    exact single four doubles
  subst none
  have even := balanced (fun framing next reached onward =>
    ⟨faultless.kept framing next reached onward, faultless.found framing next reached onward⟩)
    opening_balanced
  refine ⟨bytes ++ further, reads.trans exit.reads, ?_⟩
  rw [← List.append_assoc]
  refine conserved_of_exit course rewrites even exit failed ?_ ?_ concluded
  · intro four overrun
    exact single four (overrun.doubles course.ready)
  · intro odd
    rcases Nat.eq_zero_or_pos framing.tmp with head | past
    · have same := reaches_head reaches head opening
      subst same
      exact faultless.fresh.resolve_left odd
    · exact course.cleared past

/-- A stop marker that is missing on the way leaves too much in the buffers. -/
theorem not_conserved_of_overrun
    (opening : Framing.Course (sock.opening w) sock.remainingData [])
    (unstarved : sock.Unstarved w) {next : Framing F} (reaches : (sock.opening w).Reaches framing)
    (onward : framing.Onward next) (overrun : framing.Overrun)
    (ended : framing.frameLoop = (ret, last)) (failed : ret ≠ 0)
    (concluded : conclude ret last = some r) :
    ∃ bytes, w.Reads bytes last.wire ∧ ¬ Conserved sock.frameFormat
      (sock.remainingData ++ bytes) r.sock.data r.sock.remainingData := by
  obtain ⟨before, rest, more, left⟩ := exit_behind onward ended failed
  obtain ⟨bytes, skip, reads, course, behind⟩ :=
    opening.mishap opening_behind reaches (.inr overrun) onward rest
  obtain ⟨further, skipped, doubled, exit⟩ := course.exit more left
  obtain ⟨_, _, -, -, -, -, fits, -⟩ :=
    Framing.Reaches.course opening (reaches.trans (.head onward rest))
  refine ⟨bytes ++ further, reads.trans exit.reads, ?_⟩
  rw [← List.append_assoc]
  exact not_conserved_of_exit course behind
    (fits unstarved fun i bound => absurd bound (Nat.not_lt_zero i)) exit failed concluded (by omega)

/-- So does a variable field that is vetoed behind its content. -/
theorem not_conserved_of_doubles
    (opening : Framing.Course (sock.opening w) sock.remainingData [])
    (unstarved : sock.Unstarved w) (reaches : (sock.opening w).Reaches framing)
    (more : framing.tmp < framing.sock.frameFormat.length)
    (left : framing.pass = .leave 4 last) (doubles : framing.Doubles)
    (concluded : conclude 4 last = some r) :
    ∃ bytes, w.Reads bytes last.wire ∧ ¬ Conserved sock.frameFormat
      (sock.remainingData ++ bytes) r.sock.data r.sock.remainingData := by
  obtain ⟨bytes, skip, reads, course, -, behind, fits, -⟩ := reaches.course opening
  obtain ⟨further, skipped, doubled, exit⟩ := course.exit more left
  have some := List.length_pos_iff.mpr (exit.doubling.mpr ⟨rfl, doubles⟩)
  refine ⟨bytes ++ further, reads.trans exit.reads, ?_⟩
  rw [← List.append_assoc]
  exact not_conserved_of_exit course (behind 0 opening_behind)
    (fits unstarved fun i bound => absurd bound (Nat.not_lt_zero i)) exit (by decide) concluded
    (by omega)

omit [LawfulDataFrame F] in
/-- And so does what was in the buffer if the first element cannot be received. -/
theorem not_conserved_of_stale (more : sock.frameFormat ≠ [])
    (odd : ¬ Framing.Receivable (sock.opening w).entered.sock.frameFormat 0)
    (stale : sock.data ≠ []) (ended : (sock.opening w).frameLoop = (ret, last))
    (concluded : conclude ret last = some r) :
    ∃ bytes, w.Reads bytes last.wire ∧ ¬ Conserved sock.frameFormat
      (sock.remainingData ++ bytes) r.sock.data r.sock.remainingData := by
  have inside : (sock.opening w).tmp < (sock.opening w).sock.frameFormat.length :=
    List.length_pos_iff.mpr more
  have left := Framing.frameLoop_left inside (Framing.pass_odd inside odd)
  have same := left.symm.trans ended
  cases same
  have enteredInside : (sock.opening w).entered.tmp <
      (sock.opening w).entered.sock.frameFormat.length := by
    simpa [Framing.entered] using inside
  have held := conclude_failure (by decide) enteredInside concluded
  refine ⟨[], by simpa [opening] using Wire.Reads.refl w, ?_⟩
  intro given
  obtain ⟨skip, split, -⟩ := given
  have width := congrArg List.length split
  have heldWidth := congrArg List.length held
  have some := List.length_pos_iff.mpr stale
  have data : (sock.opening w).entered.sock.data = sock.data := by simp [opening]
  have left : (sock.opening w).entered.sock.remainingData = sock.remainingData := by
    simp [opening]
  rw [data, left] at heldWidth
  simp only [List.length_append, List.length_nil] at width heldWidth
  omega

/-- A failed call keeps all bytes if none of the faults is met; and unless it has
passed a field that was cut off, it keeps them only then. -/
theorem receiveFramedData_conserves (ready : sock.Readable)
    (considerate : Considerate sock.frameFormat) (lone : LoneStart sock.frameFormat)
    (received : sock.receiveFramedData w = some r) (failed : r.code = 2 ∨ r.code = 4) :
    ∃ bytes, w.Reads bytes r.wire ∧
      (sock.Faultless w → Conserved sock.frameFormat (sock.remainingData ++ bytes)
        r.sock.data r.sock.remainingData) ∧
      (sock.Unstarved w → (Conserved sock.frameFormat (sock.remainingData ++ bytes)
        r.sock.data r.sock.remainingData ↔ sock.Faultless w)) := by
  obtain ⟨framing, last, reaches, more, left, ended, concluded⟩ :=
    receiveFramedData_failure received failed
  have opening := @opening_course F _ sock w ready considerate lone
  have nonzero : r.code ≠ 0 := by omega
  have whole := reaches.frameLoop_eq.symm.trans ended
  obtain ⟨bytes, skip, reads, course, rewrites, -⟩ := reaches.course opening
  obtain ⟨further, skipped, doubled, exit⟩ := course.exit more left
  have all := reads.trans exit.reads
  rw [(conclude_code concluded).2]
  have kept : sock.Faultless w → Conserved sock.frameFormat
      (sock.remainingData ++ (bytes ++ further)) r.sock.data r.sock.remainingData := by
    intro faultless
    obtain ⟨others, readsOthers, conserved⟩ :=
      faultless.conserved opening reaches more left nonzero concluded
    rw [← readsOthers.unique all]
    exact conserved
  refine ⟨bytes ++ further, all, kept, fun unstarved => ⟨fun conserved => ?_, kept⟩⟩
  have refuted : ∀ others, w.Reads others last.wire → ¬ ¬ Conserved sock.frameFormat
      (sock.remainingData ++ others) r.sock.data r.sock.remainingData := by
    intro others readsOthers broken
    rw [readsOthers.unique all] at broken
    exact broken conserved
  exact {
    kept := fun there next reached onward loses =>
      unstarved there next reached onward loses.starved
    found := by
      intro there next reached onward overrun
      obtain ⟨others, readsOthers, broken⟩ := not_conserved_of_overrun opening unstarved reached
        onward overrun (reached.frameLoop_eq.trans whole) nonzero concluded
      exact refuted others readsOthers broken
    once := by
      intro there exit_ reached vetoed doubles
      have inside := doubles.inside
      have same := (Framing.frameLoop_left inside vetoed).symm.trans
        (reached.frameLoop_eq.trans whole)
      obtain ⟨four, rfl⟩ := Prod.mk.inj same
      rw [← four] at concluded
      obtain ⟨others, readsOthers, broken⟩ :=
        not_conserved_of_doubles opening unstarved reached inside vetoed doubles concluded
      exact refuted others readsOthers broken
    fresh := by
      by_contra bad
      have odd := fun fine => bad (.inl fine)
      have stale : sock.data ≠ [] := fun clean => bad (.inr clean)
      have some : sock.frameFormat ≠ [] := by
        intro none
        have length := rewrites.length
        rw [show (sock.opening w).sock.frameFormat = [] from none, List.length_nil] at length
        omega
      obtain ⟨others, readsOthers, broken⟩ :=
        not_conserved_of_stale some odd stale whole concluded
      exact refuted others readsOthers broken }

/-- A start marker behind a 9 that was left over, two bytes, and no stop marker. -/
def missedWire : Wire where
  polls := []
  reads := [.chunk (.of 7 [8]), .chunk (.of 4 [5])]
  stray := 0

/-- The fields are received in full, and none has a variable size. -/
theorem missedWire_full (framing : Framing Element)
    (reached : ((sample sampleFormat [9, 2]).opening missedWire).Reaches framing) :
    ¬ framing.Starved ∧ framing.Fixed := by
  have all : ∀ framing ∈ ((sample sampleFormat [9, 2]).opening missedWire).trail 4,
      ¬ framing.Starved ∧ framing.Fixed := by
    decide +kernel
  exact all framing (reached.mem_trail (by decide))

theorem receiveFramedData_conserves_missed :
    ∃ r bytes, (sample sampleFormat [9, 2]).receiveFramedData missedWire = some r ∧ r.code = 2 ∧
      missedWire.Reads bytes r.wire ∧ (sample sampleFormat [9, 2]).Unstarved missedWire ∧
      (sample sampleFormat [9, 2]).Faultless missedWire ∧
      Conserved sampleFormat ([9, 2] ++ bytes) r.sock.data r.sock.remainingData := by
  have result : ((sample sampleFormat [9, 2]).receiveFramedData missedWire).map (·.code) =
      some 2 := by
    decide +kernel
  obtain ⟨r, received, code⟩ := Option.map_eq_some_iff.mp result
  obtain ⟨bytes, reads, kept, exactly⟩ := receiveFramedData_conserves (sample_readable _ _)
    (sample_considerate (by decide)) (loneStart_of_tail (by decide)) received (.inl code)
  have unstarved : (sample sampleFormat [9, 2]).Unstarved missedWire :=
    fun framing next reached onward => (missedWire_full framing reached).1
  have faultless : (sample sampleFormat [9, 2]).Faultless missedWire := {
    kept := fun framing next reached onward loses =>
      unstarved framing next reached onward loses.starved
    found := by
      intro framing next reached onward overrun
      obtain ⟨f, marker, free, -⟩ := overrun
      exact (missedWire_full framing reached).2.not_free free
    once := by
      intro framing last reached vetoed doubles
      obtain ⟨f, marker, free, -⟩ := doubles
      exact (missedWire_full framing reached).2.not_free free
    fresh := .inr rfl }
  exact ⟨r, bytes, received, code, reads, unstarved,
    (exactly unstarved).mp (kept faultless), kept faultless⟩

/-- One byte of the field comes, then the reads fail three times, then a byte
that is not the stop marker. -/
def lossyWire : Wire where
  polls := []
  reads := [.chunk (.of 2 [7]), .failed, .failed, .failed,
    .chunk (.of 8 [])]
  stray := 0

/-- Of `[2, 7, 8]` the call returns `[2]` and keeps `[8]`: the 7 is lost. -/
theorem receiveFramedData_loses :
    ∃ r, (sample sampleFormat []).receiveFramedData lossyWire = some r ∧ r.code = 2 ∧
      ¬ ∃ bytes, lossyWire.Reads bytes r.wire ∧ Conserved sampleFormat
        ((sample sampleFormat []).remainingData ++ bytes) r.sock.data r.sock.remainingData := by
  have result : ((sample sampleFormat []).receiveFramedData lossyWire).map
      (fun r => (r.code, r.sock.data, r.sock.remainingData, r.wire.reads)) =
        some (2, [2], [8], []) := by
    decide +kernel
  obtain ⟨r, received, values⟩ := Option.map_eq_some_iff.mp result
  obtain ⟨code, data, left, reads⟩ : r.code = 2 ∧ r.sock.data = [2] ∧
      r.sock.remainingData = [8] ∧ r.wire.reads = [] := by
    simpa using values
  refine ⟨r, received, code, ?_⟩
  intro given
  obtain ⟨bytes, taken, skip, split, -⟩ := given
  have all := taken.unread
  rw [Wire.unread, Wire.unread, reads, delivered_nil, List.append_nil] at all
  rw [← all, data, left] at split
  have width : skip.length = 1 := by
    have width := congrArg List.length split
    simp only [List.length_append] at width
    change 3 = _ at width
    simp only [List.length_singleton] at width
    omega
  obtain ⟨first, rfl⟩ := List.length_eq_one_iff.mp width
  exact absurd split (by simp [lossyWire, sample, Socket.new, Chunk.of])

end SynapSock

end SynapTCP
