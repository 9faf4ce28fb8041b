import SynapTCP.Frame.Passes

namespace SynapTCP

open Data DataFrame

/-! # The account of a pass

However the element at `tmp` is received, the bytes divided in the pass are
accounted for: exactly, unless a fixed field was cut off or a stop marker is
missing, and then short by a bound.
-/

namespace Framing

variable {F : Type} {framing later last middle done : Framing F} {f g next : F}
  {bytes skipped added doubled : Bytes}

@[simp] theorem buffers_tmp (data remainingData : Bytes) (wire : Wire) :
    (framing.buffers data remainingData wire).tmp = framing.tmp := rfl

@[simp] theorem buffers_frameFormat (data remainingData : Bytes) (wire : Wire) :
    (framing.buffers data remainingData wire).sock.frameFormat = framing.sock.frameFormat := rfl

@[simp] theorem buffers_data (data remainingData : Bytes) (wire : Wire) :
    (framing.buffers data remainingData wire).sock.data = data := rfl

@[simp] theorem buffers_remainingData (data remainingData : Bytes) (wire : Wire) :
    (framing.buffers data remainingData wire).sock.remainingData = remainingData := rfl

theorem buffers_ready (ready : framing.sock.Readable) (data remainingData : Bytes) (wire : Wire) :
    (framing.buffers data remainingData wire).sock.Readable :=
  ⟨ready.opened, ready.connected⟩

variable [DataFrame F]

@[simp] theorem entered_toSocket : framing.entered.sock.toSocket = framing.sock.toSocket :=
  execute_toSocket _

@[simp] theorem entered_wire : framing.entered.wire = framing.wire := execute_wire _

@[simp] theorem entered_tmp : framing.entered.tmp = framing.tmp := execute_tmp _

@[simp] theorem store_toSocket (bytes : Bytes) :
    (framing.store bytes).sock.toSocket = framing.sock.toSocket := rfl

@[simp] theorem store_tmp (bytes : Bytes) : (framing.store bytes).tmp = framing.tmp := rfl

theorem entered_rewrites (considerate : Considerate framing.sock.frameFormat) :
    Rewrites framing.tmp framing.sock.frameFormat framing.entered.sock.frameFormat :=
  execute_rewrites considerate

/-! Which of the mishaps can be met follows from the element at `tmp`. -/

theorem no_mishap_at_marker (here : framing.entered.sock.frameFormat[framing.tmp]? = some f)
    (marker : (getType f).isField = false) :
    ¬ framing.Starved ∧ ¬ framing.Loses ∧ ¬ framing.Overrun ∧ ¬ framing.Doubles := by
  have absurdField : ∀ g, framing.entered.sock.frameFormat[framing.tmp]? = some g →
      (getType g).isField = true → False := by
    intro g there field
    rw [here] at there
    cases there
    rw [marker] at field
    contradiction
  refine ⟨?_, ?_, ?_, ?_⟩
  · intro given
    obtain ⟨g, at_, -⟩ := given
    exact absurdField g at_.here at_.field
  · intro given
    obtain ⟨g, at_, -⟩ := given
    exact absurdField g at_.here at_.field
  · intro given
    obtain ⟨g, next, at_, -⟩ := given
    exact absurdField g at_.here at_.field
  · intro given
    obtain ⟨g, next, at_, -⟩ := given
    exact absurdField g at_.here at_.field

theorem AtFixed.receivable (fixed : framing.AtFixed f) :
    Receivable framing.entered.sock.frameFormat framing.tmp :=
  ⟨f, fixed.here, .inr ⟨fixed.field, .inl fixed.sized⟩⟩

theorem AtFree.receivable (free : framing.AtFree f next) :
    Receivable framing.entered.sock.frameFormat framing.tmp :=
  ⟨f, free.here, .inr ⟨free.field, .inr ⟨next, free.behind, free.marker, free.nonempty⟩⟩⟩

theorem AtFixed.not_atFree (fixed : framing.AtFixed f) : ¬ framing.AtFree g next := by
  intro free
  have same := fixed.here.symm.trans free.here
  cases same
  have sized := fixed.sized
  rw [free.free] at sized
  exact absurd sized (Nat.lt_irrefl 0)

theorem AtFixed.not_free (fixed : framing.AtFixed f) : ¬ framing.Overrun ∧ ¬ framing.Doubles := by
  constructor
  · intro given
    obtain ⟨g, next, free, -⟩ := given
    exact fixed.not_atFree free
  · intro given
    obtain ⟨g, next, free, -⟩ := given
    exact fixed.not_atFree free

theorem AtFixed.starved_iff (fixed : framing.AtFixed f) :
    framing.Starved ↔ (framing.fixedReception f).code ≠ 0 := by
  constructor
  · intro given
    obtain ⟨g, other, code⟩ := given
    have same := fixed.here.symm.trans other.here
    cases same
    exact code
  · intro code
    exact ⟨f, fixed, code⟩

theorem AtFixed.loses_iff (fixed : framing.AtFixed f) :
    framing.Loses ↔ (framing.fixedReception f).code ≠ 0 ∧
      (framing.fixedReception f).socket.data ≠ getData f := by
  constructor
  · intro given
    obtain ⟨g, other, code⟩ := given
    have same := fixed.here.symm.trans other.here
    cases same
    exact code
  · intro given
    obtain ⟨code, other⟩ := given
    exact ⟨f, fixed, code, other⟩

theorem Loses.starved (loses : framing.Loses) : framing.Starved := by
  obtain ⟨f, fixed, code, -⟩ := loses
  exact ⟨f, fixed, code⟩

theorem AtFree.not_fixed (free : framing.AtFree f next) : ¬ framing.Starved := by
  intro given
  obtain ⟨g, fixed, -⟩ := given
  exact fixed.not_atFree free

theorem AtFree.overrun_iff (free : framing.AtFree f next) :
    framing.Overrun ↔ (framing.freeReception next).code = 0 ∧
      (framing.entered.sock.searchLoop (getReference next) framing.entered.wire
        [] 0 0 false).found = false := by
  constructor
  · intro given
    obtain ⟨g, other, at_, overrun⟩ := given
    have same := free.behind.symm.trans at_.behind
    cases same
    exact overrun
  · intro overrun
    exact ⟨f, next, free, overrun⟩

theorem AtFree.doubles_iff (free : framing.AtFree f next) :
    framing.Doubles ↔ (framing.freeReception next).code = 0 ∧
      (getReference next).length < (framing.freeReception next).socket.data.length := by
  constructor
  · intro given
    obtain ⟨g, other, at_, content⟩ := given
    have same := free.behind.symm.trans at_.behind
    cases same
    exact content
  · intro content
    exact ⟨f, next, free, content⟩

theorem Moved.served (moved : Moved framing done bytes added []) (position : done.tmp = framing.tmp)
    (whole : framing.sock.remainingData ++ bytes = skipped ++ added ++ done.sock.remainingData)
    (data : done.sock.data = added) (starved : ¬ framing.Starved) (overrun : ¬ framing.Overrun)
    (doubles : ¬ framing.Doubles) (fits : Fits done.sock.frameFormat framing.tmp)
    (skipping : skipped ≠ [] → ∃ f, framing.sock.frameFormat[framing.tmp]? = some f ∧
      getType f = .startBytes ∧ getReference f ≠ [] ∧
      LeftmostAt (getReference f) (framing.sock.remainingData ++ bytes) skipped.length) :
    Done framing done bytes skipped added [] where
  toMoved := moved
  skipping := skipping
  exactly := fun _ _ => whole
  handed := fun _ => by rw [whole, data]
  overran := fun bad => absurd bad overrun
  doubling := ⟨fun some => absurd rfl some, fun bad => absurd bad doubles⟩
  fits := fun _ i low high => by
    have here : i = framing.tmp := by omega
    rw [here]
    exact fits
  lag := fun _ => by
    constructor
    · rw [whole, List.length_append, List.length_append]
    · intro given
      rcases given with bad | bad
      · exact absurd bad starved
      · exact absurd bad overrun

theorem fits_of_marker {format : List F} {i : Nat} (here : format[i]? = some f)
    (marker : (getType f).isField = false) : Fits format i := by
  intro g there field
  rw [here] at there
  cases there
  rw [marker] at field
  contradiction

theorem fits_of_sized {format : List F} {i : Nat} (here : format[i]? = some f)
    (sized : 0 < getSize f) (whole : (getData f).length = getSize f) : Fits format i := by
  intro g there _
  rw [here] at there
  cases there
  exact ⟨fun _ => whole, fun zero => by omega⟩

variable [LawfulDataFrame F] {wire : Wire} {content rest : Bytes}

theorem marker_done (ready : framing.sock.Readable)
    (considerate : Considerate framing.sock.frameFormat)
    (here : framing.entered.sock.frameFormat[framing.tmp]? = some f)
    (reads : framing.wire.Reads bytes wire) (marker : (getType f).isMarker = true)
    (whole : framing.sock.remainingData ++ bytes = skipped ++ getReference f ++ rest)
    (skipping : skipped ≠ [] → getType f = .startBytes ∧ getReference f ≠ [] ∧
      LeftmostAt (getReference f) (framing.sock.remainingData ++ bytes) skipped.length) :
    Done framing
      ((framing.entered.buffers (getReference f) rest wire).execute getPostExecuteFunction)
      bytes skipped (getReference f) [] := by
  have entering := entered_rewrites considerate
  have isMarker := FrameType.not_isField marker
  obtain ⟨starved, -, overrun, doubles⟩ := no_mishap_at_marker here isMarker
  have holds : getData f = getReference f := LawfulDataFrame.getData_marker f marker
  have middleReady : (framing.entered.buffers (getReference f) rest wire).sock.Readable :=
    buffers_ready (by simpa using ready) _ _ _
  obtain ⟨moved, after⟩ := moved_in_place considerate (by simp) middleReady reads
    (by simpa using entering) (by simpa using here)
  rw [holds] at moved
  have fits := fits_of_marker after isMarker
  obtain ⟨g, there, same, -⟩ := entering.element here
  refine moved.served (by simp) (by simpa using whole) (by simp) starved overrun doubles fits ?_
  intro some
  obtain ⟨type, nonempty, leftmost⟩ := skipping some
  exact ⟨g, there, by rw [← same.type, type], by rw [← same.reference]; exact nonempty,
    by rw [← same.reference]; exact leftmost⟩

theorem storing (considerate : Considerate framing.sock.frameFormat)
    (here : framing.entered.sock.frameFormat[framing.tmp]? = some f)
    (data remainingData content : Bytes) (wire : Wire) :
    Rewrites framing.tmp framing.sock.frameFormat
        ((framing.entered.buffers data remainingData wire).store content).sock.frameFormat ∧
      ((framing.entered.buffers data remainingData wire).store content).sock.frameFormat[
        framing.tmp]? = some (setData f content) := by
  have entering := entered_rewrites considerate
  have storing := store_rewrites (framing.entered.buffers data remainingData wire) content
  rw [buffers_tmp, entered_tmp, buffers_frameFormat] at storing
  have here := store_here (framing.entered.buffers data remainingData wire) content
    (by simpa using here)
  rw [buffers_tmp, entered_tmp] at here
  exact ⟨entering.trans storing, here⟩

theorem fixed_done (ready : framing.sock.Readable)
    (considerate : Considerate framing.sock.frameFormat) (fixed : framing.AtFixed f)
    (reads : framing.wire.Reads bytes wire) (served : (framing.fixedReception f).code = 0)
    (whole : framing.sock.remainingData ++ bytes = content ++ rest)
    (width : content.length = getSize f) :
    Done framing
      (((framing.entered.buffers content rest wire).store content).execute getPostExecuteFunction)
      bytes [] content [] := by
  obtain ⟨overrun, doubles⟩ := fixed.not_free
  have starved : ¬ framing.Starved := by
    rw [fixed.starved_iff]
    intro bad
    exact bad served
  have holds : getData (setData f content) = content :=
    LawfulDataFrame.getData_setData f content fixed.field
  obtain ⟨rewrites, here⟩ := storing considerate fixed.here content rest content wire
  have middleReady : ((framing.entered.buffers content rest wire).store content).sock.Readable :=
    buffers_ready (by simpa using ready) content rest wire
  obtain ⟨moved, after⟩ := moved_in_place considerate (by simp) middleReady reads rewrites here
  have fits := fits_of_sized after (by simpa using fixed.sized) (by rw [holds]; simpa using width)
  rw [holds] at moved
  exact moved.served (by simp) (by simpa using whole) (by simp) starved overrun doubles fits
    (by simp)

omit [LawfulDataFrame F] in
/-- The cut-off field keeps what it held, the bytes that came are nowhere. -/
theorem starved_done (ready : framing.sock.Readable)
    (considerate : Considerate framing.sock.frameFormat) (fixed : framing.AtFixed f)
    (reads : framing.wire.Reads bytes wire) (unserved : (framing.fixedReception f).code ≠ 0)
    (came : (framing.fixedReception f).socket.data = framing.sock.remainingData ++ bytes)
    (short : (framing.sock.remainingData ++ bytes).length < getSize f) :
    Done framing
      ((framing.entered.buffers (framing.sock.remainingData ++ bytes) [] wire).execute
        getPostExecuteFunction) bytes [] (getData f) [] := by
  obtain ⟨overrun, doubles⟩ := fixed.not_free
  have entering := entered_rewrites considerate
  have middleReady : (framing.entered.buffers (framing.sock.remainingData ++ bytes) []
      wire).sock.Readable := buffers_ready (by simpa using ready) _ _ _
  obtain ⟨moved, after⟩ := moved_in_place considerate (by simp) middleReady reads
    (by simpa using entering) (by simpa using fixed.here)
  have starved : framing.Starved := fixed.starved_iff.mpr unserved
  exact {
    toMoved := moved
    skipping := fun some => absurd rfl some
    exactly := by
      intro kept _
      have same : framing.sock.remainingData ++ bytes = getData f := by
        by_contra other
        exact kept (fixed.loses_iff.mpr ⟨unserved, by rw [came]; exact other⟩)
      simpa using same
    handed := fun _ => by simp
    overran := fun bad => absurd bad overrun
    doubling := ⟨fun some => absurd rfl some, fun bad => absurd bad doubles⟩
    fits := fun fed => absurd starved fed
    lag := by
      intro fits
      have whole := ((fits framing.tmp (Nat.le_refl _) (by simp)) f after fixed.field).1 fixed.sized
      simp only [execute_toSocket, buffers_remainingData, List.length_nil]
      omega }

theorem free_moved (ready : framing.sock.Readable)
    (considerate : Considerate framing.sock.frameFormat) (free : framing.AtFree f next)
    {data : Bytes} (reads : framing.wire.Reads bytes wire) :
    Moved framing
        (((framing.entered.buffers data rest wire).store content).toMarker.execute
          getPostExecuteFunction) bytes (content ++ getReference next) content ∧
      ∀ i, framing.tmp ≤ i → i ≤ framing.tmp + 1 →
        Fits (((framing.entered.buffers data rest wire).store content).toMarker.execute
          getPostExecuteFunction).sock.frameFormat i := by
  have holds : getData (setData f content) = content :=
    LawfulDataFrame.getData_setData f content free.field
  obtain ⟨rewrites, here⟩ := storing considerate free.here data rest content wire
  have middleReady : ((framing.entered.buffers data rest wire).store content).sock.Readable :=
    buffers_ready (by simpa using ready) data rest wire
  have behind : ((framing.entered.buffers data rest wire).store content).sock.frameFormat[
      framing.tmp + 1]? = some next := by
    simpa [store] using free.behind
  obtain ⟨moved, after, last, there, marker⟩ :=
    moved_across considerate (by simp) middleReady reads rewrites here behind free.marker
  rw [holds] at moved
  refine ⟨moved, ?_⟩
  intro i low high
  rcases Nat.eq_or_lt_of_le low with same | above
  · rw [← same]
    intro g found field
    rw [after] at found
    cases found
    refine ⟨?_, fun _ => ⟨last, there, marker⟩⟩
    rw [LawfulDataFrame.getSize_setData, free.free]
    intro positive
    omega
  · have position : i = framing.tmp + 1 := by omega
    rw [position]
    exact fits_of_marker there (by rw [marker]; rfl)

theorem free_done (ready : framing.sock.Readable)
    (considerate : Considerate framing.sock.frameFormat) (free : framing.AtFree f next)
    (reads : framing.wire.Reads bytes wire) (served : (framing.freeReception next).code = 0)
    (came : (framing.freeReception next).socket.data = content ++ getReference next)
    (found : (framing.entered.sock.searchLoop (getReference next) framing.entered.wire
      [] 0 0 false).found = true)
    (whole : framing.sock.remainingData ++ bytes = content ++ getReference next ++ rest) :
    Done framing
      (((framing.entered.buffers (content ++ getReference next) rest wire).store
        content).toMarker.execute getPostExecuteFunction)
      bytes [] (content ++ getReference next) content := by
  obtain ⟨moved, fits⟩ := free_moved ready considerate free reads
  have overrun : ¬ framing.Overrun := by
    rw [free.overrun_iff, found]
    intro bad
    exact absurd bad.2 (by decide)
  exact {
    toMoved := moved
    skipping := fun some => absurd rfl some
    exactly := fun _ _ => by simpa using whole
    handed := fun _ => by simpa using whole
    overran := fun bad => absurd bad overrun
    doubling := by
      rw [free.doubles_iff, came, List.length_append, ← List.length_pos_iff]
      exact ⟨fun some => ⟨served, by omega⟩, fun some => by omega⟩
    fits := fun _ i low high => fits i low (by simpa using high)
    lag := by
      intro _
      constructor
      · rw [whole]
        simp only [List.length_append, List.length_nil, execute_toSocket, toMarker_toSocket,
          store_toSocket, buffers_remainingData]
        omega
      · intro bad
        exact absurd bad (by simp [free.not_fixed, overrun]) }

/-- One byte too many is taken for the field and its marker. -/
theorem overrun_done (ready : framing.sock.Readable)
    (considerate : Considerate framing.sock.frameFormat) (free : framing.AtFree f next)
    (reads : framing.wire.Reads bytes wire) (served : (framing.freeReception next).code = 0)
    {stray : UInt8}
    (came : (framing.freeReception next).socket.data =
      framing.sock.remainingData ++ bytes ++ [stray])
    (missed : (framing.entered.sock.searchLoop (getReference next) framing.entered.wire
      [] 0 0 false).found = false)
    (width : content.length + (getReference next).length =
      (framing.sock.remainingData ++ bytes).length + 1)
    (past : (getReference next).length ≤ (framing.sock.remainingData ++ bytes).length) :
    Done framing
      (((framing.entered.buffers (framing.sock.remainingData ++ bytes ++ [stray]) [] wire).store
        content).toMarker.execute getPostExecuteFunction)
      bytes [] (content ++ getReference next) content := by
  obtain ⟨moved, fits⟩ := free_moved ready considerate free reads
  have overrun : framing.Overrun := free.overrun_iff.mpr ⟨served, missed⟩
  exact {
    toMoved := moved
    skipping := fun some => absurd rfl some
    exactly := fun _ good => absurd overrun good
    handed := fun good => absurd overrun good
    overran := fun _ => by simp
    doubling := by
      rw [free.doubles_iff, came, List.length_append, ← List.length_pos_iff]
      exact ⟨fun _ => ⟨served, by simp only [List.length_singleton]; omega⟩, fun _ => by omega⟩
    fits := fun _ i low high => fits i low (by simpa using high)
    lag := by
      intro _
      simp only [List.length_append, List.length_nil] at width ⊢
      constructor
      · omega
      · intro _
        omega }

theorem received_done (ready : framing.sock.Readable)
    (considerate : Considerate framing.sock.frameFormat)
    (here : framing.entered.sock.frameFormat[framing.tmp]? = some f)
    (reads : framing.wire.Reads bytes wire)
    (received : Received framing.entered f (framing.sock.remainingData ++ bytes) wire (0, middle)) :
    ∃ skipped added doubled,
      Done framing (middle.execute getPostExecuteFunction) bytes skipped added doubled := by
  cases received with
  | @start index type nonempty leftmost =>
      refine ⟨_, _, _, marker_done ready considerate here reads (by rw [type]; rfl)
        leftmost.occurs.split ?_⟩
      intro _
      have fits := leftmost.occurs.fits nonempty
      have width : ((framing.sock.remainingData ++ bytes).take index).length = index := by
        rw [List.length_take]
        omega
      exact ⟨type, nonempty, by rw [width]; exact leftmost⟩
  | stop type nonempty front =>
      refine ⟨[], _, _, marker_done ready considerate here reads (by rw [type]; rfl) ?_
        (fun some => absurd rfl some)⟩
      conv_lhs => rw [← List.take_append_drop (getReference f).length
        (framing.sock.remainingData ++ bytes), front]
      rfl
  | fixed field sized served enough =>
      have fixed : framing.AtFixed f := ⟨here, field, sized⟩
      refine ⟨_, _, _, fixed_done ready considerate fixed reads served
        (List.take_append_drop _ _).symm ?_⟩
      rw [List.length_take]
      omega
  | starved field sized unserved came short =>
      have fixed : framing.AtFixed f := ⟨here, field, sized⟩
      exact ⟨_, _, _, starved_done ready considerate fixed reads unserved came short⟩
  | @untill next index field free behind marker nonempty found served came leftmost =>
      have atFree : framing.AtFree f next :=
        ⟨here, field, free, by simpa using behind, marker, nonempty⟩
      rw [leftmost.occurs.take_through] at came ⊢
      exact ⟨_, _, _, free_done ready considerate atFree reads served came found
        leftmost.occurs.split⟩
  | @overrun next stray field free behind marker nonempty missed served came past =>
      have atFree : framing.AtFree f next :=
        ⟨here, field, free, by simpa using behind, marker, nonempty⟩
      refine ⟨_, _, _, overrun_done ready considerate atFree reads served came missed ?_ past⟩
      simp only [List.length_take, List.length_append, List.length_singleton] at past ⊢
      omega

end Framing

end SynapTCP
