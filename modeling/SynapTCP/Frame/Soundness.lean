import SynapTCP.Frame.Course

namespace SynapTCP

open Data DataFrame

/-! # Soundness of a successful framed receive

A call that returns 0 has divided its bytes as the format says exactly if no
field was cut off on the way.
-/

namespace SynapSock

variable {F : Type} [DataFrame F]

/-- `total` is what a frame of this format, as its elements now hold it, leaves
of it: bytes before the start marker, the frame and the rest. -/
def FrameSplit (format : List F) (total data remainingData : Bytes) : Prop :=
  ∃ skip, total = skip ++ format.flatMap getData ++ remainingData ∧
    data = format.flatMap getData ∧
    (skip ≠ [] → ∃ f, format.head? = some f ∧ getType f = .startBytes) ∧
    ∀ i f, format[i]? = some f →
      ((getType f).isMarker = true → getData f = getReference f) ∧
      ((getType f).isField = true → 0 < getSize f → (getData f).length = getSize f) ∧
      ((getType f).isField = true → getSize f = 0 → ∃ next, format[i + 1]? = some next ∧
        getType next = .stopBytes ∧ getData next = getReference next)

/-- No field that the loop reaches is cut off by failing reads. -/
def Fed (sock : SynapSock F) (w : Wire) : Prop :=
  ∀ framing, (sock.opening w).Reaches framing → ¬ framing.Starved ∧ ¬ framing.Overrun

variable {sock : SynapSock F} {w : Wire} {r : FramedReception F} {ret : Nat} {last : Framing F}

theorem dataFail_all {format : List F} {i : Nat} (bound : format.length ≤ i) :
    dataFail format i = format.flatMap getData := by
  rw [dataFail, List.take_of_length_le bound]

theorem conclude_code (concluded : conclude ret last = some r) :
    r.code = ret ∧ r.wire = last.wire := by
  unfold conclude at concluded
  dsimp only at concluded
  split at concluded
  · rename_i zero
    cases concluded
    exact ⟨zero.symm, rfl⟩
  · split at concluded
    · cases concluded
      exact ⟨rfl, rfl⟩
    · split at concluded
      · split at concluded
        · contradiction
        · cases concluded
          exact ⟨rfl, rfl⟩
      · cases concluded
        exact ⟨rfl, rfl⟩

theorem conclude_success : conclude 0 last =
    some ⟨0, { last.sock with data := getAllData last.sock.frameFormat }, last.wire⟩ := by
  rw [conclude, if_pos rfl]

theorem opening_course (ready : sock.Readable) (considerate : Considerate sock.frameFormat)
    (lone : LoneStart sock.frameFormat) :
    Framing.Course (sock.opening w) sock.remainingData [] where
  ready := ⟨ready.opened, ready.connected⟩
  considerate := considerate
  lone := lone
  within := Nat.zero_le _
  fresh := fun _ => ⟨rfl, rfl⟩
  cleared := fun before => absurd before (Nat.lt_irrefl 0)
  lead := fun headed => absurd rfl headed

theorem opening_balanced : Framing.Balanced (sock.opening w) sock.remainingData [] := rfl

theorem opening_behind : Framing.Behind 0 (sock.opening w) sock.remainingData [] := by
  intro _
  simp [opening]

variable [LawfulDataFrame F]

theorem receiveFramedData_success (ready : sock.Readable)
    (considerate : Considerate sock.frameFormat) (lone : LoneStart sock.frameFormat)
    (received : sock.receiveFramedData w = some r) (success : r.code = 0) :
    ∃ last, (sock.opening w).Reaches last ∧ last.sock.frameFormat.length ≤ last.tmp ∧
      (sock.opening w).frameLoop = (0, last) ∧
      r = ⟨0, { last.sock with data := last.sock.frameFormat.flatMap getData }, last.wire⟩ := by
  unfold receiveFramedData at received
  split at received
  · cases received
    contradiction
  · dsimp only at received
    generalize ended : (sock.opening w).frameLoop = result at received
    obtain ⟨ret, last⟩ := result
    have code := (conclude_code received).1
    rw [success] at code
    subst code
    rw [conclude_success, LawfulDataFrame.getAllData_eq] at received
    cases received
    have course := @opening_course F _ sock w ready considerate lone
    obtain ⟨reaches, beyond⟩ := course.through ended
    exact ⟨last, reaches, beyond, rfl, rfl⟩

/-- A frame that splits as the format says leaves no room for a field that was
cut off: the elements would hold more bytes than there were, and the start
marker would occur before its leftmost occurrence. -/
theorem FrameSplit.fed {total data : Bytes} {gap : Nat} {skip : Bytes}
    (course : Framing.Course last total skip) (beyond : last.sock.frameFormat.length ≤ last.tmp)
    (behind : Framing.Behind gap last total skip)
    (whole : FrameSplit last.sock.frameFormat total data last.sock.remainingData) : gap = 0 := by
  obtain ⟨lead, split, -, headed, parts⟩ := whole
  have fits : ∀ i < last.tmp, Fits last.sock.frameFormat i := by
    intro i _ f here field
    obtain ⟨-, sized, free⟩ := parts i f here
    refine ⟨sized field, fun zero => ?_⟩
    obtain ⟨next, after, stop, -⟩ := free field zero
    exact ⟨next, after, stop⟩
  have bound := behind fits
  rw [dataFail_all beyond] at bound
  have width := congrArg List.length split
  simp only [List.length_append] at width
  by_contra some
  have longer : lead.length < skip.length := by omega
  obtain ⟨f, here, type, nonempty, leftmost⟩ :=
    course.lead (List.ne_nil_of_length_pos (by omega))
  have content : getData f = getReference f :=
    LawfulDataFrame.getData_marker f (by rw [type]; rfl)
  have occurs : OccursAt (getReference f) total lead.length := by
    cases format : last.sock.frameFormat with
    | nil => simp [format] at here
    | cons g rest =>
        have head : g = f := by simpa [format] using here
        rw [split, format, List.flatMap_cons, head, content, List.append_assoc, List.append_assoc,
          ← List.append_assoc]
        exact occursAt_of_split
  exact absurd (leftmost.le_of_occursAt occurs) (by omega)

/-- When `receiveFramedData` returns 0, what it returns is a frame of the format
received from the bytes it had exactly if the reads failed inside no field. -/
theorem receiveFramedData_sound_iff (ready : sock.Readable)
    (considerate : Considerate sock.frameFormat) (lone : LoneStart sock.frameFormat)
    (received : sock.receiveFramedData w = some r) (success : r.code = 0) :
    ∃ bytes, w.Reads bytes r.wire ∧
      (FrameSplit r.sock.frameFormat (sock.remainingData ++ bytes) r.sock.data
          r.sock.remainingData ↔ sock.Fed w) := by
  obtain ⟨last, reaches, beyond, ended, rfl⟩ :=
    receiveFramedData_success ready considerate lone received success
  obtain ⟨bytes, skip, reads, course, -, -, fits, balanced⟩ :=
    reaches.course (opening_course ready considerate lone)
  refine ⟨bytes, reads, ?_, ?_⟩
  · intro whole framing reached
    have safe : ¬ (framing.Starved ∨ framing.Overrun) := by
      intro mishap
      have more : framing.tmp < framing.sock.frameFormat.length := by
        rcases mishap with starved | overrun
        · exact starved.inside
        · exact overrun.inside
      obtain ⟨_, _, -, courseThere, -⟩ := reached.course (opening_course ready considerate lone)
      obtain ⟨rest, -⟩ := courseThere.through (reached.frameLoop_eq.trans ended)
      rcases rest.cases_head with same | ⟨next, onward, rest⟩
      · rw [same] at more
        omega
      · obtain ⟨others, before, readsOthers, courseLast, short⟩ :=
          (opening_course ready considerate lone).mishap opening_behind reached mishap onward rest
        have same := readsOthers.unique reads
        subst same
        exact absurd (whole.fed courseLast beyond short) (by decide)
    exact ⟨fun starved => safe (.inl starved), fun overrun => safe (.inr overrun)⟩
  · intro fed
    have even := balanced (fun framing next reached _ =>
      ⟨fun loses => (fed framing reached).1 loses.starved, (fed framing reached).2⟩)
      opening_balanced
    have fit := fits (fun framing next reached _ => (fed framing reached).1)
      (fun i bound => absurd bound (Nat.not_lt_zero i))
    rw [Framing.Balanced, dataFail_all beyond] at even
    refine ⟨skip, even, rfl, ?_, ?_⟩
    · intro headed
      obtain ⟨f, here, type, -⟩ := course.lead headed
      exact ⟨f, by rw [List.head?_eq_getElem?]; exact here, type⟩
    · intro i f here
      have here : last.sock.frameFormat[i]? = some f := here
      have bound : i < last.tmp := by
        have inside := (List.getElem?_eq_some_iff.mp here).1
        omega
      refine ⟨LawfulDataFrame.getData_marker f, fun field => (fit i bound f here field).1,
        fun field zero => ?_⟩
      obtain ⟨next, behind, stop⟩ := (fit i bound f here field).2 zero
      exact ⟨next, behind, stop, LawfulDataFrame.getData_marker next (by rw [stop]; rfl)⟩

def sample (frameFormat : List Element) (remainingData : Bytes) : SynapSock Element :=
  { Socket.new with sockFd := 3, remainingData, frameFormat, isFormatValid := true }

theorem sample_readable (frameFormat : List Element) (remainingData : Bytes) :
    (sample frameFormat remainingData).Readable := ⟨show (0 : Int) < 3 by decide, rfl⟩

theorem sample_considerate {frameFormat : List Element}
    (willing : ∀ f ∈ frameFormat, f.vetoes = false) : Considerate frameFormat :=
  considerate_of_no_functions fun f member =>
    ⟨rfl, if_neg (by rw [willing f member]; decide)⟩

def sampleFormat : List Element := [.start [2], .field 2 [], .stop [3]]

def wholeWire : Wire where
  polls := []
  reads := [.chunk (.of 9 [2, 7]), .chunk (.of 8 [3])]
  stray := 0

theorem receiveFramedData_sound_iff_whole :
    ∃ r, (sample sampleFormat []).receiveFramedData wholeWire = some r ∧
      ∃ bytes, wholeWire.Reads bytes r.wire ∧
        (FrameSplit r.sock.frameFormat ((sample sampleFormat []).remainingData ++ bytes)
            r.sock.data r.sock.remainingData ↔ (sample sampleFormat []).Fed wholeWire) := by
  have success : ((sample sampleFormat []).receiveFramedData wholeWire).map (·.code) = some 0 := by
    decide +kernel
  obtain ⟨r, received, code⟩ := Option.map_eq_some_iff.mp success
  exact ⟨r, received, receiveFramedData_sound_iff (sample_readable _ _)
    (sample_considerate (by decide)) (loneStart_of_tail (by decide)) received code⟩

def cutWire : Wire where
  polls := []
  reads := [.chunk (.of 2 []), .failed, .chunk (.of 3 [])]
  stray := 0

/-- The call returns 0 with `[2, 3]` although the field has no byte. -/
theorem receiveFramedData_unsound :
    ∃ r, (sample sampleFormat []).receiveFramedData cutWire = some r ∧ r.code = 0 ∧
      r.sock.data = [2, 3] ∧ ¬ ∃ bytes, cutWire.Reads bytes r.wire ∧
        FrameSplit r.sock.frameFormat ((sample sampleFormat []).remainingData ++ bytes)
          r.sock.data r.sock.remainingData := by
  have result : ((sample sampleFormat []).receiveFramedData cutWire).map
      (fun r => (r.code, r.sock.data, r.sock.frameFormat)) =
        some (0, [2, 3], sampleFormat) := by
    decide +kernel
  obtain ⟨r, received, values⟩ := Option.map_eq_some_iff.mp result
  obtain ⟨code, data, format⟩ : r.code = 0 ∧ r.sock.data = [2, 3] ∧
      r.sock.frameFormat = sampleFormat := by
    simpa using values
  refine ⟨r, received, code, data, ?_⟩
  intro given
  obtain ⟨bytes, -, skip, -, -, -, parts⟩ := given
  rw [format] at parts
  have width := (parts 1 (.field 2 []) rfl).2.1 rfl (by decide)
  exact absurd width (by decide)

end SynapSock

end SynapTCP
