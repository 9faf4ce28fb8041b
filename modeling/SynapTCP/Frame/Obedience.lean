import SynapTCP.Frame.Branches
import SynapTCP.Frame.Functions

namespace SynapTCP

open Data DataFrame

/-! # The events of a pass

One pass through the loop body with the functions that it calls, and when it
respects what they answer.
-/

/-- The state in which a pass ends. -/
def Pass.framing {F : Type} : Pass F → Framing F
  | .onward framing => framing
  | .leave _ framing => framing

namespace Framing

variable {F : Type} [DataFrame F] {framing later middle : Framing F} {f g next : F}
  {select : F → Option (Callback F)} {slot : Nat → Slot}

omit [DataFrame F] in
/-- The data is refused from the first veto on. -/
theorem execute_isFormatValid : (framing.execute select).sock.isFormatValid = true ↔
    framing.sock.isFormatValid = true ∧ framing.answer select ≠ some true := by
  unfold execute answer
  cases framing.sock.frameFormat[framing.tmp]?.bind select with
  | none => simp
  | some callback => simp

theorem execute_assignment (steady : Steady framing.sock.frameFormat)
    (chosen : ∀ f callback, select f = some callback →
      getExecuteFunction f = some callback ∨ getPostExecuteFunction f = some callback) :
    assignment (framing.execute select).sock.frameFormat =
      assignment framing.sock.frameFormat := by
  unfold execute
  split
  · rfl
  · rename_i callback selected
    obtain ⟨f, here, function⟩ := Option.bind_eq_some_iff.mp selected
    exact steady _ (List.mem_map.mpr ⟨f, List.mem_of_getElem? here, rfl⟩) callback
      (chosen f callback function) _ _

theorem entered_assignment (steady : Steady framing.sock.frameFormat) :
    assignment framing.entered.sock.frameFormat = assignment framing.sock.frameFormat :=
  execute_assignment steady fun _ _ => .inl

theorem postExecute_assignment (steady : Steady framing.sock.frameFormat) :
    assignment (framing.execute getPostExecuteFunction).sock.frameFormat =
      assignment framing.sock.frameFormat :=
  execute_assignment steady fun _ _ => .inr

theorem store_assignment [LawfulDataFrame F] (framing : Framing F) (bytes : Bytes) :
    assignment (framing.store bytes).sock.frameFormat = assignment framing.sock.frameFormat := by
  unfold store assignment
  apply List.ext_getElem?
  intro i
  simp only [List.getElem?_map, List.getElem?_modify]
  split
  · cases framing.sock.frameFormat[i]? with
    | none => rfl
    | some f => simp
  · simp

/-- The end of the loop body for an element that is received. -/
def finish (middle : Framing F) : Pass F :=
  if (middle.execute getPostExecuteFunction).sock.isFormatValid = false then
    .leave 4 (middle.execute getPostExecuteFunction)
  else .onward (middle.execute getPostExecuteFunction).advance

/-- From the field in front of a stop marker to the marker. -/
def crossed (framing : Framing F) (next : F) : Framing F :=
  { (framing.freeStored next).execute getPostExecuteFunction with tmp := framing.tmp + 1 }

/-- A pass that respects the functions: a post-execute function is for an
element that comes, and no element but its own comes or is handed to a function
once a function has refused the data. -/
structure Obedient (framing : Framing F) : Prop where
  cut : ∀ f, framing.AtFixed f → (framing.fixedReception f).code ≠ 0 →
    getPostExecuteFunction f = none
  unclosed : ∀ f next, framing.AtFree f next → framing.Overrun →
    getPostExecuteFunction f = none ∧ getPostExecuteFunction next = none
  early : ∀ f next, framing.AtFree f next → (framing.freeReception next).code = 0 →
    framing.answer getExecuteFunction = some true →
    framing.Overrun ∧ getExecuteFunction next = none ∧ getPostExecuteFunction next = none
  late : ∀ f next, framing.AtFree f next → (framing.freeReception next).code = 0 →
    (framing.freeStored next).answer getPostExecuteFunction = some true →
    getExecuteFunction next = none ∧ getPostExecuteFunction next = none

/-- What a pass does and the events of it. -/
inductive Recorded (framing : Framing F) : Pass F → List FrameEvent → Prop where
  | stopped {ret : Nat} {last : Framing F} (got : Bool) (failed : ret ≠ 0)
      (valid : last.sock.isFormatValid = framing.entered.sock.isFormatValid)
      (obedient : framing.Obedient) : Recorded framing (.leave ret last)
      (FrameEvent.single framing.tmp (framing.answer getExecuteFunction) got none)
  | single {middle : Framing F} (got : Bool) (position : middle.tmp = framing.tmp)
      (functions : assignment middle.sock.frameFormat = assignment framing.sock.frameFormat)
      (valid : middle.sock.isFormatValid = framing.entered.sock.isFormatValid)
      (obedient : framing.Obedient ↔
        (got = false → middle.answer getPostExecuteFunction = none)) :
      Recorded framing middle.finish
        (FrameEvent.single framing.tmp (framing.answer getExecuteFunction) got
          (middle.answer getPostExecuteFunction))
  | double {f next : F} (got : Bool) (at_ : framing.AtFree f next)
      (served : (framing.freeReception next).code = 0) (overrun : framing.Overrun ↔ got = false) :
      Recorded framing (framing.freeStored next).toMarker.finish
        (FrameEvent.double framing.tmp (framing.answer getExecuteFunction) got
          ((framing.freeStored next).answer getPostExecuteFunction)
          ((framing.crossed next).answer getExecuteFunction)
          ((framing.freeStored next).toMarker.answer getPostExecuteFunction))

theorem obedient_elsewhere (notFixed : ∀ g, ¬ framing.AtFixed g)
    (notFree : ∀ g next, ¬ framing.AtFree g next) : framing.Obedient where
  cut g fixed := absurd fixed (notFixed g)
  unclosed g next free := absurd free (notFree g next)
  early g next free := absurd free (notFree g next)
  late g next free := absurd free (notFree g next)

theorem AtFixed.obedient_iff (fixed : framing.AtFixed f) : framing.Obedient ↔
    ((framing.fixedReception f).code ≠ 0 → getPostExecuteFunction f = none) := by
  constructor
  · intro obedient
    exact obedient.cut f fixed
  · intro cut
    exact {
      cut := by
        intro g other
        have same := fixed.here.symm.trans other.here
        cases same
        exact cut
      unclosed := fun g next free => absurd free fixed.not_atFree
      early := fun g next free => absurd free fixed.not_atFree
      late := fun g next free => absurd free fixed.not_atFree }

theorem AtFree.obedient_iff (free : framing.AtFree f next) : framing.Obedient ↔
    (framing.Overrun → getPostExecuteFunction f = none ∧ getPostExecuteFunction next = none) ∧
    ((framing.freeReception next).code = 0 →
      (framing.answer getExecuteFunction = some true →
        framing.Overrun ∧ getExecuteFunction next = none ∧ getPostExecuteFunction next = none) ∧
      ((framing.freeStored next).answer getPostExecuteFunction = some true →
        getExecuteFunction next = none ∧ getPostExecuteFunction next = none)) := by
  have unique : ∀ g other, framing.AtFree g other → g = f ∧ other = next := by
    intro g other at_
    have here := free.here.symm.trans at_.here
    have behind := free.behind.symm.trans at_.behind
    cases here
    cases behind
    exact ⟨rfl, rfl⟩
  constructor
  · intro obedient
    exact ⟨obedient.unclosed f next free,
      fun served => ⟨obedient.early f next free served, obedient.late f next free served⟩⟩
  · intro conditions
    obtain ⟨unclosed, both⟩ := conditions
    exact {
      cut := fun g fixed => absurd free fixed.not_atFree
      unclosed := by
        intro g other at_
        obtain ⟨rfl, rfl⟩ := unique g other at_
        exact unclosed
      early := by
        intro g other at_ served
        obtain ⟨rfl, rfl⟩ := unique g other at_
        exact (both served).1
      late := by
        intro g other at_ served
        obtain ⟨rfl, rfl⟩ := unique g other at_
        exact (both served).2 }

omit [DataFrame F] in
theorem answer_none (here : framing.sock.frameFormat[framing.tmp]? = some f) :
    framing.answer select = none ↔ select f = none := by
  rw [answer, here, Option.bind_some, Option.map_eq_none_iff]

theorem passEvents_eq (here : framing.entered.sock.frameFormat[framing.tmp]? = some f) :
    framing.passEvents = (framing.answer getExecuteFunction).toList.map
        (.called (.execute framing.tmp)) ++ framing.entered.elementEvents f ++
      if (framing.entered.receiveElement f).1 ≠ 0 then []
      else (framing.entered.receiveElement f).2.called getPostExecuteFunction .postExecute := by
  have position : (framing.execute getExecuteFunction).sock.frameFormat[
      (framing.execute getExecuteFunction).tmp]? = some f := by
    rw [execute_tmp]
    exact here
  simp only [passEvents, position]
  rfl

theorem recorded_single (got : Bool) (position : middle.tmp = framing.tmp)
    (functions : assignment middle.sock.frameFormat = assignment framing.sock.frameFormat)
    (valid : middle.sock.isFormatValid = framing.entered.sock.isFormatValid)
    (obedient : framing.Obedient ↔
      (got = false → middle.answer getPostExecuteFunction = none)) :
    framing.Recorded middle.finish
      ((framing.answer getExecuteFunction).toList.map (.called (.execute framing.tmp)) ++
        (if got then [.received framing.tmp] else []) ++
        middle.called getPostExecuteFunction .postExecute) := by
  rw [called, position]
  exact .single got position functions valid obedient

theorem recorded_double (got : Bool) (at_ : framing.AtFree f next)
    (served : (framing.freeReception next).code = 0) (overrun : framing.Overrun ↔ got = false) :
    framing.Recorded (framing.freeStored next).toMarker.finish
      ((framing.answer getExecuteFunction).toList.map (.called (.execute framing.tmp)) ++
        ((if got then [.received framing.tmp, .received (framing.tmp + 1)] else []) ++
          (framing.freeStored next).toMarkerEvents) ++
        (framing.freeStored next).toMarker.called getPostExecuteFunction .postExecute) := by
  rw [toMarkerEvents, called, called, called, toMarker_tmp, freeStored_tmp]
  exact .double got at_ served overrun

theorem passEvents_recorded [LawfulDataFrame F] (steady : Steady framing.sock.frameFormat)
    (more : framing.tmp < framing.sock.frameFormat.length) :
    framing.Recorded framing.pass framing.passEvents := by
  have inside : framing.tmp < framing.entered.sock.frameFormat.length := by
    simpa [entered] using more
  have here := List.getElem?_eq_getElem inside
  have branch := receiveElement_branch here
  rw [pass_eq here, passEvents_eq here]
  generalize framing.entered.receiveElement _ = result at branch ⊢
  generalize framing.entered.elementEvents _ = events at branch ⊢
  generalize framing.entered.sock.frameFormat[framing.tmp] = f at here branch
  have functions := entered_assignment steady
  cases branch with
  | marker at_ =>
      have obedient : framing.Obedient :=
        obedient_elsewhere (fun _ fixed => fixed.not_marker at_) fun _ _ free => free.not_marker at_
      by_cases matched : (framing.entered.markerReception f).code = 0
      · rw [served_success matched, entered_tmp, receiveMarker, if_neg (not_not.mpr matched)]
        exact @recorded_single F _ framing
          (framing.entered.receive (framing.entered.markerReception f)) true
          entered_tmp functions rfl (by simp [obedient])
      · rw [served_failure matched, receiveMarker, if_pos matched]
        exact .stopped false (Nat.succ_ne_zero _) rfl obedient
  | fixed at_ served content =>
      have obedient : framing.Obedient :=
        at_.obedient_iff.mpr fun unserved => absurd served unserved
      exact @recorded_single F _ framing ((framing.entered.receive (framing.fixedReception f)).store
          (framing.fixedReception f).socket.data) true entered_tmp
        ((store_assignment _ _).trans functions) rfl (by simp [obedient])
  | bare at_ served =>
      exact .stopped true (Nat.succ_ne_zero _) rfl
        (at_.obedient_iff.mpr fun unserved => absurd served unserved)
  | starved at_ unserved =>
      refine @recorded_single F _ framing (framing.entered.receive (framing.fixedReception f)) false
        entered_tmp functions rfl ?_
      have there : (framing.entered.receive (framing.fixedReception f)).sock.frameFormat[
          (framing.entered.receive (framing.fixedReception f)).tmp]? = some f := by
        rw [receive_tmp, entered_tmp]
        exact here
      rw [at_.obedient_iff, answer_none there]
      exact ⟨fun cut _ => cut unserved, fun cut _ => cut rfl⟩
  | @free next at_ served =>
      refine recorded_double _ at_ served ?_
      rw [at_.overrun_iff]
      exact ⟨fun missed => missed.2, fun missed => ⟨served, missed⟩⟩
  | missed at_ unserved =>
      refine .stopped false (Nat.succ_ne_zero _) rfl (at_.obedient_iff.mpr ⟨?_, ?_⟩)
      · intro overrun
        exact absurd (at_.overrun_iff.mp overrun).1 unserved
      · intro served
        exact absurd served unserved
  | odd notFixed notFree =>
      exact .stopped false (Nat.succ_ne_zero _) rfl (obedient_elsewhere notFixed notFree)

/-! ## What the events of a pass tell -/

omit [DataFrame F] in
theorem answer_slot (place : Slot) : (framing.answer select).map (fun _ => place) =
    (framing.sock.frameFormat[framing.tmp]?.bind select).map fun _ => place := by
  rw [answer, Option.map_map]
  rfl

theorem finish_onward (finished : middle.finish = .onward later) :
    later.sock.isFormatValid = true ∧
      later = (middle.execute getPostExecuteFunction).advance := by
  unfold finish at finished
  split at finished
  · contradiction
  · rename_i valid
    rw [Bool.not_eq_false] at valid
    cases finished
    exact ⟨valid, rfl⟩

theorem finish_isFormatValid : middle.finish.framing.sock.isFormatValid = true ↔
    middle.sock.isFormatValid = true ∧ middle.answer getPostExecuteFunction ≠ some true := by
  rw [← execute_isFormatValid]
  unfold finish
  split
  · rfl
  · rfl

theorem finish_leave {ret : Nat} (finished : middle.finish = .leave ret later) : ret = 4 := by
  unfold finish at finished
  split at finished
  · cases finished
    rfl
  · contradiction

section

variable [LawfulDataFrame F]

theorem freeStored_assignment (steady : Steady framing.sock.frameFormat) :
    assignment (framing.freeStored next).sock.frameFormat =
      assignment framing.sock.frameFormat :=
  (store_assignment _ _).trans (entered_assignment steady)

theorem crossed_assignment (steady : Steady framing.sock.frameFormat) :
    assignment (framing.crossed next).sock.frameFormat = assignment framing.sock.frameFormat := by
  have stored := @freeStored_assignment F _ framing next _ steady
  exact (postExecute_assignment (steady.congr stored)).trans stored

omit [LawfulDataFrame F] in
theorem toMarker_crossed : (framing.freeStored next).toMarker =
    (framing.crossed next).execute getExecuteFunction := by
  unfold toMarker crossed
  dsimp only
  rw [execute_tmp, freeStored_tmp]

theorem marked_assignment (steady : Steady framing.sock.frameFormat) :
    assignment (framing.freeStored next).toMarker.sock.frameFormat =
      assignment framing.sock.frameFormat := by
  have crossed := @crossed_assignment F _ framing next _ steady
  rw [toMarker_crossed]
  exact (entered_assignment (steady.congr crossed)).trans crossed

omit [LawfulDataFrame F] in
theorem AtFree.inside (free : framing.AtFree f next) (steady : Steady framing.sock.frameFormat) :
    framing.tmp + 1 < framing.sock.frameFormat.length := by
  rw [← assignment_length (entered_assignment steady)]
  exact (List.getElem?_eq_some_iff.mp free.behind).1

theorem AtFree.answers (free : framing.AtFree f next) (steady : Steady framing.sock.frameFormat) :
    ((framing.freeStored next).answer getPostExecuteFunction = none ↔
        getPostExecuteFunction f = none) ∧
      ((framing.crossed next).answer getExecuteFunction = none ↔
        getExecuteFunction next = none) ∧
      ((framing.freeStored next).toMarker.answer getPostExecuteFunction = none ↔
        getPostExecuteFunction next = none) := by
  have functions := entered_assignment steady
  refine ⟨?_, ?_, ?_⟩
  · rw [answer, Option.map_eq_none_iff, freeStored_tmp, postExecuteFunction_congr
      ((freeStored_assignment steady).trans functions.symm), free.here, Option.bind_some]
  · rw [answer, Option.map_eq_none_iff]
    show (framing.crossed next).sock.frameFormat[framing.tmp + 1]?.bind _ = none ↔ _
    rw [executeFunction_congr ((crossed_assignment steady).trans functions.symm), free.behind,
      Option.bind_some]
  · rw [answer, Option.map_eq_none_iff, toMarker_tmp, freeStored_tmp, postExecuteFunction_congr
      ((marked_assignment steady).trans functions.symm), free.behind, Option.bind_some]

omit [LawfulDataFrame F] in
/-- The data is valid behind a pass if it was before it and no function has refused it. -/
theorem Recorded.valid_iff {result : Pass F} {events : List FrameEvent}
    (recorded : framing.Recorded result events) : result.framing.sock.isFormatValid = true ↔
      framing.sock.isFormatValid = true ∧ ∀ event ∈ events, event.vetoes = false := by
  have entering : framing.entered.sock.isFormatValid = true ↔ _ := execute_isFormatValid
  cases recorded with
  | stopped got _ valid _ =>
      rw [FrameEvent.single_willing, Pass.framing, valid, entering]
      simp
  | single got _ _ valid _ =>
      rw [FrameEvent.single_willing, finish_isFormatValid, valid, entering, and_assoc]
  | @double f next got _ _ _ =>
      have stored : (framing.freeStored next).sock.isFormatValid =
          framing.entered.sock.isFormatValid := rfl
      have crossed : (framing.crossed next).sock.isFormatValid = true ↔ _ := execute_isFormatValid
      rw [FrameEvent.double_willing, finish_isFormatValid, toMarker_crossed, execute_isFormatValid,
        crossed, stored, entering]
      simp only [and_assoc]

omit [LawfulDataFrame F] in
theorem Recorded.goes_on {events : List FrameEvent}
    (recorded : framing.Recorded (.onward later) events) : later.sock.isFormatValid = true := by
  generalize finished : Pass.onward later = result at recorded
  cases recorded with
  | stopped _ _ _ _ => contradiction
  | single _ _ _ _ _ => exact (finish_onward finished.symm).1
  | double _ _ _ _ => exact (finish_onward finished.symm).1

theorem Recorded.obedient_iff {result : Pass F} {events : List FrameEvent}
    (recorded : framing.Recorded result events) (steady : Steady framing.sock.frameFormat) :
    framing.Obedient ↔ Caused needs [] events ∧ events.Pairwise Heeds := by
  cases recorded with
  | stopped got failed _ obedient =>
      rw [FrameEvent.single_caused]
      exact ⟨fun _ => ⟨fun _ => rfl, FrameEvent.single_heeded⟩, fun _ => obedient⟩
  | single got position functions valid obedient =>
      rw [FrameEvent.single_caused, obedient]
      exact ⟨fun kept => ⟨kept, FrameEvent.single_heeded⟩, fun kept => kept.1⟩
  | double got at_ served overrun =>
      obtain ⟨behind, second, last⟩ := at_.answers steady
      rw [FrameEvent.double_caused, FrameEvent.double_heeded, at_.obedient_iff, behind, second,
        last, overrun]
      simp only [served, true_implies]

end

theorem single_calls (got : Bool) (position : middle.tmp = framing.tmp)
    (functions : assignment middle.sock.frameFormat = assignment framing.sock.frameFormat) :
    (FrameEvent.single framing.tmp (framing.answer getExecuteFunction) got
        (middle.answer getPostExecuteFunction)).filterMap FrameEvent.slot =
      slotsAt framing.sock.frameFormat framing.tmp := by
  rw [FrameEvent.single_slots, answer_slot, answer_slot, position,
    postExecuteFunction_congr functions]
  rfl

theorem double_calls [LawfulDataFrame F] (got : Bool) (steady : Steady framing.sock.frameFormat) :
    (FrameEvent.double framing.tmp (framing.answer getExecuteFunction) got
        ((framing.freeStored next).answer getPostExecuteFunction)
        ((framing.crossed next).answer getExecuteFunction)
        ((framing.freeStored next).toMarker.answer getPostExecuteFunction)).filterMap
          FrameEvent.slot =
      slotsAt framing.sock.frameFormat framing.tmp ++
        slotsAt framing.sock.frameFormat (framing.tmp + 1) := by
  have position : (framing.crossed next).tmp = framing.tmp + 1 := rfl
  rw [FrameEvent.double_slots, answer_slot, answer_slot, answer_slot, answer_slot, toMarker_tmp,
    freeStored_tmp, position, postExecuteFunction_congr (freeStored_assignment steady),
    executeFunction_congr (crossed_assignment steady),
    postExecuteFunction_congr (marked_assignment steady)]
  rfl

/-- A pass that goes on has run all the functions it has gone by, and none of
them has refused the data. -/
structure Advanced (framing later : Framing F) (events : List FrameEvent) : Prop where
  functions : assignment later.sock.frameFormat = assignment framing.sock.frameFormat
  calls : slotsFrom framing.sock.frameFormat framing.tmp =
    events.filterMap FrameEvent.slot ++ slotsFrom framing.sock.frameFormat later.tmp
  willing : ∀ event ∈ events, event.vetoes = false
  within : ∀ event ∈ events, framing.tmp ≤ event.index ∧ event.index < later.tmp

theorem Recorded.advanced [LawfulDataFrame F] {events : List FrameEvent}
    (recorded : framing.Recorded (.onward later) events) (steady : Steady framing.sock.frameFormat)
    (more : framing.tmp < framing.sock.frameFormat.length) : framing.Advanced later events := by
  have willing := (recorded.valid_iff.mp recorded.goes_on).2
  generalize finished : Pass.onward later = result at recorded
  cases recorded with
  | stopped _ _ _ _ => contradiction
  | @single middle got position functions valid _ =>
      have isLater := (finish_onward finished.symm).2
      have next : later.tmp = framing.tmp + 1 := by
        rw [isLater, advance_tmp, position]
      refine ⟨?_, ?_, ?_, ?_⟩
      · rw [isLater]
        exact (postExecute_assignment (steady.congr functions)).trans functions
      · rw [single_calls got position functions, slotsFrom_succ more, next]
      · exact willing
      · intro event member
        have here := FrameEvent.single_index member
        omega
  | @double f next got at_ served overrun =>
      have isLater := (finish_onward finished.symm).2
      have position : later.tmp = framing.tmp + 2 := by
        rw [isLater, advance_tmp, toMarker_tmp, freeStored_tmp]
      have marked := @marked_assignment F _ framing next _ steady
      refine ⟨?_, ?_, ?_, ?_⟩
      · rw [isLater]
        exact (postExecute_assignment (steady.congr marked)).trans marked
      · rw [double_calls got steady, slotsFrom_succ more, slotsFrom_succ (at_.inside steady),
          position, List.append_assoc]
      · exact willing
      · intro event member
        rcases FrameEvent.double_index member with here | behind
        · omega
        · omega

/-- A pass that leaves the loop has run the next functions in order. -/
theorem Recorded.left [LawfulDataFrame F] {ret : Nat} {last : Framing F}
    {events : List FrameEvent} (recorded : framing.Recorded (.leave ret last) events)
    (steady : Steady framing.sock.frameFormat)
    (more : framing.tmp < framing.sock.frameFormat.length) :
    ret ≠ 0 ∧ (∀ event ∈ events, framing.tmp ≤ event.index) ∧
      events.filterMap FrameEvent.slot <+: slotsFrom framing.sock.frameFormat framing.tmp := by
  rw [slotsFrom_succ more]
  generalize finished : Pass.leave ret last = result at recorded
  cases recorded with
  | stopped got failed _ _ =>
      cases finished
      refine ⟨failed, fun event member => Nat.le_of_eq (FrameEvent.single_index member).symm, ?_⟩
      rw [FrameEvent.single_slots, answer_slot, Option.map_none, Option.toList_none,
        List.append_nil, slotsAt, List.append_assoc]
      exact List.prefix_append _ _
  | single got position functions _ _ =>
      rw [finish_leave finished.symm]
      refine ⟨Nat.succ_ne_zero _,
        fun event member => Nat.le_of_eq (FrameEvent.single_index member).symm, ?_⟩
      rw [single_calls got position functions]
      exact List.prefix_append _ _
  | double got at_ _ _ =>
      rw [finish_leave finished.symm]
      refine ⟨Nat.succ_ne_zero _, ?_, ?_⟩
      · intro event member
        rcases FrameEvent.double_index member with here | behind
        · omega
        · omega
      · rw [double_calls got steady, slotsFrom_succ (at_.inside steady), ← List.append_assoc]
        exact List.prefix_append _ _

end Framing

end SynapTCP
