import SynapTCP.Data.Causes
import SynapTCP.Frame.Events

namespace SynapTCP

open Data DataFrame

/-! # The functions of a format

Which functions there are, in the order in which they are due, and the events of
a single element by the answers of its functions.
-/

section

variable {F : Type} [DataFrame F] {format before after : List F} {f g : F} {i : Nat}

/-- The functions of the elements. -/
def assignment (format : List F) : List (Option (Callback F) × Option (Callback F)) :=
  format.map fun f => (getExecuteFunction f, getPostExecuteFunction f)

/-- No function of the format assigns others. -/
def Steady (format : List F) : Prop :=
  ∀ functions ∈ assignment format, ∀ callback,
    functions.1 = some callback ∨ functions.2 = some callback →
      ∀ later index, assignment (callback.run later index).1 = assignment later

def slotsAt (format : List F) (i : Nat) : List Slot :=
  ((format[i]?.bind getExecuteFunction).map fun _ => Slot.execute i).toList ++
    ((format[i]?.bind getPostExecuteFunction).map fun _ => Slot.postExecute i).toList

/-- The functions from position `i` on, in the order of the elements. -/
def slotsFrom (format : List F) (i : Nat) : List Slot :=
  ((List.range format.length).drop i).flatMap (slotsAt format)

def slots (format : List F) : List Slot := slotsFrom format 0

theorem executeFunction_congr (same : assignment after = assignment before) :
    after[i]?.bind getExecuteFunction = before[i]?.bind getExecuteFunction := by
  have functions := congrArg (fun list : List _ => list[i]?.bind Prod.fst) same
  simpa [assignment, List.getElem?_map, Option.bind_map, Function.comp_def] using functions

theorem postExecuteFunction_congr (same : assignment after = assignment before) :
    after[i]?.bind getPostExecuteFunction = before[i]?.bind getPostExecuteFunction := by
  have functions := congrArg (fun list : List _ => list[i]?.bind Prod.snd) same
  simpa [assignment, List.getElem?_map, Option.bind_map, Function.comp_def] using functions

theorem slotsAt_congr (same : assignment after = assignment before) :
    slotsAt after i = slotsAt before i := by
  rw [slotsAt, slotsAt, executeFunction_congr same, postExecuteFunction_congr same]

theorem slotsFrom_succ (inside : i < format.length) :
    slotsFrom format i = slotsAt format i ++ slotsFrom format (i + 1) := by
  rw [slotsFrom, List.drop_eq_getElem_cons (by rw [List.length_range]; exact inside),
    List.flatMap_cons, List.getElem_range]
  rfl

theorem assignment_length (same : assignment after = assignment before) :
    after.length = before.length := by
  have length := congrArg List.length same
  simpa [assignment] using length

theorem slotsFrom_congr (same : assignment after = assignment before) :
    slotsFrom after i = slotsFrom before i := by
  have pieces : slotsAt after = slotsAt before := by
    funext j
    exact slotsAt_congr same
  rw [slotsFrom, slotsFrom, assignment_length same, pieces]

theorem Steady.congr (steady : Steady before) (same : assignment after = assignment before) :
    Steady after := by
  intro functions member
  rw [same] at member
  exact steady functions member

theorem steady_of_functions (keeps : ∀ f ∈ format, ∀ callback,
    getExecuteFunction f = some callback ∨ getPostExecuteFunction f = some callback →
      ∀ later index, assignment (callback.run later index).1 = assignment later) :
    Steady format := by
  intro functions member
  obtain ⟨f, there, rfl⟩ := List.mem_map.mp member
  exact keeps f there

end

/-! ## The events of one pass -/

/-- A post-execute function is for bytes that have come. -/
def needs : FrameEvent → Option FrameEvent
  | .called (.postExecute index) _ => some (.received index)
  | .called (.execute _) _ => none
  | .received _ => none

theorem needs_index {event needed : FrameEvent} (because : needs event = some needed) :
    needed.index = event.index := by
  cases event with
  | called place vetoed =>
      cases place with
      | execute _ => contradiction
      | postExecute i =>
          cases because
          rfl
  | received _ => contradiction

/-- Nothing later than an element that is refused. -/
def Heeds (event later : FrameEvent) : Prop :=
  event.vetoes = true → later.index ≤ event.index

namespace FrameEvent

variable {i : Nat} {first behind second last : Option Bool} {got : Bool}

/-- An element in its place, by the answers of its functions. -/
def single (i : Nat) (first : Option Bool) (got : Bool) (last : Option Bool) : List FrameEvent :=
  first.toList.map (.called (.execute i)) ++ (if got then [.received i] else []) ++
    last.toList.map (.called (.postExecute i))

/-- An element and the stop marker that comes with it. -/
def double (i : Nat) (first : Option Bool) (got : Bool) (behind second last : Option Bool) :
    List FrameEvent :=
  first.toList.map (.called (.execute i)) ++
    ((if got then [.received i, .received (i + 1)] else []) ++
      (behind.toList.map (.called (.postExecute i)) ++
        second.toList.map (.called (.execute (i + 1))))) ++
    last.toList.map (.called (.postExecute (i + 1)))

theorem single_index {event : FrameEvent} (member : event ∈ single i first got last) :
    event.index = i := by
  simp only [single, List.mem_append, List.mem_map] at member
  rcases member with (⟨_, _, rfl⟩ | came) | ⟨_, _, rfl⟩
  · rfl
  · cases got with
    | false => contradiction
    | true => rw [List.mem_singleton.mp came, index_received]
  · rfl

theorem double_index {event : FrameEvent}
    (member : event ∈ double i first got behind second last) :
    event.index = i ∨ event.index = i + 1 := by
  simp only [double, List.mem_append, List.mem_map] at member
  rcases member with (⟨_, _, rfl⟩ | came | ⟨_, _, rfl⟩ | ⟨_, _, rfl⟩) | ⟨_, _, rfl⟩
  · exact .inl rfl
  · cases got with
    | false => contradiction
    | true =>
        rcases List.mem_pair.mp came with rfl | rfl
        · exact .inl rfl
        · exact .inr rfl
  · exact .inl rfl
  · exact .inr rfl
  · exact .inr rfl

theorem single_slots : (single i first got last).filterMap slot =
    (first.map fun _ => Slot.execute i).toList ++
      (last.map fun _ => Slot.postExecute i).toList := by
  cases first <;> cases got <;> cases last <;> rfl

theorem double_slots : (double i first got behind second last).filterMap slot =
    ((first.map fun _ => Slot.execute i).toList ++
      (behind.map fun _ => Slot.postExecute i).toList) ++
    ((second.map fun _ => Slot.execute (i + 1)).toList ++
      (last.map fun _ => Slot.postExecute (i + 1)).toList) := by
  cases first <;> cases got <;> cases behind <;> cases second <;> cases last <;> rfl

theorem single_willing : (∀ event ∈ single i first got last, event.vetoes = false) ↔
    first ≠ some true ∧ last ≠ some true := by
  cases first <;> cases got <;> cases last <;> simp [single]

theorem double_willing :
    (∀ event ∈ double i first got behind second last, event.vetoes = false) ↔
      ((first ≠ some true ∧ behind ≠ some true) ∧ second ≠ some true) ∧ last ≠ some true := by
  cases first <;> cases got <;> cases behind <;> cases second <;> cases last <;>
    simp [double, and_assoc]

theorem single_caused :
    Caused needs [] (single i first got last) ↔ (got = false → last = none) := by
  cases first <;> cases got <;> cases last <;> simp [single, Caused, needs]

theorem single_heeded : (single i first got last).Pairwise Heeds := by
  apply List.pairwise_of_forall_mem_list
  intro event member later memberLater _
  rw [single_index member, single_index memberLater]

theorem double_caused :
    Caused needs [] (double i first got behind second last) ↔
      (got = false → behind = none ∧ last = none) := by
  cases first <;> cases got <;> cases behind <;> cases second <;> cases last <;>
    simp [double, Caused, needs]

theorem double_heeded : (double i first got behind second last).Pairwise Heeds ↔
    (first = some true → got = false ∧ second = none ∧ last = none) ∧
      (behind = some true → second = none ∧ last = none) := by
  have past : ¬ i + 1 ≤ i := by omega
  cases first <;> cases got <;> cases behind <;> cases second <;> cases last <;>
    simp [double, Heeds, past]

end FrameEvent

end SynapTCP
