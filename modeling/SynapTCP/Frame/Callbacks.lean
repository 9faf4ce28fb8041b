import SynapTCP.Frame.Obedience
import SynapTCP.Frame.Soundness

namespace SynapTCP

open Data DataFrame

/-! # The callback protocol

Which functions a call runs, what has been received before each of them, and
what happens once one of them refuses the data.
-/

namespace Framing

variable {F : Type} [DataFrame F] {framing later : Framing F}

theorem Onward.loopEvents_eq (onward : framing.Onward later) :
    framing.loopEvents = framing.passEvents ++ later.loopEvents := by
  rw [loopEvents, dif_pos onward.1]
  split
  · rename_i next passed
    rw [onward.2] at passed
    cases passed
    rfl
  · rename_i ret last passed
    rw [onward.2] at passed
    contradiction

theorem loopEvents_left {ret : Nat} {last : Framing F}
    (more : framing.tmp < framing.sock.frameFormat.length)
    (left : framing.pass = .leave ret last) : framing.loopEvents = framing.passEvents := by
  rw [loopEvents, dif_pos more]
  split
  · rename_i next passed
    rw [left] at passed
    contradiction
  · rfl

theorem loopEvents_beyond (beyond : ¬ framing.tmp < framing.sock.frameFormat.length) :
    framing.loopEvents = [] := by
  rw [loopEvents, dif_neg beyond]

variable [LawfulDataFrame F]

theorem Onward.advanced (steady : Steady framing.sock.frameFormat)
    (onward : framing.Onward later) : framing.Advanced later framing.passEvents := by
  have recorded := passEvents_recorded steady onward.1
  rw [onward.2] at recorded
  exact recorded.advanced steady onward.1

/-- The functions are called in the order of the elements, from the one at `tmp` on. -/
theorem loopEvents_calls (steady : Steady framing.sock.frameFormat) :
    framing.loopEvents.filterMap FrameEvent.slot <+:
        slotsFrom framing.sock.frameFormat framing.tmp ∧
      ∀ event ∈ framing.loopEvents, framing.tmp ≤ event.index := by
  fun_induction frameLoop framing with
  | case1 framing more later passed ih =>
      have onward : framing.Onward later := ⟨more, passed⟩
      have advanced := onward.advanced steady
      obtain ⟨calls, from_⟩ := ih (steady.congr advanced.functions)
      rw [onward.loopEvents_eq, List.filterMap_append, advanced.calls]
      refine ⟨?_, ?_⟩
      · rw [List.prefix_append_right_inj, ← slotsFrom_congr advanced.functions]
        exact calls
      · intro event member
        rcases List.mem_append.mp member with now | later_
        · exact (advanced.within event now).1
        · have forward := onward.forward
          have behind := from_ event later_
          omega
  | case2 framing more ret last left =>
      have recorded := passEvents_recorded steady more
      rw [left] at recorded
      obtain ⟨-, from_, calls⟩ := recorded.left steady more
      rw [loopEvents_left more left]
      exact ⟨calls, from_⟩
  | case3 framing beyond =>
      rw [loopEvents_beyond beyond]
      simp

theorem loopEvents_refused (steady : Steady framing.sock.frameFormat)
    (refused : ∃ event ∈ framing.loopEvents, event.vetoes = true) : framing.frameLoop.1 ≠ 0 := by
  fun_induction frameLoop framing with
  | case1 framing more later passed ih =>
      have onward : framing.Onward later := ⟨more, passed⟩
      have advanced := onward.advanced steady
      apply ih (steady.congr advanced.functions)
      obtain ⟨event, member, vetoes⟩ := refused
      rw [onward.loopEvents_eq] at member
      rcases List.mem_append.mp member with now | later_
      · rw [advanced.willing event now] at vetoes
        contradiction
      · exact ⟨event, later_, vetoes⟩
  | case2 framing more ret last left =>
      have recorded := passEvents_recorded steady more
      rw [left] at recorded
      exact (recorded.left steady more).1
  | case3 framing beyond =>
      rw [loopEvents_beyond beyond] at refused
      obtain ⟨event, member, -⟩ := refused
      contradiction

theorem loopEvents_obedient (steady : Steady framing.sock.frameFormat) :
    (Caused needs [] framing.loopEvents ∧ framing.loopEvents.Pairwise Heeds) ↔
      ∀ there, framing.Reaches there → there.tmp < there.sock.frameFormat.length →
        there.Obedient := by
  fun_induction frameLoop framing with
  | case1 framing more later passed ih =>
      have onward : framing.Onward later := ⟨more, passed⟩
      have advanced := onward.advanced steady
      have behind := ih (steady.congr advanced.functions)
      have first := (passEvents_recorded steady more).obedient_iff steady
      have from_ := (loopEvents_calls (steady.congr advanced.functions)).2
      have caused : Caused needs [] framing.loopEvents ↔
          Caused needs [] framing.passEvents ∧ Caused needs [] later.loopEvents := by
        rw [onward.loopEvents_eq]
        apply caused_append_apart
        intro event member needed because now
        have early := (advanced.within needed now).2
        rw [needs_index because] at early
        have late := from_ event member
        omega
      have heeded : framing.loopEvents.Pairwise Heeds ↔
          framing.passEvents.Pairwise Heeds ∧ later.loopEvents.Pairwise Heeds := by
        rw [onward.loopEvents_eq, List.pairwise_append, ← and_assoc, and_iff_left_iff_imp]
        intro _ event member _ _ vetoes
        rw [advanced.willing event member] at vetoes
        contradiction
      rw [caused, heeded, and_and_and_comm, ← first, behind]
      constructor
      · intro all there reaches inside
        rcases reaches.cases_head with same | ⟨next, step, rest⟩
        · rw [← same]
          exact all.1
        · rw [onward_unique step onward] at rest
          exact all.2 there rest inside
      · intro all
        exact ⟨all framing .refl more, fun there reaches => all there (.head onward reaches)⟩
  | case2 framing more ret last left =>
      rw [loopEvents_left more left, ← (passEvents_recorded steady more).obedient_iff steady]
      constructor
      · intro obedient there reaches _
        rcases reaches.cases_head with same | ⟨next, first, -⟩
        · rw [← same]
          exact obedient
        · have passed := first.2
          rw [left] at passed
          contradiction
      · intro all
        exact all framing .refl more
  | case3 framing beyond =>
      rw [loopEvents_beyond beyond]
      constructor
      · intro _ there reaches inside
        rcases reaches.cases_head with same | ⟨next, first, -⟩
        · rw [same] at beyond
          exact absurd inside beyond
        · exact absurd first.1 beyond
      · intro _
        exact ⟨trivial, .nil⟩

end Framing

namespace SynapSock

variable {F : Type} [DataFrame F] {sock : SynapSock F} {w : Wire}

/-- The callback protocol of one call: the functions that run are the first ones
of the format in its order, a post-execute function has the bytes of its element
before it, and a function that refuses the data is the end of what is done for
later elements and of a success. -/
structure Protocol (sock : SynapSock F) (w : Wire) : Prop where
  ordered : (sock.frameEvents w).filterMap FrameEvent.slot <+: slots sock.frameFormat
  received : ∀ before i vetoed after, sock.frameEvents w =
    before ++ .called (.postExecute i) vetoed :: after → .received i ∈ before
  heeded : (sock.frameEvents w).Pairwise fun event later =>
    event.vetoes = true → later.index ≤ event.index
  refused : (∃ event ∈ sock.frameEvents w, event.vetoes = true) →
    (sock.receiveFramedData w).map (·.code) ≠ some 0

theorem caused_received {events : List FrameEvent} : Caused needs [] events ↔
    ∀ before i vetoed after, events = before ++ .called (.postExecute i) vetoed :: after →
      .received i ∈ before := by
  rw [caused_iff]
  constructor
  · intro behind before i vetoed after split
    exact behind before _ after _ split rfl
  · intro behind before event after needed split because
    cases event with
    | called place vetoed =>
        cases place with
        | execute _ => contradiction
        | postExecute i =>
            cases because
            exact behind before i vetoed after split
    | received _ => contradiction

theorem frameEvents_eq : sock.frameEvents w = (sock.opening w).loopEvents := by
  unfold frameEvents
  split
  · rename_i empty
    rw [Framing.loopEvents_beyond (by simp [opening, empty])]
  · rfl

theorem receiveFramedData_refused [LawfulDataFrame F] (steady : Steady sock.frameFormat)
    (refused : ∃ event ∈ sock.frameEvents w, event.vetoes = true) :
    (sock.receiveFramedData w).map (·.code) ≠ some 0 := by
  intro success
  obtain ⟨r, received, code⟩ := Option.map_eq_some_iff.mp success
  rw [frameEvents_eq] at refused
  have nonzero := @Framing.loopEvents_refused F _ (sock.opening w) _ steady refused
  unfold receiveFramedData at received
  split at received
  · cases received
    contradiction
  · rw [(conclude_code received).1] at code
    exact nonzero code

/-- A call keeps the callback protocol exactly if every pass that it comes to
respects the functions. -/
theorem receiveFramedData_protocol_iff [LawfulDataFrame F] (steady : Steady sock.frameFormat) :
    sock.Protocol w ↔ ∀ framing, (sock.opening w).Reaches framing →
      framing.tmp < framing.sock.frameFormat.length → framing.Obedient := by
  rw [← @Framing.loopEvents_obedient F _ (sock.opening w) _ steady, ← frameEvents_eq,
    caused_received]
  constructor
  · intro protocol
    exact ⟨protocol.received, protocol.heeded⟩
  · intro kept
    have ordered := (@Framing.loopEvents_calls F _ (sock.opening w) _ steady).1
    rw [← frameEvents_eq] at ordered
    exact ⟨ordered, kept.1, kept.2, receiveFramedData_refused steady⟩

theorem sample_steady (frameFormat : List Element) : Steady frameFormat := by
  apply steady_of_functions
  intro f _ callback function later index
  rcases function with before | behind
  · contradiction
  · rw [show getPostExecuteFunction f = if f.vetoes then some Element.veto else none from rfl]
      at behind
    split at behind
    · cases behind
      rfl
    · contradiction

/-- The frame of `sampleFormat` with a field that is refused. -/
def refusedFormat : List Element := [.start [2], ⟨.data, 2, [], [], true⟩, .stop [3]]

theorem receiveFramedData_protocol_iff_refused :
    (sample refusedFormat []).frameEvents wholeWire =
        [.received 0, .received 1, .called (.postExecute 1) true] ∧
      ((sample refusedFormat []).Protocol wholeWire ↔
        ∀ framing, ((sample refusedFormat []).opening wholeWire).Reaches framing →
          framing.tmp < framing.sock.frameFormat.length → framing.Obedient) :=
  ⟨by decide +kernel, receiveFramedData_protocol_iff (sample_steady _)⟩

/-- A variable field and its stop marker, each with a post-execute function that
refuses the data. -/
def doublyRefused : List Element := [⟨.data, 0, [], [], true⟩, ⟨.stopBytes, 0, [3], [], true⟩]

def closedWire : Wire := ⟨[], [.chunk (.of 7 [3])], 0⟩

/-- The function of the stop marker runs although that of the field has refused
the data; and where nothing comes, the function of a fixed field runs. -/
theorem not_protocol :
    ((sample doublyRefused []).frameEvents closedWire =
        [.received 0, .received 1, .called (.postExecute 0) true,
          .called (.postExecute 1) true] ∧
      ¬ (sample doublyRefused []).Protocol closedWire) ∧
    ((sample [⟨.data, 4, [], [], true⟩] []).frameEvents ⟨[], [], 0⟩ =
        [.called (.postExecute 0) true] ∧
      ¬ (sample [⟨.data, 4, [], [], true⟩] []).Protocol ⟨[], [], 0⟩) := by
  have pair : (sample doublyRefused []).frameEvents closedWire =
      [.received 0, .received 1, .called (.postExecute 0) true,
        .called (.postExecute 1) true] := by
    decide +kernel
  have lone : (sample [⟨.data, 4, [], [], true⟩] []).frameEvents ⟨[], [], 0⟩ =
      [.called (.postExecute 0) true] := by
    decide +kernel
  refine ⟨⟨pair, ?_⟩, lone, ?_⟩
  · intro protocol
    have heeded := protocol.heeded
    rw [pair] at heeded
    exact absurd heeded (by decide)
  · intro protocol
    exact absurd (protocol.received [] 0 true [] lone) List.not_mem_nil

end SynapSock

end SynapTCP
