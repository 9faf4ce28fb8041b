import SynapTCP.Frame.Events
import SynapTCP.Frame.Loop

namespace SynapTCP

open Data DataFrame

/-! # The branches of the loop body

How one element is received, with an open port or without one: only the return
codes and the sizes of the buffers decide.
-/

namespace Socket

/-- A search that is reported as a success has left something in the buffer. -/
theorem receiveUntillStopBytes_data {s : Socket} {w : Wire} {stopBytes : Bytes}
    (nonempty : stopBytes ≠ []) (served : (s.receiveUntillStopBytes w stopBytes).code = 0) :
    (s.receiveUntillStopBytes w stopBytes).socket.data ≠ [] := by
  have positive := List.length_pos_iff.mpr nonempty
  unfold receiveUntillStopBytes at served ⊢
  dsimp only at served ⊢
  split at served
  · contradiction
  · rename_i enough
    rw [if_neg enough]
    generalize s.searchLoop stopBytes w [] 0 0 false = last at served enough ⊢
    have gathered : 0 < last.tmp.length := by omega
    rw [← List.length_pos_iff]
    unfold settle copyFront
    split
    · simp only [List.length_append, List.length_take, List.length_replicate]
      omega
    · split
      · simp only [List.length_take]
        omega
      · show 0 < last.socket.data.length
        omega

end Socket

namespace Framing

variable {F : Type} [DataFrame F] {framing entry later middle other : Framing F} {f g next : F}

def markerReception (entry : Framing F) (f : F) : Reception :=
  if getType f = .startBytes then
    entry.sock.toSocket.receiveStartBytes entry.wire (getReference f)
  else entry.sock.toSocket.receiveStopBytes entry.wire (getReference f)

/-- At a marker that has a reference. -/
structure AtMarker (framing : Framing F) (f : F) : Prop where
  here : framing.entered.sock.frameFormat[framing.tmp]? = some f
  marker : (getType f).isMarker = true
  nonempty : getReference f ≠ []

theorem AtFree.not_marker (free : framing.AtFree f next) : ¬ framing.AtMarker g := by
  intro marker
  have same := free.here.symm.trans marker.here
  cases same
  have field := free.field
  rw [FrameType.not_isField marker.marker] at field
  contradiction

theorem AtFixed.not_marker (fixed : framing.AtFixed f) : ¬ framing.AtMarker g := by
  intro marker
  have same := fixed.here.symm.trans marker.here
  cases same
  have field := fixed.field
  rw [FrameType.not_isField marker.marker] at field
  contradiction

/-- The content of the variable field in front of `next`. -/
def freeContent (framing : Framing F) (next : F) : Bytes :=
  (framing.freeReception next).socket.data.take
    ((framing.freeReception next).socket.data.length - getSize next)

/-- The field in front of `next`, with its content stored. -/
def freeStored (framing : Framing F) (next : F) : Framing F :=
  (framing.entered.receive (framing.freeReception next)).store (framing.freeContent next)

theorem freeStored_tmp : (framing.freeStored next).tmp = framing.tmp := entered_tmp

/-- What the receiving part of the loop body gives, and the events of it. -/
inductive Branch (framing : Framing F) (f : F) : Nat × Framing F → List FrameEvent → Prop where
  | marker (at_ : framing.AtMarker f) : Branch framing f
      (framing.entered.receiveMarker (framing.entered.markerReception f))
      (framing.entered.served (framing.entered.markerReception f))
  | fixed (at_ : framing.AtFixed f) (served : (framing.fixedReception f).code = 0)
      (content : (framing.fixedReception f).socket.data ≠ []) : Branch framing f
      (0, (framing.entered.receive (framing.fixedReception f)).store
        (framing.fixedReception f).socket.data)
      [.received framing.tmp]
  | bare (at_ : framing.AtFixed f) (served : (framing.fixedReception f).code = 0) :
      Branch framing f (2, framing.entered.receive (framing.fixedReception f))
        [.received framing.tmp]
  | starved (at_ : framing.AtFixed f) (unserved : (framing.fixedReception f).code ≠ 0) :
      Branch framing f (0, framing.entered.receive (framing.fixedReception f)) []
  | free {next : F} (at_ : framing.AtFree f next) (served : (framing.freeReception next).code = 0) :
      Branch framing f (0, (framing.freeStored next).toMarker)
        ((if (framing.entered.sock.searchLoop (getReference next) framing.entered.wire
            [] 0 0 false).found
          then [.received framing.tmp, .received (framing.tmp + 1)] else []) ++
          (framing.freeStored next).toMarkerEvents)
  | missed {next : F} (at_ : framing.AtFree f next)
      (unserved : (framing.freeReception next).code ≠ 0) : Branch framing f
      (2, framing.entered.receive (framing.freeReception next)) []
  | odd (notFixed : ∀ g, ¬ framing.AtFixed g) (notFree : ∀ g next, ¬ framing.AtFree g next) :
      Branch framing f (4, framing.entered) []

omit [DataFrame F] in
@[simp] theorem receive_tmp (reception : Reception) :
    (framing.receive reception).tmp = framing.tmp := rfl

omit [DataFrame F] in
theorem served_success {reception : Reception} (served : reception.code = 0) :
    framing.served reception = [.received framing.tmp] := if_pos served

omit [DataFrame F] in
theorem served_failure {reception : Reception} (unserved : reception.code ≠ 0) :
    framing.served reception = [] := if_neg unserved

theorem receiveFixed_branch (at_ : framing.AtFixed f) :
    framing.Branch f (framing.entered.receiveFixed (getSize f))
      (framing.entered.served (framing.fixedReception f)) := by
  unfold receiveFixed
  dsimp only
  split
  · rename_i served
    have events := @served_success F framing.entered _ served
    rw [entered_tmp] at events
    rw [fixedReception, events]
    split
    · rename_i content
      exact .fixed at_ served (List.length_pos_iff.mp content)
    · exact .bare at_ served
  · rename_i unserved
    rw [fixedReception, served_failure unserved]
    exact .starved at_ unserved

theorem receiveUntill_branch (at_ : framing.AtFree f next) :
    framing.Branch f (framing.entered.receiveUntill next) (framing.entered.untillEvents next) := by
  unfold receiveUntill untillEvents
  dsimp only
  split
  · rename_i served
    have content := Socket.receiveUntillStopBytes_data at_.nonempty served
    split
    · rw [receive_tmp, entered_tmp]
      exact .free at_ served
    · rename_i empty
      exact absurd (List.length_pos_iff.mpr content) empty
  · rename_i unserved
    exact .missed at_ unserved

theorem receiveElement_branch (here : framing.entered.sock.frameFormat[framing.tmp]? = some f) :
    framing.Branch f (framing.entered.receiveElement f) (framing.entered.elementEvents f) := by
  have dispatch := @receiveElement_dispatch F _ framing.entered f (by rw [entered_tmp]; exact here)
  generalize framing.entered.receiveElement f = result at dispatch ⊢
  generalize framing.entered.elementEvents f = events at dispatch ⊢
  cases dispatch with
  | start type nonempty =>
      have reception : framing.entered.markerReception f =
          framing.entered.sock.toSocket.receiveStartBytes framing.entered.wire (getReference f) :=
        if_pos type
      rw [← reception]
      exact .marker ⟨here, by rw [type]; rfl, nonempty⟩
  | stop type nonempty =>
      have reception : framing.entered.markerReception f =
          framing.entered.sock.toSocket.receiveStopBytes framing.entered.wire (getReference f) :=
        if_neg (by rw [type]; nofun)
      rw [← reception]
      exact .marker ⟨here, by rw [type]; rfl, nonempty⟩
  | fixed field sized => exact receiveFixed_branch ⟨here, field, sized⟩
  | untill field free behind marker nonempty =>
      rw [entered_tmp] at behind
      exact receiveUntill_branch ⟨here, field, free, behind, marker, nonempty⟩
  | invalid odd =>
      rw [entered_tmp] at odd
      exact .odd (fun _ fixed => odd fixed.receivable) fun _ _ free => odd free.receivable

theorem Onward.branch (onward : framing.Onward later) :
    ∃ f middle, framing.entered.sock.frameFormat[framing.tmp]? = some f ∧
      framing.Branch f (0, middle) (framing.entered.elementEvents f) ∧
      framing.entered.receiveElement f = (0, middle) ∧
      (middle.execute getPostExecuteFunction).sock.isFormatValid = true ∧
      later = (middle.execute getPostExecuteFunction).advance := by
  have inside : framing.tmp < framing.entered.sock.frameFormat.length := by
    simpa [entered] using onward.1
  have here := List.getElem?_eq_getElem inside
  have passed := onward.2
  have branch := receiveElement_branch here
  rw [pass_eq here] at passed
  generalize received : framing.entered.receiveElement _ = result at passed branch
  obtain ⟨ret, middle⟩ := result
  dsimp only at passed
  split at passed
  · contradiction
  · rename_i served
    rw [not_not.mp served] at branch received
    split at passed
    · contradiction
    · rename_i valid
      rw [Bool.not_eq_false] at valid
      cases passed
      exact ⟨_, middle, here, branch, received, valid, rfl⟩

omit [DataFrame F] in
theorem advance_tmp {select : F → Option (Callback F)} :
    (middle.execute select).advance.tmp = middle.tmp + 1 := by
  show (middle.execute select).tmp + 1 = middle.tmp + 1
  rw [execute_tmp]

omit [DataFrame F] in
theorem advance_frameFormat : framing.advance.sock.frameFormat = framing.sock.frameFormat := rfl

theorem Onward.forward (onward : framing.Onward later) : framing.tmp < later.tmp := by
  obtain ⟨f, middle, -, -, received, -, isLater⟩ := onward.branch
  have position := (framing.entered.receiveElement_tmp f).1
  rw [received, entered_tmp] at position
  rw [isLater, advance_tmp]
  exact Nat.lt_succ_of_le position

theorem onward_unique (onward : framing.Onward later) (again : framing.Onward other) :
    later = other := by
  have same := onward.2.symm.trans again.2
  cases same
  rfl

end Framing

end SynapTCP
