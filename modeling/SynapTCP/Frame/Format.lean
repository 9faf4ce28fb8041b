import SynapTCP.Frame.Receive
import Mathlib.Data.List.Forall2

namespace SynapTCP

open DataFrame

/-! # Formats during a reception

A reception rewrites the elements of a format one after another and never what
stands before the element it is at.  Types, references and functions stay; sizes
and bytes of elements still to come may change.
-/

section

variable {F : Type} [DataFrame F]

structure SameKind (before after : F) : Prop where
  type : getType after = getType before
  reference : getReference after = getReference before
  executeFunction : getExecuteFunction after = getExecuteFunction before
  postExecuteFunction : getPostExecuteFunction after = getPostExecuteFunction before

theorem SameKind.refl (f : F) : SameKind f f := ⟨rfl, rfl, rfl, rfl⟩

theorem SameKind.trans {first second third : F} (left : SameKind first second)
    (right : SameKind second third) : SameKind first third :=
  ⟨right.type.trans left.type, right.reference.trans left.reference,
    right.executeFunction.trans left.executeFunction,
    right.postExecuteFunction.trans left.postExecuteFunction⟩

/-- The first `kept` elements stay as they are, the others keep their kind. -/
structure Rewrites (kept : Nat) (before after : List F) : Prop where
  kinds : List.Forall₂ SameKind before after
  front : after.take kept = before.take kept

namespace Rewrites

variable {kept : Nat} {before middle after : List F}

theorem refl (kept : Nat) (format : List F) : Rewrites kept format format where
  kinds := List.forall₂_same.mpr fun f _ => SameKind.refl f
  front := rfl

theorem trans (left : Rewrites kept before middle) (right : Rewrites kept middle after) :
    Rewrites kept before after where
  kinds := by
    have left := left.kinds
    have right := right.kinds
    clear * - left right
    induction left generalizing after with
    | nil => simpa using right
    | cons same _ ih =>
        cases right with
        | cons again right => exact .cons (same.trans again) (ih right)
  front := right.front.trans left.front

theorem weaken {fewer : Nat} (rewrites : Rewrites kept before after) (bound : fewer ≤ kept) :
    Rewrites fewer before after where
  kinds := rewrites.kinds
  front := by
    have front := congrArg (List.take fewer) rewrites.front
    simpa [List.take_take, Nat.min_eq_left bound] using front

theorem length (rewrites : Rewrites kept before after) : after.length = before.length :=
  rewrites.kinds.length_eq.symm

/-- An element of the result comes from one of the same kind in its place, and
from itself if it is among the kept ones. -/
theorem element {i : Nat} {f : F} (rewrites : Rewrites kept before after)
    (here : after[i]? = some f) :
    ∃ g, before[i]? = some g ∧ SameKind g f ∧ (i < kept → g = f) := by
  have bound : i < after.length := List.getElem?_eq_some_iff.mp here |>.1
  have position : i < before.length := by rw [← rewrites.length]; exact bound
  have same := rewrites.kinds.get position bound
  have value : after[i] = f := List.getElem?_eq_some_iff.mp here |>.2
  refine ⟨before[i], List.getElem?_eq_getElem position, ?_, fun early => ?_⟩
  · rw [← value]
    exact same
  · have front := congrArg (fun format : List F => format[i]?) rewrites.front
    simp only [List.getElem?_take_of_lt early, here, List.getElem?_eq_getElem position] at front
    exact (Option.some.inj front).symm

theorem element_after {i : Nat} {g : F} (rewrites : Rewrites kept before after)
    (here : before[i]? = some g) :
    ∃ f, after[i]? = some f ∧ SameKind g f ∧ (i < kept → g = f) := by
  have bound : i < before.length := List.getElem?_eq_some_iff.mp here |>.1
  have position : i < after.length := by rw [rewrites.length]; exact bound
  obtain ⟨other, there, same, kept⟩ := rewrites.element (List.getElem?_eq_getElem position)
  rw [here] at there
  cases there
  exact ⟨after[i], List.getElem?_eq_getElem position, same, kept⟩

end Rewrites

/-- The callbacks of the format leave alone what has been received: an execute
function runs before its element is received, a post-execute function behind. -/
def Considerate (format : List F) : Prop :=
  ∀ later, List.Forall₂ SameKind format later → ∀ index f callback, later[index]? = some f →
    (getExecuteFunction f = some callback →
      Rewrites index later (callback.run later index).1) ∧
    (getPostExecuteFunction f = some callback →
      Rewrites (index + 1) later (callback.run later index).1)

theorem Considerate.rewrites {kept : Nat} {before after : List F}
    (considerate : Considerate before) (rewrites : Rewrites kept before after) :
    Considerate after := by
  intro later kinds
  have path : Rewrites 0 before later :=
    (rewrites.weaken (Nat.zero_le _)).trans ⟨kinds, rfl⟩
  exact considerate later path.kinds

theorem considerate_of_no_functions {format : List F}
    (none : ∀ f ∈ format, getExecuteFunction f = none ∧ getPostExecuteFunction f = none) :
    Considerate format := by
  intro later kinds index f callback here
  obtain ⟨g, there, same, -⟩ := Rewrites.element ⟨kinds, (rfl : later.take 0 = _)⟩ here
  obtain ⟨before, behind⟩ := none g (List.mem_of_getElem? there)
  rw [same.executeFunction, same.postExecuteFunction, before, behind]
  exact ⟨by intro some; contradiction, by intro some; contradiction⟩

/-- No start marker but at the head. -/
def LoneStart (format : List F) : Prop :=
  ∀ i f, format[i]? = some f → getType f = .startBytes → i = 0

theorem loneStart_of_tail {format : List F}
    (behind : ∀ f ∈ format.tail, getType f ≠ .startBytes) : LoneStart format := by
  intro i f here start
  cases format with
  | nil => simp at here
  | cons first rest =>
      cases i with
      | zero => rfl
      | succ i => exact absurd start (behind f (List.mem_of_getElem? here))

theorem LoneStart.rewrites {kept : Nat} {before after : List F} (lone : LoneStart before)
    (rewrites : Rewrites kept before after) : LoneStart after := by
  intro i f here start
  obtain ⟨g, there, same, -⟩ := rewrites.element here
  exact lone i g there (by rw [← same.type]; exact start)

/-- The bytes in the element at `i` are those of a received element: as many as
a fixed size says, or in front of a stop marker. -/
def Fits (format : List F) (i : Nat) : Prop :=
  ∀ f, format[i]? = some f → (getType f).isField = true →
    (0 < getSize f → (getData f).length = getSize f) ∧
    (getSize f = 0 → ∃ next, format[i + 1]? = some next ∧ getType next = .stopBytes)

theorem Fits.rewrites {kept i : Nat} {before after : List F} (fits : Fits before i)
    (rewrites : Rewrites kept before after) (received : i < kept) : Fits after i := by
  intro f here field
  obtain ⟨g, there, same, unchanged⟩ := rewrites.element here
  have equal := unchanged received
  subst equal
  obtain ⟨sized, free⟩ := fits g there field
  refine ⟨sized, fun empty => ?_⟩
  obtain ⟨next, behind, stop⟩ := free empty
  obtain ⟨other, found, same, -⟩ := rewrites.element_after behind
  exact ⟨other, found, by rw [same.type]; exact stop⟩

theorem Fits.of_rewrites {kept i : Nat} {before after : List F} (fits : Fits after i)
    (rewrites : Rewrites kept before after) (received : i < kept) : Fits before i := by
  intro g there field
  obtain ⟨f, here, same, unchanged⟩ := rewrites.element_after there
  have equal := unchanged received
  subst equal
  obtain ⟨sized, free⟩ := fits g here field
  refine ⟨sized, fun empty => ?_⟩
  obtain ⟨next, behind, stop⟩ := free empty
  obtain ⟨other, found, same, -⟩ := rewrites.element behind
  exact ⟨other, found, by rw [← same.type]; exact stop⟩

end

namespace SynapSock

variable {F : Type} [DataFrame F]

@[simp] theorem dataFail_zero (format : List F) : dataFail format 0 = [] := rfl

theorem dataFail_succ {format : List F} {i : Nat} {f : F} (here : format[i]? = some f) :
    dataFail format (i + 1) = dataFail format i ++ getData f := by
  simp [dataFail, List.take_add_one, here]

theorem dataFail_ne_nil {format : List F} {fail : Nat} : dataFail format fail ≠ [] ↔
    ∃ i g, i < fail ∧ format[i]? = some g ∧ getData g ≠ [] := by
  rw [dataFail, Ne, List.flatMap_eq_nil_iff, Classical.not_forall]
  constructor
  · intro some
    obtain ⟨g, nonempty⟩ := some
    obtain ⟨there, bytes⟩ := Classical.not_imp.mp nonempty
    obtain ⟨i, here⟩ := List.mem_iff_getElem?.mp there
    rw [List.getElem?_take] at here
    split at here
    · rename_i bound
      exact ⟨i, g, bound, here, bytes⟩
    · contradiction
  · intro some
    obtain ⟨i, g, bound, here, bytes⟩ := some
    have there : (format.take fail)[i]? = Option.some g := by
      rw [List.getElem?_take_of_lt bound, here]
    exact ⟨g, fun empty => bytes (empty (List.mem_of_getElem? there))⟩

theorem dataFail_rewrites {kept i : Nat} {before after : List F}
    (rewrites : Rewrites kept before after) (bound : i ≤ kept) :
    dataFail after i = dataFail before i := by
  rw [dataFail, dataFail, (rewrites.weaken bound).front]

end SynapSock

namespace Framing

variable {F : Type} [DataFrame F] {framing : Framing F}

theorem execute_rewrites (considerate : Considerate framing.sock.frameFormat) :
    Rewrites framing.tmp framing.sock.frameFormat
      (framing.execute getExecuteFunction).sock.frameFormat := by
  unfold execute
  split
  · exact Rewrites.refl _ _
  · rename_i callback selected
    obtain ⟨f, here, function⟩ := Option.bind_eq_some_iff.mp selected
    exact (considerate _ (Rewrites.refl 0 _).kinds _ f callback here).1 function

theorem postExecute_rewrites (considerate : Considerate framing.sock.frameFormat) :
    Rewrites (framing.tmp + 1) framing.sock.frameFormat
      (framing.execute getPostExecuteFunction).sock.frameFormat := by
  unfold execute
  split
  · exact Rewrites.refl _ _
  · rename_i callback selected
    obtain ⟨f, here, function⟩ := Option.bind_eq_some_iff.mp selected
    exact (considerate _ (Rewrites.refl 0 _).kinds _ f callback here).2 function

theorem store_rewrites [LawfulDataFrame F] (framing : Framing F) (bytes : Bytes) :
    Rewrites framing.tmp framing.sock.frameFormat (framing.store bytes).sock.frameFormat where
  kinds := by
    rw [List.forall₂_iff_get]
    refine ⟨by simp, fun i before after => ?_⟩
    simp only [store, List.get_eq_getElem, List.getElem_modify]
    split
    · exact ⟨by simp, by simp, by simp, by simp⟩
    · exact SameKind.refl _
  front := by
    rw [store, List.take_modify, List.modify_eq_self (List.length_take_le _ _)]

theorem store_here (framing : Framing F) {f : F} (bytes : Bytes)
    (here : framing.sock.frameFormat[framing.tmp]? = some f) :
    (framing.store bytes).sock.frameFormat[framing.tmp]? = some (setData f bytes) := by
  simp [store, here]

end Framing

end SynapTCP
