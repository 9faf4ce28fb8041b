import SynapTCP.Frame.Branches
import SynapTCP.Frame.Failure

namespace SynapTCP

open Data DataFrame SynapSock

/-! # Recovery from a stop marker that fails

What the elements before the stop marker hold when it is not received, and
where they have it from.
-/

namespace Framing

variable {F : Type} [DataFrame F] {start framing later middle other last : Framing F} {f g next : F}

/-! ## One pass after another -/

theorem Reaches.forward (reaches : framing.Reaches later) : framing.tmp ≤ later.tmp := by
  induction reaches with
  | refl => exact Nat.le_refl _
  | tail _ onward ih => exact Nat.le_of_lt (Nat.lt_of_le_of_lt ih onward.forward)

theorem pass_unique {left right : Framing F} {i : Nat} (reachesLeft : start.Reaches left)
    (onwardLeft : left.Onward later) (reachesRight : start.Reaches right)
    (onwardRight : right.Onward other) (inLeft : left.tmp ≤ i ∧ i < later.tmp)
    (inRight : right.tmp ≤ i ∧ i < other.tmp) : left = right := by
  have unique : Relator.RightUnique (@Onward F _) := fun _ _ _ => onward_unique
  rcases Relation.ReflTransGen.total_of_right_unique unique reachesLeft reachesRight with
    behind | behind
  · rcases behind.cases_head with same | ⟨next, first, rest⟩
    · exact same
    · have forward := Reaches.forward rest
      rw [onward_unique first onwardLeft] at forward
      omega
  · rcases behind.cases_head with same | ⟨next, first, rest⟩
    · exact same.symm
    · have forward := Reaches.forward rest
      rw [onward_unique first onwardRight] at forward
      omega

/-! ## What a pass leaves in its elements -/

/-- The pass receives `bytes` for the element at `i`. -/
inductive Gets (framing : Framing F) : Nat → Bytes → Prop where
  | marker {f : F} (at_ : framing.AtMarker f)
      (matched : (framing.entered.markerReception f).code = 0) :
      Gets framing framing.tmp (getReference f)
  | fixed {f : F} (at_ : framing.AtFixed f) (served : (framing.fixedReception f).code = 0) :
      Gets framing framing.tmp (framing.fixedReception f).socket.data
  | free {f next : F} (at_ : framing.AtFree f next)
      (served : (framing.freeReception next).code = 0) (found : ¬ framing.Overrun) :
      Gets framing framing.tmp (framing.freeContent next)
  | closing {f next : F} (at_ : framing.AtFree f next)
      (served : (framing.freeReception next).code = 0) (found : ¬ framing.Overrun) :
      Gets framing (framing.tmp + 1) (getReference next)

/-- A field that the reads do not serve holds bytes from before. -/
def Stale (framing : Framing F) : Prop :=
  ∃ f, framing.AtFixed f ∧ (framing.fixedReception f).code ≠ 0 ∧ getData f ≠ []

/-- What a pass that goes on has made of the elements from `tmp` on. -/
inductive Settled (framing later : Framing F) : Prop where
  | received (g : F) (position : later.tmp = framing.tmp + 1)
      (there : later.sock.frameFormat[framing.tmp]? = some g)
      (gets : framing.Gets framing.tmp (getData g)) (nonempty : getData g ≠ [])
      (alone : ∀ f next, ¬ framing.AtFree f next)
  | starved (f g : F) (position : later.tmp = framing.tmp + 1)
      (there : later.sock.frameFormat[framing.tmp]? = some g) (at_ : framing.AtFixed f)
      (unserved : (framing.fixedReception f).code ≠ 0) (same : getData g = getData f)
  | across (f next g last : F) (position : later.tmp = framing.tmp + 2)
      (there : later.sock.frameFormat[framing.tmp]? = some g)
      (closing : later.sock.frameFormat[framing.tmp + 1]? = some last)
      (at_ : framing.AtFree f next) (served : (framing.freeReception next).code = 0)
      (content : getData g = framing.freeContent next) (ending : getData last = getReference next)

theorem Onward.settled [LawfulDataFrame F] (considerate : Considerate framing.sock.frameFormat)
    (onward : framing.Onward later) :
    Rewrites framing.tmp framing.sock.frameFormat later.sock.frameFormat ∧
      framing.Settled later := by
  have entering := entered_rewrites considerate
  obtain ⟨f, middle, here, branch, -, -, isLater⟩ := onward.branch
  have position : later.tmp = middle.tmp + 1 := by
    rw [isLater]
    exact advance_tmp
  subst isLater
  generalize result : ((0 : Nat), middle) = outcome at branch
  generalize framing.entered.elementEvents f = events at branch
  cases branch with
  | marker at_ =>
      obtain ⟨code, isMiddle⟩ := Prod.mk.inj result
      subst isMiddle
      have matched : (framing.entered.markerReception f).code = 0 := by
        by_contra missed
        rw [if_pos missed] at code
        contradiction
      have content : getData f = getReference f := LawfulDataFrame.getData_marker f at_.marker
      obtain ⟨rewrites, there⟩ :=
        @element_in_place F _ _ (framing.entered.receive (framing.entered.markerReception f)) f
          considerate entering entered_tmp here
      rw [receive_tmp, entered_tmp] at position
      refine ⟨rewrites, .received f position there ?_ ?_ fun _ _ free => free.not_marker at_⟩
      · rw [content]
        exact .marker at_ matched
      · rw [content]
        exact at_.nonempty
  | fixed at_ served content =>
      obtain ⟨-, isMiddle⟩ := Prod.mk.inj result
      subst isMiddle
      have holds : getData (setData f (framing.fixedReception f).socket.data) =
          (framing.fixedReception f).socket.data := LawfulDataFrame.getData_setData f _ at_.field
      obtain ⟨stored, written⟩ := storing considerate here [] []
        (framing.fixedReception f).socket.data framing.wire
      obtain ⟨rewrites, there⟩ := @element_in_place F _ _
        ((framing.entered.receive (framing.fixedReception f)).store
          (framing.fixedReception f).socket.data) _ considerate stored entered_tmp written
      rw [store_tmp, receive_tmp, entered_tmp] at position
      refine ⟨rewrites, .received _ position there ?_ ?_ fun _ _ free => at_.not_atFree free⟩
      · rw [holds]
        exact .fixed at_ served
      · rw [holds]
        exact content
  | bare _ _ => cases result
  | starved at_ unserved =>
      obtain ⟨-, isMiddle⟩ := Prod.mk.inj result
      subst isMiddle
      obtain ⟨rewrites, there⟩ :=
        @element_in_place F _ _ (framing.entered.receive (framing.fixedReception f)) f
          considerate entering entered_tmp here
      rw [receive_tmp, entered_tmp] at position
      exact ⟨rewrites, .starved f f position there at_ unserved rfl⟩
  | @free next at_ served =>
      obtain ⟨-, isMiddle⟩ := Prod.mk.inj result
      subst isMiddle
      have holds : getData (setData f (framing.freeContent next)) = framing.freeContent next :=
        LawfulDataFrame.getData_setData f _ at_.field
      obtain ⟨stored, written⟩ := storing considerate here [] []
        (framing.freeContent next) framing.wire
      have behind : (framing.freeStored next).sock.frameFormat[framing.tmp + 1]? = some next := by
        simpa [freeStored, store, receive] using at_.behind
      obtain ⟨rewrites, there, last, closing, -, ending⟩ :=
        @elements_across F _ _ (framing.freeStored next) _ next _ considerate stored freeStored_tmp
          written behind at_.marker
      rw [toMarker_tmp, freeStored_tmp] at position
      rw [← advance_frameFormat] at there closing
      exact ⟨rewrites, .across f next _ last position there closing at_ served holds ending⟩
  | missed _ _ => cases result
  | odd _ _ => cases result

theorem Gets.fed {i : Nat} {bytes : Bytes} (gets : framing.Gets i bytes) : ¬ framing.Starved := by
  cases gets with
  | marker at_ _ =>
      intro starved
      obtain ⟨g, fixed, -⟩ := starved
      exact fixed.not_marker at_
  | fixed at_ served =>
      rw [at_.starved_iff]
      exact not_not.mpr served
  | free at_ _ _ => exact at_.not_fixed
  | closing at_ _ _ => exact at_.not_fixed

/-- It is the element at `tmp`, or the stop marker that comes with it. -/
theorem Gets.place {i : Nat} {bytes : Bytes} (gets : framing.Gets i bytes) :
    i = framing.tmp ∨
      i = framing.tmp + 1 ∧ ¬ framing.Overrun ∧ ∃ f next, framing.AtFree f next := by
  cases gets with
  | marker _ _ => exact .inl rfl
  | fixed _ _ => exact .inl rfl
  | free _ _ _ => exact .inl rfl
  | closing at_ _ found => exact .inr ⟨rfl, found, _, _, at_⟩

namespace Settled

theorem forward (settled : framing.Settled later) : framing.tmp < later.tmp := by
  cases settled with
  | received _ position => omega
  | starved _ _ position => omega
  | across _ _ _ _ position => omega

theorem position_free (settled : framing.Settled later) (free : framing.AtFree f next) :
    later.tmp = framing.tmp + 2 := by
  cases settled with
  | received _ _ _ _ _ alone => exact absurd free (alone f next)
  | starved _ _ _ _ fixed _ _ => exact absurd free fixed.not_atFree
  | across _ _ _ _ position => exact position

theorem within (settled : framing.Settled later) {i : Nat} {bytes : Bytes}
    (gets : framing.Gets i bytes) : framing.tmp ≤ i ∧ i < later.tmp := by
  have forward := settled.forward
  rcases gets.place with here | ⟨behind, -, f, next, free⟩
  · omega
  · have position := settled.position_free free
    omega

theorem gets (settled : framing.Settled later) (fresh : ¬ framing.Stale)
    (found : ¬ framing.Overrun) {i : Nat} (low : framing.tmp ≤ i) (high : i < later.tmp)
    (there : later.sock.frameFormat[i]? = some g) (nonempty : getData g ≠ []) :
    framing.Gets i (getData g) := by
  cases settled with
  | received other position here gets _ _ =>
      have place : i = framing.tmp := by omega
      subst place
      rw [here] at there
      cases there
      exact gets
  | starved f other position here at_ unserved same =>
      have place : i = framing.tmp := by omega
      subst place
      rw [here] at there
      cases there
      rw [same] at nonempty
      exact absurd ⟨f, at_, unserved, nonempty⟩ fresh
  | across f next other last position here closing at_ served content ending =>
      rcases Nat.eq_or_lt_of_le low with place | behind
      · subst place
        rw [here] at there
        cases there
        rw [content]
        exact .free at_ served found
      · have place : i = framing.tmp + 1 := by omega
        subst place
        rw [closing] at there
        cases there
        rw [ending]
        exact .closing at_ served found

theorem holds (settled : framing.Settled later) (fed : ¬ framing.Starved) :
    ∃ i g, i < later.tmp ∧ later.sock.frameFormat[i]? = some g ∧ getData g ≠ [] := by
  cases settled with
  | received g position there _ nonempty _ => exact ⟨_, g, by omega, there, nonempty⟩
  | starved f _ _ _ at_ unserved _ => exact absurd ⟨f, at_, unserved⟩ fed
  | across f next _ last position _ closing at_ _ _ ending =>
      exact ⟨_, last, by omega, closing, by rw [ending]; exact at_.nonempty⟩

/-- Stale bytes stay, and a missing stop marker counts as there: no reception
brought them. -/
theorem foreign (settled : framing.Settled later) (bad : framing.Stale ∨ framing.Overrun) :
    ∃ i g, framing.tmp ≤ i ∧ i < later.tmp ∧ later.sock.frameFormat[i]? = some g ∧
      getData g ≠ [] ∧ ∀ bytes, ¬ framing.Gets i bytes := by
  rcases bad with ⟨f, fixed, unserved, nonempty⟩ | overrun
  · have cut : framing.Starved := ⟨f, fixed, unserved⟩
    cases settled with
    | received _ _ _ gets _ _ => exact absurd cut gets.fed
    | starved other g position there at_ _ same =>
        have equal := fixed.here.symm.trans at_.here
        cases equal
        refine ⟨_, g, Nat.le_refl _, by omega, there, by rw [same]; exact nonempty, ?_⟩
        intro bytes gets
        exact gets.fed cut
    | across _ _ _ _ _ _ _ at_ _ _ _ => exact absurd cut at_.not_fixed
  · obtain ⟨f, next, free, served, missed⟩ := overrun
    cases settled with
    | received _ _ _ _ _ alone => exact absurd free (alone f next)
    | starved _ _ _ _ at_ _ _ => exact absurd free at_.not_atFree
    | across _ _ _ last position _ closing at_ _ _ ending =>
        refine ⟨_, last, Nat.le_succ _, by omega, closing, by rw [ending]; exact at_.nonempty, ?_⟩
        intro bytes gets
        rcases gets.place with here | ⟨-, found, -⟩
        · omega
        · exact found ⟨f, next, free, served, missed⟩

end Settled

/-! ## What a run leaves in the elements behind it -/

theorem Reaches.covered {i : Nat} (reaches : start.Reaches framing) (low : start.tmp ≤ i)
    (high : i < framing.tmp) :
    ∃ before later, start.Reaches before ∧ before.Onward later ∧ later.Reaches framing ∧
      before.tmp ≤ i ∧ i < later.tmp := by
  induction reaches with
  | refl => omega
  | @tail before later reached onward ih =>
      rcases Nat.lt_or_ge i before.tmp with early | here
      · obtain ⟨first, next, reachedFirst, step, rest, bounds⟩ := ih early
        exact ⟨first, next, reachedFirst, step, rest.tail onward, bounds⟩
      · exact ⟨before, later, reached, onward, .refl, here, high⟩

theorem pass_failed {ret : Nat} (more : framing.tmp < framing.sock.frameFormat.length)
    (left : framing.pass = .leave ret last) (notFour : ret ≠ 4) :
    ∃ reception, last = framing.entered.receive reception := by
  have inside : framing.tmp < framing.entered.sock.frameFormat.length := by
    simpa [entered] using more
  have here := List.getElem?_eq_getElem inside
  have branch := receiveElement_branch here
  rw [pass_eq here] at left
  generalize framing.entered.receiveElement _ = result at left branch
  generalize framing.entered.elementEvents _ = events at branch
  split at left
  · rename_i failed
    cases left
    cases branch with
    | marker _ => exact ⟨_, rfl⟩
    | fixed _ _ _ => exact absurd rfl failed
    | bare _ _ => exact ⟨_, rfl⟩
    | starved _ _ => exact absurd rfl failed
    | free _ _ => exact absurd rfl failed
    | missed _ _ => exact ⟨_, rfl⟩
    | odd _ _ => exact absurd rfl notFour
  · split at left
    · cases left
      exact absurd rfl notFour
    · contradiction

variable [LawfulDataFrame F]

theorem Reaches.rewrites (considerate : Considerate start.sock.frameFormat)
    (reaches : start.Reaches framing) :
    Rewrites start.tmp start.sock.frameFormat framing.sock.frameFormat := by
  induction reaches with
  | refl => exact Rewrites.refl _ _
  | tail reached onward ih =>
      have step := (onward.settled (considerate.rewrites ih)).1
      exact ih.trans (step.weaken (Reaches.forward reached))

theorem Reaches.considerate (considerate : Considerate start.sock.frameFormat)
    (reaches : start.Reaches framing) : Considerate framing.sock.frameFormat :=
  considerate.rewrites (reaches.rewrites considerate)

theorem Reaches.settled (considerate : Considerate start.sock.frameFormat)
    (reaches : start.Reaches framing) (onward : framing.Onward later) : framing.Settled later :=
  (onward.settled (reaches.considerate considerate)).2

end Framing

namespace SynapSock

variable {F : Type} [DataFrame F] {sock : SynapSock F} {w : Wire} {last : Framing F} {ret : Nat}

/-- The call comes to the recovery: the loop is left at a stop marker, not the
first element, and not for the format. -/
structure StopFails (sock : SynapSock F) (w : Wire) (last : Framing F) : Prop where
  format : sock.frameFormat ≠ []
  ended : ∃ ret, ret ≠ 0 ∧ ret ≠ 4 ∧ (sock.opening w).frameLoop = (ret, last)
  behind : last.tmp ≠ 0
  marker : ∃ f, last.sock.frameFormat[last.tmp]? = some f ∧ getType f = .stopBytes

/-- `dataFail` has a first byte, and each of its pieces was received in this call
for the element that holds it. -/
structure Rebuilds (sock : SynapSock F) (w : Wire) (last : Framing F) : Prop where
  nonempty : dataFail last.sock.frameFormat last.tmp ≠ []
  own : ∀ i g, i < last.tmp → last.sock.frameFormat[i]? = some g → getData g ≠ [] →
    ∃ framing later, (sock.opening w).Reaches framing ∧ framing.Onward later ∧
      framing.Gets i (getData g)

/-- The reads bring something, and no element is gone by with bytes that they
did not bring. -/
structure Provided (sock : SynapSock F) (w : Wire) : Prop where
  served : ∃ framing later, (sock.opening w).Reaches framing ∧ framing.Onward later ∧
    ¬ framing.Starved
  fresh : ∀ framing later, (sock.opening w).Reaches framing → framing.Onward later →
    ¬ framing.Stale
  found : ∀ framing later, (sock.opening w).Reaches framing → framing.Onward later →
    ¬ framing.Overrun

theorem conclude_none : conclude ret last = none ↔ ret ≠ 0 ∧ ret ≠ 4 ∧ last.tmp ≠ 0 ∧
    (∃ f, last.sock.frameFormat[last.tmp]? = some f ∧ getType f = .stopBytes) ∧
    dataFail last.sock.frameFormat last.tmp = [] := by
  unfold conclude
  dsimp only
  split
  · rename_i zero
    simp [zero]
  · rename_i failed
    split
    · rename_i beyond
      simp [beyond]
    · rename_i f here
      split
      · rename_i stop
        split
        · rename_i empty
          simp [failed, stop, here, empty]
        · rename_i first rest kept
          simp [kept]
      · rename_i other
        simp only [reduceCtorEq, false_iff]
        intro bad
        obtain ⟨-, notFour, behind, ⟨g, there, marker⟩, -⟩ := bad
        rw [here] at there
        cases there
        exact other ⟨notFour, behind, marker⟩

/-- The iterators leave `dataFail` exactly if it is empty in the recovery. -/
theorem receiveFramedData_none : sock.receiveFramedData w = none ↔
    ∃ last, sock.StopFails w last ∧ dataFail last.sock.frameFormat last.tmp = [] := by
  unfold receiveFramedData
  split
  · rename_i empty
    simp only [reduceCtorEq, false_iff]
    intro bad
    obtain ⟨_, fails, -⟩ := bad
    exact fails.format empty
  · rename_i format
    dsimp only
    generalize ended : (sock.opening w).frameLoop = result
    obtain ⟨ret, last⟩ := result
    rw [conclude_none]
    constructor
    · intro outcome
      obtain ⟨failed, notFour, behind, marker, empty⟩ := outcome
      exact ⟨last, ⟨format, ⟨ret, failed, notFour, ended⟩, behind, marker⟩, empty⟩
    · intro recovery
      obtain ⟨other, ⟨-, ⟨code, failed, notFour, same⟩, behind, marker⟩, empty⟩ := recovery
      rw [ended] at same
      cases same
      exact ⟨failed, notFour, behind, marker, empty⟩

theorem stopFails_of_loop (format : sock.frameFormat ≠ [])
    (code : (sock.opening w).frameLoop.1 = 2) (behind : (sock.opening w).frameLoop.2.tmp ≠ 0)
    (marker : ((sock.opening w).frameLoop.2.sock.frameFormat[
      (sock.opening w).frameLoop.2.tmp]?).map getType = some .stopBytes) :
    sock.StopFails w (sock.opening w).frameLoop.2 where
  format := format
  ended := ⟨_, by rw [code]; decide, by rw [code]; decide, rfl⟩
  behind := behind
  marker := Option.map_eq_some_iff.mp marker

variable [LawfulDataFrame F]

/-- The loop comes to the recovery from a framing whose elements before `tmp`
are those that the recovery finds. -/
theorem StopFails.exit (considerate : Considerate sock.frameFormat)
    (fails : sock.StopFails w last) :
    ∃ before, (sock.opening w).Reaches before ∧ last.tmp = before.tmp ∧
      Rewrites before.tmp before.sock.frameFormat last.sock.frameFormat := by
  obtain ⟨ret, failed, notFour, ended⟩ := fails.ended
  rcases Framing.frameLoop_reaches ended with ⟨zero, -⟩ | ⟨before, reaches, more, left⟩
  · exact absurd zero failed
  · have considerateBefore : Considerate before.sock.frameFormat :=
      reaches.considerate considerate
    obtain ⟨reception, rfl⟩ := Framing.pass_failed more left notFour
    exact ⟨before, reaches, Framing.entered_tmp,
      Framing.entered_rewrites considerateBefore⟩

/-- Every pass that goes on is behind the recovery. -/
theorem StopFails.past {framing later : Framing F} (considerate : Considerate sock.frameFormat)
    (fails : sock.StopFails w last) (reaches : (sock.opening w).Reaches framing)
    (onward : framing.Onward later) :
    later.tmp ≤ last.tmp ∧ ∀ i g, i < later.tmp → later.sock.frameFormat[i]? = some g →
      last.sock.frameFormat[i]? = some g := by
  obtain ⟨ret, failed, notFour, ended⟩ := fails.ended
  obtain ⟨before, rest, more, left⟩ := exit_behind onward (reaches.frameLoop_eq.trans ended) failed
  have considerateLater : Considerate later.sock.frameFormat :=
    Framing.Reaches.considerate considerate (reaches.tail onward)
  have forward := Framing.Reaches.forward rest
  have along := Framing.Reaches.rewrites considerateLater rest
  have entering := Framing.entered_rewrites (considerateLater.rewrites along)
  obtain ⟨reception, rfl⟩ := Framing.pass_failed more left notFour
  have position : (before.entered.receive reception).tmp = before.tmp := Framing.entered_tmp
  refine ⟨by omega, ?_⟩
  intro i g bound here
  obtain ⟨other, there, -, kept⟩ := (along.trans (entering.weaken forward)).element_after here
  rw [kept bound]
  exact there

/-- What was received is rebuilt, and something was. -/
theorem Provided.rebuilds (considerate : Considerate sock.frameFormat) (provided : sock.Provided w)
    (fails : sock.StopFails w last) : sock.Rebuilds w last := by
  obtain ⟨before, reaches, position, kept⟩ := fails.exit considerate
  constructor
  · obtain ⟨framing, later, reached, onward, fed⟩ := provided.served
    obtain ⟨i, g, bound, here, nonempty⟩ := (reached.settled considerate onward).holds fed
    obtain ⟨past, same⟩ := fails.past considerate reached onward
    exact dataFail_ne_nil.mpr ⟨i, g, by omega, same i g bound here, nonempty⟩
  · intro i g bound here nonempty
    obtain ⟨framing, later, reached, onward, -, low, high⟩ :=
      reaches.covered (Nat.zero_le i) (by omega)
    obtain ⟨past, same⟩ := fails.past considerate reached onward
    have inside : i < later.sock.frameFormat.length := by
      have length := (Framing.Reaches.rewrites considerate (reached.tail onward)).length
      have lengthBefore := (reaches.rewrites considerate).length
      have whole := kept.length
      have bounded := (List.getElem?_eq_some_iff.mp here).1
      omega
    have there := List.getElem?_eq_getElem inside
    have equal := (same i _ high there).symm.trans here
    cases equal
    exact ⟨framing, later, reached, onward, (reached.settled considerate onward).gets
      (provided.fresh framing later reached onward) (provided.found framing later reached onward)
      low high there nonempty⟩

/-- A recovery that is right tells that the reads have provided for it. -/
theorem Rebuilds.provided (considerate : Considerate sock.frameFormat)
    (fails : sock.StopFails w last) (rebuilds : sock.Rebuilds w last) : sock.Provided w := by
  have proper : ∀ framing later, (sock.opening w).Reaches framing → framing.Onward later →
      ¬ (framing.Stale ∨ framing.Overrun) := by
    intro framing later reached onward bad
    obtain ⟨i, g, low, high, here, nonempty, foreign⟩ :=
      (reached.settled considerate onward).foreign bad
    obtain ⟨past, same⟩ := fails.past considerate reached onward
    obtain ⟨other, next, reachedOther, onwardOther, gets⟩ :=
      rebuilds.own i g (by omega) (same i g high here) nonempty
    have equal := Framing.pass_unique reached onward reachedOther onwardOther ⟨low, high⟩
      ((reachedOther.settled considerate onwardOther).within gets)
    subst equal
    exact foreign _ gets
  refine ⟨?_, fun framing later reached onward stale => proper framing later reached onward
    (.inl stale), fun framing later reached onward overrun => proper framing later reached onward
    (.inr overrun)⟩
  obtain ⟨i, g, bound, here, nonempty⟩ := dataFail_ne_nil.mp rebuilds.nonempty
  obtain ⟨framing, later, reached, onward, gets⟩ := rebuilds.own i g bound here nonempty
  exact ⟨framing, later, reached, onward, gets.fed⟩

/-- The recovery has bytes to work on, all of them received in the call, exactly
if a call that comes to it has been provided with them. -/
theorem receiveFramedData_rebuilds_iff (considerate : Considerate sock.frameFormat) :
    (∀ last, sock.StopFails w last → sock.Rebuilds w last) ↔
      ((∃ last, sock.StopFails w last) → sock.Provided w) := by
  constructor
  · intro right recovery
    obtain ⟨last, fails⟩ := recovery
    exact (right last fails).provided considerate fails
  · intro provided last fails
    exact (provided ⟨last, fails⟩).rebuilds considerate fails

/-- Between the start marker and the stop marker that fails a field is cut off. -/
theorem receiveFramedData_rebuilds_iff_lossy :
    (∃ last, (sample sampleFormat []).StopFails lossyWire last) ∧
      ((∀ last, (sample sampleFormat []).StopFails lossyWire last →
          (sample sampleFormat []).Rebuilds lossyWire last) ↔
        ((∃ last, (sample sampleFormat []).StopFails lossyWire last) →
          (sample sampleFormat []).Provided lossyWire)) :=
  ⟨⟨_, stopFails_of_loop (by decide) (by decide +kernel) (by decide +kernel) (by decide +kernel)⟩,
    receiveFramedData_rebuilds_iff (sample_considerate (by decide))⟩

/-- No start marker, and a peer that sends nothing. -/
def bareFormat : List Element := [.field 4 [], .stop [3]]

def silentWire : Wire := ⟨[], [], 0⟩

/-- The field holds nothing, so the recovery inserts from past the end of an
empty `dataFail`. -/
theorem not_rebuilds_silent :
    (sample bareFormat []).receiveFramedData silentWire = none ∧
      ¬ ∀ last, (sample bareFormat []).StopFails silentWire last →
        (sample bareFormat []).Rebuilds silentWire last := by
  have fails : (sample bareFormat []).StopFails silentWire
      ((sample bareFormat []).opening silentWire).frameLoop.2 :=
    stopFails_of_loop (by decide) (by decide +kernel) (by decide +kernel) (by decide +kernel)
  have empty : dataFail ((sample bareFormat []).opening silentWire).frameLoop.2.sock.frameFormat
      ((sample bareFormat []).opening silentWire).frameLoop.2.tmp = [] := by
    decide +kernel
  refine ⟨receiveFramedData_none.mpr ⟨_, fails, empty⟩, ?_⟩
  intro right
  exact (right _ fails).nonempty empty

end SynapSock

end SynapTCP
