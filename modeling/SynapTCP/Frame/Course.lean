import SynapTCP.Frame.Loop

namespace SynapTCP

open Data DataFrame SynapSock

/-! # The course of the loop

`total` is what the loop has had so far, the bytes left over at entry and those
read since, and `skip` the part of it in front of the start marker.
-/

namespace Framing

variable {F : Type} [DataFrame F]

structure Course (framing : Framing F) (total skip : Bytes) : Prop where
  ready : framing.sock.Readable
  considerate : Considerate framing.sock.frameFormat
  lone : LoneStart framing.sock.frameFormat
  within : framing.tmp ≤ framing.sock.frameFormat.length
  fresh : framing.tmp = 0 → skip = [] ∧ total = framing.sock.remainingData
  cleared : 0 < framing.tmp → framing.sock.data = []
  lead : skip ≠ [] → ∃ f, framing.sock.frameFormat[0]? = some f ∧ getType f = .startBytes ∧
    getReference f ≠ [] ∧ LeftmostAt (getReference f) total skip.length

/-- What the elements hold and what is left over make up all there was. -/
def Balanced (framing : Framing F) (total skip : Bytes) : Prop :=
  total = skip ++ dataFail framing.sock.frameFormat framing.tmp ++ framing.sock.remainingData

/-- If the elements hold what their sizes ask for, they hold more than there was,
by `gap` bytes at least. -/
def Behind (gap : Nat) (framing : Framing F) (total skip : Bytes) : Prop :=
  (∀ i < framing.tmp, Fits framing.sock.frameFormat i) →
    total.length + gap ≤ skip.length +
      (dataFail framing.sock.frameFormat framing.tmp).length + framing.sock.remainingData.length

variable {start framing later last done : Framing F} {bytes skipped added doubled total skip : Bytes}

/-- Bytes are skipped in front of a start marker only. -/
def Skips (framing : Framing F) (bytes skipped : Bytes) : Prop :=
  skipped ≠ [] → ∃ f, framing.sock.frameFormat[framing.tmp]? = some f ∧
    getType f = .startBytes ∧ getReference f ≠ [] ∧
    LeftmostAt (getReference f) (framing.sock.remainingData ++ bytes) skipped.length

/-- A start marker stands at the head, so nothing was there before it. -/
theorem Course.at_head (course : Course framing total skip) (skips : Skips framing bytes skipped)
    (some : skipped ≠ []) : framing.tmp = 0 := by
  obtain ⟨f, here, type, -⟩ := skips some
  exact course.lone framing.tmp f here type

theorem Course.lead_after {kept : Nat} {format : List F} (course : Course framing total skip)
    (rewrites : Rewrites kept framing.sock.frameFormat format)
    (skips : Skips framing bytes skipped) (headed : skip ++ skipped ≠ []) :
    ∃ f, format[0]? = some f ∧ getType f = .startBytes ∧ getReference f ≠ [] ∧
      LeftmostAt (getReference f) (total ++ bytes) (skip ++ skipped).length := by
  by_cases head : skipped = []
  · subst head
    rw [List.append_nil] at headed ⊢
    obtain ⟨f, here, type, nonempty, leftmost⟩ := course.lead headed
    obtain ⟨g, there, same, -⟩ := rewrites.element_after here
    refine ⟨g, there, by rw [same.type, type], by rw [same.reference]; exact nonempty, ?_⟩
    rw [same.reference]
    exact leftmost.append (leftmost.occurs.fits nonempty)
  · have zero := course.at_head skips head
    obtain ⟨none, whole⟩ := course.fresh zero
    obtain ⟨f, here, type, nonempty, leftmost⟩ := skips head
    rw [zero] at here
    obtain ⟨g, there, same, -⟩ := rewrites.element_after here
    refine ⟨g, there, by rw [same.type, type], by rw [same.reference]; exact nonempty, ?_⟩
    rw [same.reference, none, whole]
    exact leftmost

/-- So the skipped bytes come before or behind what the elements hold alike. -/
theorem Course.skipped_comm (course : Course framing total skip)
    (skips : Skips framing bytes skipped) :
    dataFail framing.sock.frameFormat framing.tmp ++ skipped =
      skipped ++ dataFail framing.sock.frameFormat framing.tmp := by
  by_cases head : skipped = []
  · rw [head, List.append_nil, List.nil_append]
  · rw [course.at_head skips head, dataFail_zero, List.append_nil, List.nil_append]

theorem Course.advance (course : Course framing total skip)
    (account : Done framing done bytes skipped added doubled) :
    Course done.advance (total ++ bytes) (skip ++ skipped) where
  ready := ⟨account.ready.opened, account.ready.connected⟩
  considerate := course.considerate.rewrites account.rewrites
  lone := course.lone.rewrites account.rewrites
  within := account.within
  fresh := fun zero => absurd zero (Nat.succ_ne_zero _)
  cleared := fun _ => rfl
  lead := by
    intro headed
    have leading := course.lead_after account.rewrites account.skipping headed
    exact leading

theorem Course.balanced_advance (course : Course framing total skip)
    (account : Done framing done bytes skipped added doubled) (kept : ¬ framing.Loses)
    (found : ¬ framing.Overrun) (balanced : Balanced framing total skip) :
    Balanced done.advance (total ++ bytes) (skip ++ skipped) := by
  have whole := account.exactly kept found
  have front := course.skipped_comm account.skipping
  calc
    total ++ bytes = skip ++ dataFail framing.sock.frameFormat framing.tmp ++
        (framing.sock.remainingData ++ bytes) := by
      rw [balanced]
      simp only [List.append_assoc]
    _ = skip ++ (dataFail framing.sock.frameFormat framing.tmp ++ skipped) ++
        (added ++ done.sock.remainingData) := by
      rw [whole]
      simp only [List.append_assoc]
    _ = skip ++ skipped ++ (dataFail framing.sock.frameFormat framing.tmp ++ added) ++
        done.sock.remainingData := by
      rw [front]
      simp only [List.append_assoc]
    _ = skip ++ skipped ++ dataFail done.advance.sock.frameFormat done.advance.tmp ++
        done.advance.sock.remainingData := by
      rw [← account.stored]
      rfl

theorem fits_advance (account : Done framing done bytes skipped added doubled)
    (fed : ¬ framing.Starved) (fits : ∀ i < framing.tmp, Fits framing.sock.frameFormat i) :
    ∀ i < done.advance.tmp, Fits done.advance.sock.frameFormat i := by
  intro i bound
  rcases Nat.lt_or_ge i framing.tmp with early | late
  · exact (fits i early).rewrites account.rewrites early
  · exact account.fits fed i late (Nat.le_of_lt_succ bound)

/-- A pass never makes up for bytes that are missing, and a mishap costs one more. -/
theorem behind_advance {gap : Nat} (account : Done framing done bytes skipped added doubled)
    (behind : Behind gap framing total skip) :
    Behind gap done.advance (total ++ bytes) (skip ++ skipped) ∧
      (framing.Starved ∨ framing.Overrun →
        Behind (gap + 1) done.advance (total ++ bytes) (skip ++ skipped)) := by
  have stored : dataFail done.advance.sock.frameFormat done.advance.tmp =
      dataFail framing.sock.frameFormat framing.tmp ++ added := account.stored
  have left : done.advance.sock.remainingData = done.sock.remainingData := rfl
  have earlier : (∀ i < done.advance.tmp, Fits done.advance.sock.frameFormat i) →
      ∀ i < framing.tmp, Fits framing.sock.frameFormat i := by
    intro fits i early
    have bound : i < done.advance.tmp := Nat.lt_succ_of_lt (Nat.lt_of_lt_of_le early account.forward)
    exact (fits i bound).of_rewrites account.rewrites early
  have lag : (∀ i < done.advance.tmp, Fits done.advance.sock.frameFormat i) →
      _ := fun fits => account.lag fun i _ high => fits i (Nat.lt_succ_of_le high)
  constructor
  · intro fits
    have before := behind (earlier fits)
    have now := (lag fits).1
    simp only [stored, left, List.length_append] at now ⊢
    omega
  · intro mishap fits
    have before := behind (earlier fits)
    have now := (lag fits).2 mishap
    simp only [stored, left, List.length_append] at now ⊢
    omega

variable [LawfulDataFrame F]

theorem Course.onward (course : Course framing total skip) (onward : framing.Onward later) :
    ∃ bytes skipped added doubled done,
      Done framing done bytes skipped added doubled ∧ later = done.advance := by
  rcases pass_cases course.ready course.considerate onward.1 with
    ⟨bytes, skipped, added, doubled, done, account, went | vetoed⟩ | ⟨bytes, wire, -, failed⟩ |
    ⟨-, odd⟩
  · refine ⟨bytes, skipped, added, doubled, done, account, ?_⟩
    have same := onward.2.symm.trans went
    cases same
    rfl
  · have same := onward.2.symm.trans vetoed
    contradiction
  · have same := onward.2.symm.trans failed
    contradiction
  · have same := onward.2.symm.trans odd
    contradiction

theorem Course.left {ret : Nat} (course : Course framing total skip)
    (more : framing.tmp < framing.sock.frameFormat.length)
    (left : framing.pass = .leave ret last) : ret = 2 ∨ ret = 4 := by
  rcases pass_cases course.ready course.considerate more with
    ⟨_, _, _, _, done, -, went | vetoed⟩ | ⟨_, wire, -, failed⟩ | ⟨-, odd⟩
  · rw [went] at left
    contradiction
  · rw [vetoed] at left
    cases left
    exact .inr rfl
  · rw [failed] at left
    cases left
    exact .inl rfl
  · rw [odd] at left
    cases left
    exact .inr rfl

omit [LawfulDataFrame F] in
theorem Starved.inside (starved : framing.Starved) :
    framing.tmp < framing.sock.frameFormat.length := by
  obtain ⟨f, fixed, -⟩ := starved
  simpa [entered] using (List.getElem?_eq_some_iff.mp fixed.here).1

omit [LawfulDataFrame F] in
theorem Overrun.inside (overrun : framing.Overrun) :
    framing.tmp < framing.sock.frameFormat.length := by
  obtain ⟨f, next, free, -⟩ := overrun
  simpa [entered] using (List.getElem?_eq_some_iff.mp free.here).1

theorem Reaches.course (course : Course start total skip) (reaches : start.Reaches later) :
    ∃ bytes before, start.wire.Reads bytes later.wire ∧ Course later (total ++ bytes) before ∧
      Rewrites 0 start.sock.frameFormat later.sock.frameFormat ∧
      (∀ gap, Behind gap start total skip → Behind gap later (total ++ bytes) before) ∧
      ((∀ framing next, start.Reaches framing → framing.Onward next → ¬ framing.Starved) →
        (∀ i < start.tmp, Fits start.sock.frameFormat i) →
        ∀ i < later.tmp, Fits later.sock.frameFormat i) ∧
      ((∀ framing next, start.Reaches framing → framing.Onward next →
          ¬ framing.Loses ∧ ¬ framing.Overrun) →
        Balanced start total skip → Balanced later (total ++ bytes) before) := by
  induction reaches with
  | refl =>
      refine ⟨[], skip, Wire.Reads.refl _, by simpa using course, Rewrites.refl 0 _, ?_, ?_, ?_⟩
      · intro gap behind
        simpa using behind
      · intro _ fits
        exact fits
      · intro _ balanced
        simpa using balanced
  | @tail middle later reached onward ih =>
      obtain ⟨bytes, before, reads, courseMiddle, rewrites, behind, fits, balanced⟩ := ih
      obtain ⟨more, skipped, added, doubled, done, account, rfl⟩ := courseMiddle.onward onward
      refine ⟨bytes ++ more, before ++ skipped, reads.trans account.reads, ?_,
        rewrites.trans (account.rewrites.weaken (Nat.zero_le _)), ?_, ?_, ?_⟩
      · simpa using courseMiddle.advance account
      · intro gap start
        simpa using (behind_advance account (behind gap start)).1
      · intro fed begun
        exact fits_advance account (fed middle _ reached onward) (fits fed begun)
      · intro kept begun
        obtain ⟨kept_, found⟩ := kept middle _ reached onward
        simpa using courseMiddle.balanced_advance account kept_ found (balanced kept begun)

theorem Course.through (course : Course start total skip) (ended : start.frameLoop = (0, last)) :
    start.Reaches last ∧ last.sock.frameFormat.length ≤ last.tmp := by
  rcases frameLoop_reaches ended with ⟨-, reaches, beyond⟩ | ⟨framing, reaches, more, left⟩
  · exact ⟨reaches, beyond⟩
  · obtain ⟨bytes, before, -, courseThere, -⟩ := reaches.course course
    rcases courseThere.left more left with code | code
    · contradiction
    · contradiction

/-- A mishap anywhere in the loop leaves less than the elements should hold. -/
theorem Course.mishap (course : Course start total skip) (behind : Behind 0 start total skip)
    (reaches : start.Reaches framing) (mishap : framing.Starved ∨ framing.Overrun)
    (onward : framing.Onward later) (rest : later.Reaches last) :
    ∃ bytes before, start.wire.Reads bytes last.wire ∧ Course last (total ++ bytes) before ∧
      Behind 1 last (total ++ bytes) before := by
  obtain ⟨bytes, before, reads, courseThere, -, behindThere, -⟩ := reaches.course course
  obtain ⟨more, skipped, added, doubled, done, account, rfl⟩ := courseThere.onward onward
  have short := (behind_advance account (behindThere 0 behind)).2 mishap
  obtain ⟨further, after, readsFurther, courseLast, -, behindLast, -⟩ :=
    rest.course (courseThere.advance account)
  refine ⟨bytes ++ (more ++ further), after, ?_, ?_, ?_⟩
  · exact reads.trans (account.reads.trans readsFurther)
  · simpa using courseLast
  · simpa using behindLast 1 short

end Framing

end SynapTCP
