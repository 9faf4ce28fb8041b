import SynapTCP.Data.Custody
import Mathlib.Data.Set.Image
import Mathlib.Order.Defs.LinearOrder
import Mathlib.Tactic.Common

namespace SynapTCP.Data

/-! # Locks that are taken upwards

A list of acts climbs if what it takes always has a higher rank than all that is held.
-/

variable {ι τ τ' α : Type*} [LinearOrder α] {kind : τ → Prop} {kind' : τ' → Prop}
  {rank : τ → α} {rank' : τ' → α} {held less : Set τ} {first second acts : List (Act τ)} {t : τ}

/-- A thing of the kind is only taken above all those that are held. -/
def Climbs (kind : τ → Prop) (rank : τ → α) (held : Set τ) : List (Act τ) → Prop
  | [] => True
  | .acquire t :: acts =>
      (kind t → ∀ u ∈ held, kind u → rank u < rank t) ∧ Climbs kind rank (insert t held) acts
  | .release t :: acts => Climbs kind rank (held \ {t}) acts

/-- What is held behind the acts. -/
def holding (held : Set τ) : List (Act τ) → Set τ
  | [] => held
  | .acquire t :: acts => holding (insert t held) acts
  | .release t :: acts => holding (held \ {t}) acts

theorem climbs_append : Climbs kind rank held (first ++ second) ↔
    Climbs kind rank held first ∧ Climbs kind rank (holding held first) second := by
  induction first generalizing held with
  | nil => simp only [List.nil_append, Climbs, holding, true_and]
  | cons act first ih =>
      cases act with
      | acquire t => simp only [List.cons_append, Climbs, holding, ih, and_assoc]
      | release t => simp only [List.cons_append, Climbs, holding, ih]

theorem Climbs.mono (climbs : Climbs kind rank held acts)
    (fewer : ∀ u ∈ less, kind u → u ∈ held) : Climbs kind rank less acts := by
  induction acts generalizing held less with
  | nil => trivial
  | cons act acts ih =>
      cases act with
      | acquire t =>
          refine ⟨fun ofKind u member isKind => climbs.1 ofKind u (fewer u member isKind) isKind, ?_⟩
          refine ih climbs.2 fun u member isKind => ?_
          rcases member with same | member
          · exact .inl same
          · exact .inr (fewer u member isKind)
      | release t =>
          refine ih climbs fun u member isKind => ?_
          exact ⟨fewer u member.1 isKind, member.2⟩

/-- Among things that are all below those of the acts. -/
theorem Climbs.above {lower : Set τ} (climbs : Climbs kind rank held acts)
    (above : ∀ act ∈ acts, kind act.thing → ∀ u ∈ lower, kind u → rank u < rank act.thing) :
    Climbs kind rank (held ∪ lower) acts := by
  induction acts generalizing held with
  | nil => trivial
  | cons act acts ih =>
      have later : ∀ act ∈ acts, kind act.thing → ∀ u ∈ lower, kind u → rank u < rank act.thing :=
        fun act member => above act (.tail _ member)
      cases act with
      | acquire t =>
          constructor
          · intro ofKind u member isKind
            rcases member with inner | outer
            · exact climbs.1 ofKind u inner isKind
            · exact above _ (.head _) ofKind u outer isKind
          · rw [← Set.insert_union]
            exact ih climbs.2 later
      | release t =>
          refine (ih climbs later).mono fun u member _ => ?_
          rcases member.1 with inner | outer
          · exact .inl ⟨inner, member.2⟩
          · exact .inr outer

theorem Climbs.map {f : τ → τ'} (climbs : Climbs kind rank held acts)
    (kinds : ∀ t, kind' (f t) → kind t)
    (ranks : ∀ t u, kind t → kind u → rank t < rank u → rank' (f t) < rank' (f u)) :
    Climbs kind' rank' (f '' held) (acts.map (Act.map f)) := by
  induction acts generalizing held with
  | nil => trivial
  | cons act acts ih =>
      cases act with
      | acquire t =>
          constructor
          · rintro ofKind _ ⟨u, member, rfl⟩ isKind
            have below := climbs.1 (kinds t ofKind) u member (kinds u isKind)
            exact ranks u t (kinds u isKind) (kinds t ofKind) below
          · rw [← Set.image_insert_eq]
            exact ih climbs.2
      | release t =>
          refine (ih climbs).mono ?_
          rintro _ ⟨⟨u, member, rfl⟩, other⟩ _
          exact ⟨u, ⟨member, fun same => other (congrArg f same)⟩, rfl⟩

variable [DecidableEq τ]

theorem mem_holding {before now : Bool} (kept : hold t before acts = some now)
    (start : t ∈ held ↔ before = true) : t ∈ holding held acts ↔ now = true := by
  induction acts generalizing held before with
  | nil =>
      cases kept
      exact start
  | cons act acts ih =>
      cases act with
      | acquire u =>
          by_cases same : u = t
          · subst same
            rw [hold, if_pos rfl] at kept
            split at kept
            · contradiction
            · exact ih kept (iff_of_true (Set.mem_insert u held) rfl)
          · rw [hold_acquire_of_ne same] at kept
            refine ih kept ?_
            rw [Set.mem_insert_iff, or_iff_right (fun is => same is.symm)]
            exact start
      | release u =>
          by_cases same : u = t
          · subst same
            rw [hold, if_pos rfl] at kept
            split at kept
            · exact ih kept (iff_of_false (fun member => member.2 rfl) Bool.noConfusion)
            · contradiction
          · rw [hold_release_of_ne same] at kept
            refine ih kept ?_
            rw [Set.mem_sdiff, and_iff_left (fun is => same is.symm)]
            exact start

/-- With one thing of the kind it is enough not to take it twice. -/
theorem climbs_of_one {before : Bool} (ofKind : kind t)
    (one : ∀ u, .acquire u ∈ acts → kind u → u = t) (kept : hold t before acts ≠ none)
    (start : ∀ u ∈ held, kind u → u = t ∧ before = true) : Climbs kind rank held acts := by
  induction acts generalizing held before with
  | nil => trivial
  | cons act acts ih =>
      have later : ∀ u, Act.acquire u ∈ acts → kind u → u = t := fun u member => one u (.tail _ member)
      cases act with
      | acquire u =>
          by_cases same : u = t
          · subst same
            cases before with
            | true =>
                rw [hold, if_pos rfl, if_pos rfl] at kept
                contradiction
            | false =>
                rw [hold, if_pos rfl, if_neg Bool.noConfusion] at kept
                have none : ∀ w ∈ held, ¬ kind w := fun w member isKind =>
                  Bool.noConfusion (start w member isKind).2
                refine ⟨fun _ w member isKind => absurd isKind (none w member), ?_⟩
                refine ih later kept fun w member isKind => ?_
                rcases member with same | member
                · exact ⟨same, rfl⟩
                · exact absurd isKind (none w member)
          · have other : ¬ kind u := fun isKind => same (one u (.head _) isKind)
            rw [hold_acquire_of_ne same] at kept
            refine ⟨fun isKind => absurd isKind other, ih later kept fun w member isKind => ?_⟩
            rcases member with same | member
            · exact absurd (same ▸ isKind) other
            · exact start w member isKind
      | release u =>
          by_cases same : u = t
          · subst same
            cases before with
            | true =>
                rw [hold, if_pos rfl, if_pos rfl] at kept
                exact ih later kept fun w member isKind =>
                  absurd (start w member.1 isKind).1 member.2
            | false =>
                rw [hold, if_pos rfl, if_neg Bool.noConfusion] at kept
                contradiction
          · rw [hold_release_of_ne same] at kept
            exact ih later kept fun w member isKind => start w member.1 isKind

/-- The acts of a whole call. -/
structure Nests (kind : τ → Prop) (rank : τ → α) (acts : List (Act τ)) : Prop where
  disciplined : Disciplined kind acts
  climbs : Climbs kind rank ∅ acts

namespace Nests

theorem nil : Nests kind rank [] := ⟨.nil, trivial⟩

theorem append (left : Nests kind rank first) (right : Nests kind rank second) :
    Nests kind rank (first ++ second) := by
  refine ⟨left.disciplined.append right.disciplined, climbs_append.mpr ⟨left.climbs, ?_⟩⟩
  refine right.climbs.mono fun u member isKind => ?_
  have none := (@mem_holding _ ∅ first u _ false false (left.disciplined u isKind)
    (iff_of_false id Bool.noConfusion)).mp member
  contradiction

/-- A part between two points at which nothing is held. -/
theorem middle {before behind : List (Act τ)} (nests : Nests kind rank (before ++ acts ++ behind))
    (disciplined : Disciplined kind acts) : Nests kind rank acts := by
  have climbs := (climbs_append.mp (climbs_append.mp nests.climbs).1).2
  exact ⟨disciplined, climbs.mono fun u none => absurd none (Set.notMem_empty u)⟩

theorem flatten {parts : List (List (Act τ))} (each : ∀ part ∈ parts, Nests kind rank part) :
    Nests kind rank parts.flatten := by
  induction parts with
  | nil => exact nil
  | cons part parts ih =>
      have first := each part List.mem_cons_self
      have rest := ih fun later member => each later (List.mem_cons_of_mem part member)
      exact first.append rest

end Nests

end SynapTCP.Data
