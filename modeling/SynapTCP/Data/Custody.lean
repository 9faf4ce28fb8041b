import Mathlib.Data.List.Basic

namespace SynapTCP.Data

/-! # Things that are taken and given back

A mutex is locked and unlocked, a descriptor opened and closed.  What a program
does with such things is a list of acts; `hold t` follows one thing through it
and stops where it is taken twice or given back without being held.
-/

inductive Act (τ : Type*) where
  | acquire (thing : τ)
  | release (thing : τ)
deriving DecidableEq

namespace Act

variable {τ τ' : Type*}

def thing : Act τ → τ
  | .acquire thing => thing
  | .release thing => thing

def map (f : τ → τ') : Act τ → Act τ'
  | .acquire thing => .acquire (f thing)
  | .release thing => .release (f thing)

@[simp] theorem thing_map (f : τ → τ') (act : Act τ) : (act.map f).thing = f act.thing := by
  cases act <;> rfl

end Act

variable {τ : Type*} [DecidableEq τ]

/-- Whether `t` is held behind the acts, if it is held or not before them. -/
def hold (t : τ) (held : Bool) : List (Act τ) → Option Bool
  | [] => some held
  | .acquire thing :: acts =>
      if thing = t then (if held then none else hold t true acts) else hold t held acts
  | .release thing :: acts =>
      if thing = t then (if held then hold t false acts else none) else hold t held acts

/-- Of the things of a kind nothing is taken twice or given back without being held,
and nothing is kept. -/
def Disciplined (kind : τ → Prop) (acts : List (Act τ)) : Prop :=
  ∀ t, kind t → hold t false acts = some false

variable {τ' : Type*} [DecidableEq τ'] {t thing : τ} {held now : Bool} {kind : τ → Prop}
  {first second acts : List (Act τ)}

@[simp] theorem hold_nil : hold t held [] = some held := rfl

@[simp] theorem hold_acquire_of_ne (other : thing ≠ t) :
    hold t held (.acquire thing :: acts) = hold t held acts := by
  rw [hold, if_neg other]

@[simp] theorem hold_release_of_ne (other : thing ≠ t) :
    hold t held (.release thing :: acts) = hold t held acts := by
  rw [hold, if_neg other]

theorem hold_append :
    hold t held (first ++ second) = (hold t held first).bind fun now => hold t now second := by
  induction first generalizing held with
  | nil => rfl
  | cons act first ih =>
      cases act with
      | acquire thing =>
          rw [List.cons_append, hold, hold]
          by_cases same : thing = t
          · rw [if_pos same, if_pos same]
            cases held
            · exact ih
            · rfl
          · rw [if_neg same, if_neg same]
            exact ih
      | release thing =>
          rw [List.cons_append, hold, hold]
          by_cases same : thing = t
          · rw [if_pos same, if_pos same]
            cases held
            · rfl
            · exact ih
          · rw [if_neg same, if_neg same]
            exact ih

theorem hold_then (before : hold t held first = some now) :
    hold t held (first ++ second) = hold t now second := by
  rw [hold_append, before, Option.bind_some]

theorem hold_of_absent (absent : ∀ act ∈ acts, act.thing ≠ t) : hold t held acts = some held := by
  induction acts with
  | nil => rfl
  | cons act acts ih =>
      have other := absent act List.mem_cons_self
      have rest := ih fun later member => absent later (List.mem_cons_of_mem act member)
      cases act with
      | acquire thing => exact (hold_acquire_of_ne other).trans rest
      | release thing => exact (hold_release_of_ne other).trans rest

theorem hold_map {f : τ → τ'} (injective : f.Injective) :
    hold (f t) held (acts.map (Act.map f)) = hold t held acts := by
  induction acts generalizing held with
  | nil => rfl
  | cons act acts ih =>
      cases act with
      | acquire thing =>
          rw [List.map_cons, Act.map, hold, hold, ih, ih]
          simp only [injective.eq_iff]
      | release thing =>
          rw [List.map_cons, Act.map, hold, hold, ih, ih]
          simp only [injective.eq_iff]

namespace Disciplined

theorem nil : Disciplined kind ([] : List (Act τ)) := fun _ _ => rfl

theorem append (left : Disciplined kind first) (right : Disciplined kind second) :
    Disciplined kind (first ++ second) := by
  intro t ofKind
  rw [hold_then (left t ofKind)]
  exact right t ofKind

theorem flatten {parts : List (List (Act τ))} (each : ∀ part ∈ parts, Disciplined kind part) :
    Disciplined kind parts.flatten := by
  induction parts with
  | nil => exact nil
  | cons part parts ih =>
      have first := each part List.mem_cons_self
      have rest := ih fun later member => each later (List.mem_cons_of_mem part member)
      exact first.append rest

/-- Under other names; a thing without an old name is not touched. -/
theorem map_iff {f : τ → τ'} {kind' : τ' → Prop} (injective : f.Injective)
    (kinds : ∀ t, kind' (f t) ↔ kind t) :
    Disciplined kind' (acts.map (Act.map f)) ↔ Disciplined kind acts := by
  constructor
  · intro disciplined t ofKind
    rw [← hold_map injective]
    exact disciplined (f t) ((kinds t).mpr ofKind)
  · intro disciplined t ofKind
    by_cases named : ∃ old, f old = t
    · obtain ⟨old, same⟩ := named
      rw [← same] at ofKind ⊢
      rw [hold_map injective]
      exact disciplined old ((kinds old).mp ofKind)
    · apply hold_of_absent
      intro act member same
      obtain ⟨old, _, renamed⟩ := List.mem_map.mp member
      rw [← renamed, Act.thing_map] at same
      exact named ⟨old.thing, same⟩

end Disciplined

end SynapTCP.Data
