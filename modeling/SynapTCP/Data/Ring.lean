import Mathlib.Data.List.Chain
import Mathlib.Data.List.Nodup
import Mathlib.Logic.Relation
import Mathlib.Tactic.Common

namespace SynapTCP.Data

/-! # Circular linked lists

`next` gives the node that a node points to.  A ring is the list of its nodes
from the head on: each points to the one behind it, the last one to the head.
-/

variable {ι : Type*} {next after : ι → Option ι} {head node prev target : ι}
  {ring front back rest : List ι}

/-- Each node points to the one behind it, the last one to `target`. -/
def LeadsTo (next : ι → Option ι) (nodes : List ι) (target : ι) : Prop :=
  List.IsChain (fun i j => next i = some j) (nodes ++ [target])

structure IsRing (next : ι → Option ι) (ring : List ι) : Prop where
  nodup : ring.Nodup
  closed : ∀ head, ring.head? = some head → LeadsTo next ring head

theorem leadsTo_single : LeadsTo next [node] target ↔ next node = some target :=
  List.isChain_pair

theorem leads_cons_cons :
    LeadsTo next (node :: prev :: rest) target ↔
      next node = some prev ∧ LeadsTo next (prev :: rest) target :=
  List.isChain_cons_cons

theorem LeadsTo.congr (leads : LeadsTo next ring target)
    (same : ∀ i ∈ ring, after i = next i) : LeadsTo after ring target := by
  induction ring with
  | nil => exact List.isChain_singleton _
  | cons i ring ih =>
      cases ring with
      | nil =>
          rw [leadsTo_single] at leads ⊢
          rw [same i (.head _), leads]
      | cons j ring =>
          rw [leads_cons_cons] at leads ⊢
          exact ⟨by rw [same i (.head _), leads.1],
            ih leads.2 fun k member => same k (.tail _ member)⟩

theorem leads_append :
    LeadsTo next (front ++ node :: back) target ↔
      LeadsTo next front node ∧ LeadsTo next (node :: back) target := by
  unfold LeadsTo
  rw [List.append_assoc, List.cons_append, List.isChain_split]

theorem IsRing.nil : IsRing next [] := ⟨List.nodup_nil, fun _ none => by contradiction⟩

theorem isRing_cons :
    IsRing next (head :: rest) ↔ (head :: rest).Nodup ∧ LeadsTo next (head :: rest) head := by
  constructor
  · intro ring
    exact ⟨ring.nodup, ring.closed head rfl⟩
  · intro parts
    exact ⟨parts.1, fun other same => by cases same; exact parts.2⟩

theorem IsRing.congr (isRing : IsRing next ring) (same : ∀ i ∈ ring, after i = next i) :
    IsRing after ring :=
  ⟨isRing.nodup, fun head first => (isRing.closed head first).congr same⟩

theorem IsRing.single (itself : next node = some node) : IsRing next [node] :=
  isRing_cons.mpr ⟨List.nodup_singleton _, leadsTo_single.mpr itself⟩

theorem IsRing.next_inner (isRing : IsRing next (front ++ prev :: node :: back)) :
    next prev = some node := by
  obtain ⟨head, first⟩ : ∃ head, (front ++ prev :: node :: back).head? = some head := by
    cases front with
    | nil => exact ⟨_, rfl⟩
    | cons i front => exact ⟨_, rfl⟩
  have leads := isRing.closed head first
  rw [leads_append, leads_cons_cons] at leads
  exact leads.2.1

theorem IsRing.next_last (isRing : IsRing next (front ++ [prev]))
    (first : (front ++ [prev]).head? = some head) : next prev = some head := by
  have leads := isRing.closed head first
  rw [leads_append, leadsTo_single] at leads
  exact leads.2

/-- A walk over the ring does not leave it. -/
theorem IsRing.next_mem (isRing : IsRing next ring) (member : node ∈ ring) :
    ∃ behind ∈ ring, next node = some behind := by
  obtain ⟨front, back, split⟩ := List.append_of_mem member
  subst split
  cases back with
  | nil =>
      obtain ⟨head, first⟩ : ∃ head, (front ++ [node]).head? = some head := by
        cases front with
        | nil => exact ⟨_, rfl⟩
        | cons i front => exact ⟨_, rfl⟩
      exact ⟨head, List.mem_of_head? first, isRing.next_last first⟩
  | cons behind back => exact ⟨behind, by simp, isRing.next_inner⟩

theorem IsRing.append (isRing : IsRing next (head :: rest)) (split : head :: rest = front ++ [prev])
    (fresh : node ∉ head :: rest) (linked : after prev = some node)
    (closes : after node = some head) (same : ∀ i ∈ front, after i = next i) :
    IsRing after (head :: (rest ++ [node])) := by
  obtain ⟨nodup, leads⟩ := isRing_cons.mp isRing
  refine isRing_cons.mpr ⟨?_, ?_⟩
  · rw [← List.cons_append]
    exact List.nodup_append.mpr ⟨nodup, List.nodup_singleton _, fun i member j last => by
      rw [List.mem_singleton.mp last]
      intro equal
      exact fresh (equal ▸ member)⟩
  · rw [← List.cons_append, split, List.append_assoc]
    rw [split, leads_append] at leads
    rw [List.singleton_append, leads_append, leads_cons_cons, leadsTo_single]
    exact ⟨leads.1.congr same, linked, closes⟩

/-- A node that is not the head is bridged. -/
theorem IsRing.bridge (isRing : IsRing next (front ++ prev :: node :: back))
    (bridged : after prev = next node)
    (same : ∀ i ∈ front ++ prev :: back, i ≠ prev → after i = next i) :
    IsRing after (front ++ prev :: back) := by
  have nodup : (front ++ prev :: back).Nodup := by
    have inner : (front ++ prev :: back).Sublist (front ++ prev :: node :: back) :=
      (List.Sublist.refl front).append ((List.sublist_cons_self node back).cons_cons prev)
    exact List.Nodup.sublist inner isRing.nodup
  refine ⟨nodup, fun head first => ?_⟩
  have firstBefore : (front ++ prev :: node :: back).head? = some head := by
    cases front with
    | nil => exact first
    | cons i front => exact first
  have leads := isRing.closed head firstBefore
  have apart : prev ∉ front ∧ prev ∉ back := by
    have parts := List.nodup_append.mp nodup
    exact ⟨fun member => parts.2.2 prev member prev (.head _) rfl,
      (List.nodup_cons.mp parts.2.1).1⟩
  rw [leads_append, leads_cons_cons] at leads
  obtain ⟨leadsFront, -, leadsNode⟩ := leads
  rw [leads_append]
  refine ⟨leadsFront.congr fun i member => same i (List.mem_append_left _ member) ?_, ?_⟩
  · intro equal
    exact apart.1 (equal ▸ member)
  · have sameBack : ∀ i ∈ back, after i = next i := fun i member =>
      same i (List.mem_append_right _ (.tail _ member)) fun equal => apart.2 (equal ▸ member)
    cases back with
    | nil =>
        rw [leadsTo_single] at leadsNode ⊢
        rw [bridged, leadsNode]
    | cons j back =>
        rw [leads_cons_cons] at leadsNode ⊢
        exact ⟨by rw [bridged, leadsNode.1], leadsNode.2.congr sameBack⟩

/-- A walk from the first node comes to each of them. -/
theorem LeadsTo.reach (leads : LeadsTo next (head :: rest) target) (member : node ∈ head :: rest) :
    Relation.ReflTransGen (fun i j => next i = some j) head node := by
  induction rest generalizing head with
  | nil =>
      rw [List.mem_singleton.mp member]
  | cons behind rest ih =>
      rw [leads_cons_cons] at leads
      rcases List.mem_cons.mp member with here | later
      · rw [here]
      · exact .head leads.1 (ih leads.2 later)

theorem mem_without (nodup : (front ++ node :: back).Nodup) (i : ι) :
    i ∈ front ++ back ↔ i ∈ front ++ node :: back ∧ i ≠ node := by
  have apart : node ∉ front ++ back :=
    (List.nodup_cons.mp ((List.perm_middle.nodup_iff).mp nodup)).1
  rw [(List.perm_middle : (front ++ node :: back).Perm (node :: (front ++ back))).mem_iff,
    List.mem_cons]
  constructor
  · intro member
    exact ⟨.inr member, fun same => apart (same ▸ member)⟩
  · intro both
    exact both.1.resolve_left both.2

/-- The loop that goes on until a node points to the head. -/
def lastNode [DecidableEq ι] (next : ι → Option ι) (head : ι) : Nat → ι → Option ι
  | 0, _ => none
  | fuel + 1, node =>
      (next node).bind fun behind =>
        if behind = head then some node else lastNode next head fuel behind

theorem lastNode_eq [DecidableEq ι] {fuel : Nat} (leads : LeadsTo next (node :: rest) head)
    (outside : head ∉ rest) (enough : rest.length < fuel) :
    lastNode next head fuel node = (node :: rest).getLast? := by
  induction rest generalizing node fuel with
  | nil =>
      cases fuel with
      | zero => contradiction
      | succ fuel =>
          rw [leadsTo_single] at leads
          simp [lastNode, leads]
  | cons behind rest ih =>
      cases fuel with
      | zero => contradiction
      | succ fuel =>
          rw [leads_cons_cons] at leads
          have other : behind ≠ head := fun equal => outside (equal ▸ .head _)
          have found := ih leads.2 (fun member => outside (.tail _ member))
            (Nat.lt_of_succ_lt_succ enough)
          simp only [lastNode, leads.1, Option.bind_some, if_neg other, found]
          rw [List.getLast?_cons_cons]

/-- The nodes from one on until a node points to the head. -/
def nodesFrom [DecidableEq ι] (next : ι → Option ι) (head : ι) : Nat → ι → Option (List ι)
  | 0, _ => none
  | fuel + 1, node =>
      (next node).bind fun behind =>
        if behind = head then some [node]
        else (nodesFrom next head fuel behind).map (node :: ·)

theorem nodesFrom_eq [DecidableEq ι] {fuel : Nat} (leads : LeadsTo next (node :: rest) head)
    (outside : head ∉ rest) (enough : rest.length < fuel) :
    nodesFrom next head fuel node = some (node :: rest) := by
  induction rest generalizing node fuel with
  | nil =>
      cases fuel with
      | zero => contradiction
      | succ fuel =>
          rw [leadsTo_single] at leads
          simp [nodesFrom, leads]
  | cons behind rest ih =>
      cases fuel with
      | zero => contradiction
      | succ fuel =>
          rw [leads_cons_cons] at leads
          have other : behind ≠ head := fun equal => outside (equal ▸ .head _)
          have found := ih leads.2 (fun member => outside (.tail _ member))
            (Nat.lt_of_succ_lt_succ enough)
          simp only [nodesFrom, leads.1, Option.bind_some, if_neg other, found, Option.map_some]

end SynapTCP.Data
