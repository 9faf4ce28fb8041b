import SynapTCP.Data.LockOrder
import SynapTCP.Locks.Calls

namespace SynapTCP

open Data

/-! # The order of the mutexes

`mtx` before `wmtx`, and both of an object before those of the objects above it.
-/

section Bodies

variable {ω ω' : Type} {order : ω → Nat} {owner this obj : ω} {acts : List (Act (Resource ω))}
  {held : Set (Resource ω)}

@[simp] theorem Resource.isMutex_mutex {lock : Lock} : (Resource.mutex owner lock).IsMutex :=
  trivial

@[simp] theorem Resource.isMutex_descriptor {fd : Int} :
    ¬ (Resource.descriptor fd : Resource ω).IsMutex :=
  not_false

@[simp] theorem Resource.isMutex_connection {ssl : Nat} :
    ¬ (Resource.connection ssl : Resource ω).IsMutex :=
  not_false

def Resource.rank (order : ω → Nat) : Resource ω → Nat
  | .mutex owner .mtx => 2 * order owner
  | .mutex owner .wmtx => 2 * order owner + 1
  | .descriptor _ | .connection _ => 0

theorem Resource.rank_map {order : ω' → Nat} {f : ω → ω'} (resource : Resource ω) :
    (resource.map f).rank order = resource.rank (order ∘ f) := by
  cases resource with
  | mutex owner lock => cases lock <;> rfl
  | descriptor fd => rfl
  | connection ssl => rfl

theorem climbs_of_alone (alone : ∀ act ∈ acts, ¬ act.thing.IsMutex) :
    Climbs Resource.IsMutex (Resource.rank order) held acts := by
  induction acts generalizing held with
  | nil => trivial
  | cons act acts ih =>
      have here : ¬ act.thing.IsMutex := alone act (.head _)
      have later : ∀ act ∈ acts, ¬ act.thing.IsMutex := fun act member => alone act (.tail _ member)
      cases act with
      | acquire t => exact ⟨fun isMutex => absurd isMutex here, ih later⟩
      | release t => exact ih later

theorem climbs_unlockOf : Climbs Resource.IsMutex (Resource.rank order) held (unlockOf owner) :=
  trivial

/-- Nothing above the object is held, and not the object's own mutexes. -/
theorem climbs_lockOf
    (above : ∀ u ∈ held, u.IsMutex → u.rank order < 2 * order owner) :
    Climbs Resource.IsMutex (Resource.rank order) held (lockOf owner) := by
  refine ⟨fun _ u member isMutex => above u member isMutex, fun _ u member isMutex => ?_, trivial⟩
  rcases member with same | member
  · rw [same]
    exact Nat.lt_succ_self _
  · exact Nat.lt_succ_of_lt (above u member isMutex)

variable [DecidableEq ω]

theorem locked_nests (alone : ∀ act ∈ acts, ¬ act.thing.IsMutex) :
    Nests Resource.IsMutex (Resource.rank order) (lockOf owner ++ acts ++ unlockOf owner) := by
  refine ⟨locked_disciplined alone, ?_⟩
  rw [climbs_append, climbs_append]
  exact ⟨⟨climbs_lockOf (by simp), climbs_of_alone alone⟩, climbs_unlockOf⟩

theorem guarded_nests :
    Nests Resource.IsMutex (Resource.rank order) (lockOf owner ++ unlockOf owner) := by
  have empty := @locked_nests ω order owner [] _ fun _ member => by contradiction
  rwa [List.append_nil] at empty

theorem duplicateActs_nests (upwards : order this < order obj) :
    Nests Resource.IsMutex (Resource.rank order) (Socket.duplicateActs this obj) := by
  have apart : this ≠ obj := by
    intro same
    exact Nat.lt_irrefl _ (same ▸ upwards)
  refine ⟨duplicateActs_disciplined_iff.mpr apart, ?_⟩
  unfold Socket.duplicateActs
  rw [climbs_append, climbs_append, climbs_append]
  refine ⟨⟨⟨climbs_lockOf (by simp), climbs_lockOf ?_⟩, climbs_unlockOf⟩, climbs_unlockOf⟩
  intro u member _
  rcases member with same | same | none
  · rw [same, Resource.rank]
    omega
  · rw [same, Resource.rank]
    omega
  · contradiction

/-- Under other names. -/
theorem Nests.rename [DecidableEq ω'] {order : ω' → Nat} {f : ω → ω'} (injective : f.Injective)
    (nests : Nests Resource.IsMutex (Resource.rank (order ∘ f)) acts) :
    Nests Resource.IsMutex (Resource.rank order) (acts.map (Act.map (Resource.map f))) := by
  constructor
  · exact (Disciplined.map_iff (Resource.map_injective injective) Resource.isMutex_map).mpr
      nests.disciplined
  · have ranks : ∀ t u : Resource ω, t.IsMutex → u.IsMutex →
        t.rank (order ∘ f) < u.rank (order ∘ f) → (t.map f).rank order < (u.map f).rank order := by
      intro t u _ _ less
      rwa [Resource.rank_map, Resource.rank_map]
    have climbs := nests.climbs.map (fun t => (Resource.isMutex_map t).mp) ranks
    rwa [Set.image_empty] at climbs

theorem Call.nests {α : Type} {call : Call α}
    (nests : ∀ order : Unit → Nat, Nests Resource.IsMutex (Resource.rank order) call.acts) :
    Nests Resource.IsMutex (Resource.rank order) (call.actsOf owner) := by
  unfold Call.actsOf
  rw [Resource.at_eq_map]
  exact Nests.rename (fun _ _ _ => rfl) (nests _)

end Bodies

section Calls

variable {order : Unit → Nat} {socket : Socket} {closes again : Bool}

theorem single_nests {lock : Lock} : Nests Resource.IsMutex (Resource.rank order)
    [Act.acquire (Resource.mutex () lock), Act.release (Resource.mutex () lock)] :=
  ⟨Socket.single_disciplined, by simp [Climbs]⟩

namespace Socket

theorem closeConnection_nests :
    Nests Resource.IsMutex (Resource.rank order) (socket.closeConnection closes).acts := by
  apply locked_nests
  intro act member
  rcases List.mem_append.mp member with freed | closed
  · exact freeSSL_alone act freed
  · exact closeFd_alone act closed

theorem closeSocket_nests :
    Nests Resource.IsMutex (Resource.rank order) (socket.closeSocket closes again).acts :=
  closeConnection_nests.append (locked_nests closeFd_alone)

theorem construct_nests :
    Nests Resource.IsMutex (Resource.rank order) (construct socket).acts := by
  have setters : (construct socket).acts =
      (List.replicate 6 (lockOf () ++ unlockOf ())).flatten := rfl
  rw [setters]
  apply Nests.flatten
  intro part member
  rw [List.eq_of_mem_replicate member]
  exact guarded_nests

end Socket

/-! ## Receiving -/

namespace Socket

variable {spins : List Bool → Nat} {sz : Nat} {data : Bytes} {polls : List Bool}
  {reads : List ReadResult} {wire : Wire} {t : Resource Unit}

theorem awaitActs_acquires (acquires : .acquire t ∈ socket.awaitActs spins data polls) :
    t = .mutex () .mtx := by
  unfold awaitActs at acquires
  split at acquires
  · contradiction
  · rcases List.mem_append.mp acquires with before | last
    · rcases List.mem_append.mp before with first | polling
      · simp at first
      · obtain ⟨poll, replicated, acts⟩ := List.mem_flatten.mp polling
        rw [List.eq_of_mem_replicate replicated] at acts
        rcases List.mem_pair.mp acts with locks | unlocks
        · cases locks
          rfl
        · contradiction
    · cases List.mem_singleton.mp last
      rfl

theorem readLoopActs_acquires
    (acquires : .acquire t ∈ socket.readLoopActs spins sz data polls reads) :
    t = .mutex () .mtx := by
  induction reads generalizing data polls with
  | nil =>
      rw [readLoopActs] at acquires
      rcases List.mem_append.mp acquires with awaits | refuses
      · exact awaitActs_acquires awaits
      · split at refuses
        · simp at refuses
        · contradiction
  | cons read reads ih =>
      rw [readLoopActs] at acquires
      rcases List.mem_append.mp acquires with awaits | further
      · exact awaitActs_acquires awaits
      · split at further
        · contradiction
        · split at further
          · simp at further
          · cases read with
            | failed => contradiction
            | chunk piece =>
                dsimp only at further
                split at further
                · exact ih further
                · contradiction

theorem receiveDataActs_acquires (acquires : .acquire t ∈ socket.receiveDataActs spins wire sz) :
    t = .mutex () .mtx := by
  unfold receiveDataActs at acquires
  dsimp only at acquires
  split at acquires
  · rcases List.mem_pair.mp acquires with locks | unlocks
    · cases locks
      rfl
    · contradiction
  · rcases List.mem_append.mp acquires with before | last
    · rcases List.mem_append.mp before with first | reads
      · cases List.mem_singleton.mp first
        rfl
      · exact readLoopActs_acquires reads
    · split at last
      · contradiction
      · simp at last

end Socket

/-- A reception takes no other mutex than `mtx`. -/
theorem Inner.nests {inner : Inner} {spins : List Bool → Nat} (accepted : ¬ inner.Refused) :
    Nests Resource.IsMutex (Resource.rank order) (inner.acts spins) := by
  have disciplined := @Inner.acts_disciplined inner spins accepted
  refine ⟨disciplined, ?_⟩
  have isMutex : (Resource.mutex () Lock.mtx).IsMutex := trivial
  refine @climbs_of_one _ _ _ _ _ _ _ (.mutex () .mtx) _ false isMutex ?_
    (by rw [disciplined _ isMutex]; simp) (by simp)
  intro u acquires _
  cases inner with
  | receiveData socket wire sz => exact Socket.receiveDataActs_acquires acquires
  | getBuffer socket =>
      rcases List.mem_pair.mp acquires with locks | unlocks
      · cases locks
        rfl
      · contradiction

/-! ## Any call -/

namespace SocketCall

variable {F : Type} [DataFrame F] {outcomes : CallOutcomes} {call : SocketCall F}
  {after : Socket × List (Act (Resource Unit))}

theorem setter_nests {α : Type} {refuses : Prop} [Decidable refuses] {refused set : α}
    {kept changed : Socket} : Nests Resource.IsMutex (Resource.rank order)
      (if refuses then kept.early refused else Socket.guarded set changed).acts := by
  split
  · exact .nil
  · exact guarded_nests

theorem run_nests (ran : call.run socket outcomes = some after)
    (spares : call.Spares socket outcomes) :
    Nests Resource.IsMutex (Resource.rank order) after.2 := by
  have reception : Nests Resource.IsMutex (Resource.rank order)
      ((call.inner socket outcomes).flatMap (Inner.acts outcomes.spins)) := by
    apply Nests.flatten
    intro part member
    obtain ⟨inner, called, same⟩ := List.mem_map.mp member
    rw [← same]
    exact Inner.nests (spares.accepted inner called)
  cases call with
  | setAddressOctets _ | setAddressVector _ | setAddress _ | setPort _ | setTimeoutParts _ _
  | setKeepAliveMs _ | setSocketFd _ =>
      cases ran
      exact setter_nests
  | setTimeout milliseconds =>
      cases ran
      dsimp only
      unfold Socket.setTimeout
      split
      · exact .nil
      · split <;> exact guarded_nests
  | setSSLVerifyMode sslVerifyMode =>
      cases ran
      dsimp only
      unfold Socket.setSSLVerifyMode
      split <;> exact guarded_nests
  | setIsUseSSL _ | setSSLPointer _ | getSSLVerifyMode =>
      cases ran
      exact guarded_nests
  | getAddress =>
      cases ran
      rw [Socket.getAddress, if_neg (not_not.mpr (spares.octets rfl))]
      exact guarded_nests
  | getField =>
      cases ran
      exact .nil
  | isInputBytesAvailable | getBufferUpTo _ | getBuffer | getRemainingBufferUpTo _
  | getRemainingBuffer | sendData _ =>
      cases ran
      exact single_nests
  | receiveData _ _ | receiveStartBytes _ | receiveUntillStopBytes _ | receiveStopBytes _
  | receiveNBytes _ =>
      cases ran
      exact reception
  | receiveFramedData frameFormat =>
      obtain ⟨received, _, same⟩ := Option.bind_eq_some_iff.mp ran
      cases same
      exact reception
  | sendFramedData frameFormat =>
      unfold run at ran
      dsimp only at ran
      split at ran
      · contradiction
      · split at ran
        · cases ran
          exact .nil
        · cases ran
          exact single_nests
  | closeConnection =>
      cases ran
      exact Socket.closeConnection_nests
  | closeSocket =>
      cases ran
      exact Socket.closeSocket_nests

end SocketCall

end Calls

end SynapTCP
