import SynapTCP.Data.Rounds
import SynapTCP.Server.Runs

namespace SynapTCP

open Data

/-! # Destroying the server

The loop of `~TCPServer` over the client list.  It reads links of nodes that it may
have destroyed, so what it does is written down touch by touch, and what such a link
reads as is a parameter.
-/

/-- What the loop does with a node: it follows its link or deletes it. -/
inductive Touch where
  | follow (node : CollectionId)
  | delete (node : CollectionId)
deriving DecidableEq

/-- The loop between two rounds. -/
structure Destroying where
  server : Server
  tmp : Option CollectionId
  touches : List Touch
deriving DecidableEq

namespace Server

variable {server : Server} {ring rest : List CollectionId} {head node behind : CollectionId}
  {stale : Destroying → Option CollectionId} {outcomes : CollectionId → Outcomes}

/-- The link of a node, or what is left in its place. -/
def link (server : Server) (left : Option CollectionId) (node : CollectionId) :
    Option CollectionId :=
  match server.collections.get? node with
  | some collection => collection.next
  | none => left

/-- `delete tmp`.  On null it does nothing; on a destroyed node nothing is left to do. -/
def deleteNode (server : Server) (outcomes : CollectionId → Outcomes) :
    Option CollectionId → Server
  | none => server
  | some node => (server.deleteCollection node (outcomes node)).getD server

end Server

namespace Destroying

open Server

variable {state : Destroying} {ring rest : List CollectionId} {head node behind : CollectionId}
  {stale : Destroying → Option CollectionId} {outcomes : CollectionId → Outcomes}

/-- One round: the link of `clientList` is the next `tmp`, and `tmp` is deleted. -/
def round (stale : Destroying → Option CollectionId) (outcomes : CollectionId → Outcomes)
    (state : Destroying) : Destroying :=
  match state.server.clientList with
  | none => state
  | some head =>
      { server := state.server.deleteNode outcomes state.tmp
        tmp := state.server.link (stale state) head
        touches := state.touches ++ .follow head :: (state.tmp.map Touch.delete).toList }

/-- `tmp != this->clientList` fails. -/
def Ended (state : Destroying) : Prop := state.tmp = state.server.clientList

instance (state : Destroying) : Decidable state.Ended := inferInstanceAs (Decidable (_ = _))

/-- A link is followed before its node is deleted. -/
def Alive (state : Destroying) : Prop :=
  state.touches.Pairwise fun earlier later =>
    ∀ node, earlier = .delete node → later ≠ .follow node

end Destroying

namespace Server

variable {server : Server} {ring rest : List CollectionId} {head node behind : CollectionId}
  {stale : Destroying → Option CollectionId} {outcomes : CollectionId → Outcomes}

/-- The loop has been gone through a first time. -/
def destroying (server : Server) (stale : Destroying → Option CollectionId)
    (outcomes : CollectionId → Outcomes) : Destroying :=
  Destroying.round stale outcomes ⟨server, server.clientList, []⟩

/-- After how many more rounds the loop ends. -/
def DestroyedAfter (server : Server) (stale : Destroying → Option CollectionId)
    (outcomes : CollectionId → Outcomes) (rounds : Nat) : Prop :=
  EndsAfter (Destroying.round stale outcomes) Destroying.Ended
    (server.destroying stale outcomes) rounds

/-- The loop ends, has then deleted each node of the ring once, and up to then
follows no link of a deleted one. -/
structure ReleasesOnce (server : Server) (ring : List CollectionId)
    (stale : Destroying → Option CollectionId) (outcomes : CollectionId → Outcomes) : Prop where
  ends : ∃ rounds, server.DestroyedAfter stale outcomes rounds
  once : ∀ rounds, server.DestroyedAfter stale outcomes rounds → ∀ node ∈ ring,
    ((Destroying.round stale outcomes)^[rounds] (server.destroying stale outcomes)).touches.count
      (.delete node) = 1
  alive : ∀ rounds,
    (∀ earlier < rounds,
      ¬ ((Destroying.round stale outcomes)^[earlier]
        (server.destroying stale outcomes)).Ended) →
    ((Destroying.round stale outcomes)^[rounds] (server.destroying stale outcomes)).Alive

theorem link_of_next {left : Option CollectionId} (linked : server.next node = some behind) :
    server.link left node = some behind := by
  obtain ⟨collection, found, next⟩ := Option.bind_eq_some_iff.mp linked
  unfold link
  rw [found]
  exact next

theorem deleteNode_clientList (tmp : Option CollectionId) :
    (server.deleteNode outcomes tmp).clientList = server.clientList := by
  cases tmp with
  | none => rfl
  | some node =>
      show ((server.deleteCollection node (outcomes node)).getD server).clientList = _
      cases deleted : server.deleteCollection node (outcomes node) with
      | none => rfl
      | some after =>
          obtain ⟨collection, found, rest⟩ := Option.bind_eq_some_iff.mp deleted
          obtain ⟨gone, deletes, last⟩ := Option.bind_eq_some_iff.mp rest
          obtain ⟨socket, there, same⟩ := Option.map_eq_some_iff.mp deletes
          cases same
          cases last
          rfl

/-- The first round deletes the head and goes on behind it. -/
theorem destroying_eq (first : server.clientList = some head)
    (linked : server.next head = some behind) :
    server.destroying stale outcomes =
      ⟨server.deleteNode outcomes (some head), some behind, [.follow head, .delete head]⟩ := by
  unfold destroying Destroying.round
  simp only [first, link_of_next linked]
  rfl

/-- The second one follows the link of the head again. -/
theorem second_round (first : server.clientList = some head)
    (linked : server.next head = some behind) :
    (Destroying.round stale outcomes (server.destroying stale outcomes)).touches =
      [.follow head, .delete head, .follow head, .delete behind] := by
  rw [destroying_eq first linked]
  unfold Destroying.round
  simp only [deleteNode_clientList, first]
  rfl

/-- The loop releases the ring once exactly if it has one node. -/
theorem releasesOnce_iff (sound : server.Sound ring) (nonempty : ring ≠ []) :
    server.ReleasesOnce ring stale outcomes ↔ ring.length = 1 := by
  cases ring with
  | nil => contradiction
  | cons head rest =>
      have first : server.clientList = some head := sound.head
      have leads := (isRing_cons.mp sound.isRing).2
      cases rest with
      | nil =>
          have linked : server.next head = some head := leadsTo_single.mp leads
          have start := @destroying_eq server head head stale outcomes first linked
          have ended : (server.destroying stale outcomes).Ended := by
            rw [start]
            show some head = (server.deleteNode outcomes (some head)).clientList
            rw [deleteNode_clientList, first]
          have now : server.DestroyedAfter stale outcomes 0 := EndsAfter.zero ended
          refine ⟨fun _ => rfl, fun _ => ⟨⟨0, now⟩, ?_, ?_⟩⟩
          · intro rounds ends node member
            rw [ends.unique now, Function.iterate_zero, id_eq, start, List.mem_singleton.mp member]
            simp
          · intro rounds ongoing
            cases rounds with
            | zero =>
                rw [Function.iterate_zero, id_eq, start]
                simp [Destroying.Alive]
            | succ rounds => exact absurd ended (ongoing 0 (Nat.succ_pos rounds))
      | cons behind rest =>
          have linked : server.next head = some behind := (leads_cons_cons.mp leads).1
          constructor
          · intro releases
            -- the loop has not ended: its second round reads what is deleted
            have again := releases.alive 1 fun earlier before => by
              obtain rfl : earlier = 0 := Nat.lt_one_iff.mp before
              rw [Function.iterate_zero, id_eq, destroying_eq first linked]
              show ¬ some behind = (server.deleteNode outcomes (some head)).clientList
              rw [deleteNode_clientList, first]
              intro same
              rw [Option.some.inj same] at sound
              exact absurd (List.nodup_cons.mp sound.isRing.nodup).1 (not_not_intro (.head _))
            rw [Function.iterate_one, Destroying.Alive, second_round first linked] at again
            simp at again
          · intro single
            simp at single

/-- A server with one client. -/
theorem releasesOnce_single :
    ∃ one ring, ServerStep.run listening (.addClient 5 quiet) = some one ∧ one.Sound ring ∧
      (one.ReleasesOnce ring (fun _ => none) (fun _ => quiet) ↔ ring.length = 1) := by
  have runs : ((ServerStep.run listening (.addClient 5 quiet)).map
      fun one => one.clientList) = some (some 0) := by
    decide +kernel
  obtain ⟨one, ran, first⟩ := Option.map_eq_some_iff.mp runs
  have reaches : listening.Reaches one := .single ⟨.addClient 5 quiet, trivial, ran⟩
  obtain ⟨ring, sound⟩ := (ring_wellFormed listening_new reaches).1
  refine ⟨one, ring, ran, sound, releasesOnce_iff sound fun empty => ?_⟩
  rw [sound.head, empty] at first
  contradiction

/-- Two clients, and the memory of a destroyed node keeps its link. -/
theorem destroying_two : ¬ ∀ (server : Server) (ring : List CollectionId)
    (stale : Destroying → Option CollectionId) (outcomes : CollectionId → Outcomes),
      server.Sound ring → ring ≠ [] → server.ReleasesOnce ring stale outcomes := by
  intro all
  have result : ((ServerStep.run listening (.addClient 5 quiet)).bind fun one =>
      (ServerStep.run one (.addClient 6 quiet)).map fun two =>
        let start := two.destroying (fun _ => some 1) fun _ => quiet
        (two.clientList, decide start.Ended,
          (Destroying.round (fun _ => some 1) (fun _ => quiet) start).touches)) =
      some (some 0, false, [.follow 0, .delete 0, .follow 0, .delete 1]) := by
    decide +kernel
  obtain ⟨one, ran, result⟩ := Option.bind_eq_some_iff.mp result
  obtain ⟨two, again, values⟩ := Option.map_eq_some_iff.mp result
  simp only [Prod.mk.injEq] at values
  obtain ⟨first, unended, touches⟩ := values
  have reaches : listening.Reaches two :=
    .tail (.single ⟨.addClient 5 quiet, trivial, ran⟩) ⟨.addClient 6 quiet, trivial, again⟩
  obtain ⟨ring, sound⟩ := (ring_wellFormed listening_new reaches).1
  have releases := all two ring (fun _ => some 1) (fun _ => quiet) sound fun empty => by
    rw [sound.head, empty] at first
    contradiction
  have alive := releases.alive 1 fun earlier before => by
    obtain rfl : earlier = 0 := Nat.lt_one_iff.mp before
    rw [Function.iterate_zero, id_eq]
    exact of_decide_eq_false unended
  rw [Function.iterate_one, Destroying.Alive, touches] at alive
  simp at alive

end Server

end SynapTCP
