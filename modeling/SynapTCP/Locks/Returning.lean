import SynapTCP.Frame.Recovery
import SynapTCP.Locks.World
import SynapTCP.Server.Runs

namespace SynapTCP

open Data SynapSock

/-! # Calls that come back

Which calls of one thread return, and that they return with every mutex free.  Calls
wait for threads only; the reads, writes and `select` of the system come back.
-/

namespace ApiCall

variable {F : Type} [DataFrame F]

/-- No check removes the client of the head of a ring with other nodes. -/
def SparesHead (world : World) : ApiCall F → Prop
  | .eventCheck i outcomes _ => ∀ server, world.serverAt i = some server →
      ∀ client, server.dropped outcomes = some client → ¬ server.DropsHead client
  | _ => True

end ApiCall

namespace SocketCall

variable {F : Type} [DataFrame F] {socket : Socket} {outcomes : CallOutcomes} {call : SocketCall F}

end SocketCall

namespace Thing

variable {thing : Thing} {owner : Owner} {socket : Socket}

/-- The ring of a server is well formed. -/
def WellFormed (thing : Thing) : Prop := ∀ server, thing.server = some server → server.WellFormed

theorem WellFormed.of_same {server after : Server} (wellFormed : server.WellFormed)
    (same : Server.SameRing server after) : (tcpServer after).WellFormed := by
  intro other isServer
  cases isServer
  obtain ⟨ring, sound⟩ := wellFormed
  exact ⟨ring, (same.trans (.of_log [])).sound sound⟩

theorem WellFormed.of_other (other : thing.server = none) : thing.WellFormed := by
  intro server isServer
  rw [other] at isServer
  contradiction

theorem WellFormed.withSocket (wellFormed : thing.WellFormed)
    (owned : ∃ before, thing.socketOf owner = some before) :
    (thing.withSocket owner socket).WellFormed := by
  obtain ⟨before, owned⟩ := owned
  cases thing with
  | sock _ | tcpClient _ =>
      cases owner with
      | server => exact .of_other rfl
      | client _ | collection _ => contradiction
  | tcpServer server =>
      have here := wellFormed _ rfl
      cases owner with
      | server => exact of_same here ⟨rfl, rfl, fun _ => rfl, fun _ => rfl⟩
      | client id =>
          have found : ({ server with log := [] } : Server).clients.get? id = some before := owned
          exact of_same here ((Server.SameRing.setClient found socket).trans (.of_log server.log))
      | collection _ => contradiction

end Thing

namespace World

variable {F : Type} [DataFrame F] {world later : World} {i : Nat} {holder : Holder}

/-- The rings of all servers are well formed. -/
def WellFormed (world : World) : Prop :=
  ∀ i thing, world.things.get? i = some thing → thing.WellFormed

theorem WellFormed.serverAt {server : Server} (wellFormed : world.WellFormed)
    (found : world.serverAt i = some server) : server.WellFormed := by
  obtain ⟨thing, there, isServer⟩ := Option.bind_eq_some_iff.mp found
  exact wellFormed i thing there server isServer

theorem WellFormed.set {thing : Thing} {log : List (Act (Resource Holder))}
    (wellFormed : world.WellFormed) (changed : thing.WellFormed) :
    (⟨world.things.set i thing, log⟩ : World).WellFormed := by
  intro j other found
  have found : (world.things.set i thing).get? j = some other := found
  by_cases same : j = i
  · rw [same] at found
    rw [Arena.eq_of_get?_set found]
    exact changed
  · rw [Arena.get?_set_of_ne same] at found
    exact wellFormed j other found

theorem WellFormed.made {thing : Thing} (wellFormed : world.WellFormed) (new : thing.WellFormed) :
    (world.made thing).WellFormed := by
  intro j other found
  have found : (world.things.make thing).get? j = some other := found
  by_cases same : j = world.things.fresh
  · rw [same, Arena.get?_make_fresh] at found
    cases found
    exact new
  · rw [Arena.get?_make_of_ne same] at found
    exact wellFormed j other found

theorem WellFormed.onServer {method : Server → Option Server} (wellFormed : world.WellFormed)
    (ran : world.onServer i method = some later)
    (keeps : ∀ server after, world.serverAt i = some server → server.WellFormed →
      method server = some after → after.WellFormed) : later.WellFormed := by
  obtain ⟨server, found, called⟩ := Option.bind_eq_some_iff.mp ran
  obtain ⟨after, runs, result⟩ := Option.map_eq_some_iff.mp called
  rw [← result]
  exact wellFormed.set
    (.of_same (keeps server after found (wellFormed.serverAt found) runs) (.refl after))

theorem WellFormed.withSocket {socket : Socket} {acts : List (Act (Resource Unit))}
    (wellFormed : world.WellFormed) (owned : ∃ before, world.socketOf holder = some before)
    (ran : world.withSocket holder socket acts = some later) : later.WellFormed := by
  obtain ⟨thing, there, result⟩ := Option.map_eq_some_iff.mp ran
  obtain ⟨before, owned⟩ := owned
  obtain ⟨same, thereToo, owned⟩ := Option.bind_eq_some_iff.mp owned
  cases there.symm.trans thereToo
  rw [← result]
  exact wellFormed.set ((wellFormed holder.1 thing there).withSocket ⟨before, owned⟩)

end World

namespace ApiCall

variable {F : Type} [DataFrame F] {world later : World} {call : ApiCall F}

/-- A call that spares the heads keeps the rings well formed. -/
theorem run_wellFormed (wellFormed : world.WellFormed) (spares : call.SparesHead world)
    (ran : call.run world = some later) : later.WellFormed := by
  cases call with
  | constructSocket | constructClient =>
      cases ran
      exact wellFormed.made (.of_other rfl)
  | constructServer memory =>
      cases ran
      refine wellFormed.made fun server isServer => ?_
      cases isServer
      exact Server.New.wellFormed ⟨rfl, rfl, rfl, rfl⟩
  | onObject holder call outcomes =>
      obtain ⟨socket, found, runs⟩ := Option.bind_eq_some_iff.mp ran
      obtain ⟨after, called, result⟩ := Option.bind_eq_some_iff.mp runs
      exact wellFormed.withSocket ⟨socket, found⟩ result
  | duplicate this obj =>
      obtain ⟨socket, -, runs⟩ := Option.bind_eq_some_iff.mp ran
      obtain ⟨other, foundOther, duplicates⟩ := Option.bind_eq_some_iff.mp runs
      obtain ⟨middle, changed, result⟩ := Option.map_eq_some_iff.mp duplicates
      have kept := wellFormed.withSocket ⟨other, foundOther⟩ changed
      rw [← result]
      exact kept
  | initClient i outcomes =>
      simp only [run, World.onClient] at ran
      split at ran
      · cases ran
        exact wellFormed.set (.of_other rfl)
      · contradiction
  | initializeSSL i =>
      simp only [run] at ran
      split at ran
      · cases ran
        exact wellFormed.set (.of_other rfl)
      · rename_i server found
        cases ran
        refine wellFormed.set ?_
        exact .of_same (wellFormed i _ found _ rfl) ⟨rfl, rfl, fun _ => rfl, fun _ => rfl⟩
      · contradiction
  | initServer i outcomes =>
      refine wellFormed.onServer ran fun server after _ wellFormed runs => ?_
      obtain ⟨ring, sound⟩ := wellFormed
      cases runs
      have same : Server.SameRing server { server with
          toSocket := (server.initServer outcomes).socket } :=
        ⟨rfl, rfl, fun _ => rfl, fun _ => rfl⟩
      exact ⟨ring, (same.trans (.emit _)).sound sound⟩
  | setMaximumClient i nClient =>
      refine wellFormed.onServer ran fun server after _ wellFormed runs => ?_
      obtain ⟨ring, sound⟩ := wellFormed
      cases runs
      refine ⟨ring, Server.SameRing.sound ?_ sound⟩
      unfold Server.setMaximumClient
      split
      · exact .refl server
      · exact ⟨rfl, rfl, fun _ => rfl, fun _ => rfl⟩
  | setConnectionRequestHandler i _ _ | setReceptionHandler i _ _ _ =>
      refine wellFormed.onServer ran fun server after _ wellFormed runs => ?_
      obtain ⟨ring, sound⟩ := wellFormed
      have same : Server.SameRing server after := by
        cases runs
        exact ⟨rfl, rfl, fun _ => rfl, fun _ => rfl⟩
      exact ⟨ring, same.sound sound⟩
  | acceptNewClient i outcomes =>
      refine wellFormed.onServer ran fun server after _ wellFormed runs => ?_
      obtain ⟨ring, sound⟩ := wellFormed
      obtain ⟨added, later, accepts, wellFormed⟩ := Server.acceptNewClient_wellFormed sound outcomes
      rw [accepts] at runs
      cases runs
      exact wellFormed
  | eventCheck i outcomes waits =>
      refine wellFormed.onServer ran fun server after found wellFormed runs => ?_
      obtain ⟨ring, sound⟩ := wellFormed
      obtain ⟨event, later, checks, wellFormed⟩ :=
        Server.eventCheck_wellFormed sound (spares server found)
      rw [checks] at runs
      cases (Option.filter_eq_some_iff.mp runs).1
      exact wellFormed

end ApiCall

namespace World

variable {F : Type} [DataFrame F] {world later : World}

/-- Of all mutexes of all objects none is held, and none was locked twice or unlocked
without being held. -/
def AllFree (world : World) : Prop := Disciplined Resource.IsMutex world.log

/-- A thread that serves the client of a node comes to its end, with the client as its
handler leaves it. -/
def threadEnds (world : World) (i : Nat) (node : CollectionId) (client : Socket) (now : TimeVal) :
    Option World :=
  (world.serverAt i).bind fun server => (server.collections.get? node).bind fun collection =>
    if 0 < collection.th then
      some ⟨world.things.set i (.tcpServer { server with
        collections := server.collections.set node { collection with th := 0, lastActivity := now }
        clients := server.clients.set collection.client client }), world.log⟩
    else none

inductive Goes (F : Type) [DataFrame F] (world later : World) : Prop where
  | calls (call : ApiCall F) (spares : call.Spares world) (sparesHead : call.SparesHead world)
      (ran : call.run world = some later)
  | threadEnds (i : Nat) (node : CollectionId) (client : Socket) (now : TimeVal)
      (ends : world.threadEnds i node client now = some later)

def Reaches (F : Type) [DataFrame F] : World → World → Prop := Relation.ReflTransGen (Goes F)

theorem threadEnds_cases {i : Nat} {node : CollectionId} {client : Socket} {now : TimeVal}
    (ends : world.threadEnds i node client now = some later) :
    later.log = world.log ∧ (world.WellFormed → later.WellFormed) := by
  obtain ⟨server, found, ends⟩ := Option.bind_eq_some_iff.mp ends
  obtain ⟨collection, here, ends⟩ := Option.bind_eq_some_iff.mp ends
  split at ends
  · cases ends
    refine ⟨rfl, fun wellFormed => wellFormed.set ?_⟩
    obtain ⟨ring, sound⟩ := wellFormed.serverAt found
    obtain ⟨socket, owner⟩ := sound.socket_of_get? here
    let ended : Server := { server with
      collections := server.collections.set node { collection with th := 0, lastActivity := now } }
    have same : Server.SameRing server ended := .of_set here rfl rfl rfl rfl rfl
    have left := @Server.SameRing.setClient ended collection.client socket owner client
    exact .of_same ⟨ring, sound⟩ (same.trans left)
  · contradiction

theorem Goes.keeps (goes : Goes F world later) (free : world.AllFree)
    (wellFormed : world.WellFormed) : later.AllFree ∧ later.WellFormed := by
  cases goes with
  | calls call spares sparesHead ran =>
      obtain ⟨acts, log, disciplined⟩ := call.run_log ran
      refine ⟨?_, call.run_wellFormed wellFormed sparesHead ran⟩
      unfold AllFree
      rw [log]
      exact free.append (disciplined.mpr spares)
  | threadEnds i node client now ends =>
      obtain ⟨log, keeps⟩ := threadEnds_cases ends
      refine ⟨?_, keeps wellFormed⟩
      unfold AllFree
      rw [log]
      exact free

theorem Reaches.keeps (reaches : Reaches F world later) (free : world.AllFree)
    (wellFormed : world.WellFormed) : later.AllFree ∧ later.WellFormed := by
  induction reaches with
  | refl => exact ⟨free, wellFormed⟩
  | tail _ goes ih => exact goes.keeps ih.1 ih.2

def runAll (world : World) : List (ApiCall F) → Option World
  | [] => some world
  | call :: calls => (call.run world).bind fun later => later.runAll calls

def quietCall : CallOutcomes := ⟨⟨[], [], 0⟩, fun _ => 0, none, [], true, true⟩

def connecting : Outcomes := { Server.quiet with connFd := 5, peer := ⟨4000, [10, 0, 0, 7]⟩ }

end World

end SynapTCP
