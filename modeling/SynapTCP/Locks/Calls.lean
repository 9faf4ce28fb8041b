import SynapTCP.Frame.Receive
import SynapTCP.Locks.Receiving
import SynapTCP.Socket.Send

namespace SynapTCP

open Data DataFrame

/-! # The locks of the calls on one object

The public methods of `Socket` and `SynapSock`, each with what it does to the
mutexes of its object.
-/

namespace Framing

variable {F : Type} [DataFrame F]

def elementInner (framing : Framing F) (tmp : F) : List Inner :=
  let socket := framing.sock.toSocket
  if getType tmp = .startBytes ∧ 0 < (getReference tmp).length then
    socket.receiveStartBytesInner framing.wire (getReference tmp)
  else if getType tmp = .stopBytes ∧ 0 < (getReference tmp).length then
    socket.receiveStopBytesInner framing.wire (getReference tmp)
  else if (getType tmp).isField then
    if 0 < getSize tmp then
      let reception := socket.receiveNBytes framing.wire (getSize tmp)
      socket.receiveNBytesInner framing.wire (getSize tmp) ++
        if reception.code = 0 then [.getBuffer reception.socket] else []
    else match framing.sock.frameFormat[framing.tmp + 1]? with
      | none => []
      | some next =>
          if getType next = .stopBytes ∧ 0 < (getReference next).length then
            let reception := socket.receiveUntillStopBytes framing.wire (getReference next)
            socket.receiveUntillStopBytesInner framing.wire (getReference next) ++
              if reception.code = 0 then [.getBuffer reception.socket] else []
          else []
  else []

def passInner (framing : Framing F) : List Inner :=
  let framing := framing.execute getExecuteFunction
  match framing.sock.frameFormat[framing.tmp]? with
  | none => []
  | some tmp => framing.elementInner tmp

def frameLoopInner (framing : Framing F) : List Inner :=
  if _more : framing.tmp < framing.sock.frameFormat.length then
    framing.passInner ++ match _passed : framing.pass with
      | .onward later => later.frameLoopInner
      | .leave _ _ => []
  else []
termination_by framing.remaining
decreasing_by exact pass_remaining _more _passed

end Framing

/-- A method of `Socket` or `SynapSock`; a framed one finds the format that is set. -/
inductive SocketCall (F : Type) where
  | setAddressOctets (address : List UInt8)
  | setAddressVector (address : List UInt8)
  | setAddress (address : Bytes)
  | setPort (port : Int)
  | setTimeout (milliseconds : Int)
  | setTimeoutParts (seconds milliseconds : Int)
  | setKeepAliveMs (keepAliveMs : Int)
  | setIsUseSSL (useSSL : Bool)
  | setSSLVerifyMode (sslVerifyMode : Bool)
  | setSSLPointer (sslConn : Option Nat)
  | setSocketFd (sockFd : Int)
  | getAddress
  | getSSLVerifyMode
  /-- Any getter that just returns a field, and `isSocketTimeout`. -/
  | getField
  | isInputBytesAvailable
  | receiveData (sz : Nat) (dontSplitRemainingData : Bool)
  | receiveStartBytes (startBytes : Bytes)
  | receiveUntillStopBytes (stopBytes : Bytes)
  | receiveStopBytes (stopBytes : Bytes)
  | receiveNBytes (sz : Nat)
  | receiveFramedData (frameFormat : List F)
  | getBufferUpTo (maxBufferSz : Nat)
  | getBuffer
  | getRemainingBufferUpTo (maxBufferSz : Nat)
  | getRemainingBuffer
  | sendData (buffer : Bytes)
  | sendFramedData (frameFormat : List F)
  | closeConnection
  | closeSocket

/-- What the system answers during one call. -/
structure CallOutcomes where
  wire : Wire
  spins : List Bool → Nat
  inputBytes : Option Nat
  writes : List Nat
  closes : Bool
  again : Bool

namespace Socket

/-- The loop of `sendData` does nothing to the mutexes, and every exit unlocks. -/
def sendDataCall (socket : Socket) (buffer : Bytes) (writes : List Nat) : Call Nat :=
  ⟨(socket.sendData buffer writes).code, socket,
    [.acquire (.mutex () .wmtx), .release (.mutex () .wmtx)]⟩

end Socket

namespace SocketCall

variable {F : Type} [DataFrame F]

/-- The calls of `receiveData` and `getBuffer` in a receive operation. -/
def inner (socket : Socket) (outcomes : CallOutcomes) : SocketCall F → List Inner
  | .receiveData sz _ => [.receiveData socket outcomes.wire sz]
  | .receiveStartBytes startBytes => socket.receiveStartBytesInner outcomes.wire startBytes
  | .receiveUntillStopBytes stopBytes => socket.receiveUntillStopBytesInner outcomes.wire stopBytes
  | .receiveStopBytes stopBytes => socket.receiveStopBytesInner outcomes.wire stopBytes
  | .receiveNBytes sz => socket.receiveNBytesInner outcomes.wire sz
  | .receiveFramedData [] => [.receiveData socket outcomes.wire 0]
  | .receiveFramedData frameFormat =>
      (SynapSock.opening ⟨socket, frameFormat, true⟩ outcomes.wire).frameLoopInner
  | _ => []

/-- The object behind the call and the acts on the way; there are none where the
reception of a frame runs past the end of an empty buffer, or a frame is sent
without a format. -/
def run (socket : Socket) (outcomes : CallOutcomes) (call : SocketCall F) :
    Option (Socket × List (Act (Resource Unit))) :=
  let done {α : Type} (call : Call α) := some (call.socket, call.acts)
  let receives (reception : Reception) :=
    some (reception.socket, (call.inner socket outcomes).flatMap (Inner.acts outcomes.spins))
  match call with
  | .setAddressOctets address => done (socket.setAddressOctets address)
  | .setAddressVector address => done (socket.setAddressVector address)
  | .setAddress address => done (socket.setAddress address)
  | .setPort port => done (socket.setPort port)
  | .setTimeout milliseconds => done (socket.setTimeout milliseconds)
  | .setTimeoutParts seconds milliseconds => done (socket.setTimeoutParts seconds milliseconds)
  | .setKeepAliveMs keepAliveMs => done (socket.setKeepAliveMs keepAliveMs)
  | .setIsUseSSL useSSL => done (socket.setIsUseSSL useSSL)
  | .setSSLVerifyMode sslVerifyMode => done (socket.setSSLVerifyMode sslVerifyMode)
  | .setSSLPointer sslConn => done (socket.setSSLPointer sslConn)
  | .setSocketFd sockFd => done (socket.setSocketFd sockFd)
  | .getAddress => done socket.getAddress
  | .getSSLVerifyMode => done socket.getSSLVerifyMode
  | .getField => done (socket.early ())
  | .isInputBytesAvailable => done (socket.isInputBytesAvailable outcomes.inputBytes)
  | .receiveData sz dontSplitRemainingData =>
      receives (socket.receiveData outcomes.wire sz dontSplitRemainingData)
  | .receiveStartBytes startBytes => receives (socket.receiveStartBytes outcomes.wire startBytes)
  | .receiveUntillStopBytes stopBytes =>
      receives (socket.receiveUntillStopBytes outcomes.wire stopBytes)
  | .receiveStopBytes stopBytes => receives (socket.receiveStopBytes outcomes.wire stopBytes)
  | .receiveNBytes sz => receives (socket.receiveNBytes outcomes.wire sz)
  | .receiveFramedData frameFormat =>
      (SynapSock.receiveFramedData ⟨socket, frameFormat, true⟩ outcomes.wire).bind
        fun reception => receives ⟨reception.code, reception.sock.toSocket, reception.wire⟩
  | .getBufferUpTo maxBufferSz => done (socket.getBufferUpTo maxBufferSz)
  | .getBuffer => done socket.getBuffer
  | .getRemainingBufferUpTo maxBufferSz => done (socket.getRemainingBufferUpTo maxBufferSz)
  | .getRemainingBuffer => done socket.getRemainingBuffer
  | .sendData buffer => done (socket.sendDataCall buffer outcomes.writes)
  | .sendFramedData frameFormat =>
      if frameFormat = [] then none
      else if getAllData frameFormat = [] then done (socket.early 3)
      else done (socket.sendDataCall (getAllData frameFormat) outcomes.writes)
  | .closeConnection => done (socket.closeConnection outcomes.closes)
  | .closeSocket => done (socket.closeSocket outcomes.closes outcomes.again)

/-- No reading with SSL on and without an SSL connection, and no printing of an
address that is not four octets. -/
structure Spares (socket : Socket) (outcomes : CallOutcomes) (call : SocketCall F) : Prop where
  accepted : ∀ inner ∈ call.inner socket outcomes, ¬ inner.Refused
  octets : call = .getAddress → socket.address.length = 4

end SocketCall

/-! ## Locked bodies -/

section Bodies

variable {ω : Type} [DecidableEq ω] {owner : ω} {acts : List (Act (Resource ω))}

/-- A body between the locks of both mutexes and their unlocks that leaves the
mutexes alone. -/
theorem locked_disciplined (alone : ∀ act ∈ acts, ¬ act.thing.IsMutex) :
    Disciplined Resource.IsMutex (lockOf owner ++ acts ++ unlockOf owner) := by
  intro t isMutex
  have absent : ∀ act ∈ acts, act.thing ≠ t := by
    intro act member same
    apply alone act member
    rw [same]
    exact isMutex
  cases t with
  | mutex other lock =>
      by_cases same : owner = other
      · subst same
        cases lock with
        | mtx =>
            rw [hold_append, hold_append, lockOf, hold, if_pos rfl, if_neg Bool.noConfusion,
              hold_acquire_of_ne (by simp), hold_nil, Option.bind_some, hold_of_absent absent,
              Option.bind_some, unlockOf, hold, if_pos rfl, if_pos rfl, hold_release_of_ne (by simp),
              hold_nil]
        | wmtx =>
            rw [hold_append, hold_append, lockOf, hold_acquire_of_ne (by simp), hold, if_pos rfl,
              if_neg Bool.noConfusion, hold_nil, Option.bind_some, hold_of_absent absent,
              Option.bind_some, unlockOf, hold_release_of_ne (by simp), hold, if_pos rfl, if_pos rfl,
              hold_nil]
      · have apart : ∀ lock', Resource.mutex owner lock' ≠ .mutex other lock := by
          intro lock' equal
          cases equal
          exact same rfl
        rw [hold_append, hold_append, lockOf, hold_acquire_of_ne (apart _),
          hold_acquire_of_ne (apart _), hold_nil, Option.bind_some, hold_of_absent absent,
          Option.bind_some, unlockOf, hold_release_of_ne (apart _), hold_release_of_ne (apart _),
          hold_nil]
  | descriptor fd => contradiction
  | connection ssl => contradiction

theorem guarded_disciplined : Disciplined Resource.IsMutex (lockOf owner ++ unlockOf owner) := by
  have empty := @locked_disciplined ω _ owner [] fun _ member => by contradiction
  rwa [List.append_nil] at empty

/-- Two objects are locked one behind the other and unlocked in the same order, which
is right if they are two. -/
theorem duplicateActs_disciplined_iff {this obj : ω} :
    Disciplined Resource.IsMutex (Socket.duplicateActs this obj) ↔ this ≠ obj := by
  constructor
  · intro disciplined same
    have kept := disciplined (.mutex this .mtx) trivial
    subst same
    simp [Socket.duplicateActs, lockOf, unlockOf, hold] at kept
  · intro apart t isMutex
    cases t with
    | mutex owner lock =>
        by_cases first : this = owner
        · subst first
          cases lock <;> simp [Socket.duplicateActs, lockOf, unlockOf, hold, apart.symm]
        · by_cases second : obj = owner
          · subst second
            cases lock <;> simp [Socket.duplicateActs, lockOf, unlockOf, hold, apart]
          · simp [Socket.duplicateActs, lockOf, unlockOf, first, second]
    | descriptor fd => contradiction
    | connection ssl => contradiction

end Bodies

namespace Socket

variable {socket : Socket} {closes again : Bool}

theorem freeSSL_alone : ∀ act ∈ socket.freeSSL.acts, ¬ act.thing.IsMutex := by
  unfold freeSSL
  intro act member
  cases connection : socket.sslConn with
  | none =>
      rw [connection] at member
      contradiction
  | some ssl =>
      rw [connection] at member
      dsimp only at member
      split at member
      · rw [List.mem_singleton.mp member]
        exact not_false
      · contradiction

theorem closeFd_alone : ∀ act ∈ (socket.closeFd closes).acts, ¬ act.thing.IsMutex := by
  unfold closeFd
  intro act member
  split at member
  · split at member
    · rw [List.mem_singleton.mp member]
      exact not_false
    · contradiction
  · contradiction

theorem closeConnection_disciplined :
    Disciplined Resource.IsMutex (socket.closeConnection closes).acts := by
  apply locked_disciplined
  intro act member
  rcases List.mem_append.mp member with freed | closed
  · exact freeSSL_alone act freed
  · exact closeFd_alone act closed

theorem closeSocket_disciplined :
    Disciplined Resource.IsMutex (socket.closeSocket closes again).acts :=
  closeConnection_disciplined.append (locked_disciplined closeFd_alone)

/-- An address of another size than four octets is never unlocked. -/
theorem getAddress_disciplined_iff :
    Disciplined Resource.IsMutex socket.getAddress.acts ↔ socket.address.length = 4 := by
  constructor
  · intro disciplined
    by_contra short
    have kept := disciplined (.mutex () .mtx) trivial
    rw [getAddress, if_pos short] at kept
    contradiction
  · intro octets
    rw [getAddress, if_neg (not_not.mpr octets)]
    exact guarded_disciplined

/-- The six setters that the constructor calls one after another. -/
theorem construct_disciplined : Disciplined Resource.IsMutex (construct socket).acts := by
  have setters : (construct socket).acts =
      (List.replicate 6 (lockOf () ++ unlockOf ())).flatten := rfl
  rw [setters]
  apply Disciplined.flatten
  intro part member
  rw [List.eq_of_mem_replicate member]
  exact guarded_disciplined

end Socket

namespace SocketCall

variable {F : Type} [DataFrame F] {socket : Socket} {outcomes : CallOutcomes} {call : SocketCall F}
  {after : Socket × List (Act (Resource Unit))}

theorem setter_disciplined {α : Type} {refuses : Prop} [Decidable refuses] {refused set : α}
    {kept changed : Socket} : Disciplined Resource.IsMutex
      (if refuses then kept.early refused else Socket.guarded set changed).acts := by
  split
  · exact .nil
  · exact guarded_disciplined

theorem disciplined_iff_of_plain (disciplined : Disciplined Resource.IsMutex after.2)
    (noReception : call.inner socket outcomes = []) (other : call ≠ .getAddress) :
    Disciplined Resource.IsMutex after.2 ↔ call.Spares socket outcomes := by
  constructor
  · intro _
    refine ⟨fun inner member => ?_, fun isGetAddress => absurd isGetAddress other⟩
    rw [noReception] at member
    contradiction
  · intro _
    exact disciplined

theorem disciplined_iff_of_reception
    (acts : after.2 = (call.inner socket outcomes).flatMap (Inner.acts outcomes.spins))
    (other : call ≠ .getAddress) :
    Disciplined Resource.IsMutex after.2 ↔ call.Spares socket outcomes := by
  rw [acts, Inner.flatMap_disciplined_iff]
  constructor
  · intro accepted
    exact ⟨accepted, fun isGetAddress => absurd isGetAddress other⟩
  · intro spares
    exact spares.accepted

theorem run_disciplined_iff (ran : call.run socket outcomes = some after) :
    Disciplined Resource.IsMutex after.2 ↔ call.Spares socket outcomes := by
  cases call with
  | setAddressOctets _ | setAddressVector _ | setAddress _ | setPort _ | setTimeoutParts _ _
  | setKeepAliveMs _ | setSocketFd _ =>
      cases ran
      exact disciplined_iff_of_plain setter_disciplined rfl nofun
  | setTimeout milliseconds =>
      cases ran
      refine disciplined_iff_of_plain ?_ rfl nofun
      dsimp only
      unfold Socket.setTimeout
      split
      · exact .nil
      · split <;> exact guarded_disciplined
  | setSSLVerifyMode sslVerifyMode =>
      cases ran
      refine disciplined_iff_of_plain ?_ rfl nofun
      dsimp only
      unfold Socket.setSSLVerifyMode
      split <;> exact guarded_disciplined
  | setIsUseSSL _ | setSSLPointer _ | getSSLVerifyMode =>
      cases ran
      exact disciplined_iff_of_plain guarded_disciplined rfl nofun
  | getAddress =>
      cases ran
      rw [Socket.getAddress_disciplined_iff]
      constructor
      · intro octets
        refine ⟨fun inner member => ?_, fun _ => octets⟩
        contradiction
      · intro spares
        exact spares.octets rfl
  | getField =>
      cases ran
      exact disciplined_iff_of_plain .nil rfl nofun
  | isInputBytesAvailable | getBufferUpTo _ | getBuffer | getRemainingBufferUpTo _
  | getRemainingBuffer =>
      cases ran
      exact disciplined_iff_of_plain Socket.single_disciplined rfl nofun
  | receiveData _ _ | receiveStartBytes _ | receiveUntillStopBytes _ | receiveStopBytes _
  | receiveNBytes _ =>
      cases ran
      exact disciplined_iff_of_reception rfl nofun
  | receiveFramedData frameFormat =>
      obtain ⟨reception, _, same⟩ := Option.bind_eq_some_iff.mp ran
      cases same
      exact disciplined_iff_of_reception rfl nofun
  | sendData buffer =>
      cases ran
      exact disciplined_iff_of_plain Socket.single_disciplined rfl nofun
  | sendFramedData frameFormat =>
      unfold run at ran
      dsimp only at ran
      split at ran
      · contradiction
      · split at ran
        · cases ran
          exact disciplined_iff_of_plain .nil rfl nofun
        · cases ran
          exact disciplined_iff_of_plain Socket.single_disciplined rfl nofun
  | closeConnection =>
      cases ran
      exact disciplined_iff_of_plain Socket.closeConnection_disciplined rfl nofun
  | closeSocket =>
      cases ran
      exact disciplined_iff_of_plain Socket.closeSocket_disciplined rfl nofun

end SocketCall

end SynapTCP
