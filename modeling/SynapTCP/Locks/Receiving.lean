import SynapTCP.Socket.Receive
import SynapTCP.Socket.Setup

namespace SynapTCP

open Data

/-! # The locks of the receive operations

`receiveData` frees its mutex while it waits for more bytes, and the operations
built on it lock nothing themselves.  What they ask of `receiveData` and
`getBuffer` is listed; the acts on the mutexes are those of the list.
-/

/-- The mutexes of all objects. -/
def Resource.IsMutex {ω : Type} : Resource ω → Prop
  | .mutex _ _ => True
  | .descriptor _ => False
  | .connection _ => False

section Renaming

variable {ω ω' : Type}

/-- The same resource, its mutexes those of other owners. -/
def Resource.map (f : ω → ω') : Resource ω → Resource ω'
  | .mutex owner lock => .mutex (f owner) lock
  | .descriptor fd => .descriptor fd
  | .connection ssl => .connection ssl

theorem Resource.map_injective {f : ω → ω'} (injective : f.Injective) :
    (Resource.map f).Injective := by
  intro first second same
  cases first with
  | mutex owner lock =>
      cases second with
      | mutex other otherLock =>
          injection same with owners locks
          rw [injective owners, locks]
      | descriptor fd => contradiction
      | connection ssl => contradiction
  | descriptor fd =>
      cases second with
      | mutex other lock => contradiction
      | descriptor other => exact congrArg _ (Resource.descriptor.inj same)
      | connection ssl => contradiction
  | connection ssl =>
      cases second with
      | mutex other lock => contradiction
      | descriptor fd => contradiction
      | connection other => exact congrArg _ (Resource.connection.inj same)

theorem Resource.isMutex_map {f : ω → ω'} (resource : Resource ω) :
    (resource.map f).IsMutex ↔ resource.IsMutex := by
  cases resource <;> rfl

theorem Resource.at_eq_map (owner : ω) : Resource.at owner = Resource.map fun _ => owner := by
  funext resource
  cases resource <;> rfl

end Renaming

/-- A body between the lock and the unlock of `mtx`. -/
def Socket.withMtx {α : Type} (result : α) (socket : Socket) : Call α :=
  ⟨result, socket, [.acquire (.mutex () .mtx), .release (.mutex () .mtx)]⟩

namespace Socket

/-- `inputBytes` is what `ioctl` counts, if it succeeds. -/
def isInputBytesAvailable (socket : Socket) (inputBytes : Option Nat) : Call Bool :=
  withMtx (0 < inputBytes.getD 0) socket

/-- `getBuffer(unsigned char *, size_t)`. -/
def getBufferUpTo (socket : Socket) (maxBufferSz : Nat) : Call Bytes :=
  withMtx (socket.data.take maxBufferSz) socket

/-- `getBuffer(std::vector <unsigned char> &)`, and `getBufferAsVector`. -/
def getBuffer (socket : Socket) : Call Bytes := withMtx socket.data socket

def getRemainingBufferUpTo (socket : Socket) (maxBufferSz : Nat) : Call Bytes :=
  withMtx (socket.remainingData.take maxBufferSz) socket

def getRemainingBuffer (socket : Socket) : Call Bytes := withMtx socket.remainingData socket

/-- The wait at the head of a round: `spins` says how often the waiting loop polls
again before the poll behind it. -/
def awaitActs (socket : Socket) (spins : List Bool → Nat) (data : Bytes) (polls : List Bool) :
    List (Act (Resource Unit)) :=
  if data = [] ∨ socket.keepAliveMs = 0 then []
  else [Act.release (Resource.mutex () .mtx)] ++
    (List.replicate (spins polls + 2) (socket.isInputBytesAvailable none).acts).flatten ++
    [Act.acquire (Resource.mutex () .mtx)]

/-- What the reading loop does to the mutexes; where SSL has no connection it
unlocks the wrong one. -/
def readLoopActs (socket : Socket) (spins : List Bool → Nat) (sz : Nat) (data : Bytes)
    (polls : List Bool) : List ReadResult → List (Act (Resource Unit))
  | [] =>
      socket.awaitActs spins data polls ++
        if (awaitInput socket.keepAliveMs data polls).1 && socket.useSSL && socket.sslConn.isNone
        then [Act.release (Resource.mutex () .wmtx)] else []
  | read :: reads =>
      socket.awaitActs spins data polls ++
        match awaitInput socket.keepAliveMs data polls with
        | (false, _) => []
        | (true, polls) =>
            if socket.useSSL && socket.sslConn.isNone then [Act.release (Resource.mutex () .wmtx)]
            else match read with
              | .failed => []
              | .chunk piece =>
                  let data := data ++ piece.bytes
                  if sz = 0 ∨ data.length < sz then socket.readLoopActs spins sz data polls reads
                  else []

def receiveDataActs (socket : Socket) (spins : List Bool → Nat) (wire : Wire) (sz : Nat) :
    List (Act (Resource Unit)) :=
  let reading := socket.readLoop sz socket.remainingData wire.polls wire.reads
  if socket.sockFd ≤ 0 then
    [Act.acquire (Resource.mutex () .mtx), Act.release (Resource.mutex () .mtx)]
  else [Act.acquire (Resource.mutex () .mtx)] ++
    socket.readLoopActs spins sz socket.remainingData wire.polls wire.reads ++
    if reading.refused then [] else [Act.release (Resource.mutex () .mtx)]

end Socket

/-- What an operation calls on its own object. -/
inductive Inner where
  | receiveData (socket : Socket) (wire : Wire) (sz : Nat)
  | getBuffer (socket : Socket)

namespace Inner

def acts (spins : List Bool → Nat) : Inner → List (Act (Resource Unit))
  | .receiveData socket wire sz => socket.receiveDataActs spins wire sz
  | .getBuffer socket => socket.getBuffer.acts

/-- The call gets to reading with SSL on and without an SSL connection. -/
def Refused : Inner → Prop
  | .receiveData socket wire sz => 0 < socket.sockFd ∧
      (socket.readLoop sz socket.remainingData wire.polls wire.reads).refused = true
  | .getBuffer _ => False

end Inner

namespace Socket

def fetchInner (s : Socket) (w : Wire) (sz : Nat) : List Inner :=
  if s.remainingData ≠ [] then [] else [.receiveData s w sz]

def searchLoopInner (s : Socket) (pattern : Bytes) (w : Wire) (tmp : Bytes)
    (i idxCheck : Nat) (isRcvFirstBytes : Bool) : List Inner :=
  let round := s.fetch w pattern.length
  s.fetchInner w pattern.length ++
    if _received : round.code = 0 then
      let idxCheck :=
        if isRcvFirstBytes = true ∧ pattern.length < tmp.length then tmp.length + 1 - pattern.length
        else idxCheck
      let tmp := tmp ++ round.socket.data ++ round.socket.remainingData
      let socket := { round.socket with remainingData := [] }
      let searched :=
        if pattern.length ≤ tmp.length then searchFrom pattern tmp idxCheck else (false, i)
      if searched.1 then []
      else searchLoopInner socket pattern round.wire tmp searched.2 idxCheck true
    else []
termination_by supply s w
decreasing_by exact s.fetch_supply w _ _received

def compareLoopInner (s : Socket) (pattern : Bytes) (w : Wire) (tmp : Bytes) : List Inner :=
  let round := s.fetch w (pattern.length - tmp.length)
  s.fetchInner w (pattern.length - tmp.length) ++
    if _received : round.code = 0 then
      let tmp := tmp ++ round.socket.data ++ round.socket.remainingData
      let socket := { round.socket with remainingData := [] }
      if pattern.length ≤ tmp.length then []
      else compareLoopInner socket pattern round.wire tmp
    else []
termination_by supply s w
decreasing_by exact s.fetch_supply w _ _received

def countLoopInner (s : Socket) (sz : Nat) (w : Wire) (tmp : Bytes) (tryTimes : Nat)
    (isRcvFirstBytes : Bool) : List Inner :=
  let round := s.fetch w sz
  s.fetchInner w sz ++
    if _received : round.code = 0 then
      let tryTimes := if isRcvFirstBytes = true then tryTimes else 3
      let tmp := tmp ++ round.socket.data ++ round.socket.remainingData
      let socket := { round.socket with remainingData := [] }
      if sz ≤ tmp.length then []
      else if 0 < tryTimes then countLoopInner socket sz round.wire tmp tryTimes true
      else []
    else if _again : isRcvFirstBytes = true ∧ 0 < tryTimes - 1 then
      countLoopInner round.socket sz round.wire tmp (tryTimes - 1) isRcvFirstBytes
    else []
termination_by 4 * supply s w + tryTimes
decreasing_by
  · have less := s.fetch_supply w sz _received
    show 4 * supply { (s.fetch w sz).socket with remainingData := [] }
      (s.fetch w sz).wire + (if isRcvFirstBytes = true then _ else 3) < _
    split <;> omega
  · have bound := s.fetch_failed_supply w sz _received
    omega

def receiveStartBytesInner (s : Socket) (w : Wire) (startBytes : Bytes) : List Inner :=
  s.searchLoopInner startBytes w [] 0 0 false

def receiveUntillStopBytesInner (s : Socket) (w : Wire) (stopBytes : Bytes) : List Inner :=
  s.searchLoopInner stopBytes w [] 0 0 false

def receiveStopBytesInner (s : Socket) (w : Wire) (stopBytes : Bytes) : List Inner :=
  s.compareLoopInner stopBytes w []

def receiveNBytesInner (s : Socket) (w : Wire) (sz : Nat) : List Inner :=
  s.countLoopInner sz w [] 0 false

/-! ## `receiveData` keeps its mutex -/

variable {socket : Socket} {spins : List Bool → Nat} {sz : Nat} {data : Bytes} {polls : List Bool}
  {reads : List ReadResult} {wire : Wire} {held : Bool}

theorem single_disciplined {lock : Lock} : Disciplined Resource.IsMutex
    [Act.acquire (Resource.mutex () lock), Act.release (Resource.mutex () lock)] := by
  intro t isMutex
  cases t with
  | mutex owner other => cases lock <;> cases other <;> rfl
  | descriptor fd => contradiction
  | connection ssl => contradiction

theorem polling_disciplined {count : Nat} : Disciplined Resource.IsMutex
    (List.replicate count (socket.isInputBytesAvailable none).acts).flatten := by
  apply Disciplined.flatten
  intro part member
  rw [List.eq_of_mem_replicate member]
  exact single_disciplined

theorem awaitActs_mtx :
    hold (.mutex () .mtx) true (socket.awaitActs spins data polls) = some true := by
  unfold awaitActs
  split
  · rfl
  · have polling := @polling_disciplined socket (spins polls + 2) (.mutex () .mtx) trivial
    rw [List.append_assoc, List.singleton_append, hold, if_pos rfl, if_pos rfl, hold_then polling]
    rfl

theorem awaitActs_wmtx :
    hold (.mutex () .wmtx) held (socket.awaitActs spins data polls) = some held := by
  apply hold_of_absent
  unfold awaitActs
  split
  · intro act member
    contradiction
  · intro act member
    rcases List.mem_append.mp member with before | last
    · rcases List.mem_append.mp before with first | polling
      · rw [List.mem_singleton.mp first]
        simp [Act.thing]
      · obtain ⟨poll, replicated, acts⟩ := List.mem_flatten.mp polling
        rw [List.eq_of_mem_replicate replicated] at acts
        rcases List.mem_pair.mp acts with locks | unlocks
        · rw [locks]
          simp [Act.thing]
        · rw [unlocks]
          simp [Act.thing]
    · rw [List.mem_singleton.mp last]
      simp [Act.thing]

theorem readLoopActs_mtx :
    hold (.mutex () .mtx) true (socket.readLoopActs spins sz data polls reads) = some true := by
  induction reads generalizing data polls with
  | nil =>
      rw [readLoopActs, hold_then awaitActs_mtx]
      split <;> rfl
  | cons read reads ih =>
      rw [readLoopActs, hold_then awaitActs_mtx]
      split
      · rfl
      · split
        · rfl
        · cases read with
          | failed => rfl
          | chunk piece =>
              dsimp only
              split
              · exact ih
              · rfl

theorem readLoopActs_wmtx :
    hold (.mutex () .wmtx) false (socket.readLoopActs spins sz data polls reads) =
      if (socket.readLoop sz data polls reads).refused then none else some false := by
  induction reads generalizing data polls with
  | nil =>
      rw [readLoopActs, hold_then awaitActs_wmtx, readLoop]
      dsimp only
      split <;> rfl
  | cons read reads ih =>
      rw [readLoopActs, hold_then awaitActs_wmtx, readLoop]
      obtain ⟨ready, rest⟩ := awaitInput socket.keepAliveMs data polls
      cases ready with
      | false => rfl
      | true =>
          dsimp only
          split
          · rfl
          · cases read with
            | failed => rfl
            | chunk piece =>
                dsimp only
                split
                · exact ih
                · rfl

end Socket

namespace Inner

variable {inner : Inner} {inners : List Inner} {spins : List Bool → Nat}

/-- A refused call unlocks a mutex that it does not hold. -/
theorem acts_refused (refused : inner.Refused) :
    hold (.mutex () .wmtx) false (inner.acts spins) = none := by
  cases inner with
  | receiveData socket wire sz =>
      obtain ⟨opened, refuses⟩ := refused
      rw [acts, Socket.receiveDataActs, if_neg (Int.not_le.mpr opened), List.append_assoc,
        List.singleton_append, hold_acquire_of_ne (by simp), hold_append, Socket.readLoopActs_wmtx,
        if_pos refuses]
      rfl
  | getBuffer socket => contradiction

theorem acts_disciplined (accepted : ¬ inner.Refused) :
    Disciplined Resource.IsMutex (inner.acts spins) := by
  cases inner with
  | getBuffer socket => exact Socket.single_disciplined
  | receiveData socket wire sz =>
      by_cases closed : socket.sockFd ≤ 0
      · rw [acts, Socket.receiveDataActs, if_pos closed]
        exact Socket.single_disciplined
      · have reads : (socket.readLoop sz socket.remainingData wire.polls wire.reads).refused = false := by
          apply Bool.eq_false_iff.mpr
          intro refuses
          exact accepted ⟨Int.lt_of_not_ge closed, refuses⟩
        rw [acts, Socket.receiveDataActs, if_neg closed, reads, List.append_assoc,
          List.singleton_append]
        intro t isMutex
        cases t with
        | mutex owner lock =>
            cases lock with
            | mtx =>
                rw [hold, if_pos rfl, if_neg Bool.noConfusion, hold_then Socket.readLoopActs_mtx]
                rfl
            | wmtx =>
                have kept := @Socket.readLoopActs_wmtx socket spins sz socket.remainingData
                  wire.polls wire.reads
                rw [reads] at kept
                rw [hold_acquire_of_ne (by simp), hold_then kept]
                rfl
        | descriptor fd => contradiction
        | connection ssl => contradiction

theorem flatMap_disciplined_iff : Disciplined Resource.IsMutex (inners.flatMap (acts spins)) ↔
    ∀ inner ∈ inners, ¬ inner.Refused := by
  constructor
  · intro disciplined
    induction inners with
    | nil =>
        intro inner member
        contradiction
    | cons first inners ih =>
        have accepted : ¬ first.Refused := by
          intro refused
          have kept := disciplined (.mutex () .wmtx) trivial
          rw [List.flatMap_cons, hold_append, acts_refused refused] at kept
          contradiction
        have rest : Disciplined Resource.IsMutex (inners.flatMap (acts spins)) := by
          intro t isMutex
          have kept := disciplined t isMutex
          rw [List.flatMap_cons, hold_then (acts_disciplined accepted t isMutex)] at kept
          exact kept
        intro inner member
        rcases List.mem_cons.mp member with same | later
        · rw [same]
          exact accepted
        · exact ih rest inner later
  · intro accepted
    apply Disciplined.flatten
    intro part member
    obtain ⟨inner, called, same⟩ := List.mem_map.mp member
    rw [← same]
    exact acts_disciplined (accepted inner called)

end Inner

end SynapTCP
