import SynapTCP.Locks.Calls
import SynapTCP.Socket.Conservation

namespace SynapTCP

open Data DataFrame

/-! # Receiving on a closed port

What each receive operation makes of the `1` that `receiveData` gives where the
port is not open, and of the bytes that were left over before.
-/

/-- There is no descriptor, or SSL is on and there is no SSL connection. -/
def Socket.PortClosed (socket : Socket) : Prop :=
  socket.sockFd ≤ 0 ∨ (socket.useSSL && socket.sslConn.isNone) = true

namespace Socket

variable {s : Socket} {w : Wire} {sz : Nat} {pattern tmp : Bytes}

theorem awaitInput_ready {keepAliveMs : UInt16} {data : Bytes} {polls : List Bool} :
    (awaitInput keepAliveMs data polls).1 = true ↔
      data = [] ∨ (keepAliveMs ≠ 0 ∧ polls.head? = some true) := by
  unfold awaitInput
  by_cases empty : data = []
  · simp [empty]
  · by_cases still : keepAliveMs = 0
    · simp [empty, still]
    · cases polls with
      | nil => simp [empty, still]
      | cons available polls => simp [empty, still]

/-- Without an SSL connection the loop reads nothing; it gets to the attempt if
nothing is there or the poll sees input. -/
theorem readLoop_unconnected (unconnected : (s.useSSL && s.sslConn.isNone) = true) (sz : Nat)
    (data : Bytes) (polls : List Bool) (reads : List ReadResult) :
    s.readLoop sz data polls reads =
      ⟨(awaitInput s.keepAliveMs data polls).1, data, (awaitInput s.keepAliveMs data polls).2,
        reads⟩ := by
  cases reads with
  | nil =>
      unfold readLoop
      generalize awaitInput s.keepAliveMs data polls = await
      obtain ⟨ready, rest⟩ := await
      simp only [Bool.and_assoc, unconnected, Bool.and_true]
  | cons read reads =>
      unfold readLoop
      generalize awaitInput s.keepAliveMs data polls = await
      obtain ⟨ready, rest⟩ := await
      cases ready with
      | false => rfl
      | true => simp only [unconnected, ↓reduceIte]

theorem receiveData_noDescriptor (none : s.sockFd ≤ 0) (w : Wire) (sz : Nat) (flag : Bool) :
    s.receiveData w sz flag = ⟨1, s, w⟩ := by
  unfold receiveData
  rw [if_pos none]

theorem fetch_closed (closed : s.PortClosed) (empty : s.remainingData = []) (w : Wire) (sz : Nat) :
    s.fetch w sz =
      ⟨1, { s with data := if s.sockFd ≤ 0 then s.data else [], remainingData := [] }, w⟩ := by
  unfold fetch
  rw [if_neg (by simp [empty])]
  by_cases none : s.sockFd ≤ 0
  · rw [receiveData_noDescriptor none, if_pos none, ← empty]
  · unfold receiveData
    rw [if_neg none, if_neg none, readLoop_unconnected (closed.resolve_left none), empty]
    rfl

theorem fetch_left (some : s.remainingData ≠ []) :
    s.fetch w sz = ⟨0, { s with data := s.remainingData, remainingData := [] }, w⟩ := by
  unfold fetch
  rw [if_pos some]

theorem search_missed {text : Bytes} (absent : ∀ index, ¬ OccursAt pattern text index) (i : Nat) :
    (if pattern.length ≤ text.length then searchFrom pattern text 0 else (false, i)).1 = false := by
  split
  · rw [← Bool.not_eq_true]
    intro hit
    obtain ⟨-, -, occurs, -⟩ := searchFrom_found (Prod.ext hit rfl)
    exact absent _ occurs
  · rfl

/-- A failing first half ends the search with what was gathered before. -/
theorem searchLoop_closed_empty (closed : s.PortClosed) (empty : s.remainingData = []) {i idxCheck : Nat}
    {begun : Bool} :
    s.searchLoop pattern w tmp i idxCheck begun =
      ⟨1, false, i, tmp,
        { s with data := if s.sockFd ≤ 0 then s.data else [], remainingData := [] }, w⟩ := by
  rw [searchLoop]
  simp only [fetch_closed closed empty]
  rfl

/-- Where the pattern is not left over, the search takes what is, and the next round
fails. -/
theorem searchLoop_closed (closed : s.PortClosed) (some : s.remainingData ≠ [])
    (absent : ∀ index, ¬ OccursAt pattern s.remainingData index) :
    ∃ i, s.searchLoop pattern w [] 0 0 false =
      ⟨1, false, i, s.remainingData,
        { s with
          data := if s.sockFd ≤ 0 then s.remainingData else []
          remainingData := [] }, w⟩ := by
  rw [searchLoop]
  simp only [fetch_left some, List.nil_append, List.append_nil, dite_true, Bool.false_eq_true,
    false_and, ↓reduceIte, search_missed absent 0]
  have stays : ({ s with data := s.remainingData, remainingData := [] } : Socket).PortClosed :=
    closed
  exact ⟨_, searchLoop_closed_empty stays rfl⟩

/-- `receiveStartBytes` hands on the `1` and keeps what was left over in `data`. -/
theorem receiveStartBytes_closed (closed : s.PortClosed)
    (absent : ∀ index, ¬ OccursAt pattern s.remainingData index) :
    s.receiveStartBytes w pattern =
      ⟨1, { s with data := s.remainingData, remainingData := [] }, w⟩ := by
  unfold receiveStartBytes
  by_cases empty : s.remainingData = []
  · rw [searchLoop_closed_empty closed empty, empty]
    rfl
  · obtain ⟨i, ended⟩ := searchLoop_closed (w := w) closed empty absent
    rw [ended]
    rfl

/-- `receiveUntillStopBytes` does so only where the marker would fit and there is no
descriptor: then `data` still holds all that was gathered. -/
theorem receiveUntillStopBytes_closed (closed : s.PortClosed) (nonempty : pattern ≠ [])
    (absent : ∀ index, ¬ OccursAt pattern s.remainingData index) :
    (s.sockFd ≤ 0 ∧ pattern.length ≤ s.remainingData.length →
      s.receiveUntillStopBytes w pattern =
        ⟨1, { s with data := s.remainingData, remainingData := [] }, w⟩) ∧
    (¬ (s.sockFd ≤ 0 ∧ pattern.length ≤ s.remainingData.length) →
      (s.receiveUntillStopBytes w pattern).code ≠ 1) := by
  have positive := List.length_pos_iff.mpr nonempty
  by_cases empty : s.remainingData = []
  · have ended := @searchLoop_closed_empty s w pattern [] closed empty 0 0 false
    have code : (s.receiveUntillStopBytes w pattern).code = 2 := by
      unfold receiveUntillStopBytes
      rw [ended]
      dsimp only
      rw [List.length_nil, if_pos positive]
    rw [code, empty, List.length_nil]
    exact ⟨fun both => by omega, fun _ => by decide⟩
  · obtain ⟨i, ended⟩ := searchLoop_closed (w := w) closed empty absent
    obtain ⟨-, miss⟩ := searchLoop_exact_start nonempty ended
    obtain ⟨-, past⟩ := miss rfl
    dsimp only at past
    unfold receiveUntillStopBytes
    rw [ended]
    dsimp only
    by_cases short : s.remainingData.length < pattern.length
    · rw [if_pos short]
      exact ⟨fun both => by omega, fun _ => (by decide : 2 ≠ 1)⟩
    · have behind := past (by omega)
      rw [if_neg short, behind]
      unfold settle
      dsimp only
      by_cases none : s.sockFd ≤ 0
      · rw [if_pos none, if_neg (not_not_intro rfl), if_neg (Nat.not_lt_of_le (Nat.le_succ _))]
        exact ⟨fun _ => rfl, fun differs => absurd ⟨none, Nat.le_of_not_lt short⟩ differs⟩
      · rw [if_neg none, if_pos (by simpa [eq_comm] using empty)]
        exact ⟨fun both => absurd both.1 none, fun _ => (by decide : 0 ≠ 1)⟩

/-- Plain `receiveData` gives `1` without a descriptor, with nothing left over, or
where the poll behind the wait sees input. -/
theorem receiveData_closed (closed : s.PortClosed) (w : Wire) (sz : Nat) (flag : Bool) :
    (s.sockFd ≤ 0 ∨ s.remainingData = [] ∨ (s.keepAliveMs ≠ 0 ∧ w.polls.head? = some true) →
      (s.receiveData w sz flag).code = 1 ∧
        s.remainingData.Sublist ((s.receiveData w sz flag).socket.data ++
          (s.receiveData w sz flag).socket.remainingData)) ∧
    (¬ (s.sockFd ≤ 0 ∨ s.remainingData = [] ∨ (s.keepAliveMs ≠ 0 ∧ w.polls.head? = some true)) →
      (s.receiveData w sz flag).code ≠ 1) := by
  by_cases none : s.sockFd ≤ 0
  · rw [receiveData_noDescriptor none]
    exact ⟨fun _ => ⟨rfl, List.sublist_append_right _ _⟩, fun other => absurd (.inl none) other⟩
  · have unconnected := closed.resolve_left none
    have reading := s.readLoop_unconnected unconnected sz s.remainingData w.polls w.reads
    have waited := @awaitInput_ready s.keepAliveMs s.remainingData w.polls
    unfold receiveData
    rw [if_neg none, reading]
    dsimp only
    by_cases ready : (awaitInput s.keepAliveMs s.remainingData w.polls).1 = true
    · rw [if_pos ready]
      exact ⟨fun _ => ⟨rfl, List.sublist_append_left _ _⟩, fun other =>
        absurd (.inr (waited.mp ready)) other⟩
    · have some : s.remainingData ≠ [] := fun empty => ready (waited.mpr (.inl empty))
      rw [if_neg ready, if_neg some]
      refine ⟨fun case => ?_, fun _ => ?_⟩
      · exact absurd (waited.mpr (case.resolve_left none)) ready
      · split <;> simp

theorem compareLoop_code (found : (s.compareLoop pattern w tmp).found = true) :
    (s.compareLoop pattern w tmp).code = 0 := by
  fun_induction compareLoop s pattern w tmp with
  | case1 => rfl
  | case2 s w tmp round received longer socket lacking ih => exact ih found
  | case3 => contradiction

theorem receiveStopBytes_code : (s.receiveStopBytes w pattern).code ≠ 1 := by
  unfold receiveStopBytes settle
  dsimp only
  split
  · simp
  · split
    · simp
    · rename_i found
      have received := compareLoop_code (by simpa using found)
      split
      · simp
      · rw [received]
        split <;> simp

theorem receiveNBytes_code : (s.receiveNBytes w sz).code ≠ 1 := by
  unfold receiveNBytes settle
  dsimp only
  split
  · simp
  · split
    · simp
    · split <;> simp

/-- One call of `receiveData` finds its mutex unlocked, and leaves it locked at most. -/
theorem single_returns {spins : List Bool → Nat} :
    hold (.mutex () .mtx) false ([Inner.receiveData s w sz].flatMap (Inner.acts spins)) ≠ none := by
  rw [List.flatMap_singleton, Inner.acts, receiveDataActs]
  split
  · simp [hold]
  · rw [List.append_assoc, List.singleton_append, hold, if_pos rfl, if_neg Bool.noConfusion,
      hold_then readLoopActs_mtx]
    split <;> simp [hold]

theorem searchLoopInner_closed (closed : s.PortClosed)
    (absent : ∀ index, ¬ OccursAt pattern s.remainingData index) :
    ∃ socket, s.searchLoopInner pattern w [] 0 0 false =
      [.receiveData socket w pattern.length] := by
  by_cases empty : s.remainingData = []
  · refine ⟨s, ?_⟩
    rw [searchLoopInner]
    simp only [fetch_closed closed empty, fetchInner, empty]
    rfl
  · refine ⟨{ s with data := s.remainingData, remainingData := [] }, ?_⟩
    have stays : ({ s with data := s.remainingData, remainingData := [] } : Socket).PortClosed :=
      closed
    rw [searchLoopInner]
    simp only [fetch_left empty, fetchInner, empty, List.nil_append, List.append_nil, dite_true,
      Bool.false_eq_true, false_and, ↓reduceIte, search_missed absent 0, ne_eq, not_false_eq_true]
    rw [searchLoopInner]
    simp only [fetch_closed stays, fetchInner]
    rfl

end Socket

namespace Framing

variable {F : Type} [DataFrame F] {framing last : Framing F} {f : F} {ret : Nat}

theorem receiveElement_code : (framing.receiveElement f).1 ≠ 1 := by
  unfold receiveElement receiveMarker receiveFixed receiveUntill
  dsimp only
  repeat' split
  all_goals simp

theorem frameLoop_code (ended : framing.frameLoop = (ret, last)) : ret ≠ 1 := by
  fun_induction frameLoop framing with
  | case1 framing more later passed ih => exact ih ended
  | case2 framing more code left passed =>
      cases ended
      unfold pass at passed
      dsimp only at passed
      split at passed
      · cases passed
        simp
      · split at passed
        · cases passed
          exact receiveElement_code
        · split at passed
          · cases passed
            simp
          · contradiction
  | case3 framing beyond =>
      cases ended
      simp

end Framing

/-- `receiveFramedData` has no branch for a port that is not open. -/
theorem SynapSock.receiveFramedData_code {F : Type} [DataFrame F] {sock : SynapSock F} {w : Wire}
    {received : FramedReception F} (ran : sock.receiveFramedData w = some received) :
    received.code ≠ 1 := by
  unfold receiveFramedData at ran
  split at ran
  · cases ran
    simp
  · generalize ended : (sock.opening w).frameLoop = pair at ran
    obtain ⟨ret, last⟩ := pair
    have loop := Framing.frameLoop_code ended
    unfold conclude at ran
    dsimp only at ran
    split at ran
    · cases ran
      simp
    · split at ran
      · cases ran
        exact loop
      · split at ran
        · split at ran
          · contradiction
          · cases ran
            exact loop
        · cases ran
          exact loop

/-- The receive operations. -/
inductive ReceiveCall (F : Type) where
  | receiveData (sz : Nat) (dontSplitRemainingData : Bool)
  | receiveStartBytes (startBytes : Bytes)
  | receiveUntillStopBytes (stopBytes : Bytes)
  | receiveStopBytes (stopBytes : Bytes)
  | receiveNBytes (sz : Nat)
  | receiveFramedData (frameFormat : List F)

namespace ReceiveCall

variable {F : Type} [DataFrame F] {call : ReceiveCall F} {socket : Socket} {wire : Wire}
  {spins : List Bool → Nat}

def run (socket : Socket) (wire : Wire) : ReceiveCall F → Option (Nat × Socket)
  | .receiveData sz dontSplitRemainingData =>
      let reception := socket.receiveData wire sz dontSplitRemainingData
      some (reception.code, reception.socket)
  | .receiveStartBytes startBytes =>
      let reception := socket.receiveStartBytes wire startBytes
      some (reception.code, reception.socket)
  | .receiveUntillStopBytes stopBytes =>
      let reception := socket.receiveUntillStopBytes wire stopBytes
      some (reception.code, reception.socket)
  | .receiveStopBytes stopBytes =>
      let reception := socket.receiveStopBytes wire stopBytes
      some (reception.code, reception.socket)
  | .receiveNBytes sz =>
      let reception := socket.receiveNBytes wire sz
      some (reception.code, reception.socket)
  | .receiveFramedData frameFormat =>
      (SynapSock.receiveFramedData ⟨socket, frameFormat, true⟩ wire).map fun reception =>
        (reception.code, reception.sock.toSocket)

def toSocketCall : ReceiveCall F → SocketCall F
  | .receiveData sz dontSplitRemainingData => .receiveData sz dontSplitRemainingData
  | .receiveStartBytes startBytes => .receiveStartBytes startBytes
  | .receiveUntillStopBytes stopBytes => .receiveUntillStopBytes stopBytes
  | .receiveStopBytes stopBytes => .receiveStopBytes stopBytes
  | .receiveNBytes sz => .receiveNBytes sz
  | .receiveFramedData frameFormat => .receiveFramedData frameFormat

def acts (socket : Socket) (wire : Wire) (spins : List Bool → Nat) (call : ReceiveCall F) :
    List (Act (Resource Unit)) :=
  (call.toSocketCall.inner socket ⟨wire, spins, none, [], true, true⟩).flatMap (Inner.acts spins)

/-- The request is not empty, and a format is set. -/
def Asks : ReceiveCall F → Prop
  | .receiveData _ _ => True
  | .receiveStartBytes pattern | .receiveUntillStopBytes pattern | .receiveStopBytes pattern =>
      pattern ≠ []
  | .receiveNBytes sz => 0 < sz
  | .receiveFramedData frameFormat => frameFormat ≠ []

/-- What is left over does not satisfy the request; an unlimited one never is, and for
a frame it is not looked at. -/
def Lacks (remainingData : Bytes) : ReceiveCall F → Prop
  | .receiveData sz _ => sz = 0 ∨ remainingData.length < sz
  | .receiveStartBytes pattern | .receiveUntillStopBytes pattern =>
      ∀ index, ¬ OccursAt pattern remainingData index
  | .receiveStopBytes pattern => ¬ OccursAt pattern remainingData 0
  | .receiveNBytes sz => remainingData.length < sz
  | .receiveFramedData _ => True

/-- The call comes back, without locking `mtx` while it has it locked, and with `1`;
and it keeps the bytes that were left over. -/
def Reports (socket : Socket) (wire : Wire) (spins : List Bool → Nat) (call : ReceiveCall F) : Prop :=
  hold (.mutex () .mtx) false (call.acts socket wire spins) ≠ none ∧
    ∃ later, call.run socket wire = some (1, later) ∧
      socket.remainingData.Sublist (later.data ++ later.remainingData)

def ReportsWhen (socket : Socket) (wire : Wire) : ReceiveCall F → Prop
  | .receiveData _ _ => socket.sockFd ≤ 0 ∨ socket.remainingData = [] ∨
      (socket.keepAliveMs ≠ 0 ∧ wire.polls.head? = some true)
  | .receiveStartBytes _ => True
  | .receiveUntillStopBytes stopBytes =>
      socket.sockFd ≤ 0 ∧ stopBytes.length ≤ socket.remainingData.length
  | .receiveStopBytes _ | .receiveNBytes _ | .receiveFramedData _ => False

theorem search_returns {pattern : Bytes} (closed : socket.PortClosed)
    (absent : ∀ index, ¬ OccursAt pattern socket.remainingData index) :
    hold (.mutex () .mtx) false
      ((socket.searchLoopInner pattern wire [] 0 0 false).flatMap (Inner.acts spins)) ≠ none := by
  obtain ⟨later, once⟩ := Socket.searchLoopInner_closed (w := wire) closed absent
  rw [once]
  exact Socket.single_returns

/-- On a closed port only `receiveStartBytes` always says so.  `receiveStopBytes`,
`receiveNBytes` and `receiveFramedData` never do. -/
theorem reports_iff (closed : socket.PortClosed) (asks : call.Asks)
    (lacks : call.Lacks socket.remainingData) :
    call.Reports socket wire spins ↔ call.ReportsWhen socket wire := by
  cases call with
  | receiveData sz dontSplitRemainingData =>
      obtain ⟨yes, no⟩ := Socket.receiveData_closed closed wire sz dontSplitRemainingData
      constructor
      · intro ⟨_, later, ran, _⟩
        by_contra other
        exact no other (congrArg Prod.fst (Option.some.inj ran))
      · intro here
        obtain ⟨code, kept⟩ := yes here
        refine ⟨?_, _, congrArg some (Prod.ext code rfl), kept⟩
        exact Socket.single_returns
  | receiveStartBytes startBytes =>
      have ended := Socket.receiveStartBytes_closed (w := wire) closed lacks
      refine iff_of_true ⟨search_returns closed lacks,
        { socket with data := socket.remainingData, remainingData := [] }, ?_, ?_⟩ trivial
      · rw [run, ended]
      · exact List.sublist_append_left _ _
  | receiveUntillStopBytes stopBytes =>
      obtain ⟨yes, no⟩ := Socket.receiveUntillStopBytes_closed (w := wire) closed asks lacks
      constructor
      · intro ⟨_, later, ran, _⟩
        by_contra other
        exact no other (congrArg Prod.fst (Option.some.inj ran))
      · intro here
        refine ⟨search_returns closed lacks,
          { socket with data := socket.remainingData, remainingData := [] }, ?_, ?_⟩
        · rw [run, yes here]
        · exact List.sublist_append_left _ _
  | receiveStopBytes stopBytes =>
      refine iff_of_false ?_ id
      intro ⟨_, later, ran, _⟩
      exact Socket.receiveStopBytes_code (congrArg Prod.fst (Option.some.inj ran))
  | receiveNBytes sz =>
      refine iff_of_false ?_ id
      intro ⟨_, later, ran, _⟩
      exact Socket.receiveNBytes_code (congrArg Prod.fst (Option.some.inj ran))
  | receiveFramedData frameFormat =>
      refine iff_of_false ?_ id
      intro ⟨_, later, ran, _⟩
      obtain ⟨received, framed, same⟩ := Option.map_eq_some_iff.mp ran
      exact SynapSock.receiveFramedData_code framed (congrArg Prod.fst same)

/-- Three bytes are left over, and there is no descriptor. -/
def leftOver : Socket := { Socket.new with remainingData := [5, 6, 8] }

/-- Three bytes are left over, and SSL is on without an SSL connection. -/
def unsecured : Socket := { leftOver with sockFd := 5, useSSL := true }

/-- The search for a stop marker reports the one and not the other; `receiveStartBytes`
reports the other as well. -/
theorem reports_iff_leftOver :
    (ReceiveCall.receiveUntillStopBytes [7] : ReceiveCall Element).Reports leftOver ⟨[], [], 0⟩
        (fun _ => 0) ∧
      ¬ (ReceiveCall.receiveUntillStopBytes [7] : ReceiveCall Element).Reports unsecured
        ⟨[], [], 0⟩ (fun _ => 0) ∧
      (ReceiveCall.receiveStartBytes [7] : ReceiveCall Element).Reports unsecured ⟨[], [], 0⟩
        fun _ => 0 := by
  have asks : ([7] : Bytes) ≠ [] := by decide
  have lacks : ∀ index, ¬ OccursAt ([7] : Bytes) [5, 6, 8] index := by
    intro index occurs
    have member : (7 : UInt8) ∈ ([5, 6, 8] : Bytes) :=
      List.mem_of_mem_drop (occurs.subset (.head _))
    exact absurd member (by decide)
  have closed : leftOver.PortClosed := .inl (by decide)
  have without : unsecured.PortClosed := .inr rfl
  have found := @reports_iff Element _ (.receiveUntillStopBytes [7]) leftOver ⟨[], [], 0⟩
    (fun _ => 0) closed asks lacks
  have lost := @reports_iff Element _ (.receiveUntillStopBytes [7]) unsecured ⟨[], [], 0⟩
    (fun _ => 0) without asks lacks
  have started := @reports_iff Element _ (.receiveStartBytes [7]) unsecured ⟨[], [], 0⟩
    (fun _ => 0) without asks lacks
  refine ⟨found.mpr ⟨by decide, by decide⟩, ?_, started.mpr trivial⟩
  intro reports
  exact absurd (lost.mp reports).1 (by decide)

/-- An object that was never connected gives `2`, as after a timeout. -/
theorem receiveNBytes_unopened : ¬ ∀ (socket : Socket) (wire : Wire) (spins : List Bool → Nat)
    (call : ReceiveCall Element), socket.PortClosed → call.Asks →
      call.Lacks socket.remainingData → call.Reports socket wire spins := by
  intro all
  obtain ⟨_, later, ran, _⟩ := all Socket.new ⟨[], [], 0⟩ (fun _ => 0) (.receiveNBytes 1)
    (.inl (by decide)) Nat.one_pos Nat.one_pos
  exact Socket.receiveNBytes_code (congrArg Prod.fst (Option.some.inj ran))

end ReceiveCall

end SynapTCP
