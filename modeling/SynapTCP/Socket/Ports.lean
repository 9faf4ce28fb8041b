import SynapTCP.Socket.Gathering

namespace SynapTCP

/-! # Reading in clear and through SSL

What the calls of one `receiveData` are answered when all that the peer sent has
reached the kernel before it: by the kernel itself, or by an SSL library on top of
it, which takes one record at a time from the kernel and keeps what was not asked
for.  `FIONREAD` sees the kernel only.
-/

structure Port (σ : Type*) where
  /-- `FIONREAD` reports bytes. -/
  poll : σ → Bool
  /-- `read` or `SSL_read` with room for 128 bytes. -/
  read : σ → Option (Chunk × σ)

namespace Port

variable {σ : Type*}

/-- The answers to reads one after another, up to one that fails. -/
def reads (port : Port σ) : Nat → σ → List ReadResult
  | 0, _ => []
  | rounds + 1, state => match port.read state with
    | none => [.failed]
    | some (piece, next) => .chunk piece :: port.reads rounds next

/-- The answers to a poll in front of each read. -/
def polls (port : Port σ) : Nat → σ → List Bool
  | 0, _ => []
  | rounds + 1, state => port.poll state :: match port.read state with
    | none => []
    | some (_, next) => port.polls rounds next

/-- There is no poll in front of the first read if there are no bytes to begin with. -/
def pollsOf (port : Port σ) (data : Bytes) (rounds : Nat) (state : σ) : List Bool :=
  if data = [] then (port.polls rounds state).tail else port.polls rounds state

def wire (port : Port σ) (remainingData : Bytes) (rounds : Nat) (state : σ) : Wire :=
  ⟨port.pollsOf remainingData rounds state, port.reads rounds state, 0⟩

/-- `content` is all that there is to read; `stuck` is the part of it that is no longer
in sight of a poll once the rest has been read. -/
structure Holds (port : Port σ) (content stuck : σ → Bytes) : Prop where
  within : ∀ state, (stuck state).length ≤ (content state).length
  gives : ∀ state piece next, port.read state = some (piece, next) →
    content state = piece.bytes ++ content next
  keeps : ∀ state piece next, port.poll state = true → port.read state = some (piece, next) →
    stuck next = stuck state
  starved : ∀ state, port.read state = none → content state = stuck state
  unseen : ∀ state, port.poll state = false → content state = stuck state

end Port

/-- At most 128 of the bytes. -/
def Chunk.first (bytes : Bytes) : Option Chunk :=
  if nonempty : bytes = [] then none
  else some ⟨bytes.take 128, by simp [nonempty], List.length_take_le _ _⟩

theorem Chunk.first_eq_none {bytes : Bytes} : Chunk.first bytes = none ↔ bytes = [] := by
  unfold Chunk.first
  split
  · rename_i empty
    exact iff_of_true rfl empty
  · rename_i nonempty
    exact iff_of_false nofun nonempty

theorem Chunk.first_eq_some {bytes : Bytes} {piece : Chunk} (hands : Chunk.first bytes = some piece) :
    piece.bytes = bytes.take 128 := by
  unfold Chunk.first at hands
  split at hands
  · contradiction
  · cases hands
    rfl

/-! ## In clear -/

/-- The state is what is in the kernel's buffer. -/
def Port.clear : Port Bytes where
  poll kernel := decide (kernel ≠ [])
  read kernel := (Chunk.first kernel).map fun piece => (piece, kernel.drop 128)

theorem Port.clear_holds : Port.clear.Holds id fun _ => [] where
  within _ := Nat.zero_le _
  gives kernel piece next handed := by
    obtain ⟨first, hands, same⟩ := Option.map_eq_some_iff.mp handed
    cases same
    rw [Chunk.first_eq_some hands]
    exact (List.take_append_drop 128 kernel).symm
  keeps _ _ _ _ _ := rfl
  starved kernel nothing := Chunk.first_eq_none.mp (Option.map_eq_none_iff.mp nothing)
  unseen kernel silent := not_not.mp (of_decide_eq_false silent)

/-! ## Through SSL -/

/-- The plain bytes of the records in the kernel, and of the one that is being read. -/
structure Records where
  library : Bytes
  kernel : List Bytes
deriving DecidableEq

namespace Records

/-- With an empty buffer `SSL_read` goes on to the next record that is not empty. -/
def refill : Bytes → List Bytes → Records
  | [], record :: kernel => refill record kernel
  | library, kernel => ⟨library, kernel⟩

def content (records : Records) : Bytes := records.library ++ records.kernel.flatten

/-- Behind the first 128 bytes of the last record. -/
def stuck (records : Records) : Bytes :=
  match records.kernel.getLast? with
  | none => records.library
  | some last => last.drop 128

theorem refill_content (library : Bytes) (kernel : List Bytes) :
    (refill library kernel).content = library ++ kernel.flatten := by
  fun_induction refill library kernel with
  | case1 record kernel ih => rw [ih, List.nil_append, List.flatten_cons]
  | case2 library kernel _ => rfl

theorem refill_kernel {library : Bytes} {kernel : List Bytes}
    (empty : (refill library kernel).library = []) : (refill library kernel).kernel = [] := by
  fun_induction refill library kernel with
  | case1 record kernel ih => exact ih empty
  | case2 library kernel last =>
      cases kernel with
      | nil => rfl
      | cons record kernel => exact absurd rfl (last record kernel empty)

theorem refill_stuck (library : Bytes) (kernel : List Bytes) :
    stuck ⟨(refill library kernel).library.drop 128, (refill library kernel).kernel⟩ =
      (kernel.getLast?.getD library).drop 128 := by
  fun_induction refill library kernel with
  | case1 record kernel ih => rw [ih, List.getLast?_cons, Option.getD_some]
  | case2 library kernel _ =>
      unfold stuck
      cases kernel.getLast? <;> rfl

theorem stuck_within (records : Records) :
    records.stuck.length ≤ records.content.length := by
  unfold stuck content
  cases isLast : records.kernel.getLast? with
  | none => simp
  | some last =>
      have member := List.mem_of_getLast? isLast
      have part := (List.sublist_flatten_of_mem member).length_le
      simp only [List.length_drop, List.length_append]
      omega

end Records

/-- `SSL_read` from the records; the poll does not see the library's buffer. -/
def Port.secure : Port Records where
  poll records := decide (records.kernel ≠ [])
  read records :=
    let filled := Records.refill records.library records.kernel
    (Chunk.first filled.library).map fun piece =>
      (piece, ⟨filled.library.drop 128, filled.kernel⟩)

theorem Port.secure_holds : Port.secure.Holds Records.content Records.stuck where
  within := Records.stuck_within
  gives records piece next handed := by
    obtain ⟨first, hands, same⟩ := Option.map_eq_some_iff.mp handed
    cases same
    rw [Records.content, ← Records.refill_content, Records.content, Records.content,
      Chunk.first_eq_some hands, ← List.append_assoc, List.take_append_drop]
  keeps records piece next seen handed := by
    obtain ⟨first, hands, same⟩ := Option.map_eq_some_iff.mp handed
    cases same
    rw [Records.refill_stuck, Records.stuck]
    cases isLast : records.kernel.getLast? with
    | none => exact absurd (List.getLast?_eq_none_iff.mp isLast) (of_decide_eq_true seen)
    | some last => rfl
  starved records nothing := by
    have empty := Chunk.first_eq_none.mp (Option.map_eq_none_iff.mp nothing)
    have content := Records.refill_content records.library records.kernel
    rw [Records.content, empty, Records.refill_kernel empty] at content
    have none : records.content = [] := content.symm
    have within := Records.stuck_within records
    rw [none, List.length_nil, Nat.le_zero, List.length_eq_zero_iff] at within
    rw [none, within]
  unseen records silent := by
    have empty : records.kernel = [] := not_not.mp (of_decide_eq_false silent)
    rw [Records.content, Records.stuck, empty]
    exact List.append_nil _

/-! ## What the loop makes of a port -/

/-- The bytes that a call has in its object at its end. -/
def Reception.received (reception : Reception) : Bytes :=
  reception.socket.data ++ reception.socket.remainingData

namespace Socket

variable {σ : Type*} {port : Port σ} {content stuck : σ → Bytes} {s : Socket} {sz : Nat}

theorem awaitInput_port (keepAlive : s.keepAliveMs ≠ 0) {rounds : Nat} {data : Bytes}
    {state next : σ} {piece : Chunk} (handed : port.read state = some (piece, next)) :
    awaitInput s.keepAliveMs data (port.pollsOf data (rounds + 1) state) =
      (decide (data = []) || port.poll state, port.polls rounds next) := by
  unfold Port.pollsOf awaitInput
  by_cases empty : data = []
  · rw [if_pos empty, if_pos empty, Port.polls, handed]
    simp [empty]
  · rw [if_neg empty, if_neg empty, if_neg keepAlive, Port.polls, handed]
    simp [empty]

theorem readLoop_failed (data : Bytes) (polls : List Bool) :
    (s.readLoop sz data polls [.failed]).data = data := by
  unfold readLoop
  split
  · rfl
  · split <;> rfl

/-- The loop reads all but what is stuck, unless it has enough before. -/
theorem readLoop_port (holds : port.Holds content stuck) (keepAlive : s.keepAliveMs ≠ 0)
    (connected : (s.useSSL && s.sslConn.isNone) = false) {rounds : Nat} {data : Bytes} {state : σ}
    (enough : (content state).length < rounds)
    (fresh : data = [] → port.poll state = false → port.read state = none) :
    ∃ rest, data ++ content state =
        (s.readLoop sz data (port.pollsOf data rounds state) (port.reads rounds state)).data ++ rest ∧
      (rest = stuck state ∨ 0 < sz ∧
        sz ≤ (s.readLoop sz data (port.pollsOf data rounds state)
          (port.reads rounds state)).data.length ∧
        (stuck state).length ≤ rest.length) := by
  induction rounds generalizing data state with
  | zero => contradiction
  | succ rounds ih =>
      cases handed : port.read state with
      | none =>
          refine ⟨stuck state, ?_, .inl rfl⟩
          rw [Port.reads, handed, readLoop_failed, holds.starved state handed]
      | some answer =>
          obtain ⟨piece, next⟩ := answer
          have gives := holds.gives state piece next handed
          have refused : ¬ (s.useSSL && s.sslConn.isNone) = true := by
            rw [connected]
            nofun
          rw [Port.reads, handed]
          dsimp only
          rw [readLoop, awaitInput_port keepAlive handed]
          cases seen : port.poll state with
          | false =>
              by_cases empty : data = []
              · rw [fresh empty seen] at handed
                contradiction
              · refine ⟨stuck state, ?_, .inl rfl⟩
                rw [decide_eq_false empty, holds.unseen state seen]
                rfl
          | true =>
              have keeps := holds.keeps state piece next seen handed
              rw [Bool.or_true]
              dsimp only
              rw [if_neg refused]
              split
              · have short : (content next).length < rounds := by
                  have length := congrArg List.length gives
                  have nonempty := List.length_pos_iff.mpr piece.nonempty
                  rw [List.length_append] at length
                  omega
                have begun : data ++ piece.bytes ≠ [] :=
                  List.append_ne_nil_of_right_ne_nil data piece.nonempty
                have further := @ih (data ++ piece.bytes) next short
                  fun empty => absurd empty begun
                rw [Port.pollsOf, if_neg begun, keeps] at further
                rw [gives, ← List.append_assoc]
                exact further
              · rename_i stops
                have enough : sz ≤ (data ++ piece.bytes).length := by omega
                refine ⟨content next, ?_, .inr ⟨by omega, enough, ?_⟩⟩
                · rw [gives, List.append_assoc]
                · rw [← keeps]
                  exact holds.within next

/-- What a call returns and keeps of what its loop has read. -/
theorem receiveData_data (ready : s.Readable) (w : Wire) (sz : Nat) (flag : Bool) :
    (s.receiveData w sz flag).code =
        (if (s.readLoop sz s.remainingData w.polls w.reads).data = [] then 2 else 0) ∧
      (s.receiveData w sz flag).received =
        (s.readLoop sz s.remainingData w.polls w.reads).data := by
  have opened : ¬ s.sockFd ≤ 0 := Int.not_le.mpr ready.opened
  obtain ⟨accepted, -⟩ := s.readLoop_reads ready.connected sz s.remainingData w.polls w.reads
  unfold receiveData
  rw [if_neg opened]
  dsimp only
  rw [accepted, if_neg (by decide)]
  split
  · exact ⟨rfl, List.append_nil _⟩
  · split
    · exact ⟨rfl, List.take_append_drop sz _⟩
    · exact ⟨rfl, List.append_nil _⟩

theorem receiveData_port (holds : port.Holds content stuck) (ready : s.Readable)
    (keepAlive : s.keepAliveMs ≠ 0) {rounds : Nat} {state : σ} {flag : Bool}
    (enough : (content state).length < rounds)
    (fresh : port.poll state = false → port.read state = none) :
    ∃ rest, s.remainingData ++ content state =
        (s.receiveData (port.wire s.remainingData rounds state) sz flag).received ++ rest ∧
      (rest = stuck state ∨ 0 < sz ∧
        sz ≤ (s.receiveData (port.wire s.remainingData rounds state) sz flag).received.length ∧
        (stuck state).length ≤ rest.length) ∧
      (s.receiveData (port.wire s.remainingData rounds state) sz flag).code =
        if (s.receiveData (port.wire s.remainingData rounds state) sz flag).received = [] then 2
        else 0 := by
  obtain ⟨code, received⟩ :=
    receiveData_data ready (port.wire s.remainingData rounds state) sz flag
  obtain ⟨rest, all, ends⟩ :=
    @readLoop_port _ _ _ _ s sz holds keepAlive ready.connected rounds s.remainingData state enough
      fun _ => fresh
  rw [code, received]
  exact ⟨rest, all, ends, rfl⟩

/-! ## Agreement -/

/-- The peer's bytes are sent in clear. -/
def receivePlain (s : Socket) (message : Bytes) (sz : Nat) (dontSplitRemainingData : Bool) :
    Reception :=
  { s with useSSL := false }.receiveData
    (Port.clear.wire s.remainingData (message.length + 1) message) sz dontSplitRemainingData

/-- They are sent in records, with an SSL connection for the descriptor. -/
def receiveSecure (s : Socket) (sslConn : Nat) (records : List Bytes) (sz : Nat)
    (dontSplitRemainingData : Bool) : Reception :=
  { s with useSSL := true, sslConn := some sslConn }.receiveData
    (Port.secure.wire s.remainingData (records.flatten.length + 1) ⟨[], records⟩) sz
    dontSplitRemainingData

/-- Reception in clear and through SSL comes to the same. -/
structure Agrees (s : Socket) (sslConn : Nat) (records : List Bytes) (sz : Nat)
    (dontSplitRemainingData : Bool) : Prop where
  code : (s.receiveSecure sslConn records sz dontSplitRemainingData).code =
    (s.receivePlain records.flatten sz dontSplitRemainingData).code
  all : sz = 0 → (s.receiveSecure sslConn records sz dontSplitRemainingData).received =
    (s.receivePlain records.flatten sz dontSplitRemainingData).received
  plain : 0 < sz → min sz (s.remainingData ++ records.flatten).length ≤
    (s.receivePlain records.flatten sz dontSplitRemainingData).received.length
  secure : 0 < sz → min sz (s.remainingData ++ records.flatten).length ≤
    (s.receiveSecure sslConn records sz dontSplitRemainingData).received.length

/-- Behind the first 128 bytes of the last record. -/
def behind (records : List Bytes) : Nat := (records.getLast?.getD []).length - 128

theorem receivePlain_reads (opened : 0 < s.sockFd) (keepAlive : s.keepAliveMs ≠ 0) (message : Bytes)
    (sz : Nat) (flag : Bool) :
    ∃ rest, s.remainingData ++ message = (s.receivePlain message sz flag).received ++ rest ∧
      (rest = [] ∨ 0 < sz ∧ sz ≤ (s.receivePlain message sz flag).received.length ∧
        0 ≤ rest.length) ∧
      (s.receivePlain message sz flag).code =
        if (s.receivePlain message sz flag).received = [] then 2 else 0 := by
  have ready : ({ s with useSSL := false } : Socket).Readable := ⟨opened, rfl⟩
  refine receiveData_port Port.clear_holds ready keepAlive (Nat.lt_succ_self _) fun silent => ?_
  have empty : message = [] := not_not.mp (of_decide_eq_false silent)
  rw [empty]
  rfl

theorem receiveSecure_reads (opened : 0 < s.sockFd) (keepAlive : s.keepAliveMs ≠ 0)
    (sslConn : Nat) (records : List Bytes) (sz : Nat) (flag : Bool) :
    ∃ rest, s.remainingData ++ records.flatten =
        (s.receiveSecure sslConn records sz flag).received ++ rest ∧
      (rest = Records.stuck ⟨[], records⟩ ∨ 0 < sz ∧
        sz ≤ (s.receiveSecure sslConn records sz flag).received.length ∧
        (Records.stuck ⟨[], records⟩).length ≤ rest.length) ∧
      (s.receiveSecure sslConn records sz flag).code =
        if (s.receiveSecure sslConn records sz flag).received = [] then 2 else 0 := by
  have ready : ({ s with useSSL := true, sslConn := some sslConn } : Socket).Readable :=
    ⟨opened, rfl⟩
  have fresh : Port.secure.poll ⟨[], records⟩ = false → Port.secure.read ⟨[], records⟩ = none := by
    intro silent
    have empty : records = [] := not_not.mp (of_decide_eq_false silent)
    rw [empty]
    rfl
  exact @receiveData_port _ _ _ _ _ sz Port.secure_holds ready keepAlive
    (records.flatten.length + 1) ⟨[], records⟩ flag (Nat.lt_succ_self _) fresh

theorem stuck_length (records : List Bytes) :
    (Records.stuck ⟨[], records⟩).length = behind records ∧
      (behind records = 0 ∨ behind records + 128 ≤ records.flatten.length) := by
  unfold Records.stuck behind
  cases isLast : records.getLast? with
  | none => exact ⟨rfl, .inl rfl⟩
  | some last =>
      have part := (List.sublist_flatten_of_mem (List.mem_of_getLast? isLast)).length_le
      refine ⟨List.length_drop, ?_⟩
      show last.length - 128 = 0 ∨ last.length - 128 + 128 ≤ _
      omega

/-- Reception in clear and through SSL comes to the same if and only if nothing stands
behind the first 128 bytes of the last record, or there are enough bytes without it. -/
theorem agrees_iff (opened : 0 < s.sockFd) (keepAlive : s.keepAliveMs ≠ 0) (sslConn : Nat)
    (records : List Bytes) (sz : Nat) (flag : Bool) :
    s.Agrees sslConn records sz flag ↔ behind records = 0 ∨
      0 < sz ∧ sz + behind records ≤ (s.remainingData ++ records.flatten).length := by
  obtain ⟨left, plainAll, plainEnds, plainCode⟩ :=
    receivePlain_reads opened keepAlive records.flatten sz flag
  obtain ⟨rest, secureAll, secureEnds, secureCode⟩ :=
    receiveSecure_reads opened keepAlive sslConn records sz flag
  have plainLength : (s.remainingData ++ records.flatten).length =
      (s.receivePlain records.flatten sz flag).received.length + left.length := by
    rw [plainAll, List.length_append]
  have secureLength : (s.remainingData ++ records.flatten).length =
      (s.receiveSecure sslConn records sz flag).received.length + rest.length := by
    rw [secureAll, List.length_append]
  obtain ⟨isStuck, small⟩ := stuck_length records
  have part : records.flatten.length ≤ (s.remainingData ++ records.flatten).length := by simp
  have plainLeft : left.length = 0 ∨
      0 < sz ∧ sz ≤ (s.receivePlain records.flatten sz flag).received.length :=
    plainEnds.imp (congrArg List.length) fun ends => ⟨ends.1, ends.2.1⟩
  have secureLeft : rest.length = behind records ∨ 0 < sz ∧
      sz ≤ (s.receiveSecure sslConn records sz flag).received.length ∧
        behind records ≤ rest.length := by
    rw [← isStuck]
    exact secureEnds.imp_left (congrArg List.length)
  constructor
  · intro agrees
    by_cases whole : sz = 0
    · have same := congrArg List.length (agrees.all whole)
      omega
    · have enough := agrees.secure (Nat.pos_of_ne_zero whole)
      omega
  · intro condition
    refine ⟨?_, fun whole => ?_, fun _ => by omega, fun _ => by omega⟩
    · have same : (s.receiveSecure sslConn records sz flag).received = [] ↔
          (s.receivePlain records.flatten sz flag).received = [] := by
        rw [← List.length_eq_zero_iff, ← List.length_eq_zero_iff]
        omega
      rw [secureCode, plainCode]
      simp only [same]
    · have nothing : rest = [] := List.length_eq_zero_iff.mp (by omega)
      have nothingLeft : left = [] := List.length_eq_zero_iff.mp (by omega)
      rw [nothing, List.append_nil] at secureAll
      rw [nothingLeft, List.append_nil] at plainAll
      exact secureAll.symm.trans plainAll

/-- An open port that waits for more bytes. -/
def patient : Socket := { Socket.new with sockFd := 5, keepAliveMs := 50 }

/-- A record of 129 bytes, of which 100 are asked for. -/
theorem agrees_iff_enough :
    patient.Agrees 1 [List.replicate 129 7] 100 false ↔ behind [List.replicate 129 7] = 0 ∨
      0 < 100 ∧ 100 + behind [List.replicate 129 7] ≤
        (patient.remainingData ++ [List.replicate 129 7].flatten).length :=
  agrees_iff (by decide) (by decide) 1 [List.replicate 129 7] 100 false

/-- Without a bound on the bytes the last one of the record stays behind. -/
theorem not_agrees : ¬ patient.Agrees 1 [List.replicate 129 7] 0 false := by
  intro agrees
  have lengths := congrArg List.length (agrees.all rfl)
  have secure : (patient.receiveSecure 1 [List.replicate 129 7] 0 false).received.length = 128 := by
    decide +kernel
  have plain :
      (patient.receivePlain [List.replicate 129 7].flatten 0 false).received.length = 129 := by
    decide +kernel
  rw [secure, plain] at lengths
  contradiction

end Socket

end SynapTCP
