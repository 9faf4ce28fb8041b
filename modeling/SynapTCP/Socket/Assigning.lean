import SynapTCP.Socket.Validation

namespace SynapTCP

open Data

/-! # Objects that are given addresses

The overloads of `setAddress`, the constructors that call them, and what is stored
behind any sequence of calls.
-/

/-- `c_str`, up to the first terminator. -/
def cString (string : Bytes) : Bytes := string.takeWhile (· ≠ 0)

/-- A pointer is to four bytes at least. -/
inductive AddressCall where
  | octets (address : { bytes : List UInt8 // 4 ≤ bytes.length })
  | vector (address : List UInt8)
  | text (address : Bytes)
  | string (address : Bytes)

namespace AddressCall

variable {socket : Socket} {call : AddressCall} {calls : List AddressCall}

def run (socket : Socket) : AddressCall → Call Bool
  | .octets address => socket.setAddressOctets address.1
  | .vector address => socket.setAddressVector address
  | .text address => socket.setAddress address
  | .string address => socket.setAddress (cString address)

/-- The text that the validator is given. -/
def given : AddressCall → Option Bytes
  | .octets _ => none
  | .vector _ => none
  | .text address => some address
  | .string address => some (cString address)

/-- The text is accepted with too few groups. -/
def Lacks (call : AddressCall) : Prop :=
  ∃ address, call.given = some address ∧ Socket.Legible address ∧
    (Socket.groups address).length < 4

def Leads (socket : Socket) (call : AddressCall) (next : Socket) : Prop :=
  (call.run socket).socket = next

end AddressCall

namespace Socket

variable {socket : Socket} {address : Bytes} {host : List UInt8}

theorem setAddress_refused (refused : isValidIPAddress address = false) :
    socket.setAddress address = socket.early false := by
  unfold setAddress
  rw [if_pos refused]

theorem setAddressVector_accepted (accepted : (socket.setAddressVector host).result = true) :
    isValidIPAddressVector host = true ∧
      (socket.setAddressVector host).socket = { socket with address := host } := by
  unfold setAddressVector at accepted ⊢
  cases valid : isValidIPAddressVector host with
  | false =>
      rw [if_pos valid] at accepted
      contradiction
  | true =>
      rw [if_neg (by decide)]
      exact ⟨rfl, rfl⟩

/-! ## Printing and parsing -/

/-- What is accepted is stored group by group, what is refused changes nothing, and
what was printed is read back. -/
theorem setAddress_agrees (socket : Socket) :
    (∀ address, if isValidIPAddress address = true then
        (socket.setAddress address).result = true ∧ Unwrapped 0 address ∧
          (socket.setAddress address).socket.address.map UInt8.toNat =
            (groups address).map decimal
      else (socket.setAddress address).result = false ∧
        (socket.setAddress address).socket = socket) ∧
    ∀ host : List UInt8, host.length = 4 → (socket.setAddressVector host).result = true →
      ∀ (other : Socket) (printed : Bytes),
        (socket.setAddressVector host).socket.getAddress.result = printed →
          (other.setAddress printed).result = true ∧
            (other.setAddress printed).socket.address = host := by
  refine ⟨fun address => ?_, fun host octets accepted other printed prints => ?_⟩
  · split
    · rename_i valid
      obtain ⟨unwrapped, values⟩ := (isValidIPAddress_iff.mp valid).stores
      rw [setAddress_result, setAddress_socket valid]
      exact ⟨valid, unwrapped, values⟩
    · rename_i invalid
      rw [setAddress_refused (Bool.not_eq_true _ ▸ invalid)]
      exact ⟨rfl, rfl⟩
  · obtain ⟨isValid, stored⟩ := setAddressVector_accepted accepted
    have text : printed = dotted host := by
      rw [← prints, stored, getAddress, if_neg (by simpa using octets)]
      rfl
    have valid : isValidIPAddress (dotted host) = true := by
      rw [isValidIPAddress_dotted octets]
      exact (Bool.and_eq_true_iff.mp isValid).2
    rw [text, setAddress_result, setAddress_socket valid, octetsOf_dotted octets]
    exact ⟨valid, rfl⟩

def localNet : List UInt8 := [192, 168, 1, 1]

theorem setAddress_agrees_localNet :
    (Socket.new.setAddress (dotted localNet)).result = true ∧
      (Socket.new.setAddress (dotted localNet)).socket.address = localNet := by
  have prints : (Socket.new.setAddressVector localNet).socket.getAddress.result =
      dotted localNet := by
    decide +kernel
  exact (setAddress_agrees Socket.new).2 localNet rfl (by decide) Socket.new _ prints

/-! ## Four octets -/

structure Arguments where
  address : AddressCall
  port : Option Int

/-- The constructors: without arguments, with an address, and with a port as well. -/
def constructWith (memory : Socket) : Option Arguments → Call Unit
  | none => construct memory
  | some arguments =>
      (construct memory).bind fun _ socket =>
      (arguments.address.run socket).bind fun _ socket =>
      match arguments.port with
      | none => early () socket
      | some port => (socket.setPort port).bind fun _ socket => early () socket

/-- The object has four octets behind its constructor and behind each of the calls. -/
def KeepsFour (memory : Socket) (arguments : Option Arguments) (calls : List AddressCall) : Prop :=
  (constructWith memory arguments).socket.address.length = 4 ∧
    Throughout AddressCall.Leads (fun socket call => (call.run socket).socket.address.length = 4)
      (constructWith memory arguments).socket calls

theorem setPort_address {port : Int} : (socket.setPort port).socket.address = socket.address := by
  unfold setPort
  split <;> rfl

theorem setAddress_four (four : socket.address.length = 4) :
    (socket.setAddress address).socket.address.length = 4 ↔
      ¬ (Legible address ∧ (groups address).length < 4) := by
  cases valid : isValidIPAddress address with
  | false =>
      rw [setAddress_refused valid, ← isValidIPAddress_iff, valid]
      simpa [early] using four
  | true =>
      have legible := isValidIPAddress_iff.mp valid
      have few := legible.few
      rw [setAddress_socket valid]
      show (octetsOf 0 address).length = 4 ↔ _
      rw [octetsOf_length]
      constructor
      · intro isFour lacks
        omega
      · intro lacks
        by_contra notFour
        exact lacks ⟨legible, by omega⟩

end Socket

namespace AddressCall

variable {socket : Socket} {call : AddressCall} {calls : List AddressCall}

theorem run_four (four : socket.address.length = 4) :
    (call.run socket).socket.address.length = 4 ↔ ¬ call.Lacks := by
  cases call with
  | octets address =>
      have none : ¬ Lacks (.octets address) := by simp [Lacks, given]
      refine iff_of_true ?_ none
      rw [run, Socket.setAddressOctets]
      split
      · exact four
      · show (address.1.take 4).length = 4
        rw [List.length_take, Nat.min_eq_left address.2]
  | vector address =>
      have none : ¬ Lacks (.vector address) := by simp [Lacks, given]
      refine iff_of_true ?_ none
      rw [run, Socket.setAddressVector]
      split
      · exact four
      · rename_i valid
        rw [Bool.not_eq_false, Socket.isValidIPAddressVector, Bool.and_eq_true,
          decide_eq_true_eq] at valid
        exact valid.1
  | text address =>
      have four := @Socket.setAddress_four socket address four
      simpa [run, Lacks, given] using four
  | string address =>
      have four := @Socket.setAddress_four socket (cString address) four
      simpa [run, Lacks, given] using four

theorem throughout_four (four : socket.address.length = 4) :
    Throughout Leads (fun socket call => (call.run socket).socket.address.length = 4) socket
      calls ↔ ∀ call ∈ calls, ¬ call.Lacks := by
  have total : ∀ socket call, ∃ next, Leads socket call next := fun socket call => ⟨_, rfl⟩
  rw [← @throughout_forall _ _ _ socket _ _ total]
  refine @throughout_congr _ _ _ _ _ (fun socket => socket.address.length = 4) _ _ four ?_ ?_
  · intro socket call four
    exact run_four four
  · intro socket call next _ isFour leads
    rw [← leads]
    exact isFour

end AddressCall

namespace Socket

variable {socket : Socket} {address : Bytes}

theorem keepsFour_iff (memory : Socket) (arguments : Option Arguments)
    (calls : List AddressCall) : KeepsFour memory arguments calls ↔
      (∀ given, arguments = some given → ¬ given.address.Lacks) ∧
        ∀ call ∈ calls, ¬ call.Lacks := by
  have begins : (constructWith memory arguments).socket.address.length = 4 ↔
      ∀ given, arguments = some given → ¬ given.address.Lacks := by
    cases arguments with
    | none => exact iff_of_true rfl fun given none => by contradiction
    | some arguments =>
        have stored : (constructWith memory (some arguments)).socket.address =
            (arguments.address.run Socket.new).socket.address := by
          cases arguments with
          | mk address port =>
              cases port with
              | none => rfl
              | some port => exact setPort_address
        have four : (constructWith memory (some arguments)).socket.address.length = 4 ↔
            ¬ arguments.address.Lacks := by
          rw [stored]
          exact AddressCall.run_four rfl
        simpa using four
  rw [KeepsFour, begins]
  constructor
  · intro keeps
    exact ⟨keeps.1, (AddressCall.throughout_four (begins.mpr keeps.1)).mp keeps.2⟩
  · intro lacks
    exact ⟨lacks.1, (AddressCall.throughout_four (begins.mpr lacks.1)).mpr lacks.2⟩

/-- The validator is exact for all texts but the incomplete ones, and an object has
four octets throughout exactly if none of too few groups is given to it. -/
theorem isValidIPAddress_exact (address : Bytes) (memory : Socket)
    (arguments : Option Arguments) (calls : List AddressCall) :
    ((isValidIPAddress address = true ↔ DottedQuad address) ↔ ¬ Incomplete address) ∧
      (KeepsFour memory arguments calls ↔
        (∀ given, arguments = some given → ¬ given.address.Lacks) ∧
          ∀ call ∈ calls, ¬ call.Lacks) := by
  refine ⟨?_, keepsFour_iff memory arguments calls⟩
  rw [isValidIPAddress_iff, legible_iff]
  constructor
  · intro same incomplete
    exact incomplete.not_dottedQuad (same.mp (.inr incomplete))
  · intro complete
    exact ⟨fun either => either.resolve_right complete, .inl⟩

/-- `10.1`. -/
def twoGroups : Bytes := [49, 48, 46, 49]

/-- Two groups are accepted, and stored as two octets. -/
theorem isValidIPAddress_twoGroups :
    isValidIPAddress twoGroups = true ∧
      (constructWith Socket.new (some ⟨.text twoGroups, none⟩)).socket.address = [10, 1] ∧
      ¬ ((∀ address, isValidIPAddress address = true ↔ DottedQuad address) ∧
        ∀ memory arguments calls, KeepsFour memory arguments calls) := by
  have accepted : isValidIPAddress twoGroups = true := by decide
  refine ⟨accepted, by decide, fun claim => ?_⟩
  have four := ((claim.1 twoGroups).mp accepted).four
  exact absurd four (by decide)

end Socket

end SynapTCP
