import SynapTCP.Data.Custody
import SynapTCP.Socket.Object
import Mathlib.Algebra.GroupWithZero.Nat
import Mathlib.Tactic.Common

namespace SynapTCP

open Data

/-! # Setting up and closing a socket

The setters, the getters that lock, `duplicate` and the close operations of
`src/socket.cpp`.  Beside its result and the object behind it a call has the
acts that it does on mutexes, descriptors and SSL objects, in their order.
-/

inductive Lock where
  | mtx
  | wmtx
deriving DecidableEq

/-- What can be taken and given back; a mutex belongs to an object. -/
inductive Resource (ω : Type) where
  | mutex (owner : ω) (lock : Lock)
  | descriptor (fd : Int)
  | connection (ssl : Nat)
deriving DecidableEq

/-- What a method does to the mutexes of its object, seen from outside. -/
def Resource.at {ω : Type} (owner : ω) : Resource Unit → Resource ω
  | .mutex () lock => .mutex owner lock
  | .descriptor fd => .descriptor fd
  | .connection ssl => .connection ssl

structure Call (α : Type) where
  result : α
  socket : Socket
  acts : List (Act (Resource Unit))

namespace Call

variable {α β : Type}

/-- The mutexes of another object than the one the call is on. -/
def actsOf {ω : Type} (owner : ω) (call : Call α) : List (Act (Resource ω)) :=
  call.acts.map (Act.map (Resource.at owner))

def bind (call : Call α) (rest : α → Socket → Call β) : Call β :=
  let later := rest call.result call.socket
  ⟨later.result, later.socket, call.acts ++ later.acts⟩

end Call

def lockOf {ω : Type} (owner : ω) : List (Act (Resource ω)) :=
  [.acquire (.mutex owner .mtx), .acquire (.mutex owner .wmtx)]

def unlockOf {ω : Type} (owner : ω) : List (Act (Resource ω)) :=
  [.release (.mutex owner .mtx), .release (.mutex owner .wmtx)]

namespace Socket

/-- A return before the mutexes are locked. -/
def early {α : Type} (result : α) (socket : Socket) : Call α := ⟨result, socket, []⟩

/-- A body between the locks of both mutexes and their unlocks. -/
def guarded {α : Type} (result : α) (socket : Socket) : Call α :=
  ⟨result, socket, lockOf () ++ unlockOf ()⟩

/-! ## Addresses -/

/-- `isValidIPAddress(const unsigned char *)`. -/
def isValidIPAddressOctets (address : List UInt8) : Bool := address[3]? ≠ some 255

/-- `isValidIPAddress(const std::vector <unsigned char>)`. -/
def isValidIPAddressVector (address : List UInt8) : Bool :=
  address.length = 4 && isValidIPAddressOctets address

/-- The loop over the characters, each handled before the end is looked for. -/
def isValidLoop (isPrevDot : Bool) (cnt value : Nat) : Bytes → Bool
  | [] => false
  | character :: address =>
      if character = 46 then
        if isPrevDot then false
        else if address = [] then decide (cnt + 1 ≤ 3)
        else isValidLoop true (cnt + 1) 0 address
      else if 48 ≤ character ∧ character ≤ 57 then
        let value := value * 10 + (character.toNat - 48)
        if 255 < value then false
        else if cnt = 3 ∧ value = 255 then false
        else if address = [] then decide (cnt ≤ 3)
        else isValidLoop false cnt value address
      else false

/-- `isValidIPAddress(const char *)`, the text without its terminator. -/
def isValidIPAddress (address : Bytes) : Bool :=
  if 15 < address.length then false
  else if address.head? = some 46 then false
  else isValidLoop false 0 0 address

/-- The loop of `setAddress(const char *)` that collects the octets. -/
def octetsOf (tmp : UInt8) : Bytes → List UInt8
  | [] => [tmp]
  | character :: address =>
      if character = 46 then tmp :: octetsOf 0 address
      else octetsOf (tmp * 10 + (character - 48)) address

def setAddressOctets (socket : Socket) (address : List UInt8) : Call Bool :=
  if isValidIPAddressOctets address = false then socket.early false
  else guarded true { socket with address := address.take 4 }

def setAddressVector (socket : Socket) (address : List UInt8) : Call Bool :=
  if isValidIPAddressVector address = false then socket.early false
  else guarded true { socket with address }

def setAddress (socket : Socket) (address : Bytes) : Call Bool :=
  if isValidIPAddress address = false then socket.early false
  else guarded true { socket with address := octetsOf 0 address }

/-- The bytes of a number in decimal digits, as `%d` prints them. -/
def digits (value : Nat) : Bytes :=
  (Nat.toDigits 10 value).map fun digit => digit.toNat.toUInt8

/-- Four octets with dots between them, as `inet_ntop` prints an address. -/
def dotted (octets : List UInt8) : Bytes :=
  List.intercalate [46] (octets.map fun octet => digits octet.toNat)

/-- An address of another size than four octets takes the path that locks again
instead of unlocking. -/
def getAddress (socket : Socket) : Call Bytes :=
  if socket.address.length ≠ 4 then ⟨[], socket, lockOf () ++ lockOf ()⟩
  else guarded (dotted socket.address) socket

/-! ## The other setters and getters -/

def setPort (socket : Socket) (port : Int) : Call Bool :=
  if port ≤ 0 ∨ 65535 < port then socket.early false
  else guarded true { socket with addr.port := port.toNat.toUInt16 }

def setTimeout (socket : Socket) (milliseconds : Int) : Call Bool :=
  if milliseconds < 0 then socket.early false
  else if milliseconds < 1000 then
    guarded true { socket with tvTimeout := ⟨0, milliseconds * 1000⟩ }
  else guarded true { socket with
    tvTimeout := ⟨milliseconds / 1000, (milliseconds % 1000) * 1000⟩ }

/-- `setTimeout(int seconds, int milliseconds)`. -/
def setTimeoutParts (socket : Socket) (seconds milliseconds : Int) : Call Bool :=
  if seconds < 0 ∨ milliseconds < 0 ∨ 999 < milliseconds then socket.early false
  else guarded true { socket with tvTimeout := ⟨seconds, milliseconds * 1000⟩ }

def setKeepAliveMs (socket : Socket) (keepAliveMs : Int) : Call Bool :=
  if keepAliveMs < 0 then socket.early false
  else guarded true { socket with keepAliveMs := keepAliveMs.toNat.toUInt16 }

def setIsUseSSL (socket : Socket) (useSSL : Bool) : Call Bool :=
  guarded true { socket with
    useSSL
    sslVerifyMode := if socket.useSSL = false ∨ useSSL = false then false
      else socket.sslVerifyMode }

def setSSLVerifyMode (socket : Socket) (sslVerifyMode : Bool) : Call Bool :=
  if socket.useSSL = false then guarded false { socket with sslVerifyMode := false }
  else guarded true { socket with sslVerifyMode }

def setSSLPointer (socket : Socket) (sslConn : Option Nat) : Call Bool :=
  guarded true { socket with sslConn }

def setSocketFd (socket : Socket) (sockFd : Int) : Call Bool :=
  if sockFd ≤ 0 ∨ 65535 ≤ sockFd then socket.early false
  else guarded true { socket with sockFd }

def getPort (socket : Socket) : Nat := socket.addr.port.toNat

def getSSLVerifyMode (socket : Socket) : Call Bool :=
  guarded (socket.useSSL && socket.sslVerifyMode) socket

/-- The times in milliseconds are of type `int`. -/
def isSocketTimeout (socket : Socket) (ref lastActivity : TimeVal) : Bool :=
  let diffTime := Int.bmod ((ref.sec - lastActivity.sec) * 1000 +
    (ref.usec - lastActivity.usec).tdiv 1000) (2 ^ 32)
  let timeoutInMs := Int.bmod (socket.tvTimeout.sec * 1000 + socket.tvTimeout.usec.tdiv 1000)
    (2 ^ 32)
  diffTime > timeoutInMs

/-- The function `__TCP` that the constructors start with. -/
def setDefaults (socket : Socket) : Call Unit :=
  (socket.setPort 3000).bind fun _ socket =>
  (socket.setAddress [49, 50, 55, 46, 48, 46, 48, 46, 49]).bind fun _ socket =>
  (socket.setKeepAliveMs 0).bind fun _ socket =>
  (socket.setTimeoutParts 1 500).bind fun _ socket =>
  (socket.setIsUseSSL false).bind fun _ socket =>
  (socket.setSSLVerifyMode false).bind fun _ socket =>
  early () socket

/-- The default constructor on a piece of memory. -/
def construct (memory : Socket) : Call Unit :=
  (setDefaults { memory with addr := ⟨0, [0, 0, 0, 0]⟩ }).bind fun _ socket =>
  early () { socket with sockFd := -1, sslConn := none, data := [], remainingData := [] }

theorem construct_socket (memory : Socket) : (construct memory).socket = Socket.new := rfl

/-- `obj` as `duplicate` leaves it. -/
def duplicate (socket obj : Socket) : Socket :=
  { obj with
    address := socket.address
    sockFd := socket.sockFd
    keepAliveMs := socket.keepAliveMs
    tvTimeout := socket.tvTimeout
    addr := socket.addr
    useSSL := socket.useSSL
    sslVerifyMode := socket.sslVerifyMode
    sslConn := socket.sslConn
    data := socket.data
    remainingData := socket.remainingData }

def duplicateActs {ω : Type} (this obj : ω) : List (Act (Resource ω)) :=
  lockOf this ++ lockOf obj ++ unlockOf this ++ unlockOf obj

/-! ## Closing -/

/-- `close` on the descriptor, if there is one; `closes` says whether it succeeds. -/
def closeFd (socket : Socket) (closes : Bool) : Call Unit :=
  if 0 < socket.sockFd then
    if closes then
      ⟨(), { socket with sockFd := -1 }, [.release (.descriptor socket.sockFd)]⟩
    else socket.early ()
  else socket.early ()

/-- The SSL part of `closeConnection`. -/
def freeSSL (socket : Socket) : Call Unit :=
  match socket.sslConn with
  | some ssl =>
      if socket.useSSL then ⟨(), { socket with sslConn := none }, [.release (.connection ssl)]⟩
      else socket.early ()
  | none => socket.early ()

def closeConnection (socket : Socket) (closes : Bool) : Call Unit :=
  let closed := socket.freeSSL.bind fun _ socket => socket.closeFd closes
  ⟨(), closed.socket, lockOf () ++ closed.acts ++ unlockOf ()⟩

def closeSocket (socket : Socket) (closes again : Bool) : Call Unit :=
  (socket.closeConnection closes).bind fun _ socket =>
    let closed := socket.closeFd again
    ⟨(), closed.socket, lockOf () ++ closed.acts ++ unlockOf ()⟩

end Socket

end SynapTCP
