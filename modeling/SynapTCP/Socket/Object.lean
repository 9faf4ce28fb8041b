import SynapTCP.Socket.Wire

namespace SynapTCP

/-- `struct timeval`. -/
structure TimeVal where
  sec : Int
  usec : Int
deriving DecidableEq

/-- `struct sockaddr_in`, its port in host order. -/
structure SockAddr where
  port : UInt16
  host : List UInt8
deriving DecidableEq

/-- The fields of `Socket` that its methods read or write.  `sslConn` names the
SSL object it points to; the two mutexes are treated with the lock traces. -/
structure Socket where
  address : List UInt8
  addr : SockAddr
  sockFd : Int
  keepAliveMs : UInt16
  tvTimeout : TimeVal
  useSSL : Bool
  sslVerifyMode : Bool
  sslConn : Option Nat
  data : Bytes
  remainingData : Bytes
deriving DecidableEq

/-- The default constructor. -/
def Socket.new : Socket where
  address := [127, 0, 0, 1]
  addr := ⟨3000, [0, 0, 0, 0]⟩
  sockFd := -1
  keepAliveMs := 0
  tvTimeout := ⟨1, 500000⟩
  useSSL := false
  sslVerifyMode := false
  sslConn := none
  data := []
  remainingData := []

/-- An open port whose reads reach the peer: it works without SSL, or it has an
SSL connection. -/
structure Socket.Readable (socket : Socket) : Prop where
  opened : 0 < socket.sockFd
  connected : (socket.useSSL && socket.sslConn.isNone) = false

/-- Two objects that agree on everything but the two receive buffers. -/
structure Socket.SameSetup (before after : Socket) : Prop where
  address : after.address = before.address
  addr : after.addr = before.addr
  sockFd : after.sockFd = before.sockFd
  keepAliveMs : after.keepAliveMs = before.keepAliveMs
  tvTimeout : after.tvTimeout = before.tvTimeout
  useSSL : after.useSSL = before.useSSL
  sslVerifyMode : after.sslVerifyMode = before.sslVerifyMode
  sslConn : after.sslConn = before.sslConn

namespace Socket

@[simp] theorem SameSetup.refl (socket : Socket) : socket.SameSetup socket :=
  ⟨rfl, rfl, rfl, rfl, rfl, rfl, rfl, rfl⟩

theorem SameSetup.trans {before middle after : Socket}
    (left : before.SameSetup middle) (right : middle.SameSetup after) : before.SameSetup after :=
  ⟨right.address.trans left.address, right.addr.trans left.addr, right.sockFd.trans left.sockFd,
    right.keepAliveMs.trans left.keepAliveMs, right.tvTimeout.trans left.tvTimeout,
    right.useSSL.trans left.useSSL, right.sslVerifyMode.trans left.sslVerifyMode,
    right.sslConn.trans left.sslConn⟩

theorem SameSetup.buffers (socket : Socket) (data remainingData : Bytes) :
    socket.SameSetup { socket with data, remainingData } :=
  ⟨rfl, rfl, rfl, rfl, rfl, rfl, rfl, rfl⟩

theorem SameSetup.readable {before after : Socket} (same : before.SameSetup after)
    (ready : before.Readable) : after.Readable :=
  ⟨by rw [same.sockFd]; exact ready.opened,
    by rw [same.useSSL, same.sslConn]; exact ready.connected⟩

end Socket

end SynapTCP
