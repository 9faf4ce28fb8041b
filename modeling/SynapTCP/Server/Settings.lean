import SynapTCP.Server.Runs

namespace SynapTCP

/-! # Setters and getters

The calls that configure a server, compared with what its getters report behind
them.  Port, timeout, keep-alive time and descriptor belong to `Socket`, so a
client is configured by the same calls.
-/

namespace Server

def setMaximumClient (server : Server) (nClient : Int) : Bool × Server :=
  if nClient < 1 ∨ 65535 < nClient then (false, server)
  else (true, { server.lock with maxClient := nClient.toNat.toUInt16 }.unlock)

def getMaximumClient (server : Server) : Nat := server.maxClient.toNat

def inherited (server : Server) (setter : Call Bool) : Bool × Server :=
  (setter.result, { server with toSocket := setter.socket }.emit (setter.actsOf .server))

end Server

/-- What the getters of a server give. -/
structure Getters where
  address : Bytes
  port : Nat
  timeout : TimeVal
  keepAliveMs : Nat
  isUseSSL : Bool
  sslVerifyMode : Bool
  socketFd : Int
  maximumClient : Nat
  activeClient : Option ClientId
  receptionHandlerFunction : Option Nat
  receptionHandlerParam : Nat
  buffer : Bytes
  remainingBuffer : Bytes
deriving DecidableEq

def Server.getters (server : Server) : Getters where
  address := server.getAddress.result
  port := server.getPort
  timeout := server.tvTimeout
  keepAliveMs := server.keepAliveMs.toNat
  isUseSSL := server.useSSL
  sslVerifyMode := server.getSSLVerifyMode.result
  socketFd := server.sockFd
  maximumClient := server.getMaximumClient
  activeClient := server.client
  receptionHandlerFunction := server.receptionCallbackFunction
  receptionHandlerParam := server.receptionCallbackParam
  buffer := server.data
  remainingBuffer := server.remainingData

inductive Setting where
  | setPort (port : Int)
  | setTimeout (milliseconds : Int)
  | setTimeoutParts (seconds milliseconds : Int)
  | setKeepAliveMs (keepAliveMs : Int)
  | setMaximumClient (nClient : Int)
  | setSocketFd (sockFd : Int)
deriving DecidableEq

namespace Setting

variable {server : Server} {setting : Setting}

def call (server : Server) : Setting → Bool × Server
  | .setPort port => server.inherited (server.setPort port)
  | .setTimeout milliseconds => server.inherited (server.setTimeout milliseconds)
  | .setTimeoutParts seconds milliseconds =>
      server.inherited (server.setTimeoutParts seconds milliseconds)
  | .setKeepAliveMs keepAliveMs => server.inherited (server.setKeepAliveMs keepAliveMs)
  | .setMaximumClient nClient => server.setMaximumClient nClient
  | .setSocketFd sockFd => server.inherited (server.setSocketFd sockFd)

/-- A timeout of so many milliseconds, in seconds and a part of a second. -/
def Lasts (timeout : TimeVal) (milliseconds : Int) : Prop :=
  timeout.sec * 1000 + timeout.usec / 1000 = milliseconds ∧
    0 ≤ timeout.usec ∧ timeout.usec < 1000000

def Reports (getters : Getters) : Setting → Prop
  | .setPort port => getters.port = port
  | .setTimeout milliseconds => Lasts getters.timeout milliseconds
  | .setTimeoutParts seconds milliseconds => Lasts getters.timeout (seconds * 1000 + milliseconds)
  | .setKeepAliveMs keepAliveMs => getters.keepAliveMs = keepAliveMs
  | .setMaximumClient nClient => getters.maximumClient = nClient
  | .setSocketFd sockFd => getters.socketFd = sockFd

/-- `getters`, with what `before` reports for the getter of the setting. -/
def withoutOwn (before getters : Getters) : Setting → Getters
  | .setPort _ => { getters with port := before.port }
  | .setTimeout _ => { getters with timeout := before.timeout }
  | .setTimeoutParts _ _ => { getters with timeout := before.timeout }
  | .setKeepAliveMs _ => { getters with keepAliveMs := before.keepAliveMs }
  | .setMaximumClient _ => { getters with maximumClient := before.maximumClient }
  | .setSocketFd _ => { getters with socketFd := before.socketFd }

/-- A setter stores exactly what it accepts, or changes nothing. -/
structure Exact (server : Server) (setting : Setting) : Prop where
  stored : (setting.call server).1 = true → setting.Reports (setting.call server).2.getters
  others : setting.withoutOwn server.getters (setting.call server).2.getters = server.getters
  refused : (setting.call server).1 = false → (setting.call server).2.getters = server.getters

/-- The keep-alive time fits its field of 16 bits. -/
def Fits : Setting → Prop
  | .setKeepAliveMs keepAliveMs => keepAliveMs ≤ 65535
  | _ => True

def Refused : Setting → Prop
  | .setPort port => port ≤ 0 ∨ 65535 < port
  | .setTimeout milliseconds => milliseconds < 0
  | .setTimeoutParts seconds milliseconds =>
      seconds < 0 ∨ milliseconds < 0 ∨ 999 < milliseconds
  | .setKeepAliveMs keepAliveMs => keepAliveMs < 0
  | .setMaximumClient nClient => nClient < 1 ∨ 65535 < nClient
  | .setSocketFd sockFd => sockFd ≤ 0 ∨ 65535 ≤ sockFd

/-- What the getters report behind an accepted value. -/
def stored (getters : Getters) : Setting → Getters
  | .setPort port => { getters with port := port.toNat % 65536 }
  | .setTimeout milliseconds =>
      { getters with timeout := ⟨milliseconds / 1000, milliseconds % 1000 * 1000⟩ }
  | .setTimeoutParts seconds milliseconds =>
      { getters with timeout := ⟨seconds, milliseconds * 1000⟩ }
  | .setKeepAliveMs keepAliveMs => { getters with keepAliveMs := keepAliveMs.toNat % 65536 }
  | .setMaximumClient nClient => { getters with maximumClient := nClient.toNat % 65536 }
  | .setSocketFd sockFd => { getters with socketFd := sockFd }

theorem inherited_refused (server : Server) :
    (server.inherited (server.early false)).1 = false ∧
      (server.inherited (server.early false)).2.getters = server.getters :=
  ⟨rfl, rfl⟩

theorem getAddress_result (socket : Socket) :
    socket.getAddress.result =
      if socket.address.length ≠ 4 then [] else Socket.dotted socket.address := by
  unfold Socket.getAddress
  split <;> rfl

theorem inherited_guarded (changed : Socket) (address : changed.address = server.address) :
    (server.inherited (Socket.guarded true changed)).2.getters =
      { server.getters with
        port := changed.getPort
        timeout := changed.tvTimeout
        keepAliveMs := changed.keepAliveMs.toNat
        isUseSSL := changed.useSSL
        sslVerifyMode := changed.getSSLVerifyMode.result
        socketFd := changed.sockFd
        buffer := changed.data
        remainingBuffer := changed.remainingData } := by
  have same : changed.getAddress.result = server.getAddress.result := by
    rw [getAddress_result, getAddress_result, address]
  simp only [Server.getters, ← same]
  rfl

theorem call_refused (refused : setting.Refused) :
    (setting.call server).1 = false ∧ (setting.call server).2.getters = server.getters := by
  cases setting with
  | setMaximumClient nClient =>
      simp only [Refused] at refused
      simp only [call, Server.setMaximumClient, if_pos refused, and_self]
  | setPort port =>
      simp only [Refused] at refused
      simp only [call, Socket.setPort, if_pos refused]
      exact inherited_refused server
  | setTimeout milliseconds =>
      simp only [Refused] at refused
      simp only [call, Socket.setTimeout, if_pos refused]
      exact inherited_refused server
  | setTimeoutParts seconds milliseconds =>
      simp only [Refused] at refused
      simp only [call, Socket.setTimeoutParts, if_pos refused]
      exact inherited_refused server
  | setKeepAliveMs keepAliveMs =>
      simp only [Refused] at refused
      simp only [call, Socket.setKeepAliveMs, if_pos refused]
      exact inherited_refused server
  | setSocketFd sockFd =>
      simp only [Refused] at refused
      simp only [call, Socket.setSocketFd, if_pos refused]
      exact inherited_refused server

theorem call_stored (accepted : ¬ setting.Refused) :
    (setting.call server).1 = true ∧
      (setting.call server).2.getters = setting.stored server.getters := by
  cases setting with
  | setMaximumClient nClient =>
      simp only [Refused] at accepted
      simp only [call, Server.setMaximumClient, if_neg accepted]
      exact ⟨trivial, rfl⟩
  | setPort port =>
      simp only [Refused] at accepted
      simp only [call, Socket.setPort, if_neg accepted]
      exact ⟨rfl, inherited_guarded _ rfl⟩
  | setTimeout milliseconds =>
      simp only [Refused] at accepted
      simp only [call, Socket.setTimeout, if_neg accepted]
      by_cases below : milliseconds < 1000
      · have positive : ¬ milliseconds < 0 := accepted
        have seconds : milliseconds / 1000 = 0 := by omega
        have part : milliseconds % 1000 = milliseconds := by omega
        simp only [if_pos below, stored, seconds, part]
        exact ⟨rfl, inherited_guarded _ rfl⟩
      · simp only [if_neg below]
        exact ⟨rfl, inherited_guarded _ rfl⟩
  | setTimeoutParts seconds milliseconds =>
      simp only [Refused] at accepted
      simp only [call, Socket.setTimeoutParts, if_neg accepted]
      exact ⟨rfl, inherited_guarded _ rfl⟩
  | setKeepAliveMs keepAliveMs =>
      simp only [Refused] at accepted
      simp only [call, Socket.setKeepAliveMs, if_neg accepted]
      exact ⟨rfl, inherited_guarded _ rfl⟩
  | setSocketFd sockFd =>
      simp only [Refused] at accepted
      simp only [call, Socket.setSocketFd, if_neg accepted]
      exact ⟨rfl, inherited_guarded _ rfl⟩

theorem withoutOwn_stored (setting : Setting) (getters : Getters) :
    setting.withoutOwn getters (setting.stored getters) = getters := by
  cases setting <;> rfl

theorem stored_reports_iff (accepted : ¬ setting.Refused) (getters : Getters) :
    setting.Reports (setting.stored getters) ↔ setting.Fits := by
  cases setting with
  | setPort port =>
      simp only [Refused] at accepted
      exact iff_of_true (show ((port.toNat % 65536 : Nat) : Int) = port by omega) trivial
  | setTimeout milliseconds =>
      simp only [Refused] at accepted
      refine iff_of_true ⟨?_, ?_, ?_⟩ trivial <;> simp only [stored] <;> omega
  | setTimeoutParts seconds milliseconds =>
      simp only [Refused] at accepted
      refine iff_of_true ⟨?_, ?_, ?_⟩ trivial <;> simp only [stored] <;> omega
  | setKeepAliveMs keepAliveMs =>
      simp only [Refused] at accepted
      show ((keepAliveMs.toNat % 65536 : Nat) : Int) = keepAliveMs ↔ keepAliveMs ≤ 65535
      omega
  | setMaximumClient nClient =>
      simp only [Refused] at accepted
      exact iff_of_true (show ((nClient.toNat % 65536 : Nat) : Int) = nClient by omega) trivial
  | setSocketFd sockFd => exact iff_of_true rfl trivial

/-- All setters are exact, but `setKeepAliveMs` is not above 65535. -/
theorem exact_iff (server : Server) (setting : Setting) :
    setting.Exact server ↔ setting.Fits := by
  by_cases refused : setting.Refused
  · obtain ⟨result, getters⟩ := @call_refused server setting refused
    refine iff_of_true ⟨?_, ?_, fun _ => getters⟩ ?_
    · intro accepted
      rw [result] at accepted
      exact absurd accepted (by decide)
    · rw [getters]
      cases setting <;> rfl
    · cases setting with
      | setKeepAliveMs keepAliveMs =>
          simp only [Refused] at refused
          exact show keepAliveMs ≤ 65535 by omega
      | _ => trivial
  · obtain ⟨result, getters⟩ := @call_stored server setting refused
    refine ⟨fun exactly => ?_, fun fits => ⟨fun _ => ?_, ?_, ?_⟩⟩
    · have reports := exactly.stored result
      rw [getters] at reports
      exact (stored_reports_iff refused _).mp reports
    · rw [getters]
      exact (stored_reports_iff refused _).mpr fits
    · rw [getters]
      exact withoutOwn_stored setting _
    · intro unaccepted
      rw [result] at unaccepted
      exact absurd unaccepted (by decide)

end Setting

namespace Server

/-- Every call of the sequence is exact. -/
def SettingsExact (server : Server) : List Setting → Prop
  | [] => True
  | setting :: settings => setting.Exact server ∧ (setting.call server).2.SettingsExact settings

/-- Any sequence of setters is exact if and only if no keep-alive time in it is
above 65535. -/
theorem settingsExact_iff (server : Server) (settings : List Setting) :
    server.SettingsExact settings ↔ ∀ setting ∈ settings, setting.Fits := by
  induction settings generalizing server with
  | nil => simp [SettingsExact]
  | cons setting settings ih =>
      rw [SettingsExact, setting.exact_iff, ih, List.forall_mem_cons]

/-- 65536 milliseconds are accepted and become none. -/
theorem settingsExact_wraps : ¬ listening.SettingsExact [.setKeepAliveMs 65536] := by
  intro settings
  have wrapped : ((0 : Nat) : Int) = 65536 := settings.1.stored rfl
  exact absurd wrapped (by decide)

end Server

end SynapTCP
