import SynapTCP.Socket.Setup

namespace SynapTCP.Socket

open Data

/-! # Closing

What closing leaves as it is, and all that it does if `close` succeeds.
-/

variable {socket : Socket}

theorem closeFd_frame (closes : Bool) :
    ∃ sockFd, (socket.closeFd closes).socket = { socket with sockFd } := by
  unfold closeFd early
  split
  · split
    · exact ⟨-1, rfl⟩
    · exact ⟨socket.sockFd, rfl⟩
  · exact ⟨socket.sockFd, rfl⟩

theorem freeSSL_frame : ∃ sslConn, socket.freeSSL.socket = { socket with sslConn } := by
  unfold freeSSL early
  split
  · split
    · exact ⟨none, rfl⟩
    · exact ⟨socket.sslConn, rfl⟩
  · exact ⟨socket.sslConn, rfl⟩

/-- Closing works on the descriptor and the SSL connection. -/
theorem closeSocket_frame (closes again : Bool) : ∃ sockFd sslConn,
    (socket.closeSocket closes again).socket = { socket with sockFd, sslConn } := by
  obtain ⟨sslConn, freed⟩ := @freeSSL_frame socket
  obtain ⟨closedFd, closed⟩ := @closeFd_frame socket.freeSSL.socket closes
  obtain ⟨sockFd, last⟩ := @closeFd_frame (socket.freeSSL.socket.closeFd closes).socket again
  refine ⟨sockFd, sslConn, last.trans ?_⟩
  rw [closed, freed]

/-- The object behind `closeConnection`, and behind `closeSocket`. -/
def closed (socket : Socket) : Socket :=
  { socket with
    sockFd := if 0 < socket.sockFd then -1 else socket.sockFd
    sslConn := if socket.useSSL then none else socket.sslConn }

/-- What `closeConnection` gives back between its locks. -/
def returned (socket : Socket) : List (Act (Resource Unit)) :=
  (match socket.sslConn with
    | some ssl => if socket.useSSL then [Act.release (Resource.connection ssl)] else []
    | none => []) ++
  (if 0 < socket.sockFd then [Act.release (Resource.descriptor socket.sockFd)] else [])

theorem closed_sockFd_not_pos : ¬ 0 < socket.closed.sockFd := by
  unfold closed
  by_cases opened : 0 < socket.sockFd
  · simp [opened]
  · simp only [opened, if_false]
    exact not_false

theorem closed_of_closed (notOpen : ¬ 0 < socket.sockFd) : socket.closed.sockFd = socket.sockFd := by
  unfold closed
  simp only [notOpen, if_false]

theorem freeSSL_socket :
    socket.freeSSL.socket = { socket with
      sslConn := if socket.useSSL then none else socket.sslConn } := by
  obtain ⟨_, _, _, _, _, useSSL, _, sslConn, _, _⟩ := socket
  cases sslConn with
  | none => cases useSSL <;> rfl
  | some ssl => cases useSSL <;> rfl

theorem freeSSL_acts :
    socket.freeSSL.acts = match socket.sslConn with
      | some ssl => if socket.useSSL then [Act.release (Resource.connection ssl)] else []
      | none => [] := by
  unfold freeSSL early
  cases socket.sslConn with
  | none => rfl
  | some ssl => cases socket.useSSL <;> rfl

theorem closeFd_socket :
    (socket.closeFd true).socket =
      { socket with sockFd := if 0 < socket.sockFd then -1 else socket.sockFd } := by
  unfold closeFd early
  split <;> rfl

theorem closeFd_acts :
    (socket.closeFd true).acts =
      if 0 < socket.sockFd then [Act.release (Resource.descriptor socket.sockFd)] else [] := by
  unfold closeFd early
  split <;> rfl

theorem closeConnection_socket : (socket.closeConnection true).socket = socket.closed := by
  unfold closeConnection Call.bind
  simp only [closeFd_socket, freeSSL_socket, closed]

theorem closeConnection_acts :
    (socket.closeConnection true).acts = lockOf () ++ socket.returned ++ unlockOf () := by
  unfold closeConnection Call.bind
  simp only [closeFd_acts, freeSSL_socket, freeSSL_acts, returned]

theorem closeSocket_socket : (socket.closeSocket true true).socket = socket.closed := by
  unfold closeSocket Call.bind
  simp only [closeFd_socket, closeConnection_socket, closed_sockFd_not_pos, if_false]

theorem closeSocket_acts :
    (socket.closeSocket true true).acts =
      lockOf () ++ socket.returned ++ unlockOf () ++ (lockOf () ++ unlockOf ()) := by
  unfold closeSocket Call.bind
  simp only [closeFd_acts, closeConnection_socket, closeConnection_acts, closed_sockFd_not_pos,
    if_false, List.append_nil]

end SynapTCP.Socket
