import SynapTCP.Example.Frames
import SynapTCP.Frame.Presence

namespace SynapTCP

open Data DataFrame ProtocolFrame

/-! # The reception callback of the example

`receptionCallbackFunction` of `src/examples/server.cpp`, called again and again on one
connection.  What it prints is left out.
-/

/-- A call of the callback: `ret`, what became of the echo, the object and the wire
behind it. -/
structure Served (F : Type) where
  ret : Nat
  echo : Option Sending
  connection : SynapSock F
  wire : Wire

variable {F : Type} [ProtocolFrame F]

/-- What the callback does behind `receiveFramedData`. -/
def FramedReception.answered (r : FramedReception F) (writes : List Nat) : Served F :=
  ⟨r.code, if r.code = 0 then some (r.sock.toSocket.sendData r.sock.data writes) else none,
    r.sock.destroyFormat, r.wire⟩

/-- The object with a format, the one of the example if it had none. -/
def SynapSock.prepared (connection : SynapSock F) : SynapSock F :=
  if connection.frameFormat = [] then
    { connection with frameFormat := socketSetupDataFrameProtocol }
  else connection

def receptionCallbackFunction (connection : SynapSock F) (w : Wire) (writes : List Nat) :
    Option (Served F) :=
  (connection.prepared.receiveFramedData w).map fun r => r.answered writes

/-- One call after another, each with the writes of its echo. -/
def receptionCallbacks (connection : SynapSock F) (w : Wire) :
    List (List Nat) → Option (List (Served F))
  | [] => some []
  | writes :: more =>
      (receptionCallbackFunction connection w writes).bind fun first =>
        (receptionCallbacks first.connection first.wire more).map (first :: ·)

/-- A call that found what the recogniser tells, and sends it back if it is accepted. -/
structure Serves (recognised : Recognised) (served : Served F) : Prop where
  ret : served.ret = recognised.code
  data : served.connection.data = recognised.data
  format : served.connection.frameFormat = []
  stream : served.connection.toSocket.stream served.wire = recognised.rest
  echoes : recognised.code = 0 → ∃ echo, served.echo = some echo ∧
    echo.sent <+: recognised.data ∧ (echo.code = 0 → echo.sent = recognised.data)
  silent : recognised.code ≠ 0 → served.echo = none
  ready : served.connection.Readable
  supplied : Socket.Supplied recognised.rest.length served.connection.toSocket served.wire

theorem sendData_prefix {s : Socket} {buffer : Bytes} {writes : List Nat} :
    (s.sendData buffer writes).sent <+: buffer := by
  rcases @Socket.sendData_cases s buffer writes with all | nothing | ⟨-, part, -⟩
  · rw [all]
  · rw [nothing]
    exact List.nil_prefix
  · exact part

variable [LawfulProtocolFrame F] {connection : SynapSock F} {w : Wire} {writes : List Nat}
  {r : Recognised}

theorem receptionCallbackFunction_serves (ready : connection.Readable)
    (format : connection.frameFormat = [])
    (supplied : Socket.Supplied (connection.toSocket.stream w).length connection.toSocket w)
    (recognised : recognise (connection.toSocket.stream w) = some r) :
    ∃ served, receptionCallbackFunction connection w writes = some served ∧ Serves r served := by
  rw [← @decode_eq_recognise F _ _ connection.data] at recognised
  obtain ⟨decoded, decodes, rfl⟩ := Option.map_eq_some_iff.mp recognised
  let prepared : SynapSock F := { connection with frameFormat := socketSetupDataFrameProtocol }
  have readyPrepared : prepared.Readable := ⟨ready.opened, ready.connected⟩
  have present : prepared.frameFormat ≠ [] := List.cons_ne_nil _ _
  obtain ⟨reception, received, does⟩ :=
    SynapSock.receiveFramedData_decodes readyPrepared present supplied decodes
  refine ⟨reception.answered writes, ?_, ?_⟩
  · rw [receptionCallbackFunction, SynapSock.prepared, if_pos format, received]
    rfl
  · exact {
      ret := does.code
      data := does.data
      format := rfl
      stream := does.stream
      echoes := fun accepted => by
        have data : decoded.recognised.data = reception.sock.data := does.data.symm
        refine ⟨_, if_pos (does.code.trans accepted), ?_, fun all => ?_⟩
        · rw [data]
          exact sendData_prefix
        · rw [data]
          exact Socket.sendData_all all
      silent := fun failed => if_neg fun accepted => failed (does.code.symm.trans accepted)
      ready := ⟨does.ready.opened, does.ready.connected⟩
      supplied := does.supplied }

theorem receptionCallbacks_serves {echoes : List (List Nat)} {results : List Recognised}
    (ready : connection.Readable) (format : connection.frameFormat = [])
    (supplied : Socket.Supplied (connection.toSocket.stream w).length connection.toSocket w)
    (recognised : recognises (connection.toSocket.stream w) echoes.length = some results) :
    ∃ calls, receptionCallbacks connection w echoes = some calls ∧
      List.Forall₂ Serves results calls := by
  induction echoes generalizing connection w results with
  | nil =>
      cases recognised
      exact ⟨[], rfl, .nil⟩
  | cons writes echoes ih =>
      obtain ⟨first, found, more⟩ := Option.bind_eq_some_iff.mp recognised
      obtain ⟨others, foundOthers, rfl⟩ := Option.map_eq_some_iff.mp more
      obtain ⟨served, called, serves⟩ :=
        @receptionCallbackFunction_serves F _ _ connection w writes first ready format supplied
          found
      rw [← serves.stream] at foundOthers
      have left := serves.supplied
      rw [← serves.stream] at left
      obtain ⟨calls, calledOthers, agree⟩ := ih serves.ready serves.format left foundOthers
      refine ⟨served :: calls, ?_, .cons serves agree⟩
      simp only [receptionCallbacks, called, Option.bind_some, calledOthers, Option.map_some]

/-- The callback called again and again on a stream without a failing read finds what the
recogniser tells, however the stream is cut, and sends back what is accepted and nothing
else. -/
theorem receptionCallbacks_recognise {echoes : List (List Nat)} {results : List Recognised}
    (ready : connection.Readable) (format : connection.frameFormat = [])
    (chunks : .failed ∉ w.reads)
    (recognised : recognises (connection.toSocket.stream w) echoes.length = some results) :
    ∃ calls, receptionCallbacks connection w echoes = some calls ∧
      List.Forall₂ Serves results calls :=
  receptionCallbacks_serves ready format (Socket.supplied_of_chunks chunks) recognised

/-- An object of an accepted client. -/
def visitor : SynapSock ProtocolElement := .fresh { Socket.new with sockFd := 3 }

theorem visitor_readable : visitor.Readable := ⟨show (0 : Int) < 3 by decide, rfl⟩

/-- A stray byte and the frame of the example, a start mark with an unknown command, and a
frame whose CRC is wrong; cut within the marks. -/
def visitingWire : Wire where
  polls := []
  reads := [.chunk (.of 9 [0x31, 0x32, 0x33]), .chunk (.of 0x34 [0x35, 0x36, 0x37, 0x38, 0x15,
    0x90, 0x39]), .chunk (.of 0x30 [0x2D, 0x3D, 0x31, 0x32]), .chunk (.of 0x33 [0x34, 7, 0x31,
    0x32, 0x33, 0x34, 0x36, 1, 2, 3, 4, 5])]
  stray := 0

/-- What is recognised there. -/
def visited : List Recognised :=
  [⟨0, encode 0x35 [0x36, 0x37, 0x38],
      [0x31, 0x32, 0x33, 0x34, 7, 0x31, 0x32, 0x33, 0x34, 0x36, 1, 2, 3, 4, 5]⟩,
    ⟨4, [0x31, 0x32, 0x33, 0x34, 7], [0x31, 0x32, 0x33, 0x34, 0x36, 1, 2, 3, 4, 5]⟩,
    ⟨4, [0x31, 0x32, 0x33, 0x34, 0x36, 1, 2, 3, 4], [5]⟩]

theorem receptionCallbacks_recognise_three :
    ∃ calls, receptionCallbacks visitor visitingWire [[3, 20], [], []] = some calls ∧
      List.Forall₂ Serves visited calls :=
  receptionCallbacks_recognise visitor_readable rfl (by decide) (by decide +kernel)

/-- A frame behind noise is found and sent back whole after finitely many calls, whatever
the noise holds but a start mark in its last nine bytes; the bytes behind the frame are
left for the next calls. -/
theorem receptionCallbacks_resynchronise {noise frame tail : Bytes}
    (ready : connection.Readable) (format : connection.frameFormat = [])
    (chunks : .failed ∉ w.reads) (valid : ValidFrame frame) (clear : Clear noise)
    (stream : connection.toSocket.stream w = noise ++ frame ++ tail) :
    ∃ count, count ≤ noise.length ∧ ∀ echoes : List (List Nat), echoes.length = count + 1 →
      ∃ calls last echo, receptionCallbacks connection w echoes = some calls ∧
        calls.getLast? = some last ∧ last.ret = 0 ∧ last.connection.data = frame ∧
        last.connection.toSocket.stream last.wire = tail ∧
        last.echo = some echo ∧ (echo.code = 0 → echo.sent = frame) := by
  obtain ⟨count, results, bound, recognised, isLast⟩ :=
    @recognises_resynchronised noise frame tail valid clear
  refine ⟨count, bound, fun echoes length => ?_⟩
  rw [← stream, ← length] at recognised
  obtain ⟨calls, called, serves⟩ := receptionCallbacks_serves ready format
    (Socket.supplied_of_chunks chunks) recognised
  obtain ⟨last, lastCall, lastServes⟩ := forall₂_getLast? serves.flip _ isLast
  obtain ⟨echo, echoed, -, whole⟩ := lastServes.echoes rfl
  exact ⟨calls, last, echo, called, lastCall, lastServes.ret, lastServes.data,
    lastServes.stream, echoed, whole⟩

/-- A start mark with an unknown command, then one whose data has no CRC, and nine bytes
without a start mark before the frame. -/
def noisyWire : Wire where
  polls := []
  reads := [.chunk (.of 0x31 [0x32, 0x33, 0x34, 0, 0x31, 0x32, 0x33, 0x34, 0x36]),
    .chunk (.of 1 [2, 3, 4, 5, 0x31, 0x32, 0x33, 0x34, 0x36, 0x61]),
    .chunk (.of 0x62 [0xFE, 0x42, 0x39, 0x30, 0x2D, 0x3D, 0x31])]
  stray := 0

theorem receptionCallbacks_resynchronise_third :
    ∃ count, count ≤ 15 ∧ ∀ echoes : List (List Nat), echoes.length = count + 1 →
      ∃ calls last echo, receptionCallbacks visitor noisyWire echoes = some calls ∧
        calls.getLast? = some last ∧ last.ret = 0 ∧
        last.connection.data = encode 0x36 [0x61, 0x62] ∧
        last.connection.toSocket.stream last.wire = [0x31] ∧
        last.echo = some echo ∧ (echo.code = 0 → echo.sent = encode 0x36 [0x61, 0x62]) :=
  @receptionCallbacks_resynchronise _ _ _ visitor noisyWire
    [0x31, 0x32, 0x33, 0x34, 0, 0x31, 0x32, 0x33, 0x34, 0x36, 1, 2, 3, 4, 5]
    (encode 0x36 [0x61, 0x62]) [0x31] visitor_readable rfl (by decide)
    ⟨0x36, [0x61, 0x62], rfl, rfl⟩ (by decide) (by decide +kernel)

end SynapTCP
