import SynapTCP.Example.Reception

namespace SynapTCP

open Data DataFrame ProtocolFrame

/-! # Client and server of the examples

What the callbacks of `src/examples/server.cpp` send back on what a client has sent, and
what `src/examples/client.cpp` receives of that.
-/

/-- The bytes that a result is accepted with. -/
def Recognised.accepted (r : Recognised) : Bytes := if r.code = 0 then r.data else []

variable {stream : Bytes} {r first : Recognised} {results : List Recognised} {count : Nat}

/-- What is consumed by a call is taken from the stream in front of what is left of it. -/
theorem Recognises.data_sublist (recognises : Recognises stream r) :
    (r.data ++ r.rest).Sublist stream := by
  have behind : ∀ {index : Nat} {bytes : Bytes}, stream.drop index = bytes →
      bytes.Sublist stream := by
    intro index bytes there
    rw [← there]
    exact List.drop_sublist _ _
  cases recognises with
  | unknown _ there _ => exact behind there
  | mismatch _ there _ _ _ => exact behind there
  | accepted _ there _ => exact behind there
  | @unstopped index _ payload others first there =>
      have marked := drop_startMark first
      have next : stream.drop (index + 1) = (stream.drop index).drop 1 := List.drop_drop.symm
      have mark : stream.drop index = [0x31] ++ stream.drop (index + 1) := by
        rw [next, marked]
        rfl
      exact behind mark

theorem recognises_data_sublist (recognised : recognises stream count = some results) :
    (results.flatMap Recognised.data).Sublist stream := by
  induction count generalizing stream results with
  | zero =>
      cases recognised
      exact List.nil_sublist _
  | succ count ih =>
      obtain ⟨first, found, more⟩ := Option.bind_eq_some_iff.mp recognised
      obtain ⟨others, foundOthers, rfl⟩ := Option.map_eq_some_iff.mp more
      have part := (recognises_of_recognise found).data_sublist
      rw [List.flatMap_cons]
      exact ((List.Sublist.refl _).append (ih foundOthers)).trans part

theorem Recognises.valid (recognises : Recognises stream r) (accepted : r.code = 0) :
    ValidFrame r.data := by
  cases recognises with
  | accepted _ _ known => exact ⟨_, _, known, rfl⟩
  | unknown _ _ _ => contradiction
  | mismatch _ _ _ _ _ => contradiction
  | unstopped _ _ _ _ _ => contradiction

theorem recognises_valid (recognised : recognises stream count = some results) :
    ∀ r ∈ results, r.code = 0 → ValidFrame r.data := by
  induction count generalizing stream results with
  | zero =>
      cases recognised
      simp
  | succ count ih =>
      obtain ⟨first, found, more⟩ := Option.bind_eq_some_iff.mp recognised
      obtain ⟨others, foundOthers, rfl⟩ := Option.map_eq_some_iff.mp more
      rw [List.forall_mem_cons]
      exact ⟨(recognises_of_recognise found).valid, ih foundOthers⟩

/-- What was sent back by a call. -/
def Served.echoed {F : Type} (served : Served F) : Bytes := (served.echo.map Sending.sent).getD []

variable {F : Type} {calls : List (Served F)}

theorem Served.echoed_sublist {served : Served F} {bytes : Bytes}
    (own : ∀ echo ∈ served.echo, echo.sent <+: bytes) : served.echoed.Sublist bytes := by
  unfold Served.echoed
  cases sends : served.echo with
  | none => exact List.nil_sublist _
  | some echo => exact (own echo sends).sublist

theorem Serves.own {served : Served F} (same : Serves r served) :
    ∀ echo ∈ served.echo, echo.sent <+: r.data := by
  intro echo sends
  by_cases accepted : r.code = 0
  · obtain ⟨sending, echoed, part, -⟩ := same.echoes accepted
    cases sends.symm.trans echoed
    exact part
  · cases sends.symm.trans (same.silent accepted)

theorem echoed_eq (serves : List.Forall₂ Serves results calls)
    (whole : ∀ served ∈ calls, ∀ echo ∈ served.echo, echo.code = 0) :
    calls.flatMap Served.echoed = results.flatMap Recognised.accepted := by
  induction serves with
  | nil => rfl
  | @cons r served results calls same _ ih =>
      rw [List.forall_mem_cons] at whole
      rw [List.flatMap_cons, List.flatMap_cons, ih whole.2]
      congr 1
      unfold Served.echoed Recognised.accepted
      by_cases accepted : r.code = 0
      · obtain ⟨echo, echoed, -, all⟩ := same.echoes accepted
        rw [echoed, if_pos accepted]
        exact all (whole.1 echo echoed)
      · rw [same.silent accepted, if_neg accepted]
        rfl

variable [ProtocolFrame F] [LawfulProtocolFrame F] {connection client : SynapSock F} {w v : Wire}
  {echoes : List (List Nat)}

/-- Whatever a client sends and however it is cut: what the callbacks accept are frames,
and what they send back is taken from the received bytes in their order, no byte twice. -/
theorem receptionCallbacks_sound (ready : connection.Readable)
    (format : connection.frameFormat = []) (chunks : .failed ∉ w.reads)
    (recognised : recognises (connection.toSocket.stream w) echoes.length = some results) :
    ∃ calls, receptionCallbacks connection w echoes = some calls ∧
      (∀ served ∈ calls, served.ret = 0 → ValidFrame served.connection.data) ∧
      (calls.flatMap Served.echoed).Sublist (connection.toSocket.stream w) := by
  obtain ⟨calls, called, serves⟩ := receptionCallbacks_serves ready format
    (Socket.supplied_of_chunks chunks) recognised
  have echoed : (calls.flatMap Served.echoed).Sublist (results.flatMap Recognised.data) :=
    flatMap_sublist_of_forall₂ serves fun same => Served.echoed_sublist same.own
  have valid := (List.forall₂_and_left _ _).mpr ⟨recognises_valid recognised, serves⟩
  refine ⟨calls, called, forall_mem_of_forall₂ valid fun both accepted => ?_,
    echoed.trans (recognises_data_sublist recognised)⟩
  rw [both.2.data]
  exact both.1 (both.2.ret.symm.trans accepted)

/-- The three calls of the callback on a stray byte, a frame and two that are none. -/
theorem receptionCallbacks_sound_three :
    ∃ calls, receptionCallbacks visitor visitingWire [[3, 20], [], []] = some calls ∧
      (∀ served ∈ calls, served.ret = 0 → ValidFrame served.connection.data) ∧
      (calls.flatMap Served.echoed).Sublist (visitor.toSocket.stream visitingWire) :=
  @receptionCallbacks_sound visited ProtocolElement _ _ visitor visitingWire [[3, 20], [], []]
    visitor_readable rfl (by decide) (by decide +kernel)

/-! ## What the client receives -/

/-- The first accepted result comes first in what is sent back. -/
theorem accepted_of_find (found : results.find? (fun r => r.code = 0) = some first) :
    ∃ more, results.flatMap Recognised.accepted = first.data ++ more := by
  induction results with
  | nil => contradiction
  | cons r results ih =>
      rw [List.flatMap_cons]
      by_cases accepted : r.code = 0
      · rw [List.find?_cons_of_pos (by simpa using accepted)] at found
        cases found
        exact ⟨results.flatMap Recognised.accepted, by rw [Recognised.accepted, if_pos accepted]⟩
      · rw [List.find?_cons_of_neg (by simpa using accepted)] at found
        obtain ⟨more, rest⟩ := ih found
        exact ⟨more, by rw [Recognised.accepted, if_neg accepted, List.nil_append, rest]⟩

/-- One exchange of the client with the callbacks of the server, both directions cut in
any way: it receives the first frame that is recognised in what it has sent. -/
theorem exchange {data later : Bytes} {writes : List Nat} (readyServer : connection.Readable)
    (format : connection.frameFormat = []) (chunks : .failed ∉ w.reads)
    (sent : (client.toSocket.sendData data writes).code = 0)
    (arrives : connection.toSocket.stream w = (client.toSocket.sendData data writes).sent)
    (recognised : recognises data echoes.length = some results)
    (found : results.find? (fun r => r.code = 0) = some first)
    (called : receptionCallbacks connection w echoes = some calls)
    (whole : ∀ served ∈ calls, ∀ echo ∈ served.echo, echo.code = 0)
    (readyClient : client.Readable) (prepared : client.frameFormat = socketSetupDataFrameProtocol)
    (chunksBack : .failed ∉ v.reads)
    (returns : client.toSocket.stream v = calls.flatMap Served.echoed ++ later) :
    ValidFrame first.data ∧ ∃ r, client.receiveFramedData v = some r ∧ r.code = 0 ∧
      r.sock.data = first.data ∧
      first.data ++ r.sock.toSocket.stream r.wire = calls.flatMap Served.echoed ++ later := by
  rw [Socket.sendData_all sent] at arrives
  rw [← arrives] at recognised
  have member := List.mem_of_find?_eq_some found
  have accepted : first.code = 0 := by simpa using List.find?_some found
  have valid := recognises_valid recognised first member accepted
  obtain ⟨others, other, serves⟩ := receptionCallbacks_serves readyServer format
    (Socket.supplied_of_chunks chunks) recognised
  obtain rfl : others = calls := Option.some.inj (other.symm.trans called)
  obtain ⟨more, starts⟩ := accepted_of_find found
  rw [echoed_eq serves whole, starts] at returns ⊢
  rw [List.append_assoc] at returns ⊢
  have found : recognise (client.toSocket.stream v) = some ⟨0, first.data, more ++ later⟩ := by
    rw [returns, recognise_accepts_iff]
    refine ⟨valid, 0, leftmostAt_zero_of_prefix ?_, rfl⟩
    obtain ⟨behind, isFrame⟩ := valid.starts
    rw [isFrame, List.append_assoc]
    exact List.prefix_append _ _
  rw [← @decode_eq_recognise F _ _ client.data, ← prepared] at found
  obtain ⟨decoded, decodes, same⟩ := Option.map_eq_some_iff.mp found
  have present : client.frameFormat ≠ [] := by
    rw [prepared]
    exact List.cons_ne_nil _ _
  obtain ⟨r, received, does⟩ := SynapSock.receiveFramedData_decodes readyClient present
    (Socket.supplied_of_chunks chunksBack) decodes
  obtain ⟨code, isData, rest⟩ := Recognised.mk.inj same
  refine ⟨valid, r, received, does.code.trans code, does.data.trans isData, ?_⟩
  rw [does.stream, rest]

/-- The client of the example, prepared. -/
def caller : SynapSock ProtocolElement :=
  { Socket.new with sockFd := 3, frameFormat := socketSetupDataFrameProtocol, isFormatValid := true }

/-- The echo of the frame, in two pieces. -/
def returningWire : Wire where
  polls := []
  reads := [.chunk (.of 0x31 [0x32, 0x33, 0x34, 0x35, 0x36]),
    .chunk (.of 0x37 [0x38, 0x15, 0x90, 0x39, 0x30, 0x2D, 0x3D])]
  stray := 0

theorem exchange_frame :
    ∃ calls, receptionCallbacks visitor visitingWire [[3, 20], [], []] = some calls ∧
      ValidFrame (encode 0x35 [0x36, 0x37, 0x38]) ∧
      ∃ r, caller.receiveFramedData returningWire = some r ∧ r.code = 0 ∧
        r.sock.data = encode 0x35 [0x36, 0x37, 0x38] ∧
        encode 0x35 [0x36, 0x37, 0x38] ++ r.sock.toSocket.stream r.wire =
          calls.flatMap Served.echoed ++ [] := by
  have ran : (receptionCallbacks visitor visitingWire [[3, 20], [], []]).map
      (fun calls => calls.map Served.echo) =
      some [some ⟨0, encode 0x35 [0x36, 0x37, 0x38]⟩, none, none] := by
    decide +kernel
  obtain ⟨calls, called, echoed⟩ := Option.map_eq_some_iff.mp ran
  have whole : ∀ served ∈ calls, ∀ echo ∈ served.echo, echo.code = 0 := by
    intro served member echo isEcho
    have among : served.echo ∈ calls.map Served.echo := List.mem_map_of_mem member
    rw [echoed, isEcho] at among
    simp only [List.mem_cons, Option.some.injEq, reduceCtorEq, List.not_mem_nil, or_false] at among
    rw [among]
  have returned : calls.flatMap Served.echoed = encode 0x35 [0x36, 0x37, 0x38] := by
    have bytes : calls.flatMap Served.echoed =
        (calls.map Served.echo).flatMap fun echo => (echo.map Sending.sent).getD [] := by
      rw [List.flatMap_map]
      rfl
    rw [bytes, echoed]
    simp
  refine ⟨calls, called, ?_⟩
  exact @exchange ⟨0, encode 0x35 [0x36, 0x37, 0x38],
      [0x31, 0x32, 0x33, 0x34, 7, 0x31, 0x32, 0x33, 0x34, 0x36, 1, 2, 3, 4, 5]⟩ visited
    ProtocolElement calls _ _ visitor caller visitingWire returningWire [[3, 20], [], []] visitingWire.unread [] [4, 50] visitor_readable
    rfl (by decide) (by decide) (by decide) (by decide +kernel) (by decide +kernel) called whole
    ⟨show (0 : Int) < 3 by decide, rfl⟩ rfl (by decide) (by rw [returned]; decide +kernel)

end SynapTCP
