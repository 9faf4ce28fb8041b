import SynapTCP.Frame.Messages
import SynapTCP.Socket.Senders

namespace SynapTCP

open Data DataFrame

/-! # Frames sent and received in a row

Frames that are sent one after another, or by several threads at once, are received
each once and in the order in which they were sent.
-/

namespace SynapSock

variable {F : Type} [DataFrame F] [LawfulDataFrame F] {sender receiver : SynapSock F} {w : Wire}
  {tail : Bytes}

/-- A payload that is set as the format and sent; `lead` is what else gets on the wire
before it. -/
structure Shipment (F : Type) where
  lead : Bytes
  payload : List F
  writes : List Nat

def ship (sender : SynapSock F) (shipment : Shipment F) : Sending :=
  { sender with frameFormat := shipment.payload }.sendFramedData shipment.writes

def Shipment.message (shipment : Shipment F) : Message F := ⟨shipment.lead, shipment.payload⟩

/-- What arrives is what was sent, and the bytes of the elements are those of the payload. -/
structure Arrives (sender : SynapSock F) (shipment : Shipment F) (r : FramedReception F) :
    Prop where
  code : r.code = 0
  data : r.sock.data = (sender.ship shipment).sent
  holds : List.Forall₂ (fun original copy => getData copy = getData original)
    shipment.payload r.sock.frameFormat

theorem ship_sent {shipment : Shipment F} (sent : (sender.ship shipment).code = 0) :
    (sender.ship shipment).sent = shipment.message.frame :=
  (sendFramedData_all sent).1

/-- The receptions of a run that the decoder accounts for. -/
theorem receiveFrames_received {messages : List (Message F)} (ready : receiver.Readable)
    (present : receiver.frameFormat ≠ []) (silent : Silent receiver.frameFormat)
    (fits : ∀ message ∈ messages, message.Fits receiver.frameFormat)
    (chunks : .failed ∉ w.reads)
    (stream : receiver.toSocket.stream w = messages.flatMap Message.bytes ++ tail) :
    ∃ receptions, receiver.receiveFrames w messages.length = some receptions ∧
      List.Forall₂ (fun message r => r.code = 0 ∧ r.sock.data = message.frame ∧
        List.Forall₂ (fun original copy => getData copy = getData original)
          message.payload r.sock.frameFormat) messages receptions ∧
      ∀ last ∈ receptions.getLast?, last.sock.toSocket.stream last.wire = tail := by
  obtain ⟨results, decoded, received, left⟩ :=
    @decodes_messages F _ _ receiver.frameFormat tail receiver.data messages fits silent
  rw [← stream] at decoded
  obtain ⟨receptions, receives, does⟩ :=
    receiveFrames_does ready present (Socket.supplied_of_chunks chunks) decoded
  refine ⟨receptions, receives, forall₂_comp received does fun got same => ?_, ?_⟩
  · refine ⟨same.code.trans got.code, same.data.trans got.data, ?_⟩
    rw [same.format]
    exact got.holds
  · intro last isLast
    obtain ⟨decoded, isDecoded, same⟩ := forall₂_getLast? does last isLast
    rw [same.stream]
    exact left decoded isDecoded

/-- Frames sent one after another, each in any number of writes, and received with a copy
of their format from any segmentation: each arrives once, whole and in its turn. -/
theorem shipments_arrive {shipments : List (Shipment F)} (ready : receiver.Readable)
    (present : receiver.frameFormat ≠ []) (silent : Silent receiver.frameFormat)
    (fits : ∀ shipment ∈ shipments, shipment.message.Fits receiver.frameFormat)
    (sent : ∀ shipment ∈ shipments, (sender.ship shipment).code = 0)
    (chunks : .failed ∉ w.reads)
    (stream : receiver.toSocket.stream w =
      shipments.flatMap (fun shipment => shipment.lead ++ (sender.ship shipment).sent) ++ tail) :
    ∃ receptions, receiver.receiveFrames w shipments.length = some receptions ∧
      List.Forall₂ (Arrives sender) shipments receptions ∧
      ∀ last ∈ receptions.getLast?, last.sock.toSocket.stream last.wire = tail := by
  have bytes : shipments.flatMap (fun shipment => shipment.lead ++ (sender.ship shipment).sent) =
      (shipments.map Shipment.message).flatMap Message.bytes := by
    rw [List.flatMap_map]
    apply List.flatMap_congr
    intro shipment member
    rw [ship_sent (sent shipment member)]
    rfl
  rw [bytes] at stream
  obtain ⟨receptions, receives, arrived, left⟩ := @receiveFrames_received F _ _ receiver w tail
    (shipments.map Shipment.message) ready present silent (by simpa using fits) chunks stream
  rw [List.length_map] at receives
  rw [List.forall₂_map_left_iff] at arrived
  refine ⟨receptions, receives, ?_, left⟩
  clear * - arrived sent
  induction arrived with
  | nil => exact .nil
  | cons got _ ih =>
      rw [List.forall_mem_cons] at sent
      refine .cons ⟨got.1, ?_, got.2.2⟩ (ih sent.2)
      rw [got.2.1, ship_sent sent.1]

def otherPayload : List Element := [.start [1, 2], .field 2 [4, 4], .field 0 [], .stop [4, 4]]

theorem otherPayload_sendable : Sendable otherPayload :=
  .marker rfl (by decide) (.fixed rfl (by decide) rfl
    (.free rfl rfl rfl (by decide) ⟨by decide, by decide⟩ .nil))

theorem payload_alike {payload : List Element}
    (member : payload ∈ [samplePayload, otherPayload]) :
    Sendable payload ∧ List.Forall₂ Copy payload sampleReceiver.frameFormat := by
  have fields : ∀ first second : Bytes, List.Forall₂ Copy
      [Element.start [1, 2], .field 2 first, .field 0 second, .stop [4, 4]]
      sampleReceiver.frameFormat := by
    intro first second
    exact .cons ⟨rfl, rfl, rfl⟩ (.cons ⟨rfl, rfl, rfl⟩ (.cons ⟨rfl, rfl, rfl⟩
      (.cons ⟨rfl, rfl, rfl⟩ .nil)))
  rcases List.mem_pair.mp member with rfl | rfl
  · exact ⟨samplePayload_sendable, fields [7, 8] [4, 5]⟩
  · exact ⟨otherPayload_sendable, fields [4, 4] []⟩

/-- Both payloads, the second behind a stray byte, and the start of a third frame. -/
def rowWire : Wire where
  polls := []
  reads := [.chunk (.of 1 [2, 7, 8]), .chunk (.of 4 [5, 4, 4, 6, 1]),
    .chunk (.of 2 [4, 4, 4, 4, 1])]
  stray := 0

theorem shipments_arrive_two :
    ∃ receptions, sampleReceiver.receiveFrames rowWire 2 = some receptions ∧
      List.Forall₂ (Arrives (sample [] []))
        [⟨[9, 1], samplePayload, [3, 9]⟩, ⟨[6], otherPayload, [6]⟩] receptions ∧
      ∀ last ∈ receptions.getLast?, last.sock.toSocket.stream last.wire = [1] := by
  have leads : Leads samplePayload [9, 1] ∧ Leads otherPayload [6] :=
    ⟨fun _ => ⟨_, rfl, rfl, by decide, by decide⟩, fun _ => ⟨_, rfl, rfl, by decide, by decide⟩⟩
  have first := payload_alike (List.mem_pair.mpr (.inl rfl))
  have second := payload_alike (List.mem_pair.mpr (.inr rfl))
  have fits : ∀ shipment ∈ ([⟨[9, 1], samplePayload, [3, 9]⟩, ⟨[6], otherPayload, [6]⟩] :
      List (Shipment Element)), shipment.message.Fits sampleReceiver.frameFormat := by
    intro shipment member
    rcases List.mem_pair.mp member with rfl | rfl
    · exact ⟨first.1, first.2, leads.1⟩
    · exact ⟨second.1, second.2, leads.2⟩
  exact @shipments_arrive Element _ _ (sample [] []) sampleReceiver rowWire [1] _
    (sample_readable _ _) (by decide) (silent_of_no_functions (by decide)) fits (by decide)
    (by decide) (by decide)

/-! ## Several threads -/

variable {ι : Type*} [DecidableEq ι] {socket : Socket} {payloads : ι → List (List F)}
  {actions : List (SendAction ι)} {later : Senders ι} {trace : SendTrace ι}

/-- The calls of threads that call `sendFramedData` with one payload after another. -/
def frames (payloads : ι → List (List F)) (i : ι) : List Bytes := (payloads i).map getAllData

omit [LawfulDataFrame F] in
/-- Each call that got the lock is the frame of a payload of its thread. -/
theorem visit_payload (ran : (Senders.of socket (frames payloads)).run actions =
    some (later, trace)) {visit : Visit ι Bytes UInt8 Nat} (member : visit ∈ visits trace) :
    ∃ payload ∈ payloads visit.thread, getAllData payload = visit.call := by
  have called : visit.call ∈ Senders.calls visit.thread trace := by
    unfold Senders.calls
    exact List.mem_map_of_mem (List.mem_filter.mpr ⟨member, by simp⟩)
  have inProgram : visit.call ∈ frames payloads visit.thread :=
    (Senders.calls_prefix visit.thread ran).subset called
  exact List.mem_map.mp inProgram

/-- Any number of threads send frames on one socket, in any interleaving of their steps,
and no call has failed or is under way.  What is received at the other end, from any
segmentation, is each frame once, in the order in which the calls got the lock; and those
of one thread are in the order of its program. -/
theorem concurrent_frames_arrive (ready : receiver.Readable)
    (present : receiver.frameFormat ≠ []) (silent : Silent receiver.frameFormat)
    (fits : ∀ i, ∀ payload ∈ payloads i,
      Sendable payload ∧ List.Forall₂ Copy payload receiver.frameFormat)
    (ran : (Senders.of socket (frames payloads)).run actions = some (later, trace))
    (served : ∀ visit ∈ visits trace, visit.result = some 0) (chunks : .failed ∉ w.reads)
    (stream : receiver.toSocket.stream w = later.wire ++ tail) :
    ∃ receptions, receiver.receiveFrames w (visits trace).length = some receptions ∧
      List.Forall₂ (fun visit r => r.code = 0 ∧ r.sock.data = visit.call)
        (visits trace) receptions ∧
      (∀ last ∈ receptions.getLast?, last.sock.toSocket.stream last.wire = tail) ∧
      ∀ i, Senders.calls i trace <+: frames payloads i := by
  have exclusive := Senders.Exclusive.of socket (frames payloads)
  obtain ⟨orderly, wire⟩ := exclusive.orderly ran
  have whole : ∀ visit ∈ visits trace, visit.output = visit.call := by
    intro visit member
    have contributes := exclusive.contributes ran visit member
    rw [Senders.Contributes, served visit member] at contributes
    rcases contributes with ⟨-, all⟩ | ⟨other, -⟩ | ⟨other, -⟩
    · exact all
    · contradiction
    · contradiction
  have chosen : ∀ visit ∈ visits trace, ∃ message : Message F,
      message.bytes = visit.output ∧ message.frame = visit.call ∧
        message.Fits receiver.frameFormat := by
    intro visit member
    obtain ⟨payload, among, frame⟩ := visit_payload ran member
    have content : payload.flatMap getData = visit.call := by
      rw [← LawfulDataFrame.getAllData_eq]
      exact frame
    obtain ⟨sendable, alike⟩ := fits visit.thread payload among
    refine ⟨⟨[], payload⟩, ?_, content, sendable, alike, Leads.nil⟩
    rw [whole visit member]
    exact content
  obtain ⟨messages, matching⟩ := exists_forall₂ chosen
  have bytes : (visits trace).flatMap Visit.output = messages.flatMap Message.bytes :=
    flatMap_eq_of_forall₂ matching fun same => same.1.symm
  have fitting : ∀ message ∈ messages, message.Fits receiver.frameFormat :=
    forall_mem_of_forall₂ matching fun same => same.2.2
  have onWire : later.wire = written trace := wire
  rw [onWire, orderly.written_visits, bytes] at stream
  obtain ⟨receptions, receives, arrived, left⟩ :=
    receiveFrames_received ready present silent fitting chunks stream
  rw [← matching.length_eq] at receives
  exact ⟨receptions, receives,
    forall₂_comp matching arrived fun same got => ⟨got.1, got.2.1.trans same.2.1⟩, left,
    fun i => Senders.calls_prefix i ran⟩

/-- One thread sends a payload and then the other, a second thread sends the other. -/
def bothPayloads : Bool → List (List Element)
  | true => [samplePayload, otherPayload]
  | false => [otherPayload]

/-- What is left over fits the first frame of the wire: two bytes of it. -/
def earlyReceiver : SynapSock Element := sample sampleReceiver.frameFormat [1, 2]

def threadsWire : Wire where
  polls := []
  reads := [.chunk (.of 4 [4, 4, 4, 1, 2, 7]), .chunk (.of 8 [4, 5, 4, 4])]
  stray := 0

theorem concurrent_frames_arrive_two :
    ∃ later trace, (Senders.of { Socket.new with sockFd := 5 } (frames bothPayloads)).run
        [.lock false, .write false 5, .write false 1, .unlock false, .lock true, .write true 8,
          .unlock true] = some (later, trace) ∧
      ∃ receptions, earlyReceiver.receiveFrames threadsWire (visits trace).length =
          some receptions ∧
        List.Forall₂ (fun visit r => r.code = 0 ∧ r.sock.data = visit.call)
          (visits trace) receptions ∧
        (∀ last ∈ receptions.getLast?, last.sock.toSocket.stream last.wire = []) ∧
        ∀ i, Senders.calls i trace <+: frames bothPayloads i := by
  have result : ((Senders.of { Socket.new with sockFd := 5 } (frames bothPayloads)).run
      [.lock false, .write false 5, .write false 1, .unlock false, .lock true, .write true 8,
        .unlock true]).map (fun ran => (ran.1.wire, (visits ran.2).map Visit.result)) =
      some ([1, 2, 4, 4, 4, 4, 1, 2, 7, 8, 4, 5, 4, 4], [some 0, some 0]) := by
    decide +kernel
  obtain ⟨⟨later, trace⟩, ran, values⟩ := Option.map_eq_some_iff.mp result
  obtain ⟨wire, results⟩ := Prod.mk.inj values
  have served : ∀ visit ∈ visits trace, visit.result = some 0 := by
    intro visit member
    have among : visit.result ∈ (visits trace).map Visit.result := List.mem_map_of_mem member
    rw [results] at among
    simpa using among
  have fits : ∀ i, ∀ payload ∈ bothPayloads i,
      Sendable payload ∧ List.Forall₂ Copy payload earlyReceiver.frameFormat := by
    intro i payload member
    apply payload_alike
    cases i with
    | true => exact member
    | false => exact List.mem_cons_of_mem _ member
  refine ⟨later, trace, ran, ?_⟩
  exact @concurrent_frames_arrive Element _ _ earlyReceiver threadsWire [] Bool _ _ bothPayloads
    _ later trace (sample_readable _ _) (by decide) (silent_of_no_functions (by decide)) fits ran
    served (by decide) (by rw [wire]; decide)

end SynapSock

end SynapTCP
