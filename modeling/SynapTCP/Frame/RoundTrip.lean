import SynapTCP.Frame.Delivery
import SynapTCP.Socket.Send

namespace SynapTCP

open Data DataFrame

/-! # Framed send and framed receive

What `sendFramedData` puts on the wire, `receiveFramedData` takes from it again
with a copy of the format.
-/

namespace SynapSock

variable {F : Type} [DataFrame F]

def sendFramedData (sock : SynapSock F) (writes : List Nat) : Sending :=
  let buffer := getAllData sock.frameFormat
  if 0 < buffer.length then sock.toSocket.sendData buffer writes else ⟨3, []⟩

end SynapSock

section

variable {F : Type} [DataFrame F]

/-- Formats with a payload that can be told apart again: every marker has a
reference, a fixed field holds as many bytes as its size, and a variable field is
in front of a stop marker that its content does not bring about earlier. -/
inductive Sendable : List F → Prop where
  | nil : Sendable []
  | marker {f : F} {rest : List F} (marker : (getType f).isMarker = true)
      (nonempty : getReference f ≠ []) (more : Sendable rest) : Sendable (f :: rest)
  | fixed {f : F} {rest : List F} (field : (getType f).isField = true) (sized : 0 < getSize f)
      (width : (getData f).length = getSize f) (more : Sendable rest) : Sendable (f :: rest)
  | free {f next : F} {rest : List F} (field : (getType f).isField = true)
      (free : getSize f = 0) (marker : getType next = .stopBytes)
      (nonempty : getReference next ≠ [])
      (leftmost : LeftmostAt (getReference next) (getData f ++ getReference next)
        (getData f).length)
      (more : Sendable rest) : Sendable (f :: next :: rest)

/-- The same element with other bytes in it. -/
structure Copy (original copy : F) : Prop where
  type : getType copy = getType original
  size : getSize copy = getSize original
  reference : getReference copy = getReference original

/-- `lead` comes before the frame: nothing, or bytes that a start marker skips. -/
def Leads (format : List F) (lead : Bytes) : Prop :=
  lead ≠ [] → ∃ f, format.head? = some f ∧ getType f = .startBytes ∧
    LeftmostAt (getReference f) (lead ++ getReference f) lead.length

variable {f : F} {format rest : List F} {lead : Bytes}

theorem Leads.nil : Leads format [] := fun some => absurd rfl some

theorem Leads.of_field (leads : Leads (f :: rest) lead) (field : (getType f).isField = true) :
    lead = [] := by
  by_contra some
  obtain ⟨g, head, type, -⟩ := leads some
  have same : f = g := by simpa using head
  rw [same, type] at field
  contradiction

theorem Leads.of_stop (leads : Leads (f :: rest) lead) (stop : getType f = .stopBytes) :
    lead = [] := by
  by_contra some
  obtain ⟨g, head, type, -⟩ := leads some
  have same : f = g := by simpa using head
  rw [same, type] at stop
  contradiction

theorem Leads.leftmost {tail : Bytes} (leads : Leads (f :: rest) lead) :
    LeftmostAt (getReference f) (lead ++ getReference f ++ tail) lead.length := by
  by_cases none : lead = []
  · rw [none, List.nil_append]
    exact leftmostAt_zero_of_prefix (List.prefix_append _ _)
  · obtain ⟨g, head, -, leftmost⟩ := leads none
    have same : f = g := by simpa using head
    rw [same]
    exact leftmost.append (by rw [List.length_append])

theorem flatMap_getData_eq {sent filled : List F}
    (holds : List.Forall₂ (fun original copy => getData copy = getData original) sent filled) :
    filled.flatMap getData = sent.flatMap getData := by
  induction holds with
  | nil => rfl
  | cons same _ ih => rw [List.flatMap_cons, List.flatMap_cons, same, ih]

end

namespace Framing

variable {F : Type} [DataFrame F]

/-- The loop runs through from `framing`, fills the elements behind `front` with
what those of `sent` hold, and leaves `tail`. -/
def Delivers (framing : Framing F) (front sent : List F) (tail : Bytes) : Prop :=
  ∃ last filled, framing.frameLoop = (0, last) ∧
    last.sock.frameFormat = front ++ filled ∧
    List.Forall₂ (fun original copy => getData copy = getData original) sent filled ∧
    last.stream = tail

theorem Delivers.onward {framing later : Framing F} {front received done sent : List F}
    {tail : Bytes} (onward : framing.Onward later)
    (held : List.Forall₂ (fun original copy => getData copy = getData original) received done)
    (rest : later.Delivers (front ++ done) sent tail) :
    framing.Delivers front (received ++ sent) tail := by
  obtain ⟨last, filled, ended, filledFormat, holds, surplus⟩ := rest
  refine ⟨last, done ++ filled, ?_, ?_, List.rel_append held holds, surplus⟩
  · have same := Reaches.frameLoop_eq (.single onward)
    rw [← same, ended]
  · rw [filledFormat, List.append_assoc]

theorem Handed.rest {framing later : Framing F} {before after : Bytes} {more position : Nat}
    {format : List F}
    (handed : Handed framing later (before.length + more) before.length position format)
    (stream : framing.stream = before ++ after) :
    later.stream = [] ++ after ∧ Fluent later (([] : Bytes).length + more) := by
  constructor
  · rw [handed.stream, stream, List.drop_left, List.nil_append]
  · have left := handed.fluent
    rw [Nat.add_sub_cancel_left] at left
    rw [List.length_nil, Nat.zero_add]
    exact left

/-- A marker with a reference is passed behind `lead` and itself. -/
theorem pass_marker {framing : Framing F} {f copy : F} {rest : List F} {lead tail : Bytes}
    {count : Nat} (fluent : Fluent framing count)
    (here : framing.sock.frameFormat[framing.tmp]? = some copy) (same : Copy f copy)
    (marker : (getType f).isMarker = true) (nonempty : getReference f ≠ [])
    (leads : Leads (f :: rest) lead) (stream : framing.stream = lead ++ getReference f ++ tail)
    (within : lead.length + (getReference f).length ≤ count) :
    ∃ later, framing.pass = .onward later ∧ Handed framing later count
      (lead.length + (getReference f).length) (framing.tmp + 1) framing.sock.frameFormat := by
  have reference := same.reference
  rw [← reference] at nonempty within stream ⊢
  cases type : getType f with
  | startBytes =>
      have leftmost : LeftmostAt (getReference copy) framing.stream lead.length := by
        rw [stream, reference]
        exact leads.leftmost
      exact pass_start fluent here (by rw [same.type, type]) nonempty leftmost within
  | stopBytes =>
      have none := leads.of_stop type
      subst none
      have front : framing.stream.take (getReference copy).length = getReference copy := by
        rw [stream, List.nil_append, List.take_left]
      have handed := pass_stop fluent here (by rw [same.type, type]) nonempty front
        (by simpa using within)
      simpa using handed
  | contentLength | data | validator | command | other =>
      rw [type] at marker
      contradiction

/-- The elements behind `front` are copies of `sent`, and the stream starts with
what those hold. -/
structure Ahead (framing : Framing F) (front sent copies : List F) (lead tail : Bytes) : Prop where
  format : framing.sock.frameFormat = front ++ copies
  position : framing.tmp = front.length
  alike : List.Forall₂ Copy sent copies
  leads : Leads sent lead
  stream : framing.stream = lead ++ (sent.flatMap getData ++ tail)
  fluent : Fluent framing (lead.length + (sent.flatMap getData).length)

/-- A pass that fills the elements of `done` with what those of `received` hold. -/
def Fills (framing : Framing F) (front received rest : List F) (tail : Bytes) : Prop :=
  ∃ later done others, framing.Onward later ∧
    List.Forall₂ (fun original copy => getData copy = getData original) received done ∧
    Ahead later (front ++ done) rest others [] tail

namespace Ahead

variable {framing later : Framing F} {front sent rest copies others done format : List F}
  {f next copy : F} {lead before tail : Bytes}

theorem here (ahead : Ahead framing front rest (copy :: others) lead tail) :
    framing.sock.frameFormat[framing.tmp]? = some copy := by
  rw [ahead.format, ahead.position]
  simp

theorem of_handed (ahead : Ahead framing front sent copies lead tail)
    (handed : Handed framing later (before.length + (rest.flatMap getData).length) before.length
      (framing.tmp + done.length) format)
    (filled : format = (front ++ done) ++ others) (alike : List.Forall₂ Copy rest others)
    (stream : framing.stream = before ++ (rest.flatMap getData ++ tail)) :
    Ahead later (front ++ done) rest others [] tail := by
  obtain ⟨laterStream, laterFluent⟩ := handed.rest stream
  exact {
    format := handed.format.trans filled
    position := by rw [handed.position, ahead.position, List.length_append]
    alike := alike
    leads := Leads.nil
    stream := laterStream
    fluent := laterFluent }

variable [LawfulDataFrame F]

theorem marker (ahead : Ahead framing front (f :: rest) copies lead tail)
    (marker : (getType f).isMarker = true) (nonempty : getReference f ≠ []) :
    framing.Fills front [f] rest tail := by
  have alike := ahead.alike
  cases alike with
  | @cons _ copy _ others same alike =>
      have here := ahead.here
      have content : getData f = getReference f := LawfulDataFrame.getData_marker f marker
      have copied : getData copy = getData f := by
        rw [content, ← same.reference]
        exact LawfulDataFrame.getData_marker copy (by rw [same.type]; exact marker)
      have stream := ahead.stream
      have fluent := ahead.fluent
      rw [List.flatMap_cons, content, List.append_assoc, ← List.append_assoc lead] at stream
      rw [List.flatMap_cons, content, List.length_append, ← Nat.add_assoc] at fluent
      obtain ⟨later, passed, handed⟩ := pass_marker fluent here same marker nonempty ahead.leads
        stream (Nat.le_add_right _ _)
      rw [← List.length_append] at handed
      refine ⟨later, [copy], others, ⟨(List.getElem?_eq_some_iff.mp here).1, passed⟩,
        .cons copied .nil, ahead.of_handed handed ?_ alike stream⟩
      rw [ahead.format, List.append_assoc]
      rfl

theorem fixed (ahead : Ahead framing front (f :: rest) copies lead tail)
    (field : (getType f).isField = true) (sized : 0 < getSize f)
    (width : (getData f).length = getSize f) : framing.Fills front [f] rest tail := by
  have alike := ahead.alike
  cases alike with
  | @cons _ copy _ others same alike =>
      have here := ahead.here
      have none := ahead.leads.of_field field
      subst none
      have stream := ahead.stream
      have fluent := ahead.fluent
      rw [List.nil_append, List.flatMap_cons, List.append_assoc] at stream
      rw [List.flatMap_cons, List.length_append, List.length_nil, Nat.zero_add] at fluent
      have fits : getSize copy = (getData f).length := by rw [same.size, width]
      have enough : getSize copy ≤ framing.stream.length := by
        rw [fits, stream, List.length_append]
        exact Nat.le_add_right _ _
      have content : framing.stream.take (getSize copy) = getData f := by
        rw [fits, stream, List.take_left]
      have copyField : (getType copy).isField = true := by
        rw [same.type]
        exact field
      obtain ⟨later, passed, handed⟩ := pass_fixed fluent here copyField
        (by rw [same.size]; exact sized) (by rw [fits]; exact Nat.le_add_right _ _) enough
      rw [fits] at handed
      have filled := LawfulDataFrame.getData_setData copy (getData f) copyField
      refine ⟨later, [setData copy (getData f)], others,
        ⟨(List.getElem?_eq_some_iff.mp here).1, passed⟩, .cons filled .nil,
        ahead.of_handed handed ?_ alike stream⟩
      rw [← fits, content, ahead.format, ahead.position, modify_append, List.append_assoc]
      rfl

theorem free (ahead : Ahead framing front (f :: next :: rest) copies lead tail)
    (field : (getType f).isField = true) (free : getSize f = 0)
    (marker : getType next = .stopBytes) (nonempty : getReference next ≠ [])
    (leftmost : LeftmostAt (getReference next) (getData f ++ getReference next)
      (getData f).length) : framing.Fills front [f, next] rest tail := by
  have alike := ahead.alike
  cases alike with
  | @cons _ copy _ others same alike =>
  cases alike with
  | @cons _ copyNext _ others sameNext alike =>
      have here := ahead.here
      have behind : framing.sock.frameFormat[framing.tmp + 1]? = some copyNext := by
        rw [ahead.format, ahead.position]
        simp
      have none := ahead.leads.of_field field
      subst none
      have reference := sameNext.reference
      have stopMarker : (getType next).isMarker = true := by
        rw [marker]
        rfl
      have stop : getData next = getReference next :=
        LawfulDataFrame.getData_marker next stopMarker
      have copied : getData copyNext = getData next := by
        rw [stop, ← reference]
        exact LawfulDataFrame.getData_marker copyNext (by rw [sameNext.type]; exact stopMarker)
      have stream := ahead.stream
      have fluent := ahead.fluent
      rw [List.nil_append, List.flatMap_cons, List.flatMap_cons, stop, List.append_assoc,
        List.append_assoc, ← List.append_assoc (getData f)] at stream
      rw [List.flatMap_cons, List.flatMap_cons, stop, List.length_append, List.length_append,
        List.length_nil, Nat.zero_add, ← Nat.add_assoc] at fluent
      have found : LeftmostAt (getReference copyNext) framing.stream (getData f).length := by
        rw [stream, reference]
        exact leftmost.append (by rw [List.length_append])
      have content : framing.stream.take (getData f).length = getData f := by
        rw [stream, List.append_assoc, List.take_left]
      have copyField : (getType copy).isField = true := by
        rw [same.type]
        exact field
      obtain ⟨later, passed, handed⟩ := pass_free fluent here copyField
        (by rw [same.size, free]) behind (by rw [sameNext.type, marker])
        (by rw [reference]; exact nonempty) found
        (by rw [reference]; exact Nat.le_add_right _ _)
      rw [reference, ← List.length_append] at handed
      have filled := LawfulDataFrame.getData_setData copy (getData f) copyField
      refine ⟨later, [setData copy (getData f), copyNext], others,
        ⟨(List.getElem?_eq_some_iff.mp here).1, passed⟩, .cons filled (.cons copied .nil),
        ahead.of_handed handed ?_ alike stream⟩
      rw [ahead.format, ahead.position, modify_append, content, List.append_assoc]
      rfl

omit [LawfulDataFrame F] in
theorem delivered (ahead : Ahead framing front [] copies lead tail) :
    framing.Delivers front [] tail := by
  have alike := ahead.alike
  cases alike
  have none : lead = [] := by
    by_contra some
    obtain ⟨f, head, -⟩ := ahead.leads some
    simp at head
  refine ⟨framing, [], ?_, ahead.format, .nil, ?_⟩
  · rw [frameLoop, dif_neg]
    rw [ahead.format, ahead.position]
    simp
  · rw [ahead.stream, none]
    rfl

end Ahead

theorem Fills.delivers {framing : Framing F} {front received rest : List F} {tail : Bytes}
    (fills : framing.Fills front received rest tail)
    (delivers : ∀ later front copies, Ahead later front rest copies [] tail →
      later.Delivers front rest tail) : framing.Delivers front (received ++ rest) tail := by
  obtain ⟨later, done, others, onward, held, ahead⟩ := fills
  exact Delivers.onward onward held (delivers later _ others ahead)

/-- From a framing whose elements to come are copies of `sent`, on a stream that
starts with what they hold, the loop delivers. -/
theorem frameLoop_delivers [LawfulDataFrame F] {sent : List F} (sendable : Sendable sent)
    {framing : Framing F} {front copies : List F} {lead tail : Bytes}
    (ahead : Ahead framing front sent copies lead tail) : framing.Delivers front sent tail := by
  induction sendable generalizing framing front copies lead with
  | nil => exact ahead.delivered
  | marker marker nonempty _ ih =>
      exact (ahead.marker marker nonempty).delivers fun _ _ _ rest => ih rest
  | fixed field sized width _ ih =>
      exact (ahead.fixed field sized width).delivers fun _ _ _ rest => ih rest
  | free field free marker nonempty leftmost _ ih =>
      exact (ahead.free field free marker nonempty leftmost).delivers fun _ _ _ rest => ih rest

end Framing

namespace SynapSock

variable {F : Type} [DataFrame F] [LawfulDataFrame F] {sender receiver : SynapSock F}
  {writes : List Nat} {w : Wire} {lead tail : Bytes}

theorem sendFramedData_all (sent : (sender.sendFramedData writes).code = 0) :
    (sender.sendFramedData writes).sent = sender.frameFormat.flatMap getData ∧
      sender.frameFormat ≠ [] := by
  have whole := LawfulDataFrame.getAllData_eq sender.frameFormat
  unfold sendFramedData at sent ⊢
  dsimp only at sent ⊢
  split at sent
  · rename_i some
    rw [if_pos some]
    refine ⟨(Socket.sendData_all sent).trans whole, ?_⟩
    intro none
    rw [whole, none] at some
    exact absurd some (Nat.lt_irrefl 0)
  · contradiction

/-- A frame sent with `sendFramedData` and received with a copy of its format. -/
theorem receiveFramedData_inverts (sendable : Sendable sender.frameFormat)
    (sent : (sender.sendFramedData writes).code = 0)
    (alike : List.Forall₂ Copy sender.frameFormat receiver.frameFormat)
    (silent : Silent receiver.frameFormat) (ready : receiver.Readable)
    (leads : Leads sender.frameFormat lead)
    (stream : receiver.toSocket.stream w = lead ++ (sender.sendFramedData writes).sent ++ tail)
    (supplied : Socket.Supplied (lead ++ (sender.sendFramedData writes).sent).length
      receiver.toSocket w) :
    ∃ r, receiver.receiveFramedData w = some r ∧ r.code = 0 ∧
      r.sock.data = (sender.sendFramedData writes).sent ∧
      List.Forall₂ (fun original copy => getData copy = getData original)
        sender.frameFormat r.sock.frameFormat ∧
      r.sock.remainingData ++ r.wire.unread = tail := by
  obtain ⟨whole, nonempty⟩ := sendFramedData_all sent
  rw [whole, List.append_assoc] at stream
  rw [whole, List.length_append] at supplied
  have fluent : (receiver.opening w).Fluent
      (lead.length + (sender.frameFormat.flatMap getData).length) :=
    ⟨⟨ready.opened, ready.connected⟩, silent, rfl, supplied⟩
  have delivers : (receiver.opening w).Delivers [] sender.frameFormat tail :=
    Framing.frameLoop_delivers sendable ⟨rfl, rfl, alike, leads, stream, fluent⟩
  obtain ⟨last, filled, ended, format, holds, surplus⟩ := delivers
  rw [List.nil_append] at format
  have some : receiver.frameFormat ≠ [] := by
    intro none
    rw [none] at alike
    exact nonempty (List.forall₂_nil_right_iff.mp alike)
  refine ⟨⟨0, { last.sock with data := getAllData last.sock.frameFormat }, last.wire⟩, ?_, rfl,
    ?_, ?_, surplus⟩
  · rw [receiveFramedData, if_neg some]
    simp only [ended, conclude, if_true]
  · show getAllData last.sock.frameFormat = _
    rw [whole, LawfulDataFrame.getAllData_eq, format, flatMap_getData_eq holds]
  · show List.Forall₂ _ _ last.sock.frameFormat
    rw [format]
    exact holds

def samplePayload : List Element := [.start [1, 2], .field 2 [7, 8], .field 0 [4, 5], .stop [4, 4]]

theorem samplePayload_sendable : Sendable samplePayload :=
  .marker rfl (by decide) (.fixed rfl (by decide) rfl
    (.free rfl rfl rfl (by decide) ⟨by decide, by decide⟩ .nil))

/-- The format of the payload with nothing in its fields, two stray bytes left over. -/
def sampleReceiver : SynapSock Element :=
  sample [.start [1, 2], .field 2 [], .field 0 [], .stop [4, 4]] [9, 1]

/-- The frame in three pieces, with one byte more. -/
def splitWire : Wire where
  polls := []
  reads := [.chunk (.of 1 [2, 7]), .chunk (.of 8 [4]),
    .chunk (.of 5 [4, 4, 6])]
  stray := 0

theorem receiveFramedData_inverts_split :
    ∃ r, sampleReceiver.receiveFramedData splitWire = some r ∧ r.code = 0 ∧
      r.sock.data = [1, 2, 7, 8, 4, 5, 4, 4] ∧
      List.Forall₂ (fun original copy => getData copy = getData original)
        samplePayload r.sock.frameFormat ∧
      r.sock.remainingData ++ r.wire.unread = [6] :=
  @receiveFramedData_inverts Element _ _ (sample samplePayload []) sampleReceiver [5, 3] splitWire
    [9, 1] [6] samplePayload_sendable (by decide)
    (.cons ⟨rfl, rfl, rfl⟩ (.cons ⟨rfl, rfl, rfl⟩ (.cons ⟨rfl, rfl, rfl⟩
      (.cons ⟨rfl, rfl, rfl⟩ .nil))))
    (silent_of_no_functions (by decide)) (sample_readable _ _)
    (fun _ => ⟨_, rfl, rfl, ⟨by decide, by decide⟩⟩)
    (by decide) (by decide)

end SynapSock

end SynapTCP
