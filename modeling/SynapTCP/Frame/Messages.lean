import SynapTCP.Data.Pointwise
import SynapTCP.Frame.Decoding

namespace SynapTCP

open Data DataFrame

/-! # Messages in a stream

The decoder gives back what payloads make of a format's elements, message after
message, whatever comes behind them.
-/

section

variable {F : Type} [DataFrame F]

theorem Copy.refl (f : F) : Copy f f := ⟨rfl, rfl, rfl⟩

theorem Copy.trans {first second third : F} (left : Copy first second)
    (right : Copy second third) : Copy first third :=
  ⟨right.type.trans left.type, right.size.trans left.size,
    right.reference.trans left.reference⟩

end

namespace Decoding

variable {F : Type} [DataFrame F] {decoding later : Decoding F} {f : F}

theorem call_silent (silent : Silent decoding.format) :
    decoding.call getExecuteFunction = decoding ∧
      decoding.call getPostExecuteFunction = decoding := by
  have unchanged : ∀ select : F → Option (Callback F),
      (∀ f ∈ decoding.format, ∀ callback, select f = some callback →
        ∀ any index, callback.run any index = (any, false)) →
      decoding.call select = decoding := by
    intro select quiet
    unfold call
    split
    · rfl
    · rename_i callback selected
      obtain ⟨f, here, function⟩ := Option.bind_eq_some_iff.mp selected
      rw [quiet f (List.mem_of_getElem? here) callback function]
      simp
  constructor
  · exact unchanged _ fun f member callback function =>
      silent f member callback (.inl function)
  · exact unchanged _ fun f member callback function =>
      silent f member callback (.inr function)

/-- With functions that change nothing a step is its element. -/
theorem run_took_silent (silent : Silent decoding.format)
    (here : decoding.format[decoding.tmp]? = some f) (took : decoding.take f = .took later)
    (silentLater : Silent later.format) (valid : later.valid = true) :
    decoding.run = ({ later with tmp := later.tmp + 1, data := [] } : Decoding F).run :=
  run_took here (call_silent silent).1 took (call_silent silentLater).2 valid

/-- The elements behind `front` are copies of `sent`, and the stream starts with what
those hold. -/
structure Ahead (decoding : Decoding F) (front sent copies : List F) (lead tail : Bytes) :
    Prop where
  format : decoding.format = front ++ copies
  position : decoding.tmp = front.length
  alike : List.Forall₂ Copy sent copies
  leads : Leads sent lead
  rest : decoding.rest = lead ++ (sent.flatMap getData ++ tail)
  silent : Silent decoding.format
  valid : decoding.valid = true

/-- The decoder runs through and fills the elements behind `front` with what those of
`sent` hold; `tail` is left. -/
def Yields (decoding : Decoding F) (front sent copies : List F) (tail : Bytes) : Prop :=
  ∃ filled, decoding.run =
      some ⟨0, getAllData (front ++ filled), front ++ filled, tail⟩ ∧
    List.Forall₂ (fun original copy => getData copy = getData original) sent filled ∧
    List.Forall₂ Copy copies filled ∧ Silent (front ++ filled)

variable {front sent copies rest others : List F} {copy : F} {lead tail : Bytes}

theorem Yields.cons {done : F} (ran : decoding.run = later.run)
    (yields : later.Yields (front ++ [done]) rest others tail)
    (held : getData done = getData f) (same : Copy copy done) :
    decoding.Yields front (f :: rest) (copy :: others) tail := by
  obtain ⟨filled, run, holds, alike, silent⟩ := yields
  rw [List.append_assoc, List.singleton_append] at run silent
  exact ⟨done :: filled, ran.trans run, .cons held holds, .cons same alike, silent⟩

/-- Behind an element that is taken, and holds then what it should. -/
theorem Ahead.yields {done : F} (ahead : decoding.Ahead front (f :: rest) (copy :: others) lead tail)
    (took : decoding.take copy = .took later) (format : later.format = front ++ done :: others)
    (position : later.tmp = decoding.tmp) (valid : later.valid = decoding.valid)
    (left : later.rest = rest.flatMap getData ++ tail) (silent : Silent later.format)
    (held : getData done = getData f) (same : Copy copy done)
    (further : ∀ next : Decoding F, next.Ahead (front ++ [done]) rest others [] tail →
      next.Yields (front ++ [done]) rest others tail) :
    decoding.Yields front (f :: rest) (copy :: others) tail := by
  have here : decoding.format[decoding.tmp]? = some copy := by
    rw [ahead.format, ahead.position]
    simp
  refine Yields.cons (run_took_silent ahead.silent here took silent (valid.trans ahead.valid))
    (further _ ⟨?_, ?_, ?_, Leads.nil, left, silent, valid.trans ahead.valid⟩) held same
  · rw [List.append_assoc]
    exact format
  · rw [List.length_append, ← ahead.position, ← position]
    rfl
  · cases ahead.alike with
    | cons _ alike => exact alike

theorem Ahead.take_marker (ahead : decoding.Ahead front (f :: rest) (copy :: others) lead tail)
    (marker : (getType f).isMarker = true) (nonempty : getReference f ≠ [])
    (content : getData f = getReference f) :
    decoding.take copy = .took (decoding.drop (getReference f)
      (lead.length + (getReference f).length)) := by
  cases ahead.alike with
  | cons same _ =>
      have there := ahead.rest
      rw [List.flatMap_cons, content, List.append_assoc] at there
      have positive := List.length_pos_iff.mpr nonempty
      unfold take
      rw [same.type, same.reference]
      cases type : getType f with
      | startBytes =>
          have leftmost : LeftmostAt (getReference f) decoding.rest lead.length := by
            rw [there, ← List.append_assoc]
            exact ahead.leads.leftmost
          rw [if_pos ⟨rfl, positive⟩]
          unfold takeStart
          rw [firstOccurrence_of_leftmostAt nonempty leftmost]
      | stopBytes =>
          have none := ahead.leads.of_stop type
          subst none
          rw [List.nil_append] at there
          rw [if_neg (by simp), if_pos ⟨rfl, positive⟩]
          unfold takeStop
          rw [there, if_neg (by rw [List.length_append]; omega), if_pos List.take_left,
            List.length_nil, Nat.zero_add]
      | contentLength | data | validator | command | other =>
          rw [type] at marker
          contradiction

theorem take_of_sized (field : (getType f).isField = true) (sized : 0 < getSize f) :
    decoding.take f = decoding.takeFixed (getSize f) := by
  obtain ⟨notStart, notStop⟩ := Framing.not_marker_of_field field
  unfold take
  rw [if_neg (by simp [notStart]), if_neg (by simp [notStop]), if_pos field, if_pos sized]

theorem take_of_free {next : F} (field : (getType f).isField = true) (free : getSize f = 0)
    (behind : decoding.format[decoding.tmp + 1]? = some next) (marker : getType next = .stopBytes)
    (nonempty : getReference next ≠ []) :
    decoding.take f = decoding.takeUntill (getReference next) := by
  obtain ⟨notStart, notStop⟩ := Framing.not_marker_of_field field
  unfold take
  rw [if_neg (by simp [notStart]), if_neg (by simp [notStop]), if_pos field,
    if_neg (by rw [free]; exact Nat.lt_irrefl 0), behind]
  exact if_pos ⟨marker, List.length_pos_iff.mpr nonempty⟩

variable [LawfulDataFrame F]

theorem Ahead.marker (ahead : decoding.Ahead front (f :: rest) (copy :: others) lead tail)
    (marker : (getType f).isMarker = true) (nonempty : getReference f ≠ [])
    (further : ∀ next : Decoding F, next.Ahead (front ++ [copy]) rest others [] tail →
      next.Yields (front ++ [copy]) rest others tail) :
    decoding.Yields front (f :: rest) (copy :: others) tail := by
  have content : getData f = getReference f := LawfulDataFrame.getData_marker f marker
  have took := ahead.take_marker marker nonempty content
  have copied : getData copy = getData f := by
    cases ahead.alike with
    | cons same _ =>
        rw [content, ← same.reference]
        exact LawfulDataFrame.getData_marker copy (by rw [same.type]; exact marker)
  refine ahead.yields took ahead.format rfl rfl ?_ ahead.silent copied (Copy.refl copy) further
  show decoding.rest.drop (lead.length + (getReference f).length) = _
  rw [ahead.rest, List.flatMap_cons, content, List.append_assoc, ← List.append_assoc lead,
    ← List.length_append, List.drop_left]

theorem Ahead.fixed (ahead : decoding.Ahead front (f :: rest) (copy :: others) lead tail)
    (field : (getType f).isField = true) (sized : 0 < getSize f)
    (width : (getData f).length = getSize f)
    (further : ∀ next : Decoding F, next.Ahead (front ++ [setData copy (getData f)]) rest others
      [] tail → next.Yields (front ++ [setData copy (getData f)]) rest others tail) :
    decoding.Yields front (f :: rest) (copy :: others) tail := by
  have alike := ahead.alike
  have there := ahead.rest
  have none := ahead.leads.of_field field
  subst none
  rw [List.nil_append, List.flatMap_cons, List.append_assoc] at there
  cases alike with
  | cons same _ =>
      have copyField : (getType copy).isField = true := by
        rw [same.type]
        exact field
      have bytes : decoding.rest.take (getSize copy) = getData f := by
        rw [there, same.size, ← width, List.take_left]
      have took : decoding.take copy = .took ((decoding.drop (getData f) (getSize copy)).store
          (getData f)) := by
        rw [take_of_sized copyField (by rw [same.size]; exact sized), takeFixed, bytes, if_neg]
        rw [there, same.size, List.length_append, width]
        omega
      have format : ((decoding.drop (getData f) (getSize copy)).store (getData f)).format =
          front ++ setData copy (getData f) :: others := by
        rw [store, drop_format, drop_tmp, ahead.format, ahead.position, modify_append]
      refine ahead.yields took format rfl rfl ?_ (ahead.silent.modify _ _)
        (LawfulDataFrame.getData_setData copy (getData f) copyField)
        ⟨by simp, by simp, by simp⟩ further
      show decoding.rest.drop (getSize copy) = _
      rw [there, same.size, ← width, List.drop_left]

/-- A field of variable size is taken together with its stop marker. -/
theorem Ahead.free {next copyNext : F}
    (ahead : decoding.Ahead front (f :: next :: rest) (copy :: copyNext :: others) lead tail)
    (field : (getType f).isField = true) (free : getSize f = 0)
    (marker : getType next = .stopBytes) (nonempty : getReference next ≠ [])
    (leftmost : LeftmostAt (getReference next) (getData f ++ getReference next)
      (getData f).length)
    (further : ∀ later : Decoding F,
      later.Ahead (front ++ [setData copy (getData f), copyNext]) rest others [] tail →
      later.Yields (front ++ [setData copy (getData f), copyNext]) rest others tail) :
    decoding.Yields front (f :: next :: rest) (copy :: copyNext :: others) tail := by
  have alike := ahead.alike
  have there := ahead.rest
  have none := ahead.leads.of_field field
  subst none
  cases alike with
  | cons same alike =>
  cases alike with
  | cons sameNext alike =>
      have reference := sameNext.reference
      have stopMarker : (getType next).isMarker = true := by
        rw [marker]
        rfl
      have stop : getData next = getReference next :=
        LawfulDataFrame.getData_marker next stopMarker
      have copied : getData copyNext = getData next := by
        rw [stop, ← reference]
        exact LawfulDataFrame.getData_marker copyNext (by rw [sameNext.type]; exact stopMarker)
      rw [List.nil_append, List.flatMap_cons, List.flatMap_cons, stop, List.append_assoc,
        List.append_assoc, ← List.append_assoc (getData f)] at there
      have copyField : (getType copy).isField = true := by
        rw [same.type]
        exact field
      have here : decoding.format[decoding.tmp]? = some copy := by
        rw [ahead.format, ahead.position]
        simp
      have behind : decoding.format[decoding.tmp + 1]? = some copyNext := by
        rw [ahead.format, ahead.position]
        simp
      have found : firstOccurrence (getReference next) decoding.rest = some (getData f).length := by
        apply firstOccurrence_of_leftmostAt nonempty
        rw [there]
        exact leftmost.append (by rw [List.length_append])
      have whole : decoding.rest.drop ((getData f).length + (getReference next).length) =
          rest.flatMap getData ++ tail := by
        rw [there, ← List.length_append, List.drop_left]
      have content : decoding.rest.take (getData f).length = getData f := by
        rw [there, List.append_assoc, List.take_left]
      let bytes := decoding.rest.take ((getData f).length + (getReference next).length)
      let stored := (decoding.drop bytes
        ((getData f).length + (getReference next).length)).store (getData f)
      have format : stored.format = front ++ setData copy (getData f) :: copyNext :: others := by
        show decoding.format.modify decoding.tmp (setData · (getData f)) = _
        rw [ahead.format, ahead.position, modify_append]
      have silent : Silent stored.format := ahead.silent.modify _ _
      have crossed : stored.toMarker = { stored with tmp := decoding.tmp + 1 } := by
        unfold toMarker
        rw [(call_silent silent).2]
        exact (@call_silent F _ { stored with tmp := stored.tmp + 1 } silent).1
      have took : decoding.take copy = .took { stored with tmp := decoding.tmp + 1 } := by
        rw [take_of_free copyField (by rw [same.size, free]) behind
          (by rw [sameNext.type, marker]) (by rw [reference]; exact nonempty), takeUntill,
          reference, found]
        simp only [content]
        rw [← crossed]
      have ran := run_took_silent ahead.silent here took silent ahead.valid
      obtain ⟨filled, run, holds, copies, quiet⟩ := further
        { stored with tmp := decoding.tmp + 1 + 1, data := [] }
        ⟨by rw [List.append_assoc]; exact format, by rw [ahead.position, List.length_append]; rfl,
          alike, Leads.nil, whole, silent, ahead.valid⟩
      rw [List.append_assoc] at run quiet
      exact ⟨setData copy (getData f) :: copyNext :: filled, ran.trans run,
        .cons (LawfulDataFrame.getData_setData copy (getData f) copyField) (.cons copied holds),
        .cons ⟨by simp, by simp, by simp⟩ (.cons (Copy.refl copyNext) copies), quiet⟩

omit [LawfulDataFrame F] in
theorem Ahead.yields_nil (ahead : decoding.Ahead front [] copies lead tail) :
    decoding.Yields front [] copies tail := by
  have alike := ahead.alike
  cases alike
  have none : lead = [] := by
    by_contra some
    obtain ⟨f, head, -⟩ := ahead.leads some
    simp at head
  have beyond : ¬ decoding.tmp < decoding.format.length := by
    rw [ahead.format, ahead.position]
    simp
  refine ⟨[], ?_, .nil, .nil, ?_⟩
  · rw [run_beyond beyond, ahead.format, ahead.rest, none]
    rfl
  · rw [← ahead.format]
    exact ahead.silent

theorem run_sendable (sendable : Sendable sent)
    (ahead : decoding.Ahead front sent copies lead tail) :
    decoding.Yields front sent copies tail := by
  induction sendable generalizing decoding front copies lead with
  | nil => exact ahead.yields_nil
  | marker marker nonempty _ ih =>
      have alike := ahead.alike
      cases alike with
      | cons _ _ => exact ahead.marker marker nonempty fun _ rest => ih rest
  | fixed field sized width _ ih =>
      have alike := ahead.alike
      cases alike with
      | cons _ _ => exact ahead.fixed field sized width fun _ rest => ih rest
  | free field free marker nonempty leftmost _ ih =>
      have alike := ahead.alike
      cases alike with
      | cons _ alike =>
          cases alike with
          | cons _ _ =>
              exact ahead.free field free marker nonempty leftmost fun _ rest => ih rest

end Decoding

section

variable {F : Type} [DataFrame F]

/-- A payload, and bytes that come before it on the wire. -/
structure Message (F : Type) where
  lead : Bytes
  payload : List F

namespace Message

def frame (message : Message F) : Bytes := message.payload.flatMap getData

def bytes (message : Message F) : Bytes := message.lead ++ message.frame

/-- A payload for the format, behind bytes that a start marker skips. -/
structure Fits (format : List F) (message : Message F) : Prop where
  sendable : Sendable message.payload
  alike : List.Forall₂ Copy message.payload format
  leads : Leads message.payload message.lead

/-- The message and nothing else. -/
structure Received (message : Message F) (decoded : Decoded F) : Prop where
  code : decoded.code = 0
  data : decoded.data = message.frame
  holds : List.Forall₂ (fun original copy => getData copy = getData original)
    message.payload decoded.format

end Message

variable [LawfulDataFrame F] {format : List F} {message : Message F} {tail data : Bytes}

theorem decode_message (fits : message.Fits format) (silent : Silent format) :
    ∃ decoded, decode format data (message.bytes ++ tail) = some decoded ∧
      message.Received decoded ∧ decoded.rest = tail ∧
      List.Forall₂ Copy format decoded.format ∧ Silent decoded.format := by
  have ahead : Decoding.Ahead ⟨format, true, 0, data, message.bytes ++ tail⟩ [] message.payload
      format message.lead tail :=
    ⟨rfl, rfl, fits.alike, fits.leads, by rw [Message.bytes, List.append_assoc]; rfl, silent, rfl⟩
  obtain ⟨filled, run, holds, copies, quiet⟩ := Decoding.run_sendable fits.sendable ahead
  refine ⟨_, run, ⟨rfl, ?_, holds⟩, rfl, copies, quiet⟩
  show getAllData filled = _
  rw [LawfulDataFrame.getAllData_eq, flatMap_getData_eq holds]
  rfl

/-- The decoder gives the messages back, in their order, and leaves what comes behind
the last of them. -/
theorem decodes_messages {messages : List (Message F)}
    (fits : ∀ message ∈ messages, message.Fits format) (silent : Silent format) :
    ∃ results, decodes format data (messages.flatMap Message.bytes ++ tail) messages.length =
        some results ∧
      List.Forall₂ Message.Received messages results ∧
      ∀ last ∈ results.getLast?, last.rest = tail := by
  induction messages generalizing format data with
  | nil => exact ⟨[], rfl, .nil, by simp⟩
  | cons message messages ih =>
      rw [List.forall_mem_cons] at fits
      obtain ⟨fitsFirst, fitsOthers⟩ := fits
      obtain ⟨first, decoded, received, rest, copies, quiet⟩ :=
        @decode_message F _ _ format message (messages.flatMap Message.bytes ++ tail) data
          fitsFirst silent
      have fitsNext : ∀ other ∈ messages, other.Fits first.format := by
        intro other member
        have fit := fitsOthers other member
        exact ⟨fit.sendable, forall₂_comp fit.alike copies Copy.trans, fit.leads⟩
      obtain ⟨others, decodedOthers, receivedOthers, left⟩ := @ih first.format first.data fitsNext quiet
      rw [← rest] at decodedOthers
      refine ⟨first :: others, ?_, .cons received receivedOthers, ?_⟩
      · rw [List.flatMap_cons, List.append_assoc, List.length_cons, decodes, decoded]
        simp only [Option.bind_some, decodedOthers, Option.map_some]
      · intro last isLast
        cases others with
        | nil =>
            have same : last = first := by simpa using isLast.symm
            cases receivedOthers
            rw [same, rest]
            rfl
        | cons second others =>
            rw [List.getLast?_cons_cons] at isLast
            exact left last isLast

end

end SynapTCP
