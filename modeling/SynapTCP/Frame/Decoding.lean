import SynapTCP.Data.Pointwise
import SynapTCP.Frame.Callbacks
import SynapTCP.Frame.Decoder
import SynapTCP.Frame.Presence
import SynapTCP.Frame.Resync

namespace SynapTCP

open Data DataFrame

/-! # Framed receive as decoding

On a stream without a failing read, `receiveFramedData` does what the decoder of
its format does, whatever functions the elements have and however the stream is
cut.
-/

namespace Framing

variable {F : Type}

/-- The loop and the decoder at the same element, with the same bytes before them. -/
structure Follows (framing : Framing F) (decoding : Decoding F) : Prop where
  ready : framing.sock.Readable
  format : framing.sock.frameFormat = decoding.format
  valid : framing.sock.isFormatValid = decoding.valid
  position : framing.tmp = decoding.tmp
  data : framing.sock.data = decoding.data
  stream : framing.stream = decoding.rest
  supplied : Socket.Supplied decoding.rest.length framing.sock.toSocket framing.wire

/-- What a stop marker that is not there leaves of the stream. -/
structure Misses (last : Framing F) (decoding : Decoding F) : Prop where
  ready : last.sock.Readable
  format : last.sock.frameFormat = decoding.format
  position : last.tmp = decoding.tmp
  remaining : last.sock.remainingData = []
  stream : last.sock.data ++ last.wire.unread = decoding.rest
  supplied : decoding.rest.length ≤
    last.sock.data.length + (promptBytes last.wire.reads).length

namespace Follows

variable {framing : Framing F} {decoding later : Decoding F} {f next : F} {bytes : Bytes}
  {taken : Nat} {pattern : Bytes}

theorem execute (follows : framing.Follows decoding) (select : F → Option (Callback F)) :
    (framing.execute select).Follows (decoding.call select) := by
  have format := follows.format
  have position := follows.position
  cases selected : framing.sock.frameFormat[framing.tmp]?.bind select with
  | none =>
      have there : decoding.format[decoding.tmp]?.bind select = none := by
        rw [← format, ← position, selected]
      simp only [Framing.execute, Decoding.call, selected, there]
      exact follows
  | some callback =>
      have there : decoding.format[decoding.tmp]?.bind select = some callback := by
        rw [← format, ← position, selected]
      simp only [Framing.execute, Decoding.call, selected, there]
      exact {
        ready := ⟨follows.ready.opened, follows.ready.connected⟩
        format := by rw [format, position]
        valid := by rw [format, position, follows.valid]
        position := position
        data := follows.data
        stream := follows.stream
        supplied := follows.supplied }

theorem advance (follows : framing.Follows decoding) :
    framing.advance.Follows { decoding with tmp := decoding.tmp + 1, data := [] } where
  ready := ⟨follows.ready.opened, follows.ready.connected⟩
  format := follows.format
  valid := follows.valid
  position := congrArg (· + 1) follows.position
  data := rfl
  stream := follows.stream
  supplied := follows.supplied

/-- A receive operation that has taken the front of the stream. -/
theorem receive (follows : framing.Follows decoding) {reception : Reception}
    (same : framing.sock.SameSetup reception.socket) (data : reception.socket.data = bytes)
    (rest : reception.socket.stream reception.wire = framing.stream.drop taken)
    (left : Socket.Supplied (decoding.rest.length - taken) reception.socket reception.wire) :
    (framing.receive reception).Follows (decoding.drop bytes taken) where
  ready := by
    have ready := same.readable follows.ready
    exact ⟨ready.opened, ready.connected⟩
  format := follows.format
  valid := follows.valid
  position := follows.position
  data := data
  stream := by rw [Decoding.drop, ← follows.stream]; exact rest
  supplied := by rw [Decoding.drop, List.length_drop]; exact left

theorem receiveMarker_success (follows : framing.Follows decoding) {reception : Reception}
    (code : reception.code = 0) (same : framing.sock.SameSetup reception.socket)
    (data : reception.socket.data = bytes)
    (rest : reception.socket.stream reception.wire = framing.stream.drop taken)
    (left : Socket.Supplied (decoding.rest.length - taken) reception.socket reception.wire) :
    ∃ after, framing.receiveMarker reception = (0, after) ∧
      after.Follows (decoding.drop bytes taken) := by
  refine ⟨_, ?_, follows.receive same data rest left⟩
  rw [receiveMarker, if_neg (by simp [code])]

theorem takeStart (follows : framing.Follows decoding) (nonempty : pattern ≠ [])
    (took : decoding.takeStart pattern = .took later) :
    ∃ after, framing.receiveMarker
        (framing.sock.receiveStartBytes framing.wire pattern) = (0, after) ∧
      after.Follows later := by
  unfold Decoding.takeStart at took
  split at took
  · contradiction
  · rename_i index first
    cases took
    have leftmost := leftmostAt_of_firstOccurrence first
    have fits := leftmost.occurs.fits nonempty
    rw [← follows.stream] at leftmost
    obtain ⟨code, same, data, rest, left⟩ := Socket.receiveStartBytes_supplied follows.ready
      nonempty leftmost follows.supplied fits
    exact follows.receiveMarker_success code same data rest left

theorem takeStop (follows : framing.Follows decoding) (nonempty : pattern ≠ [])
    (took : decoding.takeStop pattern = .took later) :
    ∃ after, framing.receiveMarker
        (framing.sock.receiveStopBytes framing.wire pattern) = (0, after) ∧
      after.Follows later := by
  unfold Decoding.takeStop at took
  split at took
  · contradiction
  · rename_i enough
    split at took
    · rename_i front
      cases took
      rw [← follows.stream] at front
      obtain ⟨same, matched, -⟩ := Socket.receiveStopBytes_supplied follows.ready nonempty
        follows.supplied (Nat.le_of_not_lt enough)
      obtain ⟨code, data, rest, left⟩ := matched front
      exact follows.receiveMarker_success code same data rest left
    · contradiction

theorem missStop (follows : framing.Follows decoding) (nonempty : pattern ≠ [])
    (took : decoding.takeStop pattern = .differs) :
    ∃ last, framing.receiveMarker
        (framing.sock.receiveStopBytes framing.wire pattern) = (2, last) ∧
      last.Misses decoding := by
  unfold Decoding.takeStop at took
  split at took
  · contradiction
  · rename_i enough
    split at took
    · contradiction
    · rename_i other
      rw [← follows.stream] at other
      obtain ⟨same, -, missed⟩ := Socket.receiveStopBytes_supplied follows.ready nonempty
        follows.supplied (Nat.le_of_not_lt enough)
      obtain ⟨code, remaining, stream, supplied⟩ := missed other
      have ready := same.readable follows.ready
      refine ⟨framing.receive (framing.sock.receiveStopBytes framing.wire pattern), ?_,
        ⟨⟨ready.opened, ready.connected⟩, follows.format, follows.position, remaining, ?_,
          supplied⟩⟩
      · rw [receiveMarker, if_pos (by simp [code])]
      · rw [← follows.stream]
        exact stream

variable [DataFrame F]

theorem store (follows : framing.Follows decoding) (bytes : Bytes) :
    (framing.store bytes).Follows (decoding.store bytes) where
  ready := ⟨follows.ready.opened, follows.ready.connected⟩
  format := by
    rw [Framing.store, Decoding.store, ← follows.format, ← follows.position]
  valid := follows.valid
  position := follows.position
  data := follows.data
  stream := follows.stream
  supplied := follows.supplied

theorem toMarker (follows : framing.Follows decoding) :
    framing.toMarker.Follows decoding.toMarker := by
  have called := follows.execute getPostExecuteFunction
  have moved : Follows
      { framing.execute getPostExecuteFunction with
        tmp := (framing.execute getPostExecuteFunction).tmp + 1 }
      { decoding.call getPostExecuteFunction with
        tmp := (decoding.call getPostExecuteFunction).tmp + 1 } :=
    { called with position := congrArg (· + 1) called.position }
  exact moved.execute getExecuteFunction

theorem takeFixed (follows : framing.Follows decoding) {size : Nat} (sized : 0 < size)
    (took : decoding.takeFixed size = .took later) :
    ∃ after, framing.receiveFixed size = (0, after) ∧ after.Follows later := by
  unfold Decoding.takeFixed at took
  split at took
  · contradiction
  · rename_i enough
    cases took
    have within := Nat.le_of_not_lt enough
    obtain ⟨code, same, data, rest, left⟩ :=
      Socket.receiveNBytes_supplied follows.ready follows.supplied within
    have bytes : (framing.sock.stream framing.wire).take size = decoding.rest.take size :=
      congrArg (List.take size) follows.stream
    rw [bytes] at data
    have received := follows.receive same data rest left
    refine ⟨_, ?_, received.store (decoding.rest.take size)⟩
    have nonempty : 0 < (framing.receive
        (framing.sock.receiveNBytes framing.wire size)).sock.data.length := by
      rw [received.data, Decoding.drop, List.length_take]
      exact Nat.lt_min.mpr ⟨sized, Nat.lt_of_lt_of_le sized within⟩
    rw [receiveFixed, if_pos code, if_pos nonempty, received.data]
    rfl

theorem takeUntill [LawfulDataFrame F] (follows : framing.Follows decoding)
    (marker : getType next = .stopBytes) (nonempty : getReference next ≠ [])
    (took : decoding.takeUntill (getReference next) = .took later) :
    ∃ after, framing.receiveUntill next = (0, after) ∧ after.Follows later := by
  unfold Decoding.takeUntill at took
  split at took
  · contradiction
  · rename_i index first
    cases took
    have leftmost := leftmostAt_of_firstOccurrence first
    have fits := leftmost.occurs.fits nonempty
    have there : LeftmostAt (getReference next) framing.stream index := by
      rw [follows.stream]
      exact leftmost
    obtain ⟨code, same, data, rest, left⟩ := Socket.receiveUntillStopBytes_supplied
      follows.ready nonempty there follows.supplied fits
    have whole : (framing.sock.stream framing.wire).take (index + (getReference next).length) =
        decoding.rest.take (index + (getReference next).length) :=
      congrArg (List.take (index + (getReference next).length)) follows.stream
    rw [whole] at data
    have received := follows.receive same data rest left
    refine ⟨_, ?_, (received.store (decoding.rest.take index)).toMarker⟩
    have width : (framing.receive (framing.sock.receiveUntillStopBytes framing.wire
        (getReference next))).sock.data.length = index + (getReference next).length := by
      rw [received.data, Decoding.drop, List.length_take]
      exact Nat.min_eq_left fits
    have positive := List.length_pos_iff.mpr nonempty
    have size : getSize next = (getReference next).length :=
      LawfulDataFrame.getSize_marker next (by rw [marker]; rfl)
    have content : (framing.receive (framing.sock.receiveUntillStopBytes framing.wire
        (getReference next))).sock.data.take ((framing.receive
          (framing.sock.receiveUntillStopBytes framing.wire
            (getReference next))).sock.data.length - getSize next) =
        decoding.rest.take index := by
      rw [width, size, Nat.add_sub_cancel, received.data, Decoding.drop, List.take_take,
        Nat.min_eq_left (Nat.le_add_right _ _)]
    rw [receiveUntill, if_pos code, if_pos (by rw [width]; omega), content]

variable [LawfulDataFrame F]

/-- An element that the decoder takes is received. -/
theorem receiveElement (follows : framing.Follows decoding)
    (took : decoding.take f = .took later) :
    ∃ after, framing.receiveElement f = (0, after) ∧ after.Follows later := by
  unfold Decoding.take at took
  rw [Framing.receiveElement, follows.format, follows.position]
  split at took
  · rename_i start
    rw [if_pos start]
    exact follows.takeStart (List.length_pos_iff.mp start.2) took
  · rename_i notStart
    rw [if_neg notStart]
    split at took
    · rename_i stop
      rw [if_pos stop]
      exact follows.takeStop (List.length_pos_iff.mp stop.2) took
    · rename_i notStop
      rw [if_neg notStop]
      split at took
      · rename_i field
        rw [if_pos field]
        split at took
        · rename_i sized
          rw [if_pos sized]
          exact follows.takeFixed sized took
        · rename_i free
          rw [if_neg free]
          cases behind : decoding.format[decoding.tmp + 1]? with
          | none =>
              rw [behind] at took
              contradiction
          | some next =>
              rw [behind] at took
              dsimp only at took ⊢
              split at took
              · rename_i marker
                rw [if_pos marker]
                exact follows.takeUntill marker.1 (List.length_pos_iff.mp marker.2) took
              · contradiction
      · contradiction

omit [LawfulDataFrame F] in
theorem receiveElement_differs (follows : framing.Follows decoding)
    (took : decoding.take f = .differs) :
    getType f = .stopBytes ∧ ∃ last, framing.receiveElement f = (2, last) ∧
      last.Misses decoding := by
  unfold Decoding.take at took
  rw [Framing.receiveElement]
  split at took
  · rename_i start
    unfold Decoding.takeStart at took
    split at took <;> contradiction
  · rename_i notStart
    rw [if_neg notStart]
    split at took
    · rename_i stop
      rw [if_pos stop]
      exact ⟨stop.1, follows.missStop (List.length_pos_iff.mp stop.2) took⟩
    · unfold Decoding.takeFixed Decoding.takeUntill at took
      repeat' split at took
      all_goals contradiction

omit [LawfulDataFrame F] in
theorem receiveElement_unreadable (follows : framing.Follows decoding)
    (took : decoding.take f = .unreadable) : framing.receiveElement f = (4, framing) := by
  unfold Decoding.take at took
  rw [Framing.receiveElement, follows.format, follows.position]
  split at took
  · unfold Decoding.takeStart at took
    split at took <;> contradiction
  · rename_i notStart
    rw [if_neg notStart]
    split at took
    · unfold Decoding.takeStop at took
      repeat' split at took
      all_goals contradiction
    · rename_i notStop
      rw [if_neg notStop]
      split at took
      · rename_i field
        rw [if_pos field]
        split at took
        · unfold Decoding.takeFixed at took
          split at took <;> contradiction
        · rename_i free
          rw [if_neg free]
          cases behind : decoding.format[decoding.tmp + 1]? with
          | none => rfl
          | some next =>
              rw [behind] at took
              dsimp only at took ⊢
              split at took
              · unfold Decoding.takeUntill at took
                split at took <;> contradiction
              · rename_i other
                rw [if_neg other]
      · rename_i other
        rw [if_neg other]

end Follows

variable [DataFrame F] {framing : Framing F} {decoding later last : Decoding F}

theorem Follows.entered (follows : framing.Follows decoding) :
    framing.entered.Follows (decoding.call getExecuteFunction) :=
  follows.execute getExecuteFunction

theorem Follows.place (follows : framing.Follows decoding) :
    framing.entered.sock.frameFormat[framing.tmp]? =
      (decoding.call getExecuteFunction).format[(decoding.call getExecuteFunction).tmp]? := by
  rw [follows.entered.format, ← follows.entered.position, entered_tmp]

variable [LawfulDataFrame F]

/-- Where the decoder goes on, so does the loop. -/
theorem Follows.onward (follows : framing.Follows decoding)
    (passed : decoding.step = .onward later) :
    ∃ next, framing.pass = .onward next ∧ next.Follows later := by
  have entered := follows.entered
  have place := follows.place
  unfold Decoding.step at passed
  dsimp only at passed
  split at passed
  · contradiction
  · rename_i tmp here
    rw [here] at place
    split at passed
    · contradiction
    · contradiction
    · contradiction
    · rename_i taken took
      obtain ⟨after, received, afterFollows⟩ := entered.receiveElement took
      have called := afterFollows.execute getPostExecuteFunction
      split at passed
      · contradiction
      · rename_i valid
        cases passed
        refine ⟨_, ?_, called.advance⟩
        rw [← called.valid] at valid
        rw [pass_eq place, received, if_neg (by simp), if_neg valid]

/-- Where the decoder refuses what it has, the loop leaves with 4. -/
theorem Follows.refused (follows : framing.Follows decoding)
    (passed : decoding.step = .refused last) :
    ∃ left, framing.pass = .leave 4 left ∧ left.Follows last := by
  have entered := follows.entered
  have place := follows.place
  unfold Decoding.step at passed
  dsimp only at passed
  split at passed
  · rename_i absent
    rw [absent] at place
    cases passed
    refine ⟨_, ?_, entered⟩
    unfold pass
    rw [show framing.execute getExecuteFunction = framing.entered from rfl]
    simp only [entered_tmp, place]
  · rename_i tmp here
    rw [here] at place
    split at passed
    · contradiction
    · contradiction
    · rename_i took
      cases passed
      have received := entered.receiveElement_unreadable took
      refine ⟨_, ?_, entered⟩
      rw [pass_eq place, received, if_pos (by simp)]
    · rename_i taken took
      obtain ⟨after, received, afterFollows⟩ := entered.receiveElement took
      have called := afterFollows.execute getPostExecuteFunction
      split at passed
      · rename_i invalid
        cases passed
        refine ⟨_, ?_, called⟩
        rw [← called.valid] at invalid
        rw [pass_eq place, received, if_neg (by simp), if_pos invalid]
      · contradiction

omit [LawfulDataFrame F] in
/-- Where the decoder misses a stop marker, the loop leaves with 2 in front of it. -/
theorem Follows.missed (follows : framing.Follows decoding)
    (passed : decoding.step = .missed last) :
    ∃ left f, framing.pass = .leave 2 left ∧ left.Misses last ∧
      last.format[last.tmp]? = some f ∧ getType f = .stopBytes := by
  have entered := follows.entered
  have place := follows.place
  unfold Decoding.step at passed
  dsimp only at passed
  split at passed
  · contradiction
  · rename_i tmp here
    rw [here] at place
    split at passed
    · contradiction
    · rename_i took
      cases passed
      obtain ⟨stop, left, received, misses⟩ := entered.receiveElement_differs took
      refine ⟨left, tmp, ?_, misses, here, stop⟩
      rw [pass_eq place, received, if_pos (by simp)]
    · contradiction
    · split at passed <;> contradiction

/-- The loop ends as the decoder does: behind the last element, refused, or with a stop
marker missed. -/
inductive Ends (framing : Framing F) : Decoded F → Prop where
  | accepted {last : Framing F} {decoding : Decoding F} (ended : framing.frameLoop = (0, last))
      (follows : last.Follows decoding) :
      Ends framing ⟨0, getAllData decoding.format, decoding.format, decoding.rest⟩
  | refused {last : Framing F} {decoding : Decoding F} (ended : framing.frameLoop = (4, last))
      (follows : last.Follows decoding) (inside : decoding.tmp < decoding.format.length) :
      Ends framing decoding.refuse
  | missed {last : Framing F} {decoding : Decoding F} {f : F} {decoded : Decoded F}
      (ended : framing.frameLoop = (2, last)) (misses : last.Misses decoding)
      (here : decoding.format[decoding.tmp]? = some f) (stop : getType f = .stopBytes)
      (gives : decoding.giveUp = some decoded) : Ends framing decoded

omit [LawfulDataFrame F] in
theorem Ends.before {later : Framing F} {decoded : Decoded F} (onward : framing.Onward later)
    (ends : later.Ends decoded) : framing.Ends decoded := by
  have same := Reaches.frameLoop_eq (.single onward)
  cases ends with
  | accepted ended follows => exact .accepted (same.symm.trans ended) follows
  | refused ended follows inside => exact .refused (same.symm.trans ended) follows inside
  | missed ended misses here stop gives =>
      exact .missed (same.symm.trans ended) misses here stop gives

theorem Follows.run {decoded : Decoded F} (follows : framing.Follows decoding)
    (ran : decoding.run = some decoded) : framing.Ends decoded := by
  fun_induction Decoding.run decoding generalizing framing with
  | case1 decoding more starved => contradiction
  | case2 decoding more later passed ih =>
      obtain ⟨next, pass, nextFollows⟩ := follows.onward passed
      have inside : framing.tmp < framing.sock.frameFormat.length := by
        rw [follows.position, follows.format]
        exact more
      exact (ih nextFollows ran).before ⟨inside, pass⟩
  | case3 decoding more last passed =>
      obtain ⟨left, f, pass, misses, here, stop⟩ := follows.missed passed
      have inside : framing.tmp < framing.sock.frameFormat.length := by
        rw [follows.position, follows.format]
        exact more
      exact .missed (frameLoop_left inside pass) misses here stop ran
  | case4 decoding more last passed =>
      obtain ⟨left, pass, leftFollows⟩ := follows.refused passed
      have inside : framing.tmp < framing.sock.frameFormat.length := by
        rw [follows.position, follows.format]
        exact more
      cases ran
      exact .refused (frameLoop_left inside pass) leftFollows
        (Decoding.step_refused_inside more passed)
  | case5 decoding beyond =>
      cases ran
      refine .accepted ?_ follows
      rw [frameLoop, dif_neg]
      rw [follows.position, follows.format]
      exact beyond

end Framing

namespace SynapSock

variable {F : Type} [DataFrame F] [LawfulDataFrame F] {sock : SynapSock F} {w : Wire}

/-- A call that did what the decoder does: with the same code and data, the same bytes in
the elements, and the same bytes still to be received, none of them behind a failing
read. -/
structure Does (decoded : Decoded F) (r : FramedReception F) : Prop where
  code : r.code = decoded.code
  data : r.sock.data = decoded.data
  format : r.sock.frameFormat = decoded.format
  stream : r.sock.toSocket.stream r.wire = decoded.rest
  ready : r.sock.Readable
  supplied : Socket.Supplied decoded.rest.length r.sock.toSocket r.wire

omit [LawfulDataFrame F] in
/-- The buffers behind a missed stop marker. -/
theorem conclude_missed {last : Framing F} {decoding : Decoding F} {f : F} {decoded : Decoded F}
    (misses : last.Misses decoding) (here : decoding.format[decoding.tmp]? = some f)
    (stop : getType f = .stopBytes) (gives : decoding.giveUp = some decoded) :
    ∃ r, conclude 2 last = some r ∧ Does decoded r := by
  unfold Decoding.giveUp at gives
  split at gives
  · contradiction
  · rename_i behind
    split at gives
    · contradiction
    · rename_i first others kept
      cases gives
      refine ⟨⟨2, { last.sock with
        data := [first]
        remainingData := others ++ (last.sock.data ++ last.sock.remainingData) }, last.wire⟩, ?_,
        ⟨rfl, rfl, misses.format, ?_, ⟨misses.ready.opened, misses.ready.connected⟩, ?_⟩⟩
      · unfold conclude
        simp only [misses.format, misses.position, here, kept]
        rw [if_neg (by decide), if_pos ⟨by decide, behind, stop⟩]
      · show others ++ (last.sock.data ++ last.sock.remainingData) ++ last.wire.unread = _
        rw [misses.remaining, List.append_nil, List.append_assoc, misses.stream]
      · have supplied := misses.supplied
        unfold Socket.Supplied
        simp only [misses.remaining, List.append_nil, List.length_append]
        omega

omit [LawfulDataFrame F] in
theorem conclude_refused {last : Framing F} {decoding : Decoding F}
    (follows : last.Follows decoding) (inside : decoding.tmp < decoding.format.length) :
    ∃ r, conclude 4 last = some r ∧ Does decoding.refuse r := by
  have here := List.getElem?_eq_getElem inside
  refine ⟨⟨4, { last.sock with
    data := dataFail decoding.format decoding.tmp ++ last.sock.data }, last.wire⟩, ?_,
    ⟨rfl, ?_, follows.format, follows.stream, ⟨follows.ready.opened, follows.ready.connected⟩,
      follows.supplied⟩⟩
  · unfold conclude
    simp [follows.format, follows.position, here]
  · show dataFail decoding.format decoding.tmp ++ last.sock.data = _
    rw [follows.data]
    rfl

theorem receiveFramedData_decodes {decoded : Decoded F} (ready : sock.Readable)
    (present : sock.frameFormat ≠ [])
    (supplied : Socket.Supplied (sock.toSocket.stream w).length sock.toSocket w)
    (decodes : decode sock.frameFormat sock.data (sock.toSocket.stream w) = some decoded) :
    ∃ r, sock.receiveFramedData w = some r ∧ Does decoded r := by
  have follows : (sock.opening w).Follows
      ⟨sock.frameFormat, true, 0, sock.data, sock.toSocket.stream w⟩ :=
    ⟨⟨ready.opened, ready.connected⟩, rfl, rfl, rfl, rfl, rfl, supplied⟩
  have ends := follows.run decodes
  rw [receiveFramedData, if_neg present]
  cases ends with
  | @accepted last decoding ended follows =>
      rw [ended]
      refine ⟨_, conclude_success, ⟨rfl, ?_, follows.format, follows.stream,
        ⟨follows.ready.opened, follows.ready.connected⟩, follows.supplied⟩⟩
      show getAllData last.sock.frameFormat = _
      rw [follows.format]
  | refused ended follows inside =>
      rw [ended]
      exact conclude_refused follows inside
  | missed ended misses here stop gives =>
      rw [ended]
      exact conclude_missed misses here stop gives

omit [LawfulDataFrame F] in
theorem Does.next {decoded : Decoded F} {r : FramedReception F}
    (received : sock.receiveFramedData w = some r) (present : sock.frameFormat ≠ [])
    (does : Does decoded r) :
    r.sock.frameFormat ≠ [] ∧
      Socket.Supplied (r.sock.toSocket.stream r.wire).length r.sock.toSocket r.wire := by
  constructor
  · have length := receiveFramedData_length received
    intro empty
    rw [empty] at length
    exact present (List.length_eq_zero_iff.mp length.symm)
  · rw [does.stream]
    exact does.supplied

theorem receiveFrames_does {calls : Nat} {results : List (Decoded F)} (ready : sock.Readable)
    (present : sock.frameFormat ≠ [])
    (supplied : Socket.Supplied (sock.toSocket.stream w).length sock.toSocket w)
    (decoded : decodes sock.frameFormat sock.data (sock.toSocket.stream w) calls = some results) :
    ∃ receptions, sock.receiveFrames w calls = some receptions ∧
      List.Forall₂ Does results receptions := by
  induction calls generalizing sock w results with
  | zero =>
      cases decoded
      exact ⟨[], rfl, .nil⟩
  | succ calls ih =>
      obtain ⟨first, decodedFirst, more⟩ := Option.bind_eq_some_iff.mp decoded
      obtain ⟨others, decodedOthers, rfl⟩ := Option.map_eq_some_iff.mp more
      obtain ⟨r, received, does⟩ := receiveFramedData_decodes ready present supplied decodedFirst
      obtain ⟨presentNext, suppliedNext⟩ := does.next received present
      rw [← does.format, ← does.data, ← does.stream] at decodedOthers
      obtain ⟨receptions, receivedOthers, agree⟩ :=
        ih does.ready presentNext suppliedNext decodedOthers
      refine ⟨r :: receptions, ?_, .cons does agree⟩
      simp only [SynapSock.receiveFrames, received, Option.bind_some, receivedOthers,
        Option.map_some]

/-- One call after another on a stream without a failing read gives what the decoder of
the format gives, whatever the functions of the elements do and however the stream is
cut. -/
theorem receiveFrames_refines_decodes (ready : sock.Readable) (present : sock.frameFormat ≠ [])
    (chunks : .failed ∉ w.reads) {calls : Nat} {results : List (Decoded F)}
    (decoded : decodes sock.frameFormat sock.data (sock.toSocket.stream w) calls = some results) :
    ∃ receptions, sock.receiveFrames w calls = some receptions ∧
      List.Forall₂ Does results receptions :=
  receiveFrames_does ready present (Socket.supplied_of_chunks chunks) decoded

/-- Two calls with the same outcome. -/
structure Alike (r other : FramedReception F) : Prop where
  code : other.code = r.code
  data : other.sock.data = r.sock.data
  format : other.sock.frameFormat = r.sock.frameFormat
  stream : other.sock.toSocket.stream other.wire = r.sock.toSocket.stream r.wire

/-- The same bytes cut in any two ways, some of them left over from before or none, with
any two settings of the sockets: as far as the decoder gets, call after call has the same
outcome. -/
theorem receiveFrames_unsegmented {other : SynapSock F} {v : Wire} (ready : sock.Readable)
    (readyOther : other.Readable) (present : sock.frameFormat ≠ [])
    (format : other.frameFormat = sock.frameFormat) (data : other.data = sock.data)
    (stream : other.toSocket.stream v = sock.toSocket.stream w) (chunks : .failed ∉ w.reads)
    (chunksOther : .failed ∉ v.reads) {calls : Nat}
    (enough : (decodes sock.frameFormat sock.data (sock.toSocket.stream w) calls).isSome) :
    ∃ receptions others, sock.receiveFrames w calls = some receptions ∧
      other.receiveFrames v calls = some others ∧ List.Forall₂ Alike receptions others := by
  obtain ⟨results, decoded⟩ := Option.isSome_iff_exists.mp enough
  obtain ⟨receptions, received, does⟩ :=
    receiveFrames_does ready present (Socket.supplied_of_chunks chunks) decoded
  rw [← format, ← data, ← stream] at decoded
  rw [← format] at present
  obtain ⟨others, receivedOthers, doesOther⟩ :=
    receiveFrames_does readyOther present (Socket.supplied_of_chunks chunksOther) decoded
  refine ⟨receptions, others, received, receivedOthers,
    forall₂_comp does.flip doesOther fun first second => ⟨?_, ?_, ?_, ?_⟩⟩
  · rw [first.code, second.code]
  · rw [first.data, second.data]
  · rw [first.format, second.format]
  · rw [first.stream, second.stream]

/-- Stray bytes and two frames whose field is refused. -/
def refusedWire : Wire where
  polls := []
  reads := [.chunk (.of 9 [2, 7]), .chunk (.of 8 [2]), .chunk (.of 5 [6, 3])]
  stray := 0

theorem receiveFrames_refines_decodes_refused :
    ∃ receptions, (sample refusedFormat []).receiveFrames refusedWire 2 = some receptions ∧
      List.Forall₂ Does
        [⟨4, [2, 7, 8], [.start [2], ⟨.data, 2, [], [7, 8], true⟩, .stop [3]], [2, 5, 6, 3]⟩,
          ⟨4, [2, 5, 6], [.start [2], ⟨.data, 2, [], [5, 6], true⟩, .stop [3]], [3]⟩]
        receptions :=
  receiveFrames_refines_decodes (sample_readable _ _) (by decide) (by decide)
    (by decide +kernel)

/-- The same bytes at once, the first of them left over. -/
def wholeRefusedWire : Wire where
  polls := []
  reads := [.chunk (.of 2 [7, 8, 2, 5, 6, 3])]
  stray := 0

theorem receiveFrames_unsegmented_refused :
    ∃ receptions others, (sample refusedFormat []).receiveFrames refusedWire 2 = some receptions ∧
      (sample refusedFormat [9]).receiveFrames wholeRefusedWire 2 = some others ∧
      List.Forall₂ Alike receptions others :=
  @receiveFrames_unsegmented Element _ _ (sample refusedFormat []) refusedWire
    (sample refusedFormat [9]) wholeRefusedWire (sample_readable _ _) (sample_readable _ _)
    (by decide) rfl rfl (by decide) (by decide) (by decide) 2 (by decide +kernel)

end SynapSock

end SynapTCP
