import SynapTCP.Example.Recognition

namespace SynapTCP

open Data

/-! # Frames in a stream

What the recogniser tells of a stream, as a judgment on where frames stand in it; and
that a frame is found again behind noise.
-/

/-- What stands behind the first start mark. -/
inductive Recognises (stream : Bytes) : Recognised → Prop where
  | unknown {index : Nat} {command : UInt8} {behind : Bytes}
      (first : LeftmostAt startMark stream index)
      (there : stream.drop index = startMark ++ [command] ++ behind)
      (unknown : payloadSize command = none) :
      Recognises stream ⟨4, startMark ++ [command], behind⟩
  | mismatch {index : Nat} {command : UInt8} {payload check after : Bytes}
      (first : LeftmostAt startMark stream index)
      (there : stream.drop index = covered command payload ++ check ++ after)
      (known : payloadSize command = some payload.length) (width : check.length = 2)
      (wrong : check ≠ wordBytes (crc16Of (covered command payload))) :
      Recognises stream ⟨4, covered command payload ++ check, after⟩
  | accepted {index : Nat} {command : UInt8} {payload after : Bytes}
      (first : LeftmostAt startMark stream index)
      (there : stream.drop index = encode command payload ++ after)
      (known : payloadSize command = some payload.length) :
      Recognises stream ⟨0, encode command payload, after⟩
  | unstopped {index : Nat} {command : UInt8} {payload others : Bytes}
      (first : LeftmostAt startMark stream index)
      (there : stream.drop index =
        covered command payload ++ wordBytes (crc16Of (covered command payload)) ++ others)
      (known : payloadSize command = some payload.length) (enough : 4 ≤ others.length)
      (differs : others.take 4 ≠ stopMark) :
      Recognises stream ⟨2, [0x31], stream.drop (index + 1)⟩

variable {stream : Bytes} {r : Recognised} {index size : Nat} {command : UInt8}
  {payload behind others : Bytes}

theorem drop_startMark (first : LeftmostAt startMark stream index) :
    stream.drop index = startMark ++ stream.drop (index + 4) := by
  have mark := List.take_append_drop startMark.length (stream.drop index)
  rw [occursAt_iff_take.mp first.occurs, List.drop_drop] at mark
  exact mark.symm

theorem recognise_eq (first : LeftmostAt startMark stream index)
    (there : stream.drop index = startMark ++ command :: behind) :
    recognise stream = recogniseFrame (stream.drop (index + 1)) (command :: behind) := by
  rw [drop_startMark first] at there
  rw [recognise, firstOccurrence_of_leftmostAt (by decide) first, Option.bind_some,
    List.append_cancel_left there]

/-- The body of a frame, taken apart. -/
theorem recogniseBody_some (body : recogniseBody others command size behind = some r) :
    ∃ payload check after, behind = payload ++ check ++ after ∧ payload.length = size ∧
      check.length = 2 ∧
      (check ≠ wordBytes (crc16Of (covered command payload)) ∧
          r = ⟨4, covered command payload ++ check, after⟩ ∨
        check = wordBytes (crc16Of (covered command payload)) ∧ 4 ≤ after.length ∧
          (after.take 4 = stopMark ∧
              r = ⟨0, covered command payload ++ check ++ stopMark, after.drop 4⟩ ∨
            after.take 4 ≠ stopMark ∧ r = ⟨2, [0x31], others⟩)) := by
  unfold recogniseBody at body
  dsimp only at body
  split at body
  · contradiction
  · rename_i enough
    refine ⟨behind.take size, (behind.drop size).take 2, behind.drop (size + 2), ?_, ?_, ?_, ?_⟩
    · rw [List.append_assoc, ← List.drop_drop, List.take_append_drop, List.take_append_drop]
    · rw [List.length_take]
      omega
    · rw [List.length_take, List.length_drop]
      omega
    · split at body
      · rename_i wrong
        exact .inl ⟨wrong, (Option.some.inj body).symm⟩
      · rename_i right
        split at body
        · contradiction
        · rename_i long
          refine .inr ⟨not_not.mp right, Nat.le_of_not_lt long, ?_⟩
          split at body
          · rename_i same
            exact .inl ⟨same, (Option.some.inj body).symm⟩
          · rename_i differs
            exact .inr ⟨differs, (Option.some.inj body).symm⟩

theorem recognises_of_recognise (recognised : recognise stream = some r) :
    Recognises stream r := by
  have found := recognised
  unfold recognise at found
  obtain ⟨index, occurrence, -⟩ := Option.bind_eq_some_iff.mp found
  have first := leftmostAt_of_firstOccurrence occurrence
  have there := drop_startMark first
  cases behind : stream.drop (index + 4) with
  | nil =>
      rw [recognise, occurrence, Option.bind_some, behind] at recognised
      contradiction
  | cons command behind' =>
      rw [behind] at there
      rw [recognise_eq first there, recogniseFrame] at recognised
      cases known : payloadSize command with
      | none =>
          rw [known] at recognised
          cases recognised
          exact .unknown first (by rw [there]; simp) known
      | some size =>
          rw [known] at recognised
          obtain ⟨payload, check, after, parts, length, width, outcome⟩ :=
            recogniseBody_some recognised
          subst length
          have whole : stream.drop index = covered command payload ++ check ++ after := by
            rw [there, parts]
            simp [covered]
          rcases outcome with ⟨wrong, rfl⟩ | ⟨right, enough, ⟨same, rfl⟩ | ⟨differs, rfl⟩⟩
          · exact .mismatch first whole known width wrong
          · subst right
            refine .accepted first ?_ known
            rw [whole, encode, ← same, List.append_assoc _ (after.take 4),
              List.take_append_drop]
          · subst right
            exact .unstopped first whole known enough differs

theorem recogniseBody_append {check after : Bytes} (width : check.length = 2) :
    recogniseBody others command payload.length (payload ++ check ++ after) =
      if check ≠ wordBytes (crc16Of (covered command payload)) then
        some ⟨4, covered command payload ++ check, after⟩
      else if after.length < 4 then none
      else if after.take 4 = stopMark then
        some ⟨0, covered command payload ++ check ++ stopMark, after.drop 4⟩
      else some ⟨2, [0x31], others⟩ := by
  have body : (payload ++ check ++ after).take payload.length = payload := by
    rw [List.append_assoc, List.take_left]
  have two : ((payload ++ check ++ after).drop payload.length).take 2 = check := by
    rw [List.append_assoc, List.drop_left, ← width, List.take_left]
  have left : (payload ++ check ++ after).drop (payload.length + 2) = after := by
    rw [← width, ← List.length_append, List.drop_left]
  have enough : ¬ (payload ++ check ++ after).length < payload.length + 2 := by
    simp only [List.length_append]
    omega
  unfold recogniseBody
  dsimp only
  rw [if_neg enough, body, two, left]

theorem recognise_append {check after : Bytes} (first : LeftmostAt startMark stream index)
    (there : stream.drop index = covered command payload ++ check ++ after)
    (known : payloadSize command = some payload.length) :
    recognise stream = recogniseBody (stream.drop (index + 1)) command payload.length
      (payload ++ check ++ after) := by
  have parts : stream.drop index = startMark ++ command :: (payload ++ check ++ after) := by
    rw [there]
    simp [covered]
  rw [recognise_eq first parts, recogniseFrame, known, Option.elim_some]

/-- The recogniser tells what stands in the stream, and all of it that is there whole. -/
theorem recognise_iff : recognise stream = some r ↔ Recognises stream r := by
  constructor
  · exact recognises_of_recognise
  · intro recognises
    cases recognises with
    | unknown first there unknown =>
        rw [List.append_assoc] at there
        rw [recognise_eq first there, recogniseFrame, unknown]
        rfl
    | mismatch first there known width wrong =>
        rw [recognise_append first there known, recogniseBody_append width, if_pos wrong]
    | accepted first there known =>
        rw [encode, List.append_assoc] at there
        rw [recognise_append first there known, recogniseBody_append rfl,
          if_neg (not_not_intro rfl), if_neg (by simp [stopMark]), if_pos (by simp [stopMark])]
        simp [encode, stopMark]
    | unstopped first there known enough differs =>
        rw [recognise_append first there known, recogniseBody_append rfl,
          if_neg (not_not_intro rfl), if_neg (Nat.not_lt.mpr enough), if_neg differs]

/-! ## Accepted frames -/

theorem recognise_accepts_iff {frame after : Bytes} : recognise stream = some ⟨0, frame, after⟩ ↔
    ValidFrame frame ∧ ∃ index, LeftmostAt startMark stream index ∧
      stream.drop index = frame ++ after := by
  rw [recognise_iff]
  constructor
  · intro recognises
    cases recognises with
    | accepted first there known => exact ⟨⟨_, _, known, rfl⟩, _, first, there⟩
  · rintro ⟨⟨command, payload, known, rfl⟩, index, first, there⟩
    exact .accepted first there known

/-- Recognise so many times, each time what the last time left. -/
def recognises (stream : Bytes) : Nat → Option (List Recognised)
  | 0 => some []
  | calls + 1 =>
      (recognise stream).bind fun first => (recognises first.rest calls).map (first :: ·)

/-! ## Behind noise -/

/-- A start mark and ten more bytes are enough to tell something. -/
theorem recognise_isSome (first : LeftmostAt startMark stream index)
    (enough : index + 14 ≤ stream.length) : (recognise stream).isSome := by
  have there := drop_startMark first
  cases behind : stream.drop (index + 4) with
  | nil =>
      have length := congrArg List.length behind
      rw [List.length_drop, List.length_nil] at length
      omega
  | cons command behind' =>
      have length := congrArg List.length behind
      rw [List.length_drop, List.length_cons] at length
      rw [behind] at there
      rw [recognise_eq first there, recogniseFrame]
      cases known : payloadSize command with
      | none => rfl
      | some size =>
          have bounds := payloadSize_bounds known
          unfold recogniseBody
          dsimp only [Option.elim_some]
          rw [if_neg (by omega)]
          split
          · rfl
          · rw [if_neg (by rw [List.length_drop]; omega)]
            split <;> rfl

/-- No start mark in the last nine bytes. -/
def Clear (noise : Bytes) : Prop :=
  ∀ index, OccursAt startMark noise index → index + 10 ≤ noise.length

instance (noise : Bytes) : Decidable (Clear noise) :=
  decidable_of_iff (∀ index, index < noise.length → OccursAt startMark noise index →
      index + 10 ≤ noise.length) <| by
    constructor
    · intro bounded index occurs
      have fits := occurs.fits (by decide)
      have four : startMark.length = 4 := rfl
      exact bounded index (by omega) occurs
    · exact fun clear index _ occurs => clear index occurs

theorem Clear.drop {noise : Bytes} {taken : Nat} (clear : Clear noise)
    (inside : taken ≤ noise.length) : Clear (noise.drop taken) := by
  intro index occurs
  unfold OccursAt at occurs
  rw [List.drop_drop] at occurs
  have bound := clear (taken + index) occurs
  rw [List.length_drop]
  omega

theorem covered_length : (covered command payload).length = payload.length + 5 := by
  simp [covered, startMark]

theorem encode_length : (encode command payload).length = payload.length + 11 := by
  simp [encode, covered_length, wordBytes, stopMark]

variable {noise frame tail : Bytes}

theorem ValidFrame.length_ge (valid : ValidFrame frame) : 13 ≤ frame.length := by
  obtain ⟨command, payload, known, rfl⟩ := valid
  have bounds := payloadSize_bounds known
  rw [encode_length]
  omega

theorem ValidFrame.starts (valid : ValidFrame frame) : ∃ more, frame = startMark ++ more := by
  obtain ⟨command, payload, known, rfl⟩ := valid
  exact ⟨command :: payload ++ wordBytes (crc16Of (covered command payload)) ++ stopMark,
    by simp [encode, covered]⟩

theorem ValidFrame.cons (valid : ValidFrame frame) : ∃ more, frame = 0x31 :: more := by
  obtain ⟨more, rfl⟩ := valid.starts
  exact ⟨startMark.tail ++ more, rfl⟩

/-- What is recognised in front of a frame does not reach into it. -/
theorem Recognises.spares (recognises : Recognises (noise ++ frame ++ tail) r)
    (valid : ValidFrame frame)
    (before : ∀ index, LeftmostAt startMark (noise ++ frame ++ tail) index →
      index + 10 ≤ noise.length) :
    ∃ taken, 0 < taken ∧ taken ≤ noise.length ∧ r.rest = noise.drop taken ++ frame ++ tail := by
  have behind : ∀ {index : Nat} {front after : Bytes},
      (noise ++ frame ++ tail).drop index = front ++ after → 0 < front.length →
      index + front.length ≤ noise.length →
      ∃ taken, 0 < taken ∧ taken ≤ noise.length ∧ after = noise.drop taken ++ frame ++ tail := by
    intro index front after there positive inside
    refine ⟨index + front.length, by omega, inside, ?_⟩
    rw [List.append_assoc, ← List.drop_append_of_le_length inside, ← List.append_assoc,
      ← List.drop_drop, there, List.drop_left]
  cases recognises with
  | @unknown index command after first there unknown =>
      have inside := before _ first
      have length : (startMark ++ [command]).length = 5 := rfl
      exact behind there (by omega) (by omega)
  | @mismatch index command payload check after first there known width wrong =>
      have inside := before _ first
      have bounds := payloadSize_bounds known
      have length : (covered command payload ++ check).length = payload.length + 7 := by
        rw [List.length_append, covered_length, width]
      exact behind there (by omega) (by omega)
  | @accepted index command payload after first there known =>
      have inside := before _ first
      have bounds := payloadSize_bounds known
      have length := @encode_length command payload
      -- a stop mark that reached the frame would have its first byte
      have stop : OccursAt stopMark (noise ++ frame ++ tail) (index + (payload.length + 7)) := by
        unfold OccursAt
        have front : payload.length + 7 =
            (covered command payload ++ wordBytes (crc16Of (covered command payload))).length := by
          rw [List.length_append, covered_length]
          rfl
        rw [← List.drop_drop, there, encode, List.append_assoc, front, List.drop_left]
        exact List.prefix_append _ _
      obtain ⟨more, rfl⟩ := valid.cons
      rw [List.append_assoc, List.cons_append] at stop
      have ends := stop.ends_before 0 (by omega) (by decide)
      have four : stopMark.length = 4 := rfl
      exact behind there (by omega) (by omega)
  | @unstopped index command payload others first there known enough differs =>
      have inside := before _ first
      refine ⟨index + 1, by omega, by omega, ?_⟩
      rw [List.append_assoc, List.drop_append_of_le_length (by omega), List.append_assoc]

/-- The first start mark is that of the frame, or one far enough before it. -/
theorem exists_leftmost_before (valid : ValidFrame frame) (clear : Clear noise) :
    ∃ index, LeftmostAt startMark (noise ++ frame ++ tail) index ∧
      (index = noise.length ∨ index + 10 ≤ noise.length) := by
  obtain ⟨behind, starts⟩ := valid.starts
  obtain ⟨more, cons⟩ := valid.cons
  have here : OccursAt startMark (noise ++ frame ++ tail) noise.length := by
    unfold OccursAt
    rw [List.append_assoc, List.drop_left, starts, List.append_assoc]
    exact List.prefix_append _ _
  obtain ⟨index, bound, first⟩ := here.exists_leftmost
  refine ⟨index, first, ?_⟩
  by_cases same : index = noise.length
  · exact .inl same
  · have occurs := first.occurs
    rw [cons, List.append_assoc, List.cons_append] at occurs
    have ends := occurs.ends_before 1 (by omega) (by decide)
    exact .inr (clear index ((occursAt_append_iff ends).mp occurs))

/-- A frame behind noise is recognised, whatever else is recognised in the noise. -/
theorem recognises_resynchronised (valid : ValidFrame frame) (clear : Clear noise) :
    ∃ calls results, calls ≤ noise.length ∧
      recognises (noise ++ frame ++ tail) (calls + 1) = some results ∧
      results.getLast? = some ⟨0, frame, tail⟩ := by
  induction length : noise.length using Nat.strongRecOn generalizing noise with
  | ind count ih =>
      obtain ⟨index, first, place⟩ := @exists_leftmost_before noise frame tail valid clear
      rcases place with here | early
      · have accepted : recognise (noise ++ frame ++ tail) = some ⟨0, frame, tail⟩ := by
          rw [recognise_accepts_iff]
          refine ⟨valid, index, first, ?_⟩
          rw [here, List.append_assoc, List.drop_left]
        refine ⟨0, [⟨0, frame, tail⟩], Nat.zero_le _, ?_, rfl⟩
        simp only [recognises, accepted, Option.bind_some, Option.map_some]
      · have long := valid.length_ge
        have some := recognise_isSome first (by simp only [List.length_append]; omega)
        obtain ⟨r, recognised⟩ := Option.isSome_iff_exists.mp some
        obtain ⟨taken, positive, inside, rest⟩ :=
          (recognises_of_recognise recognised).spares valid fun other found => by
            rw [found.unique first]
            exact early
        obtain ⟨calls, results, bound, more, last⟩ :=
          ih (noise.drop taken).length (by rw [List.length_drop]; omega) (clear.drop inside) rfl
        rw [List.length_drop] at bound
        refine ⟨calls + 1, r :: results, by omega, ?_, ?_⟩
        · rw [recognises, recognised, Option.bind_some, rest, more]
          rfl
        · cases results with
          | nil => contradiction
          | cons second results =>
              rw [List.getLast?_cons_cons]
              exact last

end SynapTCP
