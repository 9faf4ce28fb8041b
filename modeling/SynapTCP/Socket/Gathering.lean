import SynapTCP.Socket.Receive

namespace SynapTCP

open Data

/-! # What the gathering loops gather

On a readable port every loop is described by the bytes it reads: behind the
bytes left over at entry they make up what the loop added to `tmp`.
-/

namespace Socket

variable {s : Socket} {w : Wire} {sz : Nat} {pattern tmp : Bytes}

theorem readLoop_reads (connected : (s.useSSL && s.sslConn.isNone) = false) (sz : Nat) (data : Bytes) (polls : List Bool)
    (reads : List ReadResult) :
    (s.readLoop sz data polls reads).refused = false ∧
      ∃ taken, reads = taken ++ (s.readLoop sz data polls reads).reads ∧
        (s.readLoop sz data polls reads).data = data ++ delivered taken := by
  induction reads generalizing data polls with
  | nil => exact ⟨by simp [readLoop, Bool.and_assoc, connected], [], rfl, by simp [readLoop]⟩
  | cons read reads ih =>
      unfold readLoop
      split
      · exact ⟨rfl, [], rfl, by simp⟩
      · rw [if_neg (by simp [connected])]
        cases read with
        | failed => exact ⟨rfl, [.failed], rfl, by simp⟩
        | chunk piece =>
            dsimp only
            split
            · obtain ⟨accepted, taken, split, data⟩ := ih (data ++ piece.bytes) _
              exact ⟨accepted, .chunk piece :: taken, by rw [List.cons_append, ← split],
                by rw [data]; simp⟩
            · exact ⟨rfl, [.chunk piece], rfl, by simp⟩

/-- The three ends of `receiveData` on a readable port: nothing came, all is
kept, or the surplus is split off. -/
theorem receiveData_cases (ready : s.Readable) (w : Wire) (sz : Nat) (flag : Bool) :
    ∃ bytes, w.Reads bytes (s.receiveData w sz flag).wire ∧
      ((s.remainingData ++ bytes = [] ∧ (s.receiveData w sz flag).code = 2 ∧
          (s.receiveData w sz flag).socket = { s with data := [], remainingData := [] }) ∨
        (s.remainingData ++ bytes ≠ [] ∧ (s.receiveData w sz flag).code = 0 ∧
          (flag = true ∨ sz = 0 ∨ (s.remainingData ++ bytes).length ≤ sz) ∧
          (s.receiveData w sz flag).socket =
            { s with data := s.remainingData ++ bytes, remainingData := [] }) ∨
        ((s.receiveData w sz flag).code = 0 ∧ flag = false ∧ 0 < sz ∧
          sz < (s.remainingData ++ bytes).length ∧
          (s.receiveData w sz flag).socket =
            { s with
              data := (s.remainingData ++ bytes).take sz
              remainingData := (s.remainingData ++ bytes).drop sz })) := by
  obtain ⟨accepted, taken, split, data⟩ :=
    s.readLoop_reads ready.connected sz s.remainingData w.polls w.reads
  have opened : ¬ s.sockFd ≤ 0 := by have := ready.opened; omega
  have result : s.receiveData w sz flag =
      if s.remainingData ++ delivered taken = [] then
        ⟨2, { s with data := s.remainingData ++ delivered taken, remainingData := [] },
          { w with polls := (s.readLoop sz s.remainingData w.polls w.reads).polls,
                   reads := (s.readLoop sz s.remainingData w.polls w.reads).reads }⟩
      else if flag = false ∧ 0 < sz ∧ sz < (s.remainingData ++ delivered taken).length then
        ⟨0, { s with
          data := (s.remainingData ++ delivered taken).take sz
          remainingData := (s.remainingData ++ delivered taken).drop sz },
          { w with polls := (s.readLoop sz s.remainingData w.polls w.reads).polls,
                   reads := (s.readLoop sz s.remainingData w.polls w.reads).reads }⟩
      else
        ⟨0, { s with data := s.remainingData ++ delivered taken, remainingData := [] },
          { w with polls := (s.readLoop sz s.remainingData w.polls w.reads).polls,
                   reads := (s.readLoop sz s.remainingData w.polls w.reads).reads }⟩ := by
    simp only [receiveData, if_neg opened, accepted, Bool.false_eq_true, if_false, data]
  refine ⟨delivered taken, ⟨taken, ?_, rfl⟩, ?_⟩
  · rw [result]
    split
    · exact split
    · split <;> exact split
  · rw [result]
    by_cases empty : s.remainingData ++ delivered taken = []
    · refine .inl ⟨empty, ?_, ?_⟩ <;> simp only [empty, ↓reduceIte]
    · rw [if_neg empty]
      by_cases surplus : flag = false ∧ 0 < sz ∧ sz < (s.remainingData ++ delivered taken).length
      · rw [if_pos surplus]
        exact .inr (.inr ⟨rfl, surplus.1, surplus.2.1, surplus.2.2, rfl⟩)
      · rw [if_neg surplus]
        refine .inr (.inl ⟨empty, rfl, ?_, rfl⟩)
        cases flag with
        | true => exact .inl rfl
        | false => exact .inr (by simp only [true_and] at surplus; omega)

/-- A gathering round on a readable port: it brings what was left over and
what it read, or it brings nothing and nothing was left over. -/
theorem fetch_cases (ready : s.Readable) (w : Wire) (sz : Nat) :
    (∃ bytes, w.Reads bytes (s.fetch w sz).wire ∧ (s.fetch w sz).code = 0 ∧
      s.remainingData ++ bytes ≠ [] ∧
      (s.fetch w sz).socket = { s with data := s.remainingData ++ bytes, remainingData := [] }) ∨
    (w.Reads [] (s.fetch w sz).wire ∧ (s.fetch w sz).code = 2 ∧ s.remainingData = [] ∧
      (s.fetch w sz).socket = { s with data := [], remainingData := [] }) := by
  unfold fetch
  by_cases left : s.remainingData ≠ []
  · rw [if_pos left]
    exact .inl ⟨[], Wire.Reads.refl w, rfl, by simpa using left, by simp⟩
  · rw [if_neg left]
    have empty : s.remainingData = [] := by simpa using left
    obtain ⟨bytes, reads, ends⟩ := receiveData_cases ready w sz true
    rcases ends with ⟨nothing, code, socket⟩ | ⟨some, code, -, socket⟩ | ⟨-, unsplit, -⟩
    · have none : bytes = [] := by simpa [empty] using nothing
      subst none
      exact .inr ⟨reads, code, empty, socket⟩
    · exact .inl ⟨bytes, reads, code, some, socket⟩
    · contradiction

/-- What is gathered of a round that is received, and the port behind it. -/
theorem fetch_received (ready : s.Readable) (received : (s.fetch w sz).code = 0) (tmp : Bytes) :
    ∃ bytes, w.Reads bytes (s.fetch w sz).wire ∧ s.remainingData ++ bytes ≠ [] ∧
      { (s.fetch w sz).socket with remainingData := [] } =
        { s with data := s.remainingData ++ bytes, remainingData := [] } ∧
      ({ (s.fetch w sz).socket with remainingData := [] } : Socket).Readable ∧
      tmp ++ (s.fetch w sz).socket.data ++ (s.fetch w sz).socket.remainingData =
        tmp ++ s.remainingData ++ bytes := by
  rcases fetch_cases ready w sz with ⟨bytes, reads, -, some, fetched⟩ | ⟨-, failed, -, -⟩
  · rw [fetched]
    exact ⟨bytes, reads, some, rfl, ⟨ready.opened, ready.connected⟩, by simp⟩
  · rw [failed] at received
    contradiction

theorem fetch_missed (ready : s.Readable) (failed : (s.fetch w sz).code ≠ 0) :
    w.Reads [] (s.fetch w sz).wire ∧ (s.fetch w sz).code = 2 ∧ s.remainingData = [] ∧
      (s.fetch w sz).socket = { s with data := [], remainingData := [] } := by
  rcases fetch_cases ready w sz with ⟨-, -, received, -⟩ | missed
  · exact absurd received failed
  · exact missed

/-- The search loop turns what was left over and what it reads into `tmp`. -/
theorem searchLoop_gathers (ready : s.Readable) {i idxCheck : Nat} {begun : Bool}
    {last : Gathering} (ended : s.searchLoop pattern w tmp i idxCheck begun = last) :
    ∃ bytes, w.Reads bytes last.wire ∧ last.tmp = tmp ++ s.remainingData ++ bytes ∧
      ((last.found = true ∧ last.code = 0 ∧ last.index + pattern.length ≤ last.tmp.length ∧
          OccursAt pattern last.tmp last.index ∧ ∃ newest, newest <:+ last.tmp ∧
            last.socket = { s with data := newest, remainingData := [] }) ∨
        (last.found = false ∧ last.code = 2 ∧
          last.socket = { s with data := [], remainingData := [] })) := by
  subst ended
  fun_induction searchLoop s pattern w tmp i idxCheck begun with
  | case1 s w tmp i idxCheck begun round received resumed longer socket searched hit =>
      obtain ⟨bytes, reads, -, next, -, (grown : longer = _)⟩ := fetch_received ready received tmp
      have room : pattern.length ≤ longer.length := by
        by_contra short
        simp [searched, short] at hit
      have search : searchFrom pattern longer resumed = (true, searched.2) := by
        simp only [searched, dif_pos room] at hit ⊢
        exact Prod.ext hit rfl
      obtain ⟨-, fits, occurs, -⟩ := searchFrom_found search
      refine ⟨bytes, reads, grown,
        .inl ⟨rfl, rfl, fits, occurs, s.remainingData ++ bytes, ?_, next⟩⟩
      rw [grown, List.append_assoc]
      exact List.suffix_append _ _
  | case2 s w tmp i idxCheck begun round received resumed longer socket searched missed ih =>
      obtain ⟨bytes, reads, -, (next : socket = _), readable, (grown : longer = _)⟩ :=
        fetch_received ready received tmp
      obtain ⟨more, readsMore, gathered, ends⟩ := ih readable
      refine ⟨bytes ++ more, reads.trans readsMore, ?_, ?_⟩
      · rw [gathered, grown, next]
        simp
      · rw [next] at ends ⊢
        exact ends
  | case3 s w tmp i idxCheck begun round failed =>
      obtain ⟨reads, code, empty, fetched⟩ := fetch_missed ready failed
      exact ⟨[], reads, by simp [empty], .inr ⟨rfl, code, fetched⟩⟩

/-- The resumed search misses nothing: a hit is the leftmost occurrence in all
that was gathered, and without a hit there is none and `i` has run one past the
last position that leaves room for the pattern. -/
theorem searchLoop_exact (nonempty : pattern ≠ []) {i idxCheck : Nat} {begun : Bool}
    {last : Gathering} (ended : s.searchLoop pattern w tmp i idxCheck begun = last)
    (absent : ∀ index, ¬ OccursAt pattern tmp index)
    (resume : idxCheck = 0 ∨ idxCheck + pattern.length ≤ tmp.length + 1)
    (position : pattern.length ≤ tmp.length → i + pattern.length = tmp.length + 1) :
    (last.found = true → LeftmostAt pattern last.tmp last.index) ∧
    (last.found = false → (∀ index, ¬ OccursAt pattern last.tmp index) ∧
      (pattern.length ≤ last.tmp.length → last.index + pattern.length = last.tmp.length + 1)) := by
  subst ended
  fun_induction searchLoop s pattern w tmp i idxCheck begun with
  | case1 s w tmp i idxCheck begun round received resumed longer socket searched hit =>
      have resumeHere : resumed = 0 ∨ resumed + pattern.length ≤ tmp.length + 1 := by
        simp only [resumed]
        split <;> omega
      have room : pattern.length ≤ longer.length := by
        by_contra short
        simp [searched, short] at hit
      have search : searchFrom pattern longer resumed = (true, searched.2) := by
        simp only [searched, dif_pos room] at hit ⊢
        exact Prod.ext hit rfl
      simp only [longer, List.append_assoc] at search
      refine ⟨fun _ => ?_, fun missed => by simp at missed⟩
      simpa only [longer, List.append_assoc] using searchFrom_resumed_found absent resumeHere search
  | case2 s w tmp i idxCheck begun round received resumed longer socket searched missed ih =>
      have resumeHere : resumed = 0 ∨ resumed + pattern.length ≤ tmp.length + 1 := by
        simp only [resumed]
        split <;> omega
      have grown : longer = tmp ++ (round.socket.data ++ round.socket.remainingData) := by
        simp only [longer, List.append_assoc]
      have now : (∀ index, ¬ OccursAt pattern longer index) ∧
          (pattern.length ≤ longer.length → searched.2 + pattern.length = longer.length + 1) := by
        by_cases room : pattern.length ≤ longer.length
        · have search : searchFrom pattern longer resumed = (false, searched.2) := by
            simp only [searched, dif_pos room, Bool.not_eq_true] at missed ⊢
            exact Prod.ext missed rfl
          rw [grown] at search room ⊢
          obtain ⟨none, last⟩ := searchFrom_resumed_missed absent nonempty resumeHere room search
          exact ⟨none, fun _ => last⟩
        · exact ⟨fun index occurs => room (by have := occurs.fits nonempty; omega),
            fun fits => absurd fits room⟩
      refine ih now.1 ?_ now.2
      rcases resumeHere with zero | bound
      · exact .inl zero
      · refine .inr ?_
        rw [grown, List.length_append]
        omega
  | case3 s w tmp i idxCheck begun round failed =>
      exact ⟨fun found => by simp at found, fun _ => ⟨absent, position⟩⟩

/-- At the start of a search nothing has been gathered. -/
theorem searchLoop_exact_start (nonempty : pattern ≠ []) {begun : Bool} {last : Gathering}
    (ended : s.searchLoop pattern w [] 0 0 begun = last) :
    (last.found = true → LeftmostAt pattern last.tmp last.index) ∧
    (last.found = false → (∀ index, ¬ OccursAt pattern last.tmp index) ∧
      (pattern.length ≤ last.tmp.length → last.index + pattern.length = last.tmp.length + 1)) := by
  have positive := List.length_pos_iff.mpr nonempty
  refine searchLoop_exact nonempty ended (fun index occurs => ?_) (.inl rfl) fun room => ?_
  · have fits := occurs.fits nonempty
    simp only [List.length_nil] at fits
    omega
  · simp only [List.length_nil] at room
    omega

/-- The comparing loop stops with enough bytes, or with a failed round before. -/
theorem compareLoop_gathers (ready : s.Readable)
    (short : tmp.length < pattern.length ∨ tmp = []) {last : Gathering}
    (ended : s.compareLoop pattern w tmp = last) :
    ∃ bytes, w.Reads bytes last.wire ∧ last.tmp = tmp ++ s.remainingData ++ bytes ∧
      ((last.code = 0 ∧ pattern.length ≤ last.tmp.length ∧
          (last.found = true ↔ last.tmp.take pattern.length = pattern) ∧
          ∃ newest, newest <:+ last.tmp ∧
            last.socket = { s with data := newest, remainingData := [] }) ∨
        (last.found = false ∧ (last.tmp.length < pattern.length ∨ last.tmp = []) ∧
          last.socket = { s with data := [], remainingData := [] })) := by
  subst ended
  fun_induction compareLoop s pattern w tmp with
  | case1 s w tmp round received longer socket enough =>
      obtain ⟨bytes, reads, -, next, -, (grown : longer = _)⟩ := fetch_received ready received tmp
      refine ⟨bytes, reads, grown,
        .inl ⟨rfl, enough, by simp, s.remainingData ++ bytes, ?_, next⟩⟩
      rw [grown, List.append_assoc]
      exact List.suffix_append _ _
  | case2 s w tmp round received longer socket lacking ih =>
      obtain ⟨bytes, reads, -, (next : socket = _), readable, (grown : longer = _)⟩ :=
        fetch_received ready received tmp
      obtain ⟨more, readsMore, gathered, ends⟩ := ih readable (.inl (by omega))
      refine ⟨bytes ++ more, reads.trans readsMore, ?_, ?_⟩
      · rw [gathered, grown, next]
        simp
      · rw [next] at ends ⊢
        exact ends
  | case3 s w tmp round failed =>
      obtain ⟨reads, -, empty, fetched⟩ := fetch_missed ready failed
      exact ⟨[], reads, by simp [empty], .inr ⟨rfl, short, fetched⟩⟩

/-- The counting loop stops with enough bytes, or with a failed round that used
up the tries. -/
theorem countLoop_gathers (ready : s.Readable) (short : tmp.length < sz ∨ tmp = [])
    {tryTimes : Nat} {begun : Bool} (armed : begun = true → 0 < tryTimes) {last : Gathering}
    (ended : s.countLoop sz w tmp tryTimes begun = last) :
    ∃ bytes, w.Reads bytes last.wire ∧ last.tmp = tmp ++ s.remainingData ++ bytes ∧
      ((last.found = true ∧ sz ≤ last.tmp.length ∧ ∃ newest, newest <:+ last.tmp ∧
          last.socket = { s with data := newest, remainingData := [] }) ∨
        (last.found = false ∧ (last.tmp.length < sz ∨ last.tmp = []) ∧
          last.socket = { s with data := [], remainingData := [] })) := by
  subst ended
  fun_induction countLoop s sz w tmp tryTimes begun with
  | case1 s w tmp tryTimes begun round received longer socket enough =>
      obtain ⟨bytes, reads, -, next, -, (grown : longer = _)⟩ := fetch_received ready received tmp
      refine ⟨bytes, reads, grown, .inl ⟨rfl, enough, s.remainingData ++ bytes, ?_, next⟩⟩
      rw [grown, List.append_assoc]
      exact List.suffix_append _ _
  | case2 s w tmp tryTimes begun round received tries longer socket lacking left ih =>
      obtain ⟨bytes, reads, -, (next : socket = _), readable, (grown : longer = _)⟩ :=
        fetch_received ready received tmp
      obtain ⟨more, readsMore, gathered, ends⟩ := ih readable (.inl (by omega)) (fun _ => left)
      refine ⟨bytes ++ more, reads.trans readsMore, ?_, ?_⟩
      · rw [gathered, grown, next]
        simp
      · rw [next] at ends ⊢
        exact ends
  | case3 s w tmp tryTimes begun round received tries longer socket lacking spent =>
      exfalso
      apply spent
      simp only [tries]
      split
      · rename_i again
        exact armed again
      · decide
  | case4 s w tmp tryTimes begun round failed again ih =>
      obtain ⟨reads, -, empty, (next : round.socket = _)⟩ := fetch_missed ready failed
      obtain ⟨more, readsMore, gathered, ends⟩ := ih (by
        rw [next]
        exact ⟨ready.opened, ready.connected⟩) short (fun _ => again.2)
      refine ⟨more, reads.trans readsMore, ?_, ?_⟩
      · rw [gathered, next, empty]
      · rw [next] at ends ⊢
        exact ends
  | case5 s w tmp tryTimes begun round failed spent =>
      obtain ⟨reads, -, empty, fetched⟩ := fetch_missed ready failed
      exact ⟨[], reads, by simp [empty], .inr ⟨rfl, short, fetched⟩⟩

end Socket

end SynapTCP
