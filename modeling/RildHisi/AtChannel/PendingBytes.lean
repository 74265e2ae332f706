import RildHisi.AtChannel.ReadBuffer

/-!
Owns the abstract reader: what one `readline` call does in terms of the bytes
that stand between the cursor and the NUL, without the array, the cursor or the
`memmove`s. `readline_refines` connects the two for every state of the buffer
and every input, NUL bytes and over-long lines included.

The SMS prompt is the one outcome after which the abstract reader says nothing
about the cursor: there the array left over from earlier reads decides.
-/

namespace RildHisi.AtChannel

/-- What a call comes to, as far as the pending bytes decide it. -/
inductive Outcome
  /-- A line, the bytes read but left behind its terminator, the input left. -/
  | line (text : CString) (behind : List UInt8) (input : Input)
  /-- The unterminated prompt `"> "`, in front of `pending`. -/
  | prompt (pending : List UInt8) (input : Input)
  /-- No line: the input ended with `pending` unfinished. -/
  | endOfInput (pending : List UInt8)
  deriving DecidableEq

/-- The test behind each fill: the prompt, a line, or `next` where no line ends. -/
def endOfLineTest (pending : List UInt8) (input : Input) (next : Outcome) : Outcome :=
  if cString pending = smsPrompt then .prompt pending input
  else match scanEol pending with
    | some eol => .line (pending.take eol) (pending.drop (eol + 1)) input
    | none => next

/-- One read into a buffer with room: `pending` stands between the cursor and
`p_read`, and `used` bytes of the buffer are taken. -/
def pendingRound (next : List UInt8 → Nat → Input → Outcome)
    (pending : List UInt8) (used : Nat) (input : Input) : Outcome :=
  match readChunk (maxAtResponse - used) input with
  | none => .endOfInput pending
  | some (bytes, input) =>
      let pending := (pending ++ bytes).dropWhile isNewline
      endOfLineTest pending input (next pending (used + bytes.length) input)

/-- The fill loop, which starts over with an empty buffer when it is full. -/
def pendingLoop : Nat → List UInt8 → Nat → Input → Outcome
  | 0, pending, _, _ => .endOfInput pending
  | fuel + 1, pending, used, input =>
      let overflow := maxAtResponse - used = 0
      pendingRound (pendingLoop fuel) (if overflow then [] else pending)
        (if overflow then 0 else used) input

/-- One call on the bytes left over from the last one. -/
def pendingReadline (pending : CString) (input : Input) : Outcome :=
  let fuel := input.flatten.length + 1
  if pending = [] then pendingLoop fuel [] 0 input
  else
    let pending := pending.dropWhile isNewline
    endOfLineTest pending input (pendingLoop fuel pending pending.length input)

/-! ### Scanning a NUL-terminated tail -/

theorem scanEol_append_zero (pending beyond : List UInt8) :
    scanEol (pending ++ 0 :: beyond) = scanEol pending := by
  induction pending with
  | nil => simp [scanEol]
  | cons c rest inductionHypothesis =>
      simp only [List.cons_append, scanEol, inductionHypothesis]

theorem scanEol_lt {pending : List UInt8} {eol : Nat} (found : scanEol pending = some eol) :
    eol < pending.length := by
  induction pending generalizing eol with
  | nil => simp [scanEol] at found
  | cons c rest inductionHypothesis =>
      simp only [scanEol] at found
      split_ifs at found with zero newline
      · obtain rfl : 0 = eol := by simpa using found
        simp
      · obtain ⟨before, inRest, rfl⟩ := Option.map_eq_some_iff.mp found
        simpa using inductionHypothesis inRest

/-- `findNextEOL` sees the pending bytes and the NUL behind them. -/
theorem findNextEol_append_zero (pending beyond : List UInt8) :
    findNextEol (pending ++ 0 :: beyond) =
      if cString pending = smsPrompt then some 2 else scanEol pending := by
  unfold findNextEol
  rw [scanEol_append_zero]
  refine if_congr ?_ rfl rfl
  match pending with
  | [] => simp [cString, smsPrompt]
  | [a] => by_cases zero : a = 0 <;> simp [cString, smsPrompt, zero]
  | [a, b] =>
      by_cases first : a = 0
      · simp [cString, smsPrompt, first]
      · by_cases second : b = 0 <;> simp [cString, smsPrompt, first, second]
  | a :: b :: c :: rest =>
      by_cases first : a = 0
      · simp [cString, smsPrompt, first]
      · by_cases second : b = 0
        · simp [cString, smsPrompt, first, second]
        · by_cases third : c = 0 <;> simp [cString, smsPrompt, first, second, third]

theorem takeWhile_isNewline_append_zero (pending beyond : List UInt8) :
    (pending ++ 0 :: beyond).takeWhile isNewline = pending.takeWhile isNewline := by
  induction pending with
  | nil => simp [isNewline]
  | cons c rest inductionHypothesis =>
      by_cases newline : isNewline c
      · simp [newline, inductionHypothesis]
      · simp [newline]

/-! ### The array around the pending bytes -/

/-- The array has its length and ends in a NUL, which no store overwrites. -/
structure Sized (st : ReaderState) : Prop where
  length : st.sAtBuffer.length = maxAtResponse + 1
  last : st.sAtBuffer.getLast? = some 0

/-- `pending` stands at the cursor, with a NUL behind it. -/
structure Holds (st : ReaderState) (pending : List UInt8) : Prop where
  sized : Sized st
  terminated : ∃ beyond, st.fromCursor = pending ++ 0 :: beyond

/-- The bytes read so far end where the pending bytes do. -/
def EndsAt (st : ReaderState) (pending : List UInt8) : Prop :=
  st.readEnd = st.sAtBufferCur + pending.length

/-- The bytes from the cursor up to the NUL. -/
def ReaderState.pending (st : ReaderState) : CString := cString st.fromCursor

theorem initial_sized : Sized .initial where
  length := by simp [ReaderState.initial]
  last := by simp [ReaderState.initial, List.getLast?_replicate]

namespace Sized

variable {st : ReaderState}

theorem store (sized : Sized st) {position : Nat} {bytes : List UInt8}
    (inside : position + bytes.length < maxAtResponse + 1) :
    Sized (st.store position (bytes ++ [0])) := by
  have size := sized.length
  refine ⟨?_, ?_⟩
  · simp only [ReaderState.store, List.length_append, List.length_take, List.length_drop,
      List.length_singleton]
    omega
  · simp only [ReaderState.store, List.getLast?_append, List.length_append,
      List.length_singleton]
    by_cases full : st.sAtBuffer.length ≤ position + (bytes.length + 1)
    · simp [List.drop_eq_nil_of_le full]
    · rw [List.getLast?_drop, if_neg full, sized.last]
      rfl

theorem withCursor (sized : Sized st) (cur readEnd : Nat) :
    Sized { st with sAtBufferCur := cur, readEnd := readEnd } :=
  ⟨sized.length, sized.last⟩

theorem startOver (sized : Sized st) : Holds st.startOver [] ∧ EndsAt st.startOver [] := by
  have stored : Sized (st.store 0 ([] ++ [0])) := sized.store (by simp)
  refine ⟨⟨⟨stored.length, stored.last⟩, ?_⟩, rfl⟩
  exact ⟨st.sAtBuffer.drop 1, by simp [ReaderState.startOver, ReaderState.store,
    ReaderState.fromCursor]⟩

/-- Whatever the cursor points at, its string ends inside the array. -/
theorem holds_pending (sized : Sized st) (nonzero : st.atCursor ≠ 0) :
    Holds st st.pending := by
  refine ⟨sized, ?_⟩
  have nonempty : st.fromCursor ≠ [] := by
    intro empty
    simp [ReaderState.atCursor, empty] at nonzero
  have last : st.fromCursor.getLast? = some 0 := by
    unfold ReaderState.fromCursor at nonempty ⊢
    rw [List.getLast?_drop, if_neg, sized.last]
    intro short
    exact nonempty (List.drop_eq_nil_of_le short)
  have member : (0 : UInt8) ∈ st.fromCursor := List.mem_of_getLast? last
  have stop : st.fromCursor.dropWhile (· ≠ 0) ≠ [] := by
    intro all
    have := List.dropWhile_eq_nil_iff.mp all 0 member
    simp at this
  obtain ⟨head, beyond, shape⟩ := List.exists_cons_of_ne_nil stop
  have headZero : head = 0 := by
    have := List.head_dropWhile_not (fun c : UInt8 => decide (c ≠ 0)) stop
    simp only [shape, List.head_cons] at this
    simpa using this
  refine ⟨beyond, ?_⟩
  have split := List.takeWhile_append_dropWhile (p := (· ≠ (0 : UInt8))) (l := st.fromCursor)
  rw [shape, headZero] at split
  exact split.symm

end Sized

namespace Holds

variable {st : ReaderState} {pending : List UInt8}

theorem buffer (holds : Holds st pending) :
    ∃ beyond, st.sAtBuffer =
      st.sAtBuffer.take st.sAtBufferCur ++ (pending ++ 0 :: beyond) := by
  obtain ⟨beyond, shape⟩ := holds.terminated
  refine ⟨beyond, ?_⟩
  rw [← shape]
  exact (List.take_append_drop _ _).symm

theorem room (holds : Holds st pending) :
    st.sAtBufferCur + pending.length < maxAtResponse + 1 := by
  obtain ⟨beyond, shape⟩ := holds.terminated
  have lengths := congrArg List.length shape
  have size := holds.sized.length
  simp only [ReaderState.fromCursor, List.length_drop, List.length_append,
    List.length_cons] at lengths
  omega

theorem pending_eq (holds : Holds st pending) : st.pending = cString pending := by
  obtain ⟨beyond, shape⟩ := holds.terminated
  rw [ReaderState.pending, shape, cString_append_zero_congr]

theorem findNextEol_eq (holds : Holds st pending) :
    findNextEol st.fromCursor =
      if cString pending = smsPrompt then some 2 else scanEol pending := by
  obtain ⟨beyond, shape⟩ := holds.terminated
  rw [shape, findNextEol_append_zero]

/-- Moving the cursor over `n` pending bytes. -/
theorem advance (holds : Holds st pending) {n : Nat} (within : n ≤ pending.length) :
    Holds { st with sAtBufferCur := st.sAtBufferCur + n } (pending.drop n) := by
  obtain ⟨beyond, shape⟩ := holds.terminated
  refine ⟨⟨holds.sized.length, holds.sized.last⟩, beyond, ?_⟩
  simp only [ReaderState.fromCursor] at shape ⊢
  rw [← List.drop_drop, shape, List.drop_append_of_le_length within]

theorem skipNewlines (holds : Holds st pending) :
    Holds st.skipNewlines (pending.dropWhile isNewline) ∧
      (EndsAt st pending → EndsAt st.skipNewlines (pending.dropWhile isNewline)) := by
  obtain ⟨beyond, shape⟩ := holds.terminated
  have count : (st.fromCursor.takeWhile isNewline).length =
      (pending.takeWhile isNewline).length := by
    rw [shape, takeWhile_isNewline_append_zero]
  have within : (pending.takeWhile isNewline).length ≤ pending.length :=
    (List.takeWhile_sublist _).length_le
  have dropped : pending.drop (pending.takeWhile isNewline).length =
      pending.dropWhile isNewline := by
    conv_lhs => arg 2; rw [← List.takeWhile_append_dropWhile (p := isNewline) (l := pending)]
    exact List.drop_left' rfl
  constructor
  · have moved := holds.advance within
    rw [dropped] at moved
    simpa only [ReaderState.skipNewlines, count] using moved
  · intro ends
    have lengths := congrArg List.length dropped
    simp only [EndsAt, ReaderState.skipNewlines, count, List.length_drop] at ends lengths ⊢
    omega

/-- `memmove` and `p_read = s_ATBuffer + len` for a partial line. -/
theorem movePartialLine (holds : Holds st pending) (clean : (0 : UInt8) ∉ pending) :
    Holds st.movePartialLine pending ∧ EndsAt st.movePartialLine pending := by
  obtain ⟨beyond, shape⟩ := holds.terminated
  have whole : cString st.fromCursor = pending := by
    rw [shape, cString_append_zero clean]
  have moved : st.fromCursor.take (pending.length + 1) = pending ++ [0] := by
    rw [shape, List.take_append]
    simp
  have stored : Sized (st.store 0 (pending ++ [0])) :=
    holds.sized.store (by have := holds.room; omega)
  constructor
  · refine ⟨⟨?_, ?_⟩, st.sAtBuffer.drop (0 + (pending ++ [0]).length), ?_⟩
    · simpa only [ReaderState.movePartialLine, whole, moved] using stored.length
    · simpa only [ReaderState.movePartialLine, whole, moved] using stored.last
    · simp only [ReaderState.movePartialLine, whole, moved]
      simp [ReaderState.fromCursor, ReaderState.store]
  · simp [EndsAt, ReaderState.movePartialLine, whole]

/-- `read` appends at `p_read` and puts a NUL behind. -/
theorem readBytes (holds : Holds st pending) (ends : EndsAt st pending)
    {bytes : List UInt8} (fits : bytes.length ≤ maxAtResponse - st.readEnd) :
    Holds (st.store st.readEnd (bytes ++ [0])) (pending ++ bytes) := by
  obtain ⟨beyond, shape⟩ := holds.buffer
  have room := holds.room
  unfold EndsAt at ends
  refine ⟨holds.sized.store (by omega),
    st.sAtBuffer.drop (st.readEnd + (bytes ++ [0]).length), ?_⟩
  have cursor : st.sAtBufferCur ≤ st.sAtBuffer.length := by
    have := holds.sized.length
    omega
  have front : st.sAtBuffer.take st.readEnd =
      st.sAtBuffer.take st.sAtBufferCur ++ pending := by
    have frontLength : (st.sAtBuffer.take st.sAtBufferCur).length = st.sAtBufferCur := by
      simp [cursor]
    conv_lhs => rw [shape, ends]
    rw [List.take_append, frontLength]
    simp [List.take_take]
  have frontLength : (st.sAtBuffer.take st.sAtBufferCur).length = st.sAtBufferCur := by
    simp [cursor]
  simp only [ReaderState.fromCursor, ReaderState.store, front, List.append_assoc]
  rw [List.drop_append, frontLength]
  simp [List.drop_of_length_le (show (st.sAtBuffer.take st.sAtBufferCur).length ≤
    st.sAtBufferCur by omega)]

/-- Ending a line at `eol` and stepping behind its terminator. -/
theorem takeLine (holds : Holds st pending) {eol : Nat} (within : eol < pending.length) :
    (takeLine st eol).1 = pending.take eol ∧
      Holds (takeLine st eol).2 (pending.drop (eol + 1)) ∧
      (EndsAt st pending → EndsAt (takeLine st eol).2 (pending.drop (eol + 1))) := by
  obtain ⟨beyond, shape⟩ := holds.terminated
  have room := holds.room
  refine ⟨?_, ⟨?_, ?_⟩, ?_⟩
  · simp only [AtChannel.takeLine, shape]
    rw [List.take_append_of_le_length (by omega)]
  · have stored : Sized (st.store (st.sAtBufferCur + eol) ([] ++ [0])) :=
      holds.sized.store (by simp only [List.length_nil]; omega)
    exact ⟨stored.length, stored.last⟩
  · refine ⟨beyond, ?_⟩
    have size := holds.sized.length
    have frontLength : (st.sAtBuffer.take (st.sAtBufferCur + eol)).length =
        st.sAtBufferCur + eol := by
      simp only [List.length_take]
      omega
    have tail : st.sAtBuffer.drop (st.sAtBufferCur + (eol + 1)) =
        pending.drop (eol + 1) ++ 0 :: beyond := by
      rw [← List.drop_drop]
      change (st.fromCursor).drop (eol + 1) = _
      rw [shape, List.drop_append_of_le_length (by omega)]
    simp only [AtChannel.takeLine, ReaderState.fromCursor, ReaderState.store,
      List.append_assoc]
    rw [List.drop_append, frontLength, List.drop_of_length_le (by omega), Nat.add_assoc,
      Nat.add_sub_add_left, Nat.add_sub_cancel_left]
    simpa [Nat.add_assoc] using tail
  · intro ends
    simp only [EndsAt, AtChannel.takeLine, ReaderState.store, List.length_drop] at ends ⊢
    omega

end Holds

/-! ### Refinement -/

theorem readChunk_length {space : Nat} {input input' : Input} {bytes : List UInt8}
    (read : readChunk space input = some (bytes, input')) :
    bytes.length ≤ space ∧ input.flatten = bytes ++ input'.flatten := by
  induction input with
  | nil => simp [readChunk] at read
  | cons chunk input inductionHypothesis =>
      cases chunk with
      | nil => simpa using inductionHypothesis (by simpa [readChunk] using read)
      | cons c rest =>
          simp only [readChunk] at read
          split_ifs at read with fits
          · obtain ⟨rfl, rfl⟩ : c :: rest = bytes ∧ input = input' := by simpa using read
            exact ⟨fits, by simp⟩
          · simp only [Option.some.injEq, Prod.mk.injEq] at read
            obtain ⟨rfl, rfl⟩ := read
            refine ⟨List.length_take_le _ _, ?_⟩
            rw [List.flatten_cons, List.flatten_cons, ← List.append_assoc,
              List.take_append_drop]

/-- The code's state after a call with the given outcome. -/
def Matches (result : Option CString × ReaderState × Input) (endsBefore : Prop) :
    Outcome → Prop
  | .line text behind input =>
      result.1 = some text ∧ result.2.2 = input ∧ Holds result.2.1 behind ∧
        (endsBefore → EndsAt result.2.1 behind)
  | .prompt pending input =>
      result.1 = some smsPrompt ∧ result.2.2 = input ∧ Sized result.2.1 ∧
        (endsBefore → result.2.1.sAtBufferCur + pending.length = result.2.1.readEnd + 3)
  | .endOfInput pending =>
      result.1 = none ∧ result.2.2 = [] ∧ Holds result.2.1 pending ∧
        EndsAt result.2.1 pending ∧ result.2.1.readEnd < maxAtResponse

theorem readChunk_none {space : Nat} {input : Input} (read : readChunk space input = none) :
    input.flatten = [] := by
  induction input with
  | nil => rfl
  | cons chunk rest inductionHypothesis =>
      cases chunk with
      | nil => simpa using inductionHypothesis (by simpa [readChunk] using read)
      | cons c more =>
          simp only [readChunk] at read
          split_ifs at read

theorem readChunk_nonempty {space : Nat} (positive : 0 < space) {input input' : Input}
    {bytes : List UInt8} (read : readChunk space input = some (bytes, input')) :
    bytes ≠ [] := by
  induction input with
  | nil => simp [readChunk] at read
  | cons chunk input inductionHypothesis =>
      cases chunk with
      | nil => exact inductionHypothesis (by simpa [readChunk] using read)
      | cons c rest =>
          simp only [readChunk] at read
          split_ifs at read with fits
          · obtain ⟨rfl, -⟩ : c :: rest = bytes ∧ input = input' := by simpa using read
            simp
          · simp only [Option.some.injEq, Prod.mk.injEq] at read
            obtain ⟨rfl, -⟩ := read
            simp [positive.ne']

/-- The overflow branch in front of `read`. -/
theorem Holds.makeRoom {st : ReaderState} {pending : List UInt8} (holds : Holds st pending)
    (ends : EndsAt st pending) :
    let overflow := maxAtResponse - st.readEnd = 0
    let after := if overflow then st.startOver else st
    let left := if overflow then [] else pending
    Holds after left ∧ EndsAt after left ∧
      after.readEnd = (if overflow then 0 else st.readEnd) ∧
      0 < maxAtResponse - after.readEnd := by
  intro overflow after left
  by_cases full : overflow
  · obtain ⟨emptied, endsAtZero⟩ := holds.sized.startOver
    simp only [after, left, if_pos full]
    exact ⟨emptied, endsAtZero, rfl, by simp [ReaderState.startOver, ReaderState.store,
      maxAtResponse]⟩
  · simp only [after, left, if_neg full]
    exact ⟨holds, ends, trivial, Nat.pos_of_ne_zero full⟩

namespace Holds

variable {st : ReaderState} {pending : List UInt8}

theorem receive (holds : Holds st pending) (ends : EndsAt st pending)
    {bytes : List UInt8} (fits : bytes.length ≤ maxAtResponse - st.readEnd) :
    Holds (st.receive bytes) ((pending ++ bytes).dropWhile isNewline) ∧
      EndsAt (st.receive bytes) ((pending ++ bytes).dropWhile isNewline) := by
  have filled := holds.readBytes ends fits
  obtain ⟨skipped, -⟩ := filled.skipNewlines
  refine ⟨⟨skipped.sized.withCursor _ _, skipped.terminated⟩, ?_⟩
  -- `p_read` moves after the skip in the source, which makes no difference
  have later : Holds { st.store st.readEnd (bytes ++ [0]) with
      readEnd := st.readEnd + bytes.length } (pending ++ bytes) :=
    ⟨filled.sized.withCursor _ _, filled.terminated⟩
  have moved := later.skipNewlines.2
  apply moved
  unfold EndsAt at ends ⊢
  simp only [ReaderState.store, List.length_append]
  omega

theorem returnLine (holds : Holds st pending) {eol : Nat} (found : scanEol pending = some eol)
    (input : Input) {endsBefore : Prop} (ends : endsBefore → EndsAt st pending) :
    Matches (returnLine st eol input) endsBefore
      (.line (pending.take eol) (pending.drop (eol + 1)) input) := by
  obtain ⟨text, behind, behindEnds⟩ := holds.takeLine (scanEol_lt found)
  exact ⟨congrArg some text, rfl, behind, fun before => behindEnds (ends before)⟩

/-- The end of the prompt is the NUL itself, so the cursor steps over it. -/
theorem returnPrompt (holds : Holds st pending) (prompt : cString pending = smsPrompt)
    (input : Input) {endsBefore : Prop} (ends : endsBefore → EndsAt st pending) :
    Matches (AtChannel.returnLine st 2 input) endsBefore (.prompt pending input) := by
  obtain ⟨beyond, shape⟩ := holds.terminated
  have whole : cString st.fromCursor = smsPrompt := by
    rw [shape, cString_append_zero_congr, prompt]
  have text : st.fromCursor.take 2 = smsPrompt := by
    have start : smsPrompt <+: st.fromCursor := whole ▸ List.takeWhile_prefix _
    exact (List.prefix_iff_eq_take.mp start).symm
  have atLeast : 2 ≤ pending.length := by
    have shorter : (cString pending).length ≤ pending.length :=
      (List.takeWhile_sublist _).length_le
    rwa [prompt] at shorter
  refine ⟨congrArg some text, rfl, ?_, fun before => ?_⟩
  · have room := holds.room
    have stored : Sized (st.store (st.sAtBufferCur + 2) ([] ++ [0])) :=
      holds.sized.store (by simp only [List.length_nil]; omega)
    exact ⟨stored.length, stored.last⟩
  · have same := ends before
    simp only [EndsAt, AtChannel.returnLine, AtChannel.takeLine, ReaderState.store] at same ⊢
    omega

end Holds

theorem Matches.weaken {result : Option CString × ReaderState × Input} {before : Prop}
    {outcome : Outcome} (same : Matches result True outcome) :
    Matches result before outcome := by
  cases outcome with
  | line text behind input =>
      obtain ⟨line, left, holds, ends⟩ := same
      exact ⟨line, left, holds, fun _ => ends trivial⟩
  | prompt pending input =>
      obtain ⟨line, left, sized, stepped⟩ := same
      exact ⟨line, left, sized, fun _ => stepped trivial⟩
  | endOfInput pending => exact same

theorem readlineLoop_refines (fuel : Nat) {st : ReaderState} {pending : List UInt8}
    {input : Input} (holds : Holds st pending) (ends : EndsAt st pending)
    (enough : input.flatten.length < fuel) :
    Matches (readlineLoop fuel st input) True (pendingLoop fuel pending st.readEnd input) := by
  induction fuel generalizing st pending input with
  | zero => omega
  | succ fuel inductionHypothesis =>
      obtain ⟨roomHolds, roomEnds, roomUsed, roomLeft⟩ := holds.makeRoom ends
      simp only [readlineLoop, pendingLoop, pendingRound]
      rw [← roomUsed]
      generalize (if maxAtResponse - st.readEnd = 0 then st.startOver else st) = after at *
      generalize (if maxAtResponse - st.readEnd = 0 then [] else pending) = left at *
      cases read : readChunk (maxAtResponse - after.readEnd) input with
      | none => exact ⟨rfl, rfl, roomHolds, roomEnds, Nat.lt_of_sub_pos roomLeft⟩
      | some chunk =>
          obtain ⟨bytes, rest⟩ := chunk
          obtain ⟨fits, consumed⟩ := readChunk_length read
          have progress := List.length_pos_of_ne_nil (readChunk_nonempty roomLeft read)
          have shorter : rest.flatten.length < fuel := by
            have := congrArg List.length consumed
            simp only [List.length_append] at this
            omega
          obtain ⟨received, receivedEnds⟩ := roomHolds.receive roomEnds fits
          have used : (after.receive bytes).readEnd = after.readEnd + bytes.length := rfl
          simp only [received.findNextEol_eq, endOfLineTest]
          by_cases prompt : cString ((left ++ bytes).dropWhile isNewline) = smsPrompt
          · simp only [if_pos prompt]
            exact received.returnPrompt prompt rest (fun _ => receivedEnds)
          · simp only [if_neg prompt]
            cases found : scanEol ((left ++ bytes).dropWhile isNewline) with
            | some eol => exact received.returnLine found rest (fun _ => receivedEnds)
            | none =>
                rw [← used]
                exact inductionHypothesis received receivedEnds shorter

/-- **A `readline` call is the abstract call on the pending bytes.** -/
theorem readline_refines {st : ReaderState} (sized : Sized st) (input : Input) :
    Matches (readline st input) (EndsAt st st.pending) (pendingReadline st.pending input) := by
  unfold readline pendingReadline
  by_cases consumed : st.atCursor = 0
  · have empty : st.pending = [] := by
      cases shape : st.fromCursor with
      | nil => simp [ReaderState.pending, shape, cString]
      | cons c rest =>
          have zero : c = 0 := by simpa [ReaderState.atCursor, shape] using consumed
          simp [ReaderState.pending, shape, cString, zero]
    obtain ⟨holds, ends⟩ := sized.startOver
    rw [if_pos consumed, if_pos empty]
    exact (readlineLoop_refines _ holds ends (Nat.lt_succ_self _)).weaken
  · have holds := sized.holds_pending consumed
    have nonempty : st.pending ≠ [] := by
      obtain ⟨beyond, shape⟩ := holds.terminated
      intro empty
      simp [ReaderState.atCursor, shape, empty] at consumed
    obtain ⟨skipped, skippedEnds⟩ := holds.skipNewlines
    have clean : (0 : UInt8) ∉ st.pending.dropWhile isNewline := fun member =>
      zero_notMem_cString _ ((List.dropWhile_suffix _).mem member)
    rw [if_neg consumed, if_neg nonempty]
    simp only [skipped.findNextEol_eq, endOfLineTest]
    by_cases prompt : cString (st.pending.dropWhile isNewline) = smsPrompt
    · simp only [if_pos prompt]
      exact skipped.returnPrompt prompt input skippedEnds
    · simp only [if_neg prompt]
      cases found : scanEol (st.pending.dropWhile isNewline) with
      | some eol => exact skipped.returnLine found input skippedEnds
      | none =>
          obtain ⟨moved, movedEnds⟩ := skipped.movePartialLine clean
          have used : st.skipNewlines.movePartialLine.readEnd =
              (st.pending.dropWhile isNewline).length := by
            have start : st.skipNewlines.movePartialLine.sAtBufferCur = 0 := rfl
            unfold EndsAt at movedEnds
            omega
          rw [← used]
          exact (readlineLoop_refines _ moved movedEnds (Nat.lt_succ_self _)).weaken

end RildHisi.AtChannel
