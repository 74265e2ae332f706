import RildHisi.AtChannel.PendingBytes

/-!
Owns what earlier contents of `s_ATBuffer` can do to later lines. Two readers
whose arrays start with the same `content` and hold nothing but NUL, CR and LF
behind it return the same lines for the same input: only a prompt can put the
cursor behind what was written, and there it finds no line.
-/

namespace RildHisi.AtChannel

/-- A byte that starts no line. -/
def isBlank (c : UInt8) : Bool := c == 0 || isNewline c

/-- Two arrays with the same `content`. Behind it, from index 3 on, stand blanks:
the prompt itself takes the first three bytes. -/
structure Twin (content : List UInt8) (a b : ReaderState) : Prop where
  ended : ∀ c ∈ content.getLast?, c = 0
  left : ∃ rest, a.sAtBuffer = content ++ rest ∧
    ∀ c ∈ rest.drop (3 - content.length), isBlank c = true
  right : ∃ rest, b.sAtBuffer = content ++ rest ∧
    ∀ c ∈ rest.drop (3 - content.length), isBlank c = true

namespace Twin

variable {content : List UInt8} {a b : ReaderState}

/-- `content` with `bytes` and a NUL stored at `position`. -/
def overwrite (content : List UInt8) (position : Nat) (bytes : List UInt8) : List UInt8 :=
  content.take position ++ (bytes ++ [0]) ++ content.drop (position + (bytes.length + 1))

theorem overwrite_length (content : List UInt8) {position : Nat} (inside : position ≤ content.length)
    (bytes : List UInt8) :
    (overwrite content position bytes).length =
      max content.length (position + bytes.length + 1) := by
  simp only [overwrite, List.length_append, List.length_take, List.length_drop,
    List.length_singleton]
  omega

theorem overwrite_ended (ended : ∀ c ∈ content.getLast?, c = 0) (position : Nat)
    (bytes : List UInt8) : ∀ c ∈ (overwrite content position bytes).getLast?, c = 0 := by
  intro c last
  simp only [overwrite, List.getLast?_append, List.getLast?_singleton, Option.some_or,
    List.getLast?_drop] at last
  split_ifs at last with short
  · simpa using last.symm
  · cases found : content.getLast? with
    | none => simp [found] at last; exact last.symm
    | some d =>
        obtain rfl : d = c := by simpa [found] using last
        exact ended d (by simp [found])

theorem store_side {st : ReaderState} {position : Nat} (inside : position ≤ content.length)
    (bytes : List UInt8)
    (side : ∃ rest, st.sAtBuffer = content ++ rest ∧
      ∀ c ∈ rest.drop (3 - content.length), isBlank c = true) :
    ∃ rest, (st.store position (bytes ++ [0])).sAtBuffer =
        overwrite content position bytes ++ rest ∧
      ∀ c ∈ rest.drop (3 - (overwrite content position bytes).length), isBlank c = true := by
  obtain ⟨rest, shape, blank⟩ := side
  refine ⟨rest.drop (position + (bytes.length + 1) - content.length), ?_, ?_⟩
  · simp only [ReaderState.store, shape, overwrite, List.length_append, List.length_singleton]
    rw [List.take_append_of_le_length inside, List.drop_append]
    simp only [List.append_assoc]
  · intro c member
    rw [overwrite_length content inside, List.drop_drop] at member
    refine blank c ((List.drop_suffix_drop_left rest ?_).mem member)
    omega

theorem store (twin : Twin content a b) {position : Nat} (inside : position ≤ content.length)
    (bytes : List UInt8) :
    Twin (overwrite content position bytes) (a.store position (bytes ++ [0]))
      (b.store position (bytes ++ [0])) :=
  ⟨overwrite_ended twin.ended position bytes, store_side inside bytes twin.left,
    store_side inside bytes twin.right⟩

theorem withCursor (twin : Twin content a b) (curA curB endA endB : Nat) :
    Twin content { a with sAtBufferCur := curA, readEnd := endA }
      { b with sAtBufferCur := curB, readEnd := endB } :=
  ⟨twin.ended, twin.left, twin.right⟩

/-- Both readers see the same bytes up to the end of `content`. -/
theorem fromCursor (twin : Twin content a b) (cursor : a.sAtBufferCur = b.sAtBufferCur)
    (inside : a.sAtBufferCur < content.length) :
    ∃ line beyondA beyondB, a.fromCursor = line ++ 0 :: beyondA ∧
      b.fromCursor = line ++ 0 :: beyondB ∧
      a.sAtBufferCur + line.length + 1 = content.length := by
  obtain ⟨restA, shapeA, -⟩ := twin.left
  obtain ⟨restB, shapeB, -⟩ := twin.right
  have nonempty : content.drop a.sAtBufferCur ≠ [] := by
    intro empty
    have := List.drop_eq_nil_iff.mp empty
    omega
  obtain ⟨line, last, split⟩ : ∃ line last, content.drop a.sAtBufferCur = line ++ [last] :=
    ⟨_, _, (List.dropLast_append_getLast nonempty).symm⟩
  have zero : last = 0 := by
    apply twin.ended last
    have atEnd := congrArg List.getLast? split
    rw [List.getLast?_drop, if_neg (by omega)] at atEnd
    simp [atEnd]
  subst zero
  refine ⟨line, restA, restB, ?_, ?_, ?_⟩
  · rw [ReaderState.fromCursor, shapeA, List.drop_append_of_le_length (by omega), split]
    simp
  · rw [ReaderState.fromCursor, shapeB, ← cursor, List.drop_append_of_le_length (by omega),
      split]
    simp
  · have lengths := congrArg List.length split
    simp only [List.length_drop, List.length_append, List.length_singleton] at lengths
    omega

/-- Both cursors skip the same newlines. -/
theorem skipNewlines (twin : Twin content a b) (cursor : a.sAtBufferCur = b.sAtBufferCur)
    (inside : a.sAtBufferCur < content.length) :
    a.skipNewlines.sAtBufferCur = b.skipNewlines.sAtBufferCur ∧
      a.skipNewlines.sAtBufferCur < content.length := by
  obtain ⟨line, beyondA, beyondB, shapeA, shapeB, lengths⟩ := twin.fromCursor cursor inside
  have within := (List.takeWhile_sublist isNewline (l := line)).length_le
  simp only [ReaderState.skipNewlines, shapeA, shapeB, takeWhile_isNewline_append_zero]
  omega

end Twin

/-! ### One call -/

/-- Two readers between calls: the cursors stand at the same place of the same
content, or neither has anything but newlines left. -/
def Alike (a b : ReaderState) : Prop :=
  ∃ content, Twin content a b ∧
    ((a.sAtBufferCur = b.sAtBufferCur ∧ a.sAtBufferCur < content.length) ∨
      ((∀ c ∈ a.pending, isNewline c = true) ∧ ∀ c ∈ b.pending, isNewline c = true))

/-- Two readers inside the fill loop. -/
structure InStep (content : List UInt8) (a b : ReaderState) : Prop where
  twin : Twin content a b
  cursor : a.sAtBufferCur = b.sAtBufferCur
  readEnd : a.readEnd = b.readEnd
  inside : a.sAtBufferCur < content.length
  readInside : a.readEnd < content.length

/-- Two calls with the same result, after which the readers are still alike. -/
def SameCall (first second : Option CString × ReaderState × Input) : Prop :=
  first.1 = second.1 ∧ first.2.2 = second.2.2 ∧
    (first.1.isSome = true → Alike first.2.1 second.2.1)

theorem pending_of_blank {st : ReaderState} (blank : ∀ c ∈ st.fromCursor, isBlank c = true) :
    ∀ c ∈ st.pending, isNewline c = true := by
  intro c member
  have nonzero : c ≠ 0 := fun zero => zero_notMem_cString _ (zero ▸ member)
  have inside := blank c ((List.takeWhile_prefix _).mem member)
  simpa [isBlank, nonzero] using inside

theorem Twin.startOver {content : List UInt8} {a b : ReaderState} (twin : Twin content a b) :
    InStep (Twin.overwrite content 0 []) a.startOver b.startOver := by
  have stored := twin.store (Nat.zero_le _) []
  have length := Twin.overwrite_length content (Nat.zero_le _) []
  refine ⟨stored.withCursor 0 0 0 0, rfl, rfl, ?_, ?_⟩
  · change 0 < _
    rw [length]
    exact Nat.lt_of_lt_of_le (by decide) (Nat.le_max_right _ _)
  · change 0 < _
    rw [length]
    exact Nat.lt_of_lt_of_le (by decide) (Nat.le_max_right _ _)

namespace InStep

variable {content : List UInt8} {a b : ReaderState}

theorem receive (inStep : InStep content a b) (bytes : List UInt8) :
    InStep (Twin.overwrite content a.readEnd bytes) (a.receive bytes) (b.receive bytes) := by
  have stored := inStep.twin.store inStep.readInside.le bytes
  have length := Twin.overwrite_length content inStep.readInside.le bytes
  have inside : (a.store a.readEnd (bytes ++ [0])).sAtBufferCur <
      (Twin.overwrite content a.readEnd bytes).length := by
    have := inStep.inside
    rw [length]
    exact lt_of_lt_of_le this (le_max_left _ _)
  obtain ⟨cursor, skipped⟩ := stored.skipNewlines inStep.cursor inside
  have right : b.receive bytes = { (b.store a.readEnd (bytes ++ [0])).skipNewlines with
      readEnd := a.readEnd + bytes.length } := by
    rw [inStep.readEnd]
    rfl
  rw [right]
  refine ⟨stored.withCursor _ _ _ _, cursor, rfl, skipped, ?_⟩
  simp only [ReaderState.receive]
  omega

end InStep

namespace Twin

variable {content : List UInt8} {a b : ReaderState}

theorem findNextEol_eq (twin : Twin content a b) (cursor : a.sAtBufferCur = b.sAtBufferCur)
    (inside : a.sAtBufferCur < content.length) :
    findNextEol a.fromCursor = findNextEol b.fromCursor := by
  obtain ⟨line, beyondA, beyondB, shapeA, shapeB, -⟩ := twin.fromCursor cursor inside
  rw [shapeA, shapeB, findNextEol_append_zero, findNextEol_append_zero]

/-- Both readers take the same line. Behind a prompt the cursor may stand at the
end of the content, where only blanks follow. -/
theorem returnLine (twin : Twin content a b) (cursor : a.sAtBufferCur = b.sAtBufferCur)
    (inside : a.sAtBufferCur < content.length) {eol : Nat}
    (found : findNextEol a.fromCursor = some eol) (input : Input) :
    SameCall (returnLine a eol input) (returnLine b eol input) := by
  obtain ⟨line, beyondA, beyondB, shapeA, shapeB, lengths⟩ := twin.fromCursor cursor inside
  have within : eol ≤ line.length ∧ (eol = line.length → eol = 2) := by
    rw [shapeA, findNextEol_append_zero] at found
    split_ifs at found with prompt
    · obtain rfl : 2 = eol := by simpa using found
      have shorter : (cString line).length ≤ line.length := (List.takeWhile_sublist _).length_le
      rw [prompt] at shorter
      exact ⟨shorter, fun _ => rfl⟩
    · have := scanEol_lt found
      omega
  have stored : Twin (overwrite content (a.sAtBufferCur + eol) [])
      (a.store (a.sAtBufferCur + eol) [0]) (b.store (a.sAtBufferCur + eol) [0]) :=
    twin.store (by omega) []
  have length : (overwrite content (a.sAtBufferCur + eol) []).length = content.length := by
    rw [overwrite_length content (by omega), List.length_nil]
    omega
  refine ⟨?_, rfl, fun _ => ⟨overwrite content (a.sAtBufferCur + eol) [], ?_, ?_⟩⟩
  · simp only [AtChannel.returnLine, takeLine, shapeA, shapeB]
    rw [List.take_append_of_le_length within.1, List.take_append_of_le_length within.1]
  · simpa only [AtChannel.returnLine, takeLine, ← cursor] using stored.withCursor _ _ _ _
  · by_cases last : eol = line.length
    · right
      have atEnd : a.sAtBufferCur + eol + 1 = content.length := by omega
      have two := within.2 last
      obtain ⟨restA, blankShapeA, blankA⟩ := stored.left
      obtain ⟨restB, blankShapeB, blankB⟩ := stored.right
      rw [length, show 3 - content.length = 0 by omega, List.drop_zero] at blankA blankB
      refine ⟨pending_of_blank ?_, pending_of_blank ?_⟩
      · have behind : (takeLine a eol).2.fromCursor = restA := by
          simp only [takeLine, ReaderState.fromCursor]
          rw [blankShapeA, atEnd]
          exact List.drop_left' length
        change ∀ c ∈ (takeLine a eol).2.fromCursor, _
        rwa [behind]
      · have behind : (takeLine b eol).2.fromCursor = restB := by
          simp only [takeLine, ReaderState.fromCursor, ← cursor]
          rw [blankShapeB, atEnd]
          exact List.drop_left' length
        change ∀ c ∈ (takeLine b eol).2.fromCursor, _
        rwa [behind]
    · left
      simp only [AtChannel.returnLine, takeLine, length]
      omega

/-- Both readers move the same partial line to the front. -/
theorem movePartialLine (twin : Twin content a b) (cursor : a.sAtBufferCur = b.sAtBufferCur)
    (inside : a.sAtBufferCur < content.length) :
    ∃ content, InStep content a.movePartialLine b.movePartialLine := by
  obtain ⟨line, beyondA, beyondB, shapeA, shapeB, lengths⟩ := twin.fromCursor cursor inside
  have moved : ∀ beyond, (line ++ 0 :: beyond).take ((cString (line ++ 0 :: beyond)).length + 1) =
      cString line ++ [0] := by
    intro beyond
    rw [cString_append_zero_congr]
    have front := List.prefix_iff_eq_take.mp (cString_zero_front line beyond)
    simpa using front.symm
  have stored := twin.store (Nat.zero_le _) (cString line)
  have length := overwrite_length content (Nat.zero_le _) (cString line)
  refine ⟨overwrite content 0 (cString line), ⟨?_, rfl, ?_, ?_, ?_⟩⟩
  · simpa only [ReaderState.movePartialLine, shapeA, shapeB, moved] using
      stored.withCursor _ _ _ _
  · simp only [ReaderState.movePartialLine, shapeA, shapeB, cString_append_zero_congr]
  · simp only [ReaderState.movePartialLine, length]
    omega
  · simp only [ReaderState.movePartialLine, length, shapeA, cString_append_zero_congr]
    omega

end Twin

theorem readlineLoop_same (fuel : Nat) {content : List UInt8} {a b : ReaderState}
    (inStep : InStep content a b) (input : Input) :
    SameCall (readlineLoop fuel a input) (readlineLoop fuel b input) := by
  induction fuel generalizing content a b input with
  | zero => exact ⟨rfl, rfl, fun line => absurd line (by simp [readlineLoop])⟩
  | succ fuel inductionHypothesis =>
      -- the overflow branch is taken by both or by neither
      obtain ⟨content, roomStep⟩ : ∃ content, InStep content
          (if maxAtResponse - a.readEnd = 0 then a.startOver else a)
          (if maxAtResponse - b.readEnd = 0 then b.startOver else b) := by
        rw [← inStep.readEnd]
        split_ifs
        · exact ⟨_, inStep.twin.startOver⟩
        · exact ⟨_, inStep⟩
      simp only [readlineLoop]
      generalize (if maxAtResponse - a.readEnd = 0 then a.startOver else a) = a at *
      generalize (if maxAtResponse - b.readEnd = 0 then b.startOver else b) = b at *
      rw [← roomStep.readEnd]
      cases readChunk (maxAtResponse - a.readEnd) input with
      | none => exact ⟨rfl, rfl, fun line => absurd line (by simp)⟩
      | some chunk =>
          obtain ⟨bytes, rest⟩ := chunk
          have received := roomStep.receive bytes
          simp only
          rw [← received.twin.findNextEol_eq received.cursor received.inside]
          cases found : findNextEol (a.receive bytes).fromCursor with
          | some eol => exact received.twin.returnLine received.cursor received.inside found rest
          | none => exact inductionHypothesis received rest

/-- With nothing but newlines left, a call starts over with an empty buffer. -/
theorem readline_of_newlines {st : ReaderState} (sized : Sized st)
    (newlines : ∀ c ∈ st.pending, isNewline c = true) (input : Input) :
    readline st input = readlineLoop (input.flatten.length + 1) st.startOver input := by
  unfold readline
  by_cases consumed : st.atCursor = 0
  · rw [if_pos consumed]
  · rw [if_neg consumed]
    obtain ⟨skipped, -⟩ := (sized.holds_pending consumed).skipNewlines
    have empty : st.pending.dropWhile isNewline = [] := by
      rwa [List.dropWhile_eq_nil_iff]
    rw [empty] at skipped
    obtain ⟨beyond, shape⟩ := skipped.terminated
    have none' : findNextEol st.skipNewlines.fromCursor = none := by
      rw [skipped.findNextEol_eq]
      simp [cString, smsPrompt, scanEol]
    have moved : st.skipNewlines.movePartialLine = st.skipNewlines.startOver := by
      simp only [ReaderState.movePartialLine, shape]
      simp [cString, ReaderState.startOver, ReaderState.store]
    simp only [none', moved]
    rfl

theorem readline_same {a b : ReaderState} (sizedA : Sized a) (sizedB : Sized b)
    (alike : Alike a b) (input : Input) : SameCall (readline a input) (readline b input) := by
  obtain ⟨content, twin, ⟨cursor, inside⟩ | ⟨newlinesA, newlinesB⟩⟩ := alike
  · unfold readline
    obtain ⟨line, beyondA, beyondB, shapeA, shapeB, -⟩ := twin.fromCursor cursor inside
    have atCursor : a.atCursor = b.atCursor := by
      cases line <;> simp [ReaderState.atCursor, shapeA, shapeB]
    rw [atCursor]
    by_cases consumed : b.atCursor = 0
    · rw [if_pos consumed, if_pos consumed]
      exact readlineLoop_same _ twin.startOver input
    · rw [if_neg consumed, if_neg consumed]
      obtain ⟨skipCursor, skipInside⟩ := twin.skipNewlines cursor inside
      have skipped : Twin content a.skipNewlines b.skipNewlines := twin.withCursor _ _ _ _
      simp only
      rw [← skipped.findNextEol_eq skipCursor skipInside]
      cases found : findNextEol a.skipNewlines.fromCursor with
      | some eol => exact skipped.returnLine skipCursor skipInside found input
      | none =>
          obtain ⟨moved, movedStep⟩ := skipped.movePartialLine skipCursor skipInside
          exact readlineLoop_same _ movedStep input
  · rw [readline_of_newlines sizedA newlinesA, readline_of_newlines sizedB newlinesB]
    exact readlineLoop_same _ twin.startOver input

theorem readline_sized {st : ReaderState} (sized : Sized st) (input : Input) :
    Sized (readline st input).2.1 := by
  have call := readline_refines sized input
  cases outcome : pendingReadline st.pending input with
  | line text behind rest =>
      rw [outcome] at call
      exact call.2.2.1.sized
  | prompt pending rest =>
      rw [outcome] at call
      exact call.2.2.1
  | endOfInput pending =>
      rw [outcome] at call
      exact call.2.2.1.sized

/-- **Alike readers return the same lines.** -/
theorem readLines_same (fuel : Nat) {a b : ReaderState} (sizedA : Sized a) (sizedB : Sized b)
    (alike : Alike a b) (input : Input) :
    (readLines fuel a input).1 = (readLines fuel b input).1 := by
  induction fuel generalizing a b input with
  | zero => rfl
  | succ fuel inductionHypothesis =>
      have same := readline_same sizedA sizedB alike input
      have afterA := readline_sized sizedA input
      have afterB := readline_sized sizedB input
      simp only [readLines]
      generalize readline a input = callA at *
      generalize readline b input = callB at *
      obtain ⟨lineA, nextA, inputA⟩ := callA
      obtain ⟨lineB, nextB, inputB⟩ := callB
      obtain ⟨line, left, next⟩ := same
      obtain rfl : lineA = lineB := line
      obtain rfl : inputA = inputB := left
      cases lineA with
      | none => rfl
      | some text =>
          exact congrArg (text :: ·) (inductionHypothesis afterA afterB (next rfl) inputA)

end RildHisi.AtChannel
