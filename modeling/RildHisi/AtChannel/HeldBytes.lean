import RildHisi.AtChannel.ReadCursor

/-!
Owns where the reader stands in a stream that may have NUL bytes: the bytes it
holds, and those it has lost behind a NUL.

A line that fits comes whole, whatever is behind it (`Awaits.line`), and a
buffer in which no line ends is dropped once it is full (`pendingLoop_ditch`).
Streams without NUL bytes and over-long lines are delivered from wherever in the
buffer they begin (`Awaits.segments`).
-/

namespace RildHisi.AtChannel

open RildHisi.Library

/-! ### Calls in the abstract reader -/

/-- The lines of the calls from one with this outcome on; none where one of them finds
the unterminated prompt. -/
def callsFrom : Nat → Outcome → Option (List CString)
  | 0, _ => some []
  | _ + 1, .prompt _ _ => none
  | _ + 1, .endOfInput _ => some []
  | fuel + 1, .line text behind input =>
      (callsFrom fuel (pendingReadline (cString behind) input)).map (text :: ·)

theorem callsFrom_line {fuel : Nat} {text : CString} {behind : List UInt8} {input : Input}
    {lines : List CString} (calls : callsFrom (fuel + 1) (.line text behind input) = some lines) :
    ∃ rest, lines = text :: rest ∧
      callsFrom fuel (pendingReadline (cString behind) input) = some rest := by
  obtain ⟨rest, later, rfl⟩ := Option.map_eq_some_iff.mp calls
  exact ⟨rest, rfl, later⟩

theorem not_isPrompt_of_callsFrom {fuel : Nat} {outcome : Outcome} {lines : List CString}
    (calls : callsFrom (fuel + 1) outcome = some lines) : outcome.isPrompt = false := by
  cases outcome with
  | prompt pending input => cases calls
  | line text behind input => rfl
  | endOfInput pending => rfl

/-- `readLines` makes these calls. -/
theorem readLines_eq_callsFrom (fuel : Nat) {st : ReaderState} {input : Input}
    {lines : List CString} (sized : Sized st)
    (calls : callsFrom fuel (pendingReadline st.pending input) = some lines) :
    (readLines fuel st input).1 = lines := by
  induction fuel generalizing st input lines with
  | zero => exact Option.some.inj calls
  | succ fuel inductionHypothesis =>
      have call := readline_refines sized input
      rcases shape : readline st input with ⟨line, next, left⟩
      rw [shape] at call
      simp only [readLines, shape]
      cases outcome : pendingReadline st.pending input with
      | prompt pending rest =>
          rw [outcome] at calls
          cases calls
      | endOfInput pending =>
          rw [outcome] at calls call
          obtain ⟨rfl, -⟩ := call
          exact Option.some.inj calls
      | line text behind rest =>
          rw [outcome] at calls call
          obtain ⟨rfl, rfl, holds, -⟩ := call
          obtain ⟨later, rfl, following⟩ := callsFrom_line calls
          rw [← holds.pending_eq] at following
          exact congrArg (text :: ·) (inductionHypothesis holds.sized following)

/-- A prompt that is found is returned as a line. -/
theorem prompt_of_callsFrom_none (fuel : Nat) {st : ReaderState} {input : Input}
    (sized : Sized st) (calls : callsFrom fuel (pendingReadline st.pending input) = none) :
    smsPrompt ∈ (readLines fuel st input).1 := by
  induction fuel generalizing st input with
  | zero => cases calls
  | succ fuel inductionHypothesis =>
      have call := readline_refines sized input
      rcases shape : readline st input with ⟨line, next, left⟩
      rw [shape] at call
      simp only [readLines, shape]
      cases outcome : pendingReadline st.pending input with
      | prompt pending rest =>
          rw [outcome] at call
          obtain ⟨rfl, -⟩ := call
          exact List.mem_cons_self
      | endOfInput pending =>
          rw [outcome] at calls
          cases calls
      | line text behind rest =>
          rw [outcome] at calls call
          obtain ⟨rfl, rfl, holds, -⟩ := call
          have following := Option.map_eq_none_iff.mp calls
          rw [← holds.pending_eq] at following
          exact List.mem_cons_of_mem _ (inductionHypothesis holds.sized following)

/-! ### A line that can be seen -/

/-- Without the prompt, the end-of-line test is the scan. -/
theorem endOfLineTest_of_not_isPrompt {pending : List UInt8} {input : Input} {next : Outcome}
    (noPrompt : (endOfLineTest pending input next).isPrompt = false) :
    endOfLineTest pending input next = (scanEol pending).elim next fun eol =>
      .line (pending.take eol) (pending.drop (eol + 1)) input := by
  unfold endOfLineTest at noPrompt ⊢
  split_ifs at noPrompt ⊢ with prompt
  · cases noPrompt
  · cases scanEol pending <;> rfl

/-- A call looks at what is held, then goes to the loop. -/
theorem pendingReadline_eq {pending : CString} {input : Input}
    (noPrompt : (pendingReadline pending input).isPrompt = false) :
    pendingReadline pending input =
      (scanEol (pending.dropWhile isNewline)).elim
        (pendingLoop (input.flatten.length + 1) (pending.dropWhile isNewline)
          (pending.dropWhile isNewline).length input)
        fun eol => .line ((pending.dropWhile isNewline).take eol)
          ((pending.dropWhile isNewline).drop (eol + 1)) input := by
  unfold pendingReadline at noPrompt ⊢
  split_ifs at noPrompt ⊢ with empty
  · subst empty
    rfl
  · exact endOfLineTest_of_not_isPrompt noPrompt

theorem scanEol_line {line : List UInt8} (open' : ∀ d ∈ line, isNewline d = false)
    (clean : (0 : UInt8) ∉ line) {c : UInt8} (newline : isNewline c = true)
    (behind : List UInt8) : scanEol (line ++ c :: behind) = some line.length := by
  induction line with
  | nil =>
      have nonzero : c ≠ 0 := by
        rintro rfl
        cases newline
      simp [scanEol, nonzero, newline]
  | cons d line inductionHypothesis =>
      have nonzero : d ≠ 0 := fun zero => clean (by simp [zero])
      have rest := inductionHypothesis (fun e member => open' e (by simp [member]))
        (fun member => clean (by simp [member]))
      simp [scanEol, nonzero, open' d (by simp), rest]

theorem scanEol_open {line : List UInt8} (open' : ∀ d ∈ line, isNewline d = false) :
    scanEol line = none := by
  induction line with
  | nil => rfl
  | cons d line inductionHypothesis =>
      have rest := inductionHypothesis (fun e member => open' e (by simp [member]))
      simp [scanEol, open' d (by simp), rest]

theorem dropWhile_front {front rest : List UInt8} (newlines : ∀ d ∈ front, isNewline d = true)
    (started : ∀ d ∈ rest.head?, isNewline d = false) :
    (front ++ rest).dropWhile isNewline = rest := by
  rw [List.dropWhile_append_of_pos newlines]
  cases rest with
  | nil => rfl
  | cons d rest => rw [List.dropWhile_cons_of_neg (by simp [started d rfl])]

/-- The bytes in the buffer against the first line of the stream: within the newlines in
front, within the line, or behind its end. -/
theorem held_cases {held left front line more : List UInt8} {c : UInt8}
    (stream : held ++ left = front ++ (line ++ c :: more)) :
    (∃ a, front = held ++ a ∧ left = a ++ (line ++ c :: more)) ∨
      (∃ a b, held = front ++ a ∧ line = a ++ b ∧ left = b ++ c :: more) ∨
      ∃ b, held = front ++ (line ++ c :: b) ∧ more = b ++ left := by
  rcases List.append_eq_append_iff.mp stream with ⟨a, rfl, rest⟩ | ⟨a, rfl, rest⟩
  · exact Or.inl ⟨a, rfl, rest⟩
  · rcases List.append_eq_append_iff.mp rest.symm with ⟨b, rfl, tail⟩ | ⟨b, rfl, tail⟩
    · exact Or.inr (Or.inl ⟨a, b, rfl, rfl, tail⟩)
    · cases b with
      | nil => exact Or.inr (Or.inl ⟨line, [], by simp, by simp, by simpa using tail.symm⟩)
      | cons d b =>
          obtain ⟨rfl, rfl⟩ := List.cons.inj tail
          exact Or.inr (Or.inr ⟨b, rfl, rfl⟩)

/-- **A line that fits comes whole.** The loop returns the next line of the stream and
leaves what is behind it, NUL bytes or not. -/
theorem pendingLoop_line (fuel : Nat) {pending front line more : List UInt8} {used : Nat}
    {input : Input} {c : UInt8}
    (stream : pending ++ input.flatten = front ++ (line ++ c :: more))
    (newlines : ∀ d ∈ front, isNewline d = true) (nonempty : line ≠ [])
    (open' : ∀ d ∈ line, isNewline d = false) (clean : (0 : UInt8) ∉ line)
    (newline : isNewline c = true) (unended : ∀ d ∈ pending, isNewline d = false)
    (within : pending.length ≤ used)
    (room : used + front.length + line.length + 1 ≤ maxAtResponse + pending.length)
    (noPrompt : (pendingLoop fuel pending used input).isPrompt = false)
    (enough : input.flatten.length < fuel) :
    ∃ behind rest, pendingLoop fuel pending used input = .line line behind rest ∧
      behind ++ rest.flatten = more ∧ behind.length < maxAtResponse := by
  induction fuel generalizing pending front used input with
  | zero => omega
  | succ fuel inductionHypothesis =>
      have lengths := congrArg List.length stream
      simp only [List.length_append, List.length_cons] at lengths
      have held : pending.length ≤ front.length + line.length := by
        rcases held_cases stream with ⟨a, rfl, -⟩ | ⟨a, b, rfl, rfl, -⟩ | ⟨b, rfl, -⟩
        · simp only [List.length_append]
          omega
        · simp only [List.length_append]
          omega
        · exact absurd (unended c (by simp)) (by simp [newline])
      have notFull : ¬ maxAtResponse - used = 0 := by omega
      simp only [pendingLoop, if_neg notFull, pendingRound] at noPrompt ⊢
      cases read : readChunk (maxAtResponse - used) input with
      | none =>
          have nothing := congrArg List.length (readChunk_none read)
          simp only [List.length_nil] at nothing
          omega
      | some chunk =>
          obtain ⟨bytes, rest⟩ := chunk
          obtain ⟨fits, consumed⟩ := readChunk_length read
          have progress := List.length_pos_of_ne_nil (readChunk_nonempty (by omega) read)
          have shorter : rest.flatten.length < fuel := by
            have := congrArg List.length consumed
            simp only [List.length_append] at this
            omega
          simp only [read] at noPrompt ⊢
          have test := endOfLineTest_of_not_isPrompt noPrompt
          rw [test] at noPrompt ⊢
          rw [consumed, ← List.append_assoc] at stream
          rcases held_cases stream with ⟨a, rfl, left⟩ | ⟨a, b, whole, rfl, left⟩ | ⟨b, whole, rfl⟩
          · -- still within the newlines in front
            have emptied : (pending ++ bytes).dropWhile isNewline = [] :=
              List.dropWhile_eq_nil_iff.mpr fun d member => newlines d (List.mem_append_left _ member)
            simp only [List.length_append] at room lengths
            rw [emptied] at noPrompt ⊢
            refine inductionHypothesis (by simpa using left)
              (fun d member => newlines d (by simp [member])) (by simp) (by simp) ?_ noPrompt shorter
            have none : pending = [] := List.eq_nil_iff_forall_not_mem.mpr fun d member =>
              absurd (newlines d (by simp [member])) (by simp [unended d member])
            simp only [none, List.length_nil] at room ⊢
            omega
          · -- within the line
            have startedA : ∀ d ∈ a.head?, isNewline d = false := fun d first =>
              open' d (List.mem_append_left _ (List.mem_of_head? first))
            have openA : ∀ d ∈ a, isNewline d = false := fun d member =>
              open' d (List.mem_append_left _ member)
            have sizes := congrArg List.length whole
            simp only [List.length_append] at sizes room
            rw [whole, dropWhile_front newlines startedA] at noPrompt ⊢
            simp only [scanEol_open openA, Option.elim_none] at noPrompt ⊢
            have same : a ++ rest.flatten = [] ++ (a ++ b ++ c :: more) := by simp [left]
            refine inductionHypothesis same (by simp) openA (by omega) ?_ noPrompt shorter
            simp only [List.length_append, List.length_nil]
            omega
          · -- the end of the line has come
            have started : ∀ d ∈ (line ++ c :: b).head?, isNewline d = false := by
              intro d first
              rw [List.head?_append_of_ne_nil _ nonempty] at first
              exact open' d (List.mem_of_head? first)
            have sizes := congrArg List.length whole
            simp only [List.length_append, List.length_cons] at sizes
            rw [whole, dropWhile_front newlines started]
            simp only [scanEol_line open' clean newline, Option.elim_some]
            refine ⟨b, rest, by simp, rfl, ?_⟩
            omega

/-! ### A buffer that fills up -/

/-- No line ends in these bytes, newlines in front left out. -/
def Unended (bytes : List UInt8) : Prop := scanEol (bytes.dropWhile isNewline) = none

theorem scanEol_append {bytes : List UInt8} {eol : Nat} (found : scanEol bytes = some eol)
    (more : List UInt8) : scanEol (bytes ++ more) = some eol := by
  induction bytes generalizing eol with
  | nil => cases found
  | cons c bytes inductionHypothesis =>
      simp only [List.cons_append, scanEol] at found ⊢
      split_ifs at found ⊢
      · exact found
      · obtain ⟨before, inRest, rfl⟩ := Option.map_eq_some_iff.mp found
        rw [inductionHypothesis inRest]
        rfl

theorem Unended.front {bytes : List UInt8} (more : List UInt8)
    (unended : Unended (bytes ++ more)) : Unended bytes := by
  unfold Unended at unended ⊢
  by_contra ended
  obtain ⟨eol, found⟩ := Option.ne_none_iff_exists'.mp ended
  have nonempty : bytes.dropWhile isNewline ≠ [] := by
    intro empty
    rw [empty] at found
    cases found
  rw [List.dropWhile_append, if_neg (by simpa using nonempty), scanEol_append found] at unended
  cases unended

/-- Newlines, then a line without its end. -/
theorem unended_line {front line : List UInt8} (newlines : ∀ d ∈ front, isNewline d = true)
    (open' : ∀ d ∈ line, isNewline d = false) : Unended (front ++ line) := by
  unfold Unended
  rw [dropWhile_front newlines fun d first => open' d (List.mem_of_head? first)]
  exact scanEol_open open'

theorem scanEol_zero {line : List UInt8} (open' : ∀ d ∈ line, isNewline d = false)
    (nul : (0 : UInt8) ∈ line) (more : List UInt8) : scanEol (line ++ more) = none := by
  induction line with
  | nil => cases nul
  | cons d line inductionHypothesis =>
      simp only [List.cons_append, scanEol]
      split_ifs with zero newline
      · rfl
      · exact absurd newline (by simp [open' d (by simp)])
      · have inLine : (0 : UInt8) ∈ line := by
          rcases List.mem_cons.mp nul with rfl | inLine
          · exact absurd rfl zero
          · exact inLine
        rw [inductionHypothesis (fun e member => open' e (by simp [member])) inLine]
        rfl

/-- The same with a NUL in the line, whatever follows it. -/
theorem unended_zero {front line : List UInt8} (newlines : ∀ d ∈ front, isNewline d = true)
    (open' : ∀ d ∈ line, isNewline d = false) (nul : (0 : UInt8) ∈ line) (more : List UInt8) :
    Unended (front ++ line ++ more) := by
  unfold Unended
  have nonempty : line ≠ [] := List.ne_nil_of_mem nul
  have started : ∀ d ∈ (line ++ more).head?, isNewline d = false := by
    intro d first
    rw [List.head?_append_of_ne_nil _ nonempty] at first
    exact open' d (List.mem_of_head? first)
  rw [List.append_assoc, dropWhile_front newlines started]
  exact scanEol_zero open' nul more

theorem Unended.dropWhile {bytes more : List UInt8} (unended : Unended (bytes ++ more)) :
    Unended (bytes.dropWhile isNewline ++ more) := by
  unfold Unended at unended ⊢
  rw [List.dropWhile_append] at unended ⊢
  rw [dropWhile_idem]
  exact unended

/-- **A full buffer is dropped.** Where no line ends in what still fits the buffer, the loop
starts over with the bytes behind, or meets the end of the input. -/
theorem pendingLoop_ditch (fuel : Nat) {pending : List UInt8} {used : Nat} {input : Input}
    (unended : Unended (pending ++ input.flatten.take (maxAtResponse - used)))
    (inside : used ≤ maxAtResponse)
    (noPrompt : (pendingLoop fuel pending used input).isPrompt = false)
    (enough : input.flatten.length < fuel) :
    (input.flatten.length < maxAtResponse - used ∧
      ∃ left, pendingLoop fuel pending used input = .endOfInput left) ∨
    maxAtResponse - used ≤ input.flatten.length ∧
      ∃ later rest, pendingLoop fuel pending used input = pendingLoop later [] 0 rest ∧
        rest.flatten = input.flatten.drop (maxAtResponse - used) ∧
        rest.flatten.length < later := by
  induction fuel generalizing pending used input with
  | zero => omega
  | succ fuel inductionHypothesis =>
      by_cases full : maxAtResponse - used = 0
      · refine Or.inr ⟨by omega, fuel + 1, input, ?_, by simp [full], enough⟩
        have empty : ¬ maxAtResponse - 0 = 0 := by decide
        simp only [pendingLoop, if_pos full, if_neg empty]
      · simp only [pendingLoop, if_neg full, pendingRound] at noPrompt ⊢
        cases read : readChunk (maxAtResponse - used) input with
        | none =>
            rw [readChunk_none read]
            exact Or.inl ⟨by simpa using Nat.pos_of_ne_zero full, _, rfl⟩
        | some chunk =>
            obtain ⟨bytes, rest⟩ := chunk
            obtain ⟨fits, consumed⟩ := readChunk_length read
            have progress := List.length_pos_of_ne_nil (readChunk_nonempty (by omega) read)
            have sizes := congrArg List.length consumed
            simp only [List.length_append] at sizes
            simp only [read] at noPrompt ⊢
            have test := endOfLineTest_of_not_isPrompt noPrompt
            rw [test] at noPrompt ⊢
            have room : maxAtResponse - used = bytes.length + (maxAtResponse - (used + bytes.length)) := by
              omega
            rw [consumed, room, List.take_append, List.take_of_length_le (by omega),
              Nat.add_sub_cancel_left, ← List.append_assoc] at unended
            simp only [show scanEol ((pending ++ bytes).dropWhile isNewline) = none from
              unended.front _, Option.elim_none] at noPrompt ⊢
            rcases inductionHypothesis unended.dropWhile (by omega) noPrompt (by omega) with
              ⟨short, left, ended⟩ | ⟨long, later, left, same, behind, enoughLater⟩
            · exact Or.inl ⟨by omega, left, ended⟩
            · refine Or.inr ⟨by omega, later, left, same, ?_, enoughLater⟩
              rw [behind, consumed, room, ← List.drop_drop, List.drop_left]

/-! ### Where the reader stands -/

/-- The reader stands in front of `stream`: `pending` is held in the buffer, and what was
read behind a NUL is lost. -/
structure Awaits (stream : List UInt8) (pending : CString) (input : Input) : Prop where
  clean : (0 : UInt8) ∉ pending
  short : pending.length < maxAtResponse
  stream : ∃ lost, stream = pending ++ (lost ++ input.flatten) ∧
    (lost = [] ∨ ∃ rest, lost = 0 :: rest)

/-- What a call leaves behind its line. -/
theorem awaits_behind {behind : List UInt8} {input : Input} (short : behind.length < maxAtResponse) :
    Awaits (behind ++ input.flatten) (cString behind) input where
  clean := zero_notMem_cString behind
  short := Nat.lt_of_le_of_lt (List.takeWhile_sublist _).length_le short
  stream := by
    refine ⟨behind.dropWhile (· ≠ 0), ?_, ?_⟩
    · rw [← List.append_assoc, cString, List.takeWhile_append_dropWhile]
    · cases shape : behind.dropWhile (· ≠ (0 : UInt8)) with
      | nil => exact Or.inl rfl
      | cons c rest =>
          have head := List.head?_dropWhile_not (· ≠ (0 : UInt8)) behind
          rw [shape] at head
          obtain rfl : c = 0 := by simpa using head
          exact Or.inr ⟨rest, rfl⟩

theorem nonzero_of_isNewline {c : UInt8} (newline : isNewline c = true) : c ≠ 0 := by
  rintro rfl
  cases newline

/-- Nothing is lost in front of a newline that no NUL precedes. -/
theorem lost_eq_nil {lost input front more : List UInt8} {c : UInt8}
    (nul : lost = [] ∨ ∃ rest, lost = 0 :: rest) (left : lost ++ input = front ++ c :: more)
    (clean : (0 : UInt8) ∉ front) (newline : isNewline c = true) : lost = [] := by
  rcases nul with empty | ⟨rest, rfl⟩
  · exact empty
  · cases front with
    | nil => exact absurd (List.cons.inj left).1.symm (nonzero_of_isNewline newline)
    | cons d front => exact absurd (by simp [(List.cons.inj left).1]) clean

/-- **The next line that fits is the one returned**, as long as no NUL stands in front of
its end. -/
theorem Awaits.line {stream front line more : List UInt8} {pending : CString} {input : Input}
    {c : UInt8} (awaits : Awaits stream pending input)
    (shape : stream = front ++ (line ++ c :: more))
    (newlines : ∀ d ∈ front, isNewline d = true) (nonempty : line ≠ [])
    (open' : ∀ d ∈ line, isNewline d = false) (clean : (0 : UInt8) ∉ line)
    (newline : isNewline c = true) (fits : front.length + line.length + 1 ≤ maxAtResponse)
    (noPrompt : (pendingReadline pending input).isPrompt = false) :
    ∃ behind rest, pendingReadline pending input = .line line behind rest ∧
      Awaits more (cString behind) rest := by
  obtain ⟨lost, same, nul⟩ := awaits.stream
  have held := same.symm.trans shape
  have short := awaits.short
  have call := pendingReadline_eq noPrompt
  rcases held_cases held with ⟨a, rfl, left⟩ | ⟨a, b, rfl, rfl, left⟩ | ⟨b, rfl, rfl⟩
  · -- nothing but newlines is held
    have zeroFree : (0 : UInt8) ∉ a ++ line := by
      intro member
      rcases List.mem_append.mp member with inFront | inLine
      · exact nonzero_of_isNewline (newlines 0 (by simp [inFront])) rfl
      · exact clean inLine
    rw [← List.append_assoc] at left
    obtain rfl := lost_eq_nil nul left zeroFree newline
    have emptied : pending.dropWhile isNewline = [] :=
      List.dropWhile_eq_nil_iff.mpr fun d member => newlines d (List.mem_append_left _ member)
    simp only [emptied, scanEol, Option.elim_none] at call
    simp only [List.length_append] at fits
    rw [call] at noPrompt ⊢
    obtain ⟨behind, rest, returned, rfl, room⟩ := pendingLoop_line _ (by simpa using left)
      (fun d member => newlines d (by simp [member])) nonempty open' clean newline (by simp)
      (Nat.le_refl _) (by simp only [List.length_nil]; omega) noPrompt (Nat.lt_succ_self _)
    exact ⟨behind, rest, returned, awaits_behind room⟩
  · -- the line has begun
    have openA : ∀ d ∈ a, isNewline d = false := fun d member =>
      open' d (List.mem_append_left _ member)
    obtain rfl := lost_eq_nil nul left (fun member => clean (by simp [member])) newline
    have dropped := dropWhile_front newlines fun d first => openA d (List.mem_of_head? first)
    simp only [dropped, scanEol_open openA, Option.elim_none] at call
    simp only [List.length_append] at fits short
    rw [call] at noPrompt ⊢
    have same : a ++ input.flatten = [] ++ (a ++ b ++ c :: more) := by simpa using left
    obtain ⟨behind, rest, returned, rfl, room⟩ := pendingLoop_line _ same (by simp) nonempty
      open' clean newline openA (Nat.le_refl _)
      (by simp only [List.length_nil, List.length_append]; omega) noPrompt (Nat.lt_succ_self _)
    exact ⟨behind, rest, returned, awaits_behind room⟩
  · -- the whole line is held
    have started : ∀ d ∈ (line ++ c :: b).head?, isNewline d = false := by
      intro d first
      rw [List.head?_append_of_ne_nil _ nonempty] at first
      exact open' d (List.mem_of_head? first)
    have zeroFree : (0 : UInt8) ∉ b := fun member => awaits.clean (by simp [member])
    simp only [dropWhile_front newlines started, scanEol_line open' clean newline,
      Option.elim_some] at call
    rw [call]
    refine ⟨b, input, by simp, ?_⟩
    rw [cString_eq_self zeroFree]
    simp only [List.length_append, List.length_cons] at short
    exact ⟨zeroFree, by omega, lost, rfl, nul⟩

/-! ### Streams without a malformed segment -/

/-- Newlines and an unfinished line come to the end of the input, from an empty buffer. -/
theorem pendingLoop_unfinished (fuel : Nat) {front line : List UInt8} {input : Input}
    (stream : input.flatten = front ++ line) (newlines : ∀ d ∈ front, isNewline d = true)
    (open' : ∀ d ∈ line, isNewline d = false)
    (noPrompt : (pendingLoop fuel [] 0 input).isPrompt = false)
    (enough : input.flatten.length < fuel) :
    ∃ left, pendingLoop fuel [] 0 input = .endOfInput left := by
  induction size : input.flatten.length using Nat.strong_induction_on
    generalizing fuel front line input with
  | _ size inductionHypothesis =>
      have unended : Unended ([] ++ input.flatten.take (maxAtResponse - 0)) := by
        apply Unended.front (input.flatten.drop (maxAtResponse - 0))
        rw [List.nil_append, List.take_append_drop, stream]
        exact unended_line newlines open'
      rcases pendingLoop_ditch fuel unended (Nat.zero_le _) noPrompt enough with
        ⟨-, ended⟩ | ⟨long, later, rest, same, behind, enoughLater⟩
      · exact ended
      · rw [same] at noPrompt ⊢
        have buffer : maxAtResponse = 8192 := rfl
        have shorter := congrArg List.length behind
        simp only [List.length_drop] at shorter
        rw [stream, List.drop_append] at behind
        exact inductionHypothesis rest.flatten.length (by omega) later behind
          (fun d member => newlines d (List.mem_of_mem_drop member))
          (fun d member => open' d (List.mem_of_mem_drop member)) noPrompt enoughLater rfl

/-- The same for a call. -/
theorem Awaits.unfinished {front line : List UInt8} {pending : CString} {input : Input}
    (awaits : Awaits (front ++ line) pending input)
    (newlines : ∀ d ∈ front, isNewline d = true) (open' : ∀ d ∈ line, isNewline d = false)
    (clean : (0 : UInt8) ∉ line)
    (noPrompt : (pendingReadline pending input).isPrompt = false) :
    ∃ left, pendingReadline pending input = .endOfInput left := by
  obtain ⟨lost, stream, nul⟩ := awaits.stream
  have zeroFree : (0 : UInt8) ∉ front ++ line := by
    intro member
    rcases List.mem_append.mp member with inFront | inLine
    · exact nonzero_of_isNewline (newlines 0 inFront) rfl
    · exact clean inLine
  obtain rfl : lost = [] := by
    rcases nul with empty | ⟨rest, rfl⟩
    · exact empty
    · exact absurd (by simp [stream]) zeroFree
  rw [List.nil_append] at stream
  have whole : Unended (pending ++ input.flatten) := stream ▸ unended_line newlines open'
  have call := pendingReadline_eq noPrompt
  rw [show scanEol (pending.dropWhile isNewline) = none from whole.front _, Option.elim_none] at call
  rw [call] at noPrompt ⊢
  have visible : Unended (pending.dropWhile isNewline ++
      input.flatten.take (maxAtResponse - (pending.dropWhile isNewline).length)) := by
    refine Unended.dropWhile (Unended.front
      (input.flatten.drop (maxAtResponse - (pending.dropWhile isNewline).length)) ?_)
    rw [List.append_assoc, List.take_append_drop]
    exact whole
  have short := (List.dropWhile_sublist isNewline (l := pending)).length_le.trans awaits.short.le
  rcases pendingLoop_ditch _ visible short noPrompt (Nat.lt_succ_self _) with
    ⟨-, ended⟩ | ⟨-, later, rest, same, behind, enough⟩
  · exact ended
  · rw [same] at noPrompt ⊢
    have suffix : input.flatten = (front ++ line).drop pending.length := by
      rw [stream, List.drop_left]
    rw [suffix, List.drop_drop, List.drop_append] at behind
    exact pendingLoop_unfinished later behind
      (fun d member => newlines d (List.mem_of_mem_drop member))
      (fun d member => open' d (List.mem_of_mem_drop member)) noPrompt enough

/-- A stream whose segments are all well formed. -/
structure WellFormed (stream : List UInt8) : Prop where
  nulFree : (0 : UInt8) ∉ stream
  fits : FitsBuffer stream

theorem WellFormed.behind (front : List UInt8) {stream : List UInt8}
    (wellFormed : WellFormed (front ++ stream)) : WellFormed stream where
  nulFree member := wellFormed.nulFree (List.mem_append_right _ member)
  fits inner run line behind shape :=
    wellFormed.fits (front ++ inner) run line behind (by rw [shape, List.append_assoc])

theorem wellFormed_of_short {stream : List UInt8} (nulFree : (0 : UInt8) ∉ stream)
    (short : stream.length < maxAtResponse) : WellFormed stream where
  nulFree := nulFree
  fits front run line behind shape _ _ _ := by
    have sizes := congrArg List.length shape
    simp only [List.length_append] at sizes
    omega

theorem WellFormed.segment_length {stream segment : List UInt8} (wellFormed : WellFormed stream)
    (member : segment ∈ Library.segments isNewline stream) : segment.length < maxAtResponse := by
  obtain ⟨front, rest, shape, nonempty, open'⟩ := exists_of_mem_segments member
  have fits := wellFormed.fits front [] segment rest shape (by simp) open' nonempty
  simp only [List.length_nil] at fits
  omega

/-- **Well-formed streams are delivered.** -/
theorem Awaits.segments {stream : List UInt8} {pending : CString} {input : Input} (fuel : Nat)
    {lines : List CString} (awaits : Awaits stream pending input) (wellFormed : WellFormed stream)
    (calls : callsFrom fuel (pendingReadline pending input) = some lines)
    (enough : stream.length < fuel) : lines = Library.segments isNewline stream := by
  induction fuel generalizing stream pending input lines with
  | zero => omega
  | succ fuel inductionHypothesis =>
      have noPrompt := not_isPrompt_of_callsFrom calls
      rcases exists_first_segment isNewline stream with
        ⟨front, line, rfl, newlines, open'⟩ |
        ⟨front, line, c, rest, rfl, newlines, nonempty, open', newline⟩
      · have clean : (0 : UInt8) ∉ line := fun member => wellFormed.nulFree (by simp [member])
        obtain ⟨left, ended⟩ := awaits.unfinished newlines open' clean noPrompt
        rw [ended] at calls
        rw [segments_tail newlines open']
        exact (Option.some.inj calls).symm
      · have clean : (0 : UInt8) ∉ line := fun member => wellFormed.nulFree (by simp [member])
        have fits := wellFormed.fits [] front line (c :: rest) rfl newlines open' nonempty
        obtain ⟨behind, left, returned, following⟩ :=
          awaits.line rfl newlines nonempty open' clean newline fits noPrompt
        rw [returned] at calls
        obtain ⟨later, rfl, remaining⟩ := callsFrom_line calls
        have restFormed : WellFormed rest := by
          apply WellFormed.behind (front ++ (line ++ [c]))
          simpa using wellFormed
        rw [segments_append_seps newlines, segments_segment_append nonempty open' newline,
          inductionHypothesis following restFormed remaining ?_]
        simp only [List.length_append, List.length_cons] at enough
        omega

/-- The loop does not depend on its fuel. -/
theorem pendingLoop_fuel (first second : Nat) {pending : List UInt8} {used : Nat} {input : Input}
    (enough : input.flatten.length < first) (enoughToo : input.flatten.length < second) :
    pendingLoop first pending used input = pendingLoop second pending used input := by
  induction first generalizing second pending used input with
  | zero => omega
  | succ first inductionHypothesis =>
      cases second with
      | zero => omega
      | succ second =>
          simp only [pendingLoop, pendingRound]
          have spaceLeft : 0 < maxAtResponse - if maxAtResponse - used = 0 then 0 else used := by
            split_ifs with full
            · decide
            · omega
          cases read : readChunk
              (maxAtResponse - if maxAtResponse - used = 0 then 0 else used) input with
          | none => rfl
          | some chunk =>
              obtain ⟨bytes, rest⟩ := chunk
              have progress := List.length_pos_of_ne_nil (readChunk_nonempty spaceLeft read)
              have sizes := congrArg List.length (readChunk_length read).2
              simp only [List.length_append] at sizes
              simp only
              rw [inductionHypothesis second (by omega) (by omega)]

/-- From an empty buffer. -/
theorem segments_of_emptied {fuel loop : Nat} {input : Input} {lines : List CString}
    (wellFormed : WellFormed input.flatten)
    (calls : callsFrom fuel (pendingLoop loop [] 0 input) = some lines)
    (enough : input.flatten.length < fuel) (enoughLoop : input.flatten.length < loop) :
    lines = segments isNewline input.flatten := by
  have awaits : Awaits input.flatten [] input := ⟨by simp, by decide, [], rfl, Or.inl rfl⟩
  rw [pendingLoop_fuel loop (input.flatten.length + 1) enoughLoop (Nat.lt_succ_self _)] at calls
  exact awaits.segments fuel wellFormed calls enough

end RildHisi.AtChannel
