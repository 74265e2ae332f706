import RildHisi.AtChannel.ReadLines

/-!
Owns the cursor law of `readline`: the comment at its end says that the cursor
is always at or before `p_read`, with a NUL there. The law holds after every
call up to the first one that returns the SMS prompt, and fails right after it:
the end of the prompt is the NUL itself, so stepping behind it leaves the bytes
that were read and lands in what earlier reads left in the buffer.

Every byte of the stream is accounted for by the calls: skipped newlines, the
full buffers the overflow branch ditches, the returned lines with their
terminators, and the bytes from the cursor up to the NUL.
-/

namespace RildHisi.AtChannel

/-- Bytes a call may pass over: newlines in front of a line, and a full buffer
in which no line ended. -/
inductive Skipped : List UInt8 → Prop
  | nil : Skipped []
  | newline {c : UInt8} {rest : List UInt8} :
      isNewline c = true → Skipped rest → Skipped (c :: rest)
  | overflow {run line rest : List UInt8} :
      (∀ c ∈ run, isNewline c = true) → (∀ c ∈ line, isNewline c = false) →
      run.length + line.length = maxAtResponse → Skipped rest →
      Skipped (run ++ (line ++ rest))

theorem Skipped.newlines {run rest : List UInt8} (newlines : ∀ c ∈ run, isNewline c = true)
    (skipped : Skipped rest) : Skipped (run ++ rest) := by
  induction run with
  | nil => exact skipped
  | cons c run inductionHypothesis =>
      exact .newline (newlines c (by simp))
        (inductionHypothesis fun d member => newlines d (by simp [member]))

/-- What one call took from the stream: the bytes passed over, then the line with
its terminator unless the call returned NULL. -/
structure Delivery where
  skipped : List UInt8
  line : Option (CString × UInt8)

namespace Delivery

def bytes (delivery : Delivery) : List UInt8 :=
  delivery.skipped ++ (delivery.line.elim [] fun line => line.1 ++ [line.2])

def returned (delivery : Delivery) : Option CString := delivery.line.map Prod.fst

structure WellFormed (delivery : Delivery) : Prop where
  skipped : Skipped delivery.skipped
  terminator : ∀ line ∈ delivery.line, isNewline line.2 = true

end Delivery

/-- A run of `readline` calls: what they returned, and where they left off. -/
structure ReadRun where
  returned : List (Option CString)
  state : ReaderState
  input : Input

/-- The first `count` calls on `input`, from program start. -/
def readCalls (input : Input) : Nat → ReadRun
  | 0 => ⟨[], .initial, input⟩
  | count + 1 =>
      let run := readCalls input count
      let call := readline run.state run.input
      ⟨run.returned ++ [call.1], call.2.1, call.2.2⟩

/-- The law in the comment: the cursor is at or before the end of the bytes read,
a NUL stands there, and the bytes between are those read and not yet returned. -/
structure CursorSound (stream : List UInt8) (run : ReadRun) : Prop where
  cursor : run.state.sAtBufferCur ≤ run.state.readEnd
  terminated : run.state.sAtBuffer[run.state.readEnd]? = some 0
  unreturned : ∃ deliveries : List Delivery,
    deliveries.map Delivery.returned = run.returned ∧
    (∀ delivery ∈ deliveries, delivery.WellFormed) ∧
    stream = deliveries.flatMap Delivery.bytes ++
      (run.state.fromCursor.take (run.state.readEnd - run.state.sAtBufferCur) ++
        run.input.flatten)

/-- Some fill of the loop leaves exactly the prompt in the buffer, before any line
ends in it. -/
def fillsToPrompt : Nat → List UInt8 → Nat → Input → Bool
  | 0, _, _, _ => false
  | fuel + 1, pending, used, input =>
      let overflow := maxAtResponse - used = 0
      let used := if overflow then 0 else used
      match readChunk (maxAtResponse - used) input with
      | none => false
      | some (bytes, input) =>
          let pending := ((if overflow then [] else pending) ++ bytes).dropWhile isNewline
          pending == smsPrompt ||
            (!pending.any isNewline && fillsToPrompt fuel pending (used + bytes.length) input)

/-- A call with these bytes left over and this input runs into the prompt: the
bytes in the buffer, without the newlines in front, are exactly `"> "` when the
call starts or after one of its reads. -/
def meetsPrompt (pending : CString) (input : Input) : Bool :=
  let pending := pending.dropWhile isNewline
  pending == smsPrompt ||
    (!pending.any isNewline &&
      fillsToPrompt (input.flatten.length + 1) pending pending.length input)

/-! ### The prompt -/

def Outcome.isPrompt : Outcome → Bool
  | .prompt _ _ => true
  | _ => false

theorem endOfLineTest_isPrompt {pending : List UInt8} (clean : (0 : UInt8) ∉ pending)
    (input : Input) (next : Outcome) :
    (endOfLineTest pending input next).isPrompt =
      (pending == smsPrompt || (!pending.any isNewline && next.isPrompt)) := by
  unfold endOfLineTest
  rw [cString_eq_self clean]
  by_cases prompt : pending = smsPrompt
  · simp [prompt, Outcome.isPrompt]
  · rw [if_neg prompt, beq_false_of_ne prompt, Bool.false_or]
    cases found : scanEol pending with
    | some eol =>
        obtain ⟨c, newline, shape, -⟩ := scanEol_some found
        have ended : pending.any isNewline = true := by
          rw [List.any_eq_true]
          exact ⟨c, by rw [shape]; simp, newline⟩
        simp [ended, Outcome.isPrompt]
    | none =>
        have unended : pending.any isNewline = false := by
          rw [List.any_eq_false]
          intro c member
          simp [scanEol_none clean found c member]
        simp [unended]

theorem pendingLoop_isPrompt (fuel : Nat) {pending : List UInt8} {used : Nat} {input : Input}
    (clean : (0 : UInt8) ∉ pending ++ input.flatten) :
    (pendingLoop fuel pending used input).isPrompt = fillsToPrompt fuel pending used input := by
  induction fuel generalizing pending used input with
  | zero => rfl
  | succ fuel inductionHypothesis =>
      simp only [pendingLoop, pendingRound, fillsToPrompt]
      have leftClean : (0 : UInt8) ∉
          (if maxAtResponse - used = 0 then [] else pending) ++ input.flatten := by
        split_ifs
        · exact fun member => clean (List.mem_append_right _ (by simpa using member))
        · exact clean
      generalize (if maxAtResponse - used = 0 then [] else pending) = left at *
      generalize (if maxAtResponse - used = 0 then 0 else used) = used at *
      cases read : readChunk (maxAtResponse - used) input with
      | none => rfl
      | some chunk =>
          obtain ⟨bytes, rest⟩ := chunk
          have restClean : (0 : UInt8) ∉ (left ++ bytes).dropWhile isNewline ++ rest.flatten := by
            intro member
            apply leftClean
            rw [(readChunk_length read).2, ← List.append_assoc]
            rcases List.mem_append.mp member with inBuffer | inRest
            · exact List.mem_append_left _ ((List.dropWhile_suffix _).mem inBuffer)
            · exact List.mem_append_right _ inRest
          simp only
          rw [endOfLineTest_isPrompt (fun member => restClean (List.mem_append_left _ member)),
            inductionHypothesis restClean]

/-- The abstract call returns the prompt exactly where `meetsPrompt` says so. -/
theorem pendingReadline_isPrompt {pending : CString} {input : Input}
    (clean : (0 : UInt8) ∉ pending ++ input.flatten) :
    (pendingReadline pending input).isPrompt = meetsPrompt pending input := by
  unfold pendingReadline meetsPrompt
  by_cases empty : pending = []
  · subst empty
    rw [if_pos rfl, pendingLoop_isPrompt _ clean]
    rfl
  · have dropClean : (0 : UInt8) ∉ pending.dropWhile isNewline ++ input.flatten := by
      intro member
      rcases List.mem_append.mp member with inPending | inInput
      · exact clean (List.mem_append_left _ ((List.dropWhile_suffix _).mem inPending))
      · exact clean (List.mem_append_right _ inInput)
    simp only [if_neg empty]
    rw [endOfLineTest_isPrompt (fun member => dropClean (List.mem_append_left _ member)),
      pendingLoop_isPrompt _ dropClean]

/-! ### One call -/

/-- A call takes one well-formed delivery off the front of the stream. -/
def Delivers (stream : List UInt8) : Outcome → Prop
  | .line text behind input =>
      ∃ skipped c, Skipped skipped ∧ isNewline c = true ∧
        stream = skipped ++ (text ++ c :: (behind ++ input.flatten))
  | .prompt pending _ => pending = smsPrompt
  | .endOfInput pending => ∃ skipped, Skipped skipped ∧ stream = skipped ++ pending

theorem Delivers.skip {run stream : List UInt8} (newlines : ∀ c ∈ run, isNewline c = true)
    {outcome : Outcome} (delivers : Delivers stream outcome) :
    Delivers (run ++ stream) outcome := by
  cases outcome with
  | line text behind input =>
      obtain ⟨skipped, c, passed, newline, rfl⟩ := delivers
      exact ⟨run ++ skipped, c, passed.newlines newlines, newline, by simp⟩
  | prompt pending input => exact delivers
  | endOfInput pending =>
      obtain ⟨skipped, passed, rfl⟩ := delivers
      exact ⟨run ++ skipped, passed.newlines newlines, by simp⟩

theorem Delivers.ditch {run line stream : List UInt8}
    (newlines : ∀ c ∈ run, isNewline c = true) (unended : ∀ c ∈ line, isNewline c = false)
    (full : run.length + line.length = maxAtResponse)
    {outcome : Outcome} (delivers : Delivers stream outcome) :
    Delivers (run ++ (line ++ stream)) outcome := by
  cases outcome with
  | line text behind input =>
      obtain ⟨skipped, c, passed, newline, rfl⟩ := delivers
      exact ⟨run ++ (line ++ skipped), c, .overflow newlines unended full passed, newline,
        by simp⟩
  | prompt pending input => exact delivers
  | endOfInput pending =>
      obtain ⟨skipped, passed, rfl⟩ := delivers
      exact ⟨run ++ (line ++ skipped), .overflow newlines unended full passed, by simp⟩

/-- The end-of-line test on NUL-free `pending`, with `run` skipped in front of it. -/
theorem delivers_of_pending {run pending : List UInt8} {input : Input} {next : Outcome}
    (clean : (0 : UInt8) ∉ pending) (newlines : ∀ c ∈ run, isNewline c = true)
    (continued : (∀ c ∈ pending, isNewline c = false) →
      Delivers (run ++ (pending ++ input.flatten)) next) :
    Delivers (run ++ (pending ++ input.flatten)) (endOfLineTest pending input next) := by
  unfold endOfLineTest
  by_cases prompt : cString pending = smsPrompt
  · rw [if_pos prompt]
    rwa [cString_eq_self clean] at prompt
  · rw [if_neg prompt]
    cases found : scanEol pending with
    | some eol =>
        obtain ⟨c, newline, shape, -⟩ := scanEol_some found
        refine ⟨run, c, by simpa using Skipped.newlines newlines .nil, newline, ?_⟩
        conv_lhs => rw [shape]
        simp
    | none => exact continued (scanEol_none clean found)

/-- One round with room in the buffer, which holds `run` and `pending`: `run` is
what was skipped since the buffer was last empty. -/
theorem pendingRound_delivers {next : List UInt8 → Nat → Input → Outcome}
    (run : List UInt8) {pending : List UInt8} {used : Nat} {input : Input}
    (clean : (0 : UInt8) ∉ pending ++ input.flatten)
    (newlines : ∀ c ∈ run, isNewline c = true)
    (held : used = run.length + pending.length) (room : used < maxAtResponse)
    (continued : ∀ {run pending : List UInt8} {used : Nat} {rest : Input},
      rest.flatten.length < input.flatten.length →
      (0 : UInt8) ∉ pending ++ rest.flatten → (∀ c ∈ run, isNewline c = true) →
      (∀ c ∈ pending, isNewline c = false) → used = run.length + pending.length →
      used ≤ maxAtResponse → Delivers (run ++ (pending ++ rest.flatten)) (next pending used rest)) :
    Delivers (run ++ (pending ++ input.flatten)) (pendingRound next pending used input) := by
  unfold pendingRound
  cases read : readChunk (maxAtResponse - used) input with
  | none =>
      rw [readChunk_none read, List.append_nil]
      exact ⟨run, by simpa using Skipped.newlines newlines .nil, rfl⟩
  | some chunk =>
      obtain ⟨bytes, rest⟩ := chunk
      obtain ⟨fits, consumed⟩ := readChunk_length read
      have progress := List.length_pos_of_ne_nil (readChunk_nonempty (by omega) read)
      have split := List.takeWhile_append_dropWhile (p := isNewline) (l := pending ++ bytes)
      obtain ⟨moved, runNewlines⟩ := skipped_joins newlines pending consumed
      have restClean : (0 : UInt8) ∉
          (pending ++ bytes).dropWhile isNewline ++ rest.flatten := by
        intro member
        apply clean
        rw [consumed, ← List.append_assoc, ← split]
        simp only [List.mem_append] at member ⊢
        tauto
      have lengths := congrArg List.length split
      have consumedLength := congrArg List.length consumed
      simp only [List.length_append] at lengths consumedLength
      rw [moved]
      refine delivers_of_pending (fun member => restClean (by simp [member])) runNewlines
        fun unended => continued ?_ restClean runNewlines unended ?_ ?_
      · omega
      · simp only [List.length_append]
        omega
      · omega

/-- The fill loop: a full buffer holds exactly `run` and `pending`. -/
theorem pendingLoop_delivers (fuel : Nat) (run : List UInt8) {pending : List UInt8}
    {used : Nat} {input : Input} (clean : (0 : UInt8) ∉ pending ++ input.flatten)
    (newlines : ∀ c ∈ run, isNewline c = true)
    (unended : ∀ c ∈ pending, isNewline c = false)
    (held : used = run.length + pending.length) (inside : used ≤ maxAtResponse)
    (enough : input.flatten.length < fuel) :
    Delivers (run ++ (pending ++ input.flatten)) (pendingLoop fuel pending used input) := by
  induction fuel generalizing run pending used input with
  | zero => omega
  | succ fuel inductionHypothesis =>
      by_cases full : maxAtResponse - used = 0
      · simp only [pendingLoop, if_pos full]
        have emptied : Delivers ([] ++ ([] ++ input.flatten))
            (pendingRound (pendingLoop fuel) [] 0 input) :=
          pendingRound_delivers []
            (fun member => clean (List.mem_append_right _ (by simpa using member)))
            (by simp) rfl (by decide)
            fun shorter restClean runNewlines open' held inside =>
              inductionHypothesis _ restClean runNewlines open' held inside (by omega)
        exact Delivers.ditch newlines unended (by omega) emptied
      · simp only [pendingLoop, if_neg full]
        exact pendingRound_delivers _ clean newlines held (by omega)
          fun shorter restClean runNewlines open' held inside =>
            inductionHypothesis _ restClean runNewlines open' held inside (by omega)

theorem pendingReadline_delivers {pending : CString} {input : Input}
    (short : pending.length ≤ maxAtResponse)
    (clean : (0 : UInt8) ∉ pending ++ input.flatten) :
    Delivers (pending ++ input.flatten) (pendingReadline pending input) := by
  unfold pendingReadline
  by_cases empty : pending = []
  · subst empty
    exact pendingLoop_delivers _ [] clean (by simp) (by simp) rfl (by decide)
      (Nat.lt_succ_self _)
  · simp only [if_neg empty]
    have split := List.takeWhile_append_dropWhile (p := isNewline) (l := pending)
    have dropClean : (0 : UInt8) ∉ pending.dropWhile isNewline := fun member =>
      clean (List.mem_append_left _ ((List.dropWhile_suffix _).mem member))
    have moved : pending ++ input.flatten = pending.takeWhile isNewline ++
        (pending.dropWhile isNewline ++ input.flatten) := by
      rw [← List.append_assoc, split]
    rw [moved]
    apply delivers_of_pending dropClean (fun c member => List.mem_takeWhile_imp member)
    intro unended
    apply Delivers.skip (fun c member => List.mem_takeWhile_imp member)
    refine pendingLoop_delivers _ [] ?_ (by simp) unended (by simp) ?_
      (Nat.lt_succ_self _)
    · intro member
      rcases List.mem_append.mp member with inPending | inInput
      · exact dropClean inPending
      · exact clean (List.mem_append_right _ inInput)
    · exact ((List.dropWhile_sublist _).length_le).trans short

/-! ### The run -/

/-- The cursor law, in the form one call hands to the next. -/
structure Accounted (stream : List UInt8) (run : ReadRun) : Prop where
  holds : Holds run.state run.state.pending
  ends : EndsAt run.state run.state.pending
  deliveries : ∃ deliveries : List Delivery,
    deliveries.map Delivery.returned = run.returned ∧
    (∀ delivery ∈ deliveries, delivery.WellFormed) ∧
    stream = deliveries.flatMap Delivery.bytes ++ (run.state.pending ++ run.input.flatten)

theorem Accounted.sound {stream : List UInt8} {run : ReadRun}
    (accounted : Accounted stream run) : CursorSound stream run := by
  obtain ⟨beyond, shape⟩ := accounted.holds.terminated
  have ends := accounted.ends
  unfold EndsAt at ends
  have slice : run.state.fromCursor.take (run.state.readEnd - run.state.sAtBufferCur) =
      run.state.pending := by
    rw [shape, ends, Nat.add_sub_cancel_left]
    exact List.take_left' rfl
  refine ⟨by omega, ?_, ?_⟩
  · have atEnd : run.state.fromCursor[run.state.pending.length]? = some 0 := by
      rw [shape, List.getElem?_append_right (Nat.le_refl _), Nat.sub_self]
      rfl
    rw [ReaderState.fromCursor, List.getElem?_drop] at atEnd
    rwa [ends]
  · rw [slice]
    exact accounted.deliveries

theorem initial_accounted (input : Input) : Accounted input.flatten (readCalls input 0) := by
  have empty := initial_pending
  refine ⟨?_, ?_, [], rfl, by simp, ?_⟩
  · refine ⟨initial_sized, List.replicate maxAtResponse 0, ?_⟩
    change (List.replicate (maxAtResponse + 1) 0).drop 0 = _
    rw [show (readCalls input 0).state.pending = [] from empty, List.drop_zero,
      List.replicate_succ, List.nil_append]
  · rw [show (readCalls input 0).state.pending = [] from empty]
    rfl
  · rw [show (readCalls input 0).state.pending = [] from empty]
    rfl

theorem Accounted.clean {stream : List UInt8} {run : ReadRun} (nulFree : (0 : UInt8) ∉ stream)
    (accounted : Accounted stream run) : (0 : UInt8) ∉ run.state.pending ++ run.input.flatten := by
  obtain ⟨deliveries, -, -, shape⟩ := accounted.deliveries
  intro member
  rw [shape] at nulFree
  exact nulFree (List.mem_append_right _ member)

theorem Accounted.short {stream : List UInt8} {run : ReadRun} (accounted : Accounted stream run) :
    run.state.pending.length ≤ maxAtResponse := by
  have room := accounted.holds.room
  omega

/-- One call without the prompt carries the accounts on. -/
theorem Accounted.step {input : Input} (nulFree : (0 : UInt8) ∉ input.flatten) {count : Nat}
    (accounted : Accounted input.flatten (readCalls input count))
    (noPrompt : meetsPrompt (readCalls input count).state.pending
      (readCalls input count).input = false) :
    Accounted input.flatten (readCalls input (count + 1)) := by
  set run := readCalls input count with runEq
  obtain ⟨deliveries, returned, wellFormed, stream⟩ := accounted.deliveries
  have clean := accounted.clean nulFree
  have call := readline_refines accounted.holds.sized run.input
  have delivers := pendingReadline_delivers accounted.short clean
  have next : readCalls input (count + 1) =
      ⟨run.returned ++ [(readline run.state run.input).1],
        (readline run.state run.input).2.1, (readline run.state run.input).2.2⟩ := rfl
  rw [next]
  rcases result : readline run.state run.input with ⟨line, after, left⟩
  rw [result] at call
  rw [← pendingReadline_isPrompt clean] at noPrompt
  cases outcome : pendingReadline run.state.pending run.input with
  | prompt pending rest => simp [outcome, Outcome.isPrompt] at noPrompt
  | line text behind rest =>
      rw [outcome] at call delivers
      obtain ⟨rfl, rfl, holds, ends⟩ := call
      obtain ⟨skipped, c, passed, newline, shape⟩ := delivers
      have behindClean : (0 : UInt8) ∉ behind := fun member => clean (by simp [shape, member])
      have pendingNext : after.pending = behind := by
        rw [holds.pending_eq, cString_eq_self behindClean]
      refine ⟨pendingNext ▸ holds, pendingNext ▸ ends accounted.ends,
        deliveries ++ [⟨skipped, some (text, c)⟩], ?_, ?_, ?_⟩
      · simp [returned, Delivery.returned]
      · intro delivery member
        rcases List.mem_append.mp member with old | new
        · exact wellFormed delivery old
        · obtain rfl := List.mem_singleton.mp new
          exact ⟨passed, by simp [newline]⟩
      · rw [stream, shape, pendingNext]
        simp [Delivery.bytes]
  | endOfInput pending =>
      rw [outcome] at call delivers
      obtain ⟨rfl, rfl, holds, ends, -⟩ := call
      obtain ⟨skipped, passed, shape⟩ := delivers
      have pendingClean : (0 : UInt8) ∉ pending := fun member =>
        clean (by simp [shape, member])
      have pendingNext : after.pending = pending := by
        rw [holds.pending_eq, cString_eq_self pendingClean]
      refine ⟨pendingNext ▸ holds, pendingNext ▸ ends, deliveries ++ [⟨skipped, none⟩],
        ?_, ?_, ?_⟩
      · simp [returned, Delivery.returned]
      · intro delivery member
        rcases List.mem_append.mp member with old | new
        · exact wellFormed delivery old
        · obtain rfl := List.mem_singleton.mp new
          exact ⟨passed, by simp⟩
      · rw [stream, shape, pendingNext]
        simp [Delivery.bytes]

/-- One call into the prompt leaves the cursor behind the bytes read. -/
theorem Accounted.prompt_unsound {input : Input} (nulFree : (0 : UInt8) ∉ input.flatten)
    {count : Nat} (accounted : Accounted input.flatten (readCalls input count))
    (prompt : meetsPrompt (readCalls input count).state.pending
      (readCalls input count).input = true) :
    ¬ CursorSound input.flatten (readCalls input (count + 1)) := by
  set run := readCalls input count with runEq
  have clean := accounted.clean nulFree
  have call := readline_refines accounted.holds.sized run.input
  have delivers := pendingReadline_delivers accounted.short clean
  intro sound
  have cursor := sound.cursor
  rw [← pendingReadline_isPrompt clean] at prompt
  cases outcome : pendingReadline run.state.pending run.input with
  | line text behind rest => simp [outcome, Outcome.isPrompt] at prompt
  | endOfInput pending => simp [outcome, Outcome.isPrompt] at prompt
  | prompt pending rest =>
      rw [outcome] at call delivers
      obtain ⟨-, -, -, stepped⟩ := call
      have beyond := stepped accounted.ends
      have two : pending.length = 2 := by
        rw [show pending = smsPrompt from delivers]
        rfl
      change (readline run.state run.input).2.1.sAtBufferCur ≤
        (readline run.state run.input).2.1.readEnd at cursor
      omega

/-- Calls that stay clear of the prompt keep the accounts. -/
theorem accounted_of_quiet {input : Input} (nulFree : (0 : UInt8) ∉ input.flatten) (count : Nat)
    (quiet : ∀ calls < count, meetsPrompt (readCalls input calls).state.pending
      (readCalls input calls).input = false) :
    Accounted input.flatten (readCalls input count) := by
  induction count with
  | zero => exact initial_accounted input
  | succ count inductionHypothesis =>
      have before := inductionHypothesis fun calls within => quiet calls (by omega)
      exact before.step nulFree (quiet count (by omega))

/-- **The cursor law holds exactly up to the first prompt.** For a NUL-free
stream in any chunks, the law holds after each of the first `count` calls if and
only if none of them runs into the unterminated prompt. -/
theorem cursorSound_iff_no_prompt (input : Input) (nulFree : (0 : UInt8) ∉ input.flatten)
    (count : Nat) :
    (∀ calls ≤ count, CursorSound input.flatten (readCalls input calls)) ↔
      ∀ calls < count, meetsPrompt (readCalls input calls).state.pending
        (readCalls input calls).input = false := by
  constructor
  · intro sound calls
    -- the calls before this one met no prompt, so the accounts are right up to here
    induction calls using Nat.strong_induction_on with
    | _ calls inductionHypothesis =>
        intro within
        have accounted := accounted_of_quiet nulFree calls
          fun earlier before => inductionHypothesis earlier before (by omega)
        by_contra met
        have prompt := (Bool.not_eq_false _).mp met
        exact accounted.prompt_unsound nulFree prompt (sound (calls + 1) (by omega))
  · intro quiet calls within
    exact (accounted_of_quiet nulFree calls fun earlier before =>
      quiet earlier (by omega)).sound

theorem cursorSound_sampleChunks :
    CursorSound sampleChunks.flatten (readCalls sampleChunks 3) :=
  (cursorSound_iff_no_prompt sampleChunks (by decide) 3).mpr (by decide +kernel) 3 (Nat.le_refl _)

/-- An error line, the prompt in a read of its own, then an empty line. -/
def promptChunks : Input := [ascii "\r\n+CME ERROR: 10\r", ascii "> ", ascii "\r\n"]

/-- After the prompt the cursor is past the bytes read, and the third call
delivers bytes of the error line again. -/
theorem promptChunks_unsound :
    ¬ CursorSound promptChunks.flatten (readCalls promptChunks 2) ∧
      (readCalls promptChunks 3).returned =
        [some (ascii "+CME ERROR: 10"), some (ascii "> "), some (ascii "CME ERROR: 10")] := by
  refine ⟨fun sound => ?_, by decide +kernel⟩
  have cursor := sound.cursor
  revert cursor
  decide +kernel

end RildHisi.AtChannel
