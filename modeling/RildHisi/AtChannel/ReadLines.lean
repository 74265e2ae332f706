import RildHisi.Library.Segments
import RildHisi.AtChannel.PendingBytes

/-!
Owns the agreement of `readline` with the plain splitter: on a stream that has
no NUL, no prompt and no over-long line, successive calls return exactly the
non-empty CR/LF-terminated segments, whatever chunks the stream arrives in.

The argument is one call at a time. `pendingReadline_tame` says where the
returned line stands in the bytes that are still to be returned; the run
follows by taking that line off the front.
-/

namespace RildHisi.AtChannel

open RildHisi.Library

/-- `front` ends where a line begins. -/
def StartsLine (front : List UInt8) : Prop :=
  front = [] ∨ ∃ before c, front = before ++ [c] ∧ isNewline c = true

/-- No line begins with the SMS prompt. -/
def NoPromptLine (stream : List UInt8) : Prop :=
  ∀ front behind, stream = front ++ (smsPrompt ++ behind) → ¬ StartsLine front

/-- Every run of CR/LF bytes, the line after it and its terminator fit in the buffer. -/
def FitsBuffer (stream : List UInt8) : Prop :=
  ∀ front run line behind, stream = front ++ (run ++ (line ++ behind)) →
    (∀ c ∈ run, isNewline c = true) → (∀ c ∈ line, isNewline c = false) → line ≠ [] →
    run.length + line.length + 1 ≤ maxAtResponse

/-- The streams of the plain-splitter law. -/
structure Tame (stream : List UInt8) : Prop where
  nulFree : (0 : UInt8) ∉ stream
  noPrompt : NoPromptLine stream
  fits : FitsBuffer stream

/-- What follows a newline of a tame stream is tame. -/
theorem Tame.behind {front : List UInt8} {c : UInt8} {stream : List UInt8}
    (newline : isNewline c = true) (tame : Tame (front ++ c :: stream)) : Tame stream where
  nulFree member := tame.nulFree (by simp [member])
  noPrompt := by
    intro inner behind shape starts
    refine tame.noPrompt (front ++ c :: inner) behind (by simp [shape]) (Or.inr ?_)
    rcases starts with rfl | ⟨before, d, rfl, newlineD⟩
    · exact ⟨front, c, rfl, newline⟩
    · exact ⟨front ++ c :: before, d, by simp, newlineD⟩
  fits := by
    intro inner run line behind shape
    exact tame.fits (front ++ c :: inner) run line behind (by simp [shape])

/-! ### One call -/

theorem startsLine_of_newlines {run : List UInt8} (newlines : ∀ c ∈ run, isNewline c = true) :
    StartsLine run := by
  rcases List.eq_nil_or_concat run with rfl | ⟨before, c, rfl⟩
  · exact Or.inl rfl
  · exact Or.inr ⟨before, c, List.concat_eq_append, newlines c (by simp)⟩

theorem scanEol_none {pending : List UInt8} (clean : (0 : UInt8) ∉ pending)
    (open' : scanEol pending = none) : ∀ c ∈ pending, isNewline c = false := by
  induction pending with
  | nil => simp
  | cons c rest inductionHypothesis =>
      have nonzero : c ≠ 0 := fun zero => clean (by simp [zero])
      simp only [scanEol, if_neg nonzero] at open'
      split_ifs at open' with newline
      have tail := inductionHypothesis (fun member => clean (by simp [member]))
        (by simpa using open')
      intro d member
      rcases List.mem_cons.mp member with rfl | inRest
      · simpa using newline
      · exact tail d inRest

theorem scanEol_some {pending : List UInt8} {eol : Nat} (found : scanEol pending = some eol) :
    ∃ c, isNewline c = true ∧ pending = pending.take eol ++ c :: pending.drop (eol + 1) ∧
      ∀ d ∈ pending.take eol, isNewline d = false := by
  induction pending generalizing eol with
  | nil => simp [scanEol] at found
  | cons c rest inductionHypothesis =>
      simp only [scanEol] at found
      split_ifs at found with zero newline
      · obtain rfl : 0 = eol := by simpa using found
        exact ⟨c, newline, by simp, by simp⟩
      · obtain ⟨before, inRest, rfl⟩ := Option.map_eq_some_iff.mp found
        obtain ⟨d, newlineD, shape, open'⟩ := inductionHypothesis inRest
        refine ⟨d, newlineD, ?_, ?_⟩
        · simpa using shape
        · intro e member
          rcases List.mem_cons.mp (by simpa using member) with rfl | inTake
          · simpa using newline
          · exact open' e inTake

/-- A call takes the first line of the bytes that are still to be returned, or
ends where no complete line is left. -/
def TakesFirstLine (stream : List UInt8) : Outcome → Prop
  | .line text behind input =>
      ∃ run c, stream = run ++ (text ++ c :: (behind ++ input.flatten)) ∧
        (∀ d ∈ run, isNewline d = true) ∧ text ≠ [] ∧
        (∀ d ∈ text, isNewline d = false) ∧ isNewline c = true
  | .prompt _ _ => False
  | .endOfInput _ => segments isNewline stream = []

/-- The end-of-line test on `pending`, with `run` skipped in front of it. -/
theorem takesFirstLine_of_pending {run pending : List UInt8} {input : Input}
    (tame : Tame (run ++ (pending ++ input.flatten)))
    (newlines : ∀ c ∈ run, isNewline c = true)
    (started : pending.dropWhile isNewline = pending) :
    cString pending ≠ smsPrompt ∧
      (∀ eol, scanEol pending = some eol →
        TakesFirstLine (run ++ (pending ++ input.flatten))
          (.line (pending.take eol) (pending.drop (eol + 1)) input)) ∧
      (scanEol pending = none → ∀ c ∈ pending, isNewline c = false) := by
  have clean : (0 : UInt8) ∉ pending := fun member => tame.nulFree (by simp [member])
  refine ⟨?_, ?_, scanEol_none clean⟩
  · rw [cString_eq_self clean]
    rintro rfl
    exact tame.noPrompt run input.flatten rfl (startsLine_of_newlines newlines)
  · intro eol found
    obtain ⟨c, newline, shape, open'⟩ := scanEol_some found
    refine ⟨run, c, ?_, newlines, ?_, open', newline⟩
    · conv_lhs => rw [shape]
      simp
    · -- an empty line would make the head a newline, which the skip removed
      intro empty
      rw [empty, List.nil_append] at shape
      rw [shape] at started
      have shorter := congrArg List.length started
      have := (List.dropWhile_suffix isNewline (l := pending.drop (eol + 1))).length_le
      simp only [List.dropWhile_cons_of_pos newline, List.length_cons] at shorter
      omega

theorem dropWhile_idem (stream : List UInt8) :
    (stream.dropWhile isNewline).dropWhile isNewline = stream.dropWhile isNewline := by
  induction stream with
  | nil => rfl
  | cons c rest inductionHypothesis =>
      by_cases newline : isNewline c
      · simpa [newline] using inductionHypothesis
      · simp [newline]

theorem segments_tail {run pending : List UInt8} (newlines : ∀ c ∈ run, isNewline c = true)
    (open' : ∀ c ∈ pending, isNewline c = false) :
    segments isNewline (run ++ pending) = [] := by
  rw [segments_append_seps newlines, segments_of_no_sep open']

/-- The newlines skipped after a read join the run in front. -/
theorem skipped_joins {run bytes stream behind : List UInt8}
    (newlines : ∀ c ∈ run, isNewline c = true) (pending : List UInt8)
    (consumed : stream = bytes ++ behind) :
    run ++ (pending ++ stream) =
        run ++ (pending ++ bytes).takeWhile isNewline ++
          ((pending ++ bytes).dropWhile isNewline ++ behind) ∧
      ∀ c ∈ run ++ (pending ++ bytes).takeWhile isNewline, isNewline c = true := by
  have split := List.takeWhile_append_dropWhile (p := isNewline) (l := pending ++ bytes)
  constructor
  · rw [consumed, List.append_assoc run, ← List.append_assoc (List.takeWhile _ _), split,
      List.append_assoc]
  · intro c member
    rcases List.mem_append.mp member with old | new
    · exact newlines c old
    · exact List.mem_takeWhile_imp new

theorem pendingLoop_tame (fuel : Nat) (run : List UInt8) {pending : List UInt8} {used : Nat}
    {input : Input}
    (tame : Tame (run ++ (pending ++ input.flatten)))
    (newlines : ∀ c ∈ run, isNewline c = true)
    (open' : ∀ c ∈ pending, isNewline c = false)
    (room : used ≤ run.length + pending.length)
    (enough : input.flatten.length < fuel) :
    TakesFirstLine (run ++ (pending ++ input.flatten))
      (pendingLoop fuel pending used input) := by
  induction fuel generalizing run pending used input with
  | zero => omega
  | succ fuel inductionHypothesis =>
      -- the overflow branch is only taken with nothing but newlines in the buffer
      have emptied : (if maxAtResponse - used = 0 then [] else pending) = pending := by
        split_ifs with full
        · by_contra different
          have nonempty : pending ≠ [] := fun empty => different empty.symm
          have := tame.fits [] run pending input.flatten rfl newlines open' nonempty
          omega
        · rfl
      simp only [pendingLoop, pendingRound, emptied]
      have usedRoom : (if maxAtResponse - used = 0 then 0 else used) ≤
          run.length + pending.length := by split_ifs <;> omega
      have spaceLeft : 0 < maxAtResponse -
          (if maxAtResponse - used = 0 then 0 else used) := by
        split_ifs with full
        · decide
        · omega
      generalize (if maxAtResponse - used = 0 then 0 else used) = used at *
      cases read : readChunk (maxAtResponse - used) input with
      | none =>
          rw [readChunk_none read, List.append_nil]
          exact segments_tail newlines open'
      | some chunk =>
          obtain ⟨bytes, rest⟩ := chunk
          obtain ⟨-, consumed⟩ := readChunk_length read
          have progress := List.length_pos_of_ne_nil (readChunk_nonempty spaceLeft read)
          have split := List.takeWhile_append_dropWhile (p := isNewline) (l := pending ++ bytes)
          obtain ⟨moved, runNewlines⟩ := skipped_joins newlines pending consumed
          rw [moved] at tame ⊢
          obtain ⟨noPrompt, line, noLine⟩ :=
            takesFirstLine_of_pending tame runNewlines (dropWhile_idem _)
          simp only [endOfLineTest, if_neg noPrompt]
          cases found : scanEol ((pending ++ bytes).dropWhile isNewline) with
          | some eol => exact line eol found
          | none =>
              refine inductionHypothesis _ tame runNewlines (noLine found) ?_ ?_
              · have lengths := congrArg List.length split
                simp only [List.length_append] at lengths ⊢
                omega
              · have lengths := congrArg List.length consumed
                simp only [List.length_append] at lengths
                omega

theorem pendingReadline_tame {pending : CString} {input : Input}
    (tame : Tame (pending ++ input.flatten)) :
    TakesFirstLine (pending ++ input.flatten) (pendingReadline pending input) := by
  unfold pendingReadline
  by_cases empty : pending = []
  · subst empty
    exact pendingLoop_tame _ [] tame (by simp) (by simp) (by simp) (Nat.lt_succ_self _)
  · simp only [if_neg empty]
    have split := List.takeWhile_append_dropWhile (p := isNewline) (l := pending)
    have runNewlines : ∀ c ∈ pending.takeWhile isNewline, isNewline c = true :=
      fun c member => List.mem_takeWhile_imp member
    have moved : pending ++ input.flatten = pending.takeWhile isNewline ++
        (pending.dropWhile isNewline ++ input.flatten) := by
      rw [← List.append_assoc, split]
    rw [moved] at tame ⊢
    obtain ⟨noPrompt, line, noLine⟩ :=
      takesFirstLine_of_pending tame runNewlines (dropWhile_idem _)
    simp only [endOfLineTest, if_neg noPrompt]
    cases found : scanEol (pending.dropWhile isNewline) with
    | some eol => exact line eol found
    | none =>
        exact pendingLoop_tame _ _ tame runNewlines (noLine found) (by omega)
          (Nat.lt_succ_self _)

/-! ### The run -/

theorem readLines_segments (fuel : Nat) {st : ReaderState} {input : Input} (sized : Sized st)
    (tame : Tame (st.pending ++ input.flatten))
    (enough : (st.pending ++ input.flatten).length < fuel) :
    (readLines fuel st input).1 = segments isNewline (st.pending ++ input.flatten) := by
  induction fuel generalizing st input with
  | zero => omega
  | succ fuel inductionHypothesis =>
      have call := readline_refines sized input
      have taken := pendingReadline_tame tame
      simp only [readLines]
      rcases shape : readline st input with ⟨line, next, left⟩
      rw [shape] at call
      cases outcome : pendingReadline st.pending input with
      | prompt pending rest => simp [outcome, TakesFirstLine] at taken
      | endOfInput rest =>
          rw [outcome] at call taken
          obtain ⟨rfl, -⟩ := call
          exact taken.symm
      | line text behind rest =>
          rw [outcome] at call taken
          obtain ⟨rfl, rfl, holds, -⟩ := call
          obtain ⟨run, c, stream, newlines, nonempty, open', newline⟩ := taken
          have behindTame : Tame (behind ++ left.flatten) := by
            rw [stream] at tame
            rw [← List.append_assoc] at tame
            exact tame.behind newline
          have clean : (0 : UInt8) ∉ behind := fun member =>
            behindTame.nulFree (by simp [member])
          have pendingNext : next.pending = behind := by
            rw [holds.pending_eq, cString_eq_self clean]
          have lengths := congrArg List.length stream
          simp only [List.length_append, List.length_cons] at lengths enough
          rw [stream, segments_append_seps newlines,
            segments_segment_append nonempty open' newline, ← pendingNext]
          refine congrArg (text :: ·) (inductionHypothesis holds.sized ?_ ?_)
          · rw [pendingNext]; exact behindTame
          · rw [pendingNext, List.length_append]; omega

theorem initial_pending : ReaderState.initial.pending = [] := by
  change cString ((List.replicate (maxAtResponse + 1) 0).drop 0) = []
  rw [List.drop_zero, List.replicate_succ]
  simp [cString]

/-- **`readline` is the plain splitter.** For a stream without NUL bytes, prompts
and over-long lines, cut into any chunks, the lines that successive calls return
until NULL are the non-empty CR/LF-terminated segments of the stream. -/
theorem readLines_eq_segments (input : Input) (tame : Tame input.flatten) (fuel : Nat)
    (enough : input.flatten.length < fuel) :
    (readLines fuel .initial input).1 = segments isNewline input.flatten := by
  have stream : ReaderState.initial.pending ++ input.flatten = input.flatten := by
    rw [initial_pending, List.nil_append]
  rw [← stream] at tame enough ⊢
  exact readLines_segments fuel initial_sized tame enough

/-- A stream cut between CR and LF and inside a line. -/
def sampleChunks : Input := [ascii "\r\nOK\r", ascii "\nRI", [], ascii "NG\r\n"]

theorem sampleChunks_tame : Tame sampleChunks.flatten where
  nulFree := by decide
  noPrompt := by
    intro front behind shape
    have member : (62 : UInt8) ∈ sampleChunks.flatten := by simp [shape, smsPrompt]
    exact absurd member (by decide)
  fits := by
    intro front run line behind shape _ _ _
    have lengths := congrArg List.length shape
    have size : sampleChunks.flatten.length = 12 := by decide
    simp only [List.length_append, size] at lengths
    have buffer : maxAtResponse = 8192 := rfl
    omega

theorem readLines_sampleChunks :
    (readLines 13 .initial sampleChunks).1 = segments isNewline sampleChunks.flatten ∧
      (readLines 13 .initial sampleChunks).1 = [ascii "OK", ascii "RING"] :=
  ⟨readLines_eq_segments sampleChunks sampleChunks_tame 13 (by decide), by decide +kernel⟩

end RildHisi.AtChannel
