import RildHisi.AtChannel.HeldBytes

/-!
Owns `readline` on a stream with one malformed segment: one that has a NUL or,
with the newlines in front of it, does not fit the buffer.

The buffer is a string as well as a queue. What is read together with a NUL, and
behind it, is dropped by the next call if the NUL stands behind a line that was
returned, and with the whole buffer, once it is full, if it does not. An
over-long segment loses what fills the buffer and no more. Either way the reader
goes on with the bytes it has not read yet, wherever in the stream they begin;
`survivors` says which bytes these are.
-/

namespace RildHisi.AtChannel

open RildHisi.Library

/-! ### The malformed segment -/

/-- What the reader still sees of the segment it is in and of the stream behind: `held` and
`unread` are what is left of the segment, of which full buffers are dropped. A NUL in the
rest of it drops the last buffer too. -/
def survivors (held unread behind : List UInt8) : List UInt8 :=
  let segment := held ++ unread
  let filled := segment.length % maxAtResponse
  let tail := segment.drop (segment.length - filled)
  if (0 : UInt8) ∈ tail then behind.drop (maxAtResponse - filled) else tail ++ behind

theorem survivors_short {held unread : List UInt8} (behind : List UInt8)
    (short : held.length + unread.length < maxAtResponse) :
    survivors held unread behind =
      if (0 : UInt8) ∈ held ++ unread then
        behind.drop (maxAtResponse - (held.length + unread.length))
      else held ++ unread ++ behind := by
  have filled : (held ++ unread).length % maxAtResponse = (held ++ unread).length :=
    Nat.mod_eq_of_lt (by simpa using short)
  rw [survivors, filled, Nat.sub_self, List.drop_zero, List.length_append]

theorem survivors_full {held unread : List UInt8} (behind : List UInt8)
    (short : held.length ≤ maxAtResponse)
    (full : maxAtResponse ≤ held.length + unread.length) :
    survivors held unread behind =
      survivors [] (unread.drop (maxAtResponse - held.length)) behind := by
  have whole : (held ++ unread).drop maxAtResponse = unread.drop (maxAtResponse - held.length) := by
    rw [List.drop_append, List.drop_eq_nil_of_le short, List.nil_append]
  have size : (held ++ unread).length =
      (unread.drop (maxAtResponse - held.length)).length + maxAtResponse := by
    simp only [List.length_append, List.length_drop]
    omega
  simp only [survivors, List.nil_append]
  rw [size, Nat.add_mod_right]
  have less := Nat.mod_le (unread.drop (maxAtResponse - held.length)).length maxAtResponse
  generalize (unread.drop (maxAtResponse - held.length)).length % maxAtResponse = filled at less ⊢
  rw [← whole] at less ⊢
  rw [List.drop_drop, show ((held ++ unread).drop maxAtResponse).length + maxAtResponse - filled =
    maxAtResponse + (((held ++ unread).drop maxAtResponse).length - filled) by omega]

/-- No line ends behind a NUL until the buffer is full. -/
theorem segments_of_nul {fuel loop : Nat} {held unread front line back : List UInt8} {c : UInt8}
    {input : Input} {lines : List CString}
    (stream : input.flatten = unread ++ c :: back) (segment : held ++ unread = front ++ line)
    (newlines : ∀ d ∈ front, isNewline d = true) (open' : ∀ d ∈ line, isNewline d = false)
    (wellFormed : WellFormed (c :: back)) (fits : held.length + unread.length < maxAtResponse)
    (nul : (0 : UInt8) ∈ held ++ unread)
    (calls : callsFrom (fuel + 1) (pendingLoop loop held held.length input) = some lines)
    (enough : input.flatten.length < fuel + 1) (enoughLoop : input.flatten.length < loop) :
    lines = segments isNewline
      ((c :: back).drop (maxAtResponse - (held.length + unread.length))) := by
  have inLine : (0 : UInt8) ∈ line := by
    rw [segment] at nul
    rcases List.mem_append.mp nul with inFront | inLine
    · exact absurd rfl (nonzero_of_isNewline (newlines 0 inFront))
    · exact inLine
  have visible : Unended (held ++ input.flatten.take (maxAtResponse - held.length)) := by
    rw [stream, List.take_append, List.take_of_length_le (by omega), ← List.append_assoc, segment]
    exact unended_zero newlines open' inLine _
  have total := congrArg List.length stream
  simp only [List.length_append] at total
  rcases pendingLoop_ditch loop visible (by omega) (not_isPrompt_of_callsFrom calls) enoughLoop with
    ⟨early, left, ended⟩ | ⟨-, later, rest, same, behind, enoughLater⟩
  · rw [ended] at calls
    rw [List.drop_eq_nil_of_le (by omega)]
    exact (Option.some.inj calls).symm
  · have dropped : rest.flatten =
        (c :: back).drop (maxAtResponse - (held.length + unread.length)) := by
      rw [behind, stream, List.drop_append, List.drop_eq_nil_of_le (by omega), List.nil_append,
        Nat.sub_sub]
    have restSize := congrArg List.length dropped
    simp only [List.length_drop] at restSize
    rw [same] at calls
    rw [← dropped]
    refine segments_of_emptied ?_ calls (by omega) enoughLater
    rw [dropped]
    refine WellFormed.behind
      ((c :: back).take (maxAtResponse - (held.length + unread.length))) ?_
    rw [List.take_append_drop]
    exact wellFormed

/-- Without a NUL the rest of a segment that fits the buffer is a line. -/
theorem segments_of_clean {fuel loop : Nat} {held unread front line back : List UInt8} {c : UInt8}
    {input : Input} {lines : List CString}
    (stream : input.flatten = unread ++ c :: back) (segment : held ++ unread = front ++ line)
    (newlines : ∀ d ∈ front, isNewline d = true) (open' : ∀ d ∈ line, isNewline d = false)
    (begun : line = [] → front = []) (newline : isNewline c = true)
    (wellFormed : WellFormed (c :: back)) (unended : ∀ d ∈ held, isNewline d = false)
    (fits : held.length + unread.length < maxAtResponse) (clean : (0 : UInt8) ∉ held ++ unread)
    (calls : callsFrom (fuel + 1) (pendingLoop loop held held.length input) = some lines)
    (enough : input.flatten.length < fuel + 1) (enoughLoop : input.flatten.length < loop) :
    lines = segments isNewline (held ++ unread ++ c :: back) := by
  have sizes := congrArg List.length segment
  simp only [List.length_append] at sizes
  rw [segment] at clean ⊢
  by_cases none : line = []
  · obtain ⟨rfl, rfl⟩ : held = [] ∧ unread = [] := by
      rw [begun none, none, List.append_nil] at segment
      exact List.append_eq_nil_iff.mp segment
    rw [begun none, none, List.append_nil, List.nil_append, ← List.nil_append (c :: back), ← stream]
    exact segments_of_emptied (by rw [stream]; exact wellFormed) calls enough enoughLoop
  · have clean' : (0 : UInt8) ∉ line := fun member => clean (List.mem_append_right _ member)
    have whole : held ++ input.flatten = front ++ (line ++ c :: back) := by
      rw [stream, ← List.append_assoc, segment, List.append_assoc]
    obtain ⟨behind, rest, returned, rfl, room⟩ := pendingLoop_line loop whole newlines none
      open' clean' newline unended (Nat.le_refl _) (by omega) (not_isPrompt_of_callsFrom calls)
      enoughLoop
    rw [returned] at calls
    obtain ⟨later, rfl, remaining⟩ := callsFrom_line calls
    have total := congrArg List.length stream
    simp only [List.length_append, List.length_cons] at total
    have restFormed : WellFormed (behind ++ rest.flatten) := WellFormed.behind [c] wellFormed
    rw [List.append_assoc, segments_append_seps newlines,
      segments_segment_append none open' newline,
      (awaits_behind room).segments fuel restFormed remaining
        (by simp only [List.length_append]; omega)]

/-- **Behind the segment stands a newline.** The lines are the segments of what survives. -/
theorem segments_survivors {fuel loop : Nat} {held unread front line back : List UInt8} {c : UInt8}
    {input : Input} {lines : List CString}
    (stream : input.flatten = unread ++ c :: back) (segment : held ++ unread = front ++ line)
    (newlines : ∀ d ∈ front, isNewline d = true) (open' : ∀ d ∈ line, isNewline d = false)
    (begun : line = [] → front = []) (newline : isNewline c = true)
    (wellFormed : WellFormed (c :: back)) (unended : ∀ d ∈ held, isNewline d = false)
    (short : held.length < maxAtResponse)
    (calls : callsFrom fuel (pendingLoop loop held held.length input) = some lines)
    (enough : input.flatten.length < fuel) (enoughLoop : input.flatten.length < loop) :
    lines = segments isNewline (survivors held unread (c :: back)) := by
  induction size : unread.length using Nat.strong_induction_on
    generalizing loop held unread front line input with
  | _ size inductionHypothesis =>
      obtain ⟨fuel, rfl⟩ : ∃ more, fuel = more + 1 := ⟨fuel - 1, by omega⟩
      have noPrompt := not_isPrompt_of_callsFrom calls
      have sizes := congrArg List.length segment
      simp only [List.length_append] at sizes
      by_cases full : maxAtResponse ≤ held.length + unread.length
      · -- the buffer fills up within the segment
        have visible : Unended (held ++ input.flatten.take (maxAtResponse - held.length)) := by
          apply Unended.front (unread.drop (maxAtResponse - held.length))
          rw [stream, List.take_append_of_le_length (by omega), List.append_assoc,
            List.take_append_drop, segment]
          exact unended_line newlines open'
        rcases pendingLoop_ditch loop visible short.le noPrompt enoughLoop with
          ⟨early, -⟩ | ⟨-, later, rest, same, behind, enoughLater⟩
        · have total := congrArg List.length stream
          simp only [List.length_append] at total
          omega
        · rw [stream, List.drop_append_of_le_length (by omega)] at behind
          have left : [] ++ unread.drop (maxAtResponse - held.length) =
              front.drop maxAtResponse ++ line.drop (maxAtResponse - front.length) := by
            rw [← List.drop_append, ← segment, List.drop_append, List.drop_eq_nil_of_le short.le]
          have restSize := congrArg List.length behind
          have total := congrArg List.length stream
          simp only [List.length_append, List.length_drop] at restSize total
          rw [same] at calls
          rw [survivors_full _ short.le full]
          refine inductionHypothesis _ ?_ behind left
            (fun d member => newlines d (List.mem_of_mem_drop member))
            (fun d member => open' d (List.mem_of_mem_drop member)) ?_ (by simp) (by decide)
            calls (by omega) enoughLater rfl
          · simp only [List.length_drop]
            omega
          · intro finished
            have within := List.drop_eq_nil_iff.mp finished
            by_cases longFront : maxAtResponse < front.length
            · have none : line = [] := List.eq_nil_of_length_eq_zero (by omega)
              rw [begun none, List.drop_nil]
            · exact List.drop_eq_nil_of_le (by omega)
      · rw [survivors_short _ (by omega)]
        split_ifs with nul
        · exact segments_of_nul stream segment newlines open' wellFormed (by omega) nul calls
            enough enoughLoop
        · exact segments_of_clean stream segment newlines open' begun newline wellFormed unended
            (by omega) nul calls enough enoughLoop

/-- **The buffer already holds a part of what is behind.** The lines are the right ones
exactly if the part of the segment that is held makes up for what was lost. -/
theorem segments_survivors_behind {fuel loop : Nat} {held lost : List UInt8} {input : Input}
    {lines : List CString} (wellFormed : WellFormed (lost ++ input.flatten))
    (unended : ∀ d ∈ held, isNewline d = false) (clean : (0 : UInt8) ∉ held)
    (short : held.length < maxAtResponse)
    (calls : callsFrom fuel (pendingLoop loop held held.length input) = some lines)
    (enough : input.flatten.length < fuel) (enoughLoop : input.flatten.length < loop) :
    lines = segments isNewline (lost ++ input.flatten) ↔
      segments isNewline (held ++ input.flatten) = segments isNewline (lost ++ input.flatten) := by
  obtain ⟨fuel, rfl⟩ : ∃ more, fuel = more + 1 := ⟨fuel - 1, by omega⟩
  have noPrompt := not_isPrompt_of_callsFrom calls
  have inputFormed := WellFormed.behind lost wellFormed
  rcases exists_first_sep isNewline input.flatten with open' | ⟨line, c, rest, shape, open', newline⟩
  · -- no line ends any more
    have none := List.forall_mem_append.mpr ⟨unended, open'⟩
    have visible : Unended (held ++ input.flatten.take (maxAtResponse - held.length)) := by
      apply Unended.front (input.flatten.drop (maxAtResponse - held.length))
      rw [List.append_assoc, List.take_append_drop]
      exact @unended_line [] _ (by simp) none
    obtain ⟨left, ended⟩ : ∃ left, pendingLoop loop held held.length input = .endOfInput left := by
      rcases pendingLoop_ditch loop visible short.le noPrompt enoughLoop with
        ⟨-, ended⟩ | ⟨-, later, rest, same, behind, enoughLater⟩
      · exact ended
      · rw [same] at noPrompt ⊢
        have restOpen : ∀ d ∈ rest.flatten, isNewline d = false := by
          rw [behind]
          exact fun d member => open' d (List.mem_of_mem_drop member)
        exact pendingLoop_unfinished later (List.nil_append _).symm (by simp) restOpen noPrompt
          enoughLater
    rw [ended] at calls
    rw [segments_of_no_sep none, ← Option.some.inj calls]
  · by_cases empty : held ++ line = []
    · obtain ⟨rfl, rfl⟩ := List.append_eq_nil_iff.mp empty
      rw [List.nil_append, segments_of_emptied inputFormed calls enough enoughLoop]
    · have openLine := List.forall_mem_append.mpr ⟨unended, open'⟩
      have segmented : segments isNewline (held ++ input.flatten) =
          (held ++ line) :: segments isNewline rest := by
        rw [shape, ← List.append_assoc]
        exact segments_segment_append empty openLine newline rest
      by_cases fits : held.length + line.length < maxAtResponse
      · have clean' : (0 : UInt8) ∉ held ++ line := by
          intro member
          rcases List.mem_append.mp member with inHeld | inLine
          · exact clean inHeld
          · exact inputFormed.nulFree (by simp [shape, inLine])
        have whole : held ++ input.flatten = [] ++ (held ++ line ++ c :: rest) := by
          rw [shape, List.nil_append, List.append_assoc]
        obtain ⟨behind, left, returned, rfl, room⟩ := pendingLoop_line loop whole (by simp) empty
          openLine clean' newline unended (Nat.le_refl _)
          (by simp only [List.length_append, List.length_nil]; omega) noPrompt enoughLoop
        rw [returned] at calls
        obtain ⟨later, rfl, remaining⟩ := callsFrom_line calls
        have total := congrArg List.length shape
        simp only [List.length_append, List.length_cons] at total
        have restFormed : WellFormed (behind ++ left.flatten) := by
          apply WellFormed.behind (line ++ [c])
          rw [List.append_assoc, List.singleton_append, ← shape]
          exact inputFormed
        rw [segmented, (awaits_behind room).segments fuel restFormed remaining
          (by simp only [List.length_append]; omega)]
      · -- the buffer fills up within the line, whose end is delivered by itself
        have visible : Unended (held ++ input.flatten.take (maxAtResponse - held.length)) := by
          rw [shape, List.take_append_of_le_length (by omega)]
          apply Unended.front (line.drop (maxAtResponse - held.length))
          rw [List.append_assoc, List.take_append_drop]
          exact @unended_line [] _ (by simp) openLine
        have total := congrArg List.length shape
        simp only [List.length_append, List.length_cons] at total
        rcases pendingLoop_ditch loop visible short.le noPrompt enoughLoop with
          ⟨early, -⟩ | ⟨-, later, left, same, behind, enoughLater⟩
        · omega
        rw [shape, List.drop_append_of_le_length (by omega)] at behind
        have leftSize := congrArg List.length behind
        simp only [List.length_append, List.length_drop, List.length_cons] at leftSize
        have leftFormed : WellFormed left.flatten := by
          apply WellFormed.behind (line.take (maxAtResponse - held.length))
          rw [behind, ← List.append_assoc, List.take_append_drop, ← shape]
          exact inputFormed
        rw [same] at calls
        have delivered := segments_of_emptied leftFormed calls (by omega) enoughLater
        refine iff_of_false (fun right => ?_) fun right => ?_
        · -- fewer bytes are delivered than the stream has in its segments
          have most := @length_flatten_segments_le _ isNewline lost input.flatten
          rw [← right, delivered, behind, shape, length_flatten_segments open' newline,
            length_flatten_segments (fun d member => open' d (List.mem_of_mem_drop member)) newline,
            List.length_drop] at most
          omega
        · have member : held ++ line ∈ segments isNewline (lost ++ input.flatten) := by
            rw [← right, segmented]
            exact List.mem_cons_self
          have bounded := wellFormed.segment_length member
          rw [List.length_append] at bounded
          exact fits bounded

/-- What the reader sees of a stream of which the last `behind` bytes stand behind the
malformed segment. -/
def survivorsOf (pending : CString) (input : Input) (behind : Nat) : List UInt8 :=
  let inSegment := input.flatten.length - behind
  survivors (pending.dropWhile isNewline) (input.flatten.take inSegment)
    (input.flatten.drop inSegment)

/-- The loop in front of what is left of the segment, with `lost` gone. -/
theorem malformed_loop {fuel loop : Nat} {held lost left back : List UInt8} {c : UInt8}
    {input : Input} {lines : List CString} (stream : lost ++ input.flatten = left ++ c :: back)
    (segment : ∀ n, ∃ front line, held ++ left.drop n = front ++ line ∧
      (∀ d ∈ front, isNewline d = true) ∧ (∀ d ∈ line, isNewline d = false) ∧
      (line = [] → front = []))
    (newline : isNewline c = true) (wellFormed : WellFormed (c :: back))
    (unended : ∀ d ∈ held, isNewline d = false) (clean : (0 : UInt8) ∉ held)
    (short : held.length < maxAtResponse)
    (calls : callsFrom fuel (pendingLoop loop held held.length input) = some lines)
    (enough : input.flatten.length < fuel) (enoughLoop : input.flatten.length < loop) :
    lines = segments isNewline back ↔
      segments isNewline (survivors held
        (input.flatten.take (input.flatten.length - (back.length + 1)))
        (input.flatten.drop (input.flatten.length - (back.length + 1)))) =
      segments isNewline back := by
  rcases List.append_eq_append_iff.mp stream with ⟨unread, rfl, rest⟩ | ⟨behind, rfl, rest⟩
  · have inSegment : input.flatten.length - (back.length + 1) = unread.length := by
      rw [rest]
      simp
    obtain ⟨front, line, shape, newlines, open', begun⟩ := segment lost.length
    rw [List.drop_left] at shape
    rw [segments_survivors rest shape newlines open' begun newline wellFormed unended short calls
      enough enoughLoop, inSegment, rest, List.take_left, List.drop_left]
  · cases behind with
    | nil =>
        have inSegment : input.flatten.length - (back.length + 1) = 0 := by
          rw [← List.nil_append input.flatten, ← rest]
          simp
        obtain ⟨front, line, shape, newlines, open', begun⟩ := segment left.length
        rw [List.drop_length] at shape
        rw [List.nil_append] at rest
        have none : input.flatten = [] ++ c :: back := rest.symm
        rw [segments_survivors none shape newlines open' begun newline wellFormed unended short
          calls enough enoughLoop, inSegment, ← rest]
        rfl
    | cons d behind =>
        rw [List.cons_append] at rest
        obtain ⟨rfl, rfl⟩ := List.cons.inj rest
        have inSegment : input.flatten.length - ((behind ++ input.flatten).length + 1) = 0 := by
          simp only [List.length_append]
          omega
        rw [inSegment, List.take_zero, List.drop_zero, survivors_short _ (by simpa using short),
          List.append_nil, if_neg clean]
        exact segments_survivors_behind (WellFormed.behind [c] wellFormed) unended clean short
          calls enough enoughLoop

/-- **In front of the malformed segment.** The lines are those of the stream behind it
exactly if what survives makes the same segments. -/
theorem Awaits.malformed {fuel : Nat} {run bad back : List UInt8} {c : UInt8} {pending : CString}
    {input : Input} {lines : List CString} (awaits : Awaits (run ++ (bad ++ c :: back)) pending input)
    (newlines : ∀ d ∈ run, isNewline d = true) (nonempty : bad ≠ [])
    (open' : ∀ d ∈ bad, isNewline d = false) (newline : isNewline c = true)
    (wellFormed : WellFormed (c :: back))
    (calls : callsFrom fuel (pendingReadline pending input) = some lines)
    (enough : (run ++ (bad ++ c :: back)).length < fuel) :
    lines = Library.segments isNewline back ↔
      Library.segments isNewline (survivorsOf pending input (back.length + 1)) =
        Library.segments isNewline back := by
  obtain ⟨lost, held, nul⟩ := awaits.stream
  have short := awaits.short
  have total := congrArg List.length held
  simp only [List.length_append, List.length_cons] at total enough
  obtain ⟨fuel, rfl⟩ : ∃ more, fuel = more + 1 := ⟨fuel - 1, by omega⟩
  have noPrompt := not_isPrompt_of_callsFrom calls
  have call := pendingReadline_eq noPrompt
  have backFormed : WellFormed back := WellFormed.behind [c] wellFormed
  rcases held_cases held.symm with ⟨a, rfl, left⟩ | ⟨a, b, rfl, rfl, left⟩ | ⟨b, rfl, rfl⟩
  · -- nothing but newlines is held
    have emptied : pending.dropWhile isNewline = [] :=
      List.dropWhile_eq_nil_iff.mpr fun d member => newlines d (List.mem_append_left _ member)
    simp only [emptied, scanEol, Option.elim_none] at call
    rw [call] at calls
    rw [← List.append_assoc] at left
    rw [survivorsOf, emptied]
    refine malformed_loop left ?_ newline wellFormed (by simp) (by simp) (by decide) calls
      (by omega) (Nat.lt_succ_self _)
    intro n
    refine ⟨a.drop n, bad.drop (n - a.length), by rw [List.nil_append, List.drop_append],
      fun d member => newlines d (List.mem_append_right _ (List.mem_of_mem_drop member)),
      fun d member => open' d (List.mem_of_mem_drop member), fun finished => ?_⟩
    have size := List.length_pos_of_ne_nil nonempty
    have within := List.drop_eq_nil_iff.mp finished
    exact List.drop_eq_nil_of_le (by omega)
  · -- the segment has begun
    have openA : ∀ d ∈ a, isNewline d = false := fun d member =>
      open' d (List.mem_append_left _ member)
    have dropped := dropWhile_front newlines fun d first => openA d (List.mem_of_head? first)
    simp only [dropped, scanEol_open openA, Option.elim_none] at call
    rw [call] at calls
    rw [survivorsOf, dropped]
    have clean : (0 : UInt8) ∉ a := fun member => awaits.clean (List.mem_append_right _ member)
    simp only [List.length_append] at short
    refine malformed_loop left ?_ newline wellFormed openA clean (by omega) calls (by omega)
      (Nat.lt_succ_self _)
    intro n
    refine ⟨[], a ++ b.drop n, rfl, by simp, fun d member => open' d ?_, fun _ => rfl⟩
    rcases List.mem_append.mp member with inA | inB
    · exact List.mem_append_left _ inA
    · exact List.mem_append_right _ (List.mem_of_mem_drop inB)
  · -- all of the segment is held: it is delivered
    have clean : (0 : UInt8) ∉ bad := fun member => awaits.clean (by simp [member])
    simp only [List.length_append, List.length_cons] at short
    obtain ⟨behind, rest, returned, following⟩ := awaits.line rfl newlines nonempty open' clean
      newline (by omega) noPrompt
    rw [returned] at calls
    obtain ⟨later, rfl, remaining⟩ := callsFrom_line calls
    have right := following.segments fuel backFormed remaining
      (by simp only [List.length_append] at enough ⊢; omega)
    obtain rfl : lost = [] := by
      rcases nul with empty | ⟨rest, rfl⟩
      · exact empty
      · exact absurd (by simp) backFormed.nulFree
    have started : ∀ d ∈ (bad ++ c :: b).head?, isNewline d = false := by
      intro d first
      rw [List.head?_append_of_ne_nil _ nonempty] at first
      exact open' d (List.mem_of_head? first)
    have inSegment : input.flatten.length - ((b ++ ([] ++ input.flatten)).length + 1) = 0 := by
      simp only [List.length_append]
      omega
    have zeroFree : (0 : UInt8) ∉ bad ++ c :: b := fun member =>
      awaits.clean (List.mem_append_right _ member)
    have longer : ∀ rest : List CString, bad :: rest ≠ rest := fun rest => List.cons_ne_self _ _
    rw [survivorsOf, dropWhile_front newlines started, inSegment, List.take_zero, List.drop_zero,
      survivors_short _ (by simp only [List.length_append, List.length_cons, List.length_nil]; omega),
      List.append_nil, if_neg zeroFree, right, List.append_assoc, List.cons_append,
      segments_segment_append nonempty open' newline]
    exact iff_of_false (longer _) (longer _)

/-! ### The run -/

theorem StartsLine.behind {front rest : List UInt8} (starts : StartsLine (front ++ rest)) :
    StartsLine rest := by
  rcases List.eq_nil_or_concat rest with rfl | ⟨before, c, rfl⟩
  · exact Or.inl rfl
  · rcases starts with empty | ⟨first, d, shape, newline⟩
    · exact absurd empty (by simp)
    · rw [List.concat_eq_append, ← List.append_assoc] at shape
      obtain ⟨-, same⟩ := List.append_inj' shape rfl
      exact Or.inr ⟨before, c, List.concat_eq_append, List.singleton_inj.mp same ▸ newline⟩

/-- Complete lines without a segment are newlines. -/
theorem newlines_of_segments_eq_nil {front : List UInt8} (starts : StartsLine front)
    (none : segments isNewline front = []) : ∀ d ∈ front, isNewline d = true := by
  rcases exists_first_segment isNewline front with
    ⟨run, line, rfl, newlines, open'⟩ | ⟨run, line, c, rest, rfl, newlines, nonempty, open', newline⟩
  · rcases starts.behind with rfl | ⟨before, d, rfl, newline⟩
    · simpa using newlines
    · exact absurd newline (by simp [open' d (by simp)])
  · rw [segments_append_seps newlines, segments_segment_append nonempty open' newline] at none
    cases none

/-- The calls so far have returned the first lines of `front`, and the reader stands in front
of the rest. -/
structure Progressed (input : Input) (fuel : Nat) (front stream : List UInt8)
    (lines : List CString) (count : Nat) (left : List UInt8) (rest : List CString) : Prop where
  sized : Sized (readCalls input count).state
  awaits : Awaits (left ++ stream) (readCalls input count).state.pending
    (readCalls input count).input
  starts : StartsLine left
  wellFormed : WellFormed left
  calls : callsFrom (fuel - count) (pendingReadline (readCalls input count).state.pending
    (readCalls input count).input) = some rest
  enough : (left ++ stream).length < fuel - count
  returned : ∃ first : List CString, first.length = count ∧ lines = first ++ rest ∧
    segments isNewline front = first ++ segments isNewline left

theorem Progressed.step {input : Input} {fuel : Nat} {front stream left : List UInt8}
    {lines rest : List CString} {count : Nat}
    (progressed : Progressed input fuel front stream lines count left rest)
    (more : count < (segments isNewline front).length) :
    ∃ left rest, Progressed input fuel front stream lines (count + 1) left rest := by
  obtain ⟨first, size, rfl, segmented⟩ := progressed.returned
  rcases exists_first_segment isNewline left with
    ⟨run, line, rfl, newlines, open'⟩ |
    ⟨run, line, c, behind, rfl, newlines, nonempty, open', newline⟩
  · rw [segmented, segments_tail newlines open'] at more
    simp [size] at more
  · have calls := progressed.calls
    have enough := progressed.enough
    obtain ⟨fuel', remains⟩ : ∃ fuel', fuel - count = fuel' + 1 := ⟨fuel - count - 1, by omega⟩
    rw [remains] at calls enough
    have clean : (0 : UInt8) ∉ line := fun member =>
      progressed.wellFormed.nulFree (by simp [member])
    have fits := progressed.wellFormed.fits [] run line (c :: behind) rfl newlines open' nonempty
    have shaped : run ++ (line ++ c :: behind) ++ stream =
        run ++ (line ++ c :: (behind ++ stream)) := by simp
    obtain ⟨held, input', returned, following⟩ := progressed.awaits.line shaped newlines
      nonempty open' clean newline fits (not_isPrompt_of_callsFrom calls)
    have call := readline_refines progressed.sized (readCalls input count).input
    rw [returned] at calls call
    obtain ⟨later, rfl, remaining⟩ := callsFrom_line calls
    obtain ⟨text, unread, holds, -⟩ := call
    have shape : run ++ (line ++ c :: behind) = run ++ (line ++ [c]) ++ behind := by simp
    have next : (readCalls input (count + 1)).state.pending = cString held := holds.pending_eq
    have left : (readCalls input (count + 1)).input = input' := unread
    refine ⟨behind, later, holds.sized, ?_, ?_, ?_, ?_, ?_, ?_⟩
    · rw [next, left]
      exact following
    · exact (shape ▸ progressed.starts).behind
    · exact WellFormed.behind (run ++ (line ++ [c])) (shape ▸ progressed.wellFormed)
    · rw [next, left, show fuel - (count + 1) = fuel' by omega]
      exact remaining
    · simp only [List.length_append, List.length_cons] at enough ⊢
      omega
    · refine ⟨first ++ [line], by simp [size], by simp, ?_⟩
      rw [segmented, segments_append_seps newlines, segments_segment_append nonempty open' newline]
      simp

/-- The calls come to the end of `front`. -/
theorem exists_progressed {input : Input} {fuel : Nat} {front stream : List UInt8}
    {lines : List CString} (shape : input.flatten = front ++ stream) (starts : StartsLine front)
    (wellFormed : WellFormed front)
    (calls : callsFrom fuel (pendingReadline [] input) = some lines)
    (enough : input.flatten.length < fuel) {count : Nat}
    (within : count ≤ (segments isNewline front).length) :
    ∃ left rest, Progressed input fuel front stream lines count left rest := by
  induction count with
  | zero =>
      have empty : (readCalls input 0).state.pending = [] := initial_pending
      refine ⟨front, lines, initial_sized, ?_, starts, wellFormed, ?_, ?_, [], rfl, rfl, rfl⟩
      · rw [empty, ← shape]
        exact ⟨by simp, by decide, [], rfl, Or.inl rfl⟩
      · rw [empty]
        exact calls
      · rw [← shape]
        exact enough
  | succ count inductionHypothesis =>
      obtain ⟨left, rest, progressed⟩ := inductionHypothesis (by omega)
      exact progressed.step (by omega)

/-- A stream with one malformed segment: `bad` has a NUL or, with the newlines in front of it,
does not fit the buffer. -/
structure OneMalformed (stream front bad : List UInt8) (c : UInt8) (back : List UInt8) : Prop where
  stream : stream = front ++ (bad ++ c :: back)
  starts : StartsLine front
  nonempty : bad ≠ []
  open' : ∀ d ∈ bad, isNewline d = false
  newline : isNewline c = true
  malformed : (0 : UInt8) ∈ bad ∨ ∃ before run, front = before ++ run ∧
    (∀ d ∈ run, isNewline d = true) ∧ maxAtResponse ≤ run.length + bad.length
  front : WellFormed front
  back : WellFormed (c :: back)

/-- No call finds exactly the unterminated prompt in the buffer. -/
def AvoidsPrompt (input : Input) : Prop :=
  (callsFrom (input.flatten.length + 1) (pendingReadline [] input)).isSome = true

instance (input : Input) : Decidable (AvoidsPrompt input) :=
  inferInstanceAs (Decidable (_ = true))

/-- The lines are the segments in front of the malformed one and those behind it. -/
def Delivered (input : Input) (front back : List UInt8) : Prop :=
  (readLines (input.flatten.length + 1) .initial input).1 =
    segments isNewline front ++ segments isNewline back

/-- Behind its last full line in front, the reader sees the segments that stand behind the
malformed one. -/
def SeesBehind (input : Input) (front back : List UInt8) : Prop :=
  segments isNewline (survivorsOf
      (readCalls input (segments isNewline front).length).state.pending
      (readCalls input (segments isNewline front).length).input (back.length + 1)) =
    segments isNewline back

/-- Where no call finds the prompt. -/
theorem delivered_iff_seesBehind (input : Input) {front bad back : List UInt8} {c : UInt8}
    (shape : OneMalformed input.flatten front bad c back) (noPrompt : AvoidsPrompt input) :
    Delivered input front back ↔ SeesBehind input front back := by
  unfold Delivered SeesBehind
  obtain ⟨lines, calls⟩ := Option.isSome_iff_exists.mp noPrompt
  have same : (readLines (input.flatten.length + 1) .initial input).1 = lines := by
    apply readLines_eq_callsFrom _ initial_sized
    rw [initial_pending]
    exact calls
  obtain ⟨left, rest, progressed⟩ := exists_progressed shape.stream shape.starts shape.front
    calls (Nat.lt_succ_self _) (Nat.le_refl (segments isNewline front).length)
  obtain ⟨first, size, rfl, segmented⟩ := progressed.returned
  have none : segments isNewline left = [] := by
    have sizes := congrArg List.length segmented
    rw [List.length_append, size] at sizes
    exact List.eq_nil_of_length_eq_zero (by omega)
  rw [none, List.append_nil] at segmented
  have newlines := newlines_of_segments_eq_nil progressed.starts none
  rw [same, ← progressed.awaits.malformed newlines shape.nonempty shape.open' shape.newline
    shape.back progressed.calls progressed.enough, ← segmented, List.append_cancel_left_eq]

/-- A prompt that is found is a line of its own. -/
theorem prompt_mem_of_delivered {input : Input} {front back : List UInt8}
    (delivered : Delivered input front back) (found : ¬ AvoidsPrompt input) :
    smsPrompt ∈ segments isNewline front ++ segments isNewline back := by
  rw [← delivered]
  apply prompt_of_callsFrom_none _ initial_sized
  rw [initial_pending]
  simpa [AvoidsPrompt] using found

/-- **One malformed segment.** The other segments are delivered, each as it is, if no call
finds the prompt and the reader sees behind its last full line in front what makes the segments
behind the malformed one. They are delivered in no other way, unless a call finds the prompt
and one of them is the prompt itself. -/
theorem wellFormed_delivered_iff (input : Input) {front bad back : List UInt8} {c : UInt8}
    (shape : OneMalformed input.flatten front bad c back) :
    (AvoidsPrompt input ∧ SeesBehind input front back → Delivered input front back) ∧
      (Delivered input front back →
        (AvoidsPrompt input ∧ SeesBehind input front back) ∨
          (¬ AvoidsPrompt input ∧
            smsPrompt ∈ segments isNewline front ++ segments isNewline back)) := by
  constructor
  · rintro ⟨noPrompt, sees⟩
    exact (delivered_iff_seesBehind input shape noPrompt).mpr sees
  · intro delivered
    by_cases noPrompt : AvoidsPrompt input
    · exact Or.inl ⟨noPrompt, (delivered_iff_seesBehind input shape noPrompt).mp delivered⟩
    · exact Or.inr ⟨noPrompt, prompt_mem_of_delivered delivered noPrompt⟩

/-- No newline in the line, as a test. -/
theorem open_of_any {line : List UInt8} (none : line.any isNewline = false) :
    ∀ d ∈ line, isNewline d = false := by
  intro d member
  simpa using List.any_eq_false.mp none d member

/-- A NUL that is read with the line in front of it, and nothing behind it. -/
def quietNul : Input := [ascii "OK\r" ++ [0], ascii "\rRING\r"]

theorem quietNul_oneMalformed :
    OneMalformed quietNul.flatten (ascii "OK\r") [0] 13 (ascii "RING\r") where
  stream := by decide
  starts := Or.inr ⟨ascii "OK", 13, by decide, by decide⟩
  nonempty := by decide
  open' := open_of_any (by decide)
  newline := by decide
  malformed := Or.inl (by decide)
  front := wellFormed_of_short (by decide) (by decide)
  back := wellFormed_of_short (by decide) (by decide)

theorem segments_line (line : List UInt8) (nonempty : line ≠ [])
    (open' : ∀ d ∈ line, isNewline d = false) : segments isNewline (line ++ [13]) = [line] := by
  rw [segments_segment_append nonempty open' (by decide), segments_of_no_sep (by simp)]

theorem quietNul_delivered : Delivered quietNul (ascii "OK\r") (ascii "RING\r") := by
  have one : segments isNewline (ascii "OK\r") = [ascii "OK"] :=
    segments_line (ascii "OK") (by decide) (open_of_any (by decide))
  refine (wellFormed_delivered_iff quietNul quietNul_oneMalformed).1 ⟨by decide +kernel, ?_⟩
  unfold SeesBehind
  have seen : survivorsOf (readCalls quietNul (segments isNewline (ascii "OK\r")).length).state.pending
      (readCalls quietNul (segments isNewline (ascii "OK\r")).length).input
      ((ascii "RING\r").length + 1) = 13 :: ascii "RING\r" := by
    rw [one]
    decide +kernel
  rw [seen, segments_cons_sep (by decide)]

/-- A NUL in a line that is not complete yet. -/
def stuckNul : Input := [ascii "A" ++ [0] ++ ascii "\rOK\r"]

/-- **Lines behind a NUL are lost.** They are in the buffer, but the scan stops at the NUL
each time, and here nothing comes that would fill the buffer up. -/
theorem stuckNul_losesLine :
    ¬ ∀ input front bad c back, OneMalformed (List.flatten input) front bad c back →
      Delivered input front back := by
  intro claim
  have malformed : OneMalformed stuckNul.flatten [] (ascii "A" ++ [0]) 13 (ascii "OK\r") :=
    { stream := by decide
      starts := Or.inl rfl
      nonempty := by decide
      open' := open_of_any (by decide)
      newline := by decide
      malformed := Or.inl (by decide)
      front := wellFormed_of_short (by decide) (by decide)
      back := wellFormed_of_short (by decide) (by decide) }
  have none : (readLines (stuckNul.flatten.length + 1) .initial stuckNul).1 = [] := by
    decide +kernel
  have one : segments isNewline (ascii "OK\r") = [ascii "OK"] :=
    segments_line (ascii "OK") (by decide) (open_of_any (by decide))
  have lines := claim stuckNul [] _ 13 _ malformed
  rw [Delivered, none, one] at lines
  exact absurd (congrArg List.length lines) (by simp)

end RildHisi.AtChannel
