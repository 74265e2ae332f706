import RildHisi.AtChannel.Channel
import RildHisi.AtChannel.Residue
import RildHisi.AtChannel.ReadLines
import RildHisi.Library.Runs

/-!
Owns the life of the AT channel over several openings: whatever the reader, the
commands and the closings do between them, what a later generation of the
channel reads depends on the earlier ones through the input buffer alone, which
`at_open` does not touch.

The lines of a new generation are those of a fresh channel exactly where the
buffer has nothing but newlines left at the cursor and nothing but blanks in the
bytes that a prompt can expose.
-/

namespace RildHisi.AtChannel

open RildHisi.Library

/-- The channel, what its descriptor still delivers, whether the reader thread
runs, and the lines `readline` has returned since the last `at_open`. -/
structure Session where
  channel : Channel
  input : Input
  readerRuns : Bool
  delivered : List CString

/-- Program start: no channel is open. -/
def Session.initial : Session := ⟨.initial, [], false, []⟩

inductive Event
  | atOpen (fd : Int) (script : List WriteOutcome) (handler : Bool) (input : Input)
  | readerTurn
  /-- `at_send_command_full_nolock` up to its wait. -/
  | sendCommand (command : Command)
  /-- The end of a command, with or without a response. -/
  | endCommand
  | atClose
  | atSetOnTimeout (given : Bool)
  | atSetOnReaderClosed (given : Bool)

def Event.opens : Event → Bool
  | .atOpen .. => true
  | _ => false

def Event.turnsReader : Event → Bool
  | .readerTurn => true
  | _ => false

def Channel.sendCommand (chan : Channel) (command : Command) : Channel :=
  if chan.spResponse.isSome then chan.clearPendingCommand
  else
    let (err, chan) := chan.writeline command.command
    if err < 0 then chan.clearPendingCommand else chan.startCommand command

/-- One step. The channel is opened again only when the reader thread has ended,
and a reader that has ended takes no more turns. -/
def Session.step (s : Session) : Event → Option Session
  | .atOpen fd script handler input =>
      if s.readerRuns then none
      else some ⟨s.channel.atOpen fd script handler, input, true, []⟩
  | .readerTurn =>
      if s.readerRuns then
        s.channel.readerTurn s.input |>.map fun (channel, input, runs) =>
          ⟨channel, input, runs, s.delivered ++ (readline s.channel.reader s.input).1.toList⟩
      else some s
  | .sendCommand command => some { s with channel := s.channel.sendCommand command }
  | .endCommand => some { s with channel := s.channel.clearPendingCommand }
  | .atClose => some { s with channel := s.channel.atClose }
  | .atSetOnTimeout given => some { s with channel := { s.channel with sOnTimeout := given } }
  | .atSetOnReaderClosed given =>
      some { s with channel := { s.channel with sOnReaderClosed := given } }

/-- The lines of the first `count` turns of a reader on a channel never used before. -/
def freshLines (count : Nat) (input : Input) : List CString :=
  (readLines count .initial input).1

/-- A fresh channel returns no prompt on this input. -/
def PromptFree (input : Input) : Prop := ∀ count, smsPrompt ∉ freshLines count input

/-- From `s`, the next generation delivers the lines of a fresh channel, for all
inputs of the kind and whatever else happens while it is open. -/
def SeparateFrom (s : Session) (kind : Input → Prop) : Prop :=
  ∀ fd script handler input after s', kind input → (∀ event ∈ after, event.opens = false) →
    run Session.step s (.atOpen fd script handler input :: after) = some s' →
    s'.delivered = freshLines (after.countP Event.turnsReader) input

/-! ### What a step does to the reader -/

theorem Channel.writeTerminated_reader (chan : Channel) (s : CString) (terminator : UInt8) :
    (chan.writeTerminated s terminator).2.reader = chan.reader := by
  unfold writeTerminated
  split_ifs
  · rfl
  · simp only [writeBytes]
    by_cases first : (writeLoop chan.script s).complete <;>
      by_cases second : (writeLoop (writeLoop chan.script s).script [terminator]).complete <;>
        simp [first, second]

theorem Channel.callUnsolHandler_reader (chan : Channel) (s : CString)
    (smsPdu : Option CString) : (chan.callUnsolHandler s smsPdu).reader = chan.reader := by
  unfold callUnsolHandler
  split_ifs <;> rfl

theorem Channel.processLine_reader {chan next : Channel} {line : CString}
    (stepped : chan.processLine line = some next) : next.reader = chan.reader := by
  rcases Channel.processLine_cases stepped with rfl | ⟨response, rfl⟩ | ⟨response, rfl⟩ | rfl
  · exact chan.callUnsolHandler_reader line none
  · rfl
  · rfl
  · exact chan.writeTerminated_reader _ _

theorem Channel.onReaderClosed_reader (chan : Channel) :
    chan.onReaderClosed.reader = chan.reader := by
  unfold onReaderClosed
  split_ifs <;> rfl

/-- A turn makes one `readline` call, and the loop goes on exactly if it returned a
line. -/
theorem Channel.readerTurn_cases {chan next : Channel} {input rest : Input} {runs : Bool}
    (turned : chan.readerTurn input = some (next, rest, runs)) :
    next.reader = (readline chan.reader input).2.1 ∧
      rest = (readline chan.reader input).2.2 ∧
      runs = (readline chan.reader input).1.isSome := by
  unfold readerTurn at turned
  generalize readline chan.reader input = call at *
  obtain ⟨line, reader, left⟩ := call
  cases line with
  | none =>
      simp only [Option.some.injEq, Prod.mk.injEq] at turned
      obtain ⟨rfl, rfl, rfl⟩ := turned
      exact ⟨Channel.onReaderClosed_reader _, rfl, rfl⟩
  | some text =>
      simp only [isSmsUnsolicited, Bool.false_eq_true, if_false] at turned
      obtain ⟨processed, stepped, shape⟩ := Option.map_eq_some_iff.mp turned
      simp only [Prod.mk.injEq] at shape
      obtain ⟨rfl, rfl, rfl⟩ := shape
      exact ⟨Channel.processLine_reader stepped, rfl, rfl⟩

theorem Channel.sendCommand_reader (chan : Channel) (command : Command) :
    (chan.sendCommand command).reader = chan.reader := by
  unfold sendCommand
  split_ifs
  · rfl
  · have same := chan.writeTerminated_reader command.command 13
    unfold writeline
    generalize chan.writeTerminated command.command 13 = written at *
    obtain ⟨err, next⟩ := written
    simp only
    split_ifs <;> exact same

/-! ### The session -/

/-- What holds of the reader between steps. -/
structure Session.Sound (s : Session) : Prop where
  sized : Sized s.channel.reader
  /-- The reader thread ends with room left in the buffer. -/
  room : s.readerRuns = false → s.channel.reader.pending.length < maxAtResponse

theorem Session.initial_sound : Session.initial.Sound where
  sized := initial_sized
  room _ := by
    change ReaderState.initial.pending.length < maxAtResponse
    rw [initial_pending]
    decide

/-- A call that returns NULL has read as much as it has room for. -/
theorem readline_none_room {st : ReaderState} (sized : Sized st) {input : Input}
    (ended : (readline st input).1 = none) :
    (readline st input).2.1.pending.length < maxAtResponse := by
  have call := readline_refines sized input
  cases outcome : pendingReadline st.pending input with
  | line text behind rest =>
      rw [outcome] at call
      exact absurd (call.1.symm.trans ended) (by simp)
  | prompt pending rest =>
      rw [outcome] at call
      exact absurd (call.1.symm.trans ended) (by simp)
  | endOfInput pending =>
      rw [outcome] at call
      obtain ⟨-, -, holds, ends, room⟩ := call
      have shorter : (cString pending).length ≤ pending.length :=
        (List.takeWhile_sublist _).length_le
      unfold EndsAt at ends
      rw [holds.pending_eq]
      omega

/-- One step on the reader: a turn is one `readline` call, every other step leaves
the buffer alone. -/
theorem Session.step_cases {s s' : Session} {event : Event} (stepped : s.step event = some s') :
    (∃ fd script handler input, event = .atOpen fd script handler input ∧ s.readerRuns = false ∧
      s'.channel.reader = s.channel.reader ∧ s'.input = input ∧ s'.readerRuns = true ∧
      s'.delivered = []) ∨
    (event = .readerTurn ∧ s.readerRuns = true ∧
      s'.channel.reader = (readline s.channel.reader s.input).2.1 ∧
      s'.input = (readline s.channel.reader s.input).2.2 ∧
      s'.readerRuns = (readline s.channel.reader s.input).1.isSome ∧
      s'.delivered = s.delivered ++ (readline s.channel.reader s.input).1.toList) ∨
    (event.opens = false ∧ (event.turnsReader = true → s.readerRuns = false) ∧
      s'.channel.reader = s.channel.reader ∧ s'.input = s.input ∧
      s'.readerRuns = s.readerRuns ∧ s'.delivered = s.delivered) := by
  cases event with
  | atOpen fd script handler input =>
      simp only [step] at stepped
      split_ifs at stepped with runs
      obtain rfl := Option.some.inj stepped
      exact Or.inl ⟨fd, script, handler, input, rfl, by simpa using runs, rfl, rfl, rfl, rfl⟩
  | readerTurn =>
      simp only [step] at stepped
      split_ifs at stepped with runs
      · obtain ⟨⟨channel, input, goesOn⟩, turned, rfl⟩ := Option.map_eq_some_iff.mp stepped
        obtain ⟨reader, left, on⟩ := Channel.readerTurn_cases turned
        exact Or.inr (Or.inl ⟨rfl, runs, reader, left, on, rfl⟩)
      · obtain rfl := Option.some.inj stepped
        exact Or.inr (Or.inr ⟨rfl, fun _ => by simpa using runs, rfl, rfl, rfl, rfl⟩)
  | sendCommand command =>
      obtain rfl := Option.some.inj stepped
      exact Or.inr (Or.inr ⟨rfl, nofun, s.channel.sendCommand_reader command, rfl, rfl, rfl⟩)
  | endCommand | atClose | atSetOnTimeout | atSetOnReaderClosed =>
      obtain rfl := Option.some.inj stepped
      exact Or.inr (Or.inr ⟨rfl, nofun, rfl, rfl, rfl, rfl⟩)

theorem Session.Sound.step {s s' : Session} {event : Event} (sound : s.Sound)
    (stepped : s.step event = some s') : s'.Sound := by
  rcases Session.step_cases stepped with
    ⟨fd, script, handler, input, -, -, reader, -, runs, -⟩ | ⟨-, -, reader, -, runs, -⟩ |
    ⟨-, -, reader, -, runs, -⟩
  · exact ⟨reader ▸ sound.sized, fun ended => by simp [runs] at ended⟩
  · refine ⟨reader ▸ readline_sized sound.sized _, fun ended => ?_⟩
    rw [reader]
    apply readline_none_room sound.sized
    rw [runs] at ended
    simpa using ended
  · exact ⟨reader ▸ sound.sized, fun ended => reader ▸ sound.room (runs ▸ ended)⟩

/-- While the channel stays open, the lines delivered are those of successive
`readline` calls. -/
theorem Session.delivered_of_run {s s' : Session} {events : List Event}
    (noOpen : ∀ event ∈ events, event.opens = false)
    (ran : run Session.step s events = some s') :
    s'.delivered = s.delivered ++
      if s.readerRuns then
        (readLines (events.countP Event.turnsReader) s.channel.reader s.input).1
      else [] := by
  induction events generalizing s with
  | nil =>
      obtain rfl : s = s' := by simpa using ran
      simp [readLines]
  | cons event events inductionHypothesis =>
      obtain ⟨middle, stepped, rest⟩ := Option.bind_eq_some_iff.mp ran
      have later := inductionHypothesis
        (fun other member => noOpen other (List.mem_cons_of_mem _ member)) rest
      rw [later]
      rcases Session.step_cases stepped with
        ⟨fd, script, handler, input, rfl, -⟩ | ⟨rfl, runs, reader, left, goesOn, delivered⟩ |
        ⟨-, noTurn, reader, left, runs, delivered⟩
      · exact absurd (noOpen _ List.mem_cons_self) (by simp [Event.opens])
      · rw [List.countP_cons_of_pos (by rfl), runs, if_pos rfl, goesOn, delivered, reader, left]
        simp only [readLines]
        generalize readline s.channel.reader s.input = call
        obtain ⟨line, next, input⟩ := call
        cases line with
        | none => simp
        | some text => simp
      · rw [runs, delivered, reader, left]
        by_cases turn : event.turnsReader = true
        · simp [noTurn turn]
        · rw [List.countP_cons_of_neg turn]

/-! ### Inputs that tell generations apart -/

theorem pendingReadline_newlines {pending : CString}
    (newlines : ∀ c ∈ pending, isNewline c = true) (input : Input) :
    pendingReadline pending input = pendingReadline [] input := by
  have empty : pending.dropWhile isNewline = [] := by rwa [List.dropWhile_eq_nil_iff]
  unfold pendingReadline
  rw [empty]
  by_cases none' : pending = []
  · rw [if_pos none', if_pos rfl]
  · rw [if_neg none', if_pos rfl]
    simp [endOfLineTest, cString, smsPrompt, scanEol]

theorem scanEol_at_newline {pending : List UInt8} (clean : (0 : UInt8) ∉ pending)
    (unended : ∀ c ∈ pending, isNewline c = false) (beyond : List UInt8) :
    scanEol (pending ++ 13 :: beyond) = some pending.length := by
  induction pending with
  | nil => simp [scanEol, isNewline]
  | cons c rest inductionHypothesis =>
      have nonzero : c ≠ 0 := fun zero => clean (by simp [zero])
      have tail := inductionHypothesis (fun member => clean (List.mem_cons_of_mem _ member))
        fun d member => unended d (List.mem_cons_of_mem _ member)
      simp [scanEol, nonzero, unended c List.mem_cons_self, tail]

theorem pendingLoop_carriageReturn {left : List UInt8} (clean : (0 : UInt8) ∉ left)
    (nonempty : left ≠ []) (unended : ∀ c ∈ left, isNewline c = false)
    (room : left.length < maxAtResponse) {fuel : Nat} :
    pendingLoop (fuel + 1) left left.length [[13]] = .line left [] [] := by
  have space : ¬ maxAtResponse - left.length = 0 := by omega
  have fits : [(13 : UInt8)].length ≤ maxAtResponse - left.length := by
    simp only [List.length_singleton]; omega
  have read : readChunk (maxAtResponse - left.length) [[13]] = some ([13], []) := by
    rw [readChunk, if_pos fits]
    exact List.cons_ne_nil _ _
  obtain ⟨c, rest, rfl⟩ := List.exists_cons_of_ne_nil nonempty
  have kept : (c :: rest ++ [13]).dropWhile isNewline = c :: rest ++ [13] := by
    simp [unended c List.mem_cons_self]
  have noPrompt : cString (c :: rest ++ [13]) ≠ smsPrompt := by
    rw [cString_eq_self (by simpa using clean)]
    intro same
    have member : (13 : UInt8) ∈ smsPrompt := by simp [← same]
    exact absurd member (by decide)
  simp only [pendingLoop, if_neg space, pendingRound, read, kept, endOfLineTest,
    if_neg noPrompt, scanEol_at_newline clean unended []]
  simp

/-- A lone CR ends the line that is left over. -/
theorem readline_carriageReturn {st : ReaderState} (sized : Sized st)
    (room : st.pending.length < maxAtResponse) :
    (readline st [[13]]).1 = none ↔ ∀ c ∈ st.pending, isNewline c = true := by
  have call := readline_refines sized [[13]]
  constructor
  · intro ended
    by_contra unfinished
    -- the abstract call cannot come to the end of the input
    have outcome : ∀ pending, pendingReadline st.pending [[13]] ≠ .endOfInput pending := by
      have clean : (0 : UInt8) ∉ st.pending.dropWhile isNewline := fun member =>
        zero_notMem_cString _ ((List.dropWhile_suffix _).mem member)
      have nonempty : st.pending.dropWhile isNewline ≠ [] := by
        rwa [Ne, List.dropWhile_eq_nil_iff]
      have shorter := (List.dropWhile_sublist isNewline (l := st.pending)).length_le
      unfold pendingReadline
      rw [if_neg (fun empty => nonempty (by simp [empty]))]
      generalize st.pending.dropWhile isNewline = left at *
      intro pending
      simp only [endOfLineTest]
      split_ifs
      · simp
      cases found : scanEol left with
      | some eol => simp
      | none =>
          have unended := scanEol_none clean found
          simp only [List.flatten_cons, List.flatten_nil, List.append_nil]
          rw [pendingLoop_carriageReturn clean nonempty unended (by omega)]
          simp
    cases result : pendingReadline st.pending [[13]] with
    | line text behind rest =>
        rw [result] at call
        exact absurd (call.1.symm.trans ended) (by simp)
    | prompt pending rest =>
        rw [result] at call
        exact absurd (call.1.symm.trans ended) (by simp)
    | endOfInput pending => exact outcome pending result
  · intro newlines
    rw [pendingReadline_newlines newlines] at call
    have ended : pendingReadline [] [[13]] = .endOfInput [] := by decide
    rw [ended] at call
    exact call.1

theorem receive_startOver (st : ReaderState) (bytes : List UInt8) :
    (st.startOver.receive bytes).sAtBuffer = bytes ++ 0 :: st.sAtBuffer.drop (bytes.length + 1) ∧
      (st.startOver.receive bytes).sAtBufferCur =
        ((bytes ++ 0 :: st.sAtBuffer.drop (bytes.length + 1)).takeWhile isNewline).length := by
  have buffer : (st.startOver.receive bytes).sAtBuffer =
      bytes ++ 0 :: st.sAtBuffer.drop (bytes.length + 1) := by
    simp [ReaderState.startOver, ReaderState.receive, ReaderState.skipNewlines,
      ReaderState.store]
  refine ⟨buffer, ?_⟩
  rw [← buffer]
  simp [ReaderState.receive, ReaderState.skipNewlines, ReaderState.fromCursor,
    ReaderState.startOver, ReaderState.store]

/-- Newlines and the prompt, in one read, put the cursor at `index`. -/
def promptAt (index : Nat) : List UInt8 := List.replicate (index - 3) 13 ++ smsPrompt

theorem readline_promptAt {st : ReaderState} (sized : Sized st)
    (newlines : ∀ c ∈ st.pending, isNewline c = true) (index : Nat) (three : 3 ≤ index)
    (inside : index ≤ maxAtResponse) (rest : Input) :
    (readline st (promptAt index :: rest)).1 = some smsPrompt ∧
      (readline st (promptAt index :: rest)).2.2 = rest ∧
      (readline st (promptAt index :: rest)).2.1.fromCursor = st.sAtBuffer.drop index := by
  have length : (promptAt index).length = index - 1 := by
    simp only [promptAt, smsPrompt, List.length_append, List.length_replicate,
      List.length_cons, List.length_nil]
    omega
  have nonempty : promptAt index ≠ [] := by
    intro empty
    rw [empty] at length
    simp only [List.length_nil] at length
    omega
  have room : ¬ maxAtResponse - st.startOver.readEnd = 0 := by
    change ¬ maxAtResponse - 0 = 0
    decide
  have read : readChunk (maxAtResponse - st.startOver.readEnd) (promptAt index :: rest) =
      some (promptAt index, rest) := by
    have fits : (promptAt index).length ≤ maxAtResponse - st.startOver.readEnd := by
      change _ ≤ maxAtResponse - 0
      omega
    rw [readChunk, if_pos fits]
    exact nonempty
  obtain ⟨buffer, cursor⟩ := receive_startOver st (promptAt index)
  have behind : st.sAtBuffer.drop ((promptAt index).length + 1) = st.sAtBuffer.drop index := by
    rw [length, Nat.sub_add_cancel (by omega)]
  rw [behind] at buffer cursor
  have skipped : (promptAt index ++ 0 :: st.sAtBuffer.drop index).takeWhile isNewline =
      List.replicate (index - 3) 13 := by
    rw [promptAt, List.append_assoc,
      List.takeWhile_append_of_pos (by simp [isNewline])]
    simp [smsPrompt, isNewline]
  rw [skipped, List.length_replicate] at cursor
  have atPrompt : (st.startOver.receive (promptAt index)).fromCursor =
      smsPrompt ++ 0 :: st.sAtBuffer.drop index := by
    rw [ReaderState.fromCursor, buffer, cursor, promptAt, List.append_assoc]
    exact List.drop_left' (by simp)
  have found : findNextEol (st.startOver.receive (promptAt index)).fromCursor = some 2 := by
    rw [atPrompt, findNextEol_append_zero]
    simp [cString, smsPrompt]
  rw [readline_of_newlines sized newlines]
  simp only [readlineLoop, if_neg room, read, found, returnLine, takeLine]
  refine ⟨?_, trivial, ?_⟩
  · rw [atPrompt]
    rfl
  · simp only [ReaderState.fromCursor, ReaderState.store, buffer, cursor]
    have front : (promptAt index ++ 0 :: st.sAtBuffer.drop index).take (index - 3 + 2) =
        promptAt index := by
      rw [List.take_append_of_le_length (by omega)]
      exact List.take_of_length_le (by omega)
    have frontLength : (promptAt index ++ [0]).length = index := by
      rw [List.length_append, length, List.length_singleton]
      omega
    have tail : (promptAt index ++ 0 :: st.sAtBuffer.drop index).drop
        (index - 3 + 2 + [(0 : UInt8)].length) = st.sAtBuffer.drop index := by
      change (promptAt index ++ ([0] ++ st.sAtBuffer.drop index)).drop _ = _
      rw [← List.append_assoc]
      apply List.drop_left'
      rw [frontLength, List.length_singleton]
      omega
    rw [front, tail, show index - 3 + 2 + 1 = index by omega]
    exact List.drop_left' frontLength

/-! ### Separate generations -/

/-- Nothing but newlines is left at the cursor. -/
def ReaderState.Drained (st : ReaderState) : Prop := ∀ c ∈ st.pending, isNewline c = true

/-- Nothing but blanks stands where a prompt can put the cursor. -/
def ReaderState.Wiped (st : ReaderState) : Prop := ∀ c ∈ st.sAtBuffer.drop 3, isBlank c = true

instance (st : ReaderState) : Decidable st.Drained :=
  inferInstanceAs (Decidable (∀ c ∈ st.pending, isNewline c = true))

instance (st : ReaderState) : Decidable st.Wiped :=
  decidable_of_iff ((st.sAtBuffer.drop 3).all isBlank = true) List.all_eq_true

theorem initial_drained : ReaderState.initial.Drained := by
  intro c member
  rw [initial_pending] at member
  simp at member

/-- A drained and wiped buffer is as good as a fresh one. -/
theorem alike_initial {st : ReaderState} (drained : st.Drained) (wiped : st.Wiped) :
    Alike st .initial := by
  have wipedInitial : ReaderState.initial.Wiped := by
    intro c member
    have zero := List.eq_of_mem_replicate (List.mem_of_mem_drop member)
    simp [zero, isBlank]
  exact ⟨[], ⟨by simp, ⟨st.sAtBuffer, rfl, wiped⟩, ⟨_, rfl, wipedInitial⟩⟩,
    Or.inr ⟨drained, initial_drained⟩⟩

/-- Two readers with the same bytes left return the same lines as long as none of
them is the prompt. -/
theorem readLines_same_of_quiet (fuel : Nat) {a b : ReaderState} (sizedA : Sized a)
    (sizedB : Sized b) {input : Input}
    (same : pendingReadline a.pending input = pendingReadline b.pending input)
    (quiet : smsPrompt ∉ (readLines fuel b input).1) :
    (readLines fuel a input).1 = (readLines fuel b input).1 := by
  induction fuel generalizing a b input with
  | zero => rfl
  | succ fuel inductionHypothesis =>
      have callA := readline_refines sizedA input
      have callB := readline_refines sizedB input
      rw [same] at callA
      simp only [readLines] at quiet ⊢
      generalize readline a input = resultA at *
      generalize readline b input = resultB at *
      obtain ⟨lineA, nextA, inputA⟩ := resultA
      obtain ⟨lineB, nextB, inputB⟩ := resultB
      cases outcome : pendingReadline b.pending input with
      | line text behind rest =>
          rw [outcome] at callA callB
          obtain ⟨rfl, rfl, holdsA, -⟩ := callA
          obtain ⟨rfl, rfl, holdsB, -⟩ := callB
          simp only [List.mem_cons, not_or] at quiet
          refine congrArg (text :: ·) (inductionHypothesis holdsA.sized holdsB.sized ?_ quiet.2)
          rw [holdsA.pending_eq, holdsB.pending_eq]
      | prompt pending rest =>
          rw [outcome] at callB
          obtain ⟨rfl, -⟩ := callB
          simp at quiet
      | endOfInput pending =>
          rw [outcome] at callA callB
          obtain ⟨rfl, -⟩ := callA
          obtain ⟨rfl, -⟩ := callB
          rfl

/-- The reader's next lines are those of a fresh channel for inputs of the kind. -/
def ReaderState.Fresh (st : ReaderState) (kind : Input → Prop) : Prop :=
  ∀ count input, kind input → (readLines count st input).1 = freshLines count input

/-- A lone CR brings no line exactly from a drained buffer. -/
theorem readLines_carriageReturn {st : ReaderState} (sized : Sized st)
    (room : st.pending.length < maxAtResponse) :
    (readLines 1 st [[13]]).1 = [] ↔ st.Drained := by
  unfold ReaderState.Drained
  rw [← readline_carriageReturn sized room]
  simp only [readLines]
  generalize readline st [[13]] = call
  obtain ⟨line, next, input⟩ := call
  cases line <;> simp

theorem ReaderState.Fresh.drained {st : ReaderState} (sized : Sized st)
    (room : st.pending.length < maxAtResponse) {kind : Input → Prop} (known : kind [[13]])
    (fresh : st.Fresh kind) : st.Drained := by
  refine (readLines_carriageReturn sized room).mp ((fresh 1 [[13]] known).trans ?_)
  refine (readLines_carriageReturn initial_sized ?_).mpr initial_drained
  rw [initial_pending]
  decide

/-- A byte that a prompt can expose comes back as a line. -/
theorem ReaderState.Fresh.wiped {st : ReaderState} (sized : Sized st) (drained : st.Drained)
    (fresh : st.Fresh fun _ => True) : st.Wiped := by
  intro c member
  obtain ⟨offset, inside, rfl⟩ := List.getElem_of_mem member
  have size := sized.length
  rw [List.length_drop] at inside
  have index : 3 + offset ≤ maxAtResponse := by omega
  -- the prompt, then a lone CR
  have after : ∀ {st : ReaderState}, Sized st → st.Drained → ∃ next : ReaderState, Sized next ∧
      next.fromCursor = st.sAtBuffer.drop (3 + offset) ∧
      (readLines 2 st [promptAt (3 + offset), [13]]).1 =
        smsPrompt :: (readLines 1 next [[13]]).1 := by
    intro st sized drained
    obtain ⟨line, left, behind⟩ :=
      readline_promptAt sized drained (3 + offset) (by omega) index [[13]]
    refine ⟨_, readline_sized sized _, behind, ?_⟩
    rw [readLines]
    generalize readline st [promptAt (3 + offset), [13]] = call at *
    obtain ⟨line', next, input⟩ := call
    obtain rfl : line' = some smsPrompt := line
    obtain rfl : input = [[13]] := left
    rfl
  have room : ∀ {st next : ReaderState}, Sized st →
      next.fromCursor = st.sAtBuffer.drop (3 + offset) → next.pending.length < maxAtResponse := by
    intro st next sized behind
    have shorter : next.pending.length ≤ next.fromCursor.length :=
      (List.takeWhile_sublist _).length_le
    rw [behind, List.length_drop, sized.length] at shorter
    omega
  obtain ⟨next, nextSized, behind, lines⟩ := after sized drained
  obtain ⟨clear, clearSized, clearBehind, clearLines⟩ := after initial_sized initial_drained
  have clearDrained : clear.Drained := by
    intro c member
    have zero : c = 0 := by
      have inside := (List.takeWhile_prefix _).mem member
      rw [clearBehind] at inside
      exact List.eq_of_mem_replicate (List.mem_of_mem_drop inside)
    exact absurd (zero ▸ member) (zero_notMem_cString _)
  have same := fresh 2 [promptAt (3 + offset), [13]] trivial
  have silent := (readLines_carriageReturn clearSized (room initial_sized clearBehind)).mpr
    clearDrained
  rw [lines, freshLines, clearLines, silent, List.cons.injEq] at same
  have nextDrained := (readLines_carriageReturn nextSized (room sized behind)).mp same.2
  rw [List.getElem_drop]
  -- the exposed byte is the first of the bytes left, unless it is a NUL
  have first : next.fromCursor = st.sAtBuffer[3 + offset] :: st.sAtBuffer.drop (3 + offset + 1) :=
    behind.trans (List.drop_eq_getElem_cons (by omega))
  by_cases zero : st.sAtBuffer[3 + offset] = 0
  · simp [isBlank, zero]
  · have newline := nextDrained st.sAtBuffer[3 + offset] (by
      rw [ReaderState.pending, first, cString, List.takeWhile_cons_of_pos (by simpa using zero)]
      exact List.mem_cons_self)
    simp [isBlank, newline]

/-- A reader alone can take any number of turns. -/
theorem Session.run_readerTurns {s : Session} (idle : s.channel.spResponse = none)
    (count : Nat) : ∃ s', run Session.step s (List.replicate count .readerTurn) = some s' := by
  induction count generalizing s with
  | zero => exact ⟨s, rfl⟩
  | succ count inductionHypothesis =>
      obtain ⟨middle, stepped, still⟩ : ∃ middle, s.step .readerTurn = some middle ∧
          middle.channel.spResponse = none := by
        simp only [Session.step]
        split_ifs
        · unfold Channel.readerTurn
          generalize readline s.channel.reader s.input = call
          obtain ⟨line, reader, input⟩ := call
          cases line with
          | none =>
              refine ⟨_, rfl, ?_⟩
              simp only [Channel.onReaderClosed]
              split_ifs <;> exact idle
          | some text =>
              simp only [isSmsUnsolicited, Bool.false_eq_true, if_false, Channel.processLine, idle]
              refine ⟨_, rfl, ?_⟩
              simp only [Channel.handleUnsolicited, Channel.callUnsolHandler]
              split_ifs <;> rfl
        · exact ⟨s, rfl, idle⟩
      obtain ⟨last, ran⟩ := inductionHypothesis still
      exact ⟨last, by rw [List.replicate_succ, run_cons, stepped]; exact ran⟩

theorem separateFrom_iff_fresh {s : Session} (ended : s.readerRuns = false)
    (kind : Input → Prop) : SeparateFrom s kind ↔ s.channel.reader.Fresh kind := by
  constructor
  · intro separate count input known
    let opened : Session := ⟨s.channel.atOpen 0 [] false, input, true, []⟩
    obtain ⟨last, ran⟩ := Session.run_readerTurns (s := opened) rfl count
    have noOpen : ∀ event ∈ List.replicate count Event.readerTurn, event.opens = false := by
      intro event member
      rw [List.eq_of_mem_replicate member]
      rfl
    have whole : run Session.step s (.atOpen 0 [] false input ::
        List.replicate count .readerTurn) = some last := by
      rw [run_cons]
      simp only [Session.step, ended, Bool.false_eq_true, if_false]
      exact ran
    have lines := separate 0 [] false input _ last known noOpen whole
    have delivered := Session.delivered_of_run noOpen ran
    have turns : (List.replicate count Event.readerTurn).countP Event.turnsReader = count := by
      simp [List.countP_replicate, Event.turnsReader]
    rw [turns] at lines delivered
    rw [← lines, delivered]
    rfl
  · intro fresh fd script handler input after s' known noOpen ran
    rw [run_cons] at ran
    simp only [Session.step, ended, Bool.false_eq_true, if_false, Option.bind_some] at ran
    rw [Session.delivered_of_run noOpen ran]
    exact fresh _ input known

/-- **Generations are separate exactly where the buffer is drained and wiped.**
Whatever happened before a second `at_open`, the lines delivered after it are
those of a fresh channel for every input if and only if nothing but newlines
was left at the cursor and nothing but blanks in the bytes that a prompt
exposes. For inputs without a prompt the first condition alone decides. -/
theorem separateFrom_iff {history : List Event} {s : Session}
    (ran : run Session.step .initial history = some s) (ended : s.readerRuns = false) :
    (SeparateFrom s (fun _ => True) ↔ s.channel.reader.Drained ∧ s.channel.reader.Wiped) ∧
      (SeparateFrom s PromptFree ↔ s.channel.reader.Drained) := by
  have sound : s.Sound := run_invariant (fun _ _ _ sound stepped => sound.step stepped)
    Session.initial_sound ran
  rw [separateFrom_iff_fresh ended, separateFrom_iff_fresh ended]
  refine ⟨⟨fun fresh => ?_, fun ⟨drained, wiped⟩ count input _ => ?_⟩,
    ⟨fun fresh => ?_, fun drained count input quiet => ?_⟩⟩
  · have drained := fresh.drained sound.sized (sound.room ended) trivial
    exact ⟨drained, fresh.wiped sound.sized drained⟩
  · exact readLines_same count sound.sized initial_sized (alike_initial drained wiped) input
  · apply fresh.drained sound.sized (sound.room ended)
    intro count
    have ended := (readline_carriageReturn initial_sized (by rw [initial_pending]; decide)).mpr
      initial_drained
    cases count with
    | zero => simp [freshLines, readLines]
    | succ count =>
        rw [freshLines, readLines]
        generalize readline .initial [[13]] = call at *
        obtain ⟨line, next, input⟩ := call
        obtain rfl : line = none := ended
        simp
  · refine readLines_same_of_quiet count sound.sized initial_sized ?_ (quiet count)
    rw [pendingReadline_newlines drained, initial_pending]

/-- A generation in which the modem only sent an empty line. -/
def cleanHistory : List Event := [.atOpen 3 [] true [ascii "\r\n"], .readerTurn, .atClose]

theorem separateFrom_cleanHistory :
    ∃ s, run Session.step .initial cleanHistory = some s ∧ SeparateFrom s (fun _ => True) := by
  have outcome : (run Session.step .initial cleanHistory).map (fun s => decide
      (s.readerRuns = false ∧ s.channel.reader.Drained ∧ s.channel.reader.Wiped)) =
        some true := by decide +kernel
  obtain ⟨s, ran, met⟩ := Option.map_eq_some_iff.mp outcome
  obtain ⟨ended, drained, wiped⟩ := of_decide_eq_true met
  exact ⟨s, ran, (separateFrom_iff ran ended).1.mpr ⟨drained, wiped⟩⟩

/-- The first generation dies inside a line, and the second one delivers that part
in front of its own first line. -/
theorem generations_mix :
    (run Session.step .initial
      [.atOpen 3 [] true [ascii "+CRE"], .readerTurn, .atClose,
        .atOpen 4 [] true [ascii "OK\r"], .readerTurn]).map Session.delivered =
          some [ascii "+CREOK"] ∧
      (run Session.step .initial
        [.atOpen 4 [] true [ascii "OK\r"], .readerTurn]).map Session.delivered =
          some [ascii "OK"] := by
  decide +kernel

end RildHisi.AtChannel
