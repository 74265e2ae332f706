import RildHisi.AtChannel.Channel

/-!
Owns what a command comes to: for the lines processed up to the first final one,
which become intermediate responses, which go to the unsolicited handler, when
the PDU is written, and what `at_send_command_full` returns.

`Progress` says where the channel stands after some non-final lines. One line
carries it on (`Progress.processLine`), and the waits of the command only cut
the lines into pieces.
-/

namespace RildHisi.AtChannel

open RildHisi.Library

/-! ### The split of the lines -/

/-- A line the command type takes for an intermediate response. -/
def isIntermediate (type : AtCommandType) (responsePrefix : Option CString) (line : CString) :
    Bool :=
  match type with
  | .noResult => false
  | .numeric => startsWithDigit line
  | .singleline | .multiline => responsePrefix.any (·.isPrefixOf line)

/-- The intermediate responses among non-final lines: all of them for MULTILINE,
else the first. -/
def intermediates (type : AtCommandType) (responsePrefix : Option CString)
    (lines : List CString) : List CString :=
  if type = .multiline then lines.filter (isIntermediate type responsePrefix)
  else (lines.find? (isIntermediate type responsePrefix)).toList

/-- The other lines. -/
def unsolicitedLines (type : AtCommandType) (responsePrefix : Option CString)
    (lines : List CString) : List CString :=
  if type = .multiline then lines.filter (!isIntermediate type responsePrefix ·)
  else lines.eraseP (isIntermediate type responsePrefix)

/-- The lines left for the type switch: the first prompt is consumed by the PDU. -/
def answerLines (smspdu : Option CString) (lines : List CString) : List CString :=
  if smspdu.isSome then lines.erase smsPrompt else lines

/-- What is written in answer to the lines. -/
def pduBytes (smspdu : Option CString) (lines : List CString) : List UInt8 :=
  if smsPrompt ∈ lines then smspdu.elim [] (· ++ [26]) else []

/-- The calls of the unsolicited handler for `lines`. -/
def unsolicitedCalls (handler : Bool) (lines : List CString) : List Callback :=
  if handler then lines.map (Callback.unsolicited · none) else []

theorem strStartsWith_eq_isPrefixOf (line start : CString) :
    strStartsWith line start = start.isPrefixOf line := by
  rw [Bool.eq_iff_iff, strStartsWith_iff, List.isPrefixOf_iff_prefix]

/-- A success line starts with one of the success strings. -/
theorem isFinalResponseSuccess_iff (line : CString) :
    isFinalResponseSuccess line = true ↔ ∃ start ∈ sFinalResponsesSuccess, start <+: line := by
  simp [isFinalResponseSuccess, List.any_eq_true, strStartsWith_iff]

section Split

variable {type : AtCommandType} {responsePrefix : Option CString}

/-- Whether the next line is kept, with `kept` kept so far. -/
def keeps (type : AtCommandType) (responsePrefix : Option CString) (kept : List CString)
    (line : CString) : Bool :=
  isIntermediate type responsePrefix line && (type == .multiline || kept.isEmpty)

@[simp] theorem keeps_reverse (kept : List CString) (line : CString) :
    keeps type responsePrefix kept.reverse line = keeps type responsePrefix kept line := by
  simp [keeps]

theorem intermediates_concat (lines : List CString) (line : CString) :
    intermediates type responsePrefix (lines ++ [line]) =
      if keeps type responsePrefix (intermediates type responsePrefix lines) line then
        intermediates type responsePrefix lines ++ [line]
      else intermediates type responsePrefix lines := by
  unfold keeps intermediates
  by_cases multiline : type = .multiline
  · subst multiline
    by_cases kept : isIntermediate .multiline responsePrefix line <;> simp [kept]
  · simp only [if_neg multiline, List.find?_append, beq_false_of_ne multiline, Bool.false_or]
    cases found : lines.find? (isIntermediate type responsePrefix) with
    | some first => simp
    | none => by_cases kept : isIntermediate type responsePrefix line <;> simp [kept]

theorem unsolicitedLines_concat (lines : List CString) (line : CString) :
    unsolicitedLines type responsePrefix (lines ++ [line]) =
      if keeps type responsePrefix (intermediates type responsePrefix lines) line then
        unsolicitedLines type responsePrefix lines
      else unsolicitedLines type responsePrefix lines ++ [line] := by
  unfold keeps intermediates unsolicitedLines
  by_cases multiline : type = .multiline
  · subst multiline
    by_cases kept : isIntermediate .multiline responsePrefix line <;> simp [kept]
  · simp only [if_neg multiline, beq_false_of_ne multiline, Bool.false_or]
    cases found : lines.find? (isIntermediate type responsePrefix) with
    | some first =>
        have member := List.mem_of_find?_eq_some found
        have kept := List.find?_some found
        simp [List.eraseP_append_left kept [line] member]
    | none =>
        have none' : ∀ other ∈ lines, ¬ isIntermediate type responsePrefix other = true := by
          simpa using found
        rw [List.eraseP_append_right [line] none', List.eraseP_of_forall_not none']
        by_cases kept : isIntermediate type responsePrefix line <;> simp [kept]

end Split

/-! ### Writing -/

theorem Channel.writeTerminated_of_neverFails {chan : Channel} (opened : 0 ≤ chan.sFd)
    (readerOpen : chan.sReaderClosed = false) (writes : NeverFails chan.script)
    (s : CString) (terminator : UInt8) :
    ∃ script, NeverFails script ∧ chan.writeTerminated s terminator =
      (0, { chan with script := script, written := chan.written ++ (s ++ [terminator]) }) := by
  obtain ⟨complete, rest⟩ := writeLoop_of_neverFails writes s
  obtain ⟨complete', rest'⟩ :=
    writeLoop_of_neverFails rest [terminator]
  refine ⟨_, rest', ?_⟩
  have guard : (decide (chan.sFd < 0) || chan.sReaderClosed) = false := by
    simp [readerOpen, opened]
  simp only [writeTerminated, guard, writeBytes, complete, complete', Bool.not_true,
    Bool.false_eq_true, if_false, writeLoop_complete complete, writeLoop_complete complete',
    List.append_assoc]

/-- A terminated write changes what was written and nothing else. -/
theorem Channel.writeTerminated_frame (chan : Channel) (s : CString) (terminator : UInt8) :
    ∃ script written, (chan.writeTerminated s terminator).2 =
      { chan with script := script, written := written } := by
  unfold writeTerminated writeBytes
  by_cases guard : (decide (chan.sFd < 0) || chan.sReaderClosed) = true
  · exact ⟨chan.script, chan.written, by rw [if_pos guard]⟩
  · rw [if_neg guard]
    by_cases first : (writeLoop chan.script s).complete <;>
      by_cases second : (writeLoop (writeLoop chan.script s).script [terminator]).complete <;>
        simp [first, second]

/-- Only an open channel takes a write. -/
theorem Channel.writeTerminated_open {chan : Channel} {s : CString} {terminator : UInt8}
    (accepted : ¬ (chan.writeTerminated s terminator).1 < 0) :
    0 ≤ chan.sFd ∧ (chan.writeTerminated s terminator).2.sReaderClosed = false := by
  obtain ⟨script, written, shape⟩ := chan.writeTerminated_frame s terminator
  unfold writeTerminated at accepted
  split_ifs at accepted with guard
  · exact absurd (show atErrorChannelClosed < 0 by decide) accepted
  · rw [shape]
    simpa using guard

/-- A write that fails is none that has timed out. -/
theorem Channel.writeTerminated_codes (chan : Channel) (s : CString) (terminator : UInt8) :
    (chan.writeTerminated s terminator).1 ≠ atErrorTimeout := by
  have closed : atErrorChannelClosed ≠ atErrorTimeout := by decide
  have generic : atErrorGeneric ≠ atErrorTimeout := by decide
  have done : (0 : Int) ≠ atErrorTimeout := by decide
  unfold writeTerminated
  by_cases guard : (decide (chan.sFd < 0) || chan.sReaderClosed) = true
  · rw [if_pos guard]
    exact closed
  · rw [if_neg guard]
    simp only [writeBytes]
    by_cases first : (writeLoop chan.script s).complete <;>
      by_cases second : (writeLoop (writeLoop chan.script s).script [terminator]).complete <;>
        simp [first, second, generic, done]

theorem unsolicitedCalls_append (handler : Bool) (first second : List CString) :
    unsolicitedCalls handler (first ++ second) =
      unsolicitedCalls handler first ++ unsolicitedCalls handler second := by
  cases handler <;> simp [unsolicitedCalls]

theorem Channel.handleUnsolicited_eq (chan : Channel) (line : CString) :
    chan.handleUnsolicited line =
      { chan with callbacks := chan.callbacks ++ unsolicitedCalls chan.sUnsolHandler [line] } := by
  unfold handleUnsolicited callUnsolHandler unsolicitedCalls
  split_ifs <;> simp

/-! ### The lines in front of the final one -/

/-- The accounts of a line that the PDU does not answer: no PDU is left, or it is
not the prompt. -/
theorem answered_concat (smspdu : Option CString) (lines : List CString) (line : CString)
    (unanswered : smsPrompt ∈ lines ∨ smspdu = none ∨ line ≠ smsPrompt) :
    answerLines smspdu (lines ++ [line]) = answerLines smspdu lines ++ [line] ∧
      pduBytes smspdu (lines ++ [line]) = pduBytes smspdu lines ∧
      (if smsPrompt ∈ lines ++ [line] then none else smspdu) =
        if smsPrompt ∈ lines then none else smspdu := by
  rcases unanswered with before | missing | different
  · simp [answerLines, pduBytes, before, List.erase_append]
    split_ifs <;> rfl
  · simp [answerLines, pduBytes, missing]
  · have different' : smsPrompt ≠ line := Ne.symm different
    refine ⟨?_, by simp [pduBytes, different'], by simp [different']⟩
    by_cases before : smsPrompt ∈ lines
    · simp [answerLines, before, List.erase_append]
      split_ifs <;> rfl
    · have last : smsPrompt ∉ lines ++ [line] := by simp [before, different']
      simp [answerLines, List.erase_of_not_mem last, List.erase_of_not_mem before]

/-- The prefix is given where the type reads it. -/
def Command.Prefixed (command : Command) : Prop :=
  command.type = .singleline ∨ command.type = .multiline → command.responsePrefix.isSome

instance (command : Command) : Decidable command.Prefixed :=
  inferInstanceAs (Decidable (_ → _))


/-- The response as the line reader stores it, the last intermediate first. -/
def storedResponse (command : Command) (lines : List CString) (final : CString) : AtResponse :=
  ⟨isFinalResponseSuccess final, some final, (intermediates command.type command.responsePrefix
    (answerLines command.smspdu lines)).reverse⟩

/-- The type switch keeps the line or passes it on. -/
theorem Channel.processLine_switch {chan : Channel} {command : Command}
    (prefixed : command.Prefixed) (type : chan.sType = command.type)
    (responsePrefix : chan.sResponsePrefix = command.responsePrefix) {response : AtResponse}
    (pending : chan.spResponse = some response) {line : CString}
    (unfinished : isFinalResponse line = false)
    (noPrompt : (chan.sSmsPdu.isSome && line == smsPrompt) = false) :
    chan.processLine line =
      some (if keeps command.type command.responsePrefix response.pIntermediates line then
        chan.addIntermediate response line else chan.handleUnsolicited line) := by
  obtain ⟨noSuccess, noError⟩ := Bool.or_eq_false_iff.mp unfinished
  simp only [processLine, pending, noSuccess, noError, noPrompt, Bool.false_eq_true, if_false,
    type, responsePrefix]
  cases shape : command.type with
  | noResult => simp [keeps, isIntermediate]
  | numeric =>
      by_cases empty : response.pIntermediates = [] <;>
        by_cases digit : startsWithDigit line <;> simp [keeps, isIntermediate, empty, digit]
  | singleline =>
      obtain ⟨start, given⟩ := Option.isSome_iff_exists.mp (prefixed (Or.inl shape))
      by_cases empty : response.pIntermediates = [] <;>
        simp [keeps, isIntermediate, given, empty, strStartsWith_eq_isPrefixOf]
  | multiline =>
      obtain ⟨start, given⟩ := Option.isSome_iff_exists.mp (prefixed (Or.inr shape))
      simp [keeps, isIntermediate, given, strStartsWith_eq_isPrefixOf]

/-- What the non-final `lines` of a command make of the channel, whether or not the
writes succeed; the command was sent on `chan`. -/
structure Collected (chan : Channel) (command : Command) (lines : List CString)
    (now : Channel) : Prop where
  readerOpen : now.sReaderClosed = false
  handler : now.sUnsolHandler = chan.sUnsolHandler
  type : now.sType = command.type
  responsePrefix : now.sResponsePrefix = command.responsePrefix
  smsPdu : now.sSmsPdu = if smsPrompt ∈ lines then none else command.smspdu
  response : now.spResponse = some ⟨false, none, (intermediates command.type
    command.responsePrefix (answerLines command.smspdu lines)).reverse⟩
  callbacks : now.callbacks = chan.callbacks ++ unsolicitedCalls chan.sUnsolHandler
    (unsolicitedLines command.type command.responsePrefix (answerLines command.smspdu lines))

namespace Collected

variable {chan now : Channel} {command : Command} {lines : List CString}

/-- The command that has just been written. -/
theorem start {written : Channel} (handler : written.sUnsolHandler = chan.sUnsolHandler)
    (callbacks : written.callbacks = chan.callbacks) (readerOpen : written.sReaderClosed = false) :
    Collected chan command [] (written.startCommand command) := by
  refine ⟨readerOpen, handler, rfl, rfl, rfl, ?_, ?_⟩
  · cases given : command.smspdu <;>
      simp [Channel.startCommand, atResponseNew, answerLines, intermediates]
  · cases given : command.smspdu <;>
      simp [Channel.startCommand, answerLines, unsolicitedLines, unsolicitedCalls, callbacks]

/-- The prompt line sets off the PDU. -/
theorem prompt (collected : Collected chan command lines now) {pdu : CString}
    (given : command.smspdu = some pdu) (first : smsPrompt ∉ lines) :
    now.processLine smsPrompt = some { (now.writeCtrlZ pdu).2 with sSmsPdu := none } ∧
      Collected chan command (lines ++ [smsPrompt])
        { (now.writeCtrlZ pdu).2 with sSmsPdu := none } := by
  have pending : now.sSmsPdu = some pdu := by rw [collected.smsPdu, if_neg first, given]
  have unfinished : isFinalResponseSuccess smsPrompt = false ∧
      isFinalResponseError smsPrompt = false := by decide
  have consumed : answerLines command.smspdu (lines ++ [smsPrompt]) =
      answerLines command.smspdu lines := by
    simp [answerLines, given, List.erase_append, first, List.erase_of_not_mem first]
  obtain ⟨script, bytes, shape⟩ := now.writeTerminated_frame pdu 26
  constructor
  · simp only [Channel.processLine, collected.response, unfinished.1, unfinished.2, pending,
      Option.getD_some]
    simp
  · rw [Channel.writeCtrlZ, shape]
    refine ⟨collected.readerOpen, collected.handler, collected.type,
      collected.responsePrefix, by simp, ?_, ?_⟩
    · rw [consumed]; exact collected.response
    · rw [consumed]; exact collected.callbacks

/-- A line that reaches the type switch. -/
theorem other (collected : Collected chan command lines now) (prefixed : command.Prefixed)
    {line : CString} (unfinished : isFinalResponse line = false)
    (noPrompt : (now.sSmsPdu.isSome && line == smsPrompt) = false) :
    ∃ next, now.processLine line = some next ∧
      Collected chan command (lines ++ [line]) next ∧ next.sFd = now.sFd ∧
      next.script = now.script ∧ next.written = now.written ∧
      pduBytes command.smspdu (lines ++ [line]) = pduBytes command.smspdu lines := by
  refine ⟨_, Channel.processLine_switch prefixed collected.type collected.responsePrefix
    collected.response unfinished noPrompt, ?_⟩
  have unanswered : smsPrompt ∈ lines ∨ command.smspdu = none ∨ line ≠ smsPrompt := by
    rw [collected.smsPdu] at noPrompt
    by_cases before : smsPrompt ∈ lines
    · exact Or.inl before
    · rw [if_neg before] at noPrompt
      cases given : command.smspdu with
      | none => exact Or.inr (Or.inl rfl)
      | some pdu => exact Or.inr (Or.inr (by simpa [given] using noPrompt))
  obtain ⟨answerSame, bytesSame, pduSame⟩ := answered_concat _ _ _ unanswered
  rw [keeps_reverse]
  by_cases kept : keeps command.type command.responsePrefix (intermediates command.type
      command.responsePrefix (answerLines command.smspdu lines)) line = true
  · rw [if_pos kept]
    refine ⟨⟨collected.readerOpen, collected.handler, collected.type,
      collected.responsePrefix, ?_, ?_, ?_⟩, rfl, rfl, rfl, bytesSame⟩
    · rw [pduSame]; exact collected.smsPdu
    · rw [answerSame, intermediates_concat, if_pos kept, List.reverse_concat]
      rfl
    · rw [answerSame, unsolicitedLines_concat, if_pos kept]
      exact collected.callbacks
  · rw [if_neg kept, Channel.handleUnsolicited_eq]
    refine ⟨⟨collected.readerOpen, collected.handler, collected.type,
      collected.responsePrefix, ?_, ?_, ?_⟩, rfl, rfl, rfl, bytesSame⟩
    · rw [pduSame]; exact collected.smsPdu
    · rw [answerSame, intermediates_concat, if_neg kept]
      exact collected.response
    · rw [answerSame, unsolicitedLines_concat, if_neg kept, unsolicitedCalls_append,
        ← List.append_assoc, ← collected.callbacks, ← collected.handler]

/-- One line in front of the final one. -/
theorem line (collected : Collected chan command lines now) (prefixed : command.Prefixed)
    {line : CString} (unfinished : isFinalResponse line = false) :
    ∃ next, now.processLine line = some next ∧ Collected chan command (lines ++ [line]) next := by
  by_cases noPrompt : (now.sSmsPdu.isSome && line == smsPrompt) = false
  · obtain ⟨next, stepped, after, -⟩ := collected.other prefixed unfinished noPrompt
    exact ⟨next, stepped, after⟩
  · obtain ⟨pending, isPrompt⟩ := (Bool.and_eq_true_iff).mp ((Bool.not_eq_false _).mp noPrompt)
    obtain rfl : line = smsPrompt := by simpa using isPrompt
    rw [collected.smsPdu] at pending
    by_cases before : smsPrompt ∈ lines
    · simp [before] at pending
    · rw [if_neg before] at pending
      obtain ⟨pdu, given⟩ := Option.isSome_iff_exists.mp pending
      exact ⟨_, collected.prompt given before⟩

/-- The final line fills in the response. -/
theorem final (collected : Collected chan command lines now) {final : CString}
    (finished : isFinalResponse final = true) :
    now.processLine final =
      some { now with spResponse := some (storedResponse command lines final) } := by
  unfold Channel.processLine storedResponse
  rw [collected.response]
  by_cases success : isFinalResponseSuccess final = true
  · simp [success, Channel.handleFinalResponse]
  · have error : isFinalResponseError final = true := by
      simpa [isFinalResponse, success] using finished
    simp [success, error, Channel.handleFinalResponse]

end Collected

/-- Where the channel stands after the non-final `lines` of a command that was
started on `chan`. -/
structure Progress (chan : Channel) (command : Command) (lines : List CString)
    (now : Channel) : Prop where
  sFd : now.sFd = chan.sFd
  readerOpen : now.sReaderClosed = false
  handler : now.sUnsolHandler = chan.sUnsolHandler
  type : now.sType = command.type
  responsePrefix : now.sResponsePrefix = command.responsePrefix
  smsPdu : now.sSmsPdu = if smsPrompt ∈ lines then none else command.smspdu
  response : now.spResponse = some ⟨false, none, (intermediates command.type
    command.responsePrefix (answerLines command.smspdu lines)).reverse⟩
  writes : NeverFails now.script
  written : now.written =
    chan.written ++ (command.command ++ [13] ++ pduBytes command.smspdu lines)
  callbacks : now.callbacks = chan.callbacks ++ unsolicitedCalls chan.sUnsolHandler
    (unsolicitedLines command.type command.responsePrefix (answerLines command.smspdu lines))

namespace Progress

variable {chan now : Channel} {command : Command} {lines : List CString}

/-- The command that has just been written. -/
theorem start (command : Command) (opened : 0 ≤ chan.sFd) (readerOpen : chan.sReaderClosed = false)
    (writes : NeverFails chan.script) :
    ∃ now, chan.writeline command.command = (0, now) ∧
      Progress chan command [] (now.startCommand command) := by
  obtain ⟨script, rest, wrote⟩ :=
    Channel.writeTerminated_of_neverFails opened readerOpen writes command.command 13
  refine ⟨_, wrote, ⟨rfl, readerOpen, rfl, rfl, rfl, rfl, ?_, rest, ?_, ?_⟩⟩
  · cases shape : command.smspdu <;>
      simp [Channel.startCommand, atResponseNew, answerLines, intermediates]
  · simp [Channel.startCommand, pduBytes]
  · cases shape : command.smspdu <;>
      simp [Channel.startCommand, answerLines, unsolicitedLines, unsolicitedCalls]

/-- The accounts that do not depend on the writes. -/
theorem collected (progress : Progress chan command lines now) :
    Collected chan command lines now :=
  ⟨progress.readerOpen, progress.handler, progress.type, progress.responsePrefix,
    progress.smsPdu, progress.response, progress.callbacks⟩

theorem of_collected (collected : Collected chan command lines now) (sFd : now.sFd = chan.sFd)
    (writes : NeverFails now.script) (written : now.written =
      chan.written ++ (command.command ++ [13] ++ pduBytes command.smspdu lines)) :
    Progress chan command lines now :=
  ⟨sFd, collected.readerOpen, collected.handler, collected.type, collected.responsePrefix,
    collected.smsPdu, collected.response, writes, written, collected.callbacks⟩

/-- The prompt line is answered by the PDU. -/
theorem prompt (progress : Progress chan command lines now) (opened : 0 ≤ chan.sFd)
    {pdu : CString} (given : command.smspdu = some pdu) (first : smsPrompt ∉ lines) :
    ∃ next, now.processLine smsPrompt = some next ∧
      Progress chan command (lines ++ [smsPrompt]) next := by
  obtain ⟨stepped, collected⟩ := progress.collected.prompt given first
  obtain ⟨script, rest, wrote⟩ := Channel.writeTerminated_of_neverFails
    (progress.sFd ▸ opened) progress.readerOpen progress.writes pdu 26
  have after : (now.writeCtrlZ pdu).2 =
      { now with script := script, written := now.written ++ (pdu ++ [26]) } :=
    congrArg Prod.snd wrote
  rw [after] at stepped collected
  refine ⟨_, stepped, of_collected collected progress.sFd rest ?_⟩
  simp [progress.written, pduBytes, first, given]

/-- A line that reaches the type switch. -/
theorem other (progress : Progress chan command lines now) (prefixed : command.Prefixed)
    {line : CString} (unfinished : isFinalResponse line = false)
    (noPrompt : (now.sSmsPdu.isSome && line == smsPrompt) = false) :
    ∃ next, now.processLine line = some next ∧
      Progress chan command (lines ++ [line]) next := by
  obtain ⟨next, stepped, collected, sFd, script, written, bytes⟩ :=
    progress.collected.other prefixed unfinished noPrompt
  refine ⟨next, stepped, of_collected collected (sFd.trans progress.sFd) ?_ ?_⟩
  · rw [script]; exact progress.writes
  · rw [written, bytes]; exact progress.written

/-- One line in front of the final one. -/
theorem line (progress : Progress chan command lines now) (opened : 0 ≤ chan.sFd)
    (prefixed : command.Prefixed) {line : CString} (unfinished : isFinalResponse line = false) :
    ∃ next, now.processLine line = some next ∧
      Progress chan command (lines ++ [line]) next := by
  by_cases noPrompt : (now.sSmsPdu.isSome && line == smsPrompt) = false
  · exact progress.other prefixed unfinished noPrompt
  · obtain ⟨pending, isPrompt⟩ := (Bool.and_eq_true_iff).mp ((Bool.not_eq_false _).mp noPrompt)
    obtain rfl : line = smsPrompt := by simpa using isPrompt
    rw [progress.smsPdu] at pending
    by_cases before : smsPrompt ∈ lines
    · simp [before] at pending
    · rw [if_neg before] at pending
      obtain ⟨pdu, given⟩ := Option.isSome_iff_exists.mp pending
      exact progress.prompt opened given before

/-- Several lines in front of the final one. -/
theorem run (progress : Progress chan command lines now) (opened : 0 ≤ chan.sFd)
    (prefixed : command.Prefixed) (more : List CString)
    (unfinished : ∀ line ∈ more, isFinalResponse line = false) :
    ∃ next, more.foldlM Channel.processLine now = some next ∧
      Progress chan command (lines ++ more) next := by
  induction more generalizing now lines with
  | nil => exact ⟨now, rfl, by simpa using progress⟩
  | cons line more inductionHypothesis =>
      obtain ⟨next, stepped, progressed⟩ :=
        progress.line opened prefixed (unfinished line (by simp))
      obtain ⟨last, ran, finished⟩ := inductionHypothesis progressed
        fun other member => unfinished other (List.mem_cons_of_mem _ member)
      refine ⟨last, ?_, by simpa using finished⟩
      simp only [List.foldlM_cons, stepped]
      exact ran

/-- The final line fills in the response. -/
theorem final (progress : Progress chan command lines now) {final : CString}
    (finished : isFinalResponse final = true) :
    now.processLine final =
      some { now with spResponse := some (storedResponse command lines final) } :=
  progress.collected.final finished

end Progress

/-! ### The waits -/

theorem reverseIntermediates_eq (lines kept : List CString) :
    reverseIntermediates lines kept = lines.reverse ++ kept := by
  induction lines generalizing kept with
  | nil => rfl
  | cons line lines inductionHypothesis =>
      rw [reverseIntermediates, inductionHypothesis]
      simp

theorem handleEvents_lines (chan : Channel) (lines : List CString) :
    (lines.map ReaderEvent.line).foldlM Channel.handleEvent chan =
      lines.foldlM Channel.processLine chan := by
  rw [List.foldlM_map]
  rfl

theorem Channel.waitForFinalResponse_done {timeoutMsec : Int} {wantsResponse : Bool}
    {chan : Channel} {response : AtResponse} {waits : List Wait} {final : CString}
    (pending : chan.spResponse = some response) (stored : response.finalResponse = some final) :
    chan.waitForFinalResponse timeoutMsec wantsResponse waits =
      chan.finishCommand response wantsResponse := by
  unfold waitForFinalResponse
  rw [pending]
  simp [stored]

/-- The waits only cut the lines into pieces; the one that brings the final line is
the last that the command makes. -/
theorem waitForFinalResponse_lines {chan now : Channel} {command : Command}
    {seen todo : List CString} {final : CString} (waits : List Wait)
    (progress : Progress chan command seen now) (opened : 0 ≤ chan.sFd)
    (prefixed : command.Prefixed) (inTime : ∀ wait ∈ waits, wait.timedOut = false)
    (processed : waits.flatMap Wait.events = (todo ++ [final]).map .line)
    (unfinished : ∀ line ∈ todo, isFinalResponse line = false)
    (finished : isFinalResponse final = true) :
    ∃ last, Progress chan command (seen ++ todo) last ∧
      Channel.waitForFinalResponse command.timeoutMsec command.wantsResponse now waits =
        let response := storedResponse command (seen ++ todo) final
        { last with spResponse := some response }.finishCommand response
          command.wantsResponse := by
  induction waits generalizing now seen todo with
  | nil => simp at processed
  | cons wait waits inductionHypothesis =>
      rw [List.flatMap_cons] at processed
      obtain ⟨first, rest, split, firstEvents, restEvents⟩ :=
        List.map_eq_append_iff.mp processed.symm
      have quiet : (decide (command.timeoutMsec ≠ 0) && wait.timedOut) = false := by
        simp [inTime wait (by simp)]
      have waiting : ∀ next, first.foldlM Channel.processLine now = some next →
          Channel.waitForFinalResponse command.timeoutMsec command.wantsResponse now
            (wait :: waits) = Channel.waitForFinalResponse command.timeoutMsec
              command.wantsResponse next waits := by
        intro next ran
        rw [Channel.waitForFinalResponse, progress.response, ← firstEvents, handleEvents_lines, ran]
        simp only [Option.isNone_none, progress.readerOpen, Bool.not_false, Bool.and_self,
          if_true, quiet, Bool.false_eq_true, if_false]
      rcases List.eq_nil_or_concat rest with rfl | ⟨before, last, rfl⟩
      · -- this wait brings the final line
        obtain rfl : first = todo ++ [final] := by simpa using split.symm
        obtain ⟨last, ran, progressed⟩ := progress.run opened prefixed todo unfinished
        refine ⟨last, progressed, ?_⟩
        rw [waiting { last with spResponse := some (storedResponse command (seen ++ todo) final) }]
        · exact Channel.waitForFinalResponse_done rfl rfl
        · rw [List.foldlM_append, ran]
          simp only [Option.bind_eq_bind, Option.bind_some, List.foldlM_cons, List.foldlM_nil,
            progressed.final finished]
          rfl
      · rw [List.concat_eq_append, ← List.append_assoc] at split
        obtain ⟨rfl, lastEq⟩ := List.append_inj' split rfl
        obtain rfl : final = last := by simpa using lastEq
        obtain ⟨next, ran, progressed⟩ := progress.run opened prefixed first
          fun line member => unfinished line (List.mem_append_left _ member)
        rw [waiting next ran]
        have remaining : waits.flatMap Wait.events = (before ++ [final]).map .line := by
          simpa using restEvents.symm
        obtain ⟨last, finishedProgress, result⟩ := inductionHypothesis progressed
          (fun other member => inTime other (List.mem_cons_of_mem _ member)) remaining
          fun line member => unfinished line (List.mem_append_right _ member)
        rw [List.append_assoc] at finishedProgress result
        exact ⟨last, finishedProgress, result⟩

/-- **What a command returns.** For any lines in front of the first final one,
whatever the waits and the sizes of the writes, the response holds the final
line, its success and the intermediate responses of the type in arrival order;
the PDU is written at the first prompt and nowhere else; and all other lines go
to the unsolicited handler. -/
theorem atSendCommandFull_result (chan : Channel) (command : Command) (waits : List Wait)
    (lines : List CString) (final : CString) (idle : chan.spResponse = none)
    (opened : 0 ≤ chan.sFd) (readerOpen : chan.sReaderClosed = false)
    (writes : NeverFails chan.script) (prefixed : command.Prefixed)
    (inTime : ∀ wait ∈ waits, wait.timedOut = false)
    (processed : waits.flatMap Wait.events = (lines ++ [final]).map .line)
    (unfinished : ∀ line ∈ lines, isFinalResponse line = false)
    (finished : isFinalResponse final = true) :
    ∃ (success : Bool) (written after : Channel),
      (success = true ↔ ∃ start ∈ sFinalResponsesSuccess, start <+: final) ∧
      chan.atSendCommandFull false command waits = .returned 0
        (if command.wantsResponse then some ⟨success, some final,
          intermediates command.type command.responsePrefix
            (answerLines command.smspdu lines)⟩ else none) after ∧
      after.written = chan.written ++
        (command.command ++ [13] ++ pduBytes command.smspdu lines) ∧
      after.callbacks = chan.callbacks ++ unsolicitedCalls chan.sUnsolHandler
        (unsolicitedLines command.type command.responsePrefix
          (answerLines command.smspdu lines)) ∧
      -- the PDU goes out while the first prompt is processed
      chan.writeline command.command = (0, written) ∧
      ∀ seen, seen <+: lines → ∃ now,
        seen.foldlM Channel.processLine (written.startCommand command) = some now ∧
          now.written = chan.written ++
            (command.command ++ [13] ++ pduBytes command.smspdu seen) := by
  obtain ⟨written, wrote, started⟩ := Progress.start command opened readerOpen writes
  obtain ⟨last, progress, result⟩ :=
    waitForFinalResponse_lines waits started opened prefixed inTime processed unfinished finished
  rw [List.nil_append] at progress result
  refine ⟨isFinalResponseSuccess final, written, last.clearPendingCommand,
    isFinalResponseSuccess_iff final, ?_, progress.written, progress.callbacks, wrote, ?_⟩
  · unfold Channel.atSendCommandFull Channel.atSendCommandFullNolock
    simp only [Bool.false_eq_true, if_false, idle, Option.isSome_none, wrote, Int.lt_irrefl,
      result, Channel.finishCommand, progress.readerOpen, storedResponse,
      reverseIntermediates_eq, List.reverse_reverse, List.append_nil]
    simp [atErrorTimeout, Channel.clearPendingCommand, progress.readerOpen]
  · intro seen front
    obtain ⟨now, ran, seenProgress⟩ := started.run opened prefixed seen
      fun line member => unfinished line (front.mem member)
    exact ⟨now, ran, by simpa using seenProgress.written⟩

/-- An open channel whose writes are short and interrupted. -/
def sampleChannel : Channel :=
  { Channel.initial with
    sFd := 3
    sUnsolHandler := true
    script := [.wrote 2, .interrupted, .wrote 0, .wrote 100, .wrote 0] }

def sampleCommand : Command :=
  ⟨ascii "AT+CMGS=2", .singleline, some (ascii "+CMGS:"), some (ascii "0001"), 0, true⟩

/-- The waits of the command, woken once in vain. -/
def sampleWaits : List Wait :=
  [⟨[.line (ascii "RING"), .line (ascii "> ")], false⟩, ⟨[], false⟩,
    ⟨[.line (ascii "+CMGS: 5"), .line (ascii "+CMGS: 6"), .line (ascii "OK")], false⟩]

theorem atSendCommandFull_sample :
    ∃ (success : Bool) (written after : Channel),
      (success = true ↔ ∃ start ∈ sFinalResponsesSuccess, start <+: ascii "OK") ∧
      sampleChannel.atSendCommandFull false sampleCommand sampleWaits = .returned 0
        (some ⟨success, some (ascii "OK"), [ascii "+CMGS: 5"]⟩) after ∧
      after.written = ascii "AT+CMGS=2" ++ [13] ++ (ascii "0001" ++ [26]) ∧
      after.callbacks = [.unsolicited (ascii "RING") none, .unsolicited (ascii "+CMGS: 6") none] ∧
      sampleChannel.writeline (ascii "AT+CMGS=2") = (0, written) ∧
      ∀ seen, seen <+: [ascii "RING", ascii "> ", ascii "+CMGS: 5", ascii "+CMGS: 6"] → ∃ now,
        seen.foldlM Channel.processLine (written.startCommand sampleCommand) = some now ∧
          now.written = ascii "AT+CMGS=2" ++ [13] ++ pduBytes (some (ascii "0001")) seen :=
  atSendCommandFull_result sampleChannel sampleCommand sampleWaits
    [ascii "RING", ascii "> ", ascii "+CMGS: 5", ascii "+CMGS: 6"] (ascii "OK") rfl (by decide)
    rfl (by decide) (fun _ => rfl) (by decide) (by decide) (by decide) (by decide)

end RildHisi.AtChannel
