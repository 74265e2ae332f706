import RildHisi.AtChannel.Interleaving

/-!
Owns the start of the channel: `at_handshake` with its retries and its drain
pause, a modem that answers every command line with one final line, and the
commands behind the handshake.

The mutex is held through the pause, so nothing is drained in it. Commands and
answers stay paired in the runs that drain the left-over lines before the next
command (`paired_of_run`).
-/

namespace RildHisi.AtChannel

open RildHisi.Library

def handshakeRetryCount : Nat := 8
def handshakeTimeoutMsec : Int := 250

/-- `at_send_command_full_nolock ("ATE0Q0V1", NO_RESULT, NULL, NULL, .., NULL)`. -/
def handshakeCommand : Command :=
  ⟨ascii "ATE0Q0V1", .noResult, none, none, handshakeTimeoutMsec, false⟩

/-- Where the command thread stands. -/
inductive HandshakePhase
  /-- `at_handshake` has not been called. -/
  | idle
  /-- In the wait of an attempt, with this many retries left. -/
  | attempting (retries : Nat)
  /-- In `sleepMsec`, with `s_commandmutex` held. -/
  | pausing
  /-- Between two commands. -/
  | ready
  /-- In the wait of a command, the one with this number for the modem. -/
  | commanding (number : Nat) (command : Command)
  /-- `at_handshake` has returned an error. -/
  | failed
  /-- A thread has read through a NULL pointer. -/
  | crashed

/-- What a command behind the handshake came to: its number, the final line its thread
found behind the wait, and the response it returned. -/
structure ReturnedCall where
  number : Nat
  final : Option CString
  response : Option AtResponse

/-- The channel, the command thread and the modem. `received` counts the command lines
the modem got, `sent` are its final lines, the n-th for the n-th of them, and
`inFlight` the lines the reader has not processed. -/
structure Exchange where
  channel : Channel
  phase : HandshakePhase
  received : Nat
  sent : List CString
  inFlight : List CString
  /-- The number of command lines of a handshake that has succeeded. -/
  attempts : Option Nat
  returned : List ReturnedCall

/-- Nothing has been sent over the channel. -/
def Exchange.start (channel : Channel) : Exchange := ⟨channel, .idle, 0, [], [], none, []⟩

inductive ExchangeEvent
  /-- The call of `at_handshake`. -/
  | handshake
  /-- The command thread's wait ends. -/
  | wake (timedOut : Bool)
  | pauseEnds
  /-- A call of one of the `at_send_command` functions. -/
  | send (command : Command)
  /-- The modem sends a line that is not final. -/
  | modemLine (text : CString)
  /-- The modem answers the next command line. -/
  | modemAnswer (text : CString)
  /-- The reader processes the next line. -/
  | line

namespace Exchange

/-- The loop of `at_handshake` from an attempt on. An attempt that cannot be written
fails at once. -/
def attempt (s : Exchange) : Nat → Channel → Exchange
  | 0, channel => { s with channel := channel, phase := .failed }
  | retries + 1, channel =>
      match channel.atSendCommandFullNolock handshakeCommand [] with
      | .waiting channel =>
          { s with channel := channel, phase := .attempting retries, received := s.received + 1 }
      | .returned _ _ channel => s.attempt retries channel
      | .crashed => { s with phase := .crashed }

/-- Behind the wait of an attempt. -/
def wakeAttempt (s : Exchange) (retries : Nat) (timedOut : Bool) : Exchange :=
  match s.channel.wakeUpNolock handshakeCommand timedOut with
  | .waiting channel => { s with channel := channel }
  | .returned err _ channel =>
      if err = 0 then
        { s with channel := channel, phase := .pausing, attempts := some s.received }
      else s.attempt retries channel
  | .crashed => { s with phase := .crashed }

/-- Behind the wait of a command. -/
def wakeCommand (s : Exchange) (number : Nat) (command : Command) (timedOut : Bool) : Exchange :=
  match s.channel.wakeUp command timedOut with
  | .waiting channel => { s with channel := channel }
  | .returned _ response channel =>
      { s with
        channel := channel
        phase := .ready
        returned := s.returned ++
          [⟨number, s.channel.spResponse.bind AtResponse.finalResponse, response⟩] }
  | .crashed => { s with phase := .crashed }

/-- A command: its call returns at once if it cannot be written. -/
def sendCommand (s : Exchange) (command : Command) : Exchange :=
  match s.channel.atSendCommandFull false command [] with
  | .waiting channel =>
      { s with
        channel := channel
        phase := .commanding s.received command
        received := s.received + 1 }
  | .returned _ _ channel => { s with channel := channel }
  | .crashed => { s with phase := .crashed }

/-- The mutex is free for the reader. -/
def free (s : Exchange) : Bool :=
  match s.phase with
  | .pausing | .crashed => false
  | _ => true

/-- One step. The modem answers in order, and it has answered all attempts when the
pause ends; the commands have no time-out and give the prefix their type reads, as all
`at_send_command` functions do. -/
def step (s : Exchange) : ExchangeEvent → Option Exchange
  | .handshake =>
      match s.phase with
      | .idle => some (s.attempt handshakeRetryCount s.channel)
      | _ => none
  | .wake timedOut =>
      match s.phase with
      | .attempting retries => some (s.wakeAttempt retries timedOut)
      | .commanding number command => some (s.wakeCommand number command timedOut)
      | _ => none
  | .pauseEnds =>
      match s.phase with
      | .pausing => if s.sent.length = s.received then some { s with phase := .ready } else none
      | _ => none
  | .send command =>
      match s.phase with
      | .ready =>
          if command.timeoutMsec = 0 ∧ command.Prefixed then some (s.sendCommand command) else none
      | _ => none
  | .modemLine text =>
      if isFinalResponse text then none else some { s with inFlight := s.inFlight ++ [text] }
  | .modemAnswer text =>
      if isFinalResponse text ∧ s.sent.length < s.received then
        some { s with sent := s.sent ++ [text], inFlight := s.inFlight ++ [text] }
      else none
  | .line =>
      if s.free then
        match s.inFlight with
        | [] => none
        | text :: inFlight =>
            match s.channel.processLine text with
            | some channel => some { s with channel := channel, inFlight := inFlight }
            | none => some { s with inFlight := inFlight, phase := .crashed }
      else none

end Exchange

/-! ### Commands and answers -/

/-- The final line a call of the unsolicited handler is given. -/
def Callback.finalLine : Callback → Option CString
  | .unsolicited text _ => if isFinalResponse text then some text else none
  | _ => none

namespace Exchange

/-- The final lines the unsolicited handler got. -/
def delivered (s : Exchange) : List CString := s.channel.callbacks.filterMap Callback.finalLine

/-- The final lines the reader has processed. -/
def processed (s : Exchange) : List CString :=
  s.sent.take (s.sent.length - s.inFlight.countP isFinalResponse)

/-- The final line the pending command has. -/
def stored (s : Exchange) : Option CString := s.channel.spResponse.bind AtResponse.finalResponse

/-- The handshake takes one final line, its left-over ones go to the unsolicited handler
as they are processed, and every call behind it returns the line the modem sent for its
command. -/
structure Paired (s : Exchange) : Prop where
  leftovers : ∀ attempts, s.attempts = some attempts →
    s.delivered = (s.processed.take attempts).drop 1
  answers : ∀ call ∈ s.returned, ∃ final, s.sent[call.number]? = some final ∧
    call.final = some final ∧
    ∀ response, call.response = some response → response.finalResponse = some final

/-- A handshake attempt waits, and its final line is there. -/
def answered (s : Exchange) : Bool :=
  match s.phase with
  | .attempting _ => s.stored.isSome
  | _ => false

/-- The left-over lines are drained in time: no final line is processed, and no wait
times out, while an attempt has its final line; and when a command is sent, no final
line is left in front of the reader. -/
def Drained (s : Exchange) : ExchangeEvent → Prop
  | .line => s.answered = true → s.inFlight.head?.any isFinalResponse = false
  | .wake timedOut => s.answered = true → timedOut = false
  | .send _ => s.inFlight.any isFinalResponse = false
  | _ => True

instance (s : Exchange) (event : ExchangeEvent) : Decidable (s.Drained event) :=
  match event with
  | .line | .wake _ => inferInstanceAs (Decidable (_ → _))
  | .send _ => inferInstanceAs (Decidable (_ = _))
  | .handshake | .pauseEnds | .modemLine _ | .modemAnswer _ => inferInstanceAs (Decidable True)

/-- A command waits, with the final lines in front of its own processed, and its own if
it is stored. -/
structure Awaits (channel : Channel) (command : Command) (front processed : List CString) :
    Prop where
  pending : ∃ response, channel.spResponse = some response ∧
    processed = front ++ response.finalResponse.toList
  type : channel.sType = command.type
  responsePrefix : channel.sResponsePrefix = command.responsePrefix
  readerOpen : channel.sReaderClosed = false
  prefixed : command.Prefixed

/-- What holds where the command thread stands, with these final lines processed. -/
def Standing (s : Exchange) (processed : List CString) : Prop :=
  match s.phase with
  | .idle => s.channel.spResponse = none ∧ s.received = 0 ∧ s.attempts = none ∧ s.delivered = []
  | .attempting _ => s.attempts = none ∧ s.delivered = [] ∧
      Awaits s.channel handshakeCommand [] processed
  | .pausing => s.channel.spResponse = none ∧ s.attempts = some s.received ∧ s.delivered = [] ∧
      processed.length = 1
  | .ready => s.channel.spResponse = none ∧ s.sent.length = s.received ∧ processed ≠ [] ∧
      ∃ attempts, s.attempts = some attempts ∧ attempts ≤ s.received ∧
        s.delivered = (processed.take attempts).drop 1 ∧
        (attempts < s.received → processed = s.sent)
  | .commanding number command => s.received = number + 1 ∧ number ≤ s.sent.length ∧ 0 < number ∧
      command.timeoutMsec = 0 ∧ Awaits s.channel command (s.sent.take number) processed ∧
      ∃ attempts, s.attempts = some attempts ∧ attempts ≤ number ∧
        s.delivered = (s.sent.take attempts).drop 1
  | .failed => s.channel.spResponse = none ∧ s.attempts = none
  | .crashed => False

/-- What holds between steps, with these final lines processed. -/
structure Sound (s : Exchange) (processed : List CString) : Prop where
  split : s.sent = processed ++ s.inFlight.filter isFinalResponse
  handler : s.channel.sUnsolHandler = true
  bounded : s.sent.length ≤ s.received
  answers : ∀ call ∈ s.returned, ∃ final, processed[call.number]? = some final ∧
    call.final = some final ∧
    ∀ response, call.response = some response → response.finalResponse = some final
  standing : s.Standing processed

end Exchange

/-! ### Lines -/

/-- A line that no command waits for. -/
theorem Channel.processLine_idle {chan : Channel} (idle : chan.spResponse = none)
    (handler : chan.sUnsolHandler = true) (line : CString) :
    chan.processLine line =
      some { chan with callbacks := chan.callbacks ++ [.unsolicited line none] } := by
  unfold processLine handleUnsolicited callUnsolHandler
  rw [idle]
  simp [handler]

/-- A line that is not final leaves the command waiting. -/
theorem Exchange.Awaits.line {channel : Channel} {command : Command}
    {front processed : List CString} (awaits : Awaits channel command front processed)
    {line : CString} (unfinished : isFinalResponse line = false) :
    ∃ next, channel.processLine line = some next ∧ Awaits next command front processed ∧
      next.sUnsolHandler = channel.sUnsolHandler ∧
      next.callbacks.filterMap Callback.finalLine =
        channel.callbacks.filterMap Callback.finalLine := by
  obtain ⟨response, pending, split⟩ := awaits.pending
  by_cases noPrompt : (channel.sSmsPdu.isSome && line == smsPrompt) = false
  · refine ⟨_, Channel.processLine_switch awaits.prefixed awaits.type awaits.responsePrefix
      pending unfinished noPrompt, ?_⟩
    by_cases kept : keeps command.type command.responsePrefix response.pIntermediates line = true
    · rw [if_pos kept]
      exact ⟨⟨⟨_, rfl, split⟩, awaits.type, awaits.responsePrefix, awaits.readerOpen,
        awaits.prefixed⟩, rfl, rfl⟩
    · rw [if_neg kept, Channel.handleUnsolicited_eq]
      refine ⟨⟨⟨response, pending, split⟩, awaits.type, awaits.responsePrefix, awaits.readerOpen,
        awaits.prefixed⟩, rfl, ?_⟩
      cases given : channel.sUnsolHandler <;>
        simp [unsolicitedCalls, Callback.finalLine, unfinished]
  · obtain ⟨noSuccess, noError⟩ := Bool.or_eq_false_iff.mp unfinished
    obtain ⟨script, written, shape⟩ := channel.writeTerminated_frame (channel.sSmsPdu.getD []) 26
    refine ⟨{ channel with script := script, written := written, sSmsPdu := none }, ?_,
      ⟨⟨response, pending, split⟩, awaits.type, awaits.responsePrefix, awaits.readerOpen,
        awaits.prefixed⟩, rfl, rfl⟩
    unfold Channel.processLine Channel.writeCtrlZ
    rw [pending, shape]
    simp [noSuccess, noError, (Bool.not_eq_false _).mp noPrompt, pending]

/-- A final line is stored. -/
theorem Exchange.Awaits.final {channel : Channel} {command : Command} {front : List CString}
    (awaits : Awaits channel command front front) {line : CString}
    (finished : isFinalResponse line = true) :
    ∃ next, channel.processLine line = some next ∧ Awaits next command front (front ++ [line]) ∧
      next.sUnsolHandler = channel.sUnsolHandler ∧ next.callbacks = channel.callbacks := by
  obtain ⟨response, pending, split⟩ := awaits.pending
  unfold Channel.processLine
  rw [pending]
  by_cases success : isFinalResponseSuccess line = true
  · refine ⟨_, if_pos success, ⟨⟨_, rfl, rfl⟩, awaits.type, awaits.responsePrefix,
      awaits.readerOpen, awaits.prefixed⟩, rfl, rfl⟩
  · have error : isFinalResponseError line = true := by
      simpa [isFinalResponse, success] using finished
    refine ⟨_, (if_neg success).trans (if_pos error), ⟨⟨_, rfl, rfl⟩, awaits.type,
      awaits.responsePrefix, awaits.readerOpen, awaits.prefixed⟩, rfl, rfl⟩

/-! ### Steps -/

namespace Exchange

variable {s s' : Exchange} {processed : List CString}

/-- The attempts from one on, with no final line processed so far. -/
theorem Sound.attempt (sound : s.Sound []) (attempts : s.attempts = none)
    (retries : Nat) {channel : Channel} (idle : channel.spResponse = none)
    (handler : channel.sUnsolHandler = true)
    (quiet : channel.callbacks.filterMap Callback.finalLine = []) :
    (s.attempt retries channel).Sound [] := by
  induction retries generalizing channel with
  | zero => exact ⟨sound.split, handler, sound.bounded, sound.answers, idle, attempts⟩
  | succ retries inductionHypothesis =>
      unfold Exchange.attempt
      rcases channel.atSendCommandFullNolock_idle idle handshakeCommand with
        ⟨err, script, written, -, -, result⟩ | ⟨script, written, readerOpen, result⟩
      · rw [result]
        exact inductionHypothesis rfl handler quiet
      · rw [result]
        have prefixed : handshakeCommand.Prefixed := by decide
        have bounded : s.sent.length ≤ s.received + 1 := Nat.le_succ_of_le sound.bounded
        exact ⟨sound.split, handler, bounded, sound.answers, attempts, quiet,
          ⟨atResponseNew, rfl, rfl⟩, rfl, rfl, readerOpen, prefixed⟩

/-- A wait behind which the command has its final line. -/
theorem Awaits.waitForFinalResponse {channel : Channel} {command : Command}
    {front processed : List CString} (awaits : Awaits channel command front processed)
    (timeoutMsec : Int) (wantsResponse : Bool) :
    (processed = front ∧
      channel.waitForFinalResponse timeoutMsec wantsResponse [] = .waiting channel) ∨
    ∃ final response, processed = front ++ [final] ∧
      (channel.spResponse.bind AtResponse.finalResponse) = some final ∧
      (∀ out, response = some out → out.finalResponse = some final) ∧
      channel.waitForFinalResponse timeoutMsec wantsResponse [] =
        .returned 0 response channel.clearPendingCommand := by
  obtain ⟨response, pending, split⟩ := awaits.pending
  unfold Channel.waitForFinalResponse
  cases stored : response.finalResponse with
  | none =>
      refine Or.inl ⟨by simpa [stored] using split, ?_⟩
      rw [pending]
      simp [stored, awaits.readerOpen]
  | some final =>
      let out := { response with
        pIntermediates := reverseIntermediates response.pIntermediates [] }
      refine Or.inr ⟨final, if wantsResponse then some out else none,
        by simpa [stored] using split, by simp [pending, stored], ?_, ?_⟩
      · intro given shape
        cases wantsResponse with
        | true =>
            obtain rfl := Option.some.inj shape
            exact stored
        | false => cases shape
      · rw [pending]
        simp only [stored, Option.isNone_some, Bool.false_and, Bool.false_eq_true, if_false,
          Channel.finishCommand, awaits.readerOpen, out]

/-- The end of the wait of an attempt. -/
theorem Sound.wakeAttempt (sound : s.Sound processed) {retries : Nat}
    (phase : s.phase = .attempting retries) {timedOut : Bool}
    (drained : timedOut = true → s.stored = none) :
    ∃ processed, (s.wakeAttempt retries timedOut).Sound processed := by
  have standing := sound.standing
  unfold Standing at standing
  rw [phase] at standing
  obtain ⟨attempts, quiet, awaits⟩ := standing
  unfold Exchange.wakeAttempt Channel.wakeUpNolock
  cases timedOut with
  | true =>
      -- the attempt fails, and nothing has been processed for it
      obtain ⟨response, pending, split⟩ := awaits.pending
      have none' : response.finalResponse = none := by
        simpa [stored, pending] using drained rfl
      obtain rfl : processed = [] := by simpa [none'] using split
      exact ⟨[], sound.attempt attempts retries rfl sound.handler quiet⟩
  | false =>
      rcases awaits.waitForFinalResponse handshakeCommand.timeoutMsec
          handshakeCommand.wantsResponse with
        ⟨-, waits⟩ | ⟨final, response, rfl, -, -, returned⟩
      · refine ⟨processed, ?_⟩
        simp only [Bool.and_false, Bool.false_eq_true, if_false, waits]
        exact sound
      · refine ⟨[] ++ [final], ?_⟩
        simp only [Bool.and_false, Bool.false_eq_true, if_false, returned, if_true]
        exact ⟨sound.split, sound.handler, sound.bounded, sound.answers, rfl, rfl, quiet, rfl⟩

/-- The end of the wait of a command. -/
theorem Sound.wakeCommand (sound : s.Sound processed) {number : Nat} {command : Command}
    (phase : s.phase = .commanding number command) (timedOut : Bool) :
    (s.wakeCommand number command timedOut).Sound processed := by
  have standing := sound.standing
  unfold Standing at standing
  rw [phase] at standing
  obtain ⟨received, reached, positive, endless, awaits, attempts, recorded, behind, delivered⟩ :=
    standing
  have noTimeout : (decide (command.timeoutMsec ≠ 0) && timedOut) = false := by simp [endless]
  unfold Exchange.wakeCommand
  rw [Channel.wakeUp_eq, noTimeout]
  simp only [Bool.false_eq_true, if_false]
  rcases awaits.waitForFinalResponse command.timeoutMsec command.wantsResponse with
    ⟨-, waits⟩ | ⟨final, response, split, found, own, returned⟩
  · rw [waits]
    exact sound
  · rw [returned]
    have counted : (s.sent.take number).length = number := by simp [reached]
    -- the final line of this command is the last the modem has sent
    have all : processed = s.sent ∧ s.sent.length = s.received := by
      have lengths := congrArg List.length sound.split
      have bounded := sound.bounded
      have front : processed.length = number + 1 := by rw [split]; simp [counted]
      rw [List.length_append] at lengths
      have rest : s.inFlight.filter isFinalResponse = [] := by
        rw [List.eq_nil_iff_length_eq_zero]
        omega
      have same := sound.split
      rw [rest, List.append_nil] at same
      exact ⟨same.symm, by omega⟩
    refine ⟨sound.split, sound.handler, sound.bounded, ?_, rfl, all.2, ?_, attempts, recorded, ?_,
      ?_, fun _ => all.1⟩
    · intro call member
      rcases List.mem_append.mp member with earlier | last
      · exact sound.answers call earlier
      · obtain rfl := List.mem_singleton.mp last
        refine ⟨final, ?_, found, own⟩
        rw [split, List.getElem?_append_right (by rw [counted])]
        simp [counted]
    · rw [split]; simp
    · change attempts ≤ s.received
      omega
    · rw [all.1]
      exact delivered

/-- A command is sent when no final line is left in front of the reader. -/
theorem Sound.sendCommand (sound : s.Sound processed) (phase : s.phase = .ready)
    {command : Command} (endless : command.timeoutMsec = 0) (prefixed : command.Prefixed)
    (drained : s.inFlight.any isFinalResponse = false) :
    (s.sendCommand command).Sound processed := by
  have standing := sound.standing
  unfold Standing at standing
  rw [phase] at standing
  obtain ⟨idle, level, some', attempts, recorded, behind, delivered, all⟩ := standing
  have same : processed = s.sent := by
    have rest : s.inFlight.filter isFinalResponse = [] := by
      simpa [List.filter_eq_nil_iff] using drained
    have split := sound.split
    rw [rest, List.append_nil] at split
    exact split.symm
  unfold Exchange.sendCommand
  rw [Channel.atSendCommandFull_idle idle]
  rcases s.channel.atSendCommandFullNolock_idle idle command with
    ⟨err, script, written, -, -, result⟩ | ⟨script, written, readerOpen, result⟩
  · rw [result]
    refine ⟨sound.split, sound.handler, sound.bounded, sound.answers, ?_⟩
    unfold Standing
    rw [phase]
    exact ⟨rfl, level, some', attempts, recorded, behind, delivered, all⟩
  · rw [result]
    have positive : 0 < s.received := by
      rw [← level, ← same]
      exact List.length_pos_iff.mpr some'
    have front : s.sent.take s.received = processed := by rw [same, ← level, List.take_length]
    refine ⟨sound.split, sound.handler, Nat.le_succ_of_le sound.bounded, sound.answers, rfl,
      level.ge, positive, endless, ⟨⟨atResponseNew, rfl, ?_⟩, rfl, rfl, readerOpen, prefixed⟩,
      attempts, recorded, behind, ?_⟩
    · change processed = s.sent.take s.received ++ []
      rw [front, List.append_nil]
    · rw [← same]
      exact delivered

/-- A final line in front of the reader has not been processed, and is the next one. -/
theorem Sound.next (sound : s.Sound processed) {text : CString} {inFlight : List CString}
    (first : s.inFlight = text :: inFlight) (finished : isFinalResponse text = true) :
    s.sent = processed ++ [text] ++ inFlight.filter isFinalResponse ∧
      processed.length < s.sent.length := by
  have split := sound.split
  rw [first, List.filter_cons_of_pos finished] at split
  refine ⟨by simpa using split, ?_⟩
  rw [split, List.length_append, List.length_cons]
  omega

theorem step_line (stepped : s.step .line = some s') :
    s.free = true ∧ ∃ text inFlight, s.inFlight = text :: inFlight ∧
      ∀ channel, s.channel.processLine text = some channel →
        s' = { s with channel := channel, inFlight := inFlight } := by
  by_cases free : s.free = true
  · simp only [step, free, if_true] at stepped
    cases flight : s.inFlight with
    | nil => simp [flight] at stepped
    | cons text inFlight =>
        refine ⟨free, text, inFlight, rfl, fun channel processed => ?_⟩
        simpa [flight, processed] using stepped.symm
  · simp [step, free] at stepped

/-- The answers of a state that has processed more. -/
theorem Sound.answers_append (sound : s.Sound processed) (more : List CString) :
    ∀ call ∈ s.returned, ∃ final, (processed ++ more)[call.number]? = some final ∧
      call.final = some final ∧
      ∀ response, call.response = some response → response.finalResponse = some final := by
  intro call member
  obtain ⟨final, found, rest⟩ := sound.answers call member
  have inside : call.number < processed.length := (List.getElem?_eq_some_iff.mp found).1
  exact ⟨final, (List.getElem?_append_left inside).trans found, rest⟩

/-- A line that no command waits for goes to the handler. -/
theorem Sound.idleLine (sound : s.Sound processed) (idle : s.channel.spResponse = none)
    {text : CString} {inFlight : List CString} (first : s.inFlight = text :: inFlight)
    (standing : ∀ channel more, channel.spResponse = none →
      channel.callbacks.filterMap Callback.finalLine = s.delivered ++ more →
      (more = [] ∨ more = [text] ∧ processed.length < s.sent.length) →
      Standing { s with channel := channel, inFlight := inFlight } (processed ++ more)) :
    ∃ channel processed, s.channel.processLine text = some channel ∧
      Sound { s with channel := channel, inFlight := inFlight } processed := by
  have line := Channel.processLine_idle idle sound.handler text
  by_cases finished : isFinalResponse text = true
  · obtain ⟨split, shorter⟩ := sound.next first finished
    refine ⟨_, processed ++ [text], line, split, sound.handler, sound.bounded,
      sound.answers_append [text], standing _ [text] idle ?_ (Or.inr ⟨rfl, shorter⟩)⟩
    simp [delivered, Callback.finalLine, finished]
  · have split := sound.split
    rw [first, List.filter_cons_of_neg finished] at split
    refine ⟨_, processed ++ [], line, by simpa using split, sound.handler, sound.bounded,
      sound.answers_append [], standing _ [] idle ?_ (Or.inl rfl)⟩
    simp [delivered, Callback.finalLine, finished]

/-- A line while a command waits: a final one is its own. -/
theorem Sound.commandLine (sound : s.Sound processed) {command : Command} {front : List CString}
    (awaits : Awaits s.channel command front processed) {text : CString}
    {inFlight : List CString} (first : s.inFlight = text :: inFlight)
    (own : isFinalResponse text = true → processed = front)
    (standing : ∀ channel processed, Awaits channel command front processed →
      channel.callbacks.filterMap Callback.finalLine = s.delivered →
      Standing { s with channel := channel, inFlight := inFlight } processed) :
    ∃ channel processed, s.channel.processLine text = some channel ∧
      Sound { s with channel := channel, inFlight := inFlight } processed := by
  by_cases finished : isFinalResponse text = true
  · obtain rfl := own finished
    obtain ⟨next, line, waits, handler, callbacks⟩ := awaits.final finished
    obtain ⟨split, -⟩ := sound.next first finished
    exact ⟨next, processed ++ [text], line, split, handler.trans sound.handler, sound.bounded,
      sound.answers_append [text], standing next _ waits (by rw [callbacks]; rfl)⟩
  · obtain ⟨next, line, waits, handler, callbacks⟩ := awaits.line (by simpa using finished)
    have split := sound.split
    rw [first, List.filter_cons_of_neg finished] at split
    exact ⟨next, processed, line, split, handler.trans sound.handler, sound.bounded,
      sound.answers, standing next _ waits callbacks⟩

/-- A line, wherever the command thread stands. -/
theorem Sound.line (sound : s.Sound processed) (drained : s.Drained .line)
    (stepped : s.step .line = some s') : ∃ processed, s'.Sound processed := by
  obtain ⟨free, text, inFlight, first, next⟩ := step_line stepped
  have finish : (∃ channel processed, s.channel.processLine text = some channel ∧
      Sound { s with channel := channel, inFlight := inFlight } processed) →
      ∃ processed, s'.Sound processed := by
    rintro ⟨channel, processed, line, after⟩
    exact ⟨processed, next channel line ▸ after⟩
  have standing := sound.standing
  have bounded := sound.bounded
  unfold Standing at standing
  cases phase : s.phase with
  | idle =>
      rw [phase] at standing
      obtain ⟨idle, received, attempts, quiet⟩ := standing
      refine finish (sound.idleLine idle first fun channel more idle' grown shape => ?_)
      rcases shape with rfl | ⟨rfl, shorter⟩
      · simp only [Standing, phase]
        exact ⟨idle', received, attempts, grown.trans (by rw [quiet, List.append_nil])⟩
      · omega
  | attempting retries =>
      rw [phase] at standing
      obtain ⟨attempts, quiet, awaits⟩ := standing
      refine finish (sound.commandLine awaits first ?_ fun channel processed waits callbacks => ?_)
      · intro finished
        obtain ⟨response, pending, split⟩ := awaits.pending
        have none' : response.finalResponse = none := by
          have unanswered : s.answered ≠ true := fun given => by
            have unfinished := drained given
            simp [first, finished] at unfinished
          simpa [answered, phase, stored, pending] using unanswered
        simpa [none'] using split
      · simp only [Standing, phase]
        exact ⟨attempts, callbacks.trans quiet, waits⟩
  | pausing | crashed => simp [Exchange.free, phase] at free
  | ready =>
      rw [phase] at standing
      obtain ⟨idle, level, some', attempts, recorded, behind, delivered, all⟩ := standing
      refine finish (sound.idleLine idle first fun channel more idle' grown shape => ?_)
      simp only [Standing, phase]
      refine ⟨idle', level, by simp [some'], attempts, recorded, behind, ?_, ?_⟩
      · apply grown.trans
        rcases shape with rfl | ⟨rfl, shorter⟩
        · simpa using delivered
        · -- the line is left over from an attempt
          have few : processed.length < attempts := by
            by_contra many
            rcases Nat.lt_or_eq_of_le behind with commands | none'
            · rw [all commands] at shorter
              exact Nat.lt_irrefl _ shorter
            · omega
          rw [delivered, List.take_of_length_le (Nat.le_of_lt few),
            List.take_of_length_le (by simpa using Nat.succ_le_of_lt few), List.drop_append_of_le_length]
          exact List.length_pos_iff.mpr some'
      · intro commands
        rcases shape with rfl | ⟨rfl, shorter⟩
        · simpa using all commands
        · rw [all commands] at shorter
          exact absurd shorter (Nat.lt_irrefl _)
  | commanding number command =>
      rw [phase] at standing
      obtain ⟨received, reached, positive, endless, awaits, rest⟩ := standing
      refine finish (sound.commandLine awaits first ?_ fun channel processed waits callbacks => ?_)
      · intro finished
        obtain ⟨response, pending, split⟩ := awaits.pending
        obtain ⟨-, shorter⟩ := sound.next first finished
        have counted : (s.sent.take number).length = number := by simp [reached]
        cases stored : response.finalResponse with
        | none => simpa [stored] using split
        | some final =>
            have lengths := congrArg List.length split
            simp [stored, counted] at lengths
            omega
      · obtain ⟨attempts, recorded, behind, delivered⟩ := rest
        simp only [Standing, phase]
        exact ⟨received, reached, positive, endless, waits, attempts, recorded, behind,
          callbacks.trans delivered⟩
  | failed =>
      rw [phase] at standing
      refine finish (sound.idleLine standing.1 first fun channel more idle' grown shape => ?_)
      simp only [Standing, phase]
      exact ⟨idle', standing.2⟩

/-- The modem sends a line. -/
theorem Sound.modem (sound : s.Sound processed) (more : List CString) (text : CString)
    (counted : more = [text].filter isFinalResponse)
    (owed : s.sent.length + more.length ≤ s.received) :
    Sound { s with sent := s.sent ++ more, inFlight := s.inFlight ++ [text] } processed := by
  have standing := sound.standing
  refine ⟨?_, sound.handler, by simpa using owed, sound.answers, ?_⟩
  · change s.sent ++ more = processed ++ (s.inFlight ++ [text]).filter isFinalResponse
    rw [sound.split, List.filter_append, counted, List.append_assoc]
  · have shorter : ∀ count, count ≤ s.sent.length → (s.sent ++ more).take count =
        s.sent.take count := fun count inside => List.take_append_of_le_length inside
    unfold Standing at standing ⊢
    cases phase : s.phase with
    | ready =>
        rw [phase] at standing
        obtain ⟨idle, level, some', attempts, recorded, behind, delivered, all⟩ := standing
        have none' : more = [] := List.length_eq_zero_iff.mp (by omega)
        simp only [none', List.append_nil]
        exact ⟨idle, level, some', attempts, recorded, behind, delivered, all⟩
    | commanding number command =>
        rw [phase] at standing
        obtain ⟨received, reached, positive, endless, awaits, attempts, recorded, behind,
          delivered⟩ := standing
        simp only
        rw [shorter number reached]
        refine ⟨received, by simp; omega, positive, endless, awaits, attempts, recorded, behind, ?_⟩
        rw [shorter attempts (behind.trans reached)]
        exact delivered
    | idle | attempting | pausing | failed | crashed =>
        rw [phase] at standing
        exact standing

/-- **One step keeps commands and answers paired** if the left-over lines are drained in
time. -/
theorem Sound.step {event : ExchangeEvent} (sound : s.Sound processed)
    (drained : s.Drained event) (stepped : s.step event = some s') :
    ∃ processed, s'.Sound processed := by
  have standing := sound.standing
  unfold Standing at standing
  cases event with
  | handshake =>
      simp only [Exchange.step] at stepped
      cases phase : s.phase with
      | idle =>
          rw [phase] at standing
          obtain ⟨idle, received, attempts, quiet⟩ := standing
          have nothing : processed = [] := by
            have bounded := sound.bounded
            have lengths := congrArg List.length sound.split
            rw [List.length_append] at lengths
            exact List.length_eq_zero_iff.mp (by omega)
          simp only [phase, Option.some.injEq] at stepped
          subst stepped nothing
          exact ⟨[], sound.attempt attempts _ idle sound.handler quiet⟩
      | attempting | pausing | ready | commanding | failed | crashed => simp [phase] at stepped
  | wake timedOut =>
      simp only [Exchange.step] at stepped
      cases phase : s.phase with
      | attempting retries =>
          simp only [phase, Option.some.injEq] at stepped
          subst stepped
          refine sound.wakeAttempt phase fun late => ?_
          have unanswered : s.answered ≠ true := fun given =>
            absurd (drained given) (by simp [late])
          simpa [answered, phase] using unanswered
      | commanding number command =>
          simp only [phase, Option.some.injEq] at stepped
          subst stepped
          exact ⟨processed, sound.wakeCommand phase timedOut⟩
      | idle | pausing | ready | failed | crashed => simp [phase] at stepped
  | pauseEnds =>
      simp only [Exchange.step] at stepped
      cases phase : s.phase with
      | pausing =>
          rw [phase] at standing
          obtain ⟨idle, recorded, quiet, one⟩ := standing
          simp only [phase, Option.ite_none_right_eq_some, Option.some.injEq] at stepped
          obtain ⟨level, rfl⟩ := stepped
          refine ⟨processed, sound.split, sound.handler, sound.bounded, sound.answers, idle, level,
            List.ne_nil_of_length_pos (by omega), s.received, recorded, le_rfl, quiet.trans ?_,
            fun short => absurd short (Nat.lt_irrefl _)⟩
          refine (List.drop_eq_nil_of_le ?_).symm
          exact (List.length_take_le' _ _).trans one.le
      | idle | attempting | ready | commanding | failed | crashed => simp [phase] at stepped
  | send command =>
      simp only [Exchange.step] at stepped
      cases phase : s.phase with
      | ready =>
          simp only [phase, Option.ite_none_right_eq_some, Option.some.injEq] at stepped
          obtain ⟨⟨endless, prefixed⟩, rfl⟩ := stepped
          exact ⟨processed, sound.sendCommand phase endless prefixed drained⟩
      | idle | attempting | pausing | commanding | failed | crashed => simp [phase] at stepped
  | modemLine text =>
      simp only [Exchange.step, Option.ite_none_left_eq_some, Option.some.injEq] at stepped
      obtain ⟨unfinished, rfl⟩ := stepped
      have after := sound.modem [] text (by simp [unfinished]) sound.bounded
      rw [List.append_nil] at after
      exact ⟨processed, after⟩
  | modemAnswer text =>
      simp only [Exchange.step, Option.ite_none_right_eq_some, Option.some.injEq] at stepped
      obtain ⟨⟨finished, owed⟩, rfl⟩ := stepped
      exact ⟨processed, sound.modem [text] text (by simp [finished]) owed⟩
  | line => exact sound.line drained stepped

theorem Sound.paired (sound : s.Sound processed) : s.Paired := by
  have same : s.processed = processed := by
    unfold Exchange.processed
    rw [List.countP_eq_length_filter]
    conv_lhs => rw [sound.split]
    simp
  constructor
  · intro attempts recorded
    rw [same]
    have standing := sound.standing
    unfold Standing at standing
    cases phase : s.phase with
    | idle =>
        rw [phase] at standing
        exact absurd (standing.2.2.1.symm.trans recorded) nofun
    | attempting =>
        rw [phase] at standing
        exact absurd (standing.1.symm.trans recorded) nofun
    | failed =>
        rw [phase] at standing
        exact absurd (standing.2.symm.trans recorded) nofun
    | crashed =>
        rw [phase] at standing
        exact standing.elim
    | pausing =>
        rw [phase] at standing
        obtain ⟨-, -, quiet, one⟩ := standing
        rw [quiet, List.drop_eq_nil_of_le]
        exact (List.length_take_le' _ _).trans one.le
    | ready =>
        rw [phase] at standing
        obtain ⟨-, -, -, known, recorded', -, delivered, -⟩ := standing
        obtain rfl := Option.some.inj (recorded.symm.trans recorded')
        exact delivered
    | commanding number command =>
        rw [phase] at standing
        obtain ⟨-, reached, -, -, awaits, known, recorded', behind, delivered⟩ := standing
        obtain rfl := Option.some.inj (recorded.symm.trans recorded')
        obtain ⟨response, -, split⟩ := awaits.pending
        have front : processed.take attempts = s.sent.take attempts := by
          rw [split, List.take_append_of_le_length (by simp; omega), List.take_take,
            Nat.min_eq_left behind]
        rw [front]
        exact delivered
  · intro call member
    obtain ⟨final, found, rest⟩ := sound.answers call member
    refine ⟨final, ?_, rest⟩
    rw [sound.split]
    exact (List.getElem?_append_left (List.getElem?_eq_some_iff.mp found).1).trans found

/-- **Commands and answers stay paired** in every run that drains the left-over lines of
the handshake in time. -/
theorem paired_of_run {channel : Channel} (idle : channel.spResponse = none)
    (handler : channel.sUnsolHandler = true) (fresh : channel.callbacks = [])
    {events : List ExchangeEvent} (drained : StepsMeet step Drained (start channel) events)
    (ran : run step (start channel) events = some s) : s.Paired := by
  have sound : (start channel).Sound [] :=
    ⟨rfl, handler, le_rfl, nofun, idle, rfl, rfl, by simp [delivered, start, fresh]⟩
  have kept : ∀ (s : Exchange) event (s' : Exchange), (∃ processed, s.Sound processed) →
      s.Drained event → s.step event = some s' → ∃ processed, s'.Sound processed := by
    rintro s event s' ⟨processed, sound⟩ met stepped
    exact sound.step met stepped
  obtain ⟨processed, after⟩ := run_invariant_of_stepsMeet kept ⟨[], sound⟩ drained ran
  exact after.paired

/-- A handshake whose first attempt times out: the answer to the first attempt ends the
second one, and its own answer comes during the pause. -/
def retriedHandshake : List ExchangeEvent :=
  [.handshake, .wake true, .modemAnswer (ascii "OK"), .line, .wake false,
    .modemAnswer (ascii "OK"), .pauseEnds]

/-- The left-over line is processed, then a command is sent. -/
def drainedEvents : List ExchangeEvent :=
  retriedHandshake ++ [.line, .send signalCommand, .modemLine (ascii "+CSQ: 9"), .line,
    .modemAnswer (ascii "OK"), .line, .wake false]

theorem paired_drainedEvents : ∃ s,
    run step (start (Channel.initial.atOpen 3 [] true)) drainedEvents = some s ∧ s.Paired := by
  have ends : (run step (start (Channel.initial.atOpen 3 [] true)) drainedEvents).isSome = true := by
    decide +kernel
  obtain ⟨s, ran⟩ := Option.isSome_iff_exists.mp ends
  exact ⟨s, ran, paired_of_run rfl rfl rfl (by decide +kernel) ran⟩

/-- The command thread gets the mutex behind the pause before the reader does. -/
def undrainedEvents : List ExchangeEvent :=
  retriedHandshake ++ [.send signalCommand, .modemLine (ascii "+CSQ: 9"),
    .modemAnswer (ascii "ERROR"), .line, .wake false]

/-- Its command returns the left-over answer to the handshake, and the modem answers
ERROR. -/
theorem undrained_unpaired : ∃ s,
    run step (start (Channel.initial.atOpen 3 [] true)) undrainedEvents = some s ∧
      s.returned.map (fun call => (call.number, call.final)) = [(2, some (ascii "OK"))] ∧
      s.sent[2]? = some (ascii "ERROR") ∧ s.delivered = [] ∧ ¬ s.Paired := by
  have ends : (run step (start (Channel.initial.atOpen 3 [] true)) undrainedEvents).any (fun s =>
      s.returned.map (fun call => (call.number, call.final)) == [(2, some (ascii "OK"))] &&
        s.sent[2]? == some (ascii "ERROR") && s.delivered == []) = true := by
    decide +kernel
  obtain ⟨s, ran, facts⟩ := (Option.any_eq_true _ _).mp ends
  simp only [Bool.and_eq_true, beq_iff_eq] at facts
  obtain ⟨⟨returned, sent⟩, delivered⟩ := facts
  refine ⟨s, ran, returned, sent, delivered, fun paired => ?_⟩
  obtain ⟨call, calls, shape⟩ := List.map_eq_singleton_iff.mp returned
  obtain ⟨final, own, found, -⟩ := paired.answers call (by simp [calls])
  obtain ⟨number, ok⟩ := Prod.mk.inj shape
  rw [number, sent] at own
  rw [ok] at found
  exact absurd (found.trans own.symm) (by decide)

end Exchange

end RildHisi.AtChannel
