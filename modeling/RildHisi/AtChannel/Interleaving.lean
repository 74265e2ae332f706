import RildHisi.AtChannel.CommandResult
import RildHisi.Library.Runs

/-!
Owns the threads around the AT channel. The reader processes a line whenever
`s_commandmutex` is free; a thread behind its wait takes `sp_response` as it
finds it when it gets the mutex again; and any thread may call
`at_send_command_full` in between.

Two things follow. The response of a command is that of its first final line
exactly where no line behind it is one the pending command still takes
(`unaffected_of_run`). A call that finds a command pending never leaves it as it
was (`not_pendingKept_of_run`).
-/

namespace RildHisi.AtChannel

open RildHisi.Library

/-- The channel and the threads that use it. -/
structure Threads where
  channel : Channel
  /-- The command a thread waits for in `at_send_command_full_nolock`. -/
  waiting : Nat → Option Command
  /-- What the last `at_send_command_full` of a thread came to. -/
  results : Nat → Option (Int × Option AtResponse)
  /-- A thread has read through a NULL pointer. -/
  crashed : Bool

def Threads.initial : Threads := ⟨.initial, fun _ => none, fun _ => none, false⟩

inductive ThreadEvent
  | atOpen (fd : Int) (script : List WriteOutcome) (handler : Bool)
  | atSetOnTimeout (given : Bool)
  | atSetOnReaderClosed (given : Bool)
  /-- `processLine`, `onReaderClosed` or `at_close`. -/
  | reader (event : ReaderEvent)
  /-- `at_send_command_full` up to its first wait. -/
  | send (thread : Nat) (onReaderThread : Bool) (command : Command)
  /-- The end of a wait; `timedOut` is the return of `ETIMEDOUT`. -/
  | wake (thread : Nat) (timedOut : Bool)

/-- Behind `pthread_cond_wait` in `at_send_command_full_nolock`: the loop is left on a
time-out, else its condition is read again. -/
def Channel.wakeUpNolock (chan : Channel) (command : Command) (timedOut : Bool) : SendResult :=
  if command.timeoutMsec ≠ 0 && timedOut then
    .returned atErrorTimeout none chan.clearPendingCommand
  else chan.waitForFinalResponse command.timeoutMsec command.wantsResponse []

/-- The same in `at_send_command_full`. -/
def Channel.wakeUp (chan : Channel) (command : Command) (timedOut : Bool) : SendResult :=
  match chan.wakeUpNolock command timedOut with
  | .returned err response chan =>
      if err = atErrorTimeout && chan.sOnTimeout then
        .returned err response { chan with callbacks := chan.callbacks ++ [.onTimeout] }
      else .returned err response chan
  | other => other

namespace Threads

/-- What a call, or the part of it behind a wait, has come to. -/
def settle (s : Threads) (thread : Nat) (command : Command) : SendResult → Threads
  | .returned err response channel =>
      { s with
        channel := channel
        waiting := Function.update s.waiting thread none
        results := Function.update s.results thread (some (err, response)) }
  | .waiting channel =>
      { s with channel := channel, waiting := Function.update s.waiting thread (some command) }
  | .crashed => { s with crashed := true }

/-- One step. A thread makes one call at a time, and nothing runs after a crash. -/
def step (s : Threads) (event : ThreadEvent) : Option Threads :=
  if s.crashed then none
  else match event with
    | .atOpen fd script handler => some { s with channel := s.channel.atOpen fd script handler }
    | .atSetOnTimeout given => some { s with channel := { s.channel with sOnTimeout := given } }
    | .atSetOnReaderClosed given =>
        some { s with channel := { s.channel with sOnReaderClosed := given } }
    | .reader event =>
        match s.channel.handleEvent event with
        | some channel => some { s with channel := channel }
        | none => some { s with crashed := true }
    | .send thread onReaderThread command =>
        if (s.waiting thread).isSome then none
        else some (s.settle thread command (s.channel.atSendCommandFull onReaderThread command []))
    | .wake thread timedOut =>
        (s.waiting thread).map fun command =>
          s.settle thread command (s.channel.wakeUp command timedOut)

end Threads

/-- Only a wait that times out makes the callback. -/
theorem Channel.wakeUp_eq (chan : Channel) (command : Command) (timedOut : Bool) :
    chan.wakeUp command timedOut =
      if command.timeoutMsec ≠ 0 && timedOut then
        .returned atErrorTimeout none
          (if chan.sOnTimeout then
            { chan.clearPendingCommand with callbacks := chan.callbacks ++ [.onTimeout] }
          else chan.clearPendingCommand)
      else chan.waitForFinalResponse command.timeoutMsec command.wantsResponse [] := by
  unfold wakeUp wakeUpNolock
  by_cases late : (decide (command.timeoutMsec ≠ 0) && timedOut) = true
  · rw [if_pos late, if_pos late]
    cases given : chan.sOnTimeout <;> simp [given, clearPendingCommand]
  · rw [if_neg late, if_neg late]
    have closed : ¬ atErrorChannelClosed = atErrorTimeout := by decide
    have nothing : ¬ (0 : Int) = atErrorTimeout := by decide
    unfold waitForFinalResponse
    cases chan.spResponse with
    | none => rfl
    | some response =>
        simp only [finishCommand]
        cases chan.sReaderClosed <;> split_ifs <;> simp_all

theorem Threads.step_send {s s' : Threads} {thread : Nat} {onReaderThread : Bool}
    {command : Command} (stepped : s.step (.send thread onReaderThread command) = some s') :
    s.crashed = false ∧ s.waiting thread = none ∧
      s' = s.settle thread command (s.channel.atSendCommandFull onReaderThread command []) := by
  unfold step at stepped
  by_cases crashed : s.crashed = true
  · rw [if_pos crashed] at stepped
    cases stepped
  · rw [if_neg crashed] at stepped
    by_cases busy : (s.waiting thread).isSome = true
    · simp [busy] at stepped
    · exact ⟨by simpa using crashed, by simpa using busy, by simpa [busy] using stepped.symm⟩

theorem Threads.step_wake {s s' : Threads} {thread : Nat} {timedOut : Bool}
    (stepped : s.step (.wake thread timedOut) = some s') :
    s.crashed = false ∧ ∃ command, s.waiting thread = some command ∧
      s' = s.settle thread command (s.channel.wakeUp command timedOut) := by
  unfold step at stepped
  by_cases crashed : s.crashed = true
  · rw [if_pos crashed] at stepped
    cases stepped
  · rw [if_neg crashed] at stepped
    obtain ⟨command, waits, rfl⟩ := Option.map_eq_some_iff.mp stepped
    exact ⟨by simpa using crashed, command, waits, rfl⟩

theorem Threads.step_reader {s s' : Threads} {event : ReaderEvent}
    (stepped : s.step (.reader event) = some s') :
    s.crashed = false ∧
      ((∃ channel, s.channel.handleEvent event = some channel ∧
          s' = { s with channel := channel }) ∨
        s.channel.handleEvent event = none ∧ s' = { s with crashed := true }) := by
  unfold step at stepped
  split_ifs at stepped with crashed
  refine ⟨by simpa using crashed, ?_⟩
  cases handled : s.channel.handleEvent event with
  | some channel =>
      simp only [handled, Option.some.injEq] at stepped
      exact Or.inl ⟨channel, rfl, stepped.symm⟩
  | none =>
      simp only [handled, Option.some.injEq] at stepped
      exact Or.inr ⟨rfl, stepped.symm⟩

/-- A line the channel can process. -/
theorem Threads.step_line {s : Threads} (alive : s.crashed = false) {line : CString}
    {next : Channel} (processed : s.channel.processLine line = some next) :
    s.step (.reader (.line line)) = some { s with channel := next } := by
  simp only [step, alive, Bool.false_eq_true, if_false, Channel.handleEvent, processed]

/-- A call on an idle channel that is open writes its command and waits, or has failed
to write it. -/
theorem Channel.atSendCommandFullNolock_idle {chan : Channel} (idle : chan.spResponse = none)
    (command : Command) :
    (∃ err script written, err < 0 ∧ err ≠ atErrorTimeout ∧
      chan.atSendCommandFullNolock command [] = .returned err none
        { chan.clearPendingCommand with script := script, written := written }) ∨
    ∃ script written, chan.sReaderClosed = false ∧
      chan.atSendCommandFullNolock command [] =
        .waiting ({ chan with script := script, written := written }.startCommand command) := by
  obtain ⟨script, written, frame⟩ := chan.writeTerminated_frame command.command 13
  have codes := chan.writeTerminated_codes command.command 13
  have opened (accepted : ¬ (chan.writeTerminated command.command 13).1 < 0) :=
    Channel.writeTerminated_open accepted
  unfold atSendCommandFullNolock writeline
  simp only [idle, Option.isSome_none, Bool.false_eq_true, if_false]
  generalize chan.writeTerminated command.command 13 = wrote at *
  obtain ⟨err, now⟩ := wrote
  obtain rfl : now = _ := frame
  by_cases refused : err < 0
  · refine Or.inl ⟨err, script, written, refused, codes, ?_⟩
    rw [if_pos refused]
    rfl
  · refine Or.inr ⟨script, written, (opened refused).2, ?_⟩
    rw [if_neg refused]
    unfold waitForFinalResponse
    have readerOpen := (opened refused).2
    simp only [startCommand, atResponseNew, Option.isNone_none, Bool.true_and] at readerOpen ⊢
    rw [readerOpen]
    rfl

/-- Without its callback the call is the one that does not lock. -/
theorem Channel.atSendCommandFull_idle {chan : Channel} (idle : chan.spResponse = none)
    (command : Command) :
    chan.atSendCommandFull false command [] = chan.atSendCommandFullNolock command [] := by
  unfold atSendCommandFull
  rcases chan.atSendCommandFullNolock_idle idle command with
    ⟨err, script, written, -, inTime, result⟩ | ⟨script, written, -, result⟩
  · simp [result, inTime]
  · simp [result]

/-! ### A call that finds a command pending -/

/-- The pending command stands as it did. -/
structure Channel.PendingKept (before after : Channel) : Prop where
  spResponse : after.spResponse = before.spResponse
  sType : after.sType = before.sType
  sResponsePrefix : after.sResponsePrefix = before.sResponsePrefix
  sSmsPdu : after.sSmsPdu = before.sSmsPdu

/-- The exit of a rejected call clears the command of the thread that waits. -/
theorem Channel.atSendCommandFull_pending {chan : Channel} {response : AtResponse}
    (pending : chan.spResponse = some response) (command : Command) (waits : List Wait) :
    chan.atSendCommandFull false command waits =
      .returned atErrorCommandPending none chan.clearPendingCommand := by
  have unequal : ¬ atErrorCommandPending = atErrorTimeout := by decide
  simp [atSendCommandFull, atSendCommandFullNolock, pending, unequal]

/-- **A rejected call never leaves the pending command as it was.** Whichever thread
waits for it, no further call both returns `AT_ERROR_COMMAND_PENDING` and keeps the
command. -/
theorem not_pendingKept {s s' : Threads} {second : Nat} {call : Command} {response : AtResponse}
    {onReaderThread : Bool} (pending : s.channel.spResponse = some response)
    (stepped : s.step (.send second onReaderThread call) = some s') :
    ¬ (s'.results second = some (atErrorCommandPending, none) ∧
      s.channel.PendingKept s'.channel) := by
  rintro ⟨rejected, kept⟩
  obtain ⟨-, -, rfl⟩ := Threads.step_send stepped
  cases onReaderThread with
  | true =>
      have shape : s.channel.atSendCommandFull true call [] =
          .returned atErrorInvalidThread none s.channel := rfl
      rw [shape] at rejected
      have result : atErrorInvalidThread = atErrorCommandPending := by
        simpa [Threads.settle] using rejected
      exact absurd result (by decide)
  | false =>
      have cleared : none = s.channel.spResponse := by
        simpa [Channel.atSendCommandFull_pending pending, Threads.settle,
          Channel.clearPendingCommand] using kept.spResponse
      rw [pending] at cleared
      cases cleared

/-- A thread that waits for the IMSI. -/
def imsiCommand : Command := ⟨ascii "AT+CIMI", .numeric, none, none, 0, true⟩

def imsiEvents : List ThreadEvent := [.atOpen 3 [] true, .send 1 false imsiCommand]

def signalCommand : Command := ⟨ascii "AT+CSQ", .singleline, some (ascii "+CSQ:"), none, 0, true⟩

def imsiAnswer : List ThreadEvent :=
  [.reader (.line (ascii "460001")), .reader (.line (ascii "OK")), .wake 1 false]

theorem not_pendingKept_imsi :
    ∃ s s' : Threads, run Threads.step .initial imsiEvents = some s ∧
      s.step (.send 2 false signalCommand) = some s' ∧
      ¬ (s'.results 2 = some (atErrorCommandPending, none) ∧
        s.channel.PendingKept s'.channel) :=
  ⟨_, _, rfl, rfl, @not_pendingKept _ _ 2 signalCommand atResponseNew false rfl rfl⟩

/-- A second call while the IMSI is asked for: it is rejected, the pending command is
gone, and the thread that waits for the IMSI, which would have got it, reads through
NULL. -/
theorem signalCall_frees_imsi :
    (¬ ∀ (events : List ThreadEvent) (s s' : Threads) (first second : Nat) (call : Command),
      run Threads.step .initial events = some s → (s.waiting first).isSome →
      s.channel.spResponse.isSome → s.step (.send second false call) = some s' →
      s'.results second = some (atErrorCommandPending, none) ∧
        s.channel.PendingKept s'.channel) ∧
    (run Threads.step .initial (imsiEvents ++ imsiAnswer)).map (·.results 1) =
      some (some (0, some ⟨true, some (ascii "OK"), [ascii "460001"]⟩)) ∧
    (run Threads.step .initial (imsiEvents ++ .send 2 false signalCommand :: imsiAnswer)).map
      (·.crashed) = some true := by
  refine ⟨fun claim => ?_, by decide +kernel, by decide +kernel⟩
  have kept := claim imsiEvents _ _ 1 2 signalCommand rfl rfl rfl rfl
  exact absurd kept.2.spResponse (by decide)

/-! ### Lines behind the final one -/

/-- The pending command takes the line: as a final response, as the prompt for its PDU,
or as an intermediate response. -/
def Channel.takes (chan : Channel) (response : AtResponse) (line : CString) : Bool :=
  isFinalResponse line || (chan.sSmsPdu.isSome && line == smsPrompt) ||
    keeps chan.sType chan.sResponsePrefix response.pIntermediates line

/-- Neither a final response nor the prompt reaches the handler. -/
theorem Channel.processLine_closing {chan next : Channel} {response : AtResponse}
    {line : CString} (pending : chan.spResponse = some response)
    (closing : (isFinalResponse line || (chan.sSmsPdu.isSome && line == smsPrompt)) = true)
    (stepped : chan.processLine line = some next) : next.callbacks = chan.callbacks := by
  unfold processLine at stepped
  simp only [pending] at stepped
  by_cases success : isFinalResponseSuccess line = true
  · rw [if_pos success] at stepped
    exact Option.some.inj stepped ▸ rfl
  rw [if_neg success] at stepped
  by_cases error : isFinalResponseError line = true
  · rw [if_pos error] at stepped
    exact Option.some.inj stepped ▸ rfl
  have prompt : (chan.sSmsPdu.isSome && line == smsPrompt) = true := by
    simpa [isFinalResponse, success, error] using closing
  rw [if_neg error, if_pos prompt] at stepped
  obtain ⟨script, written, shape⟩ := chan.writeTerminated_frame (chan.sSmsPdu.getD []) 26
  rw [writeCtrlZ, shape] at stepped
  exact Option.some.inj stepped ▸ rfl

section Gap

variable {chan next : Channel} {command : Command} {response : AtResponse} {line : CString}
  (prefixed : command.Prefixed) (type : chan.sType = command.type)
  (responsePrefix : chan.sResponsePrefix = command.responsePrefix)
  (pending : chan.spResponse = some response)

include prefixed type responsePrefix pending

theorem Channel.processLine_passed (passed : chan.takes response line = false) :
    chan.processLine line = some (chan.handleUnsolicited line) := by
  simp only [takes, Bool.or_eq_false_iff] at passed
  obtain ⟨⟨unfinished, noPrompt⟩, dropped⟩ := passed
  rw [processLine_switch prefixed type responsePrefix pending unfinished noPrompt, ← type,
    ← responsePrefix, dropped]
  rfl

/-- A line the command takes does not reach the handler. -/
theorem Channel.processLine_taken (taken : chan.takes response line = true)
    (stepped : chan.processLine line = some next) : next.callbacks = chan.callbacks := by
  by_cases closing : (isFinalResponse line || (chan.sSmsPdu.isSome && line == smsPrompt)) = true
  · exact processLine_closing pending closing stepped
  · simp only [Bool.not_eq_true, Bool.or_eq_false_iff] at closing
    obtain ⟨unfinished, noPrompt⟩ := closing
    have kept : keeps command.type command.responsePrefix response.pIntermediates line = true := by
      simpa [takes, unfinished, noPrompt, type, responsePrefix] using taken
    rw [processLine_switch prefixed type responsePrefix pending unfinished noPrompt, if_pos kept]
      at stepped
    exact Option.some.inj stepped ▸ rfl

end Gap

/-- A line makes one call of the handler at most. -/
theorem Channel.processLine_callbacks_le {chan next : Channel} {line : CString}
    (stepped : chan.processLine line = some next) :
    next.callbacks.length ≤ chan.callbacks.length + 1 := by
  rcases Channel.processLine_cases stepped with rfl | ⟨response, rfl⟩ | ⟨response, rfl⟩ | rfl
  · rw [handleUnsolicited_eq]
    cases handler : chan.sUnsolHandler <;> simp [unsolicitedCalls]
  · exact Nat.le_succ _
  · exact Nat.le_succ _
  · obtain ⟨script, written, shape⟩ := chan.writeTerminated_frame (chan.sSmsPdu.getD []) 26
    rw [writeCtrlZ, shape]
    exact Nat.le_succ _

theorem Channel.processLines_callbacks_le {chan next : Channel} {lines : List CString}
    (ran : lines.foldlM Channel.processLine chan = some next) :
    next.callbacks.length ≤ chan.callbacks.length + lines.length := by
  induction lines generalizing chan with
  | nil =>
      obtain rfl : chan = next := by simpa using ran
      simp
  | cons line lines inductionHypothesis =>
      obtain ⟨middle, stepped, rest⟩ := Option.bind_eq_some_iff.mp ran
      have one := Channel.processLine_callbacks_le stepped
      have more := inductionHypothesis rest
      simp only [List.length_cons]
      omega

/-- Lines the pending command does not take change nothing. -/
theorem Channel.processLines_passed {chan : Channel} {command : Command} {response : AtResponse}
    (prefixed : command.Prefixed) (type : chan.sType = command.type)
    (responsePrefix : chan.sResponsePrefix = command.responsePrefix)
    (pending : chan.spResponse = some response) {gap : List CString}
    (passed : ∀ line ∈ gap, chan.takes response line = false) :
    gap.foldlM Channel.processLine chan = some { chan with
      callbacks := chan.callbacks ++ unsolicitedCalls chan.sUnsolHandler gap } := by
  induction gap generalizing chan with
  | nil => simp [unsolicitedCalls]
  | cons line gap inductionHypothesis =>
      rw [List.foldlM_cons, processLine_passed prefixed type responsePrefix pending
        (passed line List.mem_cons_self), handleUnsolicited_eq]
      have rest := @inductionHypothesis { chan with
          callbacks := chan.callbacks ++ unsolicitedCalls chan.sUnsolHandler [line] }
        type responsePrefix pending fun other member => passed other (List.mem_cons_of_mem _ member)
      apply rest.trans
      rw [List.append_assoc, ← unsolicitedCalls_append]
      rfl

/-- With a handler, the lines all reach it only if the command takes none of them. -/
theorem Channel.passed_of_callbacks {chan next : Channel} {command : Command}
    {response : AtResponse} (prefixed : command.Prefixed) (type : chan.sType = command.type)
    (responsePrefix : chan.sResponsePrefix = command.responsePrefix)
    (pending : chan.spResponse = some response) (handler : chan.sUnsolHandler = true)
    {gap : List CString} (ran : gap.foldlM Channel.processLine chan = some next)
    (reached : next.callbacks.length = chan.callbacks.length + gap.length) :
    ∀ line ∈ gap, chan.takes response line = false := by
  induction gap generalizing chan with
  | nil => simp
  | cons line gap inductionHypothesis =>
      obtain ⟨middle, stepped, rest⟩ := Option.bind_eq_some_iff.mp ran
      have bound := Channel.processLines_callbacks_le rest
      have passed : chan.takes response line = false := by
        by_contra taken
        have same := Channel.processLine_taken prefixed type responsePrefix pending
          (by simpa using taken) stepped
        rw [same] at bound
        simp only [List.length_cons] at reached
        omega
      rw [processLine_passed prefixed type responsePrefix pending passed, handleUnsolicited_eq,
        Option.some.injEq] at stepped
      subst stepped
      have behind : next.callbacks.length =
          (chan.callbacks ++ unsolicitedCalls chan.sUnsolHandler [line]).length + gap.length := by
        simp only [List.length_append, List.length_cons, unsolicitedCalls, handler, if_true,
          List.map_cons, List.map_nil, List.length_nil] at reached ⊢
        omega
      have others := @inductionHypothesis { chan with
          callbacks := chan.callbacks ++ unsolicitedCalls chan.sUnsolHandler [line] }
        type responsePrefix pending handler rest behind
      intro other member
      rcases List.mem_cons.mp member with rfl | behind
      · exact passed
      · exact others other behind

/-! ### A command between the reader and its waiter -/

/-- A step in front of the first final line: a non-final line, or a wait of the thread
that ends. -/
def ThreadEvent.Unfinished (thread : Nat) : ThreadEvent → Prop
  | .reader (.line text) => isFinalResponse text = false
  | .wake other _ => other = thread
  | _ => False

/-- The line the step processes. -/
def ThreadEvent.text : ThreadEvent → Option CString
  | .reader (.line text) => some text
  | _ => none

def lineEvents (lines : List CString) : List ThreadEvent :=
  lines.map fun line => .reader (.line line)

/-- The thread waits for its command, of which the channel has collected `lines`. -/
structure Waits (before : Threads) (thread : Nat) (command : Command) (lines : List CString)
    (now : Threads) : Prop where
  alive : now.crashed = false
  waiting : now.waiting thread = some command
  onTimeout : now.channel.sOnTimeout = before.channel.sOnTimeout
  collected : Collected before.channel command lines now.channel

theorem Channel.processLine_onTimeout {chan next : Channel} {line : CString}
    (stepped : chan.processLine line = some next) : next.sOnTimeout = chan.sOnTimeout := by
  rcases Channel.processLine_cases stepped with rfl | ⟨response, rfl⟩ | ⟨response, rfl⟩ | rfl
  · rw [handleUnsolicited_eq]
  · rfl
  · rfl
  · obtain ⟨script, written, shape⟩ := chan.writeTerminated_frame (chan.sSmsPdu.getD []) 26
    rw [writeCtrlZ, shape]

theorem Channel.processLines_onTimeout {chan next : Channel} {lines : List CString}
    (ran : lines.foldlM Channel.processLine chan = some next) :
    next.sOnTimeout = chan.sOnTimeout := by
  induction lines generalizing chan with
  | nil =>
      obtain rfl : chan = next := by simpa using ran
      rfl
  | cons line lines inductionHypothesis =>
      obtain ⟨middle, stepped, rest⟩ := Option.bind_eq_some_iff.mp ran
      exact (inductionHypothesis rest).trans (Channel.processLine_onTimeout stepped)

/-- A thread that no longer waits does not wait again on its own. -/
theorem Threads.gone_of_run {s s' : Threads} {thread : Nat} {events : List ThreadEvent}
    (own : ∀ event ∈ events, event.Unfinished thread ∨ ∃ line, event = .reader (.line line))
    (gone : s.waiting thread = none) (ran : run Threads.step s events = some s') :
    s'.waiting thread = none := by
  induction events generalizing s with
  | nil =>
      obtain rfl : s = s' := by simpa using ran
      exact gone
  | cons event events inductionHypothesis =>
      obtain ⟨middle, stepped, rest⟩ := Option.bind_eq_some_iff.mp ran
      refine inductionHypothesis (fun other member => own other (List.mem_cons_of_mem _ member))
        ?_ rest
      have mine := own event List.mem_cons_self
      cases event with
      | reader event =>
          obtain ⟨-, ⟨channel, -, rfl⟩ | ⟨-, rfl⟩⟩ := step_reader stepped
          · exact gone
          · exact gone
      | wake other timedOut =>
          obtain rfl : other = thread := by simpa [ThreadEvent.Unfinished] using mine
          obtain ⟨-, command, waits, -⟩ := step_wake stepped
          rw [gone] at waits
          cases waits
      | atOpen | atSetOnTimeout | atSetOnReaderClosed | send =>
          simp [ThreadEvent.Unfinished] at mine

namespace Waits

variable {before now next : Threads} {thread : Nat} {command : Command} {lines : List CString}

/-- A call that ends in a wait has written its command. -/
theorem start (stepped : before.step (.send thread false command) = some next)
    (waiting : next.waiting thread ≠ none) : Waits before thread command [] next := by
  obtain ⟨alive, idle, rfl⟩ := Threads.step_send stepped
  by_cases pending : before.channel.spResponse = none
  · rw [Channel.atSendCommandFull_idle pending] at waiting ⊢
    rcases before.channel.atSendCommandFullNolock_idle pending command with
      ⟨err, script, written, -, -, result⟩ | ⟨script, written, readerOpen, result⟩
    · simp [result, Threads.settle] at waiting
    · rw [result]
      exact ⟨alive, by simp [Threads.settle], rfl, Collected.start rfl rfl readerOpen⟩
  · obtain ⟨response, registered⟩ := Option.ne_none_iff_exists'.mp pending
    simp [Channel.atSendCommandFull_pending registered, Threads.settle] at waiting

/-- A step in front of the final line: the line is collected, or the thread goes on
waiting, or its wait has timed out. -/
theorem step (waits : Waits before thread command lines now) (prefixed : command.Prefixed)
    {event : ThreadEvent} (unfinished : event.Unfinished thread)
    (stepped : now.step event = some next) :
    Waits before thread command (lines ++ event.text.toList) next ∨
      next.waiting thread = none := by
  cases event with
  | reader event =>
      cases event with
      | line text =>
          obtain ⟨after, processed, collected⟩ := waits.collected.line prefixed unfinished
          rw [Threads.step_line waits.alive processed, Option.some.injEq] at stepped
          subst stepped
          have onTimeout := Channel.processLine_onTimeout processed
          exact Or.inl ⟨waits.alive, waits.waiting, onTimeout.trans waits.onTimeout, collected⟩
      | readerClosed | closed => simp [ThreadEvent.Unfinished] at unfinished
  | wake other timedOut =>
      obtain rfl : other = thread := unfinished
      obtain ⟨-, own, registered, rfl⟩ := Threads.step_wake stepped
      obtain rfl : command = own := Option.some.inj (waits.waiting.symm.trans registered)
      rw [Channel.wakeUp_eq]
      by_cases late : (decide (command.timeoutMsec ≠ 0) && timedOut) = true
      · rw [if_pos late]
        exact Or.inr (by simp [Threads.settle])
      · rw [if_neg late]
        have again : now.channel.waitForFinalResponse command.timeoutMsec command.wantsResponse []
            = .waiting now.channel := by
          unfold Channel.waitForFinalResponse
          simp [waits.collected.response, waits.collected.readerOpen]
        rw [again]
        have nothing : lines ++ (ThreadEvent.wake other timedOut).text.toList = lines :=
          List.append_nil lines
        rw [nothing]
        exact Or.inl ⟨waits.alive, by simp [Threads.settle], waits.onTimeout, waits.collected⟩
  | atOpen | atSetOnTimeout | atSetOnReaderClosed | send =>
      simp [ThreadEvent.Unfinished] at unfinished

/-- Everything in front of the final line. -/
theorem run (waits : Waits before thread command lines now) (prefixed : command.Prefixed)
    {events : List ThreadEvent} (unfinished : ∀ event ∈ events, event.Unfinished thread)
    (ran : run Threads.step now events = some next) :
    Waits before thread command (lines ++ events.filterMap ThreadEvent.text) next ∨
      next.waiting thread = none := by
  induction events generalizing now lines with
  | nil =>
      obtain rfl : now = next := by simpa using ran
      exact Or.inl (by simpa using waits)
  | cons event events inductionHypothesis =>
      obtain ⟨middle, stepped, rest⟩ := Option.bind_eq_some_iff.mp ran
      have others := fun other member => unfinished other (List.mem_cons_of_mem event member)
      rcases waits.step prefixed (unfinished event List.mem_cons_self) stepped with on | gone
      · have split : lines ++ (event :: events).filterMap ThreadEvent.text =
            lines ++ event.text.toList ++ events.filterMap ThreadEvent.text := by
          cases text : event.text <;> simp [text]
        rw [split]
        exact inductionHypothesis on others rest
      · exact Or.inr (Threads.gone_of_run (fun other member => Or.inl (others other member))
          gone rest)

end Waits

/-- Lines of the reader, in a run that does not end in a crash. -/
theorem Threads.run_lines {s s' : Threads} {lines : List CString}
    (ran : run Threads.step s (lineEvents lines) = some s') (alive : s'.crashed = false) :
    ∃ channel, lines.foldlM Channel.processLine s.channel = some channel ∧
      s' = { s with channel := channel } := by
  induction lines generalizing s with
  | nil =>
      obtain rfl : s = s' := by simpa [lineEvents] using ran
      exact ⟨s.channel, rfl, rfl⟩
  | cons line lines inductionHypothesis =>
      obtain ⟨middle, stepped, rest⟩ := Option.bind_eq_some_iff.mp ran
      obtain ⟨channel, processed, rfl⟩ := inductionHypothesis rest
      obtain ⟨-, ⟨next, handled, rfl⟩ | ⟨-, rfl⟩⟩ := step_reader stepped
      · refine ⟨channel, ?_, rfl⟩
        have handled : s.channel.processLine line = some next := handled
        rw [List.foldlM_cons, handled]
        exact processed
      · cases alive

/-- The call of `s_onTimeout` behind a wait that has timed out. -/
def timeoutCalls (onTimeout : Bool) (command : Command) (timedOut : Bool) : List Callback :=
  if command.timeoutMsec ≠ 0 && timedOut && onTimeout then [.onTimeout] else []

/-- The end of a wait makes no other callback. -/
theorem Threads.wake_callbacks {s s' : Threads} {thread : Nat} {command : Command}
    {timedOut : Bool} (waiting : s.waiting thread = some command)
    (stepped : s.step (.wake thread timedOut) = some s') :
    s'.channel.callbacks =
      s.channel.callbacks ++ timeoutCalls s.channel.sOnTimeout command timedOut := by
  obtain ⟨-, own, registered, rfl⟩ := Threads.step_wake stepped
  obtain rfl : command = own := Option.some.inj (waiting.symm.trans registered)
  rw [Channel.wakeUp_eq]
  unfold timeoutCalls
  by_cases late : (decide (command.timeoutMsec ≠ 0) && timedOut) = true
  · rw [if_pos late, late, Bool.true_and]
    cases given : s.channel.sOnTimeout <;> simp [given, settle, Channel.clearPendingCommand]
  · rw [if_neg late]
    simp only [late, Bool.false_and, Bool.false_eq_true, if_false, List.append_nil]
    unfold Channel.waitForFinalResponse
    cases s.channel.spResponse with
    | none => rfl
    | some response =>
        simp only
        split_ifs <;> rfl

/-- The command still takes the line, with these lines collected in front of its final
one. -/
def Command.stillTakes (command : Command) (lines : List CString) (line : CString) : Bool :=
  isFinalResponse line ||
    (command.smspdu.isSome && decide (smsPrompt ∉ lines) && line == smsPrompt) ||
    keeps command.type command.responsePrefix
      (intermediates command.type command.responsePrefix (answerLines command.smspdu lines)) line

/-- What the call returns and what the handler gets are those of the lines up to the
first final one; the lines behind it all reach the handler. -/
structure Unaffected (before after : Threads) (thread : Nat) (command : Command)
    (lines : List CString) (final : CString) (gap : List CString) (timedOut : Bool) : Prop where
  result : after.results thread = some (
    if command.timeoutMsec ≠ 0 && timedOut then (atErrorTimeout, none)
    else (0, if command.wantsResponse then some ⟨isFinalResponseSuccess final, some final,
      intermediates command.type command.responsePrefix (answerLines command.smspdu lines)⟩
    else none))
  delivered : after.channel.callbacks = before.channel.callbacks ++
    unsolicitedCalls before.channel.sUnsolHandler
      (unsolicitedLines command.type command.responsePrefix (answerLines command.smspdu lines) ++
        gap) ++ timeoutCalls before.channel.sOnTimeout command timedOut

/-- The end of the wait finds the response of the final line. -/
theorem Threads.wake_stored {s s' : Threads} {thread : Nat} {command : Command} {timedOut : Bool}
    {lines : List CString} {final : CString} (waiting : s.waiting thread = some command)
    (pending : s.channel.spResponse = some (storedResponse command lines final))
    (readerOpen : s.channel.sReaderClosed = false)
    (stepped : s.step (.wake thread timedOut) = some s') :
    s'.results thread = some (
      if command.timeoutMsec ≠ 0 && timedOut then (atErrorTimeout, none)
      else (0, if command.wantsResponse then some ⟨isFinalResponseSuccess final, some final,
        intermediates command.type command.responsePrefix (answerLines command.smspdu lines)⟩
      else none)) := by
  obtain ⟨-, own, registered, rfl⟩ := Threads.step_wake stepped
  obtain rfl : command = own := Option.some.inj (waiting.symm.trans registered)
  rw [Channel.wakeUp_eq]
  by_cases late : (decide (command.timeoutMsec ≠ 0) && timedOut) = true
  · rw [if_pos late, if_pos late]
    simp [settle]
  · rw [if_neg late, Channel.waitForFinalResponse_done pending rfl, if_neg late]
    simp [Channel.finishCommand, settle, readerOpen, storedResponse, reverseIntermediates_eq]

/-- A thread that waits behind the lines has waited all the way. -/
theorem waits_until_final {before sent last : Threads} {thread : Nat} {command own : Command}
    (prefixed : command.Prefixed) {events : List ThreadEvent}
    (unfinished : ∀ event ∈ events, event.Unfinished thread) {final : CString} {gap : List CString}
    (sending : before.step (.send thread false command) = some sent)
    (ran : run Threads.step sent (events ++ .reader (.line final) :: lineEvents gap) = some last)
    (lastWaiting : last.waiting thread = some own) :
    ∃ now, run Threads.step now (.reader (.line final) :: lineEvents gap) = some last ∧
      Waits before thread command (events.filterMap ThreadEvent.text) now := by
  have ownLines : ∀ event ∈ ThreadEvent.reader (.line final) :: lineEvents gap,
      event.Unfinished thread ∨ ∃ line, event = .reader (.line line) := by
    intro event member
    rcases List.mem_cons.mp member with rfl | inGap
    · exact Or.inr ⟨final, rfl⟩
    · obtain ⟨line, -, rfl⟩ := List.mem_map.mp inGap
      exact Or.inr ⟨line, rfl⟩
  have sentWaiting : sent.waiting thread ≠ none := by
    intro gone
    have everyEvent (event : ThreadEvent) (member : event ∈ events ++
        (ThreadEvent.reader (.line final) :: lineEvents gap)) :
        event.Unfinished thread ∨ ∃ line, event = .reader (.line line) := by
      rcases List.mem_append.mp member with front | behind
      · exact Or.inl (unfinished event front)
      · exact ownLines event behind
    have never := Threads.gone_of_run everyEvent gone ran
    rw [lastWaiting] at never
    cases never
  have started := Waits.start sending sentWaiting
  rw [run_append] at ran
  obtain ⟨now, front, ran⟩ := Option.bind_eq_some_iff.mp ran
  rcases started.run prefixed unfinished front with waits | gone
  · exact ⟨now, ran, waits⟩
  · have never := Threads.gone_of_run ownLines gone ran
    rw [lastWaiting] at never
    cases never

/-- **The response of a command is that of its first final line, and the lines behind it
are not swallowed, exactly if the pending command takes none of them.** Without a handler
there is nothing to swallow, and the condition is enough. -/
theorem unaffected_iff {before after : Threads} {thread : Nat} {command : Command}
    (prefixed : command.Prefixed) {events : List ThreadEvent}
    (unfinished : ∀ event ∈ events, event.Unfinished thread) {final : CString}
    (finished : isFinalResponse final = true) {gap : List CString} {timedOut : Bool}
    (ran : run Threads.step before (.send thread false command :: (events ++
      .reader (.line final) :: (lineEvents gap ++ [.wake thread timedOut]))) = some after) :
    let lines := events.filterMap ThreadEvent.text
    ((∀ line ∈ gap, command.stillTakes lines line = false) →
      Unaffected before after thread command lines final gap timedOut) ∧
    (before.channel.sUnsolHandler = true →
      Unaffected before after thread command lines final gap timedOut →
        ∀ line ∈ gap, command.stillTakes lines line = false) := by
  intro lines
  rw [run_cons] at ran
  obtain ⟨sent, sending, ran⟩ := Option.bind_eq_some_iff.mp ran
  have split : events ++ ThreadEvent.reader (.line final) :: (lineEvents gap ++
      [.wake thread timedOut]) = events ++ ThreadEvent.reader (.line final) :: lineEvents gap ++
        [.wake thread timedOut] := by simp
  rw [split, run_concat] at ran
  obtain ⟨last, ran, waking⟩ := Option.bind_eq_some_iff.mp ran
  obtain ⟨alive, own, lastWaiting, -⟩ := Threads.step_wake waking
  obtain ⟨now, ran, waits⟩ := waits_until_final prefixed unfinished sending ran lastWaiting
  change Waits before thread command lines now at waits
  -- the final line, and the lines behind it
  rw [run_cons, Threads.step_line waits.alive (waits.collected.final finished)] at ran
  obtain ⟨channel, processed, rfl⟩ := Threads.run_lines ran alive
  obtain rfl : command = own := Option.some.inj (waits.waiting.symm.trans lastWaiting)
  have collected := waits.collected
  obtain ⟨stored, shape⟩ : ∃ stored : Channel, stored =
      { now.channel with spResponse := some (storedResponse command lines final) } := ⟨_, rfl⟩
  rw [← shape] at processed
  have type : stored.sType = command.type := shape ▸ collected.type
  have responsePrefix : stored.sResponsePrefix = command.responsePrefix :=
    shape ▸ collected.responsePrefix
  have pending : stored.spResponse = some (storedResponse command lines final) := shape ▸ rfl
  have takes : ∀ line, stored.takes (storedResponse command lines final) line =
      command.stillTakes lines line := by
    intro line
    have smsPdu : stored.sSmsPdu = if smsPrompt ∈ lines then none else command.smspdu :=
      shape ▸ collected.smsPdu
    simp only [Channel.takes, Command.stillTakes, smsPdu, type, responsePrefix, storedResponse,
      keeps_reverse]
    by_cases prompted : smsPrompt ∈ lines <;> simp [prompted]
  have called := Threads.wake_callbacks lastWaiting waking
  constructor
  · intro passed
    have same := Channel.processLines_passed prefixed type responsePrefix pending
      fun line member => (takes line).trans (passed line member)
    rw [same, Option.some.injEq] at processed
    subst processed shape
    refine ⟨Threads.wake_stored lastWaiting rfl collected.readerOpen waking, ?_⟩
    rw [called]
    simp only [collected.callbacks, collected.handler, waits.onTimeout, unsolicitedCalls_append,
      List.append_assoc]
  · intro handler unaffected line member
    rw [← takes line]
    have onTimeout : channel.sOnTimeout = before.channel.sOnTimeout :=
      (Channel.processLines_onTimeout processed).trans (shape ▸ waits.onTimeout)
    have callbacks : stored.callbacks = now.channel.callbacks := shape ▸ rfl
    have delivered := unaffected.delivered
    rw [called, onTimeout] at delivered
    have counted := congrArg List.length (List.append_cancel_right delivered)
    refine Channel.passed_of_callbacks prefixed type responsePrefix pending
      (shape ▸ collected.handler.trans handler) processed ?_ line member
    simpa [callbacks, collected.callbacks, unsolicitedCalls, handler, Nat.add_assoc] using counted

/-- An open channel with a handler, and nobody waits. -/
def openThreads : Threads := { Threads.initial with channel := Channel.initial.atOpen 3 [] true }

/-- The thread has asked for the IMSI, was woken in vain, and these lines are processed
behind the final one before it gets the mutex. -/
def imsiRun (gap : List CString) : List ThreadEvent :=
  .send 1 false imsiCommand ::
    ([.reader (.line (ascii "460001")), .wake 1 false] ++
      .reader (.line (ascii "OK")) :: (lineEvents gap ++ [.wake 1 false]))

theorem unaffected_ring : ∃ after, run Threads.step openThreads (imsiRun [ascii "RING"]) =
    some after ∧ Unaffected openThreads after 1 imsiCommand [ascii "460001"] (ascii "OK")
      [ascii "RING"] false := by
  have prefixed : imsiCommand.Prefixed := by
    rintro (single | multi)
    · cases single
    · cases multi
  have unfinished : ∀ event ∈
      [ThreadEvent.reader (.line (ascii "460001")), ThreadEvent.wake 1 false],
      event.Unfinished 1 := by
    intro event member
    simp only [List.mem_cons, List.not_mem_nil, or_false] at member
    rcases member with rfl | rfl
    · exact (by decide : isFinalResponse (ascii "460001") = false)
    · exact (rfl : (1 : Nat) = 1)
  exact ⟨_, rfl, (unaffected_iff prefixed unfinished (by decide) rfl).1 (by decide)⟩

/-- The same with an unsolicited NO CARRIER: the caller gets it as its final response. -/
theorem noCarrier_affects : ∃ after,
    run Threads.step openThreads (imsiRun [ascii "NO CARRIER"]) = some after ∧
      after.results 1 = some (0, some ⟨false, some (ascii "NO CARRIER"), [ascii "460001"]⟩) ∧
      after.channel.callbacks = [] ∧
      ¬ Unaffected openThreads after 1 imsiCommand [ascii "460001"] (ascii "OK")
        [ascii "NO CARRIER"] false := by
  refine ⟨_, rfl, by decide +kernel, by decide +kernel, fun unaffected => ?_⟩
  exact absurd unaffected.result (by decide +kernel)

end RildHisi.AtChannel
