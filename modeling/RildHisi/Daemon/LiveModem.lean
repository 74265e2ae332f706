import RildHisi.Daemon.CommandAnswers

/-!
Owns a request over an AT channel whose modem answers: it takes every write and ends every
command with a final line.

`onRequest_with_live_modem` says that every request then comes to an end, what it has put
on the wire, what each command gets back, and that no line of the modem is lost: each is an
answer to its command or goes to the unsolicited handler.
-/

namespace RildHisi.Daemon

open RildHisi.AtChannel RildHisi.Library RildHisi.Libril RildHisi.ReferenceRil

/-! ### Replies -/

/-- What the modem sends behind a command: lines, then the final one. -/
structure Reply where
  lines : List CString
  final : CString
  unfinished : ∀ line ∈ lines, isFinalResponse line = false
  finished : isFinalResponse final = true

namespace Reply

variable (reply : Reply) (command : Command)

/-- The response of the command. -/
def response : AtResponse :=
  ⟨isFinalResponseSuccess reply.final, some reply.final,
    intermediates command.type command.responsePrefix (answerLines command.smspdu reply.lines)⟩

/-- What its caller gets. -/
def result : AtResult :=
  ⟨0, some (if command.wantsResponse then reply.response command else atResponseNew),
    Or.inl ⟨rfl, rfl⟩⟩

/-- What the channel writes for the command: a line, and the PDU if it is asked for. -/
def written : List UInt8 := command.command ++ [13] ++ pduBytes command.smspdu reply.lines

/-- The lines that are no answer to the command. -/
def others : List CString :=
  unsolicitedLines command.type command.responsePrefix (answerLines command.smspdu reply.lines)

end Reply

/-- What happens around a command is that the modem sends some lines before it and then the
reply. -/
structure Brings (events : CommandEvents) (before : List CString) (reply : Reply) : Prop where
  before : events.before = before.map .line
  inTime : ∀ wait ∈ events.waits, wait.timedOut = false
  processed : events.waits.flatMap Wait.events = (reply.lines ++ [reply.final]).map .line

/-- The modem takes every write, and no command is pending. -/
structure Live (chan : Channel) : Prop where
  opened : 0 ≤ chan.sFd
  readerOpen : chan.sReaderClosed = false
  writes : NeverFails chan.script
  idle : chan.spResponse = none

/-! ### One command -/

/-- Lines that come while no command is pending. -/
theorem Live.lines {chan : Channel} (live : Live chan) (lines : List CString) :
    lines.foldlM Channel.processLine chan =
      some { chan with
        callbacks := chan.callbacks ++ unsolicitedCalls chan.sUnsolHandler lines } := by
  induction lines generalizing chan with
  | nil => simp [unsolicitedCalls]
  | cons line lines inductionHypothesis =>
      have stepped : chan.processLine line = some (chan.handleUnsolicited line) := by
        unfold Channel.processLine
        rw [live.idle]
      have behind : Live { chan with
          callbacks := chan.callbacks ++ unsolicitedCalls chan.sUnsolHandler [line] } :=
        ⟨live.opened, live.readerOpen, live.writes, live.idle⟩
      have rest := inductionHypothesis behind
      rw [List.foldlM_cons, stepped, Channel.handleUnsolicited_eq]
      refine Eq.trans rest ?_
      rw [List.append_assoc, ← unsolicitedCalls_append]
      rfl

/-- An untimed command to a live modem gets its reply. -/
theorem Live.send {chan : Channel} (live : Live chan) {command : Command}
    (untimed : Untimed command) {events : CommandEvents} {before : List CString} {reply : Reply}
    (brings : Brings events before reply) :
    ∃ after response, events.send command chan = .returned 0 response after ∧
      resultOf 0 response = reply.result command ∧ Live after ∧
      after.sUnsolHandler = chan.sUnsolHandler ∧
      after.written = chan.written ++ reply.written command ∧
      after.callbacks = chan.callbacks ++
        unsolicitedCalls chan.sUnsolHandler (before ++ reply.others command) := by
  have arrived := live.lines before
  generalize front : ({ chan with
    callbacks := chan.callbacks ++ unsolicitedCalls chan.sUnsolHandler before } : Channel) = now
    at arrived
  have liveNow : Live now := by
    rw [← front]
    exact ⟨live.opened, live.readerOpen, live.writes, live.idle⟩
  obtain ⟨written, wrote, started⟩ :=
    Progress.start command liveNow.opened liveNow.readerOpen liveNow.writes
  obtain ⟨last, progress, waited⟩ := waitForFinalResponse_lines events.waits started
    liveNow.opened untimed.1 brings.inTime brings.processed reply.unfinished reply.finished
  rw [List.nil_append] at progress waited
  have sent : events.send command chan = .returned 0
      (if command.wantsResponse then some (reply.response command) else none)
      last.clearPendingCommand := by
    unfold CommandEvents.send
    rw [brings.before, handleEvents_lines, arrived]
    dsimp only
    unfold Channel.atSendCommandFull Channel.atSendCommandFullNolock
    simp only [Bool.false_eq_true, if_false, liveNow.idle, Option.isSome_none, wrote,
      Int.lt_irrefl, waited, Channel.finishCommand, progress.readerOpen, storedResponse,
      reverseIntermediates_eq, List.reverse_reverse, List.append_nil]
    simp [atErrorTimeout, Channel.clearPendingCommand, progress.readerOpen, Reply.response]
  refine ⟨_, _, sent, ?_, ?_, ?_, ?_, ?_⟩
  · unfold resultOf Reply.result
    cases command.wantsResponse <;> simp
  · refine ⟨?_, progress.readerOpen, progress.writes, rfl⟩
    show 0 ≤ last.sFd
    rw [progress.sFd]
    exact liveNow.opened
  · show last.sUnsolHandler = _
    rw [progress.handler, ← front]
  · show last.written = _
    rw [progress.written, ← front]
    rfl
  · show last.callbacks = _
    rw [progress.callbacks, ← front]
    dsimp only
    rw [List.append_assoc, ← unsolicitedCalls_append]
    rfl

/-! ### A whole request -/

/-- The modem of a run: the lines in front of each command, and its reply. -/
structure Modem where
  before : Nat → List CString
  replies : Nat → Reply

/-- Behind a command. -/
def Modem.answered (modem : Modem) : Modem :=
  ⟨fun n => modem.before (n + 1), fun n => modem.replies (n + 1)⟩

/-- What the commands of a run put on the wire. -/
def Modem.written (modem : Modem) : List (Command × AtResult) → List UInt8
  | [] => []
  | exchange :: exchanges =>
      (modem.replies 0).written exchange.1 ++ modem.answered.written exchanges

/-- The lines that are no answer to the commands of a run. -/
def Modem.others (modem : Modem) : List (Command × AtResult) → List CString
  | [] => []
  | exchange :: exchanges =>
      modem.before 0 ++ (modem.replies 0).others exchange.1 ++ modem.answered.others exchanges

/-- What a handler comes to with a modem that answers. -/
structure Answered {α : Type} (modem : Modem) (chan : Channel) (run : HandlerRun α) : Prop where
  ends : (∃ result, run.ended = .done result) ∨ ∃ cause, run.ended = .fault cause
  results : ∀ n exchange, run.exchanges[n]? = some exchange →
    exchange.2 = (modem.replies n).result exchange.1
  written : run.chan.written = chan.written ++ modem.written run.exchanges
  callbacks : run.chan.callbacks =
    chan.callbacks ++ unsolicitedCalls chan.sUnsolHandler (modem.others run.exchanges)
  live : Live run.chan

theorem answered_ended {α : Type} {modem : Modem} {chan : Channel} (live : Live chan)
    {ended : RunEnd α} (ends : (∃ result, ended = .done result) ∨ ∃ cause, ended = .fault cause) :
    Answered modem chan ⟨ended, chan, [], [], []⟩ := by
  refine ⟨ends, by simp, ?_, ?_, live⟩
  · simp [Modem.written]
  · cases handler : chan.sUnsolHandler <;> simp [unsolicitedCalls, Modem.others]

/-- A command in front of a run that is answered. -/
theorem Answered.exchanged {α : Type} {modem : Modem} {chan after : Channel} {run : HandlerRun α}
    (rest : Answered modem.answered after run) {command : Command}
    (handler : after.sUnsolHandler = chan.sUnsolHandler)
    (written : after.written = chan.written ++ (modem.replies 0).written command)
    (callbacks : after.callbacks = chan.callbacks ++ unsolicitedCalls chan.sUnsolHandler
      (modem.before 0 ++ (modem.replies 0).others command)) :
    Answered modem chan (run.exchanged command ((modem.replies 0).result command)) := by
  refine ⟨rest.ends, ?_, ?_, ?_, rest.live⟩
  · intro n exchange found
    cases n with
    | zero =>
        obtain rfl : (command, (modem.replies 0).result command) = exchange := by
          simpa [HandlerRun.exchanged] using found
        rfl
    | succ n => exact rest.results n exchange (by simpa [HandlerRun.exchanged] using found)
  · show run.chan.written = _
    rw [rest.written, written, List.append_assoc]
    rfl
  · show run.chan.callbacks = _
    rw [rest.callbacks, callbacks, handler, List.append_assoc, ← unsolicitedCalls_append]
    rfl

theorem runOn_answered {α : Type} {handler : Handler α} {completes : Completion → Prop}
    (within : handler.Within Untimed completes) {chan : Channel} (live : Live chan) {modem : Modem}
    {environment : Environment}
    (brings : ∀ n, Brings (environment.commands n) (modem.before n) (modem.replies n)) :
    Answered modem chan (runOn handler chan environment) := by
  induction handler generalizing chan modem environment with
  | done result => exact answered_ended live (Or.inl ⟨result, rfl⟩)
  | fault cause => exact answered_ended live (Or.inr ⟨cause, rfl⟩)
  | send command next inductionHypothesis =>
      obtain ⟨after, response, sent, result, liveAfter, handler, written, callbacks⟩ :=
        live.send within.1 (brings 0)
      have later : ∀ n, Brings (environment.answered.commands n) (modem.answered.before n)
          (modem.answered.replies n) := fun n => brings (n + 1)
      have rest := inductionHypothesis (resultOf 0 response) (within.2 _) liveAfter later
      unfold runOn
      rw [sent]
      dsimp only
      rw [result] at rest ⊢
      exact rest.exchanged handler written callbacks
  | readState next inductionHypothesis =>
      have later : ∀ n, Brings (environment.looked.commands n) (modem.before n)
          (modem.replies n) := brings
      exact inductionHypothesis _ (within _) live later
  | openQmi next inductionHypothesis => exact inductionHypothesis _ (within _) live brings
  | complete completion next inductionHypothesis =>
      have rest := inductionHypothesis within.2 live brings
      exact ⟨rest.ends, rest.results, rest.written, rest.callbacks, rest.live⟩
  | perform effect next inductionHypothesis =>
      have rest := inductionHypothesis within live brings
      exact ⟨rest.ends, rest.results, rest.written, rest.callbacks, rest.live⟩

/-- **A request to a live modem.** Whatever lines the modem sends of its own, every request
comes to an end; its commands are on the wire one line each, with the PDU behind the first
prompt, and nothing else is; each command gets the lines of its type and the final line of
its reply; and every other line has gone to the unsolicited handler, in order. -/
theorem onRequest_with_live_modem (abi : Abi) (call : OnRequest) {chan : Channel}
    (live : Live chan) {modem : Modem} {environment : Environment}
    (brings : ∀ n, Brings (environment.commands n) (modem.before n) (modem.replies n)) :
    Answered modem chan (runOn (onRequest abi call) chan environment) :=
  runOn_answered (onRequest_within abi call) live brings

/-- The modem of `imeiEnvironment`. -/
def imeiModem : Modem where
  before _ := [ascii "RING"]
  replies _ := ⟨[ascii "+CREG: 1", ascii "004999"], ascii "OK", by decide, by decide⟩

theorem imei_with_live_modem :
    (runOn (onRequest .lp64 ⟨.getImei, .null, 0, 16⟩) openChannel imeiEnvironment).chan.written =
        ascii "AT+CGSN" ++ [13] ∧
      Answered imeiModem openChannel
        (runOn (onRequest .lp64 ⟨.getImei, .null, 0, 16⟩) openChannel imeiEnvironment) :=
  ⟨by decide +kernel, onRequest_with_live_modem .lp64 _ ⟨by decide, rfl, by decide, rfl⟩
    fun _ => ⟨rfl, by simp [imeiEnvironment], rfl⟩⟩

end RildHisi.Daemon
