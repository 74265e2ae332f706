import RildHisi.Daemon.HandlerRuns
import RildHisi.ReferenceRil.HandlerScope

/-!
Owns what the commands of a handler get back from the channel, whatever the reader thread
reads and whenever the channel is closed.

`Awaits` is kept by everything the other threads do while a command waits. A response
that a handler acts on is therefore one of its own command: with a final line, and with
intermediate lines of the command's type. The channel is idle behind each command.
-/

namespace RildHisi.Daemon

open RildHisi.AtChannel RildHisi.Library RildHisi.Libril RildHisi.ReferenceRil

/-! ### While a command waits -/

/-- A response as a command of this type collects it, the last intermediate first. -/
structure Shaped (type : AtCommandType) (responsePrefix : Option CString)
    (response : AtResponse) : Prop where
  final : ∀ final ∈ response.finalResponse, isFinalResponse final = true
  success : response.success = response.finalResponse.any isFinalResponseSuccess
  kept : ∀ line ∈ response.pIntermediates, isIntermediate type responsePrefix line = true
  single : type = .multiline ∨ response.pIntermediates.length ≤ 1

theorem shaped_new (type : AtCommandType) (responsePrefix : Option CString) :
    Shaped type responsePrefix atResponseNew :=
  ⟨by simp [atResponseNew], rfl, by simp [atResponseNew], Or.inr (Nat.zero_le 1)⟩

/-- A line of the type joins the others. -/
theorem Shaped.add {command : Command} {response : AtResponse} {line : CString}
    (shaped : Shaped command.type command.responsePrefix response)
    (keep : keeps command.type command.responsePrefix response.pIntermediates line = true) :
    Shaped command.type command.responsePrefix
      { response with pIntermediates := line :: response.pIntermediates } := by
  obtain ⟨kept, single⟩ := Bool.and_eq_true_iff.mp keep
  refine ⟨shaped.final, shaped.success, ?_, ?_⟩
  · intro other member
    rcases List.mem_cons.mp member with rfl | earlier
    · exact kept
    · exact shaped.kept other earlier
  · by_cases multiline : command.type = .multiline
    · exact Or.inl multiline
    · have empty : response.pIntermediates = [] := by simpa [multiline] using single
      exact Or.inr (by simp [empty])

/-- The channel collects the response of the command. -/
structure Awaits (command : Command) (chan : Channel) : Prop where
  type : chan.sType = command.type
  responsePrefix : chan.sResponsePrefix = command.responsePrefix
  response : ∃ response ∈ chan.spResponse, Shaped command.type command.responsePrefix response

section Awaits

variable {command : Command} {chan : Channel} {response : AtResponse}

theorem awaits_start (command : Command) (chan : Channel) :
    Awaits command (chan.startCommand command) :=
  ⟨rfl, rfl, atResponseNew, rfl, shaped_new _ _⟩

/-- A final line, also one behind another. -/
theorem Awaits.final (awaits : Awaits command chan)
    (shaped : Shaped command.type command.responsePrefix response) (line : CString)
    (final : isFinalResponse line = true) :
    Awaits command (chan.handleFinalResponse
      { response with success := isFinalResponseSuccess line } line) := by
  refine ⟨awaits.type, awaits.responsePrefix, _, rfl, ?_, rfl, shaped.kept, shaped.single⟩
  intro other same
  obtain rfl : line = other := Option.some.inj same
  exact final

/-- Every line that the reader processes leaves the command waiting. -/
theorem Awaits.processLine (awaits : Awaits command chan) (prefixed : command.Prefixed)
    (line : CString) : ∃ next, chan.processLine line = some next ∧ Awaits command next := by
  obtain ⟨response, pending, shaped⟩ := awaits.response
  by_cases final : isFinalResponse line = true
  · refine ⟨_, ?_, awaits.final shaped line final⟩
    unfold Channel.processLine
    rw [Option.mem_def.mp pending]
    cases success : isFinalResponseSuccess line with
    | true => rfl
    | false =>
        have error : isFinalResponseError line = true := by
          simpa [isFinalResponse, success] using final
        simp [error]
  have unfinished := Bool.eq_false_iff.mpr final
  by_cases prompt : (chan.sSmsPdu.isSome && line == smsPrompt) = true
  · obtain ⟨noSuccess, noError⟩ := Bool.or_eq_false_iff.mp unfinished
    obtain ⟨script, written, frame⟩ := chan.writeTerminated_frame (chan.sSmsPdu.getD []) 26
    refine ⟨{ (chan.writeCtrlZ (chan.sSmsPdu.getD [])).2 with sSmsPdu := none }, ?_, ?_⟩
    · unfold Channel.processLine
      rw [Option.mem_def.mp pending]
      simp only [noSuccess, noError, prompt, Bool.false_eq_true, if_false, if_true]
    · rw [Channel.writeCtrlZ, frame]
      exact ⟨awaits.type, awaits.responsePrefix, response, pending, shaped⟩
  · refine ⟨_, Channel.processLine_switch prefixed awaits.type awaits.responsePrefix pending
      unfinished (Bool.eq_false_iff.mpr prompt), ?_⟩
    split_ifs with keep
    · exact ⟨awaits.type, awaits.responsePrefix, _, rfl, shaped.add keep⟩
    · rw [Channel.handleUnsolicited_eq]
      exact ⟨awaits.type, awaits.responsePrefix, response, pending, shaped⟩

theorem Awaits.handleEvent (awaits : Awaits command chan) (prefixed : command.Prefixed)
    (event : ReaderEvent) :
    ∃ next, chan.handleEvent event = some next ∧ Awaits command next := by
  cases event with
  | line text => exact awaits.processLine prefixed text
  | readerClosed =>
      refine ⟨_, rfl, ?_⟩
      unfold Channel.onReaderClosed
      split_ifs
      · exact ⟨awaits.type, awaits.responsePrefix, awaits.response⟩
      · exact awaits
  | closed => exact ⟨_, rfl, awaits.type, awaits.responsePrefix, awaits.response⟩

theorem Awaits.handleEvents (awaits : Awaits command chan) (prefixed : command.Prefixed)
    (events : List ReaderEvent) :
    ∃ next, events.foldlM Channel.handleEvent chan = some next ∧ Awaits command next := by
  induction events generalizing chan with
  | nil => exact ⟨chan, rfl, awaits⟩
  | cons event events inductionHypothesis =>
      obtain ⟨next, stepped, kept⟩ := awaits.handleEvent prefixed event
      obtain ⟨last, ran, keptLast⟩ := inductionHypothesis kept
      refine ⟨last, ?_, keptLast⟩
      rw [List.foldlM_cons, stepped]
      exact ran

end Awaits

/-! ### Closing -/

/-- Nothing more is written. -/
def Shut (chan : Channel) : Prop := chan.sFd < 0 ∨ chan.sReaderClosed = true

theorem Shut.handleEvent {chan next : Channel} {event : ReaderEvent} (shut : Shut chan)
    (stepped : chan.handleEvent event = some next) : Shut next := by
  cases event with
  | line text =>
      rcases Channel.processLine_cases stepped with rfl | ⟨response, rfl⟩ | ⟨response, rfl⟩ | rfl
      · rw [Channel.handleUnsolicited_eq]
        exact shut
      · exact shut
      · exact shut
      · obtain ⟨script, written, frame⟩ := chan.writeTerminated_frame (chan.sSmsPdu.getD []) 26
        rw [Channel.writeCtrlZ, frame]
        exact shut
  | readerClosed =>
      obtain rfl := Option.some.inj stepped
      unfold Channel.onReaderClosed
      split_ifs
      · exact Or.inr rfl
      · exact shut
  | closed =>
      obtain rfl := Option.some.inj stepped
      exact Or.inr rfl

theorem Shut.handleEvents {events : List ReaderEvent} {chan next : Channel} (shut : Shut chan)
    (ran : events.foldlM Channel.handleEvent chan = some next) : Shut next := by
  induction events generalizing chan with
  | nil =>
      obtain rfl := Option.some.inj ran
      exact shut
  | cons event events inductionHypothesis =>
      rw [List.foldlM_cons] at ran
      obtain ⟨middle, stepped, behind⟩ := Option.bind_eq_some_iff.mp ran
      exact inductionHypothesis (shut.handleEvent stepped) behind

/-! ### What a command returns -/

/-- What an untimed command on an idle channel comes back with. -/
structure Answers (command : Command) (err : Int) (response : Option AtResponse) : Prop where
  codes : err = 0 ∨ err = atErrorGeneric ∨ err = atErrorChannelClosed
  answered : err = 0 → command.wantsResponse = true → ∃ answer final, response = some answer ∧
    answer.finalResponse = some final ∧ isFinalResponse final = true ∧
    answer.success = isFinalResponseSuccess final ∧
    (∀ line ∈ answer.pIntermediates,
      isIntermediate command.type command.responsePrefix line = true) ∧
    (command.type = .multiline ∨ answer.pIntermediates.length ≤ 1)

/-- A command that ends otherwise than by a crash: it waits, or it returns on a channel that
is idle again. -/
def Ends (command : Command) (shutBefore : Prop) : SendResult → Prop
  | .returned err response chan => Answers command err response ∧ chan.spResponse = none ∧
      (shutBefore → err = atErrorChannelClosed) ∧ (err = atErrorChannelClosed → Shut chan)
  | .waiting _ => ¬ shutBefore
  | .crashed => False

theorem answers_failed (command : Command) {err : Int}
    (code : err = atErrorGeneric ∨ err = atErrorChannelClosed) : Answers command err none := by
  refine ⟨Or.inr code, ?_⟩
  rintro rfl
  rcases code with generic | closed
  · exact absurd generic (by decide)
  · exact absurd closed (by decide)

/-- Behind the wait. -/
theorem Awaits.finishCommand {command : Command} {chan : Channel} {response : AtResponse}
    (shaped : Shaped command.type command.responsePrefix response)
    (ended : (response.finalResponse.isNone && !chan.sReaderClosed) = false) :
    Ends command False (chan.finishCommand response command.wantsResponse) := by
  cases closed : chan.sReaderClosed with
  | true =>
      unfold Channel.finishCommand
      rw [closed]
      refine ⟨⟨Or.inr (Or.inr rfl), ?_⟩, rfl, False.elim, fun _ => Or.inr closed⟩
      intro zero
      exact absurd zero (by decide)
  | false =>
      obtain ⟨final, finished⟩ : ∃ final, response.finalResponse = some final := by
        simpa [closed, Option.isSome_iff_exists] using ended
      unfold Channel.finishCommand
      rw [closed]
      refine ⟨⟨Or.inl rfl, fun _ wants => ?_⟩, rfl, False.elim, fun same => ?_⟩
      · refine ⟨_, final, if_pos wants, finished, shaped.final final finished, ?_, ?_, ?_⟩
        · rw [shaped.success, finished]
          rfl
        · intro line member
          rw [reverseIntermediates_eq, List.append_nil] at member
          exact shaped.kept line (List.mem_reverse.mp member)
        · rw [reverseIntermediates_eq, List.append_nil, List.length_reverse]
          exact shaped.single
      · exact absurd same (by decide)

/-- The wait for the final response of a command without a timeout. -/
theorem Awaits.waitForFinalResponse {command : Command} {chan : Channel}
    (awaits : Awaits command chan) (prefixed : command.Prefixed) (waits : List Wait) :
    Ends command False
      (Channel.waitForFinalResponse 0 command.wantsResponse chan waits) := by
  induction waits generalizing chan with
  | nil =>
      obtain ⟨response, pending, shaped⟩ := awaits.response
      unfold Channel.waitForFinalResponse
      rw [Option.mem_def.mp pending]
      dsimp only
      split
      · exact not_false
      case isFalse ended => exact Awaits.finishCommand shaped (Bool.eq_false_iff.mpr ended)
  | cons wait waits inductionHypothesis =>
      obtain ⟨response, pending, shaped⟩ := awaits.response
      unfold Channel.waitForFinalResponse
      rw [Option.mem_def.mp pending]
      dsimp only
      split
      · obtain ⟨next, ran, kept⟩ := awaits.handleEvents prefixed wait.events
        rw [ran]
        exact inductionHypothesis kept
      case isFalse ended => exact Awaits.finishCommand shaped (Bool.eq_false_iff.mpr ended)

/-- A write on a channel that is shut is refused, and only there with this code. -/
theorem writeTerminated_shut (chan : Channel) (s : CString) (terminator : UInt8) :
    ((chan.writeTerminated s terminator).1 = 0 ∧ ¬ Shut chan) ∨
      ((chan.writeTerminated s terminator).1 = atErrorGeneric ∧ ¬ Shut chan) ∨
      ((chan.writeTerminated s terminator).1 = atErrorChannelClosed ∧ Shut chan) := by
  unfold Channel.writeTerminated Shut
  by_cases guard : (decide (chan.sFd < 0) || chan.sReaderClosed) = true
  · rw [if_pos guard]
    exact Or.inr (Or.inr ⟨rfl, by simpa using guard⟩)
  · rw [if_neg guard]
    have opened : ¬ (chan.sFd < 0 ∨ chan.sReaderClosed = true) := by simpa using guard
    simp only [Channel.writeBytes]
    by_cases first : (writeLoop chan.script s).complete <;>
      by_cases second : (writeLoop (writeLoop chan.script s).script [terminator]).complete <;>
        simp [first, second, opened]

/-- **An untimed command on an idle channel.** -/
theorem atSendCommandFull_ends {chan : Channel} {command : Command} (untimed : Untimed command)
    (idle : chan.spResponse = none) (waits : List Wait) :
    Ends command (Shut chan) (chan.atSendCommandFull false command waits) := by
  have sent := writeTerminated_shut chan command.command 13
  obtain ⟨script, written, frame⟩ := chan.writeTerminated_frame command.command 13
  have nolock : Ends command (Shut chan) (chan.atSendCommandFullNolock command waits) := by
    unfold Channel.atSendCommandFullNolock Channel.writeline
    rw [idle]
    dsimp only [Option.isSome_none]
    rw [if_neg Bool.false_ne_true]
    rcases sent with ⟨done, opened⟩ | ⟨failed, opened⟩ | ⟨refused, shut⟩
    · rw [if_neg (by rw [done]; decide), untimed.2]
      have waited := (awaits_start command (chan.writeTerminated command.command 13).2
        ).waitForFinalResponse untimed.1 waits
      cases came : Channel.waitForFinalResponse 0 command.wantsResponse
          ((chan.writeTerminated command.command 13).2.startCommand command) waits with
      | returned err response after =>
          rw [came] at waited
          exact ⟨waited.1, waited.2.1, fun shut => absurd shut opened, waited.2.2.2⟩
      | waiting after => exact opened
      | crashed =>
          rw [came] at waited
          exact waited
    · rw [if_pos (by rw [failed]; decide), failed]
      refine ⟨answers_failed command (Or.inl rfl), rfl, fun shut => absurd shut opened, ?_⟩
      intro same
      exact absurd same (by decide)
    · rw [if_pos (by rw [refused]; decide), refused, frame]
      exact ⟨answers_failed command (Or.inr rfl), rfl, fun _ => rfl, fun _ => shut⟩
  unfold Channel.atSendCommandFull
  rw [if_neg Bool.false_ne_true]
  cases came : chan.atSendCommandFullNolock command waits with
  | returned err response after =>
      rw [came] at nolock
      have inTime : err ≠ atErrorTimeout := by
        rcases nolock.1.codes with rfl | rfl | rfl <;> decide
      simp only [inTime, decide_false, Bool.false_and, Bool.false_eq_true, if_false]
      exact nolock
  | waiting after =>
      rw [came] at nolock
      exact nolock
  | crashed =>
      rw [came] at nolock
      exact nolock

/-! ### What a handler gets -/

/-- Between the commands lines go to the unsolicited handler. -/
theorem handleEvents_idle {chan : Channel} (idle : chan.spResponse = none)
    (events : List ReaderEvent) :
    ∃ next, events.foldlM Channel.handleEvent chan = some next ∧ next.spResponse = none := by
  induction events generalizing chan with
  | nil => exact ⟨chan, rfl, idle⟩
  | cons event events inductionHypothesis =>
      have stepped : ∃ next, chan.handleEvent event = some next ∧ next.spResponse = none := by
        cases event with
        | line text =>
            refine ⟨chan.handleUnsolicited text, ?_, ?_⟩
            · show chan.processLine text = _
              unfold Channel.processLine
              rw [idle]
            · rw [Channel.handleUnsolicited_eq]
              exact idle
        | readerClosed =>
            refine ⟨_, rfl, ?_⟩
            unfold Channel.onReaderClosed
            split_ifs
            · exact idle
            · exact idle
        | closed => exact ⟨_, rfl, idle⟩
      obtain ⟨next, step, quiet⟩ := stepped
      obtain ⟨last, ran, quietLast⟩ := inductionHypothesis quiet
      refine ⟨last, ?_, quietLast⟩
      rw [List.foldlM_cons, step]
      exact ran

theorem CommandEvents.send_ends {chan : Channel} {command : Command} (untimed : Untimed command)
    (idle : chan.spResponse = none) (events : CommandEvents) :
    Ends command (Shut chan) (events.send command chan) := by
  obtain ⟨next, ran, quiet⟩ := handleEvents_idle idle events.before
  have ends := atSendCommandFull_ends untimed quiet events.waits
  unfold CommandEvents.send
  rw [ran]
  dsimp only
  cases came : next.atSendCommandFull false command events.waits with
  | returned err response after =>
      rw [came] at ends
      exact ⟨ends.1, ends.2.1, fun shut => ends.2.2.1 (shut.handleEvents ran), ends.2.2.2⟩
  | waiting after =>
      rw [came] at ends
      exact fun shut => ends (shut.handleEvents ran)
  | crashed =>
      rw [came] at ends
      exact ends

theorem resultOf_err {command : Command} {err : Int} {response : Option AtResponse}
    (answers : Answers command err response) : (resultOf err response).err = err := by
  unfold resultOf
  split_ifs with stored
  · rfl
  · have codes := answers.codes
    simp only [not_or, atErrorGeneric, atErrorChannelClosed] at *
    omega

/-- The caller finds what the channel gave back. -/
theorem answers_resultOf {command : Command} {err : Int} {response : Option AtResponse}
    (answers : Answers command err response) :
    Answers command (resultOf err response).err (resultOf err response).pResponse := by
  rw [resultOf_err answers]
  refine ⟨answers.codes, fun zero wants => ?_⟩
  obtain ⟨answer, final, rfl, rest⟩ := answers.answered zero wants
  refine ⟨answer, final, ?_, rest⟩
  unfold resultOf
  rw [dif_pos (Or.inl ⟨zero, rfl⟩)]

/-- What a handler meets on a channel: it is not crashed, each of its commands gets its own
answer, all that follow one that found the channel closed find it closed, and none is
pending behind the run. -/
structure Conducted {α : Type} (shutBefore : Prop) (run : HandlerRun α) : Prop where
  uncrashed : run.ended ≠ .crashed
  answers : ∀ exchange ∈ run.exchanges,
    Answers exchange.1 exchange.2.err exchange.2.pResponse
  closed : run.exchanges.Pairwise fun earlier later =>
    earlier.2.err = atErrorChannelClosed → later.2.err = atErrorChannelClosed
  refused : shutBefore → run.ended ≠ .waiting ∧
    ∀ exchange ∈ run.exchanges, exchange.2.err = atErrorChannelClosed
  idle : run.ended = .waiting ∨ run.chan.spResponse = none

theorem runOn_conducted {α : Type} {handler : Handler α} {completes : Completion → Prop}
    (within : handler.Within Untimed completes)
    {chan : Channel} (idle : chan.spResponse = none) (environment : Environment) :
    Conducted (Shut chan) (runOn handler chan environment) := by
  induction handler generalizing chan environment with
  | done result =>
      exact ⟨by simp [runOn], by simp [runOn], .nil, fun _ => by simp [runOn], Or.inr idle⟩
  | fault cause =>
      exact ⟨by simp [runOn], by simp [runOn], .nil, fun _ => by simp [runOn], Or.inr idle⟩
  | send command next inductionHypothesis =>
      have ends := (environment.commands 0).send_ends within.1 idle
      unfold runOn
      cases came : (environment.commands 0).send command chan with
      | crashed =>
          rw [came] at ends
          exact absurd ends not_false
      | waiting after =>
          rw [came] at ends
          exact ⟨by simp, by simp, .nil, fun shut => absurd shut ends, Or.inl rfl⟩
      | returned err response after =>
          rw [came] at ends
          obtain ⟨answers, quiet, refused, shut⟩ := ends
          have rest := inductionHypothesis (resultOf err response) (within.2 _) quiet
            environment.answered
          have code := resultOf_err answers
          refine ⟨rest.uncrashed, ?_, ?_, ?_, rest.idle⟩
          · intro exchange member
            rcases List.mem_cons.mp member with rfl | later
            · exact answers_resultOf answers
            · exact rest.answers exchange later
          · refine List.Pairwise.cons (fun later member closed => ?_) rest.closed
            exact (rest.refused (shut (code.symm.trans closed))).2 later member
          · intro shutBefore
            have closed := refused shutBefore
            obtain ⟨notWaiting, others⟩ := rest.refused (shut closed)
            refine ⟨notWaiting, fun exchange member => ?_⟩
            rcases List.mem_cons.mp member with rfl | later
            · exact code.trans closed
            · exact others exchange later
  | readState next inductionHypothesis =>
      exact inductionHypothesis _ (within _) idle environment.looked
  | openQmi next inductionHypothesis => exact inductionHypothesis _ (within _) idle environment
  | complete completion next inductionHypothesis =>
      have rest := inductionHypothesis within.2 idle environment
      exact ⟨rest.uncrashed, rest.answers, rest.closed, rest.refused, rest.idle⟩
  | perform effect next inductionHypothesis =>
      have rest := inductionHypothesis within idle environment
      exact ⟨rest.uncrashed, rest.answers, rest.closed, rest.refused, rest.idle⟩

/-- **A request over the AT channel.** Whatever lines the reader processes while the
commands of a request wait, and whenever the channel is closed: the request completes as its
handler does in some surroundings; atchannel.c does not crash; a command that succeeds gets
a final line and intermediate lines of its own type; once one finds the channel closed,
all do; and the channel is idle behind a request that ends. -/
theorem onRequest_over_channel (abi : Abi) (call : OnRequest) (chan : Channel)
    (environment : Environment) (later : Nat → AtResult) (idle : chan.spResponse = none) :
    Refines (runOn (onRequest abi call) chan environment) (onRequest abi call)
        ((runOn (onRequest abi call) chan environment).around environment later) ∧
      Conducted (Shut chan) (runOn (onRequest abi call) chan environment) :=
  ⟨runOn_refines _ chan environment later,
    runOn_conducted (onRequest_within abi call) idle environment⟩

/-- A channel behind `at_open`. -/
def openChannel : Channel := Channel.initial.atOpen 3 [] true

/-- The modem answers, with a line of its own in between. -/
def imeiEnvironment : Environment where
  commands := fun _ =>
    ⟨[.line (ascii "RING")], [⟨[.line (ascii "+CREG: 1"), .line (ascii "004999")], false⟩,
      ⟨[.line (ascii "OK")], false⟩]⟩
  states := fun _ => .simReady
  qmi := none

/-- What a command behind the run would get. -/
def closedResult : AtResult := ⟨atErrorChannelClosed, none, Or.inr (by decide)⟩

theorem imei_over_channel :
    let run := runOn (onRequest .lp64 ⟨.getImei, .null, 0, 16⟩) openChannel imeiEnvironment
    run.completions.length = 1 ∧
      Refines run (onRequest .lp64 ⟨.getImei, .null, 0, 16⟩)
        (run.around imeiEnvironment fun _ => closedResult) ∧
      Conducted (Shut openChannel) run :=
  ⟨by decide +kernel,
    onRequest_over_channel .lp64 _ openChannel imeiEnvironment (fun _ => closedResult) rfl⟩

end RildHisi.Daemon
