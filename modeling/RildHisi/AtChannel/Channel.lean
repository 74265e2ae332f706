import RildHisi.AtChannel.ReadBuffer
import RildHisi.Library.WriteLoop

/-!
Owns the AT channel of atchannel.c as the code computes it: its statics, the
line state machine `processLine`, `readerLoop`, and the `at_send_command`
functions with their wait for a final response.

Not embedded: the OMAP power ioctls and `AT_DUMP`, which touch none of these.
-/

namespace RildHisi.AtChannel

open RildHisi.Library

def atErrorGeneric : Int := -1
def atErrorCommandPending : Int := -2
def atErrorChannelClosed : Int := -3
def atErrorTimeout : Int := -4
def atErrorInvalidThread : Int := -5
def atErrorInvalidResponse : Int := -6

/-- `ATCommandType`. -/
inductive AtCommandType
  /-- No intermediate response expected. -/
  | noResult
  /-- A single intermediate response starting with a digit. -/
  | numeric
  /-- A single intermediate response starting with a prefix. -/
  | singleline
  /-- Multiple intermediate responses starting with a prefix. -/
  | multiline
  deriving DecidableEq, Repr

/-- `ATResponse`, the list of `ATLine`s in `p_next` order. -/
structure AtResponse where
  success : Bool
  finalResponse : Option CString
  pIntermediates : List CString
  deriving DecidableEq, Repr

/-- `at_response_new`: the memory is zeroed. -/
def atResponseNew : AtResponse := ⟨false, none, []⟩

/-- The callbacks the channel makes to its user. -/
inductive Callback
  | unsolicited (s : CString) (smsPdu : Option CString)
  | onTimeout
  | onReaderClosed
  deriving DecidableEq, Repr

/-- The statics of atchannel.c. `script` is what later `write` calls on `sFd` come
to, `written` the bytes it took, `callbacks` the calls made so far. -/
structure Channel where
  sFd : Int
  /-- `s_unsolHandler` is not NULL. -/
  sUnsolHandler : Bool
  sType : AtCommandType
  sResponsePrefix : Option CString
  sSmsPdu : Option CString
  spResponse : Option AtResponse
  /-- `s_onTimeout` is not NULL. -/
  sOnTimeout : Bool
  /-- `s_onReaderClosed` is not NULL. -/
  sOnReaderClosed : Bool
  sReaderClosed : Bool
  reader : ReaderState
  script : List WriteOutcome
  written : List UInt8
  callbacks : List Callback
  deriving DecidableEq

/-- The statics at program start. -/
def Channel.initial : Channel where
  sFd := -1
  sUnsolHandler := false
  sType := .noResult
  sResponsePrefix := none
  sSmsPdu := none
  spResponse := none
  sOnTimeout := false
  sOnReaderClosed := false
  sReaderClosed := false
  reader := .initial
  script := []
  written := []
  callbacks := []

/-! ### Lines -/

def sFinalResponsesError : List CString :=
  [ascii "ERROR", ascii "+CMS ERROR:", ascii "+CME ERROR:", ascii "NO CARRIER",
    ascii "NO ANSWER", ascii "NO DIALTONE"]

def isFinalResponseError (line : CString) : Bool :=
  sFinalResponsesError.any (strStartsWith line)

def sFinalResponsesSuccess : List CString := [ascii "OK", ascii "CONNECT"]

def isFinalResponseSuccess (line : CString) : Bool :=
  sFinalResponsesSuccess.any (strStartsWith line)

def isFinalResponse (line : CString) : Bool :=
  isFinalResponseSuccess line || isFinalResponseError line

/-- The loop over `s_smsUnsoliciteds` is compiled out. -/
def isSmsUnsolicited (_line : CString) : Bool := false

/-- `isdigit(line[0])`. -/
def startsWithDigit (line : CString) : Bool :=
  48 ≤ line.headD 0 && line.headD 0 ≤ 57

namespace Channel

/-- A call through `s_unsolHandler`. -/
def callUnsolHandler (chan : Channel) (s : CString) (smsPdu : Option CString) : Channel :=
  if chan.sUnsolHandler then
    { chan with callbacks := chan.callbacks ++ [.unsolicited s smsPdu] }
  else chan

def handleUnsolicited (chan : Channel) (line : CString) : Channel :=
  chan.callUnsolHandler line none

/-- Add to the head of the list: the order is flipped again before the response
is handed over. -/
def addIntermediate (chan : Channel) (response : AtResponse) (line : CString) : Channel :=
  { chan with
    spResponse := some { response with pIntermediates := line :: response.pIntermediates } }

def handleFinalResponse (chan : Channel) (response : AtResponse) (line : CString) : Channel :=
  { chan with spResponse := some { response with finalResponse := some line } }

/-- One string handed to the descriptor, and whether all of it was taken. -/
def writeBytes (chan : Channel) (bytes : List UInt8) : Bool × Channel :=
  let loop := writeLoop chan.script bytes
  (loop.complete,
    { chan with script := loop.script, written := chan.written ++ loop.bytes })

/-- What `writeline` and `writeCtrlZ` have in common: `s`, then the terminator. A
`write` that takes none of the one terminator byte is repeated. -/
def writeTerminated (chan : Channel) (s : CString) (terminator : UInt8) : Int × Channel :=
  if chan.sFd < 0 || chan.sReaderClosed then (atErrorChannelClosed, chan)
  else
    let (complete, chan) := chan.writeBytes s
    if !complete then (atErrorGeneric, chan)
    else
      let (complete, chan) := chan.writeBytes [terminator]
      if !complete then (atErrorGeneric, chan) else (0, chan)

/-- `writeline`: the string and a `\r`. -/
def writeline (chan : Channel) (s : CString) : Int × Channel := chan.writeTerminated s 13

/-- `writeCtrlZ`: the string and a `\032`. -/
def writeCtrlZ (chan : Channel) (s : CString) : Int × Channel := chan.writeTerminated s 26

/-- `processLine`. None where the code reads through a NULL `s_responsePrefix`. -/
def processLine (chan : Channel) (line : CString) : Option Channel :=
  match chan.spResponse with
  -- no command pending
  | none => some (chan.handleUnsolicited line)
  | some response =>
      if isFinalResponseSuccess line then
        some (chan.handleFinalResponse { response with success := true } line)
      else if isFinalResponseError line then
        some (chan.handleFinalResponse { response with success := false } line)
      else if chan.sSmsPdu.isSome && line == smsPrompt then
        some { (chan.writeCtrlZ (chan.sSmsPdu.getD [])).2 with sSmsPdu := none }
      else match chan.sType with
        | .noResult => some (chan.handleUnsolicited line)
        | .numeric =>
            if response.pIntermediates.isEmpty && startsWithDigit line then
              some (chan.addIntermediate response line)
            else some (chan.handleUnsolicited line)
        | .singleline =>
            if response.pIntermediates.isEmpty then
              chan.sResponsePrefix.map fun start =>
                if strStartsWith line start then chan.addIntermediate response line
                else chan.handleUnsolicited line
            -- we already have an intermediate response
            else some (chan.handleUnsolicited line)
        | .multiline =>
            chan.sResponsePrefix.map fun start =>
              if strStartsWith line start then chan.addIntermediate response line
              else chan.handleUnsolicited line

/-! ### The reader thread -/

/-- `onReaderClosed`. -/
def onReaderClosed (chan : Channel) : Channel :=
  if chan.sOnReaderClosed && !chan.sReaderClosed then
    { chan with sReaderClosed := true, callbacks := chan.callbacks ++ [.onReaderClosed] }
  else chan

/-- One turn of `readerLoop`: the state after it, the input left, and whether the
loop goes on. -/
def readerTurn (chan : Channel) (input : Input) : Option (Channel × Input × Bool) :=
  let (line, reader, input) := readline chan.reader input
  let chan := { chan with reader := reader }
  match line with
  | none => some (chan.onReaderClosed, input, false)
  | some line =>
      if isSmsUnsolicited line then
        let (line2, reader, input) := readline chan.reader input
        let chan := { chan with reader := reader }
        match line2 with
        | none => some (chan.onReaderClosed, input, false)
        | some line2 => some (chan.callUnsolHandler line (some line2), input, true)
      else (chan.processLine line).map fun chan => (chan, input, true)

/-- `at_open`, with a reader thread started on `fd`. The input buffering is not
touched. -/
def atOpen (chan : Channel) (fd : Int) (script : List WriteOutcome) (handler : Bool) : Channel :=
  { chan with
    sFd := fd
    script := script
    sUnsolHandler := handler
    sReaderClosed := false
    sResponsePrefix := none
    sSmsPdu := none
    spResponse := none }

/-- `at_close`. -/
def atClose (chan : Channel) : Channel := { chan with sFd := -1, sReaderClosed := true }

/-! ### Commands -/

def clearPendingCommand (chan : Channel) : Channel :=
  { chan with spResponse := none, sResponsePrefix := none, sSmsPdu := none }

end Channel

/-- The loop of `reverseIntermediates`: `pcur` is the list left, the accumulator is
`p_response->p_intermediates`. -/
def reverseIntermediates : List CString → List CString → List CString
  | [], pIntermediates => pIntermediates
  | line :: pnext, pIntermediates => reverseIntermediates pnext (line :: pIntermediates)

/-- The arguments of `at_send_command_full`; `wantsResponse` is `pp_outResponse != NULL`. -/
structure Command where
  command : CString
  type : AtCommandType
  responsePrefix : Option CString
  smspdu : Option CString
  timeoutMsec : Int
  wantsResponse : Bool

/-- What the other threads do to the channel while a command waits. -/
inductive ReaderEvent
  | line (text : CString)
  /-- The reader sees the end of the input. -/
  | readerClosed
  /-- `at_close` by another thread. -/
  | closed
  deriving DecidableEq, Repr

/-- One `pthread_cond_wait` or `pthread_cond_timedwait`: what happens while the
mutex is free, and whether the call returns `ETIMEDOUT`. -/
structure Wait where
  events : List ReaderEvent
  timedOut : Bool
  deriving DecidableEq, Repr

/-- What a command comes to: its return code and `*pp_outResponse` if it stored
one, a command still waiting, or a read through a NULL pointer. -/
inductive SendResult
  | returned (err : Int) (response : Option AtResponse) (chan : Channel)
  | waiting (chan : Channel)
  | crashed
  deriving DecidableEq

namespace Channel

def handleEvent (chan : Channel) : ReaderEvent → Option Channel
  | .line text => chan.processLine text
  | .readerClosed => some chan.onReaderClosed
  | .closed => some chan.atClose

/-- Behind the wait: hand the response over and clear the pending command. -/
def finishCommand (chan : Channel) (response : AtResponse) (wantsResponse : Bool) : SendResult :=
  let out := { response with pIntermediates := reverseIntermediates response.pIntermediates [] }
  let err := if chan.sReaderClosed then atErrorChannelClosed else 0
  .returned err (if wantsResponse then some out else none) chan.clearPendingCommand

/-- `while (sp_response->finalResponse == NULL && s_readerClosed == 0)`. -/
def waitForFinalResponse (timeoutMsec : Int) (wantsResponse : Bool) :
    Channel → List Wait → SendResult
  | chan, waits =>
      match chan.spResponse with
      | none => .crashed
      | some response =>
          if response.finalResponse.isNone && !chan.sReaderClosed then
            match waits with
            | [] => .waiting chan
            | wait :: waits =>
                match wait.events.foldlM handleEvent chan with
                | none => .crashed
                | some chan =>
                    if timeoutMsec ≠ 0 && wait.timedOut then
                      .returned atErrorTimeout none chan.clearPendingCommand
                    else waitForFinalResponse timeoutMsec wantsResponse chan waits
          else chan.finishCommand response wantsResponse

/-- The statics of a command that has been written. -/
def startCommand (chan : Channel) (command : Command) : Channel :=
  { chan with
    sType := command.type
    sResponsePrefix := command.responsePrefix
    sSmsPdu := command.smspdu
    spResponse := some atResponseNew }

/-- `at_send_command_full_nolock`. -/
def atSendCommandFullNolock (chan : Channel) (command : Command) (waits : List Wait) :
    SendResult :=
  if chan.spResponse.isSome then
    .returned atErrorCommandPending none chan.clearPendingCommand
  else
    let (err, chan) := chan.writeline command.command
    if err < 0 then .returned err none chan.clearPendingCommand
    else waitForFinalResponse command.timeoutMsec command.wantsResponse
      (chan.startCommand command) waits

/-- `at_send_command_full`. -/
def atSendCommandFull (chan : Channel) (onReaderThread : Bool) (command : Command)
    (waits : List Wait) : SendResult :=
  if onReaderThread then .returned atErrorInvalidThread none chan
  else match chan.atSendCommandFullNolock command waits with
    | .returned err response chan =>
        if err = atErrorTimeout && chan.sOnTimeout then
          .returned err response { chan with callbacks := chan.callbacks ++ [.onTimeout] }
        else .returned err response chan
    | other => other

end Channel

/-- The check behind the singleline, numeric and SMS commands: a successful one must
have an intermediate response. -/
def requireIntermediate (err : Int) (response : Option AtResponse) : Int × Option AtResponse :=
  match response with
  | some response =>
      if err = 0 && response.success && response.pIntermediates.isEmpty then
        (atErrorInvalidResponse, none)
      else (err, some response)
  | none => (err, none)

def SendResult.requireIntermediate : SendResult → SendResult
  | .returned err response chan =>
      let (err, response) := AtChannel.requireIntermediate err response
      .returned err response chan
  | other => other

namespace Channel

variable (chan : Channel) (onReaderThread : Bool) (command : CString) (wantsResponse : Bool)
  (waits : List Wait)

def atSendCommand : SendResult :=
  chan.atSendCommandFull onReaderThread ⟨command, .noResult, none, none, 0, wantsResponse⟩ waits

def atSendCommandSingleline (responsePrefix : CString) : SendResult :=
  (chan.atSendCommandFull onReaderThread
    ⟨command, .singleline, some responsePrefix, none, 0, wantsResponse⟩ waits).requireIntermediate

def atSendCommandNumeric : SendResult :=
  (chan.atSendCommandFull onReaderThread
    ⟨command, .numeric, none, none, 0, wantsResponse⟩ waits).requireIntermediate

def atSendCommandSms (pdu responsePrefix : CString) : SendResult :=
  (chan.atSendCommandFull onReaderThread
    ⟨command, .singleline, some responsePrefix, some pdu, 0, wantsResponse⟩
    waits).requireIntermediate

def atSendCommandMultiline (responsePrefix : CString) : SendResult :=
  chan.atSendCommandFull onReaderThread
    ⟨command, .multiline, some responsePrefix, none, 0, wantsResponse⟩ waits

end Channel

/-! ### What a line can do -/

/-- What a line can do: go to the handler, become an intermediate or the final
response, or set off the PDU. -/
theorem Channel.processLine_cases {chan next : Channel} {line : CString}
    (stepped : chan.processLine line = some next) :
    next = chan.handleUnsolicited line ∨ (∃ response, next = chan.addIntermediate response line) ∨
      (∃ response, next = chan.handleFinalResponse response line) ∨
      next = { (chan.writeCtrlZ (chan.sSmsPdu.getD [])).2 with sSmsPdu := none } := by
  unfold processLine at stepped
  cases pending : chan.spResponse with
  | none => exact Or.inl (by simpa [pending] using stepped.symm)
  | some response =>
      simp only [pending] at stepped
      by_cases success : isFinalResponseSuccess line
      · rw [if_pos success] at stepped
        exact Or.inr (Or.inr (Or.inl ⟨_, (Option.some.inj stepped).symm⟩))
      rw [if_neg success] at stepped
      by_cases error : isFinalResponseError line
      · rw [if_pos error] at stepped
        exact Or.inr (Or.inr (Or.inl ⟨_, (Option.some.inj stepped).symm⟩))
      rw [if_neg error] at stepped
      by_cases prompt : chan.sSmsPdu.isSome && line == smsPrompt
      · rw [if_pos prompt] at stepped
        exact Or.inr (Or.inr (Or.inr (Option.some.inj stepped).symm))
      rw [if_neg prompt] at stepped
      -- the type switch adds the line or passes it on
      have switched : next = chan.addIntermediate response line ∨
          next = chan.handleUnsolicited line := by
        cases type : chan.sType with
        | noResult => exact Or.inr (by simpa [type] using stepped.symm)
        | numeric =>
            simp only [type] at stepped
            split_ifs at stepped
            · exact Or.inl (Option.some.inj stepped).symm
            · exact Or.inr (Option.some.inj stepped).symm
        | singleline =>
            simp only [type] at stepped
            split_ifs at stepped
            · obtain ⟨start, -, shape⟩ := Option.map_eq_some_iff.mp stepped
              split_ifs at shape
              · exact Or.inl shape.symm
              · exact Or.inr shape.symm
            · exact Or.inr (Option.some.inj stepped).symm
        | multiline =>
            simp only [type] at stepped
            obtain ⟨start, -, shape⟩ := Option.map_eq_some_iff.mp stepped
            split_ifs at shape
            · exact Or.inl shape.symm
            · exact Or.inr shape.symm
      rcases switched with added | passed
      · exact Or.inr (Or.inl ⟨response, added⟩)
      · exact Or.inl passed

end RildHisi.AtChannel
