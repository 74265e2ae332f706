import RildHisi.AtChannel.Channel
import RildHisi.Libril.Responses

/-!
Owns what the request handlers of reference-ril.c are programs over: the AT
commands they send and what the channel gives back, the reads of `sState`, the QMI
device, and the calls they make to libril.

A handler is a program, apart from what its surroundings answer. `completions` is
what it tells libril in given surroundings.
-/

namespace RildHisi.ReferenceRil

open RildHisi.AtChannel RildHisi.Library RildHisi.Libril

/-! ### Answers of the channel -/

/-- What an `at_send_command` function gives back: its return value and
`*pp_outResponse`, NULL where nothing was stored. Only an error stores nothing; a
command sent with a NULL `pp_outResponse` drops the response. -/
structure AtResult where
  err : Int
  pResponse : Option AtResponse
  stored : (err = 0 ∧ pResponse.isSome) ∨ err < 0

namespace AtResult

/-- The checks of the singleline, numeric and SMS commands on what
`at_send_command_full` returned. -/
def requireIntermediate (result : AtResult) : AtResult where
  err := (AtChannel.requireIntermediate result.err result.pResponse).1
  pResponse := (AtChannel.requireIntermediate result.err result.pResponse).2
  stored := by
    have stored := result.stored
    cases present : result.pResponse with
    | none => simpa [AtChannel.requireIntermediate, present] using stored
    | some response =>
        by_cases missing :
            (decide (result.err = 0) && response.success && response.pIntermediates.isEmpty) = true
        · simp [AtChannel.requireIntermediate, missing, atErrorInvalidResponse]
        · simpa [AtChannel.requireIntermediate, missing, present] using stored

/-- The response where `err` is not negative; then it is 0. -/
def answer (result : AtResult) : Option AtResponse :=
  if result.err < 0 then none else result.pResponse

/-- The response behind `if (err < 0 || p_response->success == 0)`. -/
def succeeded (result : AtResult) : Option AtResponse := result.answer.filter (·.success)

/-- A NULL response is read nowhere behind a return value of 0. -/
theorem answer_isSome_iff (result : AtResult) : result.answer.isSome ↔ ¬ result.err < 0 := by
  unfold answer
  by_cases failed : result.err < 0
  · simp [failed]
  · obtain ⟨-, present⟩ | negative := result.stored
    · simp [failed, present]
    · exact absurd negative failed

end AtResult

/-- What a return of the channel stores, if its caller wants the response. -/
def Stores : SendResult → Prop
  | .returned err response _ => (err = 0 ∧ response.isSome) ∨ err < 0
  | .waiting _ | .crashed => True

theorem stores_finishCommand (chan : Channel) (response : AtResponse) :
    Stores (chan.finishCommand response true) := by
  unfold Channel.finishCommand Stores
  cases chan.sReaderClosed with
  | false => exact Or.inl ⟨rfl, rfl⟩
  | true => exact Or.inr (by decide)

theorem stores_waitForFinalResponse (timeoutMsec : Int) (chan : Channel) (waits : List Wait) :
    Stores (Channel.waitForFinalResponse timeoutMsec true chan waits) := by
  induction waits generalizing chan with
  | nil =>
      unfold Channel.waitForFinalResponse
      cases chan.spResponse with
      | none => trivial
      | some response =>
          dsimp only
          split
          · trivial
          · exact stores_finishCommand chan response
  | cons wait waits inductionHypothesis =>
      unfold Channel.waitForFinalResponse
      cases chan.spResponse with
      | none => trivial
      | some response =>
          dsimp only
          split
          · cases wait.events.foldlM Channel.handleEvent chan with
            | none => trivial
            | some chan =>
                dsimp only
                split
                · exact Or.inr (by decide)
                · exact inductionHypothesis chan
          · exact stores_finishCommand chan response

/-- Whatever the reader does to the channel, a command whose caller wants the response
comes back as an `AtResult`. -/
theorem stores_atSendCommandFull (chan : Channel) (onReaderThread : Bool) (command : Command)
    (wants : command.wantsResponse = true) (waits : List Wait) :
    Stores (chan.atSendCommandFull onReaderThread command waits) := by
  have nolock : Stores (chan.atSendCommandFullNolock command waits) := by
    unfold Channel.atSendCommandFullNolock
    split
    · exact Or.inr (by decide)
    · dsimp only
      split
      case isTrue failed => exact Or.inr failed
      case isFalse =>
          rw [wants]
          exact stores_waitForFinalResponse _ _ waits
  unfold Channel.atSendCommandFull
  cases onReaderThread with
  | true => exact Or.inr (by decide)
  | false =>
      cases came : chan.atSendCommandFullNolock command waits with
      | returned err response next =>
          rw [came] at nolock
          dsimp only [Bool.false_eq_true, if_false]
          rw [if_neg Bool.false_ne_true]
          split <;> exact nolock
      | waiting next => trivial
      | crashed => trivial

/-! ### The QMI device -/

/-- What the file `/dev/qmi` does, where it can be opened: what the calls of `write`
come to, what each `read` gives, none for an error, and what `system` returns. -/
structure QmiDevice where
  script : List WriteOutcome
  reads : Nat → Option (List UInt8)
  qmistatus : Int

/-! ### Calls of libril -/

def rilESuccess : Word := 0
def rilERadioNotAvailable : Word := 1
def rilEGenericFailure : Word := 2
def rilEPasswordIncorrect : Word := 3
def rilERequestNotSupported : Word := 6

def rilUnsolResponseCallStateChanged : Word := 1001
def rilUnsolResponseNetworkStateChanged : Word := 1002
def rilUnsolResponseNewSms : Word := 1003
def rilUnsolResponseNewSmsStatusReport : Word := 1004
def rilUnsolNitzTimeReceived : Word := 1008
def rilUnsolDataCallListChanged : Word := 1010
def rilUnsolNdisDial : Word := 1031

/-- `RIL_RadioState`. -/
inductive RadioState
  | off | unavailable | simNotReady | simLockedOrAbsent | simReady | ruimNotReady | ruimReady
  | ruimLockedOrAbsent | nvNotReady | nvReady
  deriving DecidableEq, Repr

/-- What a response pointer of a handler leads to. -/
inductive ResponseData
  | null
  | ints (pInts : List Word)
  | string (s : CString)
  | strings (pStrings : List (Option CString))
  | calls (ppCalls : List RilCall)
  | sms (response : RilSmsResponse)
  | simIo (sr : RilSimIoResponse)
  | dataCalls (responses : List RilDataCallResponse)
  | cardStatus (pCardStatus : RilCardStatus)
  /-- The data of the request itself. -/
  | echo (data : RequestData)

/-- The arguments of `RIL_onRequestComplete`. -/
structure Completion where
  t : Nat
  e : Word
  response : ResponseData
  responselen : Nat

/-- A call with effects elsewhere. None of them completes a request. -/
inductive Effect
  | setRadioState (newState : RadioState)
  | onUnsolicitedResponse (unsolResponse : Word) (data : ResponseData) (datalen : Nat)
  /-- `RIL_requestTimedCallback (sendCallStateChanged, NULL, &TIMEVAL_CALLSTATEPOLL)`. -/
  | requestTimedCallback
  /-- `RIL_requestTimedCallback (onDataCallListChanged, NULL, NULL)`. -/
  | requestDataCallList

/-! ### Programs -/

/-- Why nothing more is said about a handler. -/
inductive Fault
  /-- The data of the request is read where there is none, or an assertion about it fails. -/
  | data
  /-- A response, its first line or a token of a line is read through NULL. -/
  | response
  /-- A write behind an array. -/
  | array
  deriving DecidableEq, Repr

/-- A program of a request handler. -/
inductive Handler (α : Type)
  | done (result : α)
  /-- A read through NULL or outside an array, a write outside an array, or an assertion
  that fails. -/
  | fault (cause : Fault)
  | send (command : Command) (next : AtResult → Handler α)
  /-- A read of `sState`, which other threads write. -/
  | readState (next : RadioState → Handler α)
  | openQmi (next : Option QmiDevice → Handler α)
  | complete (completion : Completion) (next : Handler α)
  | perform (effect : Effect) (next : Handler α)

/-- What a handler meets: what its AT commands come to, what its reads of `sState` see,
both in order, and the QMI device, if there is one. -/
structure Surroundings where
  answers : Nat → AtResult
  states : Nat → RadioState
  qmi : Option QmiDevice

/-- Behind an AT command. -/
def Surroundings.answered (around : Surroundings) : Surroundings :=
  { around with answers := fun n => around.answers (n + 1) }

/-- Behind a read of `sState`. -/
def Surroundings.looked (around : Surroundings) : Surroundings :=
  { around with states := fun n => around.states (n + 1) }

namespace Handler

variable {α β : Type}

/-- One program behind another. -/
def bind : Handler α → (α → Handler β) → Handler β
  | done result, next => next result
  | fault cause, _ => fault cause
  | send command after, next => send command fun result => (after result).bind next
  | readState after, next => readState fun state => (after state).bind next
  | openQmi after, next => openQmi fun device => (after device).bind next
  | complete completion after, next => complete completion (after.bind next)
  | perform effect after, next => perform effect (after.bind next)

instance : Monad Handler where
  pure := done
  bind := bind

theorem bind_done (handler : Handler α) : handler.bind done = handler := by
  induction handler with
  | done | fault => rfl
  | send _ _ inductionHypothesis => exact congrArg _ (funext inductionHypothesis)
  | readState _ inductionHypothesis => exact congrArg _ (funext inductionHypothesis)
  | openQmi _ inductionHypothesis => exact congrArg _ (funext inductionHypothesis)
  | complete _ _ inductionHypothesis => exact congrArg _ inductionHypothesis
  | perform _ _ inductionHypothesis => exact congrArg _ inductionHypothesis

theorem bind_bind {γ : Type} (handler : Handler α) (next : α → Handler β) (last : β → Handler γ) :
    (handler.bind next).bind last = handler.bind fun result => (next result).bind last := by
  induction handler with
  | done | fault => rfl
  | send _ _ inductionHypothesis => exact congrArg _ (funext inductionHypothesis)
  | readState _ inductionHypothesis => exact congrArg _ (funext inductionHypothesis)
  | openQmi _ inductionHypothesis => exact congrArg _ (funext inductionHypothesis)
  | complete _ _ inductionHypothesis => exact congrArg _ inductionHypothesis
  | perform _ _ inductionHypothesis => exact congrArg _ inductionHypothesis

instance : LawfulMonad Handler :=
  LawfulMonad.mk' Handler bind_done (fun _ _ => rfl) bind_bind

/-- The calls of `RIL_onRequestComplete`, in order. Behind a fault there are none. -/
def completions : Handler α → Surroundings → List Completion
  | done _, _ => []
  | fault _, _ => []
  | send _ next, around => (next (around.answers 0)).completions around.answered
  | readState next, around => (next (around.states 0)).completions around.looked
  | openQmi next, around => (next around.qmi).completions around
  | complete completion next, around => completion :: next.completions around
  | perform _ next, around => next.completions around

/-- The fault a handler runs into, if it runs into one. -/
def faultOf : Handler α → Surroundings → Option Fault
  | done _, _ => none
  | fault cause, _ => some cause
  | send _ next, around => (next (around.answers 0)).faultOf around.answered
  | readState next, around => (next (around.states 0)).faultOf around.looked
  | openQmi next, around => (next around.qmi).faultOf around
  | complete _ next, around => next.faultOf around
  | perform _ next, around => next.faultOf around

/-- How often the request `t` is completed. -/
def timesCompleted (t : Nat) (handler : Handler α) (around : Surroundings) : Nat :=
  (handler.completions around).countP (·.t == t)

/-! ### Rules -/

section Rules

variable (result : α) (command : Command) (completion : Completion) (effect : Effect)
  (next : α → Handler β) (t : Nat) (around : Surroundings)

@[simp] theorem done_bind : (done result : Handler α) >>= next = next result := rfl

@[simp] theorem fault_bind (cause : Fault) :
    (fault cause : Handler α) >>= next = fault cause := rfl

@[simp] theorem send_bind (after : AtResult → Handler α) :
    send command after >>= next = send command fun result => after result >>= next := rfl

@[simp] theorem readState_bind (after : RadioState → Handler α) :
    readState after >>= next = readState fun state => after state >>= next := rfl

@[simp] theorem openQmi_bind (after : Option QmiDevice → Handler α) :
    openQmi after >>= next = openQmi fun device => after device >>= next := rfl

@[simp] theorem complete_bind (after : Handler α) :
    complete completion after >>= next = complete completion (after >>= next) := rfl

@[simp] theorem perform_bind (after : Handler α) :
    perform effect after >>= next = perform effect (after >>= next) := rfl

@[simp] theorem timesCompleted_done : (done result).timesCompleted t around = 0 := rfl

@[simp] theorem timesCompleted_pure :
    (pure result : Handler α).timesCompleted t around = 0 := rfl

@[simp] theorem timesCompleted_fault (cause : Fault) :
    (fault cause : Handler α).timesCompleted t around = 0 := rfl

@[simp] theorem timesCompleted_send (after : AtResult → Handler α) :
    (send command after).timesCompleted t around =
      (after (around.answers 0)).timesCompleted t around.answered := rfl

@[simp] theorem timesCompleted_readState (after : RadioState → Handler α) :
    (readState after).timesCompleted t around =
      (after (around.states 0)).timesCompleted t around.looked := rfl

@[simp] theorem timesCompleted_openQmi (after : Option QmiDevice → Handler α) :
    (openQmi after).timesCompleted t around = (after around.qmi).timesCompleted t around := rfl

@[simp] theorem timesCompleted_perform (after : Handler α) :
    (perform effect after).timesCompleted t around = after.timesCompleted t around := rfl

@[simp] theorem timesCompleted_complete (after : Handler α) :
    (complete completion after).timesCompleted t around =
      after.timesCompleted t around + if completion.t = t then 1 else 0 := by
  simp [timesCompleted, completions, List.countP_cons]

@[simp] theorem timesCompleted_ite (condition : Prop) [Decidable condition]
    (first second : Handler α) :
    (if condition then first else second).timesCompleted t around =
      if condition then first.timesCompleted t around else second.timesCompleted t around :=
  apply_ite (timesCompleted t · around) condition first second

end Rules

end Handler

end RildHisi.ReferenceRil
