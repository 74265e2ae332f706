import RildHisi.Library.SparseArray

/-!
Owns the calls of the simulated radio of simulated_radio.js: the array of calls, the
handlers that read or change it, and `process`.

A handler that throws does so in front of its first change, where `req.data` is null.
-/

namespace RildHisi.MockRil

open RildHisi.Library

/-- `CALLSTATE_*`. -/
inductive CallState
  | active
  | holding
  | dialing
  | alerting
  | incoming
  | waiting
  deriving DecidableEq

/-- The states of a call that rings. -/
def CallState.ringing : CallState → Bool
  | .incoming | .waiting => true
  | _ => false

/-- The fields of a `RilCall` that its constructor or a handler sets from outside. -/
structure RilCall where
  state : CallState
  index : Nat
  number : Option String
  name : String
  /-- Which object this is: calls are counted as they are created. -/
  object : Nat
  deriving DecidableEq

/-! ### Requests -/

/-- `nextState` of the events that `rilRequestDial` schedules. -/
inductive NextState
  | dialing
  | alerting
  | active
  deriving DecidableEq

def NextState.state : NextState → CallState
  | .dialing => .dialing
  | .alerting => .alerting
  | .active => .active

/-- The data of CMD_CALL_STATE_CHANGE. `object` is the call it was scheduled for, which the
code does not keep. -/
structure CallStateChange where
  callIndex : Nat
  nextState : NextState
  object : Nat
  deriving DecidableEq

structure ReqDial where
  address : Option String
  deriving DecidableEq

structure HangupConnRemote where
  connectionId : Int
  callFailCause : Int
  deriving DecidableEq

/-- A request that touches no call and that the framework sends. -/
inductive RadioQuery
  | getCurrentCalls
  | lastCallFailCause
  | signalStrength
  | registrationState
  | gprsRegistrationState
  | queryNetworkSelectionMode
  | setNetworkSelectionAutomatic
  | basebandVersion
  /-- `available` is whether `gRadioState` is not RADIOSTATE_UNAVAILABLE then. -/
  | setMute (state : Option Bool) (available : Bool)
  | screenState (state : Option Bool)
  deriving DecidableEq

/-- What `process` is called with. The data of a request is none where its protobuf could
not be parsed, and `req.data` is null. -/
inductive RadioRequest
  | query (asked : RadioQuery)
  | dial (data : Option ReqDial)
  | hangUp (connectionIndex : Option Int)
  | hangupWaitingOrBackground
  | hangUpForegroundResumeBackground
  | switchWaitingOrHoldingAndActive
  | conference
  | answer
  | separateConnection (index : Option Int)
  | startInComingCall (phoneNumber : Option String)
  | hangupConnRemote (data : Option HangupConnRemote)
  | setCallTransitionFlag (flag : Option Bool)
  | setCallAlert
  | setCallActive
  | addDialingCall (phoneNumber : Option String)
  | delayTest
  | unsolSignalStrength
  | unsolCallStateChanged
  | callStateChange (change : CallStateChange)
  | unsolCallRing
  deriving DecidableEq

def RadioQuery.reqNum : RadioQuery → Nat
  | .getCurrentCalls => 9
  | .lastCallFailCause => 18
  | .signalStrength => 19
  | .registrationState => 20
  | .gprsRegistrationState => 21
  | .queryNetworkSelectionMode => 45
  | .setNetworkSelectionAutomatic => 46
  | .basebandVersion => 51
  | .setMute _ _ => 53
  | .screenState _ => 61

def RadioRequest.reqNum : RadioRequest → Nat
  | .query asked => asked.reqNum
  | .dial _ => 10
  | .hangUp _ => 12
  | .hangupWaitingOrBackground => 13
  | .hangUpForegroundResumeBackground => 14
  | .switchWaitingOrHoldingAndActive => 15
  | .conference => 16
  | .answer => 40
  | .separateConnection _ => 52
  | .startInComingCall _ => 1001
  | .hangupConnRemote _ => 1002
  | .setCallTransitionFlag _ => 1003
  | .setCallAlert => 1004
  | .setCallActive => 1005
  | .addDialingCall _ => 1006
  | .delayTest => 2000
  | .unsolSignalStrength => 2001
  | .unsolCallStateChanged => 2002
  | .callStateChange _ => 2003
  | .unsolCallRing => 2004

def RadioRequest.change? : RadioRequest → Option CallStateChange
  | .callStateChange change => some change
  | _ => none

/-- The argument of `sendRilUnsolicitedResponse`. -/
inductive Unsolicited
  | responseCallStateChanged
  | callRing
  | signalStrength
  deriving DecidableEq

/-! ### The array of calls -/

def maxNumberActiveCalls : Nat := 7

def maxConnectionsPerCall : Nat := 5

def rilESuccess : Nat := 0

def rilERadioNotAvailable : Nat := 1

def rilEGenericFailure : Nat := 2

def rilERequestNotSupported : Nat := 6

def ctrlStatusOk : Nat := 0

def ctrlStatusErr : Nat := 1

/-- The variables of `Radio` and the global `lastReq`. `created` counts the calls. -/
structure Radio where
  calls : SparseArray RilCall
  numberActiveCalls : Nat
  incomingCallIsProcessed : Bool
  callTransitionFlag : Bool
  lastCallFailCause : Int
  lastReq : Nat
  created : Nat
  deriving DecidableEq

/-- What a handler leaves: the radio, the result for `process`, what it added to the queue
of `simulatedRadioWorker` with its delay, and what it sent. -/
structure Handled where
  radio : Radio
  rilErrCode : Nat := rilESuccess
  sendResponse : Bool := true
  scheduled : List (RadioRequest × Nat) := []
  unsolicited : List Unsolicited := []
  deriving DecidableEq

namespace Radio

def initial : Radio where
  calls := .ofLength (maxNumberActiveCalls + 1)
  numberActiveCalls := 0
  incomingCallIsProcessed := false
  callTransitionFlag := false
  lastCallFailCause := 0
  lastReq := 0
  created := 0

/-- The indices the loops over `calls` go through. A call that is removed on the way only
makes elements undefined, which the loops skip. -/
def indices (radio : Radio) : List Nat := List.range radio.calls.length

/-- `getCall`, none for null. -/
def getCall (radio : Radio) (index : Int) : Option RilCall :=
  if 0 ≤ index then radio.calls.get index.toNat else none

/-- There is a call at the index, in this state. -/
def InState (radio : Radio) (state : CallState) (index : Nat) : Prop :=
  (radio.calls.get index).map RilCall.state = some state

instance (radio : Radio) (state : CallState) (index : Nat) :
    Decidable (radio.InState state index) := by
  unfold InState
  infer_instance

def getCallIdByState (radio : Radio) (state : CallState) : Option Nat :=
  radio.indices.find? (radio.InState state ·)

def countCallsInState (radio : Radio) (state : CallState) : Nat :=
  radio.indices.countP (radio.InState state ·)

/-- The first of the positions 1 to 7 that is undefined. -/
def freeIndex (radio : Radio) : Option Nat :=
  (List.range' 1 maxNumberActiveCalls).find? fun index => (radio.calls.get index).isNone

def addCall (radio : Radio) (state : CallState) (phoneNumber : Option String)
    (callerName : String) : Option RilCall × Radio :=
  if radio.numberActiveCalls < maxNumberActiveCalls then
    let call (index : Nat) : RilCall := ⟨state, index, phoneNumber, callerName, radio.created⟩
    let counted : Radio :=
      { radio with numberActiveCalls := radio.numberActiveCalls + 1, created := radio.created + 1 }
    match radio.freeIndex with
    | some index =>
        (some (call index), { counted with calls := radio.calls.put index (call index) })
    | none => (some (call 0), counted)
  else
    (none, radio)

def removeCall (radio : Radio) (index : Int) : Option RilCall × Radio :=
  if 0 < radio.numberActiveCalls then
    match radio.getCall index with
    | some call =>
        let number := radio.numberActiveCalls - 1
        (some call, { radio with
          calls := if number = 0 then .empty else radio.calls.delete index.toNat
          numberActiveCalls := number })
    | none => (none, radio)
  else
    (none, radio)

/-- `calls[index].state = state`. -/
def setState (radio : Radio) (index : Nat) (state : CallState) : Radio :=
  match radio.calls.get index with
  | some call => { radio with calls := radio.calls.put index { call with state := state } }
  | none => radio

/-! ### The loops over the calls -/

/-- What a loop does with a call that it does not fail at. -/
inductive CallEdit
  | keep
  | become (state : CallState)
  | remove
  /-- The same, and `incomingCallIsProcessed = true`. -/
  | removeProcessed
  deriving DecidableEq

def edit (radio : Radio) (index : Nat) : CallEdit → Radio
  | .keep => radio
  | .become state => radio.setState index state
  | .remove => (radio.removeCall index).2
  | .removeProcessed => { (radio.removeCall index).2 with incomingCallIsProcessed := true }

/-- The loop over the calls with a `switch` on their state. It returns at the first call
whose state is left to the `default` branch, which sets RIL_E_GENERIC_FAILURE; whether it
comes to its end is the second component. -/
def forEachCall (edits : Nat → CallState → Option CallEdit) : List Nat → Radio → Radio × Bool
  | [], radio => (radio, true)
  | index :: rest, radio =>
      match radio.calls.get index with
      | none => forEachCall edits rest radio
      | some call =>
          match edits index call.state with
          | none => (radio, false)
          | some edit => forEachCall edits rest (radio.edit index edit)

/-- CMD_UNSOL_CALL_STATE_CHANGED is added when the loop has come to its end. -/
def editCalls (radio : Radio) (edits : Nat → CallState → Option CallEdit) : Handled :=
  match forEachCall edits radio.indices radio with
  | (radio, true) => { radio, scheduled := [(.unsolCallStateChanged, 0)] }
  | (radio, false) => { radio, rilErrCode := rilEGenericFailure }

/-! ### The handlers -/

def rilRequestDial (radio : Radio) (data : Option ReqDial) : Option Handled := do
  let data ← data
  match radio.addCall .dialing data.address "" with
  | (none, radio) => return { radio, rilErrCode := rilEGenericFailure }
  | (some newCall, radio) =>
      let change (nextState : NextState) : RadioRequest :=
        .callStateChange ⟨newCall.index, nextState, newCall.object⟩
      return { radio, scheduled := (change .dialing, 0) ::
        if radio.callTransitionFlag then []
        else [(change .alerting, 1000), (change .active, 2000)] }

def rilRequestHangUp (radio : Radio) (connectionIndex : Option Int) : Option Handled := do
  let connectionIndex ← connectionIndex
  match radio.removeCall connectionIndex with
  | (none, radio) => return { radio, rilErrCode := rilEGenericFailure }
  | (some _, radio) => return { radio }

/-- The loops of the requests that fail without an active call, and else report the change. -/
def editActiveCalls (radio : Radio) (edits : Nat → CallState → Option CallEdit) : Handled :=
  if radio.numberActiveCalls = 0 then
    { radio, rilErrCode := rilEGenericFailure, scheduled := [(.unsolCallStateChanged, 0)] }
  else
    radio.editCalls edits

def hangupWaitingOrBackgroundEdit : Nat → CallState → Option CallEdit
  | _, .holding | _, .waiting | _, .incoming => some .removeProcessed
  | _, _ => none

def rilRequestHangupWaitingOrBackground (radio : Radio) : Handled :=
  radio.editActiveCalls hangupWaitingOrBackgroundEdit

def hangUpForegroundEdit : Nat → CallState → Option CallEdit
  | _, .active => some .remove
  | _, .holding | _, .waiting => some (.become .active)
  | _, _ => none

def rilRequestHangUpForegroundResumeBackground (radio : Radio) : Handled :=
  radio.editActiveCalls hangUpForegroundEdit

def switchEdit : Nat → CallState → Option CallEdit
  | _, .active => some (.become .holding)
  | _, .holding | _, .waiting => some (.become .active)
  | _, _ => none

/-- The second of two such requests in a row is answered and does nothing. -/
def rilRequestSwitchWaitingOrHoldingAndActive (radio : Radio) : Handled :=
  if radio.lastReq = 15 then { radio } else radio.editActiveCalls switchEdit

def conferenceEdit : Nat → CallState → Option CallEdit
  | _, .active => some .keep
  | _, .holding => some (.become .active)
  | _, _ => none

def rilRequestConference (radio : Radio) : Handled :=
  if radio.numberActiveCalls = 0 ∨ maxConnectionsPerCall < radio.numberActiveCalls then
    { radio, rilErrCode := rilEGenericFailure }
  else if ∀ index ∈ radio.indices, ∀ call ∈ radio.calls.get index,
      call.state = .active ∨ call.state = .holding then
    radio.editCalls conferenceEdit
  else
    { radio, rilErrCode := rilEGenericFailure }

/-- The loop ends at the first call it finds. -/
def rilRequestAnswer (radio : Radio) : Handled :=
  if radio.numberActiveCalls ≠ 1 then
    { radio, rilErrCode := rilEGenericFailure }
  else
    match radio.indices.find? (fun index => (radio.calls.get index).isSome) with
    | none => { radio := { radio with incomingCallIsProcessed := true } }
    | some index =>
        if radio.InState .incoming index then
          { radio := { radio.setState index .active with incomingCallIsProcessed := true } }
        else
          { radio := (radio.removeCall index).2, rilErrCode := rilEGenericFailure }

/-- Every other active call is put on hold. -/
def separateEdit (separated : Int) (index : Nat) (state : CallState) : Option CallEdit :=
  if separated = index then some .keep
  else if state = .active then some (.become .holding)
  else none

def rilRequestSeparateConnection (radio : Radio) (index : Option Int) : Option Handled := do
  let index ← index
  if radio.numberActiveCalls = 0 then
    return { radio, rilErrCode := rilEGenericFailure }
  else
    match radio.getCall index with
    | none => return { radio, rilErrCode := rilEGenericFailure }
    | some separateConn =>
        if separateConn.state ≠ .active then
          return { radio, rilErrCode := rilEGenericFailure }
        else
          return radio.editCalls (separateEdit index)

/-- The `else` branch removes a call that is not there, and so does nothing. -/
def cmdCallStateChange (radio : Radio) (change : CallStateChange) : Handled where
  radio :=
    match radio.calls.get change.callIndex with
    | some _ => radio.setState change.callIndex change.nextState.state
    | none => (radio.removeCall change.callIndex).2
  sendResponse := false
  scheduled := [(.unsolCallStateChanged, 0)]

def cmdUnsolCallRing (radio : Radio) : Handled :=
  if radio.incomingCallIsProcessed then
    { radio, sendResponse := false }
  else
    { radio, sendResponse := false
      scheduled := [(.unsolCallRing, 3000)]
      unsolicited := [.responseCallStateChanged, .callRing] }

/-- The state of a new incoming call, none where one of the calls forbids it. -/
def incomingState (radio : Radio) : Option CallState :=
  if radio.numberActiveCalls = 0 then some .incoming
  else if ∀ index ∈ radio.indices, ∀ call ∈ radio.calls.get index,
      call.state ≠ .dialing ∧ call.state ≠ .alerting ∧ call.state ≠ .incoming ∧
        call.state ≠ .waiting then
    some .waiting
  else
    none

def ctrlServerCmdStartInComingCall (radio : Radio) (phoneNumber : Option String) :
    Option Handled := do
  let phoneNumber ← phoneNumber
  match radio.incomingState with
  | none => return { radio, rilErrCode := ctrlStatusErr }
  | some state =>
      let added := (radio.addCall state (some phoneNumber) "").2
      return { radio := { added with incomingCallIsProcessed := false }
               rilErrCode := ctrlStatusOk
               scheduled := [(.unsolCallRing, 0)] }

def ctrlServerCmdHangupConnRemote (radio : Radio) (data : Option HangupConnRemote) :
    Option Handled := do
  let data ← data
  match radio.removeCall data.connectionId with
  | (none, radio) => return { radio, rilErrCode := ctrlStatusErr }
  | (some hangupCall, radio) =>
      return { radio := { radio with
                 incomingCallIsProcessed :=
                   hangupCall.state.ringing || radio.incomingCallIsProcessed
                 lastCallFailCause := data.callFailCause }
               rilErrCode := ctrlStatusOk
               scheduled := [(.unsolCallStateChanged, 0)] }

def ctrlServerCmdSetCallTransitionFlag (radio : Radio) (flag : Option Bool) :
    Option Handled := do
  let flag ← flag
  return { radio := { radio with callTransitionFlag := flag }, rilErrCode := ctrlStatusOk }

/-- The call that an order to go from one state to the next moves: the only one in the state. -/
def movable (radio : Radio) (state : CallState) : Option Nat :=
  if radio.callTransitionFlag = false ∨ radio.numberActiveCalls = 0 then none
  else if radio.countCallsInState state = 1 then radio.getCallIdByState state
  else none

/-- `ctrlServerCmdSetCallAlert` and `ctrlServerCmdSetCallActive`. -/
def ctrlServerCmdMove (radio : Radio) (before after : CallState) : Handled :=
  match radio.movable before with
  | none => { radio, rilErrCode := ctrlStatusErr }
  | some index =>
      { radio := radio.setState index after
        rilErrCode := ctrlStatusOk
        scheduled := [(.unsolCallStateChanged, 0)] }

def ctrlServerCmdSetCallAlert (radio : Radio) : Handled :=
  radio.ctrlServerCmdMove .dialing .alerting

def ctrlServerCmdSetCallActive (radio : Radio) : Handled :=
  radio.ctrlServerCmdMove .alerting .active

def ctrlServerCmdAddDialingCall (radio : Radio) (phoneNumber : Option String) :
    Option Handled := do
  let phoneNumber ← phoneNumber
  if radio.countCallsInState .dialing = 0 then
    return { radio := (radio.addCall .dialing (some phoneNumber) "").2, rilErrCode := ctrlStatusOk }
  else
    return { radio, rilErrCode := ctrlStatusErr }

/-- The handlers of the requests that touch no call. -/
def rilRequestQuery (radio : Radio) : RadioQuery → Option Handled
  | .setMute state available => do
      let _ ← state
      return { radio, rilErrCode := if available then rilESuccess else rilERadioNotAvailable }
  | .screenState state => do
      let _ ← state
      return { radio }
  | _ => some { radio }

/-! ### `process` -/

/-- The call of the handler in `radioDispatchTable`, none where it throws. -/
def dispatch (radio : Radio) : RadioRequest → Option Handled
  | .query asked => radio.rilRequestQuery asked
  | .dial data => radio.rilRequestDial data
  | .hangUp connectionIndex => radio.rilRequestHangUp connectionIndex
  | .hangupWaitingOrBackground => some radio.rilRequestHangupWaitingOrBackground
  | .hangUpForegroundResumeBackground => some radio.rilRequestHangUpForegroundResumeBackground
  | .switchWaitingOrHoldingAndActive => some radio.rilRequestSwitchWaitingOrHoldingAndActive
  | .conference => some radio.rilRequestConference
  | .answer => some radio.rilRequestAnswer
  | .separateConnection index => radio.rilRequestSeparateConnection index
  | .startInComingCall phoneNumber => radio.ctrlServerCmdStartInComingCall phoneNumber
  | .hangupConnRemote data => radio.ctrlServerCmdHangupConnRemote data
  | .setCallTransitionFlag flag => radio.ctrlServerCmdSetCallTransitionFlag flag
  | .setCallAlert => some radio.ctrlServerCmdSetCallAlert
  | .setCallActive => some radio.ctrlServerCmdSetCallActive
  | .addDialingCall phoneNumber => radio.ctrlServerCmdAddDialingCall phoneNumber
  | .delayTest => some { radio, sendResponse := false }
  | .unsolSignalStrength =>
      some { radio, sendResponse := false
             scheduled := [(.unsolSignalStrength, 60000)]
             unsolicited := [.signalStrength] }
  | .unsolCallStateChanged =>
      some { radio, sendResponse := false, unsolicited := [.responseCallStateChanged] }
  | .callStateChange change => some (radio.cmdCallStateChange change)
  | .unsolCallRing => some radio.cmdUnsolCallRing

/-- `process`, up to the completion it sends. -/
def process (radio : Radio) (request : RadioRequest) : Handled :=
  let handled :=
    (radio.dispatch request).getD { radio, rilErrCode := rilERequestNotSupported }
  if request.reqNum < 200 then
    { handled with radio := { handled.radio with lastReq := request.reqNum } }
  else
    handled

end Radio

end RildHisi.MockRil
