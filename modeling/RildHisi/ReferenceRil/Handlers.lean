import RildHisi.ReferenceRil.AtTok
import RildHisi.ReferenceRil.Handler

/-!
Owns the request handlers of reference-ril.c, down to `onRequest`.

`USE_TI_COMMANDS` and `POLL_CALL_STATE` are not defined, so their parts are left out,
as are the parts under `#if 0`, the printing and the freeing. Data that its dispatch
function does not hand over in the type a handler casts it to is read with a fault.
-/

namespace RildHisi.ReferenceRil

open RildHisi.AtChannel RildHisi.Library RildHisi.Libril

/-! ### Text -/

/-- `%d`. -/
def decimal (value : Int) : CString := ascii (toString value)

/-- `%x`. -/
def hexadecimal (value : Word) : CString := (Nat.toDigits 16 value.toNat).map Char.toUInt8

/-- `%s`. -/
def text (s : Option CString) : CString := s.getD (ascii "(null)")

/-- `a,b,c`. -/
def commaSeparated (fields : List CString) : CString := [44].intercalate fields

/-- The loop `for (p = line ; *p != '\0' ;p++) if (*p == ',') commas++`. -/
def commas (line : CString) : Nat := line.count 44

/-! ### Steps the handlers share -/

/-- The ints the data points to. -/
def intsOf : RequestData → List Word
  | .ints pInts => pInts
  | _ => []

/-- The strings the data points to. -/
def stringsOf : RequestData → List (Option CString)
  | .strings pStrings => pStrings
  | _ => []

namespace Handler

def atSendCommand (command : CString) : Handler AtResult :=
  send ⟨command, .noResult, none, none, 0, true⟩ done

/-- With a NULL `pp_outResponse`, where the handler looks at nothing. -/
def atSendCommandDropped (command : CString) : Handler Unit :=
  send ⟨command, .noResult, none, none, 0, false⟩ fun _ => done ()

def atSendCommandSingleline (command responsePrefix : CString) : Handler AtResult :=
  send ⟨command, .singleline, some responsePrefix, none, 0, true⟩ fun result =>
    done result.requireIntermediate

def atSendCommandNumeric (command : CString) : Handler AtResult :=
  send ⟨command, .numeric, none, none, 0, true⟩ fun result => done result.requireIntermediate

def atSendCommandSms (command pdu responsePrefix : CString) : Handler AtResult :=
  send ⟨command, .singleline, some responsePrefix, some pdu, 0, true⟩ fun result =>
    done result.requireIntermediate

def atSendCommandMultiline (command responsePrefix : CString) : Handler AtResult :=
  send ⟨command, .multiline, some responsePrefix, none, 0, true⟩ done

/-- `p_response->p_intermediates->line`. -/
def firstLine (response : AtResponse) : Handler CString :=
  match response.pIntermediates with
  | [] => fault .response
  | line :: _ => done line

/-- `((int *)data)[0]`. -/
def intAt0 (data : RequestData) : Handler Word :=
  match (intsOf data).head? with
  | none => fault .data
  | some first => done first

/-- `((const char **)data)[i]`. -/
def stringAt (data : RequestData) (i : Nat) : Handler (Option CString) :=
  match (stringsOf data)[i]? with
  | none => fault .data
  | some s => done s

/-- `*s`, where the string is read to its end. -/
def stringOf (cause : Fault) : Option CString → Handler CString
  | none => fault cause
  | some s => done s

/-- `RIL_onRequestComplete`. -/
def rilOnRequestComplete (t : Nat) (e : Word) (response : ResponseData) (responselen : Nat) :
    Handler Unit :=
  complete ⟨t, e, response, responselen⟩ (done ())

/-- `RIL_onRequestComplete(t, RIL_E_GENERIC_FAILURE, NULL, 0)`. -/
def genericFailure (t : Nat) : Handler Unit := rilOnRequestComplete t rilEGenericFailure .null 0

/-- `RIL_onRequestComplete(t, RIL_E_SUCCESS, NULL, 0)`. -/
def success (t : Nat) : Handler Unit := rilOnRequestComplete t rilESuccess .null 0

def setRadioState (newState : RadioState) : Handler Unit :=
  perform (.setRadioState newState) (done ())

end Handler

open Handler

/-- What a loop that fills an array of a fixed size comes to: the entries, an exit with
`goto error`, or a write behind the array. -/
inductive Filled (α : Type)
  | filled (entries : List α)
  | failed
  | overrun
  deriving DecidableEq, Repr

/-- `for (i = 0, ..; ..; i++)` around something that may fail and then writes `array[i]`. -/
def fillArray {α β : Type} (size : Nat) (parse : α → Option β) : List α → List β → Filled β
  | [], array => .filled array
  | next :: behind, array =>
      match parse next with
      | none => .failed
      | some entry =>
          if size ≤ array.length then .overrun else fillArray size parse behind (array ++ [entry])

/-- `for (i = 0; i <= commas; i++) at_tok_nextstr(&line, &(response[i]))`: so many calls,
from this pointer. -/
def fillStrings (size : Nat) :
    Nat → Option CString → List (Option CString) → Filled (Option CString)
  | 0, _, response => .filled response
  | calls + 1, pCur, response =>
      let scanned := atTokNextstr pCur none
      if scanned.err < 0 then .failed
      else if size ≤ response.length then .overrun
      else fillStrings size calls scanned.pCur (response ++ [scanned.out])

/-- The fields of a line, as `requestPsCsStat`, `requestPdpAddr` and `requestDhcpInfo` read
them into `char *response[10]`. -/
def lineFields (line : CString) : Filled (Option CString) :=
  let scanned := atTokStart (some line)
  if scanned.err < 0 then .failed else fillStrings 10 (commas line + 1) scanned.pCur []

section Requests

variable (abi : Abi) (data : RequestData) (datalen : Nat) (t : Nat)

/-! ### Calls -/

def rilCallActive : Word := 0
def rilCallHolding : Word := 1

/-- `clccStateToRILState`. The states have the numbers of the `RIL_CallState`s. -/
def clccStateToRilState (state : Word) : Option Word :=
  if state.toNat ≤ 5 then some state else none

/-- `callFromCLCCLine`: whether the line is valid, and the slot behind the call. A line that
is not leaves what was written before the error. -/
def callFromClccLine (line : CString) (pCall : RilCall) : Bool × RilCall :=
  let start := atTokStart (some line)
  if start.err < 0 then (false, pCall) else
  let index := atTokNextint abi start.pCur pCall.index
  let pCall := { pCall with index := index.out }
  if index.err < 0 then (false, pCall) else
  let isMT := atTokNextbool abi index.pCur pCall.isMT
  let pCall := { pCall with isMT := isMT.out }
  if isMT.err < 0 then (false, pCall) else
  let state := atTokNextint abi isMT.pCur 0
  if state.err < 0 then (false, pCall) else
  match clccStateToRilState state.out with
  | none => (false, pCall)
  | some callState =>
      let pCall := { pCall with state := callState }
      let mode := atTokNextint abi state.pCur 0
      if mode.err < 0 then (false, pCall) else
      let pCall := { pCall with isVoice := if mode.out = 0 then 1 else 0 }
      let isMpty := atTokNextbool abi mode.pCur pCall.isMpty
      let pCall := { pCall with isMpty := isMpty.out }
      if isMpty.err < 0 then (false, pCall) else
      if atTokHasmore isMpty.pCur then
        let number := atTokNextstr isMpty.pCur pCall.number
        let pCall := { pCall with number := number.out }
        -- tolerate null here
        if number.err < 0 then (true, pCall) else
        -- Some lame implementations return strings like "NOT AVAILABLE" in the CLCC line
        let pCall := { pCall with
          number := pCall.number.filter fun number =>
            (ascii "+0123456789").contains (number.headD 0) }
        let toa := atTokNextint abi number.pCur pCall.toa
        let pCall := { pCall with toa := toa.out }
        if toa.err < 0 then (false, pCall) else (true, { pCall with uusInfo := none })
      else (true, { pCall with uusInfo := none })

/-- A slot behind `memset (p_calls, 0, ..)`. -/
def zeroCall : RilCall where
  state := 0
  index := 0
  toa := 0
  isMpty := 0
  isMT := 0
  als := 0
  isVoice := 0
  isVoicePrivacy := 0
  number := none
  numberPresentation := 0
  name := none
  namePresentation := 0
  uusInfo := none

/-- The loop over the lines: the calls so far, the slot at `countValidCalls`, and
`needRepoll`. -/
def readCalls : List CString → List RilCall → RilCall → Bool → List RilCall × Bool
  | [], calls, _, needRepoll => (calls, needRepoll)
  | line :: lines, calls, slot, needRepoll =>
      let (valid, call) := callFromClccLine abi line slot
      if !valid then readCalls lines calls call needRepoll
      else
        let repoll := call.state ≠ rilCallActive ∧ call.state ≠ rilCallHolding
        readCalls lines (calls ++ [call]) zeroCall (needRepoll || repoll)

def requestGetCurrentCalls : Handler Unit := do
  let result ← atSendCommandMultiline (ascii "AT+CLCC") (ascii "+CLCC:")
  match result.succeeded with
  | none => genericFailure t
  | some response =>
      let (calls, needRepoll) := readCalls abi response.pIntermediates [] zeroCall false
      rilOnRequestComplete t rilESuccess (.calls calls) (calls.length * abi.ptrSize)
      if needRepoll then perform .requestTimedCallback (done ()) else done ()

def requestDial : Handler Unit :=
  match data with
  | .dial pDial => do
      let clir := if pDial.clir = 1 then ascii "I" else if pDial.clir = 2 then ascii "i" else []
      atSendCommandDropped (ascii "ATD" ++ text pDial.address ++ clir ++ ascii ";")
      success t
  | _ => fault .data

def requestHangup : Handler Unit := do
  let line ← intAt0 data
  atSendCommandDropped (ascii "AT+CHLD=1" ++ decimal line.toInt)
  success t

/-- `RIL_REQUEST_SEPARATE_CONNECTION`. -/
def requestSeparateConnection : Handler Unit := do
  let party ← intAt0 data
  if 0 < party.toInt ∧ party.toInt < 10 then
    atSendCommandDropped (ascii "AT+CHLD=2" ++ decimal party.toInt)
    success t
  else genericFailure t

/-- `RIL_REQUEST_DTMF`: the first character of the string. -/
def requestDtmf : Handler Unit :=
  match data with
  | .string s => do
      atSendCommandDropped (ascii "AT+VTS=" ++ cString [s.headD 0])
      success t
  | _ => fault .data

/-- A request that sends one command and ignores what comes of it. -/
def requestIgnored (command : CString) : Handler Unit := do
  atSendCommandDropped command
  success t

/-! ### SIM -/

/-- `SIM_Status`. -/
inductive SimStatus
  | absent | notReady | ready | pin | puk | networkPersonalization
  deriving DecidableEq, Repr

/-- `AT_CME_Error`. -/
def cmeErrorNonCme : Word := -1
def cmeSuccess : Word := 0
def cmeSimNotInserted : Word := 10

def atGetCmeError (response : AtResponse) : Word :=
  if response.success then cmeSuccess
  else match response.finalResponse with
    | none => cmeErrorNonCme
    | some line =>
        if !strStartsWith line (ascii "+CME ERROR:") then cmeErrorNonCme
        else (Tok.read line (do Tok.start; Tok.nextint abi)).getD cmeErrorNonCme

/-- What the answer of `AT+CPIN?` stands for. -/
def simStatusOfCpin (cpinResult : CString) : SimStatus :=
  if cpinResult = ascii "SIM PIN" then .pin
  else if cpinResult = ascii "SIM PUK" then .puk
  else if cpinResult = ascii "PH-NET PIN" then .networkPersonalization
  -- we're treating unsupported lock types as "sim absent"
  else if cpinResult ≠ ascii "READY" then .absent
  else .ready

/-- Behind the check of the radio state. -/
def querySimStatus : Handler SimStatus := do
  let result ← atSendCommandSingleline (ascii "AT+CPIN?") (ascii "+CPIN:")
  match result.answer with
  | none => done .notReady
  | some response =>
      let cmeError := atGetCmeError abi response
      if cmeError = cmeSimNotInserted then done .absent
      else if cmeError ≠ cmeSuccess then done .notReady
      else
        let cpinLine ← firstLine response
        match Tok.read cpinLine (do Tok.start; Tok.nextstr) with
        | none => done .notReady
        | some cpinResult => do
            let cpinResult ← stringOf .response cpinResult
            done (simStatusOfCpin cpinResult)

def getSimStatus : Handler SimStatus :=
  readState fun state =>
    if state = .off then done .notReady
    else readState fun state =>
      if state = .unavailable then done .notReady else querySimStatus abi

def rilCardMaxApps : Nat := 8

/-- `app_status_array`. -/
def appStatusArray : SimStatus → RilAppStatus
  | .absent => ⟨0, 0, 0, none, none, 0, 0, 0⟩
  | .notReady => ⟨1, 1, 0, none, none, 0, 0, 0⟩
  | .ready => ⟨1, 5, 2, none, none, 0, 0, 0⟩
  | .pin => ⟨1, 2, 0, none, none, 0, 1, 0⟩
  | .puk => ⟨1, 3, 0, none, none, 0, 4, 0⟩
  | .networkPersonalization => ⟨1, 4, 3, none, none, 0, 1, 0⟩

/-- `getCardStatus`, which always succeeds. -/
def cardStatusOf (simStatus : SimStatus) : RilCardStatus :=
  if simStatus = .absent then
    { cardState := 0
      universalPinState := 0
      gsmUmtsSubscriptionAppIndex := BitVec.ofNat 32 rilCardMaxApps
      cdmaSubscriptionAppIndex := BitVec.ofNat 32 rilCardMaxApps
      numApplications := 0
      applications := fun _ => appStatusArray .absent }
  else
    { cardState := 1
      universalPinState := 0
      gsmUmtsSubscriptionAppIndex := 0
      cdmaSubscriptionAppIndex := BitVec.ofNat 32 rilCardMaxApps
      numApplications := 1
      -- only support one app, gsm
      applications := fun i => appStatusArray (if i = 0 then simStatus else .absent) }

def sizeofAppStatus : Nat := structSize [4, 4, 4, abi.ptrSize, abi.ptrSize, 4, 4, 4]

/-- Five ints, and the applications at the next multiple of a pointer's size. -/
def sizeofCardStatus : Nat :=
  structSize [4, 4, 4, 4, 4, abi.ptrSize] - abi.ptrSize + rilCardMaxApps * sizeofAppStatus abi

/-- `RIL_REQUEST_GET_SIM_STATUS`. -/
def requestGetSimStatus : Handler Unit := do
  let simStatus ← getSimStatus abi
  rilOnRequestComplete t rilESuccess (.cardStatus (cardStatusOf simStatus)) (sizeofCardStatus abi)

/-- The requests that answer with the line of a numeric command. -/
def requestNumeric (command : CString) : Handler Unit := do
  let result ← atSendCommandNumeric command
  match result.succeeded with
  | none => genericFailure t
  | some response =>
      let line ← firstLine response
      rilOnRequestComplete t rilESuccess (.string line) abi.ptrSize

def requestSimIo : Handler Unit :=
  match data with
  | .simIo pArgs => do
      let arguments := ([pArgs.command, pArgs.fileid, pArgs.p1, pArgs.p2, pArgs.p3].map
        fun argument => decimal argument.toInt) ++ pArgs.data.toList
      let result ← atSendCommandSingleline (ascii "AT+CRSM=" ++ commaSeparated arguments)
        (ascii "+CRSM:")
      match result.succeeded with
      | none => genericFailure t
      | some response =>
          let line ← firstLine response
          match Tok.read line (do
            Tok.start
            let sw1 ← Tok.nextint abi
            let sw2 ← Tok.nextint abi
            if ← Tok.hasmore then
              let simResponse ← Tok.nextstr
              pure (RilSimIoResponse.mk sw1 sw2 simResponse)
            else pure ⟨sw1, sw2, none⟩) with
          | none => genericFailure t
          | some sr => rilOnRequestComplete t rilESuccess (.simIo sr) abi.sizeofSimIoResponse
  | _ => fault .data

def requestEnterSimPin : Handler Unit := do
  let send (arguments : List (Option CString)) : Handler Unit := do
    let result ← atSendCommandSingleline
      (ascii "AT+CPIN=" ++ commaSeparated (arguments.map text)) (ascii "+CPIN:")
    if result.succeeded.isNone then rilOnRequestComplete t rilEPasswordIncorrect .null 0
    else success t
  if datalen = abi.ptrSize then
    let pin ← stringAt data 0
    send [pin]
  else if datalen = 2 * abi.ptrSize then
    let pin ← stringAt data 0
    let second ← stringAt data 1
    send [pin, second]
  else rilOnRequestComplete t rilEPasswordIncorrect .null 0

/-! ### Messages -/

def requestSendSms : Handler Unit := do
  let smsc ← stringAt data 0
  let pdu ← stringAt data 1
  let pdu ← stringOf .data pdu
  -- NULL for default SMSC
  let smsc := smsc.getD (ascii "00")
  let result ← atSendCommandSms (ascii "AT+CMGS=" ++ decimal (pdu.length / 2 : Nat))
    (smsc ++ pdu) (ascii "+CMGS:")
  if result.succeeded.isNone then genericFailure t
  else rilOnRequestComplete t rilESuccess (.sms ⟨0, none, 0⟩) abi.sizeofSmsResponse

/-- Both branches that send a command run on into the label `error`. -/
def requestSmsAcknowledge : Handler Unit := do
  let ackSuccess ← intAt0 data
  if ackSuccess = 1 then
    atSendCommandDropped (ascii "AT+CNMA=1")
    success t
    genericFailure t
  else if ackSuccess = 0 then
    atSendCommandDropped (ascii "AT+CNMA=2")
    success t
    genericFailure t
  else genericFailure t

def requestWriteSmsToSim : Handler Unit :=
  match data with
  | .smsWrite pArgs => do
      let pdu ← stringOf .data pArgs.pdu
      let result ← atSendCommandSms (ascii "AT+CMGW=" ++
        commaSeparated [decimal (pdu.length / 2 : Nat), decimal pArgs.status.toInt])
        pdu (ascii "+CMGW:")
      if result.succeeded.isNone then genericFailure t else success t
  | _ => fault .data

/-- `RIL_REQUEST_DELETE_SMS_ON_SIM`. -/
def requestDeleteSmsOnSim : Handler Unit := do
  let index ← intAt0 data
  let result ← atSendCommand (ascii "AT+CMGD=" ++ decimal index.toInt)
  if result.succeeded.isNone then genericFailure t else success t

def requestSendUssd : Handler Unit := rilOnRequestComplete t rilERequestNotSupported .null 0

/-! ### Network -/

/-- `isRadioOn`, whose query is compiled out. -/
def isRadioOn : Int := 1

def requestRadioPower : Handler Unit := do
  if datalen < abi.ptrSize then fault .data
  else
    let onOff ← intAt0 data
    if onOff = 0 then
      readState fun state => do
        if state ≠ .off then
          let result ← atSendCommand (ascii "AT+CFUN=0")
          if result.succeeded.isNone then genericFailure t
          else
            setRadioState .off
            success t
        else success t
    else if 0 < onOff.toInt then
      readState fun state => do
        if state = .off then
          let result ← atSendCommand (ascii "AT+CFUN=1")
          -- some stacks return an error when there is no SIM
          if result.succeeded.isNone ∧ isRadioOn ≠ 1 then genericFailure t
          else
            setRadioState .simNotReady
            success t
        else success t
    else success t

def requestQueryNetworkSelectionMode : Handler Unit := do
  let result ← atSendCommandSingleline (ascii "AT+COPS?") (ascii "+COPS:")
  match result.succeeded with
  | none => genericFailure t
  | some response =>
      let line ← firstLine response
      match Tok.read line (do Tok.start; Tok.nextint abi) with
      | none => genericFailure t
      | some mode => rilOnRequestComplete t rilESuccess (.ints [mode]) 4

/-- A failed command completes the request and then goes to the label `error`, which
completes it again. -/
def requestSignalStrength : Handler Unit := do
  let result ← atSendCommandSingleline (ascii "AT+CSQ") (ascii "+CSQ:")
  match result.succeeded with
  | none => do
      genericFailure t
      genericFailure t
  | some response =>
      let line ← firstLine response
      match Tok.read line (do
        Tok.start
        let rssi ← Tok.nextint abi
        let ber ← Tok.nextint abi
        pure [rssi, ber]) with
      | none => genericFailure t
      | some strength => rilOnRequestComplete t rilESuccess (.ints strength) 8

/-- The switch over the number of commas behind the colon: `response[0]` and on. -/
def registrationFields (line : CString) : Option (List Word) :=
  Tok.read line do
    Tok.start
    let rest ← Tok.rest
    match commas rest with
    | 0 =>
        let stat ← Tok.nextint abi
        pure [stat, -1, -1]
    | 1 =>
        let _skip ← Tok.nextint abi
        let stat ← Tok.nextint abi
        pure [stat, -1, -1]
    | 2 =>
        let stat ← Tok.nextint abi
        let lac ← Tok.nexthexint abi
        let cid ← Tok.nexthexint abi
        pure [stat, lac, cid]
    | 3 =>
        let _skip ← Tok.nextint abi
        let stat ← Tok.nextint abi
        let lac ← Tok.nexthexint abi
        let cid ← Tok.nexthexint abi
        pure [stat, lac, cid]
    -- special case for CGREG, there is a fourth parameter that is the network type
    | 4 =>
        let _skip ← Tok.nextint abi
        let stat ← Tok.nextint abi
        let lac ← Tok.nexthexint abi
        let cid ← Tok.nexthexint abi
        let networkType ← Tok.nexthexint abi
        pure [stat, lac, cid, networkType]
    | _ => failure

/-- `responseStr[i]`: `%d` for the state and the network type, `%x` for the others. -/
def registrationStrings (response : List Word) : List (Option CString) :=
  response.mapIdx fun i field =>
    some (if i = 0 ∨ i = 3 then decimal field.toInt else hexadecimal field)

/-- The success of the command is not looked at. -/
def requestRegistrationState (command responsePrefix : CString) : Handler Unit := do
  let result ← atSendCommandSingleline command responsePrefix
  match result.answer with
  | none => genericFailure t
  | some response =>
      let line ← firstLine response
      match registrationFields abi line with
      | none => genericFailure t
      | some fields =>
          rilOnRequestComplete t rilESuccess (.strings (registrationStrings fields))
            (fields.length * abi.ptrSize)

/-- One line of the answer in `requestOperator`: none for `goto error`, a NULL entry for a
line without a name. -/
def operatorName (line : CString) : Option (Option CString) :=
  Tok.read line do
    Tok.start
    let _skip ← Tok.nextint abi
    -- if we're unregistered, we may just get a "+COPS: 0" response
    if !(← Tok.hasmore) then pure none
    else
      let _skip ← Tok.nextint abi
      -- a "+COPS: 0, n" response is also possible
      if !(← Tok.hasmore) then pure none
      else Tok.nextstr

/-- The success of the command is not looked at. -/
def requestOperator : Handler Unit := do
  let result ← atSendCommandMultiline (ascii "AT+COPS=3,0;+COPS?;+COPS=3,1;+COPS?;+COPS=3,2;+COPS?")
    (ascii "+COPS:")
  match result.answer with
  | none => genericFailure t
  | some response =>
      match fillArray 3 (operatorName abi) response.pIntermediates [] with
      | .overrun => fault .array
      | .failed => genericFailure t
      | .filled names =>
          -- expect 3 lines exactly
          if names.length ≠ 3 then genericFailure t
          else rilOnRequestComplete t rilESuccess (.strings names) (3 * abi.ptrSize)

/-! ### Data calls -/

/-- The loop over the answer of `AT+CGACT?`. -/
def activeDataCalls (lines : List CString) : Option (List RilDataCallResponse) :=
  lines.mapM fun line => Tok.read line do
    Tok.start
    let cid ← Tok.nextint abi
    let active ← Tok.nextint abi
    pure ⟨cid, active, some [], some [], some []⟩

/-- One line of the answer of `AT+CGDCONT?`. The details of a context that is not listed
are skipped. -/
def describeDataCall (responses : List RilDataCallResponse) (line : CString) :
    Option (List RilDataCallResponse) :=
  Tok.read line do
    Tok.start
    let cid ← Tok.nextint abi
    match responses.findIdx? (·.cid = cid) with
    | none => pure responses
    | some i =>
        let type ← Tok.nextstr
        let apn ← Tok.nextstr
        let address ← Tok.nextstr
        pure (responses.modify i fun response => { response with type, apn, address })

/-- Where the list goes: to the request, or out unsolicited for a NULL token. -/
def reportDataCallList (t : Option Nat) (e : Word) (responses : ResponseData) (size : Nat) :
    Handler Unit :=
  match t with
  | some t => rilOnRequestComplete t e responses size
  | none => perform (.onUnsolicitedResponse rilUnsolDataCallListChanged responses size) (done ())

def requestOrSendDataCallList (t : Option Nat) : Handler Unit := do
  let error : Handler Unit := reportDataCallList t rilEGenericFailure .null 0
  let result ← atSendCommandMultiline (ascii "AT+CGACT?") (ascii "+CGACT:")
  match result.succeeded with
  | none => error
  | some response =>
      match activeDataCalls abi response.pIntermediates with
      | none => error
      | some responses => do
          let result ← atSendCommandMultiline (ascii "AT+CGDCONT?") (ascii "+CGDCONT:")
          match result.succeeded with
          | none => error
          | some response =>
              match response.pIntermediates.foldlM (describeDataCall abi) responses with
              | none => error
              | some responses =>
                  reportDataCallList t rilESuccess (.dataCalls responses)
                    (responses.length * abi.sizeofDataCallResponse)

def pppTtyPath : CString := ascii "/dev/appvcom"

/-- The loop that waits for the interface, with so many retries left: whether it comes
online. -/
def qmiOnline (reads : Nat → Option (List UInt8)) : Nat → Nat → Bool
  | _, 0 => false
  | n, retry + 1 =>
      match reads n with
      | none => false
      | some bytes =>
          let status := cString (bytes.take 31)
          if (ascii "STATE=up").isPrefixOf status || status == ascii "online" then true
          else qmiOnline reads (n + 1) retry

/-- Whether the data call is up, over the QMI device. -/
def qmiUp (device : QmiDevice) (apn : Option CString) : Bool :=
  (writeLoop device.script (ascii "up:" ++ text apn)).complete &&
    qmiOnline device.reads 0 10 && decide (0 ≤ device.qmistatus)

def requestSetupDataCall : Handler Unit := do
  let apn ← stringAt data 2
  let succeed := rilOnRequestComplete t rilESuccess
    (.strings [some (ascii "1"), some pppTtyPath]) (2 * abi.ptrSize)
  openQmi fun device => do
    match device with
    | some device => if qmiUp device apn then succeed else genericFailure t
    | none =>
        atSendCommandDropped (ascii "AT+CGDCONT=1,\"IP\",\"" ++ text apn ++ ascii "\",,0,0")
        -- Set required QoS params to default
        atSendCommandDropped (ascii "AT+CGQREQ=1")
        -- Set minimum QoS params to default
        atSendCommandDropped (ascii "AT+CGQMIN=1")
        -- packet-domain event reporting
        atSendCommandDropped (ascii "AT+CGEREP=1,0")
        -- Hangup anything that's happening there now
        atSendCommandDropped (ascii "AT+CGACT=1,0")
        -- Start data on PDP context 1
        let result ← atSendCommand (ascii "ATD*99***1#")
        if result.succeeded.isNone then genericFailure t else succeed

/-! ### The requests of this board -/

/-- The command with the first string behind it, if there is one string, else with what the
board asks otherwise. -/
def stringCommand (command otherwise : CString) : Handler CString :=
  if datalen = abi.ptrSize then do
    let argument ← stringAt data 0
    done (command ++ text argument)
  else done (command ++ otherwise)

/-- A failed command completes the request and then goes to the label `error`, which
completes it again. -/
def requestPortList : Handler Unit := do
  let command ← stringCommand abi data datalen (ascii "AT^SETPORT") (ascii "=?")
  let result ← atSendCommandMultiline command (ascii "^SETPORT:")
  match result.succeeded with
  | none => do
      genericFailure t
      genericFailure t
  | some response =>
      match fillArray 20 (fun line => some (some line)) response.pIntermediates [] with
      | .overrun => fault .array
      | .failed => genericFailure t
      | .filled ports =>
          rilOnRequestComplete t rilESuccess (.strings ports) (ports.length * abi.ptrSize)

/-- What `requestPsCsStat`, `requestPdpAddr` and `requestDhcpInfo` do with a line. -/
def completeWithFields (line : CString) : Handler Unit :=
  match lineFields line with
  | .overrun => fault .array
  | .failed => genericFailure t
  | .filled fields =>
      rilOnRequestComplete t rilESuccess (.strings fields) ((commas line + 1) * abi.ptrSize)

/-- The command of `requestPsCsStat`. -/
def psCsStatCommand : Handler CString :=
  if datalen = abi.ptrSize then done (ascii "AT^CGCATT?")
  else if datalen = 2 * abi.ptrSize then do
    let first ← stringAt data 0
    let second ← stringAt data 1
    done (ascii "AT^CGCATT=" ++ commaSeparated [text first, text second])
  else done (ascii "AT^CGCATT=?")

/-- What `requestPsCsStat` does with its command. Behind a NULL response the command is sent
again, and the message about a failure reads `p_response->success`. -/
def sendPsCsStat (command : CString) : Handler Unit := do
  let result ← atSendCommandSingleline command (ascii "^CGCATT:")
  if result.pResponse.isNone then
    let result ← atSendCommand command
    if result.succeeded.isNone then
      if result.pResponse.isNone then fault .response else genericFailure t
    else rilOnRequestComplete t rilESuccess (.strings [some (ascii "N")]) abi.ptrSize
  else match result.succeeded with
    | none => do
        genericFailure t
        genericFailure t
    | some response =>
        let line ← firstLine response
        completeWithFields abi t line

def requestPsCsStat : Handler Unit := do
  let command ← psCsStatCommand abi data datalen
  sendPsCsStat abi t command

def requestNdisDial : Handler Unit := do
  let command ← stringCommand abi data datalen (ascii "AT^NDISDUP") (ascii "=1,1,\"CMNET\"")
  atSendCommandDropped command
  success t

/-- What `requestPdpAddr` and `requestDhcpInfo` do behind their command. -/
def requestFields (command responsePrefix : CString) : Handler Unit := do
  let result ← atSendCommandSingleline command responsePrefix
  match result.succeeded with
  | none => do
      genericFailure t
      genericFailure t
  | some response =>
      match response.pIntermediates.head? with
      | some line => completeWithFields abi t line
      | none => success t

def requestPdpAddr : Handler Unit := do
  let command ← stringCommand abi data datalen (ascii "AT+CGPADDR") []
  requestFields abi t command (ascii "+CGPADDR:")

def requestDhcpInfo : Handler Unit := do
  let command ← stringCommand abi data datalen (ascii "AT^DHCP") (ascii "=?")
  requestFields abi t command (ascii "^DHCP:")

/-- `RIL_REQUEST_OEM_HOOK_STRINGS`: the loop that prints the strings reads so many of them. -/
def requestOemHookStrings : Handler Unit :=
  let count := (BitVec.ofNat 32 (datalen / abi.ptrSize)).toInt
  if ((stringsOf data).length : Int) < count then fault .data
  else rilOnRequestComplete t rilESuccess (.echo data) datalen

end Requests

/-! ### onRequest -/

/-- The switch of `onRequest`. -/
def switchRequest (abi : Abi) (call : OnRequest) : Handler Unit :=
  let ⟨request, data, datalen, t⟩ := call
  match request with
  | .getSimStatus => requestGetSimStatus abi t
  | .getCurrentCalls => requestGetCurrentCalls abi t
  | .dial => requestDial data t
  | .hangup => requestHangup data t
  | .hangupWaitingOrBackground => requestIgnored t (ascii "AT+CHLD=0")
  | .hangupForegroundResumeBackground => requestIgnored t (ascii "AT+CHLD=1")
  | .switchWaitingOrHoldingAndActive => requestIgnored t (ascii "AT+CHLD=2")
  | .answer => requestIgnored t (ascii "ATA")
  | .conference => requestIgnored t (ascii "AT+CHLD=3")
  | .udub => requestIgnored t (ascii "ATH")
  | .separateConnection => requestSeparateConnection data t
  | .signalStrength => requestSignalStrength abi t
  | .registrationState => requestRegistrationState abi t (ascii "AT+CREG?") (ascii "+CREG:")
  | .gprsRegistrationState => requestRegistrationState abi t (ascii "AT+CGREG?") (ascii "+CGREG:")
  | .operator => requestOperator abi t
  | .radioPower => requestRadioPower abi data datalen t
  | .dtmf => requestDtmf data t
  | .sendSms => requestSendSms abi data t
  | .setupDataCall => requestSetupDataCall abi data t
  | .smsAcknowledge => requestSmsAcknowledge data t
  | .getImsi => requestNumeric abi t (ascii "AT+CIMI")
  | .getImei => requestNumeric abi t (ascii "AT+CGSN")
  | .simIo => requestSimIo abi data t
  | .sendUssd => requestSendUssd t
  | .cancelUssd => requestNumeric abi t (ascii "AT+CUSD=2")
  -- this case completes nothing
  | .setNetworkSelectionAutomatic => atSendCommandDropped (ascii "AT+COPS=0")
  | .dataCallList => requestOrSendDataCallList abi (some t)
  | .queryNetworkSelectionMode => requestQueryNetworkSelectionMode abi t
  -- echo back data
  | .oemHookRaw => rilOnRequestComplete t rilESuccess (.echo data) datalen
  | .oemHookStrings => requestOemHookStrings abi data datalen t
  | .writeSmsToSim => requestWriteSmsToSim data t
  | .deleteSmsOnSim => requestDeleteSmsOnSim data t
  | .enterSimPin | .enterSimPuk | .enterSimPin2 | .enterSimPuk2 | .changeSimPin | .changeSimPin2 =>
      requestEnterSimPin abi data datalen t
  | .supportPorts => requestPortList abi data datalen t
  | .pscsBindState => requestPsCsStat abi data datalen t
  | .ndisDial => requestNdisDial abi data datalen t
  | .pdpAddr => requestPdpAddr abi data datalen t
  | .dhcpInfo => requestDhcpInfo abi data datalen t
  | _ => rilOnRequestComplete t rilERequestNotSupported .null 0

/-- `onRequest`. `sState` is read for each of the two checks. -/
def onRequest (abi : Abi) (call : OnRequest) : Handler Unit :=
  readState fun state =>
    -- ignore all requests except GET_SIM_STATUS when RADIO_STATE_UNAVAILABLE
    if state = .unavailable ∧ call.request ≠ .getSimStatus then
      rilOnRequestComplete call.t rilERadioNotAvailable .null 0
    else readState fun state =>
      -- ignore all non-power requests when RADIO_STATE_OFF, except GET_SIM_STATUS
      if state = .off ∧ ¬ (call.request = .radioPower ∨ call.request = .getSimStatus) then
        rilOnRequestComplete call.t rilERadioNotAvailable .null 0
      else switchRequest abi call

end RildHisi.ReferenceRil
