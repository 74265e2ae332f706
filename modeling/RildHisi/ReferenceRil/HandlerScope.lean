import RildHisi.AtChannel.CommandResult
import RildHisi.ReferenceRil.Handlers

/-!
Owns which AT commands the request handlers send and which requests they complete: for
any predicates on commands and completions, that all those of a program satisfy them,
whatever the program meets.

`onRequest_within` says it of every request: commands whose type reads a response prefix
have one, none of them has a timeout, and only the request itself is completed.
-/

namespace RildHisi.ReferenceRil

open RildHisi.AtChannel RildHisi.Library RildHisi.Libril

namespace Handler

variable {α β : Type} {sends : Command → Prop} {completes : Completion → Prop}

/-- Every command that the program sends and every completion it makes, whatever it meets. -/
def Within (sends : Command → Prop) (completes : Completion → Prop) : Handler α → Prop
  | done _ | fault _ => True
  | send command next => sends command ∧ ∀ result, (next result).Within sends completes
  | readState next => ∀ state, (next state).Within sends completes
  | openQmi next => ∀ device, (next device).Within sends completes
  | complete completion next => completes completion ∧ next.Within sends completes
  | perform _ next => next.Within sends completes

theorem Within.bind {handler : Handler α} {next : α → Handler β}
    (within : handler.Within sends completes)
    (behind : ∀ result, (next result).Within sends completes) :
    (handler >>= next).Within sends completes := by
  induction handler with
  | done result => exact behind result
  | fault cause => trivial
  | send command after inductionHypothesis =>
      exact ⟨within.1, fun result => inductionHypothesis result (within.2 result)⟩
  | readState after inductionHypothesis =>
      exact fun state => inductionHypothesis state (within state)
  | openQmi after inductionHypothesis =>
      exact fun device => inductionHypothesis device (within device)
  | complete completion after inductionHypothesis =>
      exact ⟨within.1, inductionHypothesis within.2⟩
  | perform effect after inductionHypothesis => exact inductionHypothesis within

theorem Within.ite {condition : Prop} [Decidable condition] {first second : Handler α}
    (yes : first.Within sends completes) (no : second.Within sends completes) :
    (if condition then first else second).Within sends completes := by
  split_ifs
  · exact yes
  · exact no

/-! Steps that send and complete nothing. -/

section Silent

variable (data : RequestData)

theorem within_firstLine (response : AtResponse) : (firstLine response).Within sends completes := by
  unfold firstLine
  cases response.pIntermediates <;> trivial

theorem within_intAt0 : (intAt0 data).Within sends completes := by
  unfold intAt0
  cases (intsOf data).head? <;> trivial

theorem within_stringAt (i : Nat) : (stringAt data i).Within sends completes := by
  unfold stringAt
  cases (stringsOf data)[i]? <;> trivial

theorem within_stringOf (cause : Fault) (s : Option CString) :
    (stringOf cause s).Within sends completes := by
  cases s <;> trivial

theorem within_stringCommand (abi : Abi) (datalen : Nat) (command otherwise : CString) :
    (stringCommand abi data datalen command otherwise).Within sends completes :=
  .ite ((within_stringAt data 0).bind fun _ => trivial) trivial

end Silent

end Handler

open Handler

/-! ### The commands of the handlers -/

/-- The prefix is given where the type reads it, and the command waits for ever. -/
def Untimed (command : Command) : Prop := command.Prefixed ∧ command.timeoutMsec = 0

instance (command : Command) : Decidable (Untimed command) :=
  inferInstanceAs (Decidable (_ ∧ _))

theorem untimed_prefixed (command responsePrefix : CString) (type : AtCommandType)
    (smspdu : Option CString) (wantsResponse : Bool) :
    Untimed ⟨command, type, some responsePrefix, smspdu, 0, wantsResponse⟩ :=
  ⟨fun _ => rfl, rfl⟩

theorem untimed_noResult (command : CString) (wantsResponse : Bool) :
    Untimed ⟨command, .noResult, none, none, 0, wantsResponse⟩ := by
  refine ⟨?_, rfl⟩
  rintro (same | same) <;> cases same

theorem untimed_numeric (command : CString) (wantsResponse : Bool) :
    Untimed ⟨command, .numeric, none, none, 0, wantsResponse⟩ := by
  refine ⟨?_, rfl⟩
  rintro (same | same) <;> cases same

section Primitives

variable {β : Type} {completes : Completion → Prop} {next : AtResult → Handler β}
  (command : CString)

theorem within_dropped : (atSendCommandDropped command).Within Untimed completes :=
  ⟨untimed_noResult command false, fun _ => trivial⟩

theorem within_atSendCommand (behind : ∀ result, (next result).Within Untimed completes) :
    (atSendCommand command >>= next).Within Untimed completes :=
  ⟨untimed_noResult command true, behind⟩

theorem within_singleline (responsePrefix : CString)
    (behind : ∀ result, (next result).Within Untimed completes) :
    (atSendCommandSingleline command responsePrefix >>= next).Within Untimed completes :=
  ⟨untimed_prefixed command responsePrefix _ _ _, fun result => behind result.requireIntermediate⟩

theorem within_numeric (behind : ∀ result, (next result).Within Untimed completes) :
    (atSendCommandNumeric command >>= next).Within Untimed completes :=
  ⟨untimed_numeric command true, fun result => behind result.requireIntermediate⟩

theorem within_sms (pdu responsePrefix : CString)
    (behind : ∀ result, (next result).Within Untimed completes) :
    (atSendCommandSms command pdu responsePrefix >>= next).Within Untimed completes :=
  ⟨untimed_prefixed command responsePrefix _ _ _, fun result => behind result.requireIntermediate⟩

theorem within_multiline (responsePrefix : CString)
    (behind : ∀ result, (next result).Within Untimed completes) :
    (atSendCommandMultiline command responsePrefix >>= next).Within Untimed completes :=
  ⟨untimed_prefixed command responsePrefix _ _ _, behind⟩

end Primitives

/-- The completion is of this request. -/
def For (t : Nat) (completion : Completion) : Prop := completion.t = t

theorem within_complete (t : Nat) (e : Word) (response : ResponseData) (responselen : Nat) :
    (rilOnRequestComplete t e response responselen).Within Untimed (For t) := ⟨rfl, trivial⟩

theorem within_genericFailure (t : Nat) : (genericFailure t).Within Untimed (For t) :=
  within_complete t _ _ _

theorem within_success (t : Nat) : (success t).Within Untimed (For t) := within_complete t _ _ _

section Requests

variable (abi : Abi) (data : RequestData) (datalen : Nat) (t : Nat)

theorem within_requestIgnored (command : CString) :
    (requestIgnored t command).Within Untimed (For t) :=
  (within_dropped command).bind fun _ => within_success t

theorem within_requestNumeric (command : CString) :
    (requestNumeric abi t command).Within Untimed (For t) := by
  refine within_numeric command fun result => ?_
  cases result.succeeded with
  | none => exact within_genericFailure t
  | some response =>
      exact (within_firstLine response).bind fun line => within_complete t _ _ _

theorem within_requestGetCurrentCalls : (requestGetCurrentCalls abi t).Within Untimed (For t) := by
  refine within_multiline _ _ fun result => ?_
  cases result.succeeded with
  | none => exact within_genericFailure t
  | some response =>
      dsimp only
      generalize readCalls abi response.pIntermediates [] zeroCall false = read
      exact (within_complete t _ _ _).bind fun _ => .ite trivial trivial

theorem within_requestDial : (requestDial data t).Within Untimed (For t) := by
  unfold requestDial
  cases data with
  | dial pDial => exact (within_dropped _).bind fun _ => within_success t
  | _ => trivial

theorem within_requestHangup : (requestHangup data t).Within Untimed (For t) :=
  (within_intAt0 data).bind fun _ => (within_dropped _).bind fun _ => within_success t

theorem within_requestSeparateConnection :
    (requestSeparateConnection data t).Within Untimed (For t) :=
  (within_intAt0 data).bind fun _ =>
    .ite ((within_dropped _).bind fun _ => within_success t) (within_genericFailure t)

theorem within_requestDtmf : (requestDtmf data t).Within Untimed (For t) := by
  unfold requestDtmf
  cases data with
  | string s => exact (within_dropped _).bind fun _ => within_success t
  | _ => trivial

theorem within_querySimStatus {completes : Completion → Prop} :
    (querySimStatus abi).Within Untimed completes := by
  refine within_singleline _ _ fun result => ?_
  cases result.answer with
  | none => trivial
  | some response =>
      refine .ite trivial (.ite trivial ((within_firstLine response).bind fun cpinLine => ?_))
      generalize Tok.read cpinLine (do Tok.start; Tok.nextstr) = read
      cases read with
      | none => trivial
      | some cpinResult => exact (within_stringOf _ cpinResult).bind fun _ => trivial

theorem within_requestGetSimStatus : (requestGetSimStatus abi t).Within Untimed (For t) := by
  have status : (getSimStatus abi).Within Untimed (For t) :=
    fun _ => .ite trivial fun _ => .ite trivial (within_querySimStatus abi)
  exact status.bind fun _ => within_complete t _ _ _

theorem within_requestSimIo : (requestSimIo abi data t).Within Untimed (For t) := by
  unfold requestSimIo
  cases data with
  | simIo pArgs =>
      refine within_singleline _ _ fun result => ?_
      cases result.succeeded with
      | none => exact within_genericFailure t
      | some response =>
          refine (within_firstLine response).bind fun line => ?_
          split
          · exact within_genericFailure t
          · exact within_complete t _ _ _
  | _ => trivial

theorem within_requestEnterSimPin :
    (requestEnterSimPin abi data datalen t).Within Untimed (For t) := by
  have answered (result : AtResult) :
      (if result.succeeded.isNone then rilOnRequestComplete t rilEPasswordIncorrect .null 0
        else success t).Within Untimed (For t) :=
    .ite (within_complete t _ _ _) (within_success t)
  unfold requestEnterSimPin
  refine .ite ((within_stringAt data 0).bind fun pin => within_singleline _ _ answered)
    (.ite ((within_stringAt data 0).bind fun pin => ?_) (within_complete t _ _ _))
  exact (within_stringAt data 1).bind fun second => within_singleline _ _ answered

theorem within_requestSendSms : (requestSendSms abi data t).Within Untimed (For t) := by
  refine (within_stringAt data 0).bind fun smsc => (within_stringAt data 1).bind fun pdu =>
    (within_stringOf _ pdu).bind fun pdu => ?_
  exact within_sms _ _ _ fun result => .ite (within_genericFailure t) (within_complete t _ _ _)

theorem within_requestSmsAcknowledge : (requestSmsAcknowledge data t).Within Untimed (For t) := by
  have twice : (success t >>= fun _ => genericFailure t).Within Untimed (For t) :=
    (within_success t).bind fun _ => within_genericFailure t
  refine (within_intAt0 data).bind fun ackSuccess => ?_
  exact .ite ((within_dropped _).bind fun _ => twice)
    (.ite ((within_dropped _).bind fun _ => twice) (within_genericFailure t))

theorem within_requestWriteSmsToSim : (requestWriteSmsToSim data t).Within Untimed (For t) := by
  unfold requestWriteSmsToSim
  cases data with
  | smsWrite pArgs =>
      refine (within_stringOf _ pArgs.pdu).bind fun pdu => ?_
      exact within_sms _ _ _ fun result => .ite (within_genericFailure t) (within_success t)
  | _ => trivial

theorem within_requestDeleteSmsOnSim : (requestDeleteSmsOnSim data t).Within Untimed (For t) :=
  (within_intAt0 data).bind fun _ =>
    within_atSendCommand _ fun _ => .ite (within_genericFailure t) (within_success t)

theorem within_requestRadioPower :
    (requestRadioPower abi data datalen t).Within Untimed (For t) := by
  have switched (newState : RadioState) :
      (setRadioState newState >>= fun _ => success t).Within Untimed (For t) := within_success t
  refine .ite trivial ((within_intAt0 data).bind fun onOff => ?_)
  refine .ite (fun state => .ite ?_ (within_success t))
    (.ite (fun state => .ite ?_ (within_success t)) (within_success t))
  · exact within_atSendCommand _ fun result => .ite (within_genericFailure t) (switched _)
  · exact within_atSendCommand _ fun result => .ite (within_genericFailure t) (switched _)

theorem within_requestQueryNetworkSelectionMode :
    (requestQueryNetworkSelectionMode abi t).Within Untimed (For t) := by
  refine within_singleline _ _ fun result => ?_
  cases result.succeeded with
  | none => exact within_genericFailure t
  | some response =>
      refine (within_firstLine response).bind fun line => ?_
      cases Tok.read line (do Tok.start; Tok.nextint abi) with
      | none => exact within_genericFailure t
      | some mode => exact within_complete t _ _ _

theorem within_requestSignalStrength : (requestSignalStrength abi t).Within Untimed (For t) := by
  refine within_singleline _ _ fun result => ?_
  cases result.succeeded with
  | none => exact (within_genericFailure t).bind fun _ => within_genericFailure t
  | some response =>
      refine (within_firstLine response).bind fun line => ?_
      split
      · exact within_genericFailure t
      · exact within_complete t _ _ _

theorem within_requestRegistrationState (command responsePrefix : CString) :
    (requestRegistrationState abi t command responsePrefix).Within Untimed (For t) := by
  refine within_singleline _ _ fun result => ?_
  cases result.answer with
  | none => exact within_genericFailure t
  | some response =>
      refine (within_firstLine response).bind fun line => ?_
      cases registrationFields abi line with
      | none => exact within_genericFailure t
      | some fields => exact within_complete t _ _ _

theorem within_requestOperator : (requestOperator abi t).Within Untimed (For t) := by
  refine within_multiline _ _ fun result => ?_
  cases result.answer with
  | none => exact within_genericFailure t
  | some response =>
      dsimp only
      cases fillArray 3 (operatorName abi) response.pIntermediates [] with
      | filled names => exact .ite (within_genericFailure t) (within_complete t _ _ _)
      | failed => exact within_genericFailure t
      | overrun => trivial

theorem within_requestOrSendDataCallList :
    (requestOrSendDataCallList abi (some t)).Within Untimed (For t) := by
  refine within_multiline _ _ fun result => ?_
  cases result.succeeded with
  | none => exact within_genericFailure t
  | some response =>
      dsimp only
      cases activeDataCalls abi response.pIntermediates with
      | none => exact within_genericFailure t
      | some responses =>
          refine within_multiline _ _ fun result => ?_
          cases result.succeeded with
          | none => exact within_genericFailure t
          | some response =>
              dsimp only
              cases response.pIntermediates.foldlM (describeDataCall abi) responses with
              | none => exact within_genericFailure t
              | some responses => exact within_complete t _ _ _

theorem within_requestSetupDataCall : (requestSetupDataCall abi data t).Within Untimed (For t) := by
  refine (within_stringAt data 2).bind fun apn device => ?_
  cases device with
  | some device => exact .ite (within_complete t _ _ _) (within_genericFailure t)
  | none =>
      refine (within_dropped _).bind fun _ => (within_dropped _).bind fun _ =>
        (within_dropped _).bind fun _ => (within_dropped _).bind fun _ =>
        (within_dropped _).bind fun _ => ?_
      exact within_atSendCommand _ fun result =>
        .ite (within_genericFailure t) (within_complete t _ _ _)

theorem within_failedTwice :
    (genericFailure t >>= fun _ => genericFailure t).Within Untimed (For t) :=
  (within_genericFailure t).bind fun _ => within_genericFailure t

theorem within_requestPortList : (requestPortList abi data datalen t).Within Untimed (For t) := by
  refine (within_stringCommand data abi datalen _ _).bind fun command => ?_
  refine within_multiline _ _ fun result => ?_
  cases result.succeeded with
  | none => exact within_failedTwice t
  | some response =>
      dsimp only
      cases fillArray 20 (fun line => some (some line)) response.pIntermediates [] with
      | filled ports => exact within_complete t _ _ _
      | failed => exact within_genericFailure t
      | overrun => trivial

theorem within_completeWithFields (line : CString) :
    (completeWithFields abi t line).Within Untimed (For t) := by
  unfold completeWithFields
  cases lineFields line with
  | filled fields => exact within_complete t _ _ _
  | failed => exact within_genericFailure t
  | overrun => trivial

theorem within_requestPsCsStat : (requestPsCsStat abi data datalen t).Within Untimed (For t) := by
  have named : (psCsStatCommand abi data datalen).Within Untimed (For t) :=
    .ite trivial (.ite ((within_stringAt data 0).bind fun _ =>
      (within_stringAt data 1).bind fun _ => trivial) trivial)
  refine named.bind fun command => within_singleline _ _ fun result => .ite ?_ ?_
  · exact within_atSendCommand _ fun result =>
      .ite (.ite trivial (within_genericFailure t)) (within_complete t _ _ _)
  · cases result.succeeded with
    | none => exact within_failedTwice t
    | some response =>
        exact (within_firstLine response).bind fun line => within_completeWithFields abi t line

theorem within_requestNdisDial : (requestNdisDial abi data datalen t).Within Untimed (For t) :=
  (within_stringCommand data abi datalen _ _).bind fun _ =>
    (within_dropped _).bind fun _ => within_success t

theorem within_requestFields (command responsePrefix : CString) :
    (requestFields abi t command responsePrefix).Within Untimed (For t) := by
  refine within_singleline _ _ fun result => ?_
  cases result.succeeded with
  | none => exact within_failedTwice t
  | some response =>
      dsimp only
      cases response.pIntermediates.head? with
      | none => exact within_success t
      | some line => exact within_completeWithFields abi t line

end Requests

theorem switchRequest_within (abi : Abi) (call : OnRequest) :
    (switchRequest abi call).Within Untimed (For call.t) := by
  obtain ⟨request, data, datalen, t⟩ := call
  cases request with
  | getSimStatus => exact within_requestGetSimStatus abi t
  | getCurrentCalls => exact within_requestGetCurrentCalls abi t
  | dial => exact within_requestDial data t
  | hangup => exact within_requestHangup data t
  | hangupWaitingOrBackground | hangupForegroundResumeBackground | switchWaitingOrHoldingAndActive
  | answer | conference | udub => exact within_requestIgnored t _
  | separateConnection => exact within_requestSeparateConnection data t
  | signalStrength => exact within_requestSignalStrength abi t
  | registrationState | gprsRegistrationState => exact within_requestRegistrationState abi t _ _
  | operator => exact within_requestOperator abi t
  | radioPower => exact within_requestRadioPower abi data datalen t
  | dtmf => exact within_requestDtmf data t
  | sendSms => exact within_requestSendSms abi data t
  | setupDataCall => exact within_requestSetupDataCall abi data t
  | smsAcknowledge => exact within_requestSmsAcknowledge data t
  | getImsi | getImei | cancelUssd => exact within_requestNumeric abi t _
  | simIo => exact within_requestSimIo abi data t
  | setNetworkSelectionAutomatic => exact within_dropped _
  | dataCallList => exact within_requestOrSendDataCallList abi t
  | queryNetworkSelectionMode => exact within_requestQueryNetworkSelectionMode abi t
  | oemHookStrings => exact .ite trivial (within_complete t _ _ _)
  | writeSmsToSim => exact within_requestWriteSmsToSim data t
  | deleteSmsOnSim => exact within_requestDeleteSmsOnSim data t
  | enterSimPin | enterSimPuk | enterSimPin2 | enterSimPuk2 | changeSimPin | changeSimPin2 =>
      exact within_requestEnterSimPin abi data datalen t
  | supportPorts => exact within_requestPortList abi data datalen t
  | pscsBindState => exact within_requestPsCsStat abi data datalen t
  | ndisDial => exact within_requestNdisDial abi data datalen t
  | pdpAddr | dhcpInfo =>
      exact (within_stringCommand data abi datalen _ _).bind fun _ => within_requestFields abi t _ _
  | _ => exact within_complete t _ _ _

/-- **What a request may do.** Its commands are untimed, and it completes itself only. -/
theorem onRequest_within (abi : Abi) (call : OnRequest) :
    (onRequest abi call).Within Untimed (For call.t) :=
  fun _ => .ite (within_complete _ _ _ _) fun _ =>
    .ite (within_complete _ _ _ _) (switchRequest_within abi call)

end RildHisi.ReferenceRil
