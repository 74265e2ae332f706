import RildHisi.ReferenceRil.Completions

/-!
Owns where the handlers of reference-ril.c read a response that is not there: a NULL
`p_response`, the first line of a response without lines, or a token that is NULL.

`NeverMissing` is for a program whatever it meets, and a rule says what it comes to for
each step. Three handlers miss a response in some surroundings.
-/

namespace RildHisi.ReferenceRil

open RildHisi.AtChannel RildHisi.Library RildHisi.Libril Handler

namespace Handler

variable {α β : Type}

/-- No read of a response goes through NULL, whatever the handler meets. -/
def NeverMissing (handler : Handler α) : Prop :=
  ∀ around, handler.faultOf around ≠ some .response

/-! ### Rules -/

section Rules

variable (result : α) (command : Command) (completion : Completion) (effect : Effect)
  (cause : Fault)

@[simp] theorem neverMissing_done : NeverMissing (done result) := by
  intro around missing
  cases missing

@[simp] theorem neverMissing_fault :
    NeverMissing (fault cause : Handler α) ↔ cause ≠ .response := by
  constructor
  · intro never same
    exact never ⟨fun _ => ⟨-1, none, Or.inr (by decide)⟩, fun _ => .off, none⟩ (congrArg some same)
  · intro other around missing
    exact other (Option.some.inj missing)

@[simp] theorem neverMissing_send (next : AtResult → Handler α) :
    NeverMissing (send command next) ↔ ∀ result, NeverMissing (next result) := by
  constructor
  · intro never result around
    exact never { around with answers := fun n => n.casesOn result around.answers }
  · intro never around
    exact never _ _

@[simp] theorem neverMissing_readState (next : RadioState → Handler α) :
    NeverMissing (readState next) ↔ ∀ state, NeverMissing (next state) := by
  constructor
  · intro never state around
    exact never { around with states := fun n => n.casesOn state around.states }
  · intro never around
    exact never _ _

theorem neverMissing_openQmi {next : Option QmiDevice → Handler α}
    (never : ∀ device, NeverMissing (next device)) : NeverMissing (openQmi next) :=
  fun around => never around.qmi around

@[simp] theorem neverMissing_complete (next : Handler α) :
    NeverMissing (complete completion next) ↔ NeverMissing next := Iff.rfl

@[simp] theorem neverMissing_perform (next : Handler α) :
    NeverMissing (perform effect next) ↔ NeverMissing next := Iff.rfl

@[simp] theorem neverMissing_ite (condition : Prop) [Decidable condition]
    (first second : Handler α) :
    NeverMissing (if condition then first else second) ↔
      (condition → NeverMissing first) ∧ (¬ condition → NeverMissing second) := by
  split <;> simp [*]

/-- A fault of two programs is one of the first or one of the second. -/
theorem faultOf_bind {handler : Handler α} {next : α → Handler β} {around : Surroundings}
    (faults : (handler >>= next).faultOf around = some cause) :
    handler.faultOf around = some cause ∨
      ∃ result around', (next result).faultOf around' = some cause := by
  induction handler generalizing around with
  | done result => exact Or.inr ⟨result, around, faults⟩
  | fault other => exact Or.inl faults
  | send command after inductionHypothesis => exact inductionHypothesis _ faults
  | readState after inductionHypothesis => exact inductionHypothesis _ faults
  | openQmi after inductionHypothesis => exact inductionHypothesis _ faults
  | complete completion after inductionHypothesis => exact inductionHypothesis faults
  | perform effect after inductionHypothesis => exact inductionHypothesis faults

/-- A program behind one that never misses a response. -/
theorem NeverMissing.bind {handler : Handler α} {next : α → Handler β}
    (first : NeverMissing handler) (behind : ∀ result, NeverMissing (next result)) :
    NeverMissing (handler >>= next) := by
  intro around missing
  obtain faults | ⟨result, around', faults⟩ := faultOf_bind .response missing
  · exact first around faults
  · exact behind result around' faults

end Rules

/-! ### Steps the handlers share -/

section Steps

variable (command responsePrefix pdu : CString) (data : RequestData) (i t : Nat)
  (around : Surroundings)

@[simp] theorem faultOf_fault (cause : Fault) :
    (fault cause : Handler α).faultOf around = some cause := rfl

@[simp] theorem faultOf_done (result : α) : (done result).faultOf around = none := rfl

theorem faultOf_readState (next : RadioState → Handler β) :
    (readState next).faultOf around = (next (around.states 0)).faultOf around.looked := rfl

@[simp] theorem faultOf_atSendCommand (next : AtResult → Handler β) :
    (atSendCommand command >>= next).faultOf around =
      (next (around.answers 0)).faultOf around.answered := rfl

@[simp] theorem faultOf_rilOnRequestComplete (e : Word) (response : ResponseData)
    (responselen : Nat) :
    (rilOnRequestComplete t e response responselen).faultOf around = none := rfl

@[simp] theorem faultOf_genericFailure : (genericFailure t).faultOf around = none := rfl

@[simp] theorem neverMissing_atSendCommand (next : AtResult → Handler β) :
    NeverMissing (atSendCommand command >>= next) ↔ ∀ result, NeverMissing (next result) :=
  neverMissing_send _ _

@[simp] theorem neverMissing_atSendCommandDropped (next : Unit → Handler β) :
    NeverMissing (atSendCommandDropped command >>= next) ↔ NeverMissing (next ()) :=
  (neverMissing_send _ _).trans
    ⟨fun never => never ⟨-1, none, Or.inr (by decide)⟩, fun never _ => never⟩

@[simp] theorem neverMissing_atSendCommandMultiline (next : AtResult → Handler β) :
    NeverMissing (atSendCommandMultiline command responsePrefix >>= next) ↔
      ∀ result, NeverMissing (next result) :=
  neverMissing_send _ _

@[simp] theorem neverMissing_atSendCommandSingleline (next : AtResult → Handler β) :
    NeverMissing (atSendCommandSingleline command responsePrefix >>= next) ↔
      ∀ result : AtResult, NeverMissing (next result.requireIntermediate) :=
  neverMissing_send _ _

@[simp] theorem neverMissing_atSendCommandNumeric (next : AtResult → Handler β) :
    NeverMissing (atSendCommandNumeric command >>= next) ↔
      ∀ result : AtResult, NeverMissing (next result.requireIntermediate) :=
  neverMissing_send _ _

@[simp] theorem neverMissing_atSendCommandSms (next : AtResult → Handler β) :
    NeverMissing (atSendCommandSms command pdu responsePrefix >>= next) ↔
      ∀ result : AtResult, NeverMissing (next result.requireIntermediate) :=
  neverMissing_send _ _

@[simp] theorem neverMissing_rilOnRequestComplete (e : Word) (response : ResponseData)
    (responselen : Nat) : NeverMissing (rilOnRequestComplete t e response responselen) :=
  neverMissing_done ()

@[simp] theorem neverMissing_genericFailure : NeverMissing (genericFailure t) :=
  neverMissing_done ()

@[simp] theorem neverMissing_success : NeverMissing (success t) := neverMissing_done ()

theorem neverMissing_intAt0 : NeverMissing (intAt0 data) := by
  unfold intAt0
  cases (intsOf data).head? <;> simp

theorem neverMissing_stringAt : NeverMissing (stringAt data i) := by
  unfold stringAt
  cases (stringsOf data)[i]? <;> simp

theorem neverMissing_pdu (s : Option CString) : NeverMissing (stringOf .data s) := by
  cases s <;> simp [stringOf]

end Steps

end Handler

/-! ### The handlers -/

section Requests

variable (abi : Abi) (data : RequestData) (datalen t : Nat)

theorem requestGetCurrentCalls_neverMissing : NeverMissing (requestGetCurrentCalls abi t) := by
  simp only [requestGetCurrentCalls, neverMissing_atSendCommandMultiline]
  intro result
  cases result.succeeded with
  | none => simp
  | some response =>
      refine (neverMissing_rilOnRequestComplete t _ _ _).bind fun _ => ?_
      simp

theorem requestDial_neverMissing : NeverMissing (requestDial data t) := by
  cases data <;> simp [requestDial]

theorem requestHangup_neverMissing : NeverMissing (requestHangup data t) :=
  (neverMissing_intAt0 data).bind fun line => by simp

theorem requestSeparateConnection_neverMissing :
    NeverMissing (requestSeparateConnection data t) :=
  (neverMissing_intAt0 data).bind fun party => by simp

theorem requestDtmf_neverMissing : NeverMissing (requestDtmf data t) := by
  cases data <;> simp [requestDtmf]

theorem requestIgnored_neverMissing (command : CString) :
    NeverMissing (requestIgnored t command) := by
  simp [requestIgnored]

theorem requestNumeric_neverMissing (command : CString) :
    NeverMissing (requestNumeric abi t command) := by
  simp only [requestNumeric, neverMissing_atSendCommandNumeric]
  intro result
  obtain ⟨-, failed⟩ | ⟨response, line, rest, -, succeeded, lines⟩ := result.line_cases
  · simp [failed]
  · simp [succeeded, firstLine, lines]

theorem requestSimIo_neverMissing : NeverMissing (requestSimIo abi data t) := by
  cases data with
  | simIo pArgs =>
      simp only [requestSimIo, neverMissing_atSendCommandSingleline]
      intro result
      obtain ⟨-, failed⟩ | ⟨response, line, rest, -, succeeded, lines⟩ := result.line_cases
      · simp [failed]
      · simp only [succeeded, firstLine, lines, done_bind]
        split <;> simp
  | _ => simp [requestSimIo]

theorem requestEnterSimPin_neverMissing :
    NeverMissing (requestEnterSimPin abi data datalen t) := by
  unfold requestEnterSimPin
  rw [neverMissing_ite, neverMissing_ite]
  refine ⟨fun _ => ?_, fun _ => ⟨fun _ => ?_, fun _ => by simp⟩⟩
  · exact (neverMissing_stringAt data 0).bind fun pin => by simp
  · refine (neverMissing_stringAt data 0).bind fun pin => ?_
    exact (neverMissing_stringAt data 1).bind fun second => by simp

theorem requestSendSms_neverMissing : NeverMissing (requestSendSms abi data t) := by
  refine (neverMissing_stringAt data 0).bind fun smsc => ?_
  refine (neverMissing_stringAt data 1).bind fun pdu => ?_
  refine (neverMissing_pdu pdu).bind fun pdu => ?_
  simp

theorem requestSmsAcknowledge_neverMissing : NeverMissing (requestSmsAcknowledge data t) := by
  have twice : NeverMissing (success t >>= fun _ => genericFailure t) :=
    (neverMissing_success t).bind fun _ => neverMissing_genericFailure t
  refine (neverMissing_intAt0 data).bind fun ackSuccess => ?_
  simp [twice]

theorem requestWriteSmsToSim_neverMissing : NeverMissing (requestWriteSmsToSim data t) := by
  cases data with
  | smsWrite pArgs =>
      refine (neverMissing_pdu pArgs.pdu).bind fun pdu => ?_
      simp
  | _ => simp [requestWriteSmsToSim]

theorem requestDeleteSmsOnSim_neverMissing : NeverMissing (requestDeleteSmsOnSim data t) := by
  refine (neverMissing_intAt0 data).bind fun index => ?_
  simp

theorem requestRadioPower_neverMissing :
    NeverMissing (requestRadioPower abi data datalen t) := by
  have switched (newState : RadioState) :
      NeverMissing (setRadioState newState >>= fun _ => success t) :=
    neverMissing_success t
  unfold requestRadioPower
  rw [neverMissing_ite]
  refine ⟨fun _ => by simp, fun _ => (neverMissing_intAt0 data).bind fun onOff => ?_⟩
  simp [switched]

theorem requestQueryNetworkSelectionMode_neverMissing :
    NeverMissing (requestQueryNetworkSelectionMode abi t) := by
  simp only [requestQueryNetworkSelectionMode, neverMissing_atSendCommandSingleline]
  intro result
  obtain ⟨-, failed⟩ | ⟨response, line, rest, -, succeeded, lines⟩ := result.line_cases
  · simp [failed]
  · simp only [succeeded, firstLine, lines, done_bind]
    split <;> simp

theorem neverMissing_twice : NeverMissing (genericFailure t >>= fun _ => genericFailure t) :=
  (neverMissing_genericFailure t).bind fun _ => neverMissing_genericFailure t

theorem requestSignalStrength_neverMissing : NeverMissing (requestSignalStrength abi t) := by
  simp only [requestSignalStrength, neverMissing_atSendCommandSingleline]
  intro result
  obtain ⟨-, failed⟩ | ⟨response, line, rest, -, succeeded, lines⟩ := result.line_cases
  · simpa only [failed] using neverMissing_twice t
  · simp only [succeeded, firstLine, lines, done_bind]
    split <;> simp

theorem requestOperator_neverMissing : NeverMissing (requestOperator abi t) := by
  simp only [requestOperator, neverMissing_atSendCommandMultiline]
  intro result
  cases result.answer with
  | none => simp
  | some response =>
      cases filled : fillArray 3 (operatorName abi) response.pIntermediates [] <;> simp [filled]

theorem requestOrSendDataCallList_neverMissing (t : Option Nat) :
    NeverMissing (requestOrSendDataCallList abi t) := by
  have reported (e : Word) (responses : ResponseData) (size : Nat) :
      NeverMissing (reportDataCallList t e responses size) := by
    cases t <;> simp [reportDataCallList]
  simp only [requestOrSendDataCallList, neverMissing_atSendCommandMultiline]
  intro result
  cases result.succeeded with
  | none => simp [reported]
  | some response =>
      cases active : activeDataCalls abi response.pIntermediates with
      | none => simp [active, reported]
      | some responses =>
          simp only [active, neverMissing_atSendCommandMultiline]
          intro details
          cases details.succeeded with
          | none => simp [reported]
          | some response =>
              dsimp only
              split <;> simp [reported]

theorem requestSetupDataCall_neverMissing : NeverMissing (requestSetupDataCall abi data t) := by
  refine (neverMissing_stringAt data 2).bind fun apn => neverMissing_openQmi fun device => ?_
  cases device <;> simp

theorem stringCommand_neverMissing (command otherwise : CString) :
    NeverMissing (stringCommand abi data datalen command otherwise) := by
  unfold stringCommand
  rw [neverMissing_ite]
  refine ⟨fun _ => (neverMissing_stringAt data 0).bind fun argument => by simp, fun _ => by simp⟩

theorem requestPortList_neverMissing : NeverMissing (requestPortList abi data datalen t) := by
  refine (stringCommand_neverMissing abi data datalen _ _).bind fun command => ?_
  simp only [neverMissing_atSendCommandMultiline]
  intro result
  cases result.succeeded with
  | none => exact neverMissing_twice t
  | some response =>
      dsimp only
      split <;> simp

theorem requestNdisDial_neverMissing : NeverMissing (requestNdisDial abi data datalen t) := by
  exact (stringCommand_neverMissing abi data datalen _ _).bind fun command => by simp

theorem completeWithFields_neverMissing (line : CString) :
    NeverMissing (completeWithFields abi t line) := by
  unfold completeWithFields
  cases lineFields line <;> simp

theorem requestFields_neverMissing (command responsePrefix : CString) :
    NeverMissing (requestFields abi t command responsePrefix) := by
  simp only [requestFields, neverMissing_atSendCommandSingleline]
  intro result
  cases result.requireIntermediate.succeeded with
  | none => exact neverMissing_twice t
  | some response =>
      cases lines : response.pIntermediates.head? with
      | none => simp [lines]
      | some line => simpa [lines] using completeWithFields_neverMissing abi t line

theorem requestPdpAddr_neverMissing : NeverMissing (requestPdpAddr abi data datalen t) :=
  (stringCommand_neverMissing abi data datalen _ _).bind fun command =>
    requestFields_neverMissing abi t command _

theorem requestDhcpInfo_neverMissing : NeverMissing (requestDhcpInfo abi data datalen t) :=
  (stringCommand_neverMissing abi data datalen _ _).bind fun command =>
    requestFields_neverMissing abi t command _

theorem requestOemHookStrings_neverMissing :
    NeverMissing (requestOemHookStrings abi data datalen t) := by
  simp [requestOemHookStrings]

/-! ### Handlers that miss a response -/

section Missing

variable (around : Surroundings)

theorem requestGetSimStatus_missing :
    (requestGetSimStatus abi t).faultOf around ≠ some .response ↔
      around.states 0 = .off ∨ around.states 1 = .unavailable ∨
        CpinLineThere abi (around.answers 0) := by
  simp only [requestGetSimStatus, getSimStatus, readState_bind, faultOf_readState]
  by_cases off : around.states 0 = .off
  · simp [off]
  · have second : around.looked.states 0 = around.states 1 := rfl
    rw [if_neg off, readState_bind, faultOf_readState, second]
    by_cases unavailable : around.states 1 = .unavailable
    · simp [unavailable]
    · rw [if_neg unavailable]
      simp only [off, unavailable, false_or]
      obtain ⟨known, status, -, faults⟩ | ⟨missing, -, faults⟩ :=
        querySimStatus_cases abi around.looked.looked fun simStatus =>
          rilOnRequestComplete t rilESuccess (.cardStatus (cardStatusOf simStatus))
            (sizeofCardStatus abi)
      · rw [faults]
        exact iff_of_true (by simp) known
      · rw [faults]
        exact iff_of_false (by simp) missing

theorem requestRegistrationState_missing (command responsePrefix : CString) :
    (requestRegistrationState abi t command responsePrefix).faultOf around ≠ some .response ↔
      RegistrationLineThere (around.answers 0) := by
  simp only [requestRegistrationState, faultOf_atSendCommandSingleline,
    AtResult.answer_requireIntermediate, RegistrationLineThere]
  cases (around.answers 0).answer with
  | none => simp
  | some response =>
      cases lines : response.pIntermediates with
      | nil => cases success : response.success <;> simp [Option.filter, success, lines, firstLine]
      | cons line rest =>
          simp only [Option.filter, lines, List.isEmpty_cons, Bool.and_false, Bool.not_false,
            if_true, firstLine, done_bind]
          refine iff_of_true ?_ (by simp [lines])
          split <;> simp

/-- One of the two commands leaves a response. -/
def BindStateThere (first second : AtResult) : Prop :=
  first.requireIntermediate.pResponse = none → second.pResponse.isSome

theorem sendPsCsStat_missing (command : CString) :
    (sendPsCsStat abi t command).faultOf around ≠ some .response ↔
      BindStateThere (around.answers 0) (around.answers 1) := by
  simp only [sendPsCsStat, faultOf_atSendCommandSingleline, BindStateThere]
  cases stored : (around.answers 0).requireIntermediate.pResponse with
  | none =>
      have again : around.answered.answers 0 = around.answers 1 := rfl
      simp only [Option.isNone_none, if_true, faultOf_atSendCommand, again, true_implies]
      cases second : (around.answers 1).pResponse with
      | none =>
          have nothing : (around.answers 1).succeeded = none := by
            by_contra present
            obtain ⟨response, succeeded⟩ := Option.ne_none_iff_exists'.mp present
            simp [AtResult.pResponse_of_succeeded succeeded] at second
          simp [nothing]
      | some response =>
          refine iff_of_true ?_ rfl
          rw [Option.isNone_some, if_neg Bool.false_ne_true]
          split
          · simp
          · simp
  | some response =>
      refine iff_of_true ?_ (by simp)
      simp only [Option.isNone_some, Bool.false_eq_true, if_false]
      obtain ⟨-, failed⟩ | ⟨response, line, rest, -, succeeded, lines⟩ :=
        (around.answers 0).line_cases
      · simp only [failed]
        exact neverMissing_twice t _
      · simp only [succeeded, firstLine, lines, done_bind]
        exact completeWithFields_neverMissing abi t line _

theorem requestPsCsStat_missing :
    (requestPsCsStat abi data datalen t).faultOf around ≠ some .response ↔
      (datalen = 2 * abi.ptrSize ∧ (stringsOf data).length < 2) ∨
        BindStateThere (around.answers 0) (around.answers 1) := by
  have different : ¬ abi.ptrSize = 2 * abi.ptrSize := by cases abi <;> decide
  have sent (command : CString) := sendPsCsStat_missing abi t around command
  unfold requestPsCsStat psCsStatCommand stringAt
  by_cases one : datalen = abi.ptrSize
  · simpa [one, different] using sent _
  · by_cases two : datalen = 2 * abi.ptrSize
    · match strings : stringsOf data with
      | [] => simp [two, Ne.symm different]
      | [first] => simp [two, Ne.symm different]
      | first :: second :: rest =>
          have enough : ¬ rest.length + 1 + 1 < 2 := by omega
          simpa [two, Ne.symm different, enough] using sent _
    · simpa [one, two] using sent _

end Missing

end Requests

/-! ### onRequest -/

/-- The answers that a request that is not refused reads are there. -/
def ResponsesThere (abi : Abi) (call : OnRequest) (around : Surroundings) : Prop :=
  match call.request with
  | .getSimStatus =>
      around.states 2 = .off ∨ around.states 3 = .unavailable ∨
        CpinLineThere abi (around.answers 0)
  | .registrationState | .gprsRegistrationState => RegistrationLineThere (around.answers 0)
  | .pscsBindState =>
      (call.datalen = 2 * abi.ptrSize ∧ (stringsOf call.data).length < 2) ∨
        BindStateThere (around.answers 0) (around.answers 1)
  | _ => True

theorem switchRequest_missing (abi : Abi) (call : OnRequest) (around : Surroundings) :
    (switchRequest abi call).faultOf around.looked.looked ≠ some .response ↔
      ResponsesThere abi call around := by
  obtain ⟨request, data, datalen, t⟩ := call
  cases request
  case getSimStatus => exact requestGetSimStatus_missing abi t _
  case registrationState | gprsRegistrationState =>
    exact requestRegistrationState_missing abi t _ _ _
  case pscsBindState => exact requestPsCsStat_missing abi data datalen t _
  all_goals refine iff_true_intro ?_
  case dial => exact requestDial_neverMissing data t _
  case hangup => exact requestHangup_neverMissing data t _
  case separateConnection => exact requestSeparateConnection_neverMissing data t _
  case signalStrength => exact requestSignalStrength_neverMissing abi t _
  case operator => exact requestOperator_neverMissing abi t _
  case radioPower => exact requestRadioPower_neverMissing abi data datalen t _
  case dtmf => exact requestDtmf_neverMissing data t _
  case sendSms => exact requestSendSms_neverMissing abi data t _
  case setupDataCall => exact requestSetupDataCall_neverMissing abi data t _
  case smsAcknowledge => exact requestSmsAcknowledge_neverMissing data t _
  case simIo => exact requestSimIo_neverMissing abi data t _
  case oemHookStrings => exact requestOemHookStrings_neverMissing abi data datalen t _
  case writeSmsToSim => exact requestWriteSmsToSim_neverMissing data t _
  case deleteSmsOnSim => exact requestDeleteSmsOnSim_neverMissing data t _
  case enterSimPin | enterSimPuk | enterSimPin2 | enterSimPuk2 | changeSimPin | changeSimPin2 =>
    exact requestEnterSimPin_neverMissing abi data datalen t _
  case supportPorts => exact requestPortList_neverMissing abi data datalen t _
  case ndisDial => exact requestNdisDial_neverMissing abi data datalen t _
  case pdpAddr => exact requestPdpAddr_neverMissing abi data datalen t _
  case dhcpInfo => exact requestDhcpInfo_neverMissing abi data datalen t _
  case getCurrentCalls => exact requestGetCurrentCalls_neverMissing abi t _
  case getImsi | getImei | cancelUssd => exact requestNumeric_neverMissing abi t _ _
  case dataCallList => exact requestOrSendDataCallList_neverMissing abi (some t) _
  case queryNetworkSelectionMode => exact requestQueryNetworkSelectionMode_neverMissing abi t _
  case hangupWaitingOrBackground | hangupForegroundResumeBackground
      | switchWaitingOrHoldingAndActive | answer | conference | udub =>
    exact requestIgnored_neverMissing t _ _
  all_goals intro missing; cases missing

/-- What the handlers read of responses is there: no read through NULL by `onRequest` or by
the report of the data calls, and no NULL among the strings taken from lines. -/
structure ReadsWhatIsThere (abi : Abi) (call : OnRequest) (around : Surroundings) : Prop where
  request : (onRequest abi call).faultOf around ≠ some .response
  dataCallList : NeverMissing (requestOrSendDataCallList abi none)
  strings : ∀ {pCur pCur' s}, Tok.nextstr pCur = some (s, pCur') → s.isSome

/-- **No missing response.** The handlers read what is there exactly if `sState` refuses the
request or the answers it reads are there. -/
theorem onRequest_readsWhatIsThere_iff (abi : Abi) (call : OnRequest) (around : Surroundings) :
    ReadsWhatIsThere abi call around ↔
      Refused call.request around ∨ ResponsesThere abi call around := by
  have request : (onRequest abi call).faultOf around ≠ some .response ↔
      Refused call.request around ∨ ResponsesThere abi call around := by
    unfold onRequest Refused
    rw [faultOf_readState]
    by_cases unavailable : around.states 0 = .unavailable ∧ call.request ≠ .getSimStatus
    · simp [unavailable]
    · have second : around.looked.states 0 = around.states 1 := rfl
      rw [if_neg unavailable, faultOf_readState, second]
      by_cases off : around.states 1 = .off ∧
          ¬ (call.request = .radioPower ∨ call.request = .getSimStatus)
      · simp [off]
      · rw [if_neg off, switchRequest_missing]
        simp only [unavailable, off, false_or]
  rw [← request]
  constructor
  · exact ReadsWhatIsThere.request
  · intro holds
    exact ⟨holds, requestOrSendDataCallList_neverMissing abi none, Tok.nextstr_isSome⟩

/-- A radio that is ready, on a modem that answers every command with this result. -/
def answering (result : AtResult) : Surroundings := ⟨fun _ => result, fun _ => .simReady, none⟩

/-- The final line of an error, without a line in front of it. -/
def errorAnswer (finalResponse : CString) : AtResult :=
  ⟨0, some ⟨false, some finalResponse, []⟩, Or.inl ⟨rfl, rfl⟩⟩

/-- **A line that is not there.** `ERROR` to `AT+CREG?`, `+CME ERROR: 0` to `AT+CPIN?` and a
channel that is closed under `AT^CGCATT=?` are each read through NULL. -/
theorem registrationState_missesLine :
    ¬ (ReadsWhatIsThere .lp64 ⟨.registrationState, .null, 0, 16⟩
        (answering (errorAnswer (ascii "ERROR"))) ∨
      ReadsWhatIsThere .lp64 ⟨.getSimStatus, .null, 0, 16⟩
        (answering (errorAnswer (ascii "+CME ERROR: 0"))) ∨
      ReadsWhatIsThere .lp64 ⟨.pscsBindState, .strings [], 0, 16⟩
        (answering ⟨atErrorChannelClosed, none, Or.inr (by decide)⟩)) := by
  have registration : (onRequest .lp64 ⟨.registrationState, .null, 0, 16⟩).faultOf
      (answering (errorAnswer (ascii "ERROR"))) = some .response := by decide
  have simStatus : (onRequest .lp64 ⟨.getSimStatus, .null, 0, 16⟩).faultOf
      (answering (errorAnswer (ascii "+CME ERROR: 0"))) = some .response := by decide
  have bindState : (onRequest .lp64 ⟨.pscsBindState, .strings [], 0, 16⟩).faultOf
      (answering ⟨atErrorChannelClosed, none, Or.inr (by decide)⟩) = some .response := by decide
  rintro (reads | reads | reads)
  · exact reads.request registration
  · exact reads.request simStatus
  · exact reads.request bindState

end RildHisi.ReferenceRil
