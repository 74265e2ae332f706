import RildHisi.ReferenceRil.Handlers

/-!
Owns how often `onRequest` completes a request: for each request, what has to hold of
its data and of what the modem answers so that `RIL_onRequestComplete` is called once.

A rule says what each step the handlers share comes to; the count of a handler is then
a case analysis over what its steps read.
-/

namespace RildHisi.ReferenceRil

open RildHisi.AtChannel RildHisi.Library RildHisi.Libril Handler

/-! ### What the handlers read -/

/-- A command that succeeds has stored its response. -/
theorem AtResult.pResponse_of_succeeded {result : AtResult} {response : AtResponse}
    (succeeded : result.succeeded = some response) : result.pResponse = some response := by
  unfold AtResult.succeeded answer at succeeded
  split at succeeded
  · cases succeeded
  · exact (Option.filter_eq_some_iff.mp succeeded).1

/-- The first line of a successful answer. -/
def AtResult.line (result : AtResult) : Option CString :=
  result.succeeded.bind (·.pIntermediates.head?)

theorem AtResult.answer_requireIntermediate (result : AtResult) :
    result.requireIntermediate.answer =
      result.answer.filter fun response => !(response.success && response.pIntermediates.isEmpty) := by
  obtain ⟨err, pResponse, stored⟩ := result
  cases pResponse with
  | none =>
      by_cases failed : err < 0 <;>
        simp [answer, AtResult.requireIntermediate, AtChannel.requireIntermediate, failed]
  | some response =>
      obtain ⟨rfl, -⟩ | negative := stored
      · cases missing : response.success && response.pIntermediates.isEmpty <;>
          simp [-Bool.not_and, answer, AtResult.requireIntermediate, AtChannel.requireIntermediate,
            missing, atErrorInvalidResponse, Option.filter]
      · have different : ¬ err = 0 := by omega
        simp [answer, AtResult.requireIntermediate, AtChannel.requireIntermediate, different,
          negative]

/-- A successful answer that passed the check for an intermediate response has a first line;
any other is an error to the handler. -/
theorem AtResult.line_cases (result : AtResult) :
    (result.line = none ∧ result.requireIntermediate.succeeded = none) ∨
      ∃ response line rest, result.line = some line ∧
        result.requireIntermediate.succeeded = some response ∧
          response.pIntermediates = line :: rest := by
  unfold line succeeded
  rw [answer_requireIntermediate]
  cases result.answer with
  | none => exact Or.inl ⟨rfl, rfl⟩
  | some response =>
      cases success : response.success with
      | false => exact Or.inl (by simp [Option.filter, success])
      | true =>
          cases lines : response.pIntermediates with
          | nil => exact Or.inl (by simp [Option.filter, success, lines])
          | cons line rest =>
              refine Or.inr ⟨response, line, rest, ?_, ?_, lines⟩
              · simp [Option.filter, success, lines]
              · simp [Option.filter, success, lines]

namespace Handler

variable {α β : Type} (t : Nat) (around : Surroundings)

/-! ### What a step comes to -/

section Steps

variable (command responsePrefix pdu : CString) (data : RequestData) (i : Nat)

@[simp] theorem timesCompleted_atSendCommand (next : AtResult → Handler β) :
    (atSendCommand command >>= next).timesCompleted t around =
      (next (around.answers 0)).timesCompleted t around.answered := rfl

@[simp] theorem timesCompleted_atSendCommandDropped (next : Unit → Handler β) :
    (atSendCommandDropped command >>= next).timesCompleted t around =
      (next ()).timesCompleted t around.answered := rfl

@[simp] theorem timesCompleted_atSendCommandSingleline (next : AtResult → Handler β) :
    (atSendCommandSingleline command responsePrefix >>= next).timesCompleted t around =
      (next (around.answers 0).requireIntermediate).timesCompleted t around.answered := rfl

theorem completions_atSendCommandSingleline (next : AtResult → Handler β) :
    (atSendCommandSingleline command responsePrefix >>= next).completions around =
      (next (around.answers 0).requireIntermediate).completions around.answered := rfl

theorem completions_atSendCommandMultiline (next : AtResult → Handler β) :
    (atSendCommandMultiline command responsePrefix >>= next).completions around =
      (next (around.answers 0)).completions around.answered := rfl

theorem faultOf_atSendCommandSingleline (next : AtResult → Handler β) :
    (atSendCommandSingleline command responsePrefix >>= next).faultOf around =
      (next (around.answers 0).requireIntermediate).faultOf around.answered := rfl

@[simp] theorem timesCompleted_atSendCommandNumeric (next : AtResult → Handler β) :
    (atSendCommandNumeric command >>= next).timesCompleted t around =
      (next (around.answers 0).requireIntermediate).timesCompleted t around.answered := rfl

@[simp] theorem timesCompleted_atSendCommandSms (next : AtResult → Handler β) :
    (atSendCommandSms command pdu responsePrefix >>= next).timesCompleted t around =
      (next (around.answers 0).requireIntermediate).timesCompleted t around.answered := rfl

@[simp] theorem timesCompleted_atSendCommandMultiline (next : AtResult → Handler β) :
    (atSendCommandMultiline command responsePrefix >>= next).timesCompleted t around =
      (next (around.answers 0)).timesCompleted t around.answered := rfl

@[simp] theorem timesCompleted_setRadioState (newState : RadioState) (next : Unit → Handler β) :
    (setRadioState newState >>= next).timesCompleted t around =
      (next ()).timesCompleted t around := rfl

@[simp] theorem timesCompleted_rilOnRequestComplete (e : Word) (response : ResponseData)
    (responselen : Nat) :
    (rilOnRequestComplete t e response responselen).timesCompleted t around = 1 := by
  simp [rilOnRequestComplete]

@[simp] theorem timesCompleted_rilOnRequestComplete_bind (e : Word) (response : ResponseData)
    (responselen : Nat) (next : Unit → Handler β) :
    (rilOnRequestComplete t e response responselen >>= next).timesCompleted t around =
      (next ()).timesCompleted t around + 1 := by
  simp [rilOnRequestComplete]

@[simp] theorem timesCompleted_genericFailure :
    (genericFailure t).timesCompleted t around = 1 := by
  simp [genericFailure]

@[simp] theorem timesCompleted_genericFailure_bind (next : Unit → Handler β) :
    (genericFailure t >>= next).timesCompleted t around =
      (next ()).timesCompleted t around + 1 := by
  simp [genericFailure]

@[simp] theorem timesCompleted_success : (success t).timesCompleted t around = 1 := by
  simp [success]

@[simp] theorem timesCompleted_success_bind (next : Unit → Handler β) :
    (success t >>= next).timesCompleted t around = (next ()).timesCompleted t around + 1 := by
  simp [success]

@[simp] theorem timesCompleted_firstLine (response : AtResponse) (next : CString → Handler β) :
    (firstLine response >>= next).timesCompleted t around =
      response.pIntermediates.head?.elim 0 fun line => (next line).timesCompleted t around := by
  unfold firstLine
  cases response.pIntermediates <;> rfl

@[simp] theorem timesCompleted_intAt0 (next : Word → Handler β) :
    (intAt0 data >>= next).timesCompleted t around =
      (intsOf data).head?.elim 0 fun first => (next first).timesCompleted t around := by
  unfold intAt0
  cases (intsOf data).head? <;> rfl

@[simp] theorem timesCompleted_stringAt (next : Option CString → Handler β) :
    (stringAt data i >>= next).timesCompleted t around =
      (stringsOf data)[i]?.elim 0 fun s => (next s).timesCompleted t around := by
  unfold stringAt
  cases (stringsOf data)[i]? <;> rfl

@[simp] theorem timesCompleted_stringOf (cause : Fault) (s : Option CString)
    (next : CString → Handler β) :
    (stringOf cause s >>= next).timesCompleted t around =
      s.elim 0 fun s => (next s).timesCompleted t around := by
  cases s <;> rfl

end Steps

end Handler

/-! ### What the handlers come to -/

section Requests

variable (abi : Abi) (data : RequestData) (datalen : Nat) (t : Nat) (around : Surroundings)

theorem requestGetCurrentCalls_once :
    (requestGetCurrentCalls abi t).timesCompleted t around = 1 := by
  simp only [requestGetCurrentCalls, timesCompleted_atSendCommandMultiline]
  cases (around.answers 0).succeeded with
  | none => simp
  | some response => simp

theorem requestDial_once : (requestDial data t).timesCompleted t around = 1 ↔
    ∃ pDial, data = .dial pDial := by
  cases data <;> simp [requestDial]

theorem requestHangup_once :
    (requestHangup data t).timesCompleted t around = 1 ↔ intsOf data ≠ [] := by
  cases ints : intsOf data <;> simp [requestHangup, ints]

theorem requestSeparateConnection_once :
    (requestSeparateConnection data t).timesCompleted t around = 1 ↔ intsOf data ≠ [] := by
  cases ints : intsOf data <;> simp [requestSeparateConnection, ints]

theorem requestDtmf_once : (requestDtmf data t).timesCompleted t around = 1 ↔
    ∃ s, data = .string s := by
  cases data <;> simp [requestDtmf]

theorem requestIgnored_once (command : CString) :
    (requestIgnored t command).timesCompleted t around = 1 := by
  simp [requestIgnored]

/-! #### SIM -/

/-- `AT+CPIN?` is not answered with an error that is taken for a success, no `+CME ERROR: 0`,
without a line. -/
def CpinLineThere (result : AtResult) : Prop :=
  ∀ response ∈ result.answer, response.pIntermediates = [] →
    response.success = false → atGetCmeError abi response ≠ cmeSuccess

/-- The status is known unless the line of an answer without lines is read. -/
theorem querySimStatus_cases (next : SimStatus → Handler Unit) :
    (CpinLineThere abi (around.answers 0) ∧ ∃ status,
        (querySimStatus abi >>= next).completions around =
            (next status).completions around.answered ∧
          (querySimStatus abi >>= next).faultOf around = (next status).faultOf around.answered) ∨
      (¬ CpinLineThere abi (around.answers 0) ∧
        (querySimStatus abi >>= next).completions around = [] ∧
          (querySimStatus abi >>= next).faultOf around = some .response) := by
  simp only [querySimStatus, bind_assoc, completions_atSendCommandSingleline,
    faultOf_atSendCommandSingleline, AtResult.answer_requireIntermediate, CpinLineThere]
  cases (around.answers 0).answer with
  | none => exact Or.inl ⟨by simp, _, rfl, rfl⟩
  | some response =>
      by_cases missing : (response.success && response.pIntermediates.isEmpty) = true
      · obtain ⟨succeeded, empty⟩ := Bool.and_eq_true_iff.mp missing
        simp only [Option.filter, succeeded, empty]
        exact Or.inl ⟨by simp [succeeded], _, rfl, rfl⟩
      · have kept : (some response).filter (fun response =>
            !(response.success && response.pIntermediates.isEmpty)) = some response := by
          rw [Option.filter_some, Bool.eq_false_iff.mpr missing]
          rfl
        rw [kept]
        simp only [Option.mem_some_iff, forall_eq']
        by_cases absent : atGetCmeError abi response = cmeSimNotInserted
        · have other : ¬ cmeSimNotInserted = cmeSuccess := by decide
          rw [if_pos absent]
          exact Or.inl ⟨by simp [absent, other], _, rfl, rfl⟩
        · by_cases error : atGetCmeError abi response = cmeSuccess
          · rw [if_neg absent, if_neg (not_not.mpr error), bind_assoc]
            cases lines : response.pIntermediates with
            | nil =>
                have failed : response.success = false := by simpa [lines] using missing
                simp only [firstLine, lines]
                exact Or.inr ⟨by simp [error, failed], rfl, rfl⟩
            | cons cpinLine rest =>
                simp only [firstLine, lines, done_bind]
                refine Or.inl ⟨by simp, ?_⟩
                cases read : Tok.read cpinLine (do Tok.start; Tok.nextstr) with
                | none => exact ⟨_, rfl, rfl⟩
                | some cpinResult =>
                    obtain ⟨_, _, _, -, came⟩ := Tok.read_bind read
                    obtain ⟨cpinResult, rfl⟩ := Option.isSome_iff_exists.mp
                      (Tok.nextstr_isSome came)
                    exact ⟨_, rfl, rfl⟩
          · rw [if_neg absent, if_pos error]
            exact Or.inl ⟨by simp [error], _, rfl, rfl⟩

/-- Behind the status something completes the request. -/
theorem querySimStatus_bind (next : SimStatus → Handler Unit)
    (always : ∀ status around, (next status).timesCompleted t around = 1) :
    (querySimStatus abi >>= next).timesCompleted t around = 1 ↔
      CpinLineThere abi (around.answers 0) := by
  unfold timesCompleted
  obtain ⟨known, status, completions, -⟩ | ⟨missing, completions, -⟩ :=
    querySimStatus_cases abi around next
  · rw [completions]
    exact iff_of_true (always status _) known
  · rw [completions]
    exact iff_of_false Nat.zero_ne_one missing

theorem requestGetSimStatus_once :
    (requestGetSimStatus abi t).timesCompleted t around = 1 ↔
      around.states 0 = .off ∨ around.states 1 = .unavailable ∨
        CpinLineThere abi (around.answers 0) := by
  have always (simStatus : SimStatus) (around : Surroundings) :
      (rilOnRequestComplete t rilESuccess (.cardStatus (cardStatusOf simStatus))
        (sizeofCardStatus abi)).timesCompleted t around = 1 := by simp
  simp only [requestGetSimStatus, getSimStatus, readState_bind, timesCompleted_readState]
  by_cases off : around.states 0 = .off
  · simp [off]
  · rw [if_neg off, readState_bind, timesCompleted_readState]
    have second : around.looked.states 0 = around.states 1 := rfl
    by_cases unavailable : around.states 1 = .unavailable
    · simp [second, unavailable]
    · rw [second, if_neg unavailable, querySimStatus_bind abi t around.looked.looked _ always]
      simp only [off, unavailable, false_or]
      exact Iff.rfl

theorem requestNumeric_once (command : CString) :
    (requestNumeric abi t command).timesCompleted t around = 1 := by
  simp only [requestNumeric, timesCompleted_atSendCommandNumeric]
  obtain ⟨-, failed⟩ | ⟨response, line, rest, -, succeeded, lines⟩ := (around.answers 0).line_cases
  · simp [failed]
  · simp [succeeded, lines]

theorem requestSimIo_once : (requestSimIo abi data t).timesCompleted t around = 1 ↔
    ∃ pArgs, data = .simIo pArgs := by
  cases data with
  | simIo pArgs =>
      simp only [requestSimIo, timesCompleted_atSendCommandSingleline]
      refine iff_of_true ?_ ⟨pArgs, rfl⟩
      obtain ⟨-, failed⟩ | ⟨response, line, rest, -, succeeded, lines⟩ :=
        (around.answers 0).line_cases
      · simp [failed]
      · simp only [succeeded, timesCompleted_firstLine, lines, List.head?_cons, Option.elim_some]
        split <;> simp
  | _ => simp [requestSimIo]

theorem requestEnterSimPin_once :
    (requestEnterSimPin abi data datalen t).timesCompleted t around = 1 ↔
      (datalen = abi.ptrSize → 1 ≤ (stringsOf data).length) ∧
        (datalen = 2 * abi.ptrSize → 2 ≤ (stringsOf data).length) := by
  have different : ¬ abi.ptrSize = 2 * abi.ptrSize := by cases abi <;> decide
  unfold requestEnterSimPin
  by_cases one : datalen = abi.ptrSize
  · cases strings : stringsOf data <;> simp [one, different, strings]
  · by_cases two : datalen = 2 * abi.ptrSize
    · match strings : stringsOf data with
      | [] => simp [two, Ne.symm different, strings]
      | [pin] => simp [two, Ne.symm different, strings]
      | pin :: second :: rest => simp [two, Ne.symm different, strings]
    · simp [one, two]

/-! #### Messages -/

theorem requestSendSms_once : (requestSendSms abi data t).timesCompleted t around = 1 ↔
    ∃ smsc pdu rest, stringsOf data = smsc :: some pdu :: rest := by
  match strings : stringsOf data with
  | [] => simp [requestSendSms, strings]
  | [smsc] => simp [requestSendSms, strings]
  | smsc :: none :: rest => simp [requestSendSms, strings]
  | smsc :: some pdu :: rest => simp [requestSendSms, strings]

theorem requestSmsAcknowledge_once : (requestSmsAcknowledge data t).timesCompleted t around = 1 ↔
    ∃ first ∈ (intsOf data).head?, first ≠ 0 ∧ first ≠ 1 := by
  cases ints : intsOf data with
  | nil => simp [requestSmsAcknowledge, ints]
  | cons first rest =>
      simp only [requestSmsAcknowledge, timesCompleted_intAt0, ints, List.head?_cons,
        Option.elim_some]
      by_cases one : first = 1
      · rw [if_pos one]
        simp [one]
      · rw [if_neg one]
        by_cases zero : first = 0
        · rw [if_pos zero]
          simp [zero]
        · rw [if_neg zero]
          simpa using ⟨zero, one⟩

theorem requestWriteSmsToSim_once :
    (requestWriteSmsToSim data t).timesCompleted t around = 1 ↔
      ∃ pArgs, data = .smsWrite pArgs ∧ pArgs.pdu.isSome := by
  cases data with
  | smsWrite pArgs => cases pdu : pArgs.pdu <;> simp [requestWriteSmsToSim, pdu]
  | _ => simp [requestWriteSmsToSim]

theorem requestDeleteSmsOnSim_once :
    (requestDeleteSmsOnSim data t).timesCompleted t around = 1 ↔ intsOf data ≠ [] := by
  cases ints : intsOf data <;> simp [requestDeleteSmsOnSim, ints]

/-! #### Network -/

theorem requestRadioPower_once :
    (requestRadioPower abi data datalen t).timesCompleted t around = 1 ↔
      abi.ptrSize ≤ datalen ∧ intsOf data ≠ [] := by
  unfold requestRadioPower
  by_cases short : datalen < abi.ptrSize
  · simp [short, Nat.not_le.mpr short]
  · cases ints : intsOf data <;> simp [short, ints, Nat.not_lt.mp short]

theorem requestQueryNetworkSelectionMode_once :
    (requestQueryNetworkSelectionMode abi t).timesCompleted t around = 1 := by
  simp only [requestQueryNetworkSelectionMode, timesCompleted_atSendCommandSingleline]
  obtain ⟨-, failed⟩ | ⟨response, line, rest, -, succeeded, lines⟩ := (around.answers 0).line_cases
  · simp [failed]
  · simp only [succeeded, timesCompleted_firstLine, lines, List.head?_cons, Option.elim_some]
    split <;> simp

theorem requestSignalStrength_once :
    (requestSignalStrength abi t).timesCompleted t around = 1 ↔
      (around.answers 0).line.isSome := by
  simp only [requestSignalStrength, timesCompleted_atSendCommandSingleline]
  obtain ⟨missing, failed⟩ | ⟨response, line, rest, first, succeeded, lines⟩ :=
    (around.answers 0).line_cases
  · simp [failed, missing]
  · simp only [succeeded, timesCompleted_firstLine, lines, List.head?_cons, Option.elim_some,
      first, Option.isSome_some, iff_true]
    split <;> simp

/-- The command is not answered with an error without a line, which the success of the
command would show. -/
def RegistrationLineThere (result : AtResult) : Prop :=
  ∀ response ∈ result.answer, response.pIntermediates = [] → response.success = true

theorem requestRegistrationState_once (command responsePrefix : CString) :
    (requestRegistrationState abi t command responsePrefix).timesCompleted t around = 1 ↔
      RegistrationLineThere (around.answers 0) := by
  simp only [requestRegistrationState, timesCompleted_atSendCommandSingleline,
    AtResult.answer_requireIntermediate, RegistrationLineThere]
  cases (around.answers 0).answer with
  | none => simp
  | some response =>
      cases lines : response.pIntermediates with
      | nil => cases success : response.success <;> simp [Option.filter, success, lines]
      | cons line rest =>
          simp only [Option.filter, lines, List.isEmpty_cons, Bool.and_false, Bool.not_false,
            if_true, timesCompleted_firstLine, List.head?_cons, Option.elim_some]
          refine iff_of_true ?_ (by simp [lines])
          split <;> simp

/-- Behind an entry that fits there is room for one less. -/
theorem room_behind {β : Type} {size : Nat} {array : List β} (entry : β)
    (room : ¬ size ≤ array.length) :
    (array ++ [entry]).length ≤ size ∧
      size - array.length = size - (array ++ [entry]).length + 1 := by
  rw [List.length_append, List.length_singleton]
  omega

/-- A loop over an array writes behind it exactly if it comes to an entry too many. -/
theorem fillArray_overrun {α β : Type} (size : Nat) (parse : α → Option β) (items : List α)
    (array : List β) (fits : array.length ≤ size) :
    fillArray size parse items array = .overrun ↔
      size - array.length < items.length ∧
        ∀ item ∈ items.take (size - array.length + 1), (parse item).isSome := by
  induction items generalizing array with
  | nil => simp [fillArray]
  | cons item items inductionHypothesis =>
      cases parsed : parse item with
      | none => simp [fillArray, parsed]
      | some entry =>
          by_cases full : size ≤ array.length
          · have last : size - array.length = 0 := by omega
            simp [fillArray, parsed, full, last]
          · obtain ⟨room, left⟩ := room_behind entry full
            simp only [fillArray, parsed, full, if_false]
            rw [inductionHypothesis _ room, left]
            simp [parsed]

/-- The answer does not have four lines in front that can be read: the array of the names
has three entries. -/
def NamesFit (result : AtResult) : Prop :=
  ∀ response ∈ result.answer, 3 < response.pIntermediates.length →
    ∃ line ∈ response.pIntermediates.take 4, operatorName abi line = none

theorem names_fit_iff (lines : List CString) :
    (3 < lines.length → ∃ line ∈ lines.take 4, operatorName abi line = none) ↔
      fillArray 3 (operatorName abi) lines [] ≠ .overrun := by
  rw [Ne, fillArray_overrun 3 (operatorName abi) lines [] (Nat.zero_le 3)]
  simp [Option.isSome_iff_ne_none]

theorem requestOperator_once :
    (requestOperator abi t).timesCompleted t around = 1 ↔ NamesFit abi (around.answers 0) := by
  simp only [requestOperator, timesCompleted_atSendCommandMultiline, NamesFit]
  cases (around.answers 0).answer with
  | none => simp
  | some response =>
      simp only [Option.mem_some_iff, forall_eq']
      rw [names_fit_iff]
      cases fillArray 3 (operatorName abi) response.pIntermediates [] <;> simp

/-! #### Data calls -/

@[simp] theorem timesCompleted_reportDataCallList (e : Word) (responses : ResponseData)
    (size : Nat) :
    (reportDataCallList (some t) e responses size).timesCompleted t around = 1 := by
  simp [reportDataCallList]

theorem requestDataCallList_once :
    (requestOrSendDataCallList abi (some t)).timesCompleted t around = 1 := by
  simp only [requestOrSendDataCallList, timesCompleted_atSendCommandMultiline]
  cases (around.answers 0).succeeded with
  | none => simp
  | some response =>
      cases active : activeDataCalls abi response.pIntermediates with
      | none => simp [active]
      | some responses =>
          simp only [active, timesCompleted_atSendCommandMultiline]
          cases (around.answered.answers 0).succeeded with
          | none => simp
          | some details =>
              simp only
              split <;> simp

theorem requestSetupDataCall_once : (requestSetupDataCall abi data t).timesCompleted t around = 1 ↔
    3 ≤ (stringsOf data).length := by
  simp only [requestSetupDataCall, timesCompleted_stringAt]
  by_cases third : 3 ≤ (stringsOf data).length
  · rw [List.getElem?_eq_getElem third]
    refine iff_of_true ?_ third
    simp only [Option.elim_some, timesCompleted_openQmi]
    cases around.qmi <;> simp
  · rw [List.getElem?_eq_none (Nat.not_lt.mp third)]
    simp [third]

/-! #### The requests of this board -/

/-- The first string is there if it is asked for. -/
def FirstStringThere : Prop := datalen = abi.ptrSize → stringsOf data ≠ []

theorem timesCompleted_stringCommand (command otherwise : CString)
    (next : CString → Handler Unit) (condition : Prop)
    (comesTo : ∀ command, (next command).timesCompleted t around = 1 ↔ condition) :
    (stringCommand abi data datalen command otherwise >>= next).timesCompleted t around = 1 ↔
      FirstStringThere abi data datalen ∧ condition := by
  unfold stringCommand FirstStringThere
  by_cases one : datalen = abi.ptrSize
  · cases strings : stringsOf data <;> simp [one, strings, comesTo]
  · simp [one, comesTo]

theorem requestNdisDial_once :
    (requestNdisDial abi data datalen t).timesCompleted t around = 1 ↔
      FirstStringThere abi data datalen := by
  unfold requestNdisDial
  rw [timesCompleted_stringCommand abi data datalen t around _ _ _ True fun command => by simp]
  simp

/-- The command succeeds, and its lines fit into the array of 20. -/
def PortsFit (result : AtResult) : Prop :=
  ∃ response ∈ result.succeeded, response.pIntermediates.length ≤ 20

theorem ports_fit_iff (lines : List CString) :
    lines.length ≤ 20 ↔ fillArray 20 (fun line => some (some line)) lines [] ≠ .overrun := by
  rw [Ne, fillArray_overrun 20 _ lines [] (Nat.zero_le 20)]
  simp

theorem requestPortList_once :
    (requestPortList abi data datalen t).timesCompleted t around = 1 ↔
      FirstStringThere abi data datalen ∧ PortsFit (around.answers 0) := by
  refine timesCompleted_stringCommand abi data datalen t around _ _ _ _ fun command => ?_
  simp only [timesCompleted_atSendCommandMultiline, PortsFit]
  cases (around.answers 0).succeeded with
  | none => simp
  | some response =>
      simp only [Option.mem_some_iff, exists_eq_left']
      rw [ports_fit_iff]
      cases fillArray 20 (fun line => some (some line)) response.pIntermediates [] <;> simp

/-- The pointer behind so many calls of `at_tok_nextstr`. -/
def behindStrings : Nat → Option CString → Option CString
  | 0, pCur => pCur
  | calls + 1, pCur => behindStrings calls (atTokNextstr pCur none).pCur

@[simp] theorem behindStrings_none (calls : Nat) : behindStrings calls none = none := by
  induction calls with
  | zero => rfl
  | succ calls inductionHypothesis => exact inductionHypothesis

/-- A loop over `at_tok_nextstr` writes behind its array exactly if there are more calls
than entries and the pointer is not NULL behind the entries. -/
theorem fillStrings_overrun (size calls : Nat) (pCur : Option CString)
    (response : List (Option CString)) (fits : response.length ≤ size) :
    fillStrings size calls pCur response = .overrun ↔
      size - response.length < calls ∧
        (behindStrings (size - response.length) pCur).isSome := by
  induction calls generalizing pCur response with
  | zero => simp [fillStrings]
  | succ calls inductionHypothesis =>
      cases pCur with
      | none => simp [fillStrings, atTokNextstr]
      | some cur =>
          by_cases full : size ≤ response.length
          · have last : size - response.length = 0 := by omega
            simp [fillStrings, atTokNextstr, full, last, behindStrings]
          · obtain ⟨room, left⟩ := room_behind (atTokNextstr (some cur) none).out full
            have read : ¬ (atTokNextstr (some cur) none).err < 0 := by simp [atTokNextstr]
            simp only [fillStrings, if_neg read, full, if_false]
            rw [inductionHypothesis _ _ room, left]
            simp [behindStrings]

/-- The fields of the line fit into the array of ten: it has no more than nine commas, or
the line has come to its end behind ten fields. -/
def FieldsFit (line : CString) : Prop :=
  commas line ≤ 9 ∨ behindStrings 10 (atTokStart (some line)).pCur = none

theorem fields_fit_iff (line : CString) : FieldsFit line ↔ lineFields line ≠ .overrun := by
  unfold FieldsFit lineFields
  by_cases started : (atTokStart (some line)).err < 0
  · simp [started, atTokStart_failed started]
  · rw [if_neg started, Ne, fillStrings_overrun 10 _ _ [] (Nat.zero_le 10)]
    simp only [List.length_nil, Nat.sub_zero, not_and, Option.not_isSome_iff_eq_none]
    by_cases few : commas line ≤ 9
    · have many : ¬ 10 < commas line + 1 := by omega
      simp [few, many]
    · have many : 10 < commas line + 1 := by omega
      simp [few, many]

theorem completeWithFields_once (line : CString) :
    (completeWithFields abi t line).timesCompleted t around = 1 ↔ FieldsFit line := by
  rw [fields_fit_iff]
  unfold completeWithFields
  cases lineFields line <;> simp

theorem requestFields_once (command responsePrefix : CString) :
    (requestFields abi t command responsePrefix).timesCompleted t around = 1 ↔
      ∃ line ∈ (around.answers 0).line, FieldsFit line := by
  simp only [requestFields, timesCompleted_atSendCommandSingleline]
  obtain ⟨missing, failed⟩ | ⟨response, line, rest, first, succeeded, lines⟩ :=
    (around.answers 0).line_cases
  · simp [failed, missing]
  · simp [succeeded, lines, first, completeWithFields_once]

theorem requestPdpAddr_once :
    (requestPdpAddr abi data datalen t).timesCompleted t around = 1 ↔
      FirstStringThere abi data datalen ∧ ∃ line ∈ (around.answers 0).line, FieldsFit line :=
  timesCompleted_stringCommand abi data datalen t around _ _ _ _ fun command =>
    requestFields_once abi t around command _

theorem requestDhcpInfo_once :
    (requestDhcpInfo abi data datalen t).timesCompleted t around = 1 ↔
      FirstStringThere abi data datalen ∧ ∃ line ∈ (around.answers 0).line, FieldsFit line :=
  timesCompleted_stringCommand abi data datalen t around _ _ _ _ fun command =>
    requestFields_once abi t around command _

/-- The first command leaves no response and the second one does, or the first one
succeeds with a line whose fields fit. -/
def BindStateAnswered (first second : AtResult) : Prop :=
  (first.requireIntermediate.pResponse = none ∧ second.pResponse.isSome) ∨
    ∃ line ∈ first.line, FieldsFit line

theorem sendPsCsStat_once (command : CString) :
    (sendPsCsStat abi t command).timesCompleted t around = 1 ↔
      BindStateAnswered (around.answers 0) (around.answers 1) := by
  simp only [sendPsCsStat, timesCompleted_atSendCommandSingleline, BindStateAnswered]
  obtain ⟨missing, failed⟩ | ⟨response, line, rest, first, succeeded, lines⟩ :=
    (around.answers 0).line_cases
  · cases stored : (around.answers 0).requireIntermediate.pResponse with
    | none =>
        have again : around.answered.answers 0 = around.answers 1 := rfl
        simp only [Option.isNone_none, if_true, timesCompleted_atSendCommand, again]
        cases second : (around.answers 1).pResponse with
        | none =>
            have nothing : (around.answers 1).succeeded = none := by
              by_contra present
              obtain ⟨response, succeeded⟩ := Option.ne_none_iff_exists'.mp present
              simp [AtResult.pResponse_of_succeeded succeeded] at second
            simp [nothing, missing]
        | some response => simp
    | some response => simp [failed, missing]
  · simp [succeeded, lines, first, completeWithFields_once,
      AtResult.pResponse_of_succeeded succeeded]

theorem requestPsCsStat_once :
    (requestPsCsStat abi data datalen t).timesCompleted t around = 1 ↔
      (datalen = 2 * abi.ptrSize → 2 ≤ (stringsOf data).length) ∧
        BindStateAnswered (around.answers 0) (around.answers 1) := by
  unfold requestPsCsStat psCsStatCommand
  have different : ¬ abi.ptrSize = 2 * abi.ptrSize := by cases abi <;> decide
  by_cases one : datalen = abi.ptrSize
  · simp [one, different, sendPsCsStat_once]
  · by_cases two : datalen = 2 * abi.ptrSize
    · match strings : stringsOf data with
      | [] => simp [two, Ne.symm different, strings]
      | [first] => simp [two, Ne.symm different, strings]
      | first :: second :: rest =>
          simp [two, Ne.symm different, strings, sendPsCsStat_once]
    · simp [one, two, sendPsCsStat_once]

theorem requestOemHookStrings_once :
    (requestOemHookStrings abi data datalen t).timesCompleted t around = 1 ↔
      (BitVec.ofNat 32 (datalen / abi.ptrSize)).toInt ≤ (stringsOf data).length := by
  unfold requestOemHookStrings
  by_cases beyond : ((stringsOf data).length : Int) <
      (BitVec.ofNat 32 (datalen / abi.ptrSize)).toInt
  · simp only [beyond, if_true, timesCompleted_fault, Nat.zero_ne_one, false_iff]
    exact Int.not_le.mpr beyond
  · simp only [beyond, if_false, timesCompleted_rilOnRequestComplete, true_iff]
    exact Int.not_lt.mp beyond

end Requests

/-! ### onRequest -/

/-- One of the two checks of `sState` refuses the request. -/
def Refused (request : RilRequest) (around : Surroundings) : Prop :=
  (around.states 0 = .unavailable ∧ request ≠ .getSimStatus) ∨
    around.states 1 = .off ∧ ¬ (request = .radioPower ∨ request = .getSimStatus)

/-- What a request that is not refused needs: of its data what its handler reads, of the
answers that they neither take the handler to a label it has been at, nor to memory that is
not there. -/
def Answerable (abi : Abi) (call : OnRequest) (around : Surroundings) : Prop :=
  let data := call.data
  let answer := around.answers 0
  match call.request with
  | .getSimStatus =>
      around.states 2 = .off ∨ around.states 3 = .unavailable ∨ CpinLineThere abi answer
  | .dial => ∃ pDial, data = .dial pDial
  | .hangup | .separateConnection | .deleteSmsOnSim => intsOf data ≠ []
  | .signalStrength => answer.line.isSome
  | .registrationState | .gprsRegistrationState => RegistrationLineThere answer
  | .operator => NamesFit abi answer
  | .radioPower => abi.ptrSize ≤ call.datalen ∧ intsOf data ≠ []
  | .dtmf => ∃ s, data = .string s
  | .sendSms => ∃ smsc pdu rest, stringsOf data = smsc :: some pdu :: rest
  | .setupDataCall => 3 ≤ (stringsOf data).length
  | .smsAcknowledge => ∃ first ∈ (intsOf data).head?, first ≠ 0 ∧ first ≠ 1
  | .simIo => ∃ pArgs, data = .simIo pArgs
  | .setNetworkSelectionAutomatic => False
  | .oemHookStrings =>
      (BitVec.ofNat 32 (call.datalen / abi.ptrSize)).toInt ≤ (stringsOf data).length
  | .writeSmsToSim => ∃ pArgs, data = .smsWrite pArgs ∧ pArgs.pdu.isSome
  | .enterSimPin | .enterSimPuk | .enterSimPin2 | .enterSimPuk2 | .changeSimPin
  | .changeSimPin2 =>
      (call.datalen = abi.ptrSize → 1 ≤ (stringsOf data).length) ∧
        (call.datalen = 2 * abi.ptrSize → 2 ≤ (stringsOf data).length)
  | .supportPorts => FirstStringThere abi data call.datalen ∧ PortsFit answer
  | .pscsBindState =>
      (call.datalen = 2 * abi.ptrSize → 2 ≤ (stringsOf data).length) ∧
        BindStateAnswered answer (around.answers 1)
  | .ndisDial => FirstStringThere abi data call.datalen
  | .pdpAddr | .dhcpInfo =>
      FirstStringThere abi data call.datalen ∧ ∃ line ∈ answer.line, FieldsFit line
  | _ => True

theorem switchRequest_once (abi : Abi) (call : OnRequest) (around : Surroundings) :
    (switchRequest abi call).timesCompleted call.t around.looked.looked = 1 ↔
      Answerable abi call around := by
  obtain ⟨request, data, datalen, t⟩ := call
  cases request
  case getSimStatus => exact requestGetSimStatus_once abi t _
  case dial => exact requestDial_once data t _
  case hangup => exact requestHangup_once data t _
  case separateConnection => exact requestSeparateConnection_once data t _
  case signalStrength => exact requestSignalStrength_once abi t _
  case registrationState | gprsRegistrationState =>
    exact requestRegistrationState_once abi t _ _ _
  case operator => exact requestOperator_once abi t _
  case radioPower => exact requestRadioPower_once abi data datalen t _
  case dtmf => exact requestDtmf_once data t _
  case sendSms => exact requestSendSms_once abi data t _
  case setupDataCall => exact requestSetupDataCall_once abi data t _
  case smsAcknowledge => exact requestSmsAcknowledge_once data t _
  case simIo => exact requestSimIo_once abi data t _
  case setNetworkSelectionAutomatic => exact iff_of_false Nat.zero_ne_one id
  case oemHookStrings => exact requestOemHookStrings_once abi data datalen t _
  case writeSmsToSim => exact requestWriteSmsToSim_once data t _
  case deleteSmsOnSim => exact requestDeleteSmsOnSim_once data t _
  case enterSimPin | enterSimPuk | enterSimPin2 | enterSimPuk2 | changeSimPin | changeSimPin2 =>
    exact requestEnterSimPin_once abi data datalen t _
  case supportPorts => exact requestPortList_once abi data datalen t _
  case pscsBindState => exact requestPsCsStat_once abi data datalen t _
  case ndisDial => exact requestNdisDial_once abi data datalen t _
  case pdpAddr => exact requestPdpAddr_once abi data datalen t _
  case dhcpInfo => exact requestDhcpInfo_once abi data datalen t _
  case getCurrentCalls => exact iff_true_intro (requestGetCurrentCalls_once abi t _)
  case getImsi | getImei | cancelUssd => exact iff_true_intro (requestNumeric_once abi t _ _)
  case dataCallList => exact iff_true_intro (requestDataCallList_once abi t _)
  case queryNetworkSelectionMode =>
    exact iff_true_intro (requestQueryNetworkSelectionMode_once abi t _)
  case hangupWaitingOrBackground | hangupForegroundResumeBackground
      | switchWaitingOrHoldingAndActive | answer | conference | udub =>
    exact iff_true_intro (requestIgnored_once t _ _)
  all_goals exact iff_true_intro (timesCompleted_rilOnRequestComplete t _ _ _ _)

/-- **Completed once.** A request is completed exactly once, with its token, exactly if it
is refused for the radio state or answerable. -/
theorem onRequest_completesOnce_iff (abi : Abi) (call : OnRequest) (around : Surroundings) :
    (onRequest abi call).timesCompleted call.t around = 1 ↔
      Refused call.request around ∨ Answerable abi call around := by
  unfold onRequest Refused
  rw [timesCompleted_readState]
  by_cases unavailable : around.states 0 = .unavailable ∧ call.request ≠ .getSimStatus
  · simp [unavailable]
  · have second : around.looked.states 0 = around.states 1 := rfl
    rw [if_neg unavailable, timesCompleted_readState, second]
    by_cases off : around.states 1 = .off ∧
        ¬ (call.request = .radioPower ∨ call.request = .getSimStatus)
    · simp [off]
    · rw [if_neg off, switchRequest_once]
      simp only [unavailable, off, false_or]

/-- A radio that is ready, on a modem that answers every command with `OK`. -/
def readyRadio : Surroundings where
  answers := fun _ => ⟨0, some ⟨true, some (ascii "OK"), []⟩, Or.inl ⟨rfl, rfl⟩⟩
  states := fun _ => .simReady
  qmi := none

/-- **Twice, or never.** An acknowledgement of a message, as its dispatch function hands it
over, is completed twice, and the choice of a network is never completed. -/
theorem smsAcknowledge_completedTwice :
    ((dispatchInts .lp64 .smsAcknowledge 16).runBytes (Platform.strndup16to8 ByteParcel)
        (wordBytes 1 ++ wordBytes 1)).2.2 = [⟨.smsAcknowledge, .ints [1], 4, 16⟩] ∧
      (onRequest .lp64 ⟨.smsAcknowledge, .ints [1], 4, 16⟩).timesCompleted 16 readyRadio = 2 ∧
      (onRequest .lp64 ⟨.setNetworkSelectionAutomatic, .null, 0, 16⟩).timesCompleted 16
        readyRadio = 0 := by
  decide

end RildHisi.ReferenceRil
