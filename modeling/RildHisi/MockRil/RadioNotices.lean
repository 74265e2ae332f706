import RildHisi.Libril.LedgerRefinement
import RildHisi.Libril.UnsolResponses
import RildHisi.Libril.WireLists
import RildHisi.MockRil.CurrentCalls
import RildHisi.MockRil.MessageCodecs

/-!
Owns what mock-ril tells of its own: the calls of `sendRilUnsolicitedResponse` that the
simulated radio makes, the conversion of their buffers, and the frames of libril among the
answers to requests.

The numbers of a signal strength are ints. Handlers add later requests to the queue of the
worker; which of them come is given by the run, and so is what the conversion makes of the
answer to a request.
-/

namespace RildHisi.MockRil

open RildHisi.Library

/-- The argument of `sendRilUnsolicitedResponse`. -/
def Unsolicited.number : Unsolicited → ℕ
  | .responseCallStateChanged => 1001
  | .signalStrength => 1009
  | .callRing => 1018

namespace Generated

open RildHisi.Libril (AppendingPlatform ParcelWrite Platform Pointee State UnsolMoment UnsolPointee
  Word takenFrame unsolHeader wordBytes)

/-! ### responses.cpp -/

/-- The conversions of unsolicited responses. -/
inductive UnsolRspConversion
  | signalStrength
  deriving DecidableEq

def unsolRilRspConversionMap : List (ℕ × UnsolRspConversion) := [(1009, .signalStrength)]

section Conversion

variable {stream : CodedStream} (lookahead : Lookahead stream) (memory : Pointee)

/-- It does with the message what `RspSignalStrength` does. None where there is no buffer, which
it reads all the same. -/
def unsolRspSignalStrength (buffer : Option (List UInt8)) : Option RilResponse := do
  let bytes ← buffer
  let rsp ← parsedContents lookahead .rspSignalStrength bytes
  return rspSignalStrength memory rsp

/-- The data of `OnUnsolicitedResponse`. A buffer without a conversion is dropped. -/
def sendRilUnsolicitedResponse (cmd : ℕ) (buffer : Option (List UInt8)) : Option RilResponse :=
  match unsolRilRspConversionMap.lookup cmd with
  | some .signalStrength => unsolRspSignalStrength lookahead memory buffer
  | none => some rspWithNoData

end Conversion

/-! ### simulated_radio.js -/

/-- `gwSignalStrength`, `cdmaSignalStrength` and `evdoSignalStrength`. -/
structure SignalStrengths where
  signalStrength : Word
  bitErrorRate : Word
  cdmaDbm : Word
  cdmaEcio : Word
  evdoDbm : Word
  evdoEcio : Word
  signalNoiseRatio : Word
  deriving DecidableEq

namespace SignalStrengths

def initial : SignalStrengths := ⟨10, 0, -1, -1, -1, -1, 0⟩

variable (strengths : SignalStrengths)

/-- What `setSignalStrength` does not throw at. -/
def Valid : Prop :=
  strengths.signalStrength.toInt = 99 ∨
    0 ≤ strengths.signalStrength.toInt ∧ strengths.signalStrength.toInt ≤ 31

instance : Decidable strengths.Valid := by
  unfold Valid
  infer_instance

def gwToJs : JsValue :=
  .object [.number strengths.signalStrength.toInt, .number strengths.bitErrorRate.toInt]

def cdmaToJs : JsValue :=
  .object [.number strengths.cdmaDbm.toInt, .number strengths.cdmaEcio.toInt]

def evdoToJs : JsValue :=
  .object [.number strengths.evdoDbm.toInt, .number strengths.evdoEcio.toInt,
    .number strengths.signalNoiseRatio.toInt]

/-- The object that `cmdUnsolSignalStrength` serializes. -/
def toJs : JsValue := .object [strengths.gwToJs, strengths.cdmaToJs, strengths.evdoToJs]

/-- The object that `setSignalStrength` serializes. It has the strength of CDMA under
`cdmSignalstrength`, which no field is called. -/
def toJsAtOnce : JsValue := .object [strengths.gwToJs, .undefined, strengths.evdoToJs]

end SignalStrengths

/-! ### Steps -/

/-- What `sendRilRequestComplete` passes on to libril. -/
structure RequestComplete where
  token : ℕ
  e : Word
  response : Option Pointee
  responselen : ℕ
  script : List WriteOutcome

/-- What the notices of a step find: what V8 has released, the stack, and libril. `completion`
is none where the conversion of an answer gives up. -/
structure NoticeMoment where
  freed : FreedMemory
  memory : UnsolPointee
  moment : Unsolicited → UnsolMoment
  completion : Option RequestComplete

/-- The client takes every byte of the step. -/
structure NoticeMoment.Taken (found : NoticeMoment) : Prop where
  notices : ∀ notice, NeverFails (found.moment notice).script
  completion : ∀ complete ∈ found.completion, NeverFails complete.script

/-- A record that libril reads, a request that the worker of the radio processes, or a call of
`setSignalStrength`. -/
inductive RadioCall
  | record (buffer : List UInt8) (pRI : ℕ)
  | process (request : RadioRequest)
  | setSignalStrength (strengths : SignalStrengths)

/-- `isCtrlServerDispatchCommand`. -/
def isCtrlServerDispatchCommand (cmd : ℕ) : Bool := 1000 < cmd

/-- The radio, its signal strength, and libril. -/
structure MockRadio where
  radio : Radio
  strengths : SignalStrengths
  libril : State

section Step

variable (P : Type) [Platform P] {stream : CodedStream} (lookahead : Lookahead stream) (v8 : V8)
  (version : ℕ)

/-- A notice, whose data is the object if it has any. None where the script throws or the code
goes wrong. -/
def tellNotice (found : NoticeMoment) (object : JsValue) (s : State) (notice : Unsolicited) :
    Option State := do
  let buffer ←
    if notice = .signalStrength then
      (rilSchema.serialize v8 found.freed .rspSignalStrength object).map fun value =>
        some (serializeToArray stream .rspSignalStrength value)
    else some none
  let response ←
    sendRilUnsolicitedResponse lookahead found.memory.toPointee notice.number buffer
  s.tell P version notice.number
    (response.response.map fun pointee => { found.memory with toPointee := pointee })
    response.responselen (found.moment notice)

/-- The end of `process`. The answer to a control command goes elsewhere. -/
def sendResponse (handled : Handled) (reqNum : ℕ) (found : NoticeMoment) (s : State) : State :=
  if handled.sendResponse && !isCtrlServerDispatchCommand reqNum then
    match found.completion with
    | none => s
    | some complete =>
        s.rilOnRequestComplete P version complete.token complete.e complete.response
          complete.responselen complete.script
  else s

def mockStep (mock : MockRadio) : RadioCall × NoticeMoment → Option MockRadio
  | (.record buffer pRI, _) =>
      some { mock with libril := mock.libril.processCommandBuffer P version buffer pRI }
  | (.process request, found) =>
      let handled := mock.radio.process request
      (handled.unsolicited.foldlM
        (tellNotice P lookahead v8 version found mock.strengths.toJs) mock.libril).map
          fun libril => ⟨handled.radio, mock.strengths,
            sendResponse P version handled request.reqNum found libril⟩
  | (.setSignalStrength strengths, found) =>
      if strengths.Valid then
        (tellNotice P lookahead v8 version found strengths.toJsAtOnce mock.libril
          .signalStrength).map fun libril => ⟨mock.radio, strengths, libril⟩
      else some mock

end Step

/-! ### What the client is to be told -/

def SignalStrengths.words (strengths : SignalStrengths) : List Word :=
  [strengths.signalStrength, strengths.bitErrorRate, strengths.cdmaDbm, strengths.cdmaEcio,
    strengths.evdoDbm, strengths.evdoEcio, strengths.signalNoiseRatio]

/-- The seven numbers behind the code. -/
def SignalStrengths.data (strengths : SignalStrengths) : List UInt8 :=
  unsolHeader 1009 ++ strengths.words.flatMap wordBytes

/-- What the notice of `setSignalStrength` tells of CDMA is zero. -/
def SignalStrengths.toldAtOnce (strengths : SignalStrengths) : SignalStrengths :=
  { strengths with cdmaDbm := 0, cdmaEcio := 0 }

def Unsolicited.data (strengths : SignalStrengths) : Unsolicited → List UInt8
  | .responseCallStateChanged => unsolHeader 1001
  | .callRing => unsolHeader 1018
  | .signalStrength => strengths.data

/-- The notices of the calls, one after another. -/
def noticesOf : Radio → SignalStrengths → List RadioCall → List (List UInt8)
  | _, _, [] => []
  | radio, strengths, .record _ _ :: calls => noticesOf radio strengths calls
  | radio, strengths, .process request :: calls =>
      (radio.process request).unsolicited.map (Unsolicited.data strengths) ++
        noticesOf (radio.process request).radio strengths calls
  | radio, strengths, .setSignalStrength set :: calls =>
      if set.Valid then set.toldAtOnce.data :: noticesOf radio set calls
      else noticesOf radio strengths calls

/-! ### The object -/

namespace SignalStrengths

variable (strengths : SignalStrengths)

def gwValue : Value :=
  .message [[.int strengths.signalStrength.toInt], [.int strengths.bitErrorRate.toInt]]

def cdmaValue : Value := .message [[.int strengths.cdmaDbm.toInt], [.int strengths.cdmaEcio.toInt]]

def evdoValue : Value :=
  .message [[.int strengths.evdoDbm.toInt], [.int strengths.evdoEcio.toInt],
    [.int strengths.signalNoiseRatio.toInt]]

def value : Value :=
  .message [[strengths.gwValue], [strengths.cdmaValue], [strengths.evdoValue]]

def valueAtOnce : Value := .message [[strengths.gwValue], [], [strengths.evdoValue]]

end SignalStrengths

theorem int32_toInt (number : Word) : IntType.int32.InRange number.toInt :=
  ⟨BitVec.le_toInt number, BitVec.toInt_lt⟩

theorem natAbs_toInt (number : Word) : number.toInt.natAbs ≤ 9007199254740992 := by
  have low := BitVec.le_toInt number
  have high := BitVec.toInt_lt (x := number)
  omega

section Object

variable (v8 : V8) (strengths : SignalStrengths) (freed : FreedMemory)

theorem valueToProto_word (number : Word) :
    valueToProto rilSchema v8 freed (.int .int32) (.number number.toInt) =
      some (.int number.toInt) := valueToProto_int32 v8 freed (int32_toInt number)

theorem valueToProto_gw :
    valueToProto rilSchema v8 freed (.message .rilGwSignalStrength) strengths.gwToJs =
      some strengths.gwValue :=
  Converts.valueToProto (.set rfl (by simp) (valueToProto_word v8 · _)
    (.set rfl (by simp) (valueToProto_word v8 · _) .nil)) freed

theorem valueToProto_cdma :
    valueToProto rilSchema v8 freed (.message .rilCdmaSignalStrength) strengths.cdmaToJs =
      some strengths.cdmaValue :=
  Converts.valueToProto (.set rfl (by simp) (valueToProto_word v8 · _)
    (.set rfl (by simp) (valueToProto_word v8 · _) .nil)) freed

theorem valueToProto_evdo :
    valueToProto rilSchema v8 freed (.message .rilEvdoSignalStrength) strengths.evdoToJs =
      some strengths.evdoValue :=
  Converts.valueToProto (.set rfl (by simp) (valueToProto_word v8 · _)
    (.set rfl (by simp) (valueToProto_word v8 · _)
    (.set rfl (by simp) (valueToProto_word v8 · _) .nil))) freed

/-- `Serialize` of the object of `cmdUnsolSignalStrength`. -/
theorem serialize_strengths :
    rilSchema.serialize v8 freed .rspSignalStrength strengths.toJs = some strengths.value :=
  Converts.valueToProto
    (.set rfl (by simp [SignalStrengths.gwToJs]) (valueToProto_gw v8 strengths)
    (.set rfl (by simp [SignalStrengths.cdmaToJs])
      (valueToProto_cdma v8 strengths)
    (.set rfl (by simp [SignalStrengths.evdoToJs])
      (valueToProto_evdo v8 strengths) .nil))) freed

/-- `Serialize` of the object of `setSignalStrength`. -/
theorem serialize_strengthsAtOnce :
    rilSchema.serialize v8 freed .rspSignalStrength strengths.toJsAtOnce =
      some strengths.valueAtOnce :=
  Converts.valueToProto
    (.set rfl (by simp [SignalStrengths.gwToJs]) (valueToProto_gw v8 strengths)
    (.unset _ (.set rfl (by simp [SignalStrengths.evdoToJs])
      (valueToProto_evdo v8 strengths) .nil))) freed

theorem value_hasType : ValueHasType rilSchema (.message .rspSignalStrength) strengths.value := by
  simp [SignalStrengths.value, SignalStrengths.gwValue, SignalStrengths.cdmaValue,
    SignalStrengths.evdoValue, ValueHasType, FieldsHaveType, ElementsHaveType, rilSchema,
    RilMessage.fields, singular, int32_toInt, natAbs_toInt]

theorem valueAtOnce_hasType :
    ValueHasType rilSchema (.message .rspSignalStrength) strengths.valueAtOnce := by
  simp [SignalStrengths.valueAtOnce, SignalStrengths.gwValue, SignalStrengths.evdoValue,
    ValueHasType, FieldsHaveType, ElementsHaveType, rilSchema, RilMessage.fields, singular,
    int32_toInt, natAbs_toInt]

end Object

/-! ### The conversion -/

/-- `curSignalStrength`. -/
def SignalStrengths.reported (strengths : SignalStrengths) : Libril.RilSignalStrength where
  gwSignalStrength := strengths.signalStrength
  gwBitErrorRate := strengths.bitErrorRate
  cdmaDbm := strengths.cdmaDbm
  cdmaEcio := strengths.cdmaEcio
  evdoDbm := strengths.evdoDbm
  evdoEcio := strengths.evdoEcio
  evdoSignalNoiseRatio := strengths.signalNoiseRatio

theorem rspSignalStrength_value {υ : Type} (memory : Pointee) (strengths : SignalStrengths) :
    rspSignalStrength memory (Contents.ofProto (protoOf strengths.value : Proto υ)) =
      ⟨some { memory with signalStrength := strengths.reported }, Libril.sizeofSignalStrength⟩ := by
  simp [rspSignalStrength, SignalStrengths.value, SignalStrengths.gwValue,
    SignalStrengths.cdmaValue, SignalStrengths.evdoValue, SignalStrengths.reported, protoOf,
    fieldsOf, elementsOf, Contents.ofProto, messageField, numberField, numberOr0,
    Contents.elements]

theorem rspSignalStrength_valueAtOnce {υ : Type} (memory : Pointee)
    (strengths : SignalStrengths) :
    rspSignalStrength memory (Contents.ofProto (protoOf strengths.valueAtOnce : Proto υ)) =
      ⟨some { memory with signalStrength := strengths.toldAtOnce.reported },
        Libril.sizeofSignalStrength⟩ := by
  simp [rspSignalStrength, SignalStrengths.valueAtOnce, SignalStrengths.gwValue,
    SignalStrengths.evdoValue, SignalStrengths.reported, SignalStrengths.toldAtOnce, protoOf,
    fieldsOf, elementsOf, Contents.ofProto, messageField, numberField, numberOr0,
    Contents.elements]

/-! ### One notice -/

section Notice

variable {P : Type} [Platform P] [AppendingPlatform P] {stream : CodedStream}
  (lookahead : Lookahead stream) (v8 : V8) {version : ℕ} (found : NoticeMoment) {s : State}
  {connection : ℕ}

theorem SignalStrengths.data_length (strengths : SignalStrengths) :
    strengths.data.length = 36 := by
  simp [SignalStrengths.data, SignalStrengths.words, Libril.unsolHeader_length,
    Libril.wordBytes_length]

/-- A notice without data is its code. -/
theorem tellNotice_bare {notice : Unsolicited} (bare : notice ≠ .signalStrength)
    (object : JsValue) (strengths : SignalStrengths) (client : s.client = some connection)
    (taken : NeverFails (found.moment notice).script) :
    tellNotice P lookahead v8 version found object s notice =
      some { s with
        frames := s.frames ++ [takenFrame connection (Unsolicited.data strengths notice)] } := by
  have short (code : ℕ) : (unsolHeader code).length ≤ Libril.maxCommandBytes := by
    rw [Libril.unsolHeader_length]
    decide
  have calls : tellNotice P lookahead v8 version found object s notice =
      s.tell P version notice.number none 0 (found.moment notice) := by
    cases notice with
    | signalStrength => exact absurd rfl bare
    | responseCallStateChanged => rfl
    | callRing => rfl
  rw [calls]
  cases notice with
  | signalStrength => exact absurd rfl bare
  | responseCallStateChanged =>
      have row : Libril.unsolResponseInfo 1001 =
          some ⟨1001, .common .responseVoid, .wakePartial⟩ := rfl
      exact State.tell_taken row rfl client (Libril.data_unsolParcel_bare 1001 rfl) (short 1001)
        taken
  | callRing =>
      have row : Libril.unsolResponseInfo 1018 =
          some ⟨1018, .responseCallRing, .wakePartial⟩ := rfl
      exact State.tell_taken row rfl client (Libril.data_unsolParcel_bare 1018 rfl) (short 1018)
        taken

/-- A signal strength is what the conversion finds in the message. -/
theorem tellNotice_strengths {object : JsValue} {value : Value}
    (serialized : rilSchema.serialize v8 found.freed .rspSignalStrength object = some value)
    (hasType : ValueHasType rilSchema (.message .rspSignalStrength) value)
    (shallow : levels value ≤ stream.recursionLimit + 1)
    (small : (serializeToArray stream .rspSignalStrength value).length < 2 ^ 31)
    {told : SignalStrengths}
    (converted : rspSignalStrength found.memory.toPointee
        (Contents.ofProto (protoOf value : Proto stream.Unknown)) =
      ⟨some { found.memory.toPointee with signalStrength := told.reported },
        Libril.sizeofSignalStrength⟩)
    (client : s.client = some connection)
    (taken : NeverFails (found.moment .signalStrength).script) :
    tellNotice P lookahead v8 version found object s .signalStrength =
      some { s with frames := s.frames ++ [takenFrame connection told.data] } := by
  have parsed := parsedContents_serializeToArray lookahead hasType shallow small
  have response : sendRilUnsolicitedResponse lookahead found.memory.toPointee 1009
      (some (serializeToArray stream .rspSignalStrength value)) =
        some ⟨some { found.memory.toPointee with signalStrength := told.reported },
          Libril.sizeofSignalStrength⟩ := by
    show ((parsedContents lookahead .rspSignalStrength _).bind fun rsp =>
      some (rspSignalStrength found.memory.toPointee rsp)) = _
    rw [parsed, Option.bind_some, converted]
  have words : ∀ write ∈ told.words.map ParcelWrite.int32, write.Fits P := by
    intro write member
    obtain ⟨word, -, rfl⟩ := List.mem_map.mp member
    exact trivial
  have plain : Libril.morePayload 1009 (found.moment .signalStrength) = [] := rfl
  have row : Libril.unsolResponseInfo 1009 =
      some ⟨1009, .common .responseRilSignalStrength, .dontWake⟩ := rfl
  unfold tellNotice
  rw [if_pos rfl, serialized]
  simp only [Option.map_some, Option.bind_eq_bind, Option.bind_some, Unsolicited.number, response]
  refine State.tell_taken row rfl client ((Libril.data_unsolParcel_plain 1009 plain words).trans ?_)
    (by rw [told.data_length]; decide) taken
  rw [List.flatMap_map]
  rfl

end Notice

/-! ### Unsolicited frames -/

def unsolicitedFrames (frames : List Libril.Frame) : List Libril.Frame :=
  frames.filter fun frame => !frame.solicited

theorem unsolicitedFrames_append (first second : List Libril.Frame) :
    unsolicitedFrames (first ++ second) = unsolicitedFrames first ++ unsolicitedFrames second :=
  List.filter_append ..

theorem unsolicitedFrames_solicited {frames : List Libril.Frame}
    (solicited : ∀ frame ∈ frames, frame.solicited = true) : unsolicitedFrames frames = [] :=
  List.filter_eq_nil_iff.mpr fun frame member => by simp [solicited frame member]

/-- The frames of notices are unsolicited. -/
theorem unsolicitedFrames_notices {datas : List (List UInt8)} (connection : ℕ)
    (headed : ∀ data ∈ datas, ∃ code rest, data = unsolHeader code ++ rest) :
    unsolicitedFrames (datas.map (takenFrame connection)) = datas.map (takenFrame connection) := by
  refine List.filter_eq_self.mpr fun frame member => ?_
  obtain ⟨data, inside, rfl⟩ := List.mem_map.mp member
  obtain ⟨code, rest, rfl⟩ := headed data inside
  have other : Libril.Frame.solicited (takenFrame connection (unsolHeader code ++ rest)) = false :=
    decide_eq_false (show ¬ wordBytes Libril.responseUnsolicited = wordBytes 0 by decide)
  simp [other]

theorem Unsolicited.data_headed (strengths : SignalStrengths) (notice : Unsolicited) :
    ∃ code rest, Unsolicited.data strengths notice = unsolHeader code ++ rest := by
  cases notice with
  | signalStrength => exact ⟨1009, _, rfl⟩
  | responseCallStateChanged => exact ⟨1001, [], (List.append_nil _).symm⟩
  | callRing => exact ⟨1018, [], (List.append_nil _).symm⟩

/-! ### Runs -/

section Run

variable {P : Type} [Platform P] [AppendingPlatform P] {stream : CodedStream}
  (lookahead : Lookahead stream) (deep : 1 ≤ stream.recursionLimit) (v8 : V8) (version : ℕ)
  (small : ∀ strengths : SignalStrengths,
    (serializeToArray stream .rspSignalStrength strengths.value).length < 2 ^ 31 ∧
      (serializeToArray stream .rspSignalStrength strengths.valueAtOnce).length < 2 ^ 31)
  (found : NoticeMoment) (taken : found.Taken) {connection : ℕ}

/-- What a step does to libril: these notices are told, among answers. -/
structure Tells (connection : ℕ) (before after : State) (told : List (List UInt8)) : Prop where
  client : after.client = some connection
  frames : ∃ sent, after.frames = before.frames ++ sent ∧
    unsolicitedFrames sent = told.map (takenFrame connection)

omit [AppendingPlatform P] in
theorem Tells.of_frames {s : State} (client : s.client = some connection)
    {told : List (List UInt8)} (headed : ∀ data ∈ told, ∃ code rest, data = unsolHeader code ++ rest) :
    Tells connection s { s with frames := s.frames ++ told.map (takenFrame connection) } told :=
  ⟨client, _, rfl, unsolicitedFrames_notices connection headed⟩

theorem Tells.record {s : State} (client : s.client = some connection) (buffer : List UInt8)
    (pRI : ℕ) : Tells connection s (s.processCommandBuffer P version buffer pRI) [] := by
  cases found : Libril.requestOf buffer with
  | none =>
      rw [Libril.processCommandBuffer_rejected version pRI found]
      exact ⟨client, [], (List.append_nil _).symm, rfl⟩
  | some accepted =>
      rw [Libril.processCommandBuffer_accepted version pRI found]
      exact ⟨client, [], (List.append_nil _).symm, rfl⟩

include taken in
/-- The answer behind the notices. -/
theorem Tells.sendResponse {before middle : State} {told : List (List UInt8)}
    (tells : Tells connection before middle told) (handled : Handled) (reqNum : ℕ) :
    Tells connection before (sendResponse P version handled reqNum found middle) told := by
  unfold Generated.sendResponse
  split_ifs
  · cases answered : found.completion with
    | none => exact tells
    | some complete =>
        obtain ⟨client, sent, same, notices⟩ := tells
        obtain ⟨stays, answer, appended, solicited⟩ := Libril.rilOnRequestComplete_taken P version
          client complete.token complete.e complete.response complete.responselen
          (taken.completion complete answered)
        refine ⟨stays, sent ++ answer, ?_, ?_⟩
        · rw [appended, same, List.append_assoc]
        · rw [unsolicitedFrames_append, unsolicitedFrames_solicited solicited, List.append_nil,
            notices]
  · exact tells

include deep small taken

/-- The notices of a request. -/
theorem tellNotices (strengths : SignalStrengths) (notices : List Unsolicited) {s : State}
    (client : s.client = some connection) :
    notices.foldlM (tellNotice P lookahead v8 version found strengths.toJs) s =
      some { s with frames := s.frames ++
        (notices.map (Unsolicited.data strengths)).map (takenFrame connection) } := by
  induction notices generalizing s with
  | nil => simp
  | cons notice notices inductionHypothesis =>
      have first : tellNotice P lookahead v8 version found strengths.toJs s notice =
          some { s with frames :=
            s.frames ++ [takenFrame connection (Unsolicited.data strengths notice)] } := by
        by_cases bare : notice = .signalStrength
        · subst bare
          exact tellNotice_strengths lookahead v8 found
            (serialize_strengths v8 strengths found.freed) (value_hasType strengths)
            (Nat.succ_le_succ deep) (small strengths).1 (rspSignalStrength_value _ strengths) client
            (taken.notices _)
        · exact tellNotice_bare lookahead v8 found bare strengths.toJs strengths client
            (taken.notices _)
      rw [List.foldlM_cons, first]
      exact (inductionHypothesis (by exact client)).trans (by simp)

/-- **Step lemma.** A call puts its notices on the connection, and behind them its answer. -/
theorem mockStep_told (mock : MockRadio) (call : RadioCall)
    (client : mock.libril.client = some connection) :
    ∃ after, mockStep P lookahead v8 version mock (call, found) = some after ∧
      ∃ told, Tells connection mock.libril after.libril told ∧
        ∀ calls, noticesOf mock.radio mock.strengths (call :: calls) =
          told ++ noticesOf after.radio after.strengths calls := by
  cases call with
  | record buffer pRI =>
      exact ⟨_, rfl, [], Tells.record version client buffer pRI, fun calls => rfl⟩
  | process request =>
      unfold mockStep
      dsimp only
      rw [tellNotices lookahead deep v8 version small found taken mock.strengths _ client]
      refine ⟨_, rfl, _, Tells.sendResponse version found taken (Tells.of_frames client ?_) _ _,
        fun calls => rfl⟩
      intro data member
      obtain ⟨notice, -, rfl⟩ := List.mem_map.mp member
      exact Unsolicited.data_headed mock.strengths notice
  | setSignalStrength strengths =>
      by_cases valid : strengths.Valid
      · unfold mockStep
        dsimp only
        rw [if_pos valid, tellNotice_strengths lookahead v8 found
          (serialize_strengthsAtOnce v8 strengths found.freed) (valueAtOnce_hasType strengths)
          (Nat.succ_le_succ deep) (small strengths).2 (rspSignalStrength_valueAtOnce _ strengths)
          client (taken.notices _)]
        have tells : Tells connection mock.libril { mock.libril with
            frames := mock.libril.frames ++
              [strengths.toldAtOnce.data].map (takenFrame connection) }
            [strengths.toldAtOnce.data] :=
          Tells.of_frames client (List.forall_mem_singleton.mpr ⟨1009, _, rfl⟩)
        exact ⟨_, rfl, _, tells, fun calls => if_pos valid⟩
      · unfold mockStep
        dsimp only
        rw [if_neg valid]
        exact ⟨mock, rfl, [], ⟨client, [], by simp, rfl⟩, fun calls => if_neg valid⟩

end Run

/-- The notice of `setSignalStrength` tells what was set exactly if CDMA has no strength. -/
theorem toldAtOnce_eq_iff (strengths : SignalStrengths) :
    strengths.toldAtOnce.data = strengths.data ↔
      strengths.cdmaDbm = 0 ∧ strengths.cdmaEcio = 0 := by
  constructor
  · intro same
    have read (told : SignalStrengths) :
        Libril.wordCodec.elements 7 (told.words.flatMap wordBytes) = told.words := by
      have whole := Libril.wordCodec.elements_flatMap told.words []
      rwa [List.append_nil] at whole
    have words : strengths.toldAtOnce.words = strengths.words := by
      rw [← read, ← read strengths, List.append_cancel_left same]
    simp only [SignalStrengths.words, SignalStrengths.toldAtOnce, List.cons.injEq] at words
    exact ⟨words.2.2.1.symm, words.2.2.2.1.symm⟩
  · rintro ⟨dbm, ecio⟩
    have zero : strengths.toldAtOnce = strengths := by
      cases strengths
      simp_all [SignalStrengths.toldAtOnce]
    rw [zero]

/-- **The notices of the simulated radio reach the client.** Whatever records libril reads,
whatever requests the worker processes and answers and whenever the signal strength is set, no
notice goes wrong, and the unsolicited frames of libril are the notices in order: a bare code
for the state of a call and for a ring, and the seven numbers set last for the signal strength.
The notice of `setSignalStrength` itself tells zeros of CDMA, and so what was set exactly if
CDMA has no strength. -/
theorem notices_onWire {P : Type} [Platform P] [AppendingPlatform P] {stream : CodedStream}
    (lookahead : Lookahead stream)
    (deep : 1 ≤ stream.recursionLimit) (v8 : V8) {version : ℕ}
    (small : ∀ strengths : SignalStrengths,
      (serializeToArray stream .rspSignalStrength strengths.value).length < 2 ^ 31 ∧
        (serializeToArray stream .rspSignalStrength strengths.valueAtOnce).length < 2 ^ 31)
    {mock : MockRadio} {connection : ℕ} (client : mock.libril.client = some connection)
    {events : List (RadioCall × NoticeMoment)} (taken : ∀ event ∈ events, event.2.Taken) :
    ∃ after, run (mockStep P lookahead v8 version) mock events = some after ∧
      after.libril.client = some connection ∧
      (∃ sent, after.libril.frames = mock.libril.frames ++ sent ∧
        unsolicitedFrames sent = (noticesOf mock.radio mock.strengths (events.map Prod.fst)).map
          (takenFrame connection)) ∧
      ∀ set : SignalStrengths, set.toldAtOnce.data = set.data ↔
        set.cdmaDbm = 0 ∧ set.cdmaEcio = 0 := by
  induction events generalizing mock with
  | nil => exact ⟨mock, rfl, client, ⟨[], (List.append_nil _).symm, rfl⟩, toldAtOnce_eq_iff⟩
  | cons event events inductionHypothesis =>
      obtain ⟨call, found⟩ := event
      obtain ⟨next, stepped, told, tells, shape⟩ := mockStep_told (P := P) lookahead deep v8
        version small found (taken _ List.mem_cons_self) mock call client
      obtain ⟨after, ran, stays, ⟨later, frames, laterTold⟩, -⟩ := inductionHypothesis tells.client
        fun other member => taken other (List.mem_cons_of_mem _ member)
      obtain ⟨sent, first, firstTold⟩ := tells.frames
      refine ⟨after, ?_, stays, ⟨sent ++ later, ?_, ?_⟩, toldAtOnce_eq_iff⟩
      · rw [run_cons, stepped]
        exact ran
      · rw [frames, first, List.append_assoc]
      · rw [unsolicitedFrames_append, firstTold, laterTold, List.map_cons, shape, List.map_append]

/-! ### The wire -/

/-- A message of integers is short. -/
theorem intsBytes_length (position : ℕ) {fields : List (Field RilMessage)}
    (ints : ∀ field ∈ fields, ∃ type, field.type = .int type) (numbers : List Int) :
    (fieldsBytes wireStream rilClasses position fields (numbers.map fun number =>
      [.number number])).length ≤ 20 * fields.length := by
  induction fields generalizing position numbers with
  | nil => simp [fieldsBytes]
  | cons field fields inductionHypothesis =>
      cases numbers with
      | nil => simp [fieldsBytes]
      | cons number numbers =>
          obtain ⟨type, typed⟩ := ints field List.mem_cons_self
          have first := numberBytes_length rilClasses (fieldTag position field) type number
          have others := inductionHypothesis (position + 1)
            (fun other member => ints other (List.mem_cons_of_mem _ member)) numbers
          rw [List.map_cons, fieldsBytes, typed, List.length_append, List.length_cons]
          omega

/-- A message with a message of integers in it is short. -/
theorem messageElementBytes_length (tag : ℕ) (type : RilMessage) (numbers : List Int)
    (ints : ∀ field ∈ type.fields, ∃ int, field.type = .int int) :
    (elementsBytes wireStream rilClasses tag (.message type)
      [.message (numbers.map fun number => [.number number]) []]).length ≤
        20 + 20 * type.fields.length := by
  have tagBound := varint_length 10 tag
  have lengthBound := varint_length 10 (byteSize wireStream rilClasses type
    (.message (numbers.map fun number => [.number number]) []))
  have inner := intsBytes_length 0 ints numbers
  have shape : elementsBytes wireStream rilClasses tag (.message type)
      [.message (numbers.map fun number => [.number number]) []] =
        varint 10 tag ++ (varint 10 (byteSize wireStream rilClasses type
          (.message (numbers.map fun number => [.number number]) [])) ++
            (fieldsBytes wireStream rilClasses 0 type.fields
              (numbers.map fun number => [.number number]) ++ [] ++ [])) := by
    rfl
  rw [shape]
  simp only [List.length_append, List.length_nil]
  omega

/-- The bytes of a message of a signal strength. -/
def strengthBytes (position : ℕ) (name : String) (type : RilMessage) (numbers : List Int) :
    List UInt8 :=
  elementsBytes wireStream rilClasses (fieldTag position (singular name (.message type)))
    (.message type) [.message (numbers.map fun number => [.number number]) []]

theorem strengths_short (strengths : SignalStrengths) :
    (serializeToArray wireStream .rspSignalStrength strengths.value).length < 2 ^ 31 ∧
      (serializeToArray wireStream .rspSignalStrength strengths.valueAtOnce).length < 2 ^ 31 := by
  have ints : ∀ type ∈ [RilMessage.rilGwSignalStrength, .rilCdmaSignalStrength,
      .rilEvdoSignalStrength], type.fields.length ≤ 3 ∧
        ∀ field ∈ type.fields, ∃ int, field.type = .int int := by
    simp [RilMessage.fields, singular]
  have short (position : ℕ) (name : String) (numbers : List Int) : ∀ type ∈
      [RilMessage.rilGwSignalStrength, .rilCdmaSignalStrength, .rilEvdoSignalStrength],
      (strengthBytes position name type numbers).length ≤ 80 := by
    intro type member
    obtain ⟨three, all⟩ := ints type member
    have bound := messageElementBytes_length
      (fieldTag position (singular name (.message type))) type numbers all
    unfold strengthBytes
    omega
  have gw := short 0 "gwSignalstrength"
    [strengths.signalStrength.toInt, strengths.bitErrorRate.toInt] .rilGwSignalStrength (by simp)
  have cdma := short 1 "cdmaSignalstrength" [strengths.cdmaDbm.toInt, strengths.cdmaEcio.toInt]
    .rilCdmaSignalStrength (by simp)
  have evdo := short 2 "evdoSignalstrength" [strengths.evdoDbm.toInt, strengths.evdoEcio.toInt,
    strengths.signalNoiseRatio.toInt] .rilEvdoSignalStrength (by simp)
  have whole : serializeToArray wireStream .rspSignalStrength strengths.value =
      strengthBytes 0 "gwSignalstrength" .rilGwSignalStrength
          [strengths.signalStrength.toInt, strengths.bitErrorRate.toInt] ++
        (strengthBytes 1 "cdmaSignalstrength" .rilCdmaSignalStrength
            [strengths.cdmaDbm.toInt, strengths.cdmaEcio.toInt] ++
          (strengthBytes 2 "evdoSignalstrength" .rilEvdoSignalStrength
            [strengths.evdoDbm.toInt, strengths.evdoEcio.toInt,
              strengths.signalNoiseRatio.toInt] ++ [])) ++ [] := rfl
  have atOnce : serializeToArray wireStream .rspSignalStrength strengths.valueAtOnce =
      strengthBytes 0 "gwSignalstrength" .rilGwSignalStrength
          [strengths.signalStrength.toInt, strengths.bitErrorRate.toInt] ++
        ([] ++ (strengthBytes 2 "evdoSignalstrength" .rilEvdoSignalStrength
            [strengths.evdoDbm.toInt, strengths.evdoEcio.toInt,
              strengths.signalNoiseRatio.toInt] ++ [])) ++ [] := rfl
  rw [whole, atOnce]
  simp only [List.length_append, List.length_nil]
  omega

/-- The radio at its start, and a client. -/
def connectedRadio : MockRadio := ⟨.initial, .initial, Libril.connectedState⟩

/-- The client takes everything; nothing is answered. -/
def takingMoment : NoticeMoment := ⟨fun _ => id, Libril.emptyMemory, fun _ => ⟨4, 7, []⟩, none⟩

/-- A request to dial, with the token 9. -/
def dialRecord : List UInt8 := wordBytes 10 ++ wordBytes 9 ++ wordBytes (-1) ++ wordBytes 0

/-- The request to dial is read and answered, while the strength of CDMA is set and told again,
and a call rings. -/
def cdmaSet : List (RadioCall × NoticeMoment) :=
  [(.record dialRecord 16, takingMoment),
    (.setSignalStrength ⟨20, 0, 75, 125, 75, 125, 8⟩, takingMoment),
    (.process (.dial (some ⟨some "10086"⟩)),
      { takingMoment with completion := some ⟨16, 0, none, 0, []⟩ }),
    (.process .unsolSignalStrength, takingMoment), (.process .unsolCallRing, takingMoment)]

theorem notices_onWire_cdmaSet :
    ∃ after sent,
      run (mockStep Libril.ByteParcel wireLookahead plainV8 3) connectedRadio cdmaSet =
        some after ∧
      after.libril.frames = connectedRadio.libril.frames ++ sent ∧
      unsolicitedFrames sent =
        [SignalStrengths.data ⟨20, 0, 0, 0, 75, 125, 8⟩,
          SignalStrengths.data ⟨20, 0, 75, 125, 75, 125, 8⟩, unsolHeader 1001,
          unsolHeader 1018].map (takenFrame 0) ∧
      sent.length = 5 := by
  have client : connectedRadio.libril.client = some 0 := by decide +kernel
  have taken : ∀ event ∈ cdmaSet, event.2.Taken := by
    intro event member
    simp only [cdmaSet, List.mem_cons, List.not_mem_nil, or_false] at member
    rcases member with rfl | rfl | rfl | rfl | rfl
    case inr.inr.inl =>
      refine ⟨fun _ => List.not_mem_nil, fun complete answered => ?_⟩
      obtain rfl := Option.some.inj answered
      exact List.not_mem_nil
    all_goals exact ⟨fun _ => List.not_mem_nil, fun _ none' => by cases none'⟩
  obtain ⟨after, ran, -, ⟨sent, frames, unsolicited⟩, -⟩ := notices_onWire
    (P := Libril.ByteParcel) wireLookahead (by decide) plainV8 strengths_short client taken
  have told : noticesOf connectedRadio.radio connectedRadio.strengths (cdmaSet.map Prod.fst) =
      [SignalStrengths.data ⟨20, 0, 0, 0, 75, 125, 8⟩,
        SignalStrengths.data ⟨20, 0, 75, 125, 75, 125, 8⟩, unsolHeader 1001,
        unsolHeader 1018] := by
    decide +kernel
  have count : (run (mockStep Libril.ByteParcel wireLookahead plainV8 3) connectedRadio cdmaSet).map
      (fun mock => mock.libril.frames.length) = some (connectedRadio.libril.frames.length + 5) := by
    decide +kernel
  rw [ran, Option.map_some, frames, List.length_append] at count
  exact ⟨after, sent, ran, frames, told ▸ unsolicited, Nat.add_left_cancel (Option.some.inj count)⟩

end Generated

end RildHisi.MockRil
