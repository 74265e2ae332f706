import RildHisi.Libril.CdmaSms
import RildHisi.Libril.NitzCache
import RildHisi.Libril.Strings
import RildHisi.Libril.WakeTimeouts

/-!
Owns the unsolicited responses: the rows of `s_unsolResponses`, the response functions that
only they name, and the parcel of `RIL_onUnsolicitedResponse`.

A response function may fail behind its first writes. The parcel is given up then, so that a
client never sees a part of one, whatever the other code calls (`unsolicited_of_run`).
-/

namespace RildHisi.Libril

open RildHisi.Library

/-! ### Responses -/

structure RilSuppSvcNotification where
  notificationType : Word
  code : Word
  index : Word
  type : Word
  number : Option CString
  deriving Inhabited

/-- `RIL_CDMA_SignalInfoRecord`, its `char`s as the ints they are written as. -/
structure RilCdmaSignalInfoRecord where
  isPresent : Word
  signalType : Word
  alertPitch : Word
  signal : Word
  deriving Inhabited

structure RilCdmaCallWaiting where
  number : Option CString
  numberPresentation : Word
  name : Option CString
  signalInfoRecord : RilCdmaSignalInfoRecord
  deriving Inhabited

/-- `RIL_CDMA_NumberInfoRecord`. -/
structure RilCdmaNumberInfoRecord where
  len : Word
  buf : Nat → UInt8
  numberType : Word
  numberPlan : Word
  pi : Word
  si : Word
  deriving Inhabited

/-- `RIL_CDMA_InformationRecord`: its name, and what each member of the union finds. -/
structure RilCdmaInformationRecord where
  name : Word
  alphaLen : Word
  alphaBuf : Nat → UInt8
  number : RilCdmaNumberInfoRecord
  signal : RilCdmaSignalInfoRecord
  redirectingNumber : RilCdmaNumberInfoRecord
  redirectingReason : Word
  lineCtrlPolarityIncluded : Word
  lineCtrlToggle : Word
  lineCtrlReverse : Word
  lineCtrlPowerDenial : Word
  cause : Word
  upLink : Word
  downLink : Word
  deriving Inhabited

/-- What the pointer of an unsolicited response leads to. -/
structure UnsolPointee extends Pointee where
  ssn : RilSuppSvcNotification
  signalInfoRecord : RilCdmaSignalInfoRecord
  callWaiting : RilCdmaCallWaiting
  numberOfInfoRecs : Word
  infoRec : Nat → RilCdmaInformationRecord
  cdmaSms : CdmaSmsStruct

def Abi.sizeofSuppSvcNotification (abi : Abi) : Nat := structSize [4, 4, 4, 4, abi.ptrSize]

def Abi.sizeofCdmaCallWaiting (abi : Abi) : Nat :=
  structSize [abi.ptrSize, 4, abi.ptrSize, 1, 1, 1, 1]

/-- `sizeof (RIL_CDMA_SignalInfoRecord)`. -/
def sizeofCdmaSignalInfoRecord : Nat := structSize [1, 1, 1, 1]

def cdmaAlphaInfoBufferLength : Nat := 64

def cdmaNumberInfoBufferLength : Nat := 81

def rilCdmaMaxNumberOfInfoRecs : Nat := 10

/-- `sizeof (RIL_CDMA_InformationRecords)`: the redirecting number is the largest member of
the union. -/
def sizeofCdmaInformationRecords : Nat :=
  structSize (1 :: (List.replicate rilCdmaMaxNumberOfInfoRecs
    (4 :: List.replicate (1 + cdmaNumberInfoBufferLength + 4) 1 ++ [4])).flatten)

open ParcelWrite

/-! ### The response functions -/

/-- `marshallSignalInfoRecord`. -/
def marshallSignalInfoRecord (record : RilCdmaSignalInfoRecord) : List ParcelWrite :=
  [int32 record.isPresent, int32 record.signalType, int32 record.alertPitch, int32 record.signal]

/-- `string8` of an information record: a copy of `len` bytes with a NUL behind it. Behind a
negative length the NUL is written in front of the block. -/
def infoString (len : Word) (buf : Nat → UInt8) : Option CString :=
  if len.toInt < 0 then none else some (cString ((List.range len.toInt.toNat).map buf))

/-- The number of a record, which fails if it is longer than its buffer. -/
def marshallNumber (number : RilCdmaNumberInfoRecord) (behind : List ParcelWrite) : Marshalled :=
  if (cdmaNumberInfoBufferLength : Int) < number.len.toInt then invalidResponse
  else (infoString number.len number.buf).map fun string8 =>
    ([string (some string8), int32 number.numberType, int32 number.numberPlan, int32 number.pi,
      int32 number.si] ++ behind, 0)

/-- The switch over the name of a record; `RIL_CDMA_T53_RELEASE_INFO_REC` is 9. -/
def marshallInfoRec (infoRec : RilCdmaInformationRecord) : Marshalled :=
  match infoRec.name.toNat with
  | 0 | 7 =>
      if (cdmaAlphaInfoBufferLength : Int) < infoRec.alphaLen.toInt then invalidResponse
      else (infoString infoRec.alphaLen infoRec.alphaBuf).map fun string8 =>
        ([string (some string8)], 0)
  | 1 | 2 | 3 => marshallNumber infoRec.number []
  | 4 => marshalled (marshallSignalInfoRecord infoRec.signal)
  | 5 => marshallNumber infoRec.redirectingNumber [int32 infoRec.redirectingReason]
  | 6 => marshalled [int32 infoRec.lineCtrlPolarityIncluded, int32 infoRec.lineCtrlToggle,
      int32 infoRec.lineCtrlReverse, int32 infoRec.lineCtrlPowerDenial]
  | 8 => marshalled [int32 infoRec.cause]
  | 10 => marshalled [int32 infoRec.upLink, int32 infoRec.downLink]
  | _ => invalidResponse

/-- The loop over the records, which stops at the first one that fails. -/
def marshallInfoRecs : List RilCdmaInformationRecord → Marshalled
  | [] => marshalled []
  | infoRec :: infoRecs => do
      let (writes, ret) ← marshallInfoRec infoRec
      let writes := int32 infoRec.name :: writes
      if ret ≠ 0 then some (writes, ret)
      else do
        let (behind, ret) ← marshallInfoRecs infoRecs
        some (writes ++ behind, ret)

section Responses

variable (abi : Abi) (response : Option UnsolPointee) (responselen : Nat)

def responseSsn : Marshalled :=
  match response with
  | none => invalidResponse
  | some pointee =>
      if responselen ≠ abi.sizeofSuppSvcNotification then invalidResponse
      else
        let pCur := pointee.ssn
        marshalled [int32 pCur.notificationType, int32 pCur.code, int32 pCur.index,
          int32 pCur.type, string pCur.number]

def responseCdmaInformationRecords : Marshalled :=
  if response.isNone && responselen ≠ 0 then invalidResponse
  else if responselen ≠ sizeofCdmaInformationRecords then invalidResponse
  else response.bind fun pCur => do
    let num := min pCur.numberOfInfoRecs.toInt rilCdmaMaxNumberOfInfoRecs
    let (writes, ret) ← marshallInfoRecs ((List.range num.toNat).map pCur.infoRec)
    some (int32 (BitVec.ofInt 32 num) :: writes, ret)

def responseCdmaSignalInfoRecord : Marshalled :=
  match response with
  | none => invalidResponse
  | some pointee =>
      if responselen ≠ sizeofCdmaSignalInfoRecord then invalidResponse
      else marshalled (marshallSignalInfoRecord pointee.signalInfoRecord)

def responseCallRing : Marshalled :=
  if response.isNone || responselen = 0 then responseVoid
  else responseCdmaSignalInfoRecord response responselen

def responseCdmaCallWaiting : Marshalled :=
  if response.isNone && responselen ≠ 0 then invalidResponse
  else if responselen ≠ abi.sizeofCdmaCallWaiting then invalidResponse
  else response.map fun pointee =>
    let pCur := pointee.callWaiting
    ([string pCur.number, int32 pCur.numberPresentation, string pCur.name] ++
      marshallSignalInfoRecord pCur.signalInfoRecord, 0)

end Responses

/-! ### The table -/

/-- The response functions of `s_unsolResponses`. -/
inductive UnsolFunction
  | common (function : ResponseFunction)
  | responseSsn | responseCallRing | responseCdmaSms | responseCdmaCallWaiting
  | responseCdmaInformationRecords
  deriving DecidableEq

/-- `UnsolResponseInfo`. -/
structure UnsolResponseInfo where
  requestNumber : Nat
  responseFunction : UnsolFunction
  wakeType : WakeType

/-- `s_unsolResponses`, from ril_unsol_commands.h. -/
def sUnsolResponses : List UnsolResponseInfo :=
  [⟨1000, .common .responseVoid, .wakePartial⟩, ⟨1001, .common .responseVoid, .wakePartial⟩,
    ⟨1002, .common .responseVoid, .wakePartial⟩, ⟨1003, .common .responseString, .wakePartial⟩,
    ⟨1004, .common .responseString, .wakePartial⟩, ⟨1005, .common .responseInts, .wakePartial⟩,
    ⟨1006, .common .responseStrings, .wakePartial⟩, ⟨1007, .common .responseVoid, .dontWake⟩,
    ⟨1008, .common .responseString, .wakePartial⟩,
    ⟨1009, .common .responseRilSignalStrength, .dontWake⟩,
    ⟨1010, .common .responseDataCallList, .wakePartial⟩, ⟨1011, .responseSsn, .wakePartial⟩,
    ⟨1012, .common .responseVoid, .wakePartial⟩, ⟨1013, .common .responseString, .wakePartial⟩,
    ⟨1014, .common .responseString, .wakePartial⟩, ⟨1015, .common .responseInts, .wakePartial⟩,
    ⟨1016, .common .responseVoid, .wakePartial⟩, ⟨1017, .common .responseInts, .wakePartial⟩,
    ⟨1018, .responseCallRing, .wakePartial⟩, ⟨1019, .common .responseVoid, .wakePartial⟩,
    ⟨1020, .responseCdmaSms, .wakePartial⟩, ⟨1021, .common .responseString, .wakePartial⟩,
    ⟨1022, .common .responseVoid, .wakePartial⟩, ⟨1023, .common .responseInts, .wakePartial⟩,
    ⟨1024, .common .responseVoid, .wakePartial⟩, ⟨1025, .responseCdmaCallWaiting, .wakePartial⟩,
    ⟨1026, .common .responseInts, .wakePartial⟩,
    ⟨1027, .responseCdmaInformationRecords, .wakePartial⟩,
    ⟨1028, .common .responseRaw, .wakePartial⟩, ⟨1029, .common .responseInts, .wakePartial⟩,
    ⟨1030, .common .responseVoid, .wakePartial⟩, ⟨1031, .common .responseStrings, .dontWake⟩]

theorem length_sUnsolResponses : sUnsolResponses.length = numUnsolResponses := rfl

/-- Each row has the number that its index stands for, and its wake type is that of the timed
callbacks. -/
theorem sUnsolResponses_rows : ∀ info ∈ sUnsolResponses,
    sUnsolResponses[info.requestNumber - rilUnsolResponseBase]?.map (·.requestNumber) =
      some info.requestNumber ∧ info.wakeType = wakeType info.requestNumber := by
  decide

/-- `s_unsolResponses[unsolResponseIndex]`, behind the checks of the index. -/
def unsolResponseInfo (unsolResponse : Nat) : Option UnsolResponseInfo :=
  if unsolResponse < rilUnsolResponseBase then none
  else sUnsolResponses[unsolResponse - rilUnsolResponseBase]?

/-- `s_unsolResponses[unsolResponseIndex].responseFunction(p, data, datalen)`. The version is
not looked at by the functions of this table. -/
def UnsolFunction.marshal (abi : Abi) (response : Option UnsolPointee) (responselen : Nat)
    (version : Nat) : UnsolFunction → Marshalled
  | common function => function.marshal abi (response.map (·.toPointee)) responselen version
  | responseSsn => Libril.responseSsn abi response responselen
  | responseCallRing => Libril.responseCallRing response responselen
  | responseCdmaSms => Libril.responseCdmaSms (response.map (·.cdmaSms)) responselen
  | responseCdmaCallWaiting => Libril.responseCdmaCallWaiting abi response responselen
  | responseCdmaInformationRecords =>
      Libril.responseCdmaInformationRecords response responselen

/-! ### RIL_onUnsolicitedResponse -/

/-- What a call of `RIL_onUnsolicitedResponse` finds: the state of the radio, the time, and
what the writes of its frame come to. -/
structure UnsolMoment where
  radioState : Word
  timeReceived : BitVec 64
  script : List WriteOutcome
  deriving DecidableEq

/-- Some things get more payload. -/
def morePayload (unsolResponse : Nat) (moment : UnsolMoment) : List ParcelWrite :=
  if unsolResponse = rilUnsolResponseBase then [int32 moment.radioState]
  else if unsolResponse = rilUnsolNitzTimeReceived then
    [bytes (int64Bytes moment.timeReceived)]
  else []

section Parcel

variable (P : Type) [Platform P] (version : Nat)

/-- The parcel of an unsolicited response. -/
def unsolParcel (unsolResponse : Nat) (moment : UnsolMoment) (writes : List ParcelWrite) : P :=
  ([int32 responseUnsolicited, int32 (BitVec.ofNat 32 unsolResponse)] ++ writes ++
    morePayload unsolResponse moment).foldl ParcelWrite.apply Platform.new

/-- What the client is to be sent: none in it if the response function fails, and nothing where
it reads or writes outside its data. -/
def unsolPayload (unsolResponse : Nat) (response : Option UnsolPointee) (responselen : Nat)
    (moment : UnsolMoment) : Option (Option (List UInt8)) :=
  match unsolResponseInfo unsolResponse with
  | none => some none
  | some info =>
      (info.responseFunction.marshal (Platform.abi P) response responselen version).map
        fun (writes, ret) =>
          if ret ≠ 0 then none
          else some ((Platform.data (unsolParcel P unsolResponse moment writes)).drop 8)

/-- `RIL_onUnsolicitedResponse`, with the parcel its response function writes. -/
def State.tell (s : State) (unsolResponse : Nat) (response : Option UnsolPointee)
    (responselen : Nat) (moment : UnsolMoment) : Option State :=
  (unsolPayload P version unsolResponse response responselen moment).map fun payload =>
    s.rilOnUnsolicitedResponse unsolResponse payload moment.script

end Parcel

/-! ### What the response functions come to -/

/-- The `char`s that are lengths are not negative, as on a platform whose `char` is unsigned. -/
def RilCdmaInformationRecord.Unsigned (infoRec : RilCdmaInformationRecord) : Prop :=
  0 ≤ infoRec.alphaLen.toInt ∧ 0 ≤ infoRec.number.len.toInt ∧
    0 ≤ infoRec.redirectingNumber.len.toInt

theorem infoString_isSome {len : Word} (positive : 0 ≤ len.toInt) (buf : Nat → UInt8) :
    (infoString len buf).isSome = true := by
  have inside : ¬ len.toInt < 0 := by omega
  unfold infoString
  rw [if_neg inside]
  rfl

theorem marshallNumber_isSome {number : RilCdmaNumberInfoRecord} (positive : 0 ≤ number.len.toInt)
    (behind : List ParcelWrite) : (marshallNumber number behind).isSome = true := by
  unfold marshallNumber
  split_ifs
  · rfl
  · rw [Option.isSome_map]
    exact infoString_isSome positive number.buf

theorem marshallInfoRec_isSome {infoRec : RilCdmaInformationRecord} (unsigned : infoRec.Unsigned) :
    (marshallInfoRec infoRec).isSome = true := by
  obtain ⟨alpha, number, redirecting⟩ := unsigned
  unfold marshallInfoRec
  split
  · split_ifs
    · rfl
    · rw [Option.isSome_map]
      exact infoString_isSome alpha infoRec.alphaBuf
  · split_ifs
    · rfl
    · rw [Option.isSome_map]
      exact infoString_isSome alpha infoRec.alphaBuf
  · exact marshallNumber_isSome number []
  · exact marshallNumber_isSome number []
  · exact marshallNumber_isSome number []
  · rfl
  · exact marshallNumber_isSome redirecting _
  · rfl
  · rfl
  · rfl
  · rfl

theorem marshallInfoRecs_isSome {infoRecs : List RilCdmaInformationRecord}
    (unsigned : ∀ infoRec ∈ infoRecs, infoRec.Unsigned) :
    (marshallInfoRecs infoRecs).isSome = true := by
  induction infoRecs with
  | nil => rfl
  | cons infoRec infoRecs inductionHypothesis =>
      obtain ⟨⟨writes, ret⟩, first⟩ :=
        Option.isSome_iff_exists.mp (marshallInfoRec_isSome (unsigned infoRec List.mem_cons_self))
      obtain ⟨⟨behind, last⟩, rest⟩ := Option.isSome_iff_exists.mp
        (inductionHypothesis fun later member => unsigned later (List.mem_cons_of_mem _ member))
      rw [marshallInfoRecs, first, rest]
      show (if ret ≠ 0 then _ else _ : Marshalled).isSome = true
      split_ifs <;> rfl

theorem cdmaStructs_notEmpty (abi : Abi) : structSize cdmaSmsMessageScalars ≠ 0 ∧
    abi.sizeofCdmaCallWaiting ≠ 0 ∧ sizeofCdmaInformationRecords ≠ 0 := by
  refine ⟨by decide +kernel, ?_, by decide +kernel⟩
  cases abi <;> decide

/-- A struct of NULL is refused, whatever its length. -/
theorem struct_isSome {α : Type} {size : Nat} (large : size ≠ 0) (responselen : Nat)
    (marshal : α → Marshalled) :
    (if (none : Option α).isNone && responselen ≠ 0 then invalidResponse
      else if responselen ≠ size then invalidResponse
      else (none : Option α).bind marshal).isSome = true := by
  by_cases empty : responselen = 0
  · subst empty
    rw [if_neg (by simp), if_pos large.symm]
    rfl
  · rw [if_pos (by simp [empty])]
    rfl

/-- An array response of NULL is refused or empty. -/
theorem array_isSome (responselen unit size : Nat)
    (each : Pointee → Nat → List ParcelWrite) :
    (if invalidArray none responselen unit then invalidResponse
      else countedArray none (responselen / size) each).isSome = true := by
  by_cases empty : responselen = 0
  · subst empty
    have nothing : countedArray none (0 / size) each = marshalled (counted (0 / size) fun _ => []) := by
      rw [Nat.zero_div]
      rfl
    rw [nothing]
    split_ifs <;> rfl
  · have refused : invalidArray none responselen unit = true := by
      simp [invalidArray, empty]
    rw [refused]
    rfl

/-- The response functions that both tables name. -/
theorem sUnsolResponses_common : ∀ info ∈ sUnsolResponses, ∀ function ∈
    [ResponseFunction.responseCallList, .responseSms, .responseSimIo, .responseCallForwards,
      .responseSimStatus, .responseGsmBrSmsCnf, .responseCdmaBrSmsCnf, .responseCellList],
    info.responseFunction ≠ .common function := by
  decide

/-- The same with NULL. -/
theorem marshal_null_isSome {function : ResponseFunction} {info : UnsolResponseInfo}
    (row : info ∈ sUnsolResponses) (common : info.responseFunction = .common function) (abi : Abi)
    (responselen version : Nat) :
    (function.marshal abi none responselen version).isSome = true := by
  cases function with
  | responseInts => exact array_isSome responselen 4 abi.ptrSize _
  | responseDataCallList => exact array_isSome responselen _ _ _
  | responseString | responseVoid => rfl
  | responseStrings =>
      show (responseStrings abi none responselen).isSome = true
      unfold responseStrings
      split_ifs <;> rfl
  | responseRaw =>
      show (responseRaw none responselen).isSome = true
      unfold responseRaw
      split_ifs <;> rfl
  | responseRilSignalStrength =>
      show (responseRilSignalStrength none responselen).isSome = true
      unfold responseRilSignalStrength
      by_cases empty : responselen = 0
      · subst empty
        rfl
      · simp [empty, invalidResponse]
  | _ => exact absurd common (sUnsolResponses_common info row _ (by decide))

/-- Whatever the pointer and the length say, NULL included, nothing is read through NULL or
written outside its block. -/
theorem UnsolFunction.marshal_isSome {info : UnsolResponseInfo} (row : info ∈ sUnsolResponses)
    (abi : Abi) {response : Option UnsolPointee} (responselen version : Nat)
    (unsigned : ∀ pointee ∈ response, ∀ i, (pointee.infoRec i).Unsigned) :
    (info.responseFunction.marshal abi response responselen version).isSome = true := by
  cases same : info.responseFunction with
  | common function =>
      cases response with
      | none => exact marshal_null_isSome row same abi responselen version
      | some pointee => exact Libril.marshal_isSome function abi pointee.toPointee responselen version
  | responseSsn =>
      show (Libril.responseSsn abi response responselen).isSome = true
      unfold Libril.responseSsn
      cases response with
      | none => rfl
      | some pointee => dsimp only; split_ifs <;> rfl
  | responseCallRing =>
      show (Libril.responseCallRing response responselen).isSome = true
      unfold Libril.responseCallRing responseCdmaSignalInfoRecord
      cases response with
      | none => rfl
      | some pointee => split_ifs <;> rfl
  | responseCdmaSms =>
      show (Libril.responseCdmaSms _ responselen).isSome = true
      unfold Libril.responseCdmaSms
      cases response with
      | none =>
          exact struct_isSome (cdmaStructs_notEmpty abi).1 responselen
            fun rcsm : CdmaSmsStruct => marshalled (cdmaSmsWrites rcsm.message)
      | some pointee => split_ifs <;> rfl
  | responseCdmaCallWaiting =>
      show (Libril.responseCdmaCallWaiting abi response responselen).isSome = true
      unfold Libril.responseCdmaCallWaiting
      cases response with
      | none =>
          exact struct_isSome (cdmaStructs_notEmpty abi).2.1 responselen
            fun _ : UnsolPointee => invalidResponse
      | some pointee => split_ifs <;> rfl
  | responseCdmaInformationRecords =>
      show (Libril.responseCdmaInformationRecords response responselen).isSome = true
      unfold Libril.responseCdmaInformationRecords
      cases response with
      | none => exact struct_isSome (cdmaStructs_notEmpty abi).2.2 responselen _
      | some pointee =>
          have all : ∀ infoRec ∈ (List.range (min pointee.numberOfInfoRecs.toInt
              rilCdmaMaxNumberOfInfoRecs).toNat).map pointee.infoRec, infoRec.Unsigned := by
            intro infoRec member
            obtain ⟨i, -, rfl⟩ := List.mem_map.mp member
            exact unsigned pointee rfl i
          obtain ⟨⟨writes, ret⟩, records⟩ :=
            Option.isSome_iff_exists.mp (marshallInfoRecs_isSome all)
          rw [Option.bind_some]
          dsimp only
          rw [records]
          split_ifs <;> rfl

/-! ### The frame -/

/-- The first two words of an unsolicited message. -/
def unsolHeader (unsolResponse : Nat) : List UInt8 :=
  wordBytes responseUnsolicited ++ wordBytes (BitVec.ofNat 32 unsolResponse)

theorem unsolHeader_length (unsolResponse : Nat) : (unsolHeader unsolResponse).length = 8 := rfl

section Frame

variable {P : Type} [Platform P] {version : Nat}

/-- Whatever is written, the header stands in front of it. -/
theorem data_unsolParcel [LawfulPlatform P] (unsolResponse : Nat) (moment : UnsolMoment)
    (writes : List ParcelWrite) :
    Platform.data (unsolParcel P unsolResponse moment writes) = unsolHeader unsolResponse ++
      (Platform.data (unsolParcel P unsolResponse moment writes)).drop 8 := by
  have start : HoldsBytes (Platform.new : P) [] :=
    ⟨LawfulPlatform.data_new, LawfulPlatform.dataPosition_new⟩
  have header : HoldsBytes (Platform.writeInt32 (Platform.writeInt32 (Platform.new : P)
      responseUnsolicited) (BitVec.ofNat 32 unsolResponse)) (unsolHeader unsolResponse) :=
    writeInt32_at_end _ (writeInt32_at_end _ start)
  have front : StandsBefore (unsolHeader unsolResponse) (Platform.writeInt32 (Platform.writeInt32
      (Platform.new : P) responseUnsolicited) (BitVec.ofNat 32 unsolResponse)) :=
    ⟨header.2.ge, header.1 ▸ List.prefix_refl _⟩
  have stands := front.writes (writes ++ morePayload unsolResponse moment)
  have shape : unsolParcel P unsolResponse moment writes =
      (writes ++ morePayload unsolResponse moment).foldl ParcelWrite.apply
        (Platform.writeInt32 (Platform.writeInt32 (Platform.new : P) responseUnsolicited)
          (BitVec.ofNat 32 unsolResponse)) := by
    unfold unsolParcel
    rw [List.append_assoc]
    rfl
  rw [shape]
  obtain ⟨payload, same⟩ := stands.2
  rw [← same, ← unsolHeader_length unsolResponse, List.drop_left]

/-- The payload is the encodings of the writes, one behind the other. -/
theorem data_unsolParcel_encoded [AppendingPlatform P] (unsolResponse : Nat)
    (moment : UnsolMoment) {writes : List ParcelWrite} (fits : ∀ write ∈ writes, write.Fits P) :
    Platform.data (unsolParcel P unsolResponse moment writes) = unsolHeader unsolResponse ++
      (writes ++ morePayload unsolResponse moment).flatMap (ParcelWrite.encoded P) := by
  have more : ∀ write ∈ morePayload unsolResponse moment, write.Fits P := by
    intro write member
    unfold morePayload at member
    split_ifs at member
    · rw [List.mem_singleton.mp member]
      trivial
    · rw [List.mem_singleton.mp member]
      show (int64Bytes moment.timeReceived).length < 2 ^ 31
      have eight : (int64Bytes moment.timeReceived).length = 8 := rfl
      omega
    · exact absurd member List.not_mem_nil
  have all : ∀ write ∈ [int32 responseUnsolicited, int32 (BitVec.ofNat 32 unsolResponse)] ++
      writes ++ morePayload unsolResponse moment, write.Fits P := by
    intro write member
    rcases List.mem_append.mp member with front | behind
    · rcases List.mem_append.mp front with header | inside
      · rcases List.mem_pair.mp header with rfl | rfl <;> trivial
      · exact fits write inside
    · exact more write behind
  unfold unsolParcel
  rw [data_foldl_new P all, List.append_assoc, List.flatMap_append]
  rfl

/-- Most codes get no more payload. -/
theorem data_unsolParcel_plain [AppendingPlatform P] (unsolResponse : Nat) {moment : UnsolMoment}
    (plain : morePayload unsolResponse moment = []) {writes : List ParcelWrite}
    (fits : ∀ write ∈ writes, write.Fits P) :
    Platform.data (unsolParcel P unsolResponse moment writes) =
      unsolHeader unsolResponse ++ writes.flatMap (ParcelWrite.encoded P) := by
  rw [data_unsolParcel_encoded unsolResponse moment fits, plain, List.append_nil]

/-- A code alone. -/
theorem data_unsolParcel_bare [AppendingPlatform P] (unsolResponse : Nat) {moment : UnsolMoment}
    (plain : morePayload unsolResponse moment = []) :
    Platform.data (unsolParcel P unsolResponse moment []) = unsolHeader unsolResponse :=
  (data_unsolParcel_plain unsolResponse plain fun _ member => absurd member List.not_mem_nil).trans
    (List.append_nil _)

/-- What a call comes to where the response function is through. -/
theorem State.tell_eq (s : State) {unsolResponse : Nat} {info : UnsolResponseInfo}
    (row : unsolResponseInfo unsolResponse = some info) {response : Option UnsolPointee}
    {responselen : Nat} {writes : List ParcelWrite} {ret : Word}
    (marshals : info.responseFunction.marshal (Platform.abi P) response responselen version =
      some (writes, ret)) (moment : UnsolMoment) :
    s.tell P version unsolResponse response responselen moment =
      some (s.rilOnUnsolicitedResponse unsolResponse
        (if ret ≠ 0 then none
          else some ((Platform.data (unsolParcel P unsolResponse moment writes)).drop 8))
        moment.script) := by
  unfold State.tell unsolPayload
  simp only [row, marshals, Option.map_some]

theorem lt_of_unsolResponseInfo {unsolResponse : Nat} {info : UnsolResponseInfo}
    (row : unsolResponseInfo unsolResponse = some info) :
    rilUnsolResponseBase ≤ unsolResponse ∧
      unsolResponse < rilUnsolResponseBase + numUnsolResponses ∧ info ∈ sUnsolResponses := by
  unfold unsolResponseInfo at row
  split_ifs at row with low
  obtain ⟨inside, -⟩ := List.getElem?_eq_some_iff.mp row
  rw [length_sUnsolResponses] at inside
  exact ⟨not_lt.mp low, by omega, List.mem_of_getElem? row⟩

/-- A frame of which all was taken. -/
def takenFrame (connection : Nat) (data : List UInt8) : Frame :=
  ⟨connection, data, htonl data.length ++ data⟩

/-- A payload that goes out is all on the connection of the client. -/
theorem rilOnUnsolicitedResponse_taken {s : State} {connection : Nat}
    (client : s.client = some connection) {unsolResponse : Nat} {payload : Option (List UInt8)}
    (known : payload.isSome = true → rilUnsolResponseBase ≤ unsolResponse ∧
      unsolResponse < rilUnsolResponseBase + numUnsolResponses) {script : List WriteOutcome}
    (taken : NeverFails script) (fits : ∀ data ∈ payload.map (unsolHeader unsolResponse ++ ·),
      data.length ≤ maxCommandBytes) :
    s.rilOnUnsolicitedResponse unsolResponse payload script = { s with
      frames := s.frames ++
        (payload.map (unsolHeader unsolResponse ++ ·)).toList.map (takenFrame connection) } := by
  cases payload with
  | none =>
      unfold State.rilOnUnsolicitedResponse
      rw [Option.map_none, Option.toList_none, List.map_nil, List.append_nil]
      split_ifs <;> rfl
  | some payload =>
      obtain ⟨low, high⟩ := known rfl
      have range : ¬ (unsolResponse < rilUnsolResponseBase ∨
          rilUnsolResponseBase + numUnsolResponses ≤ unsolResponse) := by omega
      have small : (unsolHeader unsolResponse ++ payload).length ≤ maxCommandBytes :=
        fits _ (by simp)
      obtain ⟨bytes, sent, whole⟩ := State.sendResponseRaw_tried client small script
      have takes : takesFrame script (unsolHeader unsolResponse ++ payload) = true :=
        takesFrame_of_neverFails taken _
      unfold State.rilOnUnsolicitedResponse
      rw [if_neg range]
      dsimp only
      rw [← unsolHeader, sent, takes, whole takes]
      simp [takenFrame]

/-- A frame that goes out: the parcel, on the connection of the client. -/
theorem State.tell_taken [LawfulPlatform P] {s : State} {unsolResponse : Nat}
    {info : UnsolResponseInfo} (row : unsolResponseInfo unsolResponse = some info)
    {response : Option UnsolPointee} {responselen : Nat} {writes : List ParcelWrite}
    (marshals : info.responseFunction.marshal (Platform.abi P) response responselen version =
      some (writes, 0)) {moment : UnsolMoment} {connection : Nat}
    (client : s.client = some connection) {data : List UInt8}
    (parcel : Platform.data (unsolParcel P unsolResponse moment writes) = data)
    (fits : data.length ≤ maxCommandBytes) (taken : NeverFails moment.script) :
    s.tell P version unsolResponse response responselen moment =
      some { s with frames := s.frames ++ [takenFrame connection data] } := by
  obtain ⟨low, high, -⟩ := lt_of_unsolResponseInfo row
  have shape := data_unsolParcel (P := P) unsolResponse moment writes
  rw [parcel] at shape
  have small : ∀ whole ∈ (some (data.drop 8)).map (unsolHeader unsolResponse ++ ·),
      whole.length ≤ maxCommandBytes := by
    intro whole member
    rw [Option.map_some, ← shape] at member
    obtain rfl := Option.some.inj member
    exact fits
  rw [s.tell_eq row marshals, if_neg (by decide), parcel,
    rilOnUnsolicitedResponse_taken client (fun _ => ⟨low, high⟩) taken small, Option.map_some,
    ← shape]
  rfl

/-! ### Runs -/

/-- A call of `RIL_onUnsolicitedResponse`. -/
structure UnsolCall where
  unsolResponse : Nat
  response : Option UnsolPointee
  responselen : Nat
  moment : UnsolMoment

namespace UnsolCall

def tell (P : Type) [Platform P] (version : Nat) (s : State) (call : UnsolCall) : Option State :=
  s.tell P version call.unsolResponse call.response call.responselen call.moment

/-- The whole parcel of a call, if its code is known and its response function succeeds. -/
def parcel (P : Type) [Platform P] (version : Nat) (call : UnsolCall) : Option (List UInt8) := do
  let info ← unsolResponseInfo call.unsolResponse
  let (writes, ret) ←
    info.responseFunction.marshal (Platform.abi P) call.response call.responselen version
  if ret ≠ 0 then none
  else some (Platform.data (unsolParcel P call.unsolResponse call.moment writes))

/-- The lengths in the information records are those of unsigned `char`s. -/
def Unsigned (call : UnsolCall) : Prop :=
  ∀ pointee ∈ call.response, ∀ i, (pointee.infoRec i).Unsigned

/-- What is handed to `sendResponse`. -/
theorem payload_of_unsigned [LawfulPlatform P] {call : UnsolCall} (unsigned : call.Unsigned) :
    ∃ payload, unsolPayload P version call.unsolResponse call.response call.responselen
        call.moment = some payload ∧
      call.parcel P version = payload.map (unsolHeader call.unsolResponse ++ ·) := by
  unfold unsolPayload parcel
  cases row : unsolResponseInfo call.unsolResponse with
  | none => exact ⟨none, rfl, rfl⟩
  | some info =>
      obtain ⟨⟨writes, ret⟩, marshals⟩ := Option.isSome_iff_exists.mp
        (UnsolFunction.marshal_isSome (lt_of_unsolResponseInfo row).2.2 (Platform.abi P)
          call.responselen version unsigned)
      dsimp only
      rw [marshals]
      refine ⟨_, rfl, ?_⟩
      simp only [Option.bind_eq_bind, Option.bind_some, marshals]
      split_ifs with failed
      · rfl
      · rw [Option.map_some, ← data_unsolParcel]

end UnsolCall

/-- What goes out at all is the header with all of the payload. -/
theorem rilOnUnsolicitedResponse_frames (s : State) (unsolResponse : Nat)
    (payload : Option (List UInt8)) (script : List WriteOutcome) :
    ∃ frames, (s.rilOnUnsolicitedResponse unsolResponse payload script).frames =
        s.frames ++ frames ∧
      (frames.map Frame.data).Sublist (payload.map (unsolHeader unsolResponse ++ ·)).toList := by
  unfold State.rilOnUnsolicitedResponse
  split_ifs
  · exact ⟨[], (List.append_nil _).symm, List.nil_sublist _⟩
  · cases payload with
    | none => exact ⟨[], (List.append_nil _).symm, List.nil_sublist _⟩
    | some payload =>
        have sent := State.sendResponseRaw_sent s (unsolHeader unsolResponse ++ payload) script
        have kept : ∀ s' : State, s'.frames = (s.sendResponseRaw
            (unsolHeader unsolResponse ++ payload) script).2.frames →
              ∃ frames, s'.frames = s.frames ++ frames ∧ (frames.map Frame.data).Sublist
                ((some payload).map (unsolHeader unsolResponse ++ ·)).toList := by
          intro s' same
          rcases sent.frames with nothing | ⟨connection, taken, -, -, appended⟩
          · exact ⟨[], by rw [same, nothing, List.append_nil], List.nil_sublist _⟩
          · exact ⟨_, same.trans appended, List.Sublist.refl _⟩
        dsimp only
        split_ifs
        · exact kept _ rfl
        · exact kept _ rfl

/-- A client that takes all of the parcel of a call, if there is one. -/
def UnsolCall.Taken (P : Type) [Platform P] (version : Nat) (call : UnsolCall) : Prop :=
  NeverFails call.moment.script ∧ ∀ data ∈ call.parcel P version, data.length ≤ maxCommandBytes

/-- **Step lemma.** A call goes through, and puts at most its own parcel on the connection. -/
theorem UnsolCall.tell_frames [LawfulPlatform P] (s : State) {call : UnsolCall}
    (unsigned : call.Unsigned) :
    ∃ s' frames, call.tell P version s = some s' ∧ s'.frames = s.frames ++ frames ∧
      (frames.map Frame.data).Sublist (call.parcel P version).toList ∧
      ∀ connection, s.client = some connection → call.Taken P version →
        s'.client = some connection ∧
          frames = (call.parcel P version).toList.map (takenFrame connection) := by
  obtain ⟨payload, written, parcel⟩ :=
    UnsolCall.payload_of_unsigned (P := P) unsigned
  obtain ⟨frames, appended, whole⟩ := rilOnUnsolicitedResponse_frames s call.unsolResponse payload
    call.moment.script
  refine ⟨_, frames, ?_, appended, parcel ▸ whole, ?_⟩
  · unfold UnsolCall.tell State.tell
    rw [written]
    rfl
  · intro connection client taken
    have known : payload.isSome = true → rilUnsolResponseBase ≤ call.unsolResponse ∧
        call.unsolResponse < rilUnsolResponseBase + numUnsolResponses := by
      intro present
      cases row : unsolResponseInfo call.unsolResponse with
      | none =>
          unfold unsolPayload at written
          rw [row] at written
          obtain rfl := Option.some.inj written
          cases present
      | some info => exact ⟨(lt_of_unsolResponseInfo row).1, (lt_of_unsolResponseInfo row).2.1⟩
    have fits := taken.2
    rw [parcel] at fits
    have shape := rilOnUnsolicitedResponse_taken client known taken.1 fits
    rw [shape] at appended ⊢
    exact ⟨client, (List.append_cancel_left appended).symm.trans (by rw [parcel])⟩

/-- **Whole or nothing, in order.** Whatever the callers pass, NULL and any length included, no
call of `RIL_onUnsolicitedResponse` reads through NULL or writes outside a block, where the
lengths in CDMA information records are those of unsigned `char`s; and what is put on
connections is, in the order of the calls and at most once each, the whole parcels of calls
with a known code whose response function succeeds: all of them on the client's connection, if
it takes them. -/
theorem unsolicited_of_run [LawfulPlatform P] (s : State) {calls : List UnsolCall}
    (unsigned : ∀ call ∈ calls, call.Unsigned) :
    ∃ s' frames, run (UnsolCall.tell P version) s calls = some s' ∧
      s'.frames = s.frames ++ frames ∧
      (frames.map Frame.data).Sublist (calls.filterMap (UnsolCall.parcel P version)) ∧
      ∀ connection, s.client = some connection → (∀ call ∈ calls, call.Taken P version) →
        frames = (calls.filterMap (UnsolCall.parcel P version)).map (takenFrame connection) := by
  induction calls generalizing s with
  | nil => exact ⟨s, [], rfl, (List.append_nil _).symm, List.Sublist.refl _, fun _ _ _ => rfl⟩
  | cons call calls inductionHypothesis =>
      obtain ⟨next, first, told, appended, whole, firstTaken⟩ :=
        UnsolCall.tell_frames (P := P) s (unsigned call List.mem_cons_self)
      obtain ⟨s', later, ran, rest, parcels, laterTaken⟩ := inductionHypothesis next
        fun other member => unsigned other (List.mem_cons_of_mem _ member)
      refine ⟨s', first ++ later, ?_, ?_, ?_, ?_⟩
      · rw [run_cons, told]
        exact ran
      · rw [rest, appended, List.append_assoc]
      · rw [List.map_append, List.filterMap_cons]
        cases parcel : call.parcel P version with
        | none =>
            rw [parcel, Option.toList_none, List.sublist_nil] at whole
            rw [whole]
            exact parcels
        | some data =>
            rw [parcel] at whole
            exact whole.append parcels
      · intro connection client taken
        obtain ⟨stays, here⟩ := firstTaken connection client (taken call List.mem_cons_self)
        have behind := laterTaken connection stays
          fun other member => taken other (List.mem_cons_of_mem _ member)
        rw [here, behind, ← List.map_append, List.filterMap_cons]
        cases call.parcel P version <;> rfl

end Frame

/-- A message without digits and data. -/
def emptySms : CdmaSmsStruct where
  message := ⟨0, 0, 0, ⟨0, 0, 0, 0, 0, List.replicate rilCdmaSmsAddressMax 0⟩,
    ⟨0, 0, 0, List.replicate rilCdmaSmsSubaddressMax 0⟩, 0,
    List.replicate rilCdmaSmsBearerDataMax 0⟩
  address_length := List.length_replicate
  subaddress_length := List.length_replicate
  bearer_length := List.length_replicate

def emptyMemory : UnsolPointee :=
  ⟨default, default, default, default, 0, fun _ => default, emptySms⟩

/-- Two information records, the second one of a release. -/
def releaseRecords : UnsolPointee :=
  { emptyMemory with
    numberOfInfoRecs := 2
    infoRec := fun i => { (default : RilCdmaInformationRecord) with name := if i = 0 then 8 else 9 } }

/-- Records that fail behind the first one, and a ringing call. -/
def releaseThenRing : List UnsolCall :=
  [⟨1027, some releaseRecords, sizeofCdmaInformationRecords, ⟨4, 0, []⟩⟩,
    ⟨1018, none, 0, ⟨4, 0, []⟩⟩]

theorem releaseThenRing_unsigned : ∀ call ∈ releaseThenRing, call.Unsigned := by
  simp only [releaseThenRing, List.forall_mem_cons]
  refine ⟨?_, ?_, fun _ member => absurd member List.not_mem_nil⟩
  · intro pointee given i
    obtain rfl := Option.some.inj given
    have empty : (default : RilCdmaInformationRecord).Unsigned := ⟨by decide, by decide, by decide⟩
    exact empty
  · intro pointee given
    cases given

theorem releaseThenRing_parcels :
    releaseThenRing.map (UnsolCall.parcel ByteParcel 3) = [none, some [1, 0, 0, 0, 250, 3, 0, 0]] := by
  decide +kernel

theorem releaseThenRing_taken : ∀ call ∈ releaseThenRing, call.Taken ByteParcel 3 := by
  intro call member
  have parcel : call.parcel ByteParcel 3 ∈ [none, some [1, 0, 0, 0, 250, 3, 0, 0]] :=
    releaseThenRing_parcels ▸ List.mem_map_of_mem member
  have script : call.moment.script = [] := by
    simp only [releaseThenRing, List.mem_cons, List.not_mem_nil, or_false] at member
    rcases member with rfl | rfl <;> rfl
  refine ⟨script ▸ by decide, fun data whole => ?_⟩
  rw [whole] at parcel
  simp only [List.mem_cons, List.not_mem_nil, or_false, reduceCtorEq, false_or,
    Option.some.injEq] at parcel
  subst parcel
  decide

/-- A client is there, and gets the second call only. -/
theorem unsolicited_of_run_release :
    ∃ s' frames,
      run (UnsolCall.tell ByteParcel 3) (State.initial.acceptClient 7) releaseThenRing = some s' ∧
      s'.frames = frames ∧
      (frames.map Frame.data).Sublist
        (releaseThenRing.filterMap (UnsolCall.parcel ByteParcel 3)) ∧
      frames = [takenFrame 0 [1, 0, 0, 0, 250, 3, 0, 0]] := by
  obtain ⟨s', frames, ran, appended, parcels, taken⟩ :=
    unsolicited_of_run (P := ByteParcel) (State.initial.acceptClient 7) releaseThenRing_unsigned
  have known : releaseThenRing.filterMap (UnsolCall.parcel ByteParcel 3) =
      [[1, 0, 0, 0, 250, 3, 0, 0]] := by
    decide +kernel
  refine ⟨s', frames, ran, appended, parcels, ?_⟩
  rw [taken 0 rfl releaseThenRing_taken, known]
  rfl

end RildHisi.Libril
