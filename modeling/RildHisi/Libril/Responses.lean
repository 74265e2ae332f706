import RildHisi.Libril.Requests

/-!
Owns the response functions of ril.cpp that `s_commands` names: the writes each of
them makes to the parcel, and what it returns.

The memory a response points to is given by what the casts of these functions find
there; an address behind the array is read like one in it.
-/

namespace RildHisi.Libril

/-! ### Responses -/

/-- `RIL_UUS_Info`; `uusData` is the memory at the pointer. -/
structure RilCallUusInfo where
  uusType : Word
  uusDcs : Word
  uusLength : Word
  uusData : Option (Nat → UInt8)
  deriving Inhabited

/-- `RIL_Call`, its `char`s as the ints they are written as. -/
structure RilCall where
  state : Word
  index : Word
  toa : Word
  isMpty : Word
  isMT : Word
  als : Word
  isVoice : Word
  isVoicePrivacy : Word
  number : Option CString
  numberPresentation : Word
  name : Option CString
  namePresentation : Word
  uusInfo : Option RilCallUusInfo
  deriving Inhabited

structure RilSmsResponse where
  messageRef : Word
  ackPDU : Option CString
  errorCode : Word
  deriving Inhabited

structure RilSimIoResponse where
  sw1 : Word
  sw2 : Word
  simResponse : Option CString
  deriving Inhabited

structure RilDataCallResponse where
  cid : Word
  active : Word
  type : Option CString
  apn : Option CString
  address : Option CString
  deriving Inhabited

structure RilNeighboringCell where
  cid : Option CString
  rssi : Word
  deriving Inhabited

structure RilAppStatus where
  appType : Word
  appState : Word
  persoSubstate : Word
  aidPtr : Option CString
  appLabelPtr : Option CString
  pin1Replaced : Word
  pin1 : Word
  pin2 : Word
  deriving Inhabited

structure RilCardStatus where
  cardState : Word
  universalPinState : Word
  gsmUmtsSubscriptionAppIndex : Word
  cdmaSubscriptionAppIndex : Word
  numApplications : Word
  applications : Nat → RilAppStatus
  deriving Inhabited

/-- `RIL_SignalStrength`, flattened. -/
structure RilSignalStrength where
  gwSignalStrength : Word
  gwBitErrorRate : Word
  cdmaDbm : Word
  cdmaEcio : Word
  evdoDbm : Word
  evdoEcio : Word
  evdoSignalNoiseRatio : Word
  deriving Inhabited

/-- What a response pointer that is not NULL leads to, by the type it is cast to. An
array of pointers is given by what the pointers lead to. -/
structure Pointee where
  ints : Nat → Word
  bytes : Nat → UInt8
  string : CString
  strings : Nat → Option CString
  calls : Nat → RilCall
  sms : RilSmsResponse
  simIo : RilSimIoResponse
  callForwards : Nat → RilCallForwardInfo
  dataCalls : Nat → RilDataCallResponse
  cardStatus : RilCardStatus
  gsmBci : Nat → RilGsmBroadcastSmsConfigInfo
  cdmaBci : Nat → RilCdmaBroadcastSmsConfigInfo
  cells : Nat → RilNeighboringCell
  signalStrength : RilSignalStrength
  deriving Inhabited

namespace Abi

variable (abi : Abi)

def sizeofSmsResponse : Nat := structSize [4, abi.ptrSize, 4]

def sizeofSimIoResponse : Nat := structSize [4, 4, abi.ptrSize]

def sizeofDataCallResponse : Nat := structSize [4, 4, abi.ptrSize, abi.ptrSize, abi.ptrSize]

end Abi

/-- `sizeof (RIL_SignalStrength)`. -/
def sizeofSignalStrength : Nat := structSize [4, 4, 4, 4, 4, 4, 4]

/-! ### Writes -/

/-- A write to the parcel: `writeInt32`, `write`, `writeStringToParcel`. -/
inductive ParcelWrite
  | int32 (word : Word)
  | bytes (data : List UInt8)
  | string (s : Option CString)

def ParcelWrite.apply {P : Type} [Platform P] (p : P) : ParcelWrite → P
  | int32 word => Platform.writeInt32 p word
  | bytes data => Platform.write p data
  | string s => Platform.writeString16 p (s.map (Platform.strdup8to16 P))

/-- The writes of a response function and its return value, or none where it reads
through a NULL response. -/
abbrev Marshalled := Option (List ParcelWrite × Word)

def rilErrnoInvalidResponse : Word := -1

def invalidResponse : Marshalled := some ([], rilErrnoInvalidResponse)

/-- The writes of a function that returns 0. -/
def marshalled (writes : List ParcelWrite) : Marshalled := some (writes, 0)

/-- The checks most of the response functions begin with: a response of this length is
NULL, or the length is no multiple of `unit`. -/
def invalidArray (response : Option Pointee) (responselen unit : Nat) : Bool :=
  (response.isNone && responselen ≠ 0) || responselen % unit ≠ 0

/-- `int num`, its value, and a loop `for (int i = 0 ; i < num ; i++)` behind it. -/
def counted (num : Nat) (each : Nat → List ParcelWrite) : List ParcelWrite :=
  let num : Word := BitVec.ofNat 32 num
  .int32 num :: (List.range num.toInt.toNat).flatMap each

/-- An array response: its elements may be read only where it is not NULL. -/
def countedArray (response : Option Pointee) (num : Nat)
    (each : Pointee → Nat → List ParcelWrite) : Marshalled :=
  match response with
  | some pointee => marshalled (counted num (each pointee))
  | none =>
      if 0 < (BitVec.ofNat 32 num : Word).toInt then none else marshalled (counted num fun _ => [])

open ParcelWrite

/-! ### The response functions -/

section Responses

variable (abi : Abi) (response : Option Pointee) (responselen : Nat)

/-- The length is divided by the size of a pointer. -/
def responseInts : Marshalled :=
  if invalidArray response responselen 4 then invalidResponse
  else countedArray response (responselen / abi.ptrSize) fun pInt i => [int32 (pInt.ints i)]

def responseStrings : Marshalled :=
  if invalidArray response responselen abi.ptrSize then invalidResponse
  else match response with
    | none => marshalled [int32 0]
    | some pCur =>
        marshalled (counted (responselen / abi.ptrSize) fun i => [string (pCur.strings i)])

/-- The length is not looked at. -/
def responseString : Marshalled :=
  marshalled [string (response.map Pointee.string)]

def responseVoid : Marshalled := marshalled []

/-- UUS information is present from version 3 on, if its data is. -/
def uusWrites (version : Nat) (uusInfo : Option RilCallUusInfo) : List ParcelWrite :=
  match uusInfo with
  | none => [int32 0]
  | some uusInfo =>
      match uusInfo.uusData with
      | none => [int32 0]
      | some uusData =>
          if version < 3 then [int32 0]
          else [int32 1, int32 uusInfo.uusType, int32 uusInfo.uusDcs, int32 uusInfo.uusLength,
            bytes ((List.range (abi.sizeT uusInfo.uusLength)).map uusData)]

def responseCallList (version : Nat) : Marshalled :=
  if invalidArray response responselen abi.ptrSize then invalidResponse
  else countedArray response (responselen / abi.ptrSize) fun pointee i =>
    let pCur := pointee.calls i
    [int32 pCur.state, int32 pCur.index, int32 pCur.toa, int32 pCur.isMpty, int32 pCur.isMT,
      int32 pCur.als, int32 pCur.isVoice, int32 pCur.isVoicePrivacy, string pCur.number,
      int32 pCur.numberPresentation, string pCur.name, int32 pCur.namePresentation] ++
      uusWrites abi version pCur.uusInfo

def responseSms : Marshalled :=
  match response with
  | none => invalidResponse
  | some pointee =>
      if responselen ≠ abi.sizeofSmsResponse then invalidResponse
      else
        let pCur := pointee.sms
        marshalled [int32 pCur.messageRef, string pCur.ackPDU, int32 pCur.errorCode]

def responseDataCallList : Marshalled :=
  if invalidArray response responselen abi.sizeofDataCallResponse then invalidResponse
  else countedArray response (responselen / abi.sizeofDataCallResponse) fun pointee i =>
    let pCur := pointee.dataCalls i
    [int32 pCur.cid, int32 pCur.active, string pCur.type, string pCur.apn, string pCur.address]

/-- The java code reads -1 size as null byte array. -/
def responseRaw : Marshalled :=
  match response with
  | none => if responselen ≠ 0 then invalidResponse else marshalled [int32 (-1)]
  | some pointee =>
      marshalled [int32 (BitVec.ofNat 32 responselen),
        bytes ((List.range responselen).map pointee.bytes)]

def responseSimIo : Marshalled :=
  match response with
  | none => invalidResponse
  | some pointee =>
      if responselen ≠ abi.sizeofSimIoResponse then invalidResponse
      else
        let pCur := pointee.simIo
        marshalled [int32 pCur.sw1, int32 pCur.sw2, string pCur.simResponse]

def responseCallForwards : Marshalled :=
  if invalidArray response responselen abi.ptrSize then invalidResponse
  else countedArray response (responselen / abi.ptrSize) fun pointee i =>
    let pCur := pointee.callForwards i
    [int32 pCur.status, int32 pCur.reason, int32 pCur.serviceClass, int32 pCur.toa,
      string pCur.number, int32 pCur.timeSeconds]

def responseCellList : Marshalled :=
  if invalidArray response responselen abi.ptrSize then invalidResponse
  else countedArray response (responselen / abi.ptrSize) fun pointee i =>
    let pCur := pointee.cells i
    [int32 pCur.rssi, string pCur.cid]

/-- An old RIL passes one or two ints; the rest is filled with zeros. -/
def responseRilSignalStrength : Marshalled :=
  if response.isNone && responselen ≠ 0 then invalidResponse
  else if responselen = sizeofSignalStrength then
    response.map fun pointee =>
      let pCur := pointee.signalStrength
      ([int32 pCur.gwSignalStrength, int32 pCur.gwBitErrorRate, int32 pCur.cdmaDbm,
        int32 pCur.cdmaEcio, int32 pCur.evdoDbm, int32 pCur.evdoEcio,
        int32 pCur.evdoSignalNoiseRatio], 0)
  else if responselen % 4 = 0 then
    let num := responselen / 4
    let zeros := List.replicate (7 - num) (int32 0)
    match response with
    | some pCur => marshalled ((List.range num).map (fun i => int32 (pCur.ints i)) ++ zeros)
    | none => marshalled zeros
  else invalidResponse

/-- The length is only checked to be a multiple of the size of a pointer. -/
def responseSimStatus : Marshalled :=
  if invalidArray response responselen abi.ptrSize then invalidResponse
  else response.map fun pointee =>
    let pCur := pointee.cardStatus
    ([int32 pCur.cardState, int32 pCur.universalPinState,
        int32 pCur.gsmUmtsSubscriptionAppIndex, int32 pCur.cdmaSubscriptionAppIndex,
        int32 pCur.numApplications] ++
      (List.range pCur.numApplications.toInt.toNat).flatMap (fun i =>
        let application := pCur.applications i
        [int32 application.appType, int32 application.appState,
          int32 application.persoSubstate, string application.aidPtr,
          string application.appLabelPtr, int32 application.pin1Replaced,
          int32 application.pin1, int32 application.pin2]), 0)

/-- Neither the pointer nor the length is checked. -/
def responseGsmBrSmsCnf : Marshalled :=
  countedArray response (responselen / abi.ptrSize) fun pointee i =>
    let pCur := pointee.gsmBci i
    [int32 pCur.fromServiceId, int32 pCur.toServiceId, int32 pCur.fromCodeScheme,
      int32 pCur.toCodeScheme, int32 (BitVec.ofNat 32 pCur.selected.toNat)]

/-- Neither the pointer nor the length is checked. -/
def responseCdmaBrSmsCnf : Marshalled :=
  countedArray response (responselen / abi.ptrSize) fun pointee i =>
    let pCur := pointee.cdmaBci i
    [int32 pCur.serviceCategory, int32 pCur.language,
      int32 (BitVec.ofNat 32 pCur.selected.toNat)]

/-- `pRI->pCI->responseFunction(p, response, responselen)`. -/
def ResponseFunction.marshal (version : Nat) : ResponseFunction → Marshalled
  | responseInts => Libril.responseInts abi response responselen
  | responseStrings => Libril.responseStrings abi response responselen
  | responseString => Libril.responseString response
  | responseVoid => Libril.responseVoid
  | responseCallList => Libril.responseCallList abi response responselen version
  | responseSms => Libril.responseSms abi response responselen
  | responseSimIo => Libril.responseSimIo abi response responselen
  | responseCallForwards => Libril.responseCallForwards abi response responselen
  | responseDataCallList => Libril.responseDataCallList abi response responselen
  | responseRaw => Libril.responseRaw response responselen
  | responseSimStatus => Libril.responseSimStatus abi response responselen
  | responseGsmBrSmsCnf => Libril.responseGsmBrSmsCnf abi response responselen
  | responseCdmaBrSmsCnf => Libril.responseCdmaBrSmsCnf abi response responselen
  | responseCellList => Libril.responseCellList abi response responselen
  | responseRilSignalStrength => Libril.responseRilSignalStrength response responselen

end Responses

end RildHisi.Libril
