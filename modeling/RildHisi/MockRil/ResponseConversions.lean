import RildHisi.Daemon.Serving
import RildHisi.MockRil.GeneratedClasses
import RildHisi.MockRil.RequestAnswers

/-!
Owns the conversions of responses.cpp: what each of them makes of the message that it
parses, as libril finds it behind the pointer that `OnRequestComplete` is given.

A conversion does not look at what `ParseFromArray` returns. Where the bytes are no message
at all, what has been read of them by then is left out.
-/

namespace RildHisi.MockRil.Generated

open RildHisi.Daemon (arrayOf)
open RildHisi.Libril (Abi Pointee RilAppStatus RilCallUusInfo Word structSize)

/-! ### Accessors -/

section Accessors

variable {υ : Type}

/-- `c_str()`. -/
def cStr : Proto υ → CString
  | .string bytes => cString bytes
  | _ => []

def hasField (contents : Contents υ) (position : ℕ) : Bool :=
  (contents.elements position).head?.isSome

/-- A string that is not set is empty. -/
def stringField (contents : Contents υ) (position : ℕ) : CString :=
  ((contents.elements position).head?.map cStr).getD []

def numberField (contents : Contents υ) (position : ℕ) : Word :=
  BitVec.ofInt 32 (numberOr0 (contents.elements position))

/-- A message that is not set is the default instance. -/
def messageField (contents : Contents υ) (position : ℕ) : Contents υ :=
  ((contents.elements position).head?.map Contents.ofProto).getD ⟨[], []⟩

end Accessors

/-! ### Conversions -/

/-- The last two arguments of `OnRequestComplete`. -/
structure RilResponse where
  response : Option Pointee
  responselen : ℕ

section Conversions

variable {υ : Type} (abi : Abi) (signedChar : Bool) (memory : Pointee)

/-- `int result_len = n * size`, which is passed as a `size_t`. -/
def resultLen (n size : ℕ) : ℕ := abi.sizeT (BitVec.ofNat 32 (n * size))

/-- A value that is kept in a `char`. -/
def charOf (value : Word) : Word :=
  if signedChar then (value.setWidth 8).signExtend 32 else (value.setWidth 8).setWidth 32

def rspWithNoData : RilResponse := ⟨none, 0⟩

def magicNull : CString := ascii "*magic-null*"

def unlessMagicNull (string : CString) : Option CString :=
  if string = magicNull then none else some string

def rspStrings (rsp : Contents υ) : RilResponse :=
  let strings := (rsp.elements 0).map fun value => unlessMagicNull (cStr value)
  ⟨some { memory with strings := arrayOf strings memory.strings },
    resultLen abi strings.length abi.ptrSize⟩

/-- None where there is no `strings(0)`. -/
def rspString (rsp : Contents υ) : Option RilResponse :=
  (rsp.elements 0).head?.map fun value =>
    ⟨some { memory with string := cStr value }, (cStr value).length⟩

def rspIntegers (rsp : Contents υ) : RilResponse :=
  let integers := (rsp.elements 0).map fun value => (BitVec.ofInt 32 (numberOr0 [value]) : Word)
  ⟨some { memory with ints := arrayOf integers memory.ints }, resultLen abi integers.length 4⟩

def appStatus (application : Contents υ) : RilAppStatus where
  appType := numberField application 0
  appState := numberField application 1
  persoSubstate := numberField application 2
  aidPtr := some (stringField application 3)
  appLabelPtr := some (stringField application 4)
  pin1Replaced := numberField application 5
  pin1 := numberField application 6
  pin2 := numberField application 7

def sizeofAppStatus : ℕ := structSize [4, 4, 4, abi.ptrSize, abi.ptrSize, 4, 4, 4]

/-- Five integers, and the applications behind their padding. -/
def sizeofCardStatus : ℕ :=
  structSize [4, 4, 4, 4, 4, abi.ptrSize] - abi.ptrSize + rilCardMaxApps * sizeofAppStatus abi

/-- `RIL_CardStatus cardStatus`: what is not written is what the stack held, the index of
the CDMA application among it. None where the loop leaves one of the two arrays. -/
def rspGetSimStatus (rsp : Contents υ) : Option RilResponse :=
  let r := messageField rsp 0
  let applications := (r.elements 5).map fun application => appStatus (.ofProto application)
  let numApplications := numberField r 4
  if numApplications.toInt ≤ min applications.length rilCardMaxApps then
    some ⟨some { memory with
      cardStatus := {
        cardState := numberField r 0
        universalPinState := numberField r 1
        gsmUmtsSubscriptionAppIndex := numberField r 2
        cdmaSubscriptionAppIndex := memory.cardStatus.cdmaSubscriptionAppIndex
        numApplications := numApplications
        applications := arrayOf (applications.take numApplications.toInt.toNat)
          memory.cardStatus.applications } }, sizeofCardStatus abi⟩
  else none

def rspEnterSimPinData (rsp : Contents υ) : RilResponse :=
  ⟨some { memory with ints := arrayOf [numberField rsp 0] memory.ints }, 4⟩

/-- Behind the data and its NUL is other memory. -/
def callUusInfo (uusInfo : Contents υ) : RilCallUusInfo where
  uusType := numberField uusInfo 0
  uusDcs := numberField uusInfo 1
  uusLength := numberField uusInfo 2
  uusData := some (arrayOf (stringField uusInfo 3 ++ [0]) memory.bytes)

def rilCallOf (srcCall : Contents υ) : Libril.RilCall where
  state := numberField srcCall 0
  index := numberField srcCall 1
  toa := numberField srcCall 2
  isMpty := charOf signedChar (numberField srcCall 3)
  isMT := charOf signedChar (numberField srcCall 4)
  als := charOf signedChar (numberField srcCall 5)
  isVoice := charOf signedChar (numberField srcCall 6)
  isVoicePrivacy := charOf signedChar (numberField srcCall 7)
  number := some (stringField srcCall 8)
  numberPresentation := numberField srcCall 9
  name := some (stringField srcCall 10)
  namePresentation := numberField srcCall 11
  uusInfo :=
    if hasField srcCall 12 then some (callUusInfo memory (messageField srcCall 12)) else none

def rspGetCurrentCalls (rsp : Contents υ) : RilResponse :=
  let calls := (rsp.elements 0).map fun call => rilCallOf signedChar memory (.ofProto call)
  ⟨some { memory with calls := arrayOf calls memory.calls },
    resultLen abi calls.length abi.ptrSize⟩

def rspSignalStrength (rsp : Contents υ) : RilResponse :=
  let gwST := messageField rsp 0
  let cdmaST := messageField rsp 1
  let evdoST := messageField rsp 2
  ⟨some { memory with
    signalStrength := {
      gwSignalStrength := numberField gwST 0
      gwBitErrorRate := numberField gwST 1
      cdmaDbm := numberField cdmaST 0
      cdmaEcio := numberField cdmaST 1
      evdoDbm := numberField evdoST 0
      evdoEcio := numberField evdoST 1
      evdoSignalNoiseRatio := numberField evdoST 2 } }, Libril.sizeofSignalStrength⟩

/-- A string that is not set stays NULL. -/
def rspOperator (rsp : Contents υ) : RilResponse :=
  let result := (List.range 3).map fun position => (rsp.elements position).head?.map cStr
  ⟨some { memory with strings := arrayOf result memory.strings }, 3 * abi.ptrSize⟩

end Conversions

/-! ### The conversion of a buffer -/

section Buffers

variable {stream : CodedStream} (lookahead : Lookahead stream) (abi : Abi) (signedChar : Bool)
  (memory : Pointee)

/-- What `ParseFromArray` leaves in a message, also if it lacks a required field. -/
def parsedContents (type : RilMessage) (bytes : List UInt8) : Option (Contents stream.Unknown) :=
  (mergePartialFromCodedStream lookahead rilClasses (stream.recursionLimit + 1) type
    (rilClasses.defaultInstance type) bytes).map Prod.fst

/-- The class that a conversion parses. -/
def RspConversion.message : RspConversion → Option RilMessage
  | .withNoData => none
  | .getSimStatus => some .rspGetSimStatus
  | .enterSimPinData => some .rspEnterSimPin
  | .getCurrentCalls => some .rspGetCurrentCalls
  | .string => some .rspStrings
  | .strings => some .rspStrings
  | .integers => some .rspIntegers
  | .signalStrength => some .rspSignalStrength
  | .operator => some .rspOperator

/-- A conversion of what has been parsed, none where it reads what is not there. -/
def RspConversion.ofContents {υ : Type} (rsp : Contents υ) : RspConversion → Option RilResponse
  | .withNoData => some rspWithNoData
  | .getSimStatus => rspGetSimStatus abi memory rsp
  | .enterSimPinData => some (rspEnterSimPinData memory rsp)
  | .getCurrentCalls => some (rspGetCurrentCalls abi signedChar memory rsp)
  | .string => rspString memory rsp
  | .strings => some (rspStrings abi memory rsp)
  | .integers => some (rspIntegers abi memory rsp)
  | .signalStrength => some (rspSignalStrength memory rsp)
  | .operator => some (rspOperator abi memory rsp)

/-- A conversion of a buffer. -/
def RspConversion.convert (conversion : RspConversion) (bytes : List UInt8) :
    Option RilResponse :=
  match RspConversion.message conversion with
  | none => some rspWithNoData
  | some type => do
      let rsp ← parsedContents lookahead type bytes
      RspConversion.ofContents abi signedChar memory rsp conversion

/-- What the table of the conversions looks at, as the generated classes find it. -/
def generatedParser : ResponseParser where
  strings bytes :=
    ((parsedContents lookahead .rspStrings bytes).map fun rsp => (rsp.elements 0).length).getD 0
  numApplications bytes :=
    ((parsedContents lookahead .rspGetSimStatus bytes).map fun rsp =>
      (numberField (messageField rsp 0) 4).toInt).getD 0
  applications bytes :=
    ((parsedContents lookahead .rspGetSimStatus bytes).map fun rsp =>
      ((messageField rsp 0).elements 5).length).getD 0

/-- A conversion of a message comes to `OnRequestComplete` exactly if it completes. -/
theorem convert_isSome_iff {conversion : RspConversion} {bytes : List UInt8}
    (parses : ∀ type ∈ RspConversion.message conversion,
      (parsedContents lookahead type bytes).isSome = true) :
    (RspConversion.convert lookahead abi signedChar memory conversion bytes).isSome = true ↔
      conversion.Completes (generatedParser lookahead) (some bytes) := by
  rw [completes_some_iff]
  cases conversion <;> simp only [RspConversion.message, Option.mem_some_iff, forall_eq'] at parses
  case withNoData => simp [RspConversion.convert, RspConversion.message]
  all_goals
    obtain ⟨rsp, parsed⟩ := Option.isSome_iff_exists.mp parses
    simp [RspConversion.convert, RspConversion.message, RspConversion.ofContents, parsed,
      RspConversion.Reads, generatedParser, rspString, rspGetSimStatus, List.isSome_head?,
      List.length_pos_iff]

end Buffers

end RildHisi.MockRil.Generated
