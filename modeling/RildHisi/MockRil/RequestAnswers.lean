import Mathlib.Algebra.Ring.Int.Defs
import RildHisi.Library.Rounding
import RildHisi.MockRil.SimulatedRadio

/-!
Owns what mock-ril does with one RIL request: the conversions of `AddRequest`, the tables of
mock_ril.js and of the two components, and `SendRilRequestComplete` with the conversions of
the responses. What the handlers answer is left open. The completion of a component says
what the handler chose under the condition of `complete_eq_some_iff`.
-/

namespace RildHisi.MockRil

open RildHisi.Library

/-! ### The request -/

structure RilUusInfo where
  uusType : Int
  uusDcs : Int
  uusLength : Int
  uusData : Option String
  deriving DecidableEq

/-- `RIL_Dial`. A string is none where it is NULL. -/
structure RilDial where
  address : Option String
  clir : Int
  uusInfo : Option RilUusInfo
  deriving DecidableEq

/-- What the conversions find at `data`: `((int *)data)[0]`, `((char **)data)[0]` and
`(RIL_Dial *)data`. -/
structure RequestData where
  datalen : Nat
  int : Int
  string : Option String
  dial : RilDial
  deriving DecidableEq

/-- The protobuf of a request. -/
inductive RequestMessage
  | empty
  | enterSimPin (pin : String)
  /-- The UUS info is written to the default instance and not to the message. -/
  | dial (address : String) (clir : Int)
  | hangUp (connectionIndex : Int)
  | separateConnection (index : Int)
  | setMute (state : Bool)
  | screenState (state : Bool)
  deriving DecidableEq

inductive ConversionError
  | badData
  | unsupportedRequest
  deriving DecidableEq

inductive ReqConversion
  | withNoData
  | enterSimPin
  | dial
  | hangUp
  | separateConnection
  | setMute
  | screenState
  deriving DecidableEq

/-- The conversions that begin with `datalen < sizeof(int)`. -/
def sized (data : RequestData) (message : Option RequestMessage) :
    Option (Except ConversionError RequestMessage) :=
  if data.datalen < 4 then some (.error .badData) else message.map .ok

/-- The call of the conversion, none where it copies a NULL string. -/
def ReqConversion.convert (data : RequestData) :
    ReqConversion → Option (Except ConversionError RequestMessage)
  | withNoData => some (.ok .empty)
  | enterSimPin => sized data do return .enterSimPin (← data.string)
  | dial => sized data do
      let address ← data.dial.address
      match data.dial.uusInfo with
      | none => return .dial address data.dial.clir
      | some uusInfo =>
          let _ ← uusInfo.uusData
          return .dial address data.dial.clir
  | hangUp => sized data (some (.hangUp data.int))
  | separateConnection => sized data (some (.separateConnection data.int))
  | setMute => sized data (some (.setMute (data.int ≠ 0)))
  | screenState => sized data (some (.screenState (data.int ≠ 0)))

def rilReqConversionMap : List (Int × ReqConversion) :=
  [(1, .withNoData), (2, .enterSimPin), (9, .withNoData), (10, .dial), (11, .withNoData),
    (12, .hangUp), (13, .withNoData), (14, .withNoData), (15, .withNoData), (16, .withNoData),
    (18, .withNoData), (19, .withNoData), (20, .withNoData), (21, .withNoData),
    (22, .withNoData), (38, .withNoData), (39, .withNoData), (40, .withNoData),
    (45, .withNoData), (46, .withNoData), (51, .withNoData), (52, .separateConnection),
    (53, .setMute), (61, .screenState)]

/-! ### JavaScript -/

inductive Component
  | simulatedIcc
  | simulatedRadio
  deriving DecidableEq

/-- `dispatchTable` of mock_ril.js. -/
def dispatchTable : List (Int × List Component) :=
  [(1, [.simulatedIcc]), (2, [.simulatedIcc]), (9, [.simulatedRadio]), (10, [.simulatedRadio]),
    (11, [.simulatedIcc]), (12, [.simulatedRadio]), (13, [.simulatedRadio]),
    (14, [.simulatedRadio]), (15, [.simulatedRadio]), (16, [.simulatedRadio]),
    (18, [.simulatedRadio]), (19, [.simulatedRadio]), (20, [.simulatedRadio]),
    (21, [.simulatedRadio]), (22, [.simulatedIcc]), (38, [.simulatedIcc]), (39, [.simulatedIcc]),
    (40, [.simulatedRadio]), (45, [.simulatedRadio]), (46, [.simulatedRadio]),
    (51, [.simulatedRadio]), (52, [.simulatedRadio]), (53, [.simulatedRadio]),
    (61, [.simulatedRadio])]

/-- The RIL requests of `simDispatchTable` and `radioDispatchTable`. -/
def Component.dispatchTable : Component → List Int
  | simulatedIcc => [1, 2, 11, 22, 38, 39]
  | simulatedRadio => [9, 10, 12, 13, 14, 15, 16, 18, 19, 20, 21, 40, 45, 46, 51, 52, 53, 61]

/-- `result` as `process` reads it. The handlers of RIL requests leave `sendResponse` true;
`responseProtobuf` is none where it is not a buffer. -/
structure Result where
  rilErrCode : Int
  responseProtobuf : Option (List UInt8)
  deriving DecidableEq

inductive HandlerOutcome
  | returns (result : Result)
  /-- An exception; the result has been given this buffer by then. -/
  | throws (responseProtobuf : Option (List UInt8))
  deriving DecidableEq

/-- The handlers of both components, by request number. -/
abbrev Handlers := Component → Int → RequestMessage → HandlerOutcome

/-- `process` of a component, up to the completion. -/
def Component.process (handlers : Handlers) (component : Component) (reqNum : Int)
    (message : RequestMessage) : Result :=
  if reqNum ∈ component.dispatchTable then
    match handlers component reqNum message with
    | .returns result => result
    | .throws responseProtobuf => ⟨rilERequestNotSupported, responseProtobuf⟩
  else
    -- the handler is undefined, and calling it throws
    ⟨rilERequestNotSupported, some []⟩

/-! ### The response -/

/-- What `ParseFromArray` finds in a buffer: the number of strings of a `RspStrings`, and
`num_applications` with the number of `applications` of a `RspGetSimStatus`. -/
structure ResponseParser where
  strings : List UInt8 → Nat
  numApplications : List UInt8 → Int
  applications : List UInt8 → Nat

inductive RspConversion
  | withNoData
  | getSimStatus
  | enterSimPinData
  | getCurrentCalls
  | string
  | strings
  | integers
  | signalStrength
  | operator
  deriving DecidableEq

def rilRspConversionMap : List (Int × RspConversion) :=
  [(1, .getSimStatus), (2, .enterSimPinData), (9, .getCurrentCalls), (11, .string),
    (12, .withNoData), (13, .withNoData), (14, .withNoData), (15, .withNoData),
    (16, .withNoData), (18, .integers), (19, .signalStrength), (20, .strings), (21, .strings),
    (22, .operator), (38, .string), (39, .string), (40, .withNoData), (45, .integers),
    (46, .withNoData), (51, .string), (52, .withNoData), (53, .withNoData), (61, .withNoData)]

def rilCardMaxApps : Nat := 8

/-- The conversion reads only elements that the message has, into room that there is. -/
def RspConversion.Reads (parser : ResponseParser) (bytes : List UInt8) : RspConversion → Prop
  | string => 0 < parser.strings bytes
  | getSimStatus => parser.numApplications bytes ≤ min (parser.applications bytes) rilCardMaxApps
  | _ => True

instance (parser : ResponseParser) (bytes : List UInt8) (conversion : RspConversion) :
    Decidable (conversion.Reads parser bytes) := by
  cases conversion <;> unfold RspConversion.Reads <;> infer_instance

/-- The conversion comes to `OnRequestComplete`. All but `RspWithNoData` read the buffer. -/
def RspConversion.Completes (parser : ResponseParser) (buffer : Option (List UInt8)) :
    RspConversion → Prop
  | withNoData => True
  | conversion => ∃ bytes ∈ buffer, conversion.Reads parser bytes

instance (parser : ResponseParser) (buffer : Option (List UInt8)) (conversion : RspConversion) :
    Decidable (conversion.Completes parser buffer) := by
  cases conversion <;> unfold RspConversion.Completes <;> infer_instance

/-- The call of `OnRequestComplete`. -/
structure Completion where
  token : BitVec 64
  rilErrno : Int
  deriving DecidableEq

/-- `v8::Number::New(int64_t(t))`. -/
def numberOfToken (token : BitVec 64) : Int :=
  if token.toInt < 0 then -(roundToEven 53 token.toInt.natAbs : Int)
  else roundToEven 53 token.toInt.natAbs

/-- `RIL_Token(int64_t(v8Token->NumberValue()))`, none out of the range. -/
def tokenOfNumber (number : Int) : Option (BitVec 64) :=
  if -2 ^ 63 ≤ number ∧ number < 2 ^ 63 then some (BitVec.ofInt 64 number) else none

/-- The fourth argument of `sendRilRequestComplete`. -/
inductive BufferArgument
  | absent
  /-- It is not an object, and `Unwrap` fails. -/
  | undefined
  | buffer (bytes : List UInt8)
  deriving DecidableEq

/-- `SendRilRequestComplete`, none where it comes to no completion. -/
def sendRilRequestComplete (parser : ResponseParser) (rilErrCode cmd tokenNumber : Int)
    (argument : BufferArgument) : Option Completion := do
  let token ← tokenOfNumber tokenNumber
  let buffer ← match argument with
    | .absent => some none
    | .undefined => none
    | .buffer bytes => some (some bytes)
  match rilRspConversionMap.lookup cmd with
  | some conversion => if conversion.Completes parser buffer then some ⟨token, rilErrCode⟩ else none
  | none =>
      if buffer.getD [] = [] then some ⟨token, rilESuccess⟩
      else some ⟨token, rilERequestNotSupported⟩

/-- The completion at the end of `process`. -/
def Result.complete (parser : ResponseParser) (reqNum tokenNumber : Int) (result : Result) :
    Option Completion :=
  sendRilRequestComplete parser result.rilErrCode reqNum tokenNumber
    (match result.responseProtobuf with
      | none => .undefined
      | some bytes => .buffer bytes)

/-- The conversion at the start of `AddRequest`. -/
def convertRequest (request : Int) (data : RequestData) :
    Option (Except ConversionError RequestMessage) :=
  match rilReqConversionMap.lookup request with
  | some conversion => conversion.convert data
  | none => some (.error .unsupportedRequest)

def ConversionError.rilErrCode : ConversionError → Nat
  | badData => rilEGenericFailure
  | unsupportedRequest => rilERequestNotSupported

/-! ### The answers -/

/-- The component of a request, which is the only one in the table. -/
def componentOf (request : Int) : Component :=
  if request ∈ Component.simulatedIcc.dispatchTable then .simulatedIcc else .simulatedRadio

/-- The token is exact as a number of JavaScript. -/
def ExactToken (token : BitVec 64) : Prop :=
  ulp 53 token.toInt.natAbs ∣ token.toInt.natAbs

/-- What the response of a component has to be. Where the request has no conversion of its
response, the code has to be the one that the presence of data stands for. -/
def Result.Fits (parser : ResponseParser) (request : Int) (result : Result) : Prop :=
  ∃ bytes ∈ result.responseProtobuf,
    match rilRspConversionMap.lookup request with
    | some conversion => conversion = .withNoData ∨ conversion.Reads parser bytes
    | none =>
        result.rilErrCode = if bytes = [] then rilESuccess else rilERequestNotSupported

/-- Every request with a conversion has one component. -/
theorem dispatchTable_lookup {request : Int} {conversion : ReqConversion}
    (known : rilReqConversionMap.lookup request = some conversion) :
    dispatchTable.lookup request = some [componentOf request] := by
  have all : ∀ entry ∈ rilReqConversionMap,
      dispatchTable.lookup entry.1 = some [componentOf entry.1] := by decide
  obtain ⟨front, back, shape, -⟩ := List.lookup_eq_some_iff.mp known
  exact all (request, conversion) (by rw [shape]; simp)

/-- The requests whose response has no conversion: DIAL alone. -/
theorem rilRspConversionMap_lookup_eq_none_iff {request : Int} {conversion : ReqConversion}
    (known : rilReqConversionMap.lookup request = some conversion) :
    rilRspConversionMap.lookup request = none ↔ request = 10 := by
  have all : ∀ entry ∈ rilReqConversionMap,
      rilRspConversionMap.lookup entry.1 = none ↔ entry.1 = 10 := by decide
  obtain ⟨front, back, shape, -⟩ := List.lookup_eq_some_iff.mp known
  exact all (request, conversion) (by rw [shape]; simp)

theorem tokenOfNumber_numberOfToken_eq_iff (token : BitVec 64) :
    tokenOfNumber (numberOfToken token) = some token ↔ ExactToken token := by
  unfold ExactToken
  rw [← roundToEven_eq_self_iff]
  have low := token.le_toInt
  have high := token.toInt_lt
  constructor
  · intro same
    unfold tokenOfNumber at same
    split_ifs at same with inside
    have value := congrArg BitVec.toInt (Option.some.inj same)
    rw [BitVec.toInt_ofInt, Int.bmod_eq_of_le (by omega) (by omega)] at value
    unfold numberOfToken at value
    split_ifs at value <;> omega
  · intro same
    have value : numberOfToken token = token.toInt := by
      unfold numberOfToken
      rw [same]
      split_ifs <;> omega
    unfold tokenOfNumber
    rw [value, if_pos (by omega), BitVec.ofInt_toInt]

theorem completes_some_iff (parser : ResponseParser) (bytes : List UInt8)
    (conversion : RspConversion) :
    conversion.Completes parser (some bytes) ↔
      conversion = .withNoData ∨ conversion.Reads parser bytes := by
  cases conversion <;> simp [RspConversion.Completes]

/-- The completion of a component says what the component chose exactly if the token is exact
and the response fits. -/
theorem complete_eq_some_iff (parser : ResponseParser) (request : Int) (token : BitVec 64)
    (result : Result) :
    result.complete parser request (numberOfToken token) = some ⟨token, result.rilErrCode⟩ ↔
      ExactToken token ∧ result.Fits parser request := by
  rw [← tokenOfNumber_numberOfToken_eq_iff]
  obtain ⟨rilErrCode, responseProtobuf⟩ := result
  unfold Result.complete sendRilRequestComplete Result.Fits
  cases responseProtobuf with
  | none => simp
  | some bytes =>
      cases back : tokenOfNumber (numberOfToken token) with
      | none => simp
      | some other =>
          cases rilRspConversionMap.lookup request with
          | none =>
              by_cases empty : bytes = []
              · simp only [empty]
                simp
                exact fun _ => eq_comm
              · simp [empty]
                exact fun _ => eq_comm
          | some conversion =>
              simp [completes_some_iff]
              exact and_comm

end RildHisi.MockRil
