import RildHisi.MockRil.BridgeRoundTrip
import RildHisi.MockRil.CallEffects
import RildHisi.MockRil.StringAnswers

/-!
Owns the answer to RIL_REQUEST_GET_CURRENT_CALLS, from the array of calls of the simulated
radio to the frame of libril: one entry for each call, in the order of the array, with what
the call says of itself.

The numbers that a run puts into the array are the ones its requests bring.
-/

namespace RildHisi.MockRil

open RildHisi.Library

/-! ### The numbers of the calls -/

/-- The number that a request brings for a new call. -/
def RadioRequest.phoneNumber : RadioRequest → Option (Option String)
  | .dial (some data) => some data.address
  | .startInComingCall (some phoneNumber) => some (some phoneNumber)
  | .addDialingCall (some phoneNumber) => some (some phoneNumber)
  | _ => none

namespace Radio

variable {radio : Radio}

/-- The call was there before, in whatever state, or it has the number of the request. -/
def Spoken (radio : Radio) (request : RadioRequest) (index : Nat) (call : RilCall) : Prop :=
  (∃ old, radio.calls.get index = some old ∧ old.number = call.number ∧ old.name = call.name) ∨
    (request.phoneNumber = some call.number ∧ call.name = "")

theorem Consistent.spoken_addCall (consistent : radio.Consistent) {state : CallState}
    {number : Option String} {request : RadioRequest} (brings : request.phoneNumber = some number)
    {index : Nat} {call : RilCall}
    (defined : (radio.addCall state number "").2.calls.get index = some call) :
    radio.Spoken request index call := by
  obtain ⟨-, same⟩ | ⟨-, free, added, -, rfl, same⟩ := consistent.addCall_cases state number ""
  · rw [same] at defined
    exact Or.inl ⟨call, defined, rfl, rfl⟩
  · rw [same, get_withCall] at defined
    split_ifs at defined
    · cases defined
      exact Or.inr ⟨brings, rfl⟩
    · exact Or.inl ⟨call, defined, rfl, rfl⟩

/-- A request that adds no call leaves the calls their numbers. -/
theorem spoken_of_acts {after : Radio} {request : RadioRequest}
    (none' : radio.newCallState request = none) {index : Nat}
    (acts : radio.Acts request after index) {call : RilCall}
    (defined : after.calls.get index = some call) : radio.Spoken request index call := by
  unfold Acts at acts
  rw [defined] at acts
  unfold Spoken
  generalize before : radio.calls.get index = entry at acts
  generalize behind : some call = result at acts
  cases acts with
  | same => exact Or.inl ⟨call, behind.symm, rfl, rfl⟩
  | added added admitted => rw [none'] at admitted; cases admitted
  | edited old edit =>
      cases edit <;> cases behind
      · exact Or.inl ⟨call, rfl, rfl, rfl⟩
      · exact Or.inl ⟨old, rfl, rfl, rfl⟩
  | hungUp => cases behind
  | hungUpRemote => cases behind
  | answered old => cases behind; exact Or.inl ⟨old, rfl, rfl, rfl⟩
  | refused => cases behind
  | alerted old => cases behind; exact Or.inl ⟨old, rfl, rfl, rfl⟩
  | activated old => cases behind; exact Or.inl ⟨old, rfl, rfl, rfl⟩
  | changed old => cases behind; exact Or.inl ⟨old, rfl, rfl, rfl⟩

/-- **What a request does to the numbers**: a call keeps its own, and a new one has that of
the request. -/
theorem Consistent.spoken_process (consistent : radio.Consistent) (request : RadioRequest)
    {index : Nat} {call : RilCall}
    (defined : (radio.process request).radio.calls.get index = some call) :
    radio.Spoken request index call := by
  have other (none' : radio.newCallState request = none) : radio.Spoken request index call :=
    spoken_of_acts none' (consistent.acts_process request index) defined
  revert defined
  apply process_of_dispatch (fun handled => handled.radio.calls.get index = some call →
    radio.Spoken request index call)
  · exact fun defined => Or.inl ⟨call, defined, rfl, rfl⟩
  · intro handled result defined
    cases request with
    | dial data =>
        obtain ⟨asked, rfl, dialed⟩ := rilRequestDial_radio result
        rw [dialed] at defined
        exact consistent.spoken_addCall rfl defined
    | startInComingCall phoneNumber =>
        obtain ⟨number, rfl, rfl | ⟨state, -, rfl⟩⟩ := startInComingCall_cases result
        · exact Or.inl ⟨call, defined, rfl, rfl⟩
        · exact consistent.spoken_addCall rfl defined
    | addDialingCall phoneNumber =>
        obtain ⟨number, rfl, ⟨-, rfl⟩ | rfl⟩ := addDialingCall_cases result
        · exact consistent.spoken_addCall rfl defined
        · exact Or.inl ⟨call, defined, rfl, rfl⟩
    | _ => exact other rfl
  · exact fun handled spoken => spoken

/-- The calls in the order of the array. -/
def presentCalls (radio : Radio) : List RilCall := radio.indices.filterMap radio.calls.get

theorem mem_presentCalls {call : RilCall} :
    call ∈ radio.presentCalls ↔ ∃ index, radio.calls.get index = some call := by
  unfold presentCalls
  rw [List.mem_filterMap]
  constructor
  · rintro ⟨index, -, defined⟩
    exact ⟨index, defined⟩
  · rintro ⟨index, defined⟩
    exact ⟨index, mem_indices defined, defined⟩

theorem presentCalls_eq (radio : Radio) :
    radio.presentCalls = radio.calls.elements.filterMap id := by
  have all : (List.range radio.calls.elements.length).map radio.calls.get =
      radio.calls.elements := by
    apply List.ext_getElem
    · simp
    · intro i inside _
      rw [List.length_map, List.length_range] at inside
      simp [SparseArray.get, inside]
  unfold presentCalls indices
  show (List.range radio.calls.elements.length).filterMap radio.calls.get = _
  conv_rhs => rw [← all, List.filterMap_map]
  rfl

theorem Consistent.presentCalls_length (consistent : radio.Consistent) :
    radio.presentCalls.length ≤ maxNumberActiveCalls := by
  rw [presentCalls_eq, List.length_filterMap_eq_countP]
  show radio.calls.count ≤ _
  exact consistent.count ▸ consistent.atMost

/-- The indices go up along the list. -/
theorem Consistent.presentCalls_sorted (consistent : radio.Consistent) :
    (radio.presentCalls.map RilCall.index).Pairwise (· < ·) := by
  rw [List.pairwise_map]
  unfold presentCalls
  refine List.Pairwise.filterMap _ ?_ List.pairwise_lt_range
  intro first second before call here other there
  rw [(consistent.placed first call here).2.2, (consistent.placed second other there).2.2]
  exact before

end Radio

/-! ### JavaScript -/

namespace Generated

open RildHisi.Daemon
open RildHisi.Libril (Abi Platform Pointee RequestInfo TextPlatform WireText Word frameHeader
  responseParcel)

/-- `CALLSTATE_*` of ril_vars.js. -/
def callStateNumber : CallState → Int
  | .active => 0
  | .holding => 1
  | .dialing => 2
  | .alerting => 3
  | .incoming => 4
  | .waiting => 5

/-- A `RilCall`. Its constructor sets neither `namePresentation` nor `uusInfo`. -/
def callToJs (call : RilCall) : JsValue :=
  .object [.number (callStateNumber call.state), .number call.index, .number 0, .boolean false,
    .boolean false, .number 0, .boolean true, .boolean false,
    (call.number.map JsValue.string).getD .undefined, .number 0, .string call.name, .undefined,
    .undefined]

/-- The object that `rilRequestGetCurrentCalls` serializes. -/
def currentCallsToJs (radio : Radio) : JsValue :=
  .object [.array (radio.presentCalls.map callToJs)]

def callValue (call : RilCall) : Value :=
  .message [[.enum (callStateNumber call.state)], [.int call.index], [.int 0], [.bool false],
    [.bool false], [.int 0], [.bool true], [.bool false], (call.number.map Value.string).toList,
    [.int 0], [.string call.name], [], []]

def callsValue (calls : List RilCall) : Value := .message [calls.map callValue]

/-- A call that JavaScript hands over as it is. -/
structure WireCall (call : RilCall) : Prop where
  index : call.index < 2 ^ 31
  number : ∀ number ∈ call.number, WireString number
  name : WireString call.name

theorem int32_ofDouble {value : Int} (range : IntType.int32.InRange value) :
    IntType.int32.ofDouble value = some value := if_pos range

theorem int32_zero : IntType.int32.InRange 0 := ⟨by omega, by omega⟩

theorem callState_member (state : CallState) : rilCallState.Member (callStateNumber state) := by
  cases state <;> decide +kernel

theorem WireCall.int32 {call : RilCall} (wire : WireCall call) :
    IntType.int32.InRange call.index := ⟨by omega, by have := wire.index; omega⟩

theorem enumToProto_callState (v8 : V8) (freed : FreedMemory) (state : CallState) :
    enumToProto v8 freed rilCallState (.number (callStateNumber state)) =
      some (callStateNumber state) := by
  have small : (callStateNumber state).bmod (2 ^ 32) = callStateNumber state := by
    cases state <;> decide +kernel
  simp only [enumToProto, small, if_pos (callState_member state)]

/-- The properties of an object give these elements, whatever the released memory holds. -/
inductive Converts (v8 : V8) : List (Field RilMessage) → List JsValue → List (List Value) → Prop
  | nil : Converts v8 [] [] []
  | unset (field : Field RilMessage) {fields : List (Field RilMessage)} {properties : List JsValue}
      {values : List (List Value)} (rest : Converts v8 fields properties values) :
      Converts v8 (field :: fields) (.undefined :: properties) ([] :: values)
  | set {field : Field RilMessage} {fields : List (Field RilMessage)} {property : JsValue}
      {properties : List JsValue} {value : Value} {values : List (List Value)}
      (singular : field.isRepeated = false) (defined : property ≠ .undefined)
      (converted : ∀ freed, valueToProto rilSchema v8 freed field.type property = some value)
      (rest : Converts v8 fields properties values) :
      Converts v8 (field :: fields) (property :: properties) ([value] :: values)

theorem Converts.fieldsToProto {v8 : V8} {fields : List (Field RilMessage)}
    {properties : List JsValue} {values : List (List Value)}
    (converts : Converts v8 fields properties values) (freed : FreedMemory) (position : ℕ) :
    fieldsToProto rilSchema v8 freed position fields properties = some values := by
  induction converts generalizing position with
  | nil => rfl
  | unset field rest inductionHypothesis =>
      simp only [MockRil.fieldsToProto, inductionHypothesis, Option.pure_def, Option.bind_eq_bind,
        Option.bind_some]
  | set singular defined converted rest inductionHypothesis =>
      rw [fieldsToProto_singular rilSchema v8 freed position singular defined, converted,
        inductionHypothesis]
      rfl

/-- `ToProto` of an object whose properties convert. -/
theorem Converts.valueToProto {v8 : V8} {type : RilMessage} {properties : List JsValue}
    {values : List (List Value)} (converts : Converts v8 type.fields properties values)
    (freed : FreedMemory) :
    valueToProto rilSchema v8 freed (.message type) (.object properties) =
      some (.message values) := by
  have schema : rilSchema.fields type = type.fields := rfl
  rw [MockRil.valueToProto, schema, converts.fieldsToProto freed 0]
  rfl

section

variable (v8 : V8) (freed : FreedMemory)

theorem valueToProto_int32 {value : Int} (range : IntType.int32.InRange value) :
    valueToProto rilSchema v8 freed (.int .int32) (.number value) = some (.int value) := by
  simp [valueToProto, scalarToProto, v8.numberValue_number, int32_ofDouble range]

theorem valueToProto_bool (value : Bool) :
    valueToProto rilSchema v8 freed .bool (.boolean value) = some (.bool value) := rfl

theorem valueToProto_string {text : String} (plain : PlainText text) :
    valueToProto rilSchema v8 freed .string (.string text) = some (.string text) := by
  simp [valueToProto, scalarToProto, v8.asciiValue_string text plain]

theorem valueToProto_callState (state : CallState) :
    valueToProto rilSchema v8 freed (.enum rilCallState) (.number (callStateNumber state)) =
      some (.enum (callStateNumber state)) := by
  simp [valueToProto, scalarToProto, enumToProto_callState]

end

theorem converts_call (v8 : V8) {call : RilCall} (wire : WireCall call) :
    Converts v8 (RilMessage.fields .rilCall)
      [.number (callStateNumber call.state), .number call.index, .number 0, .boolean false,
        .boolean false, .number 0, .boolean true, .boolean false,
        (call.number.map JsValue.string).getD .undefined, .number 0, .string call.name, .undefined,
        .undefined]
      [[.enum (callStateNumber call.state)], [.int call.index], [.int 0], [.bool false],
        [.bool false], [.int 0], [.bool true], [.bool false],
        (call.number.map Value.string).toList, [.int 0], [.string call.name], [], []] := by
  have zero (freed : FreedMemory) := valueToProto_int32 v8 freed int32_zero
  have behind : Converts v8 ((RilMessage.fields .rilCall).drop 9)
      [.number 0, .string call.name, .undefined, .undefined]
      [[.int 0], [.string call.name], [], []] :=
    .set rfl (by simp) zero (.set rfl (by simp)
      (fun freed => valueToProto_string v8 freed wire.name.plain) (.unset _ (.unset _ .nil)))
  have number : Converts v8 ((RilMessage.fields .rilCall).drop 8)
      ((call.number.map JsValue.string).getD .undefined ::
        [.number 0, .string call.name, .undefined, .undefined])
      ((call.number.map Value.string).toList :: [[.int 0], [.string call.name], [], []]) := by
    cases present : call.number with
    | none => exact .unset _ behind
    | some number =>
        exact .set rfl (by simp)
          (fun freed => valueToProto_string v8 freed (wire.number number present).plain) behind
  exact .set rfl (by simp) (fun freed => valueToProto_callState v8 freed call.state)
    (.set rfl (by simp) (fun freed => valueToProto_int32 v8 freed wire.int32)
    (.set rfl (by simp) zero (.set rfl (by simp) (fun freed => valueToProto_bool v8 freed false)
    (.set rfl (by simp) (fun freed => valueToProto_bool v8 freed false) (.set rfl (by simp) zero
    (.set rfl (by simp) (fun freed => valueToProto_bool v8 freed true)
    (.set rfl (by simp) (fun freed => valueToProto_bool v8 freed false) number)))))))

theorem valueToProto_call (v8 : V8) (freed : FreedMemory) {call : RilCall} (wire : WireCall call) :
    valueToProto rilSchema v8 freed (.message .rilCall) (callToJs call) = some (callValue call) :=
  (converts_call v8 wire).valueToProto freed

section

variable {calls : List RilCall}

theorem elementsToProto_calls (v8 : V8) (freed : FreedMemory)
    (wire : ∀ call ∈ calls, WireCall call) (position index : ℕ) :
    elementsToProto rilSchema v8 freed position index (.message .rilCall) (calls.map callToJs) =
      some (calls.map callValue) := by
  induction calls generalizing index with
  | nil => rfl
  | cons call calls inductionHypothesis =>
      have first := valueToProto_call v8 (freed.below position index)
        (wire call List.mem_cons_self)
      have rest := inductionHypothesis
        (fun other member => wire other (List.mem_cons_of_mem _ member)) (index + 1)
      simp only [List.map_cons, elementsToProto, first, rest, Option.pure_def,
        Option.bind_eq_bind, Option.bind_some]

/-- `Serialize` of the calls. -/
theorem serialize_calls (v8 : V8) (freed : FreedMemory) {radio : Radio}
    (wire : ∀ call ∈ radio.presentCalls, WireCall call) :
    rilSchema.serialize v8 freed .rspGetCurrentCalls (currentCallsToJs radio) =
      some (callsValue radio.presentCalls) := by
  have elements := elementsToProto_calls v8 freed wire 0 0
  show valueToProto rilSchema v8 freed (.message .rspGetCurrentCalls) (currentCallsToJs radio) = _
  have fields : rilSchema.fields .rspGetCurrentCalls = [repeated "calls" (.message .rilCall)] :=
    rfl
  simp only [currentCallsToJs, callsValue, valueToProto, fields, fieldsToProto, repeated, if_true,
    elements, Option.pure_def, Option.bind_eq_bind, Option.bind_some]

theorem callValue_hasType {call : RilCall} (wire : WireCall call) :
    ValueHasType rilSchema (.message .rilCall) (callValue call) := by
  have index := wire.int32
  have small : call.index ≤ 9007199254740992 := le_trans wire.index.le (by decide)
  have name := wire.name.plain.isAscii
  have state := callState_member call.state
  show FieldsHaveType rilSchema (RilMessage.fields .rilCall) _
  cases present : call.number with
  | none =>
      simp [RilMessage.fields, FieldsHaveType, ElementsHaveType, ValueHasType, singular, small,
        int32_zero, index, name, state]
  | some number =>
      have text := (wire.number number present).plain.isAscii
      simp [RilMessage.fields, FieldsHaveType, ElementsHaveType, ValueHasType, singular, small,
        int32_zero, index, name, state, text]

theorem callsValue_hasType (wire : ∀ call ∈ calls, WireCall call) :
    ValueHasType rilSchema (.message .rspGetCurrentCalls) (callsValue calls) := by
  refine ⟨fun single => absurd single (by decide), ?_, trivial⟩
  show ElementsHaveType rilSchema (.message .rilCall) (calls.map callValue)
  induction calls with
  | nil => exact trivial
  | cons call calls inductionHypothesis =>
      exact ⟨callValue_hasType (wire call List.mem_cons_self), inductionHypothesis
        fun other member => wire other (List.mem_cons_of_mem _ member)⟩

theorem levels_callValue (call : RilCall) : levels (callValue call) = 1 := by
  unfold callValue
  cases call.number <;> rfl

theorem levels_callsValue_le (calls : List RilCall) : levels (callsValue calls) ≤ 2 := by
  have flat : elementsLevels (calls.map callValue) ≤ 1 := by
    induction calls with
    | nil => exact Nat.zero_le _
    | cons call calls inductionHypothesis =>
        rw [List.map_cons, elementsLevels, levels_callValue]
        exact Nat.max_le.mpr ⟨Nat.le_refl 1, inductionHypothesis⟩
  rw [callsValue, levels, fieldsLevels, fieldsLevels]
  omega

end

/-! ### The conversion -/

/-- The entry that libril finds for a call. A number that is undefined is empty. -/
def reportedCall (call : RilCall) : Libril.RilCall where
  state := BitVec.ofInt 32 (callStateNumber call.state)
  index := BitVec.ofNat 32 call.index
  toa := 0
  isMpty := 0
  isMT := 0
  als := 0
  isVoice := 1
  isVoicePrivacy := 0
  number := some (ascii (call.number.getD ""))
  numberPresentation := 0
  name := some (ascii call.name)
  namePresentation := 0
  uusInfo := none

theorem charOf_bit (signedChar : Bool) :
    charOf signedChar 0#32 = 0#32 ∧ charOf signedChar 1#32 = 1#32 := by
  cases signedChar <;> decide

theorem rilCallOf_callValue {υ : Type} (signedChar : Bool) (memory : Pointee) {call : RilCall}
    (wire : WireCall call) :
    rilCallOf signedChar memory (Contents.ofProto (protoOf (callValue call) : Proto υ)) =
      reportedCall call := by
  obtain ⟨no, yes⟩ := charOf_bit signedChar
  have name : cStr (.string (ascii call.name) : Proto υ) = ascii call.name :=
    cStr_protoOf_string wire.name.plain
  have empty : ascii "" = [] := rfl
  unfold callValue
  cases present : call.number with
  | none =>
      simp [rilCallOf, reportedCall, protoOf, fieldsOf, elementsOf, Contents.ofProto, numberField,
        stringField, hasField, numberOr0, Contents.elements, no, yes, name, present, empty]
  | some number =>
      have text : cStr (.string (ascii number) : Proto υ) = ascii number :=
        cStr_protoOf_string (wire.number number present).plain
      simp [rilCallOf, reportedCall, protoOf, fieldsOf, elementsOf, Contents.ofProto, numberField,
        stringField, hasField, numberOr0, Contents.elements, no, yes, name, present, text]

theorem WireCall.plainCall {call : RilCall} (wire : WireCall call) :
    PlainCall (reportedCall call) where
  number := by
    intro s same
    obtain rfl := Option.some.inj same
    cases present : call.number with
    | none => exact ⟨by decide, by decide⟩
    | some number =>
        have text := wire.number number present
        exact ⟨text.plain.asciiText, by rw [Option.getD_some, ascii_length]; exact text.short⟩
  name := by
    intro s same
    obtain rfl := Option.some.inj same
    exact ⟨wire.name.plain.asciiText, by rw [ascii_length]; exact wire.name.short⟩
  noUus := rfl

section

variable {stream : CodedStream} (lookahead : Lookahead stream) (signedChar : Bool)
  {calls : List RilCall}

/-- What `RspGetCurrentCalls` makes of the buffer. -/
theorem convert_calls (deep : 1 ≤ stream.recursionLimit) (abi : Abi) (memory : Pointee)
    (wire : ∀ call ∈ calls, WireCall call) (few : calls.length < 2 ^ 28)
    (small : (serializeToArray stream .rspGetCurrentCalls (callsValue calls)).length < 2 ^ 31) :
    RspConversion.convert lookahead abi signedChar memory .getCurrentCalls
        (serializeToArray stream .rspGetCurrentCalls (callsValue calls)) =
      some ⟨pointeeOf memory (.calls (calls.map reportedCall)), calls.length * abi.ptrSize⟩ := by
  have shallow := levels_callsValue_le calls
  have parsed := parsedContents_serializeToArray lookahead (callsValue_hasType wire)
    (by omega) small
  have length : calls.length * abi.ptrSize < 2 ^ 31 := by
    cases abi <;> simp only [Abi.ptrSize] <;> omega
  have elements : (Contents.ofProto (protoOf (callsValue calls) : Proto stream.Unknown)).elements 0 =
      elementsOf (calls.map callValue) := rfl
  have entries : (elementsOf (calls.map callValue) : List (Proto stream.Unknown)).map
      (fun call => rilCallOf signedChar memory (.ofProto call)) = calls.map reportedCall := by
    rw [elementsOf_eq_map, List.map_map, List.map_map]
    apply List.map_congr_left
    exact fun call member => rilCallOf_callValue signedChar memory (wire call member)
  show ((parsedContents lookahead .rspGetCurrentCalls _).bind fun rsp =>
    some (rspGetCurrentCalls abi signedChar memory rsp)) = _
  rw [parsed, Option.bind_some]
  simp only [rspGetCurrentCalls, elements, entries, List.length_map, resultLen_eq abi length,
    pointeeOf]

end

/-! ### Runs -/

/-- The radio behind the requests. -/
def radioBehind (requests : List RadioRequest) : Radio :=
  requests.foldl (fun radio request => (radio.process request).radio) Radio.initial

/-- The numbers that the requests bring can be handed over. -/
def WireNumbers (requests : List RadioRequest) : Prop :=
  ∀ request ∈ requests, ∀ number ∈ request.phoneNumber, ∀ text ∈ number, WireString text

/-- The table is in order, and its calls can be handed over. -/
structure Reportable (radio : Radio) : Prop where
  consistent : radio.Consistent
  wire : ∀ index call, radio.calls.get index = some call → WireCall call

theorem Reportable.process {radio : Radio} (reportable : Reportable radio)
    {request : RadioRequest}
    (numbers : ∀ number ∈ request.phoneNumber, ∀ text ∈ number, WireString text) :
    Reportable (radio.process request).radio where
  consistent := reportable.consistent.process request
  wire := by
    intro index call defined
    have position := (reportable.consistent.process request).placed index call defined
    have small : call.index < 2 ^ 31 := by
      have most : index ≤ 7 := position.2.1
      rw [position.2.2]
      omega
    rcases reportable.consistent.spoken_process request defined with
      ⟨old, before, number, name⟩ | ⟨brought, name⟩
    · have wire := reportable.wire index old before
      exact ⟨small, number ▸ wire.number, name ▸ wire.name⟩
    · exact ⟨small, numbers _ brought, name ▸ ⟨by simp [PlainText], by decide⟩⟩

theorem reportable_radioBehind {requests : List RadioRequest} (numbers : WireNumbers requests) :
    Reportable (radioBehind requests) := by
  have along (radio : Radio) (reportable : Reportable radio) :
      Reportable (requests.foldl (fun radio request => (radio.process request).radio) radio) := by
    induction requests generalizing radio with
    | nil => exact reportable
    | cons request rest inductionHypothesis =>
        exact inductionHypothesis (fun other member =>
          numbers other (List.mem_cons_of_mem _ member)) _
          (reportable.process (numbers request List.mem_cons_self))
  exact along _ ⟨.initial, fun index call defined => by simp [Radio.initial] at defined⟩

/-- **The calls of the simulated radio come through to the frame of libril.** Behind every run,
the answer to GET_CURRENT_CALLS has one entry for each call of the table, in the order of
their indices, with the state and the number that the call has at that moment. -/
theorem currentCalls_onWire {P : Type} [Platform P] [TextPlatform P] {stream : CodedStream}
    (lookahead : Lookahead stream) (deep : 1 ≤ stream.recursionLimit) (signedChar : Bool)
    (v8 : V8) (freed : FreedMemory) (memory : Pointee) (version : ℕ) (pRI : RequestInfo)
    (function : pRI.pCI.responseFunction = .responseCallList) (e : Word)
    (requests : List RadioRequest) (numbers : WireNumbers requests)
    (small : (serializeToArray stream .rspGetCurrentCalls
      (callsValue (radioBehind requests).presentCalls)).length < 2 ^ 31) :
    ∃ value response,
      rilSchema.serialize v8 freed .rspGetCurrentCalls (currentCallsToJs (radioBehind requests)) =
        some value ∧
      RspConversion.convert lookahead (Platform.abi P) signedChar memory .getCurrentCalls
        (serializeToArray stream .rspGetCurrentCalls value) = some response ∧
      Platform.data (responseParcel P version pRI e response.response response.responselen) =
        frameHeader pRI.pCI.requestNumber pRI.token e ++
          callsPayload P version ((radioBehind requests).presentCalls.map reportedCall) ∧
      ((radioBehind requests).presentCalls.map RilCall.index).Pairwise (· < ·) ∧
      ∀ call, call ∈ (radioBehind requests).presentCalls ↔
        ∃ index, (radioBehind requests).calls.get index = some call := by
  have reportable := reportable_radioBehind numbers
  have wire : ∀ call ∈ (radioBehind requests).presentCalls, WireCall call := by
    intro call member
    obtain ⟨index, defined⟩ := Radio.mem_presentCalls.mp member
    exact reportable.wire index call defined
  have few : (radioBehind requests).presentCalls.length ≤ 7 :=
    reportable.consistent.presentCalls_length
  have plain : ∀ call ∈ (radioBehind requests).presentCalls.map reportedCall, PlainCall call := by
    intro call member
    obtain ⟨source, inside, rfl⟩ := List.mem_map.mp member
    exact (wire source inside).plainCall
  have frame := responseParcel_calls (P := P) version pRI function e memory plain
    (by rw [List.length_map]; omega)
  rw [List.length_map] at frame
  exact ⟨_, _, serialize_calls v8 freed wire,
    convert_calls lookahead signedChar deep (Platform.abi P) memory wire (by omega) small, frame,
    reportable.consistent.presentCalls_sorted, fun call => Radio.mem_presentCalls⟩

/-- A call is dialed and taken, and another comes in. -/
def waitingRequests : List RadioRequest :=
  [.dial (some ⟨some "10086"⟩), .callStateChange ⟨1, .alerting, 0⟩,
    .callStateChange ⟨1, .active, 0⟩, .startInComingCall (some "555")]

theorem waitingRequests_wire : WireNumbers waitingRequests := by
  have dialed : WireString "10086" := ⟨plainText_of_all rfl, by decide⟩
  have incoming : WireString "555" := ⟨plainText_of_all rfl, by decide⟩
  simpa [WireNumbers, waitingRequests, RadioRequest.phoneNumber] using ⟨dialed, incoming⟩

theorem currentCalls_onWire_waiting :
    ∃ value response,
      rilSchema.serialize plainV8 (fun _ => id) .rspGetCurrentCalls
        (currentCallsToJs (radioBehind waitingRequests)) = some value ∧
      RspConversion.convert wireLookahead .lp64 true default .getCurrentCalls
        (serializeToArray wireStream .rspGetCurrentCalls value) = some response ∧
      Platform.data (responseParcel Libril.ByteParcel 3
          ⟨9, ⟨.getCurrentCalls, .dispatchVoid, .responseCallList⟩, 0, false, false⟩ 0
          response.response response.responselen) =
        frameHeader .getCurrentCalls 9 0 ++
          callsPayload Libril.ByteParcel 3
            [reportedCall ⟨.active, 1, some "10086", "", 0⟩,
              reportedCall ⟨.waiting, 2, some "555", "", 1⟩] ∧
      ((radioBehind waitingRequests).presentCalls.map RilCall.index).Pairwise (· < ·) ∧
      ∀ call, call ∈ (radioBehind waitingRequests).presentCalls ↔
        ∃ index, (radioBehind waitingRequests).calls.get index = some call :=
  currentCalls_onWire (P := Libril.ByteParcel) wireLookahead (by decide) true plainV8 (fun _ => id)
    default 3 ⟨9, ⟨.getCurrentCalls, .dispatchVoid, .responseCallList⟩, 0, false, false⟩ rfl 0
    waitingRequests waitingRequests_wire (by decide +kernel)

end Generated

end RildHisi.MockRil
