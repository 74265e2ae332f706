import RildHisi.MockRil.AcceptedMessages
import RildHisi.MockRil.DialMessages

/-!
Owns what the control channel and the dial request rely on: the generated classes
`MsgHeader` and `ReqDial` give back the messages they wrote.
-/

namespace RildHisi.MockRil.Generated

/-! ### MsgHeader -/

theorem numberBytes_length {ι : Type} (classes : Classes ι) (tag : ℕ) (type : IntType)
    (value : Int) :
    (elementsBytes wireStream classes tag (.int type) [.number value]).length ≤ 10 + 10 := by
  have tagBound := varint_length 10 tag
  have valueBound := varint_length 10 (varintOf value)
  rw [elementsBytes_cons, elementsBytes, List.append_nil, List.length_append]
  exact Nat.add_le_add tagBound valueBound

/-- A header is short. -/
theorem headerBytes_length (header : MsgHeader) :
    (messageBytes wireStream headerClasses () (headerProto header)).length ≤ 80 := by
  have cmd := numberBytes_length headerClasses (fieldTag 0 headerFields[0]) .uint32 header.cmd.toNat
  have lengthData :=
    numberBytes_length headerClasses (fieldTag 1 headerFields[1]) .uint32 header.lengthData.toNat
  have status := numberBytes_length headerClasses (fieldTag 2 headerFields[2]) .uint32 header.status.toNat
  have token := numberBytes_length headerClasses (fieldTag 3 headerFields[3]) .uint64 header.token.toNat
  have shape : messageBytes wireStream headerClasses () (headerProto header) =
      elementsBytes wireStream headerClasses (fieldTag 0 headerFields[0]) (.int .uint32)
        [.number header.cmd.toNat] ++
      (elementsBytes wireStream headerClasses (fieldTag 1 headerFields[1]) (.int .uint32)
        [.number header.lengthData.toNat] ++
      (elementsBytes wireStream headerClasses (fieldTag 2 headerFields[2]) (.int .uint32)
        [.number header.status.toNat] ++
      (elementsBytes wireStream headerClasses (fieldTag 3 headerFields[3]) (.int .uint64)
        [.number header.token.toNat] ++ []))) ++ [] := rfl
  rw [shape]
  simp only [List.length_append, List.length_nil]
  omega

/-- The class of msgheader.pb.cpp, for each of the three programs. -/
def headerCodec : MsgHeaderCodec where
  serialize _ header := messageBytes wireStream headerClasses () (headerProto header)
  parse _ bytes := (parseFromArray wireLookahead headerClasses () bytes).map headerOf
  parse_serialize _ _ header := by
    have short := headerBytes_length header
    rw [parseFromArray_messageBytes wireLookahead (headerProto_fits wireStream _ header) (by omega)
      rfl, Option.map_some, headerOf_headerProto]
  short _ header := Nat.lt_of_le_of_lt (headerBytes_length header) (by decide)

/-! ### ReqDial -/

open Dial

/-- The elements of a field that may be set. -/
def optionalElements {υ α : Type} (element : α → Proto υ) (value : Option α) : List (Proto υ) :=
  (value.map element).toList

/-- `RilUusInfo`. -/
def uusInfoProto {υ : Type} (info : UusInfoMessage) : Proto υ :=
  .message [optionalElements (fun uusType => .number uusType.number) info.uusType,
    optionalElements (fun uusDcs => .number uusDcs.number) info.uusDcs,
    optionalElements (fun length : BitVec 32 => .number length.toInt) info.uusLength,
    optionalElements .string info.uusData] []

/-- `ReqDial`. -/
def dialProto {υ : Type} (message : ReqDialMessage) : Proto υ :=
  .message [optionalElements .string message.address,
    optionalElements (fun clir : BitVec 32 => .number clir.toInt) message.clir,
    optionalElements uusInfoProto message.uusInfo] []

/-- The element of a field that is set. -/
def stringElement {υ : Type} (elements : List (Proto υ)) : Option (List UInt8) :=
  match elements.head? with
  | some (.string bytes) => some bytes
  | _ => none

def numberElement {υ : Type} (elements : List (Proto υ)) : Option Int :=
  match elements.head? with
  | some (.number value) => some value
  | _ => none

def uusInfoOf {υ : Type} (value : Proto υ) : UusInfoMessage :=
  let contents := Contents.ofProto value
  ⟨(numberElement (contents.elements 0)).bind fun number => UusType.ofNumber number.toNat,
    (numberElement (contents.elements 1)).bind fun number => UusDcs.ofNumber number.toNat,
    (numberElement (contents.elements 2)).map (BitVec.ofInt 32),
    stringElement (contents.elements 3)⟩

def dialOf {υ : Type} (value : Proto υ) : ReqDialMessage :=
  let contents := Contents.ofProto value
  ⟨stringElement (contents.elements 0), (numberElement (contents.elements 1)).map (BitVec.ofInt 32),
    (contents.elements 2).head?.map uusInfoOf⟩

theorem uusInfoOf_uusInfoProto {υ : Type} (info : UusInfoMessage) :
    uusInfoOf (uusInfoProto (υ := υ) info) = info := by
  obtain ⟨uusType, uusDcs, uusLength, uusData⟩ := info
  have types : ∀ uusType : UusType, UusType.ofNumber uusType.number = some uusType := by
    intro uusType
    cases uusType <;> rfl
  have codes : ∀ uusDcs : UusDcs, UusDcs.ofNumber uusDcs.number = some uusDcs := by
    intro uusDcs
    cases uusDcs <;> rfl
  cases uusType <;> cases uusDcs <;> cases uusLength <;> cases uusData <;>
    simp [uusInfoOf, uusInfoProto, Contents.ofProto, Contents.elements, optionalElements,
      numberElement, stringElement, types, codes]

theorem dialOf_dialProto {υ : Type} (message : ReqDialMessage) :
    dialOf (dialProto (υ := υ) message) = message := by
  obtain ⟨address, clir, uusInfo⟩ := message
  cases address <;> cases clir <;> cases uusInfo <;>
    simp [dialOf, dialProto, Contents.ofProto, Contents.elements, optionalElements,
      numberElement, stringElement, uusInfoOf_uusInfoProto]

theorem elementsFit_optional {ι α : Type} (stream : CodedStream) (classes : Classes ι) (depth : ℕ)
    (type : FieldType ι) (element : α → Proto stream.Unknown)
    (fits : ∀ value, ValueFits stream classes depth type (element value)) (value : Option α) :
    (false = false → (optionalElements element value).length ≤ 1) ∧
      ElementsFit stream classes depth type (optionalElements element value) := by
  cases value with
  | none => exact ⟨fun _ => Nat.zero_le 1, elementsFit_nil type⟩
  | some value =>
      exact ⟨fun _ => Nat.le_refl 1,
        (elementsFit_cons type _ [] depth).mpr ⟨fits value, elementsFit_nil type⟩⟩

theorem int32_fits {ι : Type} {stream : CodedStream} {classes : Classes ι} {depth : ℕ}
    (value : BitVec 32) :
    ValueFits stream classes depth (.int .int32) (.number value.toInt) :=
  ⟨value.le_toInt, value.toInt_lt⟩

theorem uusInfoProto_fits (stream : CodedStream) (depth : ℕ) (info : UusInfoMessage) :
    MessageFits stream rilClasses (depth + 1) .rilUusInfo (uusInfoProto info) := by
  have types := elementsFit_optional stream rilClasses depth (.enum rilUusType)
    (fun uusType : UusType => .number uusType.number)
    (by intro uusType; cases uusType <;> exact ⟨by decide +kernel, by decide, by decide⟩)
    info.uusType
  have codes := elementsFit_optional stream rilClasses depth (.enum rilUusDcs)
    (fun uusDcs : UusDcs => .number uusDcs.number)
    (by intro uusDcs; cases uusDcs <;> exact ⟨by decide +kernel, by decide, by decide⟩)
    info.uusDcs
  have length := elementsFit_optional stream rilClasses depth (.int .int32)
    (fun length : BitVec 32 => .number length.toInt) int32_fits info.uusLength
  have data := elementsFit_optional stream rilClasses depth .string .string (fun _ => trivial)
    info.uusData
  refine ⟨⟨types.1, types.2, codes.1, codes.2, length.1, length.2, data.1, data.2, trivial⟩, ?_⟩
  intro field member
  cases member

theorem dialProto_fits (stream : CodedStream) (depth : ℕ) (message : ReqDialMessage) :
    MessageFits stream rilClasses (depth + 2) .reqDial (dialProto message) := by
  have address := elementsFit_optional stream rilClasses (depth + 1) .string .string
    (fun _ => trivial) message.address
  have clir := elementsFit_optional stream rilClasses (depth + 1) (.int .int32)
    (fun clir : BitVec 32 => .number clir.toInt) int32_fits message.clir
  have uusInfo := elementsFit_optional stream rilClasses (depth + 1) (.message .rilUusInfo)
    uusInfoProto (uusInfoProto_fits stream depth) message.uusInfo
  refine ⟨⟨address.1, address.2, clir.1, clir.2, uusInfo.1, uusInfo.2, trivial⟩, ?_⟩
  intro field member
  cases member

/-- The class of ril.pb.cpp, over any streams that allow a message inside a message. -/
def dialCodec {stream : CodedStream} (lookahead : Lookahead stream)
    (nested : 0 < stream.recursionLimit) : ReqDialCodec where
  serialize message := messageBytes stream rilClasses .reqDial (dialProto message)
  parse bytes := (parseFromArray lookahead rilClasses .reqDial bytes).map dialOf
  parse_serialize message small := by
    have fits := dialProto_fits stream (stream.recursionLimit - 1) message
    have levels : stream.recursionLimit - 1 + 2 = stream.recursionLimit + 1 := by omega
    rw [levels] at fits
    rw [parseFromArray_messageBytes lookahead fits small rfl, Option.map_some, dialOf_dialProto]

end RildHisi.MockRil.Generated
