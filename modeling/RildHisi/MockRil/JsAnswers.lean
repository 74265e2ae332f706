import RildHisi.MockRil.MessageRoundTrip
import RildHisi.MockRil.ResponseConversions

/-!
Owns the way of an answer from JavaScript into the conversions of responses.cpp: the message
that `Serialize` makes of an object, its bytes, and what the generated class parses of them.

`Serialize` fills its buffer by reflection. The library writes the same bytes for a class it
builds at run time as for the generated one.
-/

namespace RildHisi.MockRil.Generated

/-! ### Messages as the classes hold them -/

mutual

/-- A value with its string as bytes, and its number. -/
def protoOf {υ : Type} : Value → Proto υ
  | .message fields => .message (fieldsOf fields) []
  | .string value => .string (ascii value)
  | .int value => .number value
  | .bool value => .number (if value then 1 else 0)
  | .enum number => .number number

def fieldsOf {υ : Type} : List (List Value) → List (List (Proto υ))
  | [] => []
  | elements :: rest => elementsOf elements :: fieldsOf rest

def elementsOf {υ : Type} : List Value → List (Proto υ)
  | [] => []
  | element :: elements => protoOf element :: elementsOf elements

end

mutual

/-- How deep messages stand in each other. -/
def levels : Value → ℕ
  | .message fields => fieldsLevels fields + 1
  | .string _ => 0
  | .int _ => 0
  | .bool _ => 0
  | .enum _ => 0

def fieldsLevels : List (List Value) → ℕ
  | [] => 0
  | elements :: rest => max (elementsLevels elements) (fieldsLevels rest)

def elementsLevels : List Value → ℕ
  | [] => 0
  | element :: elements => max (levels element) (elementsLevels elements)

end

theorem elementsOf_eq_map {υ : Type} (elements : List Value) :
    (elementsOf elements : List (Proto υ)) = elements.map protoOf := by
  induction elements with
  | nil => rfl
  | cons element elements inductionHypothesis =>
      rw [elementsOf, List.map_cons, inductionHypothesis]

theorem elementsOf_length {υ : Type} (elements : List Value) :
    (elementsOf elements : List (Proto υ)).length = elements.length := by
  rw [elementsOf_eq_map, List.length_map]

/-! ### They fit -/

/-- The numbers an enumeration has. -/
def enumNumbers : FieldType RilMessage → List Int
  | .enum descriptor => descriptor.values.map Prod.snd
  | _ => []

/-- The numbers of the enumerations are ints of C. -/
theorem enumInRange {type : RilMessage} {field : Field RilMessage}
    (present : field ∈ rilSchema.fields type) {descriptor : EnumDescriptor}
    (isEnum : field.type = .enum descriptor) {number : Int} (member : descriptor.Member number) :
    Primitive.enum.InRange number := by
  have all : ∀ field ∈ rilSchema.fields type, ∀ number ∈ enumNumbers field.type,
      Primitive.enum.InRange number := by
    cases type <;> decide +kernel
  have here := all field present number
  rw [isEnum] at here
  exact here member

mutual

theorem valueFits_protoOf {stream : CodedStream} {depth : ℕ} {type : FieldType RilMessage}
    (enums : ∀ descriptor, type = .enum descriptor → ∀ number, descriptor.Member number →
      Primitive.enum.InRange number) {value : Value} (hasType : ValueHasType rilSchema type value)
    (shallow : levels value ≤ depth) :
    ValueFits stream rilClasses depth type (protoOf value) := by
  cases type <;> cases value <;> first | exact hasType.elim | skip
  case message.message type fields =>
    obtain ⟨below, rfl⟩ : ∃ below, depth = below + 1 :=
      ⟨depth - 1, by rw [levels] at shallow; omega⟩
    rw [levels] at shallow
    exact ⟨fieldsFit_fieldsOf (fun field present => present) hasType (by omega),
      fun unknown none => absurd none List.not_mem_nil⟩
  case string.string text => exact trivial
  case int.int type number => exact hasType.1
  case bool.bool truth => cases truth <;> simp [ValueFits, ScalarFits, protoOf, Primitive.InRange]
  case enum.enum descriptor number => exact ⟨hasType, enums descriptor rfl number hasType⟩

theorem fieldsFit_fieldsOf {stream : CodedStream} {depth : ℕ} {type : RilMessage}
    {fields : List (Field RilMessage)} (present : ∀ field ∈ fields, field ∈ rilSchema.fields type)
    {values : List (List Value)} (hasType : FieldsHaveType rilSchema fields values)
    (shallow : fieldsLevels values ≤ depth) :
    FieldsFit stream rilClasses depth fields (fieldsOf values) := by
  cases fields with
  | nil =>
      cases values with
      | nil => exact trivial
      | cons elements rest => exact hasType.elim
  | cons field fields =>
      cases values with
      | nil => exact hasType.elim
      | cons elements rest =>
          rw [fieldsLevels] at shallow
          obtain ⟨single, elementsHaveType, restHaveType⟩ := hasType
          refine ⟨fun notRepeated => elementsOf_length elements ▸ single notRepeated, ?_, ?_⟩
          · exact elementsFit_elementsOf (fun descriptor isEnum number =>
              enumInRange (present field List.mem_cons_self) isEnum) elementsHaveType (by omega)
          · exact fieldsFit_fieldsOf (fun other member =>
              present other (List.mem_cons_of_mem _ member)) restHaveType (by omega)

theorem elementsFit_elementsOf {stream : CodedStream} {depth : ℕ} {type : FieldType RilMessage}
    (enums : ∀ descriptor, type = .enum descriptor → ∀ number, descriptor.Member number →
      Primitive.enum.InRange number) {values : List Value}
    (hasType : ElementsHaveType rilSchema type values) (shallow : elementsLevels values ≤ depth) :
    ElementsFit stream rilClasses depth type (elementsOf values) := by
  cases values with
  | nil => cases type <;> exact trivial
  | cons value values =>
      rw [elementsLevels] at shallow
      rw [elementsOf, elementsFit_cons]
      exact ⟨valueFits_protoOf enums hasType.1 (by omega),
        elementsFit_elementsOf enums hasType.2 (by omega)⟩

end

/-! ### Bytes -/

/-- The buffer of `Serialize`. -/
def serializeToArray (stream : CodedStream) (type : RilMessage) (value : Value) : List UInt8 :=
  messageBytes stream rilClasses type (protoOf value)

/-- What JavaScript serializes is what the conversions parse. -/
theorem parsedContents_serializeToArray {stream : CodedStream} (lookahead : Lookahead stream)
    {type : RilMessage} {value : Value} (hasType : ValueHasType rilSchema (.message type) value)
    (shallow : levels value ≤ stream.recursionLimit + 1)
    (small : (serializeToArray stream type value).length < 2 ^ 31) :
    parsedContents lookahead type (serializeToArray stream type value) =
      some (.ofProto (protoOf value)) := by
  have fits : ValueFits stream rilClasses (stream.recursionLimit + 1) (.message type)
      (protoOf value) := valueFits_protoOf (by simp) hasType shallow
  unfold parsedContents
  rw [serializeToArray, mergePartialFromCodedStream_messageBytes lookahead fits small]
  rfl

end RildHisi.MockRil.Generated
