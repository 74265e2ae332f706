import Mathlib.Algebra.Ring.Int.Defs
import RildHisi.Library.Rounding
import RildHisi.Library.SparseArray

/-!
Owns the bridge of protobuf_v8.cpp between messages and JavaScript objects: `ToJs` and
`Parse`, `ToProto` and `Serialize`, over the descriptors of any schema. A message stands for
its bytes; floating-point fields, which no message of mock-ril has, are left out.
-/

namespace RildHisi.MockRil

open RildHisi.Library

/-! ### Descriptors -/

/-- An enumeration, by the names and the numbers of its values. -/
structure EnumDescriptor where
  values : List (String × Int)
  names_nodup : (values.map Prod.fst).Nodup

namespace EnumDescriptor

variable (descriptor : EnumDescriptor)

def findValueByName (name : String) : Option Int := descriptor.values.lookup name

/-- `FindValueByNumber(number)->name()`. -/
def nameOf (number : Int) : Option String :=
  (descriptor.values.find? fun value => value.2 = number).map Prod.fst

def Member (number : Int) : Prop := number ∈ descriptor.values.map Prod.snd

instance (number : Int) : Decidable (descriptor.Member number) :=
  inferInstanceAs (Decidable (number ∈ descriptor.values.map Prod.snd))

end EnumDescriptor

/-- The integer types of fields. -/
inductive IntType
  | int32
  | uint32
  | int64
  | uint64
  deriving DecidableEq

/-- `cpp_type` of a field, over the message types of a schema. -/
inductive FieldType (ι : Type)
  | message (type : ι)
  | string
  | int (type : IntType)
  | bool
  | enum (descriptor : EnumDescriptor)

/-- What the bridge reads of a `FieldDescriptor`. -/
structure Field (ι : Type) where
  camelcaseName : String
  isRepeated : Bool
  type : FieldType ι

/-- The message types with their fields in descriptor order. No two fields of a message
have the same name in JavaScript. -/
structure Schema (ι : Type) where
  fields : ι → List (Field ι)
  names_nodup : ∀ type, ((fields type).map Field.camelcaseName).Nodup

variable {ι : Type}

/-! ### Messages -/

/-- A message holds for each of its fields the list of the elements, which is empty where
the field is not set. -/
inductive Value
  | message (fields : List (List Value))
  | string (value : String)
  | int (value : Int)
  | bool (value : Bool)
  | enum (number : Int)

def IntType.InRange : IntType → Int → Prop
  | int32, value => -2 ^ 31 ≤ value ∧ value < 2 ^ 31
  | uint32, value => 0 ≤ value ∧ value < 2 ^ 32
  | int64, value => -2 ^ 63 ≤ value ∧ value < 2 ^ 63
  | uint64, value => 0 ≤ value ∧ value < 2 ^ 64

instance (type : IntType) (value : Int) : Decidable (type.InRange value) := by
  cases type <;> exact inferInstanceAs (Decidable (_ ∧ _))

def IsAscii (value : String) : Prop := ∀ char ∈ value.toList, char.toNat < 128

mutual

/-- The value is one of the type, with ASCII strings and integers of at most 53 bits. -/
def ValueHasType (schema : Schema ι) : FieldType ι → Value → Prop
  | .message type, .message fields => FieldsHaveType schema (schema.fields type) fields
  | .string, .string value => IsAscii value
  | .int type, .int value => type.InRange value ∧ value.natAbs ≤ 2 ^ 53
  | .bool, .bool _ => True
  | .enum descriptor, .enum number => descriptor.Member number
  | _, _ => False

def FieldsHaveType (schema : Schema ι) : List (Field ι) → List (List Value) → Prop
  | [], [] => True
  | field :: fields, elements :: rest =>
      (field.isRepeated = false → elements.length ≤ 1) ∧
        ElementsHaveType schema field.type elements ∧ FieldsHaveType schema fields rest
  | _, _ => False

def ElementsHaveType (schema : Schema ι) (type : FieldType ι) : List Value → Prop
  | [] => True
  | element :: elements => ValueHasType schema type element ∧ ElementsHaveType schema type elements

end

/-- A message of a type. -/
structure Schema.Message (schema : Schema ι) (type : ι) where
  value : Value
  hasType : ValueHasType schema (.message type) value

/-! ### JavaScript -/

/-- Values of JavaScript. An object of a type is given by what its `to` function returns,
and an array by its elements, undefined at the holes. -/
inductive JsValue
  | undefined
  | boolean (value : Bool)
  | number (value : Int)
  | string (value : String)
  | array (elements : List JsValue)
  | object (properties : List JsValue)

/-- `String::AsciiValue` and `NumberValue` of V8; a number is none where it is NaN. -/
structure V8 where
  asciiValue : JsValue → String
  numberValue : JsValue → Option Int
  asciiValue_string : ∀ value : String,
    (∀ char ∈ value.toList, 0 < char.toNat ∧ char.toNat < 128) →
      asciiValue (.string value) = value
  numberValue_number : ∀ value, numberValue (.number value) = some value

/-- What the memory that held a string gives when it is read after its release, by the way
from the message to the place of the reading. -/
def FreedMemory : Type := List (Nat × Nat) → String → String

/-- The memory at the readings for one element of a field. -/
def FreedMemory.below (freed : FreedMemory) (position index : Nat) : FreedMemory :=
  fun way => freed ((position, index) :: way)

/-- `BooleanValue`. -/
def booleanValue : JsValue → Bool
  | .undefined => false
  | .boolean value => value
  | .number value => value ≠ 0
  | .string value => value ≠ ""
  | .array _ => true
  | .object _ => true

/-- `Number::New` of a 64-bit integer. -/
def numberNew (value : Int) : Int :=
  if value < 0 then -(roundToEven 53 value.natAbs : Int) else roundToEven 53 value.natAbs

/-! ### Objects of a type -/

/-- `if(x !== undefined) this[name] = x`. -/
def assign (this : String → JsValue) : String × JsValue → String → JsValue
  | (_, .undefined) => this
  | (name, value) => fun other => if other = name then value else this other

/-- The constructor of a type, given the names of its fields. -/
def construct (names : List String) (properties : List JsValue) : String → JsValue :=
  (names.zip properties).foldl assign fun _ => .undefined

/-- The function that brings an object back into an array. -/
def toArray (names : List String) (this : String → JsValue) : List JsValue := names.map this

/-- An assignment leaves the other properties as they are. -/
theorem assign_of_ne (this : String → JsValue) (property : String × JsValue) {other : String}
    (different : other ≠ property.1) : assign this property other = this other := by
  obtain ⟨name, value⟩ := property
  cases value <;> first | rfl | exact if_neg different

theorem foldl_assign_of_not_mem (properties : List (String × JsValue)) {other : String}
    (this : String → JsValue) (unassigned : other ∉ properties.map Prod.fst) :
    properties.foldl assign this other = this other := by
  induction properties generalizing this with
  | nil => rfl
  | cons property properties inductionHypothesis =>
      rw [List.map_cons, List.mem_cons, not_or] at unassigned
      rw [List.foldl_cons, inductionHypothesis _ unassigned.2]
      exact assign_of_ne this property unassigned.1

/-- A property that was undefined becomes the value that is assigned. -/
theorem assign_self (this : String → JsValue) (name : String) (value : JsValue)
    (fresh : this name = .undefined) : assign this (name, value) name = value := by
  cases value <;> first | exact fresh | exact if_pos rfl

theorem map_foldl_assign {names : List String} (nodup : names.Nodup)
    (properties : List JsValue) (this : String → JsValue)
    (lengths : names.length = properties.length) (fresh : ∀ name ∈ names, this name = .undefined) :
    names.map ((names.zip properties).foldl assign this) = properties := by
  induction names generalizing properties this with
  | nil => exact (List.length_eq_zero_iff.mp lengths.symm).symm
  | cons name names inductionHypothesis =>
      cases properties with
      | nil => cases lengths
      | cons property properties =>
          have distinct := List.nodup_cons.mp nodup
          have lengths' : names.length = properties.length := Nat.succ.inj lengths
          rw [List.zip_cons_cons, List.foldl_cons, List.map_cons]
          congr 1
          · have unassigned : name ∉ (names.zip properties).map Prod.fst := by
              rw [List.map_fst_zip (Nat.le_of_eq lengths')]
              exact distinct.1
            rw [foldl_assign_of_not_mem _ _ unassigned]
            exact assign_self this name property (fresh name List.mem_cons_self)
          · apply inductionHypothesis distinct.2 properties _ lengths'
            intro other member
            have different : other ≠ name := fun equal => distinct.1 (equal ▸ member)
            rw [assign_of_ne this (name, property) different]
            exact fresh other (List.mem_cons_of_mem name member)

/-- **The constructor keeps every property** under its name, as the names are distinct. -/
theorem toArray_construct {names : List String} (nodup : names.Nodup) {properties : List JsValue}
    (lengths : names.length = properties.length) :
    toArray names (construct names properties) = properties :=
  map_foldl_assign nodup properties _ lengths fun _ _ => rfl

/-- `NewObject`. -/
def Schema.newObject (schema : Schema ι) (type : ι) (properties : List JsValue) : JsValue :=
  let names := (schema.fields type).map Field.camelcaseName
  .object (toArray names (construct names properties))

/-! ### From messages to objects -/

/-- `ToJs` of a value that is no message. -/
def scalarToJs : FieldType ι → Value → JsValue
  | .string, .string value => .string value
  | .int .int32, .int value => .number value
  | .int .uint32, .int value => .number value
  | .int .int64, .int value => .number (numberNew value)
  | .int .uint64, .int value => .number (numberNew value)
  | .bool, .bool value => .boolean value
  | .enum descriptor, .enum number =>
      match descriptor.nameOf number with
      | some name => .string name
      | none => .undefined
  | _, _ => .undefined

/-- The array of a repeated field. Every element is set at the position of the field. -/
def repeatedToJs (position : Nat) (elements : List JsValue) : JsValue :=
  let array := elements.foldl (fun array element => array.put position element)
    (SparseArray.ofLength elements.length)
  .array (array.elements.map fun element => element.getD .undefined)

/-- The property of a field, where the elements have been converted. -/
def propertyToJs (position : Nat) (isRepeated : Bool) : List JsValue → JsValue
  | [] => .undefined
  | value :: rest => if isRepeated then repeatedToJs position (value :: rest) else value

mutual

/-- `ToJs` of a message, and of a value in it. -/
def valueToJs (schema : Schema ι) : FieldType ι → Value → JsValue
  | .message type, .message fields =>
      schema.newObject type (fieldsToJs schema 0 (schema.fields type) fields)
  | type, value => scalarToJs type value

def fieldsToJs (schema : Schema ι) (position : Nat) :
    List (Field ι) → List (List Value) → List JsValue
  | field :: fields, elements :: rest =>
      propertyToJs position field.isRepeated (elementsToJs schema field.type elements) ::
        fieldsToJs schema (position + 1) fields rest
  | _, _ => []

def elementsToJs (schema : Schema ι) (type : FieldType ι) : List Value → List JsValue
  | [] => []
  | element :: elements => valueToJs schema type element :: elementsToJs schema type elements

end

/-- `Parse`. -/
def Schema.parse (schema : Schema ι) (type : ι) (message : Value) : JsValue :=
  valueToJs schema (.message type) message

/-! ### From objects to messages -/

/-- The conversion of a double to an integer type, none where C++ does not define it. -/
def IntType.ofDouble (type : IntType) (value : Int) : Option Int :=
  if type.InRange value then some value else none

/-- An enumeration in `ToProto`. The name is read after `ToCString` has released it. -/
def enumToProto (v8 : V8) (freed : FreedMemory) (descriptor : EnumDescriptor) :
    JsValue → Option Int
  | .number value =>
      let number := value.bmod (2 ^ 32)
      if descriptor.Member number then some number else none
  | value => descriptor.findValueByName (freed [] (v8.asciiValue value))

/-- `ToProto` of a value that is no object of a message, none where it fails. -/
def scalarToProto (v8 : V8) (freed : FreedMemory) : FieldType ι → JsValue → Option Value
  | .message _, _ => none
  | .string, value => some (.string (v8.asciiValue value))
  | .int type, value => do return .int (← type.ofDouble (← v8.numberValue value))
  | .bool, value => some (.bool (booleanValue value))
  | .enum descriptor, value => (enumToProto v8 freed descriptor value).map .enum

mutual

/-- `ToProto` of one value. Another object has none of the properties of the type. -/
def valueToProto (schema : Schema ι) (v8 : V8) (freed : FreedMemory) :
    FieldType ι → JsValue → Option Value
  | .message type, .object properties => do
      return .message (← fieldsToProto schema v8 freed 0 (schema.fields type) properties)
  | .message type, .array _ => some (.message ((schema.fields type).map fun _ => []))
  | type, value => scalarToProto v8 freed type value

/-- `ToProto` of an object: the loop over the fields. -/
def fieldsToProto (schema : Schema ι) (v8 : V8) (freed : FreedMemory) (position : Nat) :
    List (Field ι) → List JsValue → Option (List (List Value))
  | _ :: fields, .undefined :: properties => do
      return [] :: (← fieldsToProto schema v8 freed (position + 1) fields properties)
  | field :: fields, .array elements :: properties => do
      let values ←
        if field.isRepeated then elementsToProto schema v8 freed position 0 field.type elements
        else do
          let value ← valueToProto schema v8 (freed.below position 0) field.type (.array elements)
          some [value]
      return values :: (← fieldsToProto schema v8 freed (position + 1) fields properties)
  | field :: fields, property :: properties => do
      let value ← valueToProto schema v8 (freed.below position 0) field.type property
      return [value] :: (← fieldsToProto schema v8 freed (position + 1) fields properties)
  | [], _ => some []
  | fields, [] => some (fields.map fun _ => [])

def elementsToProto (schema : Schema ι) (v8 : V8) (freed : FreedMemory) (position index : Nat)
    (type : FieldType ι) : List JsValue → Option (List Value)
  | [] => some []
  | element :: elements => do
      let value ← valueToProto schema v8 (freed.below position index) type element
      return value :: (← elementsToProto schema v8 freed position (index + 1) type elements)

end

/-- `Serialize`, none where it gives no buffer. -/
def Schema.serialize (schema : Schema ι) (v8 : V8) (freed : FreedMemory) (type : ι)
    (object : JsValue) : Option Value :=
  valueToProto schema v8 freed (.message type) object

end RildHisi.MockRil
