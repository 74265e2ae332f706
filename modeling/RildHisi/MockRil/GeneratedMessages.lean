import RildHisi.Library.ReadLoop
import RildHisi.MockRil.CodedStream
import RildHisi.MockRil.RilSchema

/-!
Owns the classes that protoc generated for ril.proto, ctrl.proto and msgheader.proto: how a
message is read, written, measured and merged. The classes differ in their fields alone, so
each function is one definition over the fields of a class. Cached sizes and the diagnostics
of `VerifyUTF8String` are left out, and `ReadRepeatedPrimitive` reads one element a call.
-/

namespace RildHisi.MockRil.Generated

open RildHisi.Library

variable {ι : Type}

/-- The classes of a file. A field has the number behind its position, and at most 15 of
them keep each tag in one byte. -/
structure Classes (ι : Type) extends Schema ι where
  /-- The positions of the required fields. -/
  required : ι → List ℕ
  fields_length : ∀ type, (fields type).length ≤ 15
  /-- No field is of a class that has required ones. -/
  required_outermost : ∀ type, ∀ field ∈ fields type, ∀ type', field.type = .message type' →
    required type' = []

/-- The elements of each field and the unknown fields of a message, and other values: the
bytes of a string, and the number that an integer, a Boolean or an enumeration is. -/
inductive Proto (υ : Type)
  | message (fields : List (List (Proto υ))) (unknown : List υ)
  | string (bytes : List UInt8)
  | number (value : Int)

/-- The elements of a field with one more, or with another in its place. -/
def withElement {υ : Type} (isRepeated : Bool) (elements : List (Proto υ)) (value : Proto υ) :
    List (Proto υ) :=
  if isRepeated then elements ++ [value] else [value]

/-- The members of a message object. -/
structure Contents (υ : Type) where
  fields : List (List (Proto υ))
  unknown : List υ

namespace Contents

variable {υ : Type}

def toProto (contents : Contents υ) : Proto υ := .message contents.fields contents.unknown

def ofProto : Proto υ → Contents υ
  | .message fields unknown => ⟨fields, unknown⟩
  | .string _ => ⟨[], []⟩
  | .number _ => ⟨[], []⟩

/-- The elements of the field at a position. -/
def elements (contents : Contents υ) (position : ℕ) : List (Proto υ) :=
  contents.fields.getD position []

/-- `set_x` and `add_x`. -/
def store (contents : Contents υ) (position : ℕ) (isRepeated : Bool) (value : Proto υ) :
    Contents υ :=
  { contents with
    fields := contents.fields.modify position fun elements =>
      withElement isRepeated elements value }

/-- `mutable_unknown_fields()`, to which a field is added. -/
def addUnknown (contents : Contents υ) (unknown : υ) : Contents υ :=
  { contents with unknown := contents.unknown ++ [unknown] }

end Contents

/-- `default_instance()`. -/
def Classes.defaultInstance {υ : Type} (classes : Classes ι) (type : ι) : Proto υ :=
  .message ((classes.fields type).map fun _ => []) []

def wireType : FieldType ι → ℕ
  | .message _ => wireTypeLengthDelimited
  | .string => wireTypeLengthDelimited
  | .int _ => wireTypeVarint
  | .bool => wireTypeVarint
  | .enum _ => wireTypeVarint

/-- The tag of the field at a position. -/
def fieldTag (position : ℕ) (field : Field ι) : ℕ := makeTag (position + 1) (wireType field.type)

/-- The field that the switch finds for a number, with its position. -/
def findField (fields : List (Field ι)) : ℕ → Option (ℕ × Field ι)
  | 0 => none
  | position + 1 => (fields[position]?).map fun field => (position, field)

section

variable (stream : CodedStream) (lookahead : Lookahead stream) (classes : Classes ι)

/-! ### Reading -/

/-- How `MergePartialFromCodedStream` of a class reads one of its messages. -/
abbrev MessageReader (ι : Type) : Type :=
  ι → Proto stream.Unknown → List UInt8 → Option (Proto stream.Unknown × List UInt8)

/-- A value of a type. A message is read into the one that is there, if any. -/
def readValue (readMessage : MessageReader stream ι) (type : FieldType ι)
    (current : Option (Proto stream.Unknown)) (bytes : List UInt8) :
    Option (Proto stream.Unknown × List UInt8) :=
  match type with
  | .message type => readMessage type (current.getD (classes.defaultInstance type)) bytes
  | .string => (stream.readLengthDelimited bytes).map fun read => (.string read.1, read.2)
  | .int type => (stream.readPrimitive (.int type) bytes).map fun read => (.number read.1, read.2)
  | .bool => (stream.readPrimitive .bool bytes).map fun read => (.number read.1, read.2)
  | .enum _ => (stream.readPrimitive .enum bytes).map fun read => (.number read.1, read.2)

/-- What `mutable_x` gives where the field is set. `add_x` gives something new. -/
def currentElement {υ : Type} (field : Field ι) (elements : List (Proto υ)) : Option (Proto υ) :=
  if field.isRepeated then none else elements.head?

/-- The number that `IsValid` of an enumeration refuses. -/
def refusedNumber {υ : Type} : FieldType ι → Proto υ → Option Int
  | .enum descriptor, .number value => if descriptor.Member value then none else some value
  | _, _ => none

/-- What is behind the label of a field. -/
def readField (readMessage : MessageReader stream ι) (position : ℕ) (field : Field ι)
    (contents : Contents stream.Unknown) (bytes : List UInt8) :
    Option (Contents stream.Unknown × List UInt8) := do
  let current := currentElement field (contents.elements position)
  let (value, rest) ← readValue stream classes readMessage field.type current bytes
  match refusedNumber field.type value with
  | none => some (contents.store position field.isRepeated value, rest)
  | some number => some (contents.addUnknown (stream.varintField (position + 1) number), rest)

/-- The type of a repeated field that may come packed. -/
def packedType (field : Field ι) : Option IntType :=
  match field.type with
  | .int type => if field.isRepeated then some type else none
  | _ => none

/-- `ReadPackedPrimitive`, inside the limit. -/
def packedTurn (type : IntType) (position : ℕ) (contents : Contents stream.Unknown)
    (bytes : List UInt8) :
    Option (ReadTurn (Contents stream.Unknown) UInt8 (Contents stream.Unknown)) :=
  if bytes = [] then some (.ends contents)
  else do
    let (value, rest) ← stream.readPrimitive (.int type) bytes
    some (.goesOn (contents.store position true (.number value)) rest)

def readPacked (type : IntType) (position : ℕ) (contents : Contents stream.Unknown)
    (bytes : List UInt8) : Option (Contents stream.Unknown × List UInt8) := do
  let (payload, rest) ← stream.readLengthDelimited bytes
  let contents ← readLoop (packedTurn stream type position) contents payload
  some (contents, rest)

/-- The message, and whether `ConsumedEntireMessage`. -/
abbrev Merged : Type := Contents stream.Unknown × Bool

/-- The members, and the label that the loop has jumped to. -/
abbrev LoopState (ι : Type) : Type := Contents stream.Unknown × Option (ℕ × Field ι)

/-- What a turn of the loop comes to. -/
abbrev LoopTurn (ι : Type) : Type := ReadTurn (LoopState stream ι) UInt8 (Merged stream)

/-- The labels that the case of a field may jump to: its own if it is repeated, and the one
of the next field. -/
def labels (fields : List (Field ι)) (position : ℕ) (field : Field ι) : List (ℕ × Field ι) :=
  (if field.isRepeated then [(position, field)] else []) ++
    ((fields[position + 1]?).map fun next => (position + 1, next)).toList

/-- The end of a case: `if (input->ExpectTag(tag)) goto label`, and behind the last field
`if (input->ExpectAtEnd()) return true`. -/
def afterField {stream : CodedStream} (lookahead : Lookahead stream) (fields : List (Field ι))
    (position : ℕ) (field : Field ι) (contents : Contents stream.Unknown) (bytes : List UInt8) :
    LoopTurn stream ι :=
  let jumps := (labels fields position field).findSome? fun label =>
    (lookahead.expectTag (fieldTag label.1 label.2) bytes).map fun rest => (label, rest)
  match jumps with
  | some (label, rest) => .goesOn (contents, some label) rest
  | none =>
      if position + 1 = fields.length ∧ lookahead.expectAtEnd bytes = true then
        .ends (contents, true)
      else .goesOn (contents, none) bytes

/-- `handle_uninterpreted`. -/
def handleUninterpreted (depth : ℕ) (contents : Contents stream.Unknown) (tag : ℕ)
    (bytes : List UInt8) : Option (LoopTurn stream ι) :=
  if tagWireType tag = wireTypeEndGroup then some (.ends (contents, false))
  else do
    let (unknown, rest) ← stream.skipField depth tag bytes
    some (.goesOn (contents.addUnknown unknown, none) rest)

/-- The switch over the number of a field. -/
def switchField {stream : CodedStream} (lookahead : Lookahead stream) (classes : Classes ι)
    (depth : ℕ) (readMessage : MessageReader stream ι) (fields : List (Field ι))
    (contents : Contents stream.Unknown) (tag : ℕ) (bytes : List UInt8) :
    Option (LoopTurn stream ι) :=
  match findField fields (tagFieldNumber tag) with
  | none => handleUninterpreted stream depth contents tag bytes
  | some (position, field) =>
      if tagWireType tag = wireType field.type then do
        let (contents, rest) ← readField stream classes readMessage position field contents bytes
        some (afterField lookahead fields position field contents rest)
      else
        match packedType field with
        | none => handleUninterpreted stream depth contents tag bytes
        | some type =>
            if tagWireType tag = wireTypeLengthDelimited then do
              let (contents, rest) ← readPacked stream type position contents bytes
              some (afterField lookahead fields position field contents rest)
            else handleUninterpreted stream depth contents tag bytes

/-- A turn of the loop over the tags. Behind a jump it starts at the label. -/
def mergeTurn {stream : CodedStream} (lookahead : Lookahead stream) (classes : Classes ι)
    (depth : ℕ) (readMessage : MessageReader stream ι) (fields : List (Field ι)) :
    LoopState stream ι → List UInt8 → Option (LoopTurn stream ι)
  | (contents, some (position, field)), bytes => do
      let (contents, rest) ← readField stream classes readMessage position field contents bytes
      some (afterField lookahead fields position field contents rest)
  | (contents, none), bytes =>
      let (tag, rest) := stream.readTag bytes
      if tag = 0 then some (.ends (contents, bytes = []))
      else switchField lookahead classes depth readMessage fields contents tag rest

/-- `ReadMessageNoVirtual`, given how the message itself is read. -/
def readMessageNoVirtual
    (merge : ι → Proto stream.Unknown → List UInt8 → Option (Merged stream)) :
    MessageReader stream ι :=
  fun type into bytes => do
    let (payload, rest) ← stream.readLengthDelimited bytes
    let (contents, consumed) ← merge type into payload
    if consumed then some (contents.toProto, rest) else none

/-- `MergePartialFromCodedStream` with so many levels left, none where it returns false. -/
def mergePartialFromCodedStream {stream : CodedStream} (lookahead : Lookahead stream)
    (classes : Classes ι) : ℕ → ι → Proto stream.Unknown → List UInt8 → Option (Merged stream)
  | 0, _, _, _ => none
  | depth + 1, type, into, bytes =>
      let merge := mergePartialFromCodedStream lookahead classes depth
      readLoop (mergeTurn lookahead classes depth (readMessageNoVirtual stream merge)
        (classes.fields type)) (Contents.ofProto into, none) bytes

/-- `IsInitialized`. -/
def isInitialized {υ : Type} (classes : Classes ι) (type : ι) (contents : Contents υ) : Bool :=
  (classes.required type).all fun position => contents.elements position ≠ []

/-- `ParseFromArray`, none where it returns false. -/
def parseFromArray {stream : CodedStream} (lookahead : Lookahead stream) (classes : Classes ι)
    (type : ι) (bytes : List UInt8) : Option (Proto stream.Unknown) := do
  let (contents, consumed) ← mergePartialFromCodedStream lookahead classes
    (stream.recursionLimit + 1) type (classes.defaultInstance type) bytes
  if consumed ∧ isInitialized classes type contents then some contents.toProto else none

/-! ### Measuring and writing -/

/-- The size of a value that is no message. -/
def scalarSize : FieldType ι → Proto stream.Unknown → ℕ
  | .string, .string bytes => stream.lengthSize bytes.length + bytes.length
  | .int type, .number value => stream.primitiveSize (.int type) value
  | .bool, .number _ => 1
  | .enum _, .number value => stream.primitiveSize .enum value
  | _, _ => 0

def scalarBytes : FieldType ι → Proto stream.Unknown → List UInt8
  | .string, .string bytes => stream.writeLength bytes.length ++ bytes
  | .int type, .number value => stream.writePrimitive (.int type) value
  | .bool, .number value => stream.writePrimitive .bool value
  | .enum _, .number value => stream.writePrimitive .enum value
  | _, _ => []

mutual

/-- `ByteSize`. -/
def byteSize : ι → Proto stream.Unknown → ℕ
  | type, .message fields unknown =>
      fieldsSize (classes.fields type) fields + (unknown.map stream.unknownSize).sum
  | _, _ => 0

def fieldsSize : List (Field ι) → List (List (Proto stream.Unknown)) → ℕ
  | field :: fields, elements :: rest => elementsSize field.type elements + fieldsSize fields rest
  | _, _ => 0

/-- Each element behind a tag of one byte. -/
def elementsSize : FieldType ι → List (Proto stream.Unknown) → ℕ
  | _, [] => 0
  | .message type, value :: values =>
      let size := byteSize type value
      1 + (stream.lengthSize size + size) + elementsSize (.message type) values
  | type, value :: values => 1 + scalarSize stream type value + elementsSize type values

end

def unknownBytes (unknown : List stream.Unknown) : List UInt8 :=
  unknown.flatMap fun field =>
    stream.writeTag (stream.unknownTag field) ++ stream.writeUnknown field

mutual

/-- `SerializeWithCachedSizes`, behind `ByteSize`. -/
def messageBytes : ι → Proto stream.Unknown → List UInt8
  | type, .message fields unknown =>
      fieldsBytes 0 (classes.fields type) fields ++ unknownBytes stream unknown
  | _, _ => []

def fieldsBytes : ℕ → List (Field ι) → List (List (Proto stream.Unknown)) → List UInt8
  | position, field :: fields, elements :: rest =>
      elementsBytes (fieldTag position field) field.type elements ++
        fieldsBytes (position + 1) fields rest
  | _, _, _ => []

def elementsBytes (tag : ℕ) : FieldType ι → List (Proto stream.Unknown) → List UInt8
  | _, [] => []
  | .message type, value :: values =>
      stream.writeTag tag ++ (stream.writeLength (byteSize stream classes type value) ++
        (messageBytes type value ++ elementsBytes tag (.message type) values))
  | type, value :: values =>
      stream.writeTag tag ++ (scalarBytes stream type value ++ elementsBytes tag type values)

end

/-! ### Merging -/

mutual

/-- `MergeFrom`. -/
def mergeFrom {υ : Type} (classes : Classes ι) : ι → Proto υ → Proto υ → Proto υ
  | type, into, .message fields unknown =>
      let contents := Contents.ofProto into
      .message (mergeFields classes 0 (classes.fields type) fields contents.fields)
        (contents.unknown ++ unknown)
  | _, into, _ => into

/-- Field by field, from the position on. -/
def mergeFields {υ : Type} (classes : Classes ι) :
    ℕ → List (Field ι) → List (List (Proto υ)) → List (List (Proto υ)) → List (List (Proto υ))
  | position, field :: fields, elements :: rest, into =>
      mergeFields classes (position + 1) fields rest
        (into.modify position fun current => mergeElements classes field elements current)
  | _, _, _, into => into

def mergeElements {υ : Type} (classes : Classes ι) (field : Field ι) :
    List (Proto υ) → List (Proto υ) → List (Proto υ)
  | [], into => into
  | value :: values, into =>
      let merged :=
        match field.type with
        | .message type =>
            mergeFrom classes type
              ((currentElement field into).getD (classes.defaultInstance type)) value
        | _ => value
      mergeElements classes field values (withElement field.isRepeated into merged)

end

end

end RildHisi.MockRil.Generated
