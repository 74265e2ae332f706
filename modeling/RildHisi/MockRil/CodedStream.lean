import RildHisi.MockRil.MsgHeader
import RildHisi.MockRil.ProtobufV8

/-!
Owns what the generated message classes call of the protobuf library, which is not in this
repository: the operations on coded streams, with what their documentation promises, and
the lookahead of `ExpectTag` and `ExpectAtEnd`, which may say no at any time. `wireStream`
is the wire format, which keeps the promises.

Left out is the documented limit on the total bytes of an input, 64 MB unless it is set: what
a stream answers depends on the bytes that are left, and lookahead on the tag as well.
-/

namespace RildHisi.MockRil.Generated

/-- The types of `ReadPrimitive`. -/
inductive Primitive
  | int (type : IntType)
  | bool
  | enum
  deriving DecidableEq

def Primitive.InRange : Primitive → Int → Prop
  | int type, value => type.InRange value
  | bool, value => value = 0 ∨ value = 1
  | enum, value => IntType.int32.InRange value

instance (primitive : Primitive) (value : Int) : Decidable (primitive.InRange value) := by
  cases primitive <;> unfold Primitive.InRange <;> infer_instance

/-! ### Tags -/

/-- `GetTagFieldNumber`. -/
def tagFieldNumber (tag : ℕ) : ℕ := tag / 8

/-- `GetTagWireType`. -/
def tagWireType (tag : ℕ) : ℕ := tag % 8

def makeTag (number wireType : ℕ) : ℕ := number * 8 + wireType

def wireTypeVarint : ℕ := 0

def wireTypeFixed64 : ℕ := 1

def wireTypeLengthDelimited : ℕ := 2

def wireTypeEndGroup : ℕ := 4

def wireTypeFixed32 : ℕ := 5

theorem tagFieldNumber_makeTag (number : ℕ) {wireType : ℕ} (small : wireType < 8) :
    tagFieldNumber (makeTag number wireType) = number := by
  unfold tagFieldNumber makeTag
  omega

theorem tagWireType_makeTag (number : ℕ) {wireType : ℕ} (small : wireType < 8) :
    tagWireType (makeTag number wireType) = wireType := by
  unfold tagWireType makeTag
  omega

/-! ### Streams -/

/-- `CodedInputStream`, `CodedOutputStream`, `WireFormatLite` and `WireFormat`. The input is
the bytes up to the limit; a reader brings what it read and the bytes behind it. -/
structure CodedStream where
  /-- `UnknownField`. -/
  Unknown : Type
  readTag : List UInt8 → ℕ × List UInt8
  readPrimitive : Primitive → List UInt8 → Option (Int × List UInt8)
  readLengthDelimited : List UInt8 → Option (List UInt8 × List UInt8)
  /-- With so many levels of messages and groups left. -/
  skipField : ℕ → ℕ → List UInt8 → Option (Unknown × List UInt8)
  recursionLimit : ℕ
  writeTag : ℕ → List UInt8
  writePrimitive : Primitive → Int → List UInt8
  writeLength : ℕ → List UInt8
  primitiveSize : Primitive → Int → ℕ
  lengthSize : ℕ → ℕ
  unknownTag : Unknown → ℕ
  /-- What is written behind the tag. -/
  writeUnknown : Unknown → List UInt8
  unknownSize : Unknown → ℕ
  /-- What `AddVarint` adds. -/
  varintField : ℕ → Int → Unknown
  /-- The field is below the limits with so many levels left. -/
  Readable : ℕ → Unknown → Prop
  readTag_nil : readTag [] = (0, [])
  readTag_write : ∀ tag rest, 0 < tag → tag < 2 ^ 32 → readTag (writeTag tag ++ rest) = (tag, rest)
  readTag_lt : ∀ bytes, (readTag bytes).1 < 2 ^ 32
  readTag_shorter : ∀ bytes, (readTag bytes).1 ≠ 0 → (readTag bytes).2.length < bytes.length
  writeTag_length : ∀ tag, tag < 128 → (writeTag tag).length = 1
  readPrimitive_write : ∀ primitive value rest, primitive.InRange value →
    readPrimitive primitive (writePrimitive primitive value ++ rest) = some (value, rest)
  readPrimitive_inRange : ∀ primitive bytes value rest,
    readPrimitive primitive bytes = some (value, rest) → primitive.InRange value
  readPrimitive_shorter : ∀ primitive bytes value rest,
    readPrimitive primitive bytes = some (value, rest) → rest.length < bytes.length
  writePrimitive_length : ∀ primitive value, primitive.InRange value →
    (writePrimitive primitive value).length = primitiveSize primitive value
  primitiveSize_bool : ∀ value, primitiveSize .bool value = 1
  readLengthDelimited_write : ∀ payload rest, payload.length < 2 ^ 31 →
    readLengthDelimited (writeLength payload.length ++ (payload ++ rest)) = some (payload, rest)
  readLengthDelimited_shorter : ∀ bytes payload rest,
    readLengthDelimited bytes = some (payload, rest) → rest.length < bytes.length
  writeLength_length : ∀ length, length < 2 ^ 31 → (writeLength length).length = lengthSize length
  skipField_write : ∀ depth unknown rest, Readable depth unknown →
    skipField depth (unknownTag unknown) (writeUnknown unknown ++ rest) = some (unknown, rest)
  skipField_readable : ∀ depth tag bytes unknown rest,
    skipField depth tag bytes = some (unknown, rest) →
      unknownTag unknown = tag ∧ Readable depth unknown
  skipField_shorter : ∀ depth tag bytes unknown rest,
    skipField depth tag bytes = some (unknown, rest) → rest.length ≤ bytes.length
  writeUnknown_length : ∀ unknown,
    (writeTag (unknownTag unknown) ++ writeUnknown unknown).length = unknownSize unknown
  varintField_tag : ∀ number value,
    unknownTag (varintField number value) = makeTag number wireTypeVarint
  readPrimitive_varintField : ∀ number value rest, Primitive.enum.InRange value →
    readPrimitive .enum (writeUnknown (varintField number value) ++ rest) = some (value, rest)

/-- `ExpectTag` and `ExpectAtEnd`: where they say yes, `ReadTag` would give the tag, and no
bytes are left. -/
structure Lookahead (stream : CodedStream) where
  expectTag : ℕ → List UInt8 → Option (List UInt8)
  expectAtEnd : List UInt8 → Bool
  expectTag_sound : ∀ tag bytes rest,
    expectTag tag bytes = some rest → stream.readTag bytes = (tag, rest)
  expectAtEnd_sound : ∀ bytes, expectAtEnd bytes = true → bytes = []

/-- They always say no. -/
def Lookahead.never (stream : CodedStream) : Lookahead stream where
  expectTag _ _ := none
  expectAtEnd _ := false
  expectTag_sound _ _ _ := by simp
  expectAtEnd_sound _ := by simp

end RildHisi.MockRil.Generated
