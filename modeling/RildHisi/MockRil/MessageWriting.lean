import RildHisi.MockRil.GeneratedClasses

/-!
Owns the messages that the generated classes write so that they can be read: values of the
types of their fields, unknown fields that no field of the class takes, and no more levels
than the stream allows. What is written is as long as it was measured.
-/

namespace RildHisi.MockRil.Generated

open RildHisi.Library

variable {ι : Type} (stream : CodedStream) (classes : Classes ι)

/-! ### What fits -/

def ScalarFits {υ : Type} : FieldType ι → Proto υ → Prop
  | .string, .string _ => True
  | .int type, .number value => (Primitive.int type).InRange value
  | .bool, .number value => Primitive.bool.InRange value
  | .enum descriptor, .number value => descriptor.Member value ∧ Primitive.enum.InRange value
  | _, _ => False

/-- The switch takes the tag for no field. -/
def Skips (fields : List (Field ι)) (tag : ℕ) : Prop :=
  tagWireType tag ≠ wireTypeEndGroup ∧
    ∀ position field, findField fields (tagFieldNumber tag) = some (position, field) →
      tagWireType tag ≠ wireType field.type ∧
        (packedType field = none ∨ tagWireType tag ≠ wireTypeLengthDelimited)

/-- Where a field that the message does not know comes from: it was skipped, or it is a number
that an enumeration does not have. -/
inductive UnknownFits (depth : ℕ) (fields : List (Field ι)) : stream.Unknown → Prop
  | skipped (unknown : stream.Unknown) (readable : stream.Readable depth unknown)
      (positive : 0 < stream.unknownTag unknown) (small : stream.unknownTag unknown < 2 ^ 32)
      (skips : Skips fields (stream.unknownTag unknown)) : UnknownFits depth fields unknown
  | refused (position : ℕ) (field : Field ι) (descriptor : EnumDescriptor) (value : Int)
      (present : fields[position]? = some field) (isEnum : field.type = .enum descriptor)
      (inRange : Primitive.enum.InRange value) (stranger : ¬ descriptor.Member value) :
      UnknownFits depth fields (stream.varintField (position + 1) value)

mutual

/-- A message of the class, with so many levels. -/
def MessageFits : ℕ → ι → Proto stream.Unknown → Prop
  | depth + 1, type, .message fields unknown =>
      FieldsFit depth (classes.fields type) fields ∧
        ∀ field ∈ unknown, UnknownFits stream depth (classes.fields type) field
  | _, _, _ => False

def FieldsFit (depth : ℕ) : List (Field ι) → List (List (Proto stream.Unknown)) → Prop
  | [], [] => True
  | field :: fields, elements :: rest =>
      (field.isRepeated = false → elements.length ≤ 1) ∧
        ElementsFit depth field.type elements ∧ FieldsFit depth fields rest
  | _, _ => False

def ElementsFit (depth : ℕ) : FieldType ι → List (Proto stream.Unknown) → Prop
  | _, [] => True
  | .message type, value :: values =>
      MessageFits depth type value ∧ ElementsFit depth (.message type) values
  | type, value :: values => ScalarFits type value ∧ ElementsFit depth type values

end

variable {stream classes}

theorem messageFits_iff {depth : ℕ} {type : ι} {value : Proto stream.Unknown} :
    MessageFits stream classes depth type value ↔
      ∃ levels fields unknown, depth = levels + 1 ∧ value = .message fields unknown ∧
        FieldsFit stream classes levels (classes.fields type) fields ∧
        ∀ field ∈ unknown, UnknownFits stream levels (classes.fields type) field := by
  constructor
  · intro fits
    cases depth with
    | zero => cases value <;> cases fits
    | succ depth =>
        cases value with
        | message fields unknown => exact ⟨depth, fields, unknown, rfl, rfl, fits.1, fits.2⟩
        | string bytes => cases fits
        | number value => cases fits
  · rintro ⟨levels, fields, unknown, rfl, rfl, fit⟩
    exact fit

/-- Every header fits. -/
theorem headerProto_fits (stream : CodedStream) (depth : ℕ) (header : MsgHeader) :
    MessageFits stream headerClasses (depth + 1) () (headerProto header) := by
  have word (value : BitVec 32) : IntType.uint32.InRange value.toNat :=
    ⟨Int.natCast_nonneg _, by exact_mod_cast value.isLt⟩
  have token : IntType.uint64.InRange header.token.toNat :=
    ⟨Int.natCast_nonneg _, by exact_mod_cast header.token.isLt⟩
  have one : false = false → 1 ≤ 1 := fun _ => Nat.le_refl 1
  refine ⟨⟨one, ⟨word _, trivial⟩, one, ⟨word _, trivial⟩, one, ⟨word _, trivial⟩, one,
    ⟨token, trivial⟩, trivial⟩, ?_⟩
  intro field member
  cases member

/-! ### One element -/

def ValueFits (stream : CodedStream) (classes : Classes ι) (depth : ℕ) :
    FieldType ι → Proto stream.Unknown → Prop
  | .message type, value => MessageFits stream classes depth type value
  | type, value => ScalarFits type value

def valueSize (stream : CodedStream) (classes : Classes ι) :
    FieldType ι → Proto stream.Unknown → ℕ
  | .message type, value =>
      stream.lengthSize (byteSize stream classes type value) + byteSize stream classes type value
  | type, value => scalarSize stream type value

/-- What is written of an element behind its tag. -/
def valueBytes (stream : CodedStream) (classes : Classes ι) :
    FieldType ι → Proto stream.Unknown → List UInt8
  | .message type, value =>
      stream.writeLength (byteSize stream classes type value) ++
        messageBytes stream classes type value
  | type, value => scalarBytes stream type value

section

variable (type : FieldType ι) (value : Proto stream.Unknown) (values : List (Proto stream.Unknown))

theorem elementsFit_cons (depth : ℕ) :
    ElementsFit stream classes depth type (value :: values) ↔
      ValueFits stream classes depth type value ∧ ElementsFit stream classes depth type values := by
  cases type <;> exact Iff.rfl

theorem elementsSize_cons : elementsSize stream classes type (value :: values) =
    1 + valueSize stream classes type value + elementsSize stream classes type values := by
  cases type <;> rfl

theorem elementsBytes_cons (tag : ℕ) : elementsBytes stream classes tag type (value :: values) =
    stream.writeTag tag ++ (valueBytes stream classes type value ++
      elementsBytes stream classes tag type values) := by
  cases type with
  | message type => simp only [elementsBytes, valueBytes, List.append_assoc]
  | string => rfl
  | int type => rfl
  | bool => rfl
  | enum descriptor => rfl

end

/-! ### Sizes -/

theorem scalarBytes_length {type : FieldType ι} {value : Proto stream.Unknown}
    (fits : ScalarFits type value) (small : (scalarBytes stream type value).length < 2 ^ 31) :
    (scalarBytes stream type value).length = scalarSize stream type value := by
  cases type <;> cases value <;> first | exact fits.elim | skip
  case string.string bytes =>
    rw [scalarBytes, List.length_append] at small
    rw [scalarBytes, scalarSize, List.length_append, stream.writeLength_length _ (by omega)]
  case int.number type value => exact stream.writePrimitive_length _ _ fits
  case bool.number value =>
    have inRange : Primitive.bool.InRange value := fits
    rw [scalarBytes, stream.writePrimitive_length _ _ inRange, stream.primitiveSize_bool]
    rfl
  case enum.number descriptor value => exact stream.writePrimitive_length _ _ fits.2

theorem unknownBytes_length (unknown : List stream.Unknown) :
    (unknownBytes stream unknown).length = (unknown.map stream.unknownSize).sum := by
  induction unknown with
  | nil => rfl
  | cons field unknown inductionHypothesis =>
      rw [unknownBytes, List.flatMap_cons, List.length_append, List.map_cons, List.sum_cons,
        stream.writeUnknown_length]
      exact congrArg _ inductionHypothesis

/-- The tags of a class are written in one byte. -/
theorem fieldTag_lt {position : ℕ} (below : position < 15) (field : Field ι) :
    fieldTag position field < 128 := by
  unfold fieldTag makeTag
  cases field.type <;> simp [wireType, wireTypeVarint, wireTypeLengthDelimited] <;> omega

section

variable {depth : ℕ}
  (sized : ∀ type value, MessageFits stream classes depth type value →
    (messageBytes stream classes type value).length < 2 ^ 31 →
      (messageBytes stream classes type value).length = byteSize stream classes type value)

include sized

theorem valueBytes_length {type : FieldType ι} {value : Proto stream.Unknown}
    (fits : ValueFits stream classes depth type value)
    (small : (valueBytes stream classes type value).length < 2 ^ 31) :
    (valueBytes stream classes type value).length = valueSize stream classes type value := by
  cases type with
  | message type =>
      rw [valueBytes, List.length_append] at small
      have size := sized type value fits (by omega)
      have lengthSize := stream.writeLength_length (byteSize stream classes type value) (by omega)
      rw [valueBytes, valueSize, List.length_append, size, lengthSize]
  | string => exact scalarBytes_length fits small
  | int type => exact scalarBytes_length fits small
  | bool => exact scalarBytes_length fits small
  | enum descriptor => exact scalarBytes_length fits small

theorem elementsBytes_length {tag : ℕ} (oneByte : tag < 128) {type : FieldType ι}
    {values : List (Proto stream.Unknown)} (fit : ElementsFit stream classes depth type values)
    (small : (elementsBytes stream classes tag type values).length < 2 ^ 31) :
    (elementsBytes stream classes tag type values).length =
      elementsSize stream classes type values := by
  induction values with
  | nil => rw [elementsBytes, elementsSize, List.length_nil]
  | cons value values inductionHypothesis =>
      obtain ⟨first, others⟩ := (elementsFit_cons type value values depth).mp fit
      rw [elementsBytes_cons, List.length_append, List.length_append] at small
      rw [elementsBytes_cons, elementsSize_cons, List.length_append, List.length_append,
        stream.writeTag_length tag oneByte, valueBytes_length sized first (by omega),
        inductionHypothesis others (by omega), Nat.add_assoc]

theorem fieldsBytes_length {position : ℕ} {fields : List (Field ι)}
    (below : position + fields.length ≤ 15) {values : List (List (Proto stream.Unknown))}
    (fit : FieldsFit stream classes depth fields values)
    (small : (fieldsBytes stream classes position fields values).length < 2 ^ 31) :
    (fieldsBytes stream classes position fields values).length =
      fieldsSize stream classes fields values := by
  induction fields generalizing position values with
  | nil => rw [fieldsBytes, fieldsSize, List.length_nil] <;> simp
  | cons field fields inductionHypothesis =>
      rw [List.length_cons] at below
      cases values with
      | nil => exact fit.elim
      | cons elements rest =>
          rw [fieldsBytes, List.length_append] at small
          rw [fieldsBytes, fieldsSize, List.length_append,
            elementsBytes_length sized (fieldTag_lt (by omega) field) fit.2.1 (by omega),
            inductionHypothesis (by omega) fit.2.2 (by omega)]

end

/-- **What is written is as long as it was measured**, at every level. -/
theorem messageBytes_length (depth : ℕ) (type : ι) (value : Proto stream.Unknown)
    (fits : MessageFits stream classes depth type value)
    (small : (messageBytes stream classes type value).length < 2 ^ 31) :
    (messageBytes stream classes type value).length = byteSize stream classes type value := by
  induction depth generalizing type value with
  | zero => exact (messageFits_iff.mp fits).elim fun levels rest => by simp at rest
  | succ depth inductionHypothesis =>
      obtain ⟨levels, fields, unknown, same, rfl, fieldsFit, -⟩ := messageFits_iff.mp fits
      obtain rfl := Nat.succ.inj same
      have below : 0 + (classes.fields type).length ≤ 15 := by
        rw [Nat.zero_add]
        exact classes.fields_length type
      rw [messageBytes, List.length_append] at small
      rw [messageBytes, byteSize, List.length_append, unknownBytes_length,
        fieldsBytes_length inductionHypothesis below fieldsFit (by omega)]

end RildHisi.MockRil.Generated
