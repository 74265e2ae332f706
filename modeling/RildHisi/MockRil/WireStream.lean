import RildHisi.MockRil.CodedStream

/-!
Owns `wireStream`, coded streams over the wire format: varints, fixed-width and
length-delimited values. Groups, which no class has, are not skipped.
-/

namespace RildHisi.MockRil.Generated

/-! ### Varints -/

theorem readVarint_shorter {size number : ℕ} {bytes rest : List UInt8}
    (came : readVarint size bytes = some (number, rest)) : rest.length < bytes.length := by
  induction size generalizing number bytes rest with
  | zero => cases came
  | succ size inductionHypothesis =>
      cases bytes with
      | nil => cases came
      | cons byte bytes =>
          rw [readVarint] at came
          split_ifs at came
          · obtain ⟨-, rfl⟩ := Prod.mk.inj (Option.some.inj came)
            exact Nat.lt_succ_self _
          · obtain ⟨high, taken, same⟩ := Option.map_eq_some_iff.mp came
            obtain ⟨-, rfl⟩ := Prod.mk.inj same
            exact Nat.lt_succ_of_lt (inductionHypothesis taken)

theorem readVarint_varint_of_lt (number : ℕ) (fits : number < 2 ^ 64) (rest : List UInt8) :
    readVarint 10 (varint 10 number ++ rest) = some (number, rest) :=
  readVarint_varint (lt_trans fits (by decide)) (by decide) rest

theorem varint_length_one {number : ℕ} (small : number < 128) : (varint 10 number).length = 1 := by
  rw [varint, if_pos small, List.length_singleton]

/-! ### Primitives -/

/-- The 64 bits of a number, which are extended from its sign. -/
def varintOf (value : Int) : ℕ := (value % 2 ^ 64).toNat

/-- The integer that is read from 64 bits. -/
def intOfVarint : IntType → ℕ → Int
  | .int32, bits => (bits : Int).bmod (2 ^ 32)
  | .uint32, bits => bits % 2 ^ 32
  | .int64, bits => (bits : Int).bmod (2 ^ 64)
  | .uint64, bits => bits % 2 ^ 64

def Primitive.ofVarint (primitive : Primitive) (bits : ℕ) : Int :=
  match primitive with
  | int type => intOfVarint type bits
  | bool => if bits % 2 ^ 32 = 0 then 0 else 1
  | enum => intOfVarint .int32 bits

theorem intOfVarint_int32 (bits : ℕ) : intOfVarint .int32 bits = (bits : Int).bmod (2 ^ 32) := rfl

theorem intOfVarint_int64 (bits : ℕ) : intOfVarint .int64 bits = (bits : Int).bmod (2 ^ 64) := rfl

theorem bmod_varintOf {value : Int} (inRange : IntType.int32.InRange value) :
    (varintOf value : Int).bmod (2 ^ 32) = value := by
  obtain ⟨low, high⟩ := inRange
  rw [Int.bmod_def]
  unfold varintOf
  omega

theorem inRange_bmod (bits : Int) : IntType.int32.InRange (bits.bmod (2 ^ 32)) := by
  show -2 ^ 31 ≤ bits.bmod (2 ^ 32) ∧ bits.bmod (2 ^ 32) < 2 ^ 31
  rw [Int.bmod_def]
  omega

theorem intOfVarint_varintOf {type : IntType} {value : Int} (inRange : type.InRange value) :
    intOfVarint type (varintOf value) = value := by
  cases type with
  | int32 =>
      rw [intOfVarint_int32]
      exact bmod_varintOf inRange
  | uint32 =>
      obtain ⟨low, high⟩ : 0 ≤ value ∧ value < 2 ^ 32 := inRange
      show (varintOf value : Int) % 2 ^ 32 = value
      unfold varintOf
      omega
  | int64 =>
      obtain ⟨low, high⟩ : -2 ^ 63 ≤ value ∧ value < 2 ^ 63 := inRange
      rw [intOfVarint_int64, Int.bmod_def]
      unfold varintOf
      omega
  | uint64 =>
      obtain ⟨low, high⟩ : 0 ≤ value ∧ value < 2 ^ 64 := inRange
      show (varintOf value : Int) % 2 ^ 64 = value
      unfold varintOf
      omega

theorem inRange_intOfVarint (type : IntType) (bits : ℕ) :
    type.InRange (intOfVarint type bits) := by
  cases type with
  | int32 =>
      rw [intOfVarint_int32]
      exact inRange_bmod bits
  | uint32 =>
      show 0 ≤ (bits : Int) % 2 ^ 32 ∧ (bits : Int) % 2 ^ 32 < 2 ^ 32
      omega
  | int64 =>
      rw [intOfVarint_int64, Int.bmod_def]
      simp only [IntType.InRange]
      omega
  | uint64 =>
      show 0 ≤ (bits : Int) % 2 ^ 64 ∧ (bits : Int) % 2 ^ 64 < 2 ^ 64
      omega

theorem ofVarint_varintOf {primitive : Primitive} {value : Int}
    (inRange : primitive.InRange value) : primitive.ofVarint (varintOf value) = value := by
  unfold Primitive.ofVarint
  cases primitive with
  | int type => exact intOfVarint_varintOf inRange
  | bool =>
      obtain rfl | rfl : value = 0 ∨ value = 1 := inRange
      · rfl
      · rfl
  | enum => exact intOfVarint_varintOf inRange

theorem inRange_ofVarint (primitive : Primitive) (bits : ℕ) :
    primitive.InRange (primitive.ofVarint bits) := by
  cases primitive with
  | int type => exact inRange_intOfVarint type bits
  | bool =>
      unfold Primitive.ofVarint
      split_ifs
      · exact Or.inl rfl
      · exact Or.inr rfl
  | enum => exact inRange_intOfVarint .int32 bits

theorem varintOf_lt (value : Int) : varintOf value < 2 ^ 64 := by
  unfold varintOf
  omega

def readWirePrimitive (primitive : Primitive) (bytes : List UInt8) :
    Option (Int × List UInt8) :=
  (readVarint 10 bytes).map fun read => (primitive.ofVarint read.1, read.2)

def writeWirePrimitive (_ : Primitive) (value : Int) : List UInt8 := varint 10 (varintOf value)

/-- A Boolean takes one byte. -/
def wirePrimitiveSize : Primitive → Int → ℕ
  | .bool, _ => 1
  | primitive, value => (writeWirePrimitive primitive value).length

theorem readWirePrimitive_write {primitive : Primitive} {value : Int}
    (inRange : primitive.InRange value) (rest : List UInt8) :
    readWirePrimitive primitive (writeWirePrimitive primitive value ++ rest) =
      some (value, rest) := by
  rw [readWirePrimitive, writeWirePrimitive, readVarint_varint_of_lt _ (varintOf_lt value),
    Option.map_some, ofVarint_varintOf inRange]

theorem readWirePrimitive_some {primitive : Primitive} {bytes rest : List UInt8} {value : Int}
    (came : readWirePrimitive primitive bytes = some (value, rest)) :
    primitive.InRange value ∧ rest.length < bytes.length := by
  obtain ⟨read, taken, same⟩ := Option.map_eq_some_iff.mp came
  obtain ⟨rfl, rfl⟩ := Prod.mk.inj same
  exact ⟨inRange_ofVarint primitive read.1, readVarint_shorter taken⟩

theorem writeWirePrimitive_length {primitive : Primitive} {value : Int}
    (inRange : primitive.InRange value) :
    (writeWirePrimitive primitive value).length = wirePrimitiveSize primitive value := by
  cases primitive with
  | int type => rfl
  | bool =>
      obtain rfl | rfl : value = 0 ∨ value = 1 := inRange
      · rfl
      · rfl
  | enum => rfl

/-! ### Length-delimited values -/

def readWireDelimited (bytes : List UInt8) : Option (List UInt8 × List UInt8) := do
  let (length, rest) ← readVarint 10 bytes
  let length := length % 2 ^ 32
  if length < 2 ^ 31 ∧ length ≤ rest.length then some (rest.take length, rest.drop length)
  else none

theorem readWireDelimited_write {payload : List UInt8} (small : payload.length < 2 ^ 31)
    (rest : List UInt8) :
    readWireDelimited (varint 10 payload.length ++ (payload ++ rest)) = some (payload, rest) := by
  have value : payload.length % 2 ^ 32 = payload.length := Nat.mod_eq_of_lt (by omega)
  rw [readWireDelimited, readVarint_varint_of_lt _ (by omega)]
  simp only [Option.bind_eq_bind, Option.bind_some, value, List.length_append]
  rw [if_pos ⟨small, Nat.le_add_right _ _⟩, List.take_left, List.drop_left]

theorem readWireDelimited_some {bytes payload rest : List UInt8}
    (came : readWireDelimited bytes = some (payload, rest)) :
    payload.length < 2 ^ 31 ∧ rest.length < bytes.length := by
  simp only [readWireDelimited, Option.bind_eq_bind, Option.bind_eq_some_iff, Prod.exists] at came
  obtain ⟨length, behind, taken, came⟩ := came
  have shorter := readVarint_shorter taken
  split_ifs at came with fits
  obtain ⟨rfl, rfl⟩ := Prod.mk.inj (Option.some.inj came)
  rw [List.length_take, List.length_drop]
  omega

/-! ### Unknown fields -/

/-- A field of a number that is not known. -/
inductive WireField
  | varint (number value : ℕ)
  | fixed64 (number : ℕ) (bytes : List UInt8)
  | lengthDelimited (number : ℕ) (bytes : List UInt8)
  | fixed32 (number : ℕ) (bytes : List UInt8)

namespace WireField

def tag : WireField → ℕ
  | varint number _ => makeTag number wireTypeVarint
  | fixed64 number _ => makeTag number wireTypeFixed64
  | lengthDelimited number _ => makeTag number wireTypeLengthDelimited
  | fixed32 number _ => makeTag number wireTypeFixed32

def bytes : WireField → List UInt8
  | varint _ value => RildHisi.MockRil.varint 10 value
  | fixed64 _ bytes => bytes
  | lengthDelimited _ bytes => RildHisi.MockRil.varint 10 bytes.length ++ bytes
  | fixed32 _ bytes => bytes

def Readable : WireField → Prop
  | varint _ value => value < 2 ^ 64
  | fixed64 _ bytes => bytes.length = 8
  | lengthDelimited _ bytes => bytes.length < 2 ^ 31
  | fixed32 _ bytes => bytes.length = 4

end WireField

def readFixed (width : ℕ) (bytes : List UInt8) : Option (List UInt8 × List UInt8) :=
  if width ≤ bytes.length then some (bytes.take width, bytes.drop width) else none

def skipWireField (tag : ℕ) (bytes : List UInt8) : Option (WireField × List UInt8) :=
  let number := tagFieldNumber tag
  if tagWireType tag = wireTypeVarint then
    (readVarint 10 bytes).map fun read => (.varint number (read.1 % 2 ^ 64), read.2)
  else if tagWireType tag = wireTypeFixed64 then
    (readFixed 8 bytes).map fun read => (.fixed64 number read.1, read.2)
  else if tagWireType tag = wireTypeLengthDelimited then
    (readWireDelimited bytes).map fun read => (.lengthDelimited number read.1, read.2)
  else if tagWireType tag = wireTypeFixed32 then
    (readFixed 4 bytes).map fun read => (.fixed32 number read.1, read.2)
  else none

theorem readFixed_append {width : ℕ} {payload : List UInt8} (size : payload.length = width)
    (rest : List UInt8) : readFixed width (payload ++ rest) = some (payload, rest) := by
  subst size
  rw [readFixed, if_pos (by rw [List.length_append]; omega), List.take_left, List.drop_left]

theorem readFixed_some {width : ℕ} {bytes payload rest : List UInt8}
    (came : readFixed width bytes = some (payload, rest)) :
    payload.length = width ∧ rest.length ≤ bytes.length := by
  unfold readFixed at came
  split_ifs at came with enough
  obtain ⟨rfl, rfl⟩ := Prod.mk.inj (Option.some.inj came)
  rw [List.length_take, List.length_drop]
  omega

theorem skipWireField_write {field : WireField} (readable : field.Readable) (rest : List UInt8) :
    skipWireField field.tag (field.bytes ++ rest) = some (field, rest) := by
  cases field with
  | varint number value =>
      have fits : value < 2 ^ 64 := readable
      rw [skipWireField, WireField.tag, tagWireType_makeTag _ (by decide), if_pos rfl,
        tagFieldNumber_makeTag _ (by decide), WireField.bytes, readVarint_varint_of_lt _ fits,
        Option.map_some, Nat.mod_eq_of_lt fits]
  | fixed64 number bytes =>
      rw [skipWireField, WireField.tag, tagWireType_makeTag _ (by decide), if_neg (by decide),
        if_pos rfl, tagFieldNumber_makeTag _ (by decide), WireField.bytes,
        readFixed_append readable, Option.map_some]
  | lengthDelimited number bytes =>
      rw [skipWireField, WireField.tag, tagWireType_makeTag _ (by decide), if_neg (by decide),
        if_neg (by decide), if_pos rfl, tagFieldNumber_makeTag _ (by decide), WireField.bytes,
        List.append_assoc, readWireDelimited_write readable, Option.map_some]
  | fixed32 number bytes =>
      rw [skipWireField, WireField.tag, tagWireType_makeTag _ (by decide), if_neg (by decide),
        if_neg (by decide), if_neg (by decide), if_pos rfl, tagFieldNumber_makeTag _ (by decide),
        WireField.bytes, readFixed_append readable, Option.map_some]

theorem makeTag_of_wireType {tag wireType : ℕ} (typed : tagWireType tag = wireType) :
    makeTag (tagFieldNumber tag) wireType = tag := by
  unfold tagWireType at typed
  unfold makeTag tagFieldNumber
  omega

theorem skipWireField_some {tag : ℕ} {bytes rest : List UInt8} {field : WireField}
    (came : skipWireField tag bytes = some (field, rest)) :
    field.tag = tag ∧ field.Readable ∧ rest.length ≤ bytes.length := by
  unfold skipWireField at came
  split_ifs at came with isVarint isFixed64 isDelimited isFixed32
  · obtain ⟨read, taken, same⟩ := Option.map_eq_some_iff.mp came
    obtain ⟨rfl, rfl⟩ := Prod.mk.inj same
    exact ⟨makeTag_of_wireType isVarint, Nat.mod_lt _ (by decide),
      Nat.le_of_lt (readVarint_shorter taken)⟩
  · obtain ⟨read, taken, same⟩ := Option.map_eq_some_iff.mp came
    obtain ⟨rfl, rfl⟩ := Prod.mk.inj same
    exact ⟨makeTag_of_wireType isFixed64, readFixed_some taken⟩
  · obtain ⟨read, taken, same⟩ := Option.map_eq_some_iff.mp came
    obtain ⟨rfl, rfl⟩ := Prod.mk.inj same
    obtain ⟨small, shorter⟩ := readWireDelimited_some taken
    exact ⟨makeTag_of_wireType isDelimited, small, Nat.le_of_lt shorter⟩
  · obtain ⟨read, taken, same⟩ := Option.map_eq_some_iff.mp came
    obtain ⟨rfl, rfl⟩ := Prod.mk.inj same
    exact ⟨makeTag_of_wireType isFixed32, readFixed_some taken⟩

/-! ### Tags -/

/-- A malformed tag is read as zero. -/
def readWireTag (bytes : List UInt8) : ℕ × List UInt8 :=
  match readVarint 10 bytes with
  | none => (0, bytes)
  | some (tag, rest) => (tag % 2 ^ 32, rest)

theorem readWireTag_write {tag : ℕ} (small : tag < 2 ^ 32) (rest : List UInt8) :
    readWireTag (varint 10 tag ++ rest) = (tag, rest) := by
  simp only [readWireTag, readVarint_varint_of_lt tag (by omega)]
  rw [Nat.mod_eq_of_lt small]

theorem readWireTag_bounds (bytes : List UInt8) : (readWireTag bytes).1 < 2 ^ 32 ∧
    ((readWireTag bytes).1 ≠ 0 → (readWireTag bytes).2.length < bytes.length) := by
  unfold readWireTag
  cases came : readVarint 10 bytes with
  | none => exact ⟨Nat.two_pow_pos 32, fun positive => absurd rfl positive⟩
  | some read => exact ⟨Nat.mod_lt _ (by decide), fun _ => readVarint_shorter came⟩

/-! ### The streams -/

def wireStream : CodedStream where
  Unknown := WireField
  readTag := readWireTag
  readPrimitive := readWirePrimitive
  readLengthDelimited := readWireDelimited
  skipField _ := skipWireField
  recursionLimit := 64
  writeTag := varint 10
  writePrimitive := writeWirePrimitive
  writeLength := varint 10
  primitiveSize := wirePrimitiveSize
  lengthSize length := (varint 10 length).length
  unknownTag := WireField.tag
  writeUnknown := WireField.bytes
  unknownSize field := (varint 10 field.tag ++ field.bytes).length
  varintField number value := .varint number (varintOf value)
  Readable _ := WireField.Readable
  readTag_nil := rfl
  readTag_write _ rest _ small := readWireTag_write small rest
  readTag_lt bytes := (readWireTag_bounds bytes).1
  readTag_shorter bytes := (readWireTag_bounds bytes).2
  writeTag_length _ := varint_length_one
  readPrimitive_write _ _ rest inRange := readWirePrimitive_write inRange rest
  readPrimitive_inRange _ _ _ _ came := (readWirePrimitive_some came).1
  readPrimitive_shorter _ _ _ _ came := (readWirePrimitive_some came).2
  writePrimitive_length _ _ := writeWirePrimitive_length
  primitiveSize_bool _ := rfl
  readLengthDelimited_write _ rest small := readWireDelimited_write small rest
  readLengthDelimited_shorter _ _ _ came := (readWireDelimited_some came).2
  writeLength_length _ _ := rfl
  skipField_write _ _ rest readable := skipWireField_write readable rest
  skipField_readable _ _ _ _ _ came := ⟨(skipWireField_some came).1, (skipWireField_some came).2.1⟩
  skipField_shorter _ _ _ _ _ came := (skipWireField_some came).2.2
  writeUnknown_length _ := rfl
  varintField_tag _ _ := rfl
  readPrimitive_varintField _ _ rest inRange := readWirePrimitive_write inRange rest

/-- They ask for the tags of one byte. -/
def wireLookahead : Lookahead wireStream where
  expectTag
    | tag, byte :: rest => if tag < 128 ∧ byte.toNat = tag then some rest else none
    | _, [] => none
  expectAtEnd bytes := bytes = []
  expectTag_sound tag bytes rest expected := by
    cases bytes with
    | nil => cases expected
    | cons byte bytes =>
        simp only [Option.ite_none_right_eq_some, Option.some.injEq] at expected
        obtain ⟨⟨small, rfl⟩, rfl⟩ := expected
        show readWireTag (byte :: bytes) = _
        rw [readWireTag, readVarint, if_pos small]
        show (byte.toNat % 2 ^ 32, bytes) = _
        rw [Nat.mod_eq_of_lt (by omega)]
  expectAtEnd_sound bytes atEnd := of_decide_eq_true atEnd

end RildHisi.MockRil.Generated
