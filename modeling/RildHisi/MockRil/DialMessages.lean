import RildHisi.CString
import RildHisi.MockRil.MsgHeader

/-!
Owns the messages `ReqDial` and `RilUusInfo` of ril.proto. Their classes are generated when
mock-ril is built, and the protobuf library is not in this repository, so writing and
reading a message is a parameter with the law that reading undoes writing below 2 GiB;
`dialWireCodec` is the wire format, which obeys it.
-/

namespace RildHisi.MockRil.Dial

/-- `RIL_UUS_Type`, and `RilUusType` of ril.proto. -/
inductive UusType
  | type1Implicit
  | type1Required
  | type1NotRequired
  | type2Required
  | type2NotRequired
  | type3Required
  | type3NotRequired
  deriving DecidableEq

/-- `RIL_UUS_DCS`, and `RilUusDcs` of ril.proto. -/
inductive UusDcs
  | usp
  | osihlp
  | x244
  | rmcf
  | ia5c
  deriving DecidableEq

/-- `RilUusInfo`: a field that is not set is none. -/
structure UusInfoMessage where
  uusType : Option UusType
  uusDcs : Option UusDcs
  uusLength : Option (BitVec 32)
  uusData : Option (List UInt8)
  deriving DecidableEq

/-- `ReqDial`. -/
structure ReqDialMessage where
  address : Option CString
  clir : Option (BitVec 32)
  uusInfo : Option UusInfoMessage
  deriving DecidableEq

/-- `SerializeToArray` and `ParseFromArray`, whose length is an `int`. -/
structure ReqDialCodec where
  serialize : ReqDialMessage → List UInt8
  parse : List UInt8 → Option ReqDialMessage
  parse_serialize : ∀ message, (serialize message).length < 2 ^ 31 →
    parse (serialize message) = some message

/-! ### The wire format -/

/-- A reader brings a value and the bytes behind it. -/
abbrev WireReader (α : Type) : Type := List UInt8 → Option (α × List UInt8)

def UusType.number : UusType → ℕ
  | type1Implicit => 0
  | type1Required => 1
  | type1NotRequired => 2
  | type2Required => 3
  | type2NotRequired => 4
  | type3Required => 5
  | type3NotRequired => 6

def UusType.ofNumber (number : ℕ) : Option UusType :=
  [type1Implicit, type1Required, type1NotRequired, type2Required, type2NotRequired,
    type3Required, type3NotRequired][number]?

def UusDcs.number : UusDcs → ℕ
  | usp => 0
  | osihlp => 1
  | x244 => 2
  | rmcf => 3
  | ia5c => 4

def UusDcs.ofNumber (number : ℕ) : Option UusDcs := [usp, osihlp, x244, rmcf, ia5c][number]?

/-- A varint that stands for a value. -/
def readValue {α : Type} (decode : ℕ → Option α) : WireReader α := fun bytes => do
  let (number, rest) ← readVarint 10 bytes
  let value ← decode number
  some (value, rest)

/-- An `int32` is extended to 64 bits. -/
def int32Bytes (value : BitVec 32) : List UInt8 := varint 10 (value.signExtend 64).toNat

def readInt32 : WireReader (BitVec 32) := readValue fun number => some (BitVec.ofNat 32 number)

/-- Bytes behind their length. -/
def delimited (bytes : List UInt8) : List UInt8 := varint 10 bytes.length ++ bytes

def readDelimited : WireReader (List UInt8) := fun bytes => do
  let (length, rest) ← readVarint 10 bytes
  if length ≤ rest.length then some (rest.take length, rest.drop length) else none

/-- An optional field with its tag. -/
def optionalField {α : Type} (tag : UInt8) (write : α → List UInt8) : Option α → List UInt8
  | none => []
  | some value => tag :: write value

def readOptional {α : Type} (tag : UInt8) (read : WireReader α) : WireReader (Option α)
  | [] => some (none, [])
  | byte :: rest =>
      if byte = tag then (read rest).map fun found => (some found.1, found.2)
      else some (none, byte :: rest)

def uusInfoBytes (info : UusInfoMessage) : List UInt8 :=
  optionalField 0x08 (fun uusType => varint 10 uusType.number) info.uusType ++
    (optionalField 0x10 (fun uusDcs => varint 10 uusDcs.number) info.uusDcs ++
      (optionalField 0x18 int32Bytes info.uusLength ++
        (optionalField 0x22 delimited info.uusData ++ [])))

def parseUusInfo (bytes : List UInt8) : Option UusInfoMessage := do
  let (uusType, bytes) ← readOptional 0x08 (readValue UusType.ofNumber) bytes
  let (uusDcs, bytes) ← readOptional 0x10 (readValue UusDcs.ofNumber) bytes
  let (uusLength, bytes) ← readOptional 0x18 readInt32 bytes
  let (uusData, bytes) ← readOptional 0x22 readDelimited bytes
  if bytes = [] then some ⟨uusType, uusDcs, uusLength, uusData⟩ else none

def reqDialBytes (message : ReqDialMessage) : List UInt8 :=
  optionalField 0x0a delimited message.address ++
    (optionalField 0x10 int32Bytes message.clir ++
      (optionalField 0x1a (fun info => delimited (uusInfoBytes info)) message.uusInfo ++ []))

/-- The message inside the field. -/
def readUusInfo : WireReader UusInfoMessage := fun bytes => do
  let (inside, rest) ← readDelimited bytes
  let info ← parseUusInfo inside
  some (info, rest)

def parseReqDial (bytes : List UInt8) : Option ReqDialMessage := do
  let (address, bytes) ← readOptional 0x0a readDelimited bytes
  let (clir, bytes) ← readOptional 0x10 readInt32 bytes
  let (uusInfo, bytes) ← readOptional 0x1a readUusInfo bytes
  if bytes = [] then some ⟨address, clir, uusInfo⟩ else none

/-! ### What was written is read -/

/-- What the reader brings of what the writer wrote. -/
def Reads {α : Type} (read : WireReader α) (write : α → List UInt8) (value : α) : Prop :=
  ∀ rest, read (write value ++ rest) = some (value, rest)

theorem reads_value {α : Type} {decode : ℕ → Option α} {number : α → ℕ} {value : α}
    (fits : number value < 2 ^ 64) (same : decode (number value) = some value) :
    Reads (readValue decode) (fun value => varint 10 (number value)) value := by
  intro rest
  have bound : number value < 128 ^ 10 := lt_trans fits (by decide)
  rw [readValue, readVarint_varint bound (by decide)]
  simp only [Option.bind_eq_bind, Option.bind_some, same]

theorem reads_uusType (uusType : UusType) :
    Reads (readValue UusType.ofNumber) (fun uusType => varint 10 uusType.number) uusType := by
  cases uusType <;> exact reads_value (by decide) rfl

theorem reads_uusDcs (uusDcs : UusDcs) :
    Reads (readValue UusDcs.ofNumber) (fun uusDcs => varint 10 uusDcs.number) uusDcs := by
  cases uusDcs <;> exact reads_value (by decide) rfl

theorem reads_int32 (value : BitVec 32) : Reads readInt32 int32Bytes value := by
  have truncated : BitVec.ofNat 32 (value.signExtend 64).toNat = value := by
    rw [BitVec.ofNat_toNat]
    ext index below
    have inside : index < 64 := by omega
    simp [BitVec.getElem_signExtend, below, inside]
  exact reads_value (value.signExtend 64).isLt (congrArg some truncated)

theorem reads_delimited {bytes : List UInt8} (small : bytes.length < 2 ^ 31) :
    Reads readDelimited delimited bytes := by
  intro rest
  have bound : bytes.length < 128 ^ 10 := lt_trans small (by decide)
  rw [readDelimited, delimited, List.append_assoc, readVarint_varint bound (by decide)]
  simp

/-- An optional field is read if the next one has another tag. -/
theorem readOptional_optionalField {α : Type} {tag : UInt8} {read : WireReader α}
    {write : α → List UInt8} {value : Option α} {rest : List UInt8}
    (reads : ∀ present ∈ value, Reads read write present) (other : rest.head? ≠ some tag) :
    readOptional tag read (optionalField tag write value ++ rest) = some (value, rest) := by
  cases value with
  | none =>
      cases rest with
      | nil => rfl
      | cons byte rest =>
          have different : byte ≠ tag := fun same => other (congrArg some same)
          exact if_neg different
  | some value =>
      rw [optionalField, List.cons_append, readOptional, if_pos rfl, reads value rfl, Option.map_some]

theorem head?_optionalField_ne {α : Type} {tag other : UInt8} (write : α → List UInt8)
    (value : Option α) {rest : List UInt8} (different : tag ≠ other)
    (behind : rest.head? ≠ some other) :
    (optionalField tag write value ++ rest).head? ≠ some other := by
  cases value with
  | none => exact behind
  | some value => exact fun same => different (Option.some.inj same)

theorem head?_nil_ne (tag : UInt8) : ([] : List UInt8).head? ≠ some tag := by
  rintro ⟨⟩

theorem length_delimited (bytes : List UInt8) : bytes.length ≤ (delimited bytes).length := by
  rw [delimited, List.length_append]
  omega

theorem parseUusInfo_uusInfoBytes {info : UusInfoMessage}
    (small : (uusInfoBytes info).length < 2 ^ 31) :
    parseUusInfo (uusInfoBytes info) = some info := by
  have data : ∀ bytes ∈ info.uusData, Reads readDelimited delimited bytes := by
    intro bytes present
    apply reads_delimited
    have inside := length_delimited bytes
    rw [Option.mem_def] at present
    simp only [uusInfoBytes, present, optionalField, List.length_append, List.length_cons] at small
    omega
  simp only [parseUusInfo, uusInfoBytes, Option.bind_eq_bind]
  rw [readOptional_optionalField (fun value _ => reads_uusType value), Option.bind_some]
  · rw [readOptional_optionalField (fun value _ => reads_uusDcs value), Option.bind_some]
    · rw [readOptional_optionalField (fun value _ => reads_int32 value), Option.bind_some]
      · rw [readOptional_optionalField data (head?_nil_ne 0x22), Option.bind_some, if_pos rfl]
      · apply head?_optionalField_ne _ _ (by decide)
        exact head?_nil_ne 0x18
    · apply head?_optionalField_ne _ _ (by decide)
      apply head?_optionalField_ne _ _ (by decide)
      exact head?_nil_ne 0x10
  · apply head?_optionalField_ne _ _ (by decide)
    apply head?_optionalField_ne _ _ (by decide)
    apply head?_optionalField_ne _ _ (by decide)
    exact head?_nil_ne 0x08

theorem parseReqDial_reqDialBytes {message : ReqDialMessage}
    (small : (reqDialBytes message).length < 2 ^ 31) :
    parseReqDial (reqDialBytes message) = some message := by
  have address : ∀ bytes ∈ message.address, Reads readDelimited delimited bytes := by
    intro bytes present
    apply reads_delimited
    have inside := length_delimited bytes
    rw [Option.mem_def] at present
    simp only [reqDialBytes, present, optionalField, List.length_append, List.length_cons] at small
    omega
  have uusInfo : ∀ info ∈ message.uusInfo,
      Reads readUusInfo (fun info => delimited (uusInfoBytes info)) info := by
    intro info present rest
    have inside := length_delimited (uusInfoBytes info)
    rw [Option.mem_def] at present
    simp only [reqDialBytes, present, optionalField, List.length_append, List.length_cons] at small
    have short : (uusInfoBytes info).length < 2 ^ 31 := by omega
    simp only [readUusInfo, reads_delimited short rest, parseUusInfo_uusInfoBytes short,
      Option.bind_eq_bind, Option.bind_some]
  simp only [parseReqDial, reqDialBytes, Option.bind_eq_bind]
  rw [readOptional_optionalField address, Option.bind_some]
  · rw [readOptional_optionalField (fun value _ => reads_int32 value), Option.bind_some]
    · rw [readOptional_optionalField uusInfo (head?_nil_ne 0x1a), Option.bind_some, if_pos rfl]
    · apply head?_optionalField_ne _ _ (by decide)
      exact head?_nil_ne 0x10
  · apply head?_optionalField_ne _ _ (by decide)
    apply head?_optionalField_ne _ _ (by decide)
    exact head?_nil_ne 0x0a

/-- The wire format. -/
def dialWireCodec : ReqDialCodec where
  serialize := reqDialBytes
  parse := parseReqDial
  parse_serialize _ := parseReqDial_reqDialBytes

end RildHisi.MockRil.Dial
