import Mathlib.Data.List.Basic
import Mathlib.Algebra.Group.Int.Defs
import Mathlib.Algebra.Group.Nat.Defs
import RildHisi.CString

/-!
Owns the part of the platform that libril reads requests from and writes
responses to: libbinder's `Parcel` and the string conversions of libcutils.
Neither is in this repository, so both are a parameter with the laws that
libril relies on. `ByteParcel` is a parcel that obeys them.

A dispatch function is a program of parcel reads and calls of the vendor RIL,
a response function a list of parcel writes. `Reads.run_eq` reduces a program
on any parcel to the same program on the bytes that are left to read.
-/

namespace RildHisi.Libril

/-- An `int32_t`. -/
abbrev Word := BitVec 32

/-- The four bytes of a word, the low byte first. -/
def wordBytes (word : Word) : List UInt8 :=
  [word.toNat, word.toNat / 2 ^ 8, word.toNat / 2 ^ 16, word.toNat / 2 ^ 24].map UInt8.ofNat

/-- The word at the front of `bytes`. -/
def wordOfBytes (bytes : List UInt8) : Word :=
  BitVec.ofNat 32 ((bytes.take 4).foldr (fun byte high => byte.toNat + 2 ^ 8 * high) 0)

@[simp] theorem wordBytes_length (word : Word) : (wordBytes word).length = 4 := rfl

@[simp] theorem drop_wordBytes (word : Word) (rest : List UInt8) :
    (wordBytes word ++ rest).drop 4 = rest := rfl

/-- A word is read back as it was written. -/
theorem wordOfBytes_wordBytes (word : Word) (rest : List UInt8) :
    wordOfBytes (wordBytes word ++ rest) = word := by
  have bound := word.isLt
  apply BitVec.eq_of_toNat_eq
  simp only [wordOfBytes, wordBytes, List.map_cons, List.map_nil, List.cons_append, List.nil_append,
    List.take_succ_cons, List.take_zero, List.foldr_cons, List.foldr_nil, UInt8.toNat_ofNat',
    BitVec.toNat_ofNat]
  omega

/-- The data models libril is built for: `int` has four bytes, pointers and `size_t`
have four or eight. -/
inductive Abi
  | ilp32
  | lp64
  deriving DecidableEq, Repr

def Abi.ptrSize : Abi → Nat
  | .ilp32 => 4
  | .lp64 => 8

/-- Arithmetic on `size_t` wraps. -/
def Abi.wrap (abi : Abi) (size : Nat) : Nat := size % 2 ^ (8 * abi.ptrSize)

/-- An `int` used as a `size_t`. -/
def Abi.sizeT (abi : Abi) (value : Word) : Nat :=
  (value.signExtend (8 * abi.ptrSize)).toNat

theorem Abi.sizeT_of_nonneg (abi : Abi) {value : Word} (positive : 0 ≤ value.toInt) :
    abi.sizeT value = value.toNat := by
  have clear : value.msb = false := by
    rw [BitVec.msb_eq_false_iff_two_mul_lt]
    rw [BitVec.toInt_eq_toNat_cond] at positive
    split at positive <;> omega
  have wide : 32 ≤ 8 * abi.ptrSize := by cases abi <;> decide
  unfold sizeT
  rw [BitVec.signExtend_eq_setWidth_of_msb_false clear, BitVec.toNat_setWidth_of_le wide]

theorem Abi.sizeT_ofNat (abi : Abi) {size : Nat} (small : size < 2 ^ 31) :
    abi.sizeT (BitVec.ofNat 32 size) = size := by
  have fits : (BitVec.ofNat 32 size).toNat = size := by
    rw [BitVec.toNat_ofNat]
    omega
  have positive : 0 ≤ (BitVec.ofNat 32 size).toInt := by
    rw [BitVec.toInt_eq_toNat_of_lt (by omega)]
    exact Int.natCast_nonneg _
  rw [abi.sizeT_of_nonneg positive, fits]

theorem toInt_eq_toNat {value : Word} (positive : 0 ≤ value.toInt) : value.toInt = value.toNat := by
  rw [BitVec.toInt_eq_toNat_cond] at positive ⊢
  split at positive <;> omega

/-- `PAD_SIZE`: a multiple of four. -/
def padSize (size : Nat) : Nat := (size + 3) / 4 * 4

/-- Bytes filled up with zeros to a multiple of four. -/
def padBytes (bytes : List UInt8) : List UInt8 :=
  bytes ++ List.replicate (padSize bytes.length - bytes.length) 0

theorem length_le_padSize (size : Nat) : size ≤ padSize size := by
  unfold padSize
  omega

theorem padBytes_length (bytes : List UInt8) : (padBytes bytes).length = padSize bytes.length := by
  have longer := length_le_padSize bytes.length
  rw [padBytes, List.length_append, List.length_replicate]
  omega

/-- A `char16_t`. -/
abbrev Char16 := BitVec 16

def char16Bytes (c : Char16) : List UInt8 :=
  [c.toNat, c.toNat / 2 ^ 8].map UInt8.ofNat

/-- The first `count` characters in `bytes`. -/
def char16sOfBytes : Nat → List UInt8 → List Char16
  | count + 1, low :: high :: rest =>
      BitVec.ofNat 16 (low.toNat + 2 ^ 8 * high.toNat) :: char16sOfBytes count rest
  | _, _ => []

/-- A string as `writeString16` stores it: length, characters and a NUL, or -1. -/
def string16Bytes : Option (List Char16) → List UInt8
  | none => wordBytes (-1)
  | some text =>
      wordBytes (BitVec.ofNat 32 text.length) ++
        padBytes (text.flatMap char16Bytes ++ [0, 0])

/-- `android::Parcel`, `strndup16to8` and `strdup8to16`. A read gives none when its
status is not `NO_ERROR` or its pointer is NULL. -/
class Platform (P : Type) where
  abi : Abi
  new : P
  setData : List UInt8 → P
  data : P → List UInt8
  dataPosition : P → Nat
  setDataPosition : P → Nat → P
  readInt32 : P → Option Word × P
  read : P → Nat → Option (List UInt8) × P
  readInplace : P → Nat → Option (List UInt8) × P
  readString16Inplace : P → Option (List Char16) × P
  writeInt32 : P → Word → P
  write : P → List UInt8 → P
  writeString16 : P → Option (List Char16) → P
  strndup16to8 : List Char16 → CString
  strdup8to16 : CString → List Char16

/-! ### Reads on plain bytes -/

namespace Unread

/-- A read with too few bytes left fails and does not advance. -/
def readInt32 (unread : List UInt8) : Option Word × List UInt8 :=
  if 4 ≤ unread.length then (some (wordOfBytes unread), unread.drop 4) else (none, unread)

def read (unread : List UInt8) (len : Nat) : Option (List UInt8) × List UInt8 :=
  if padSize len ≤ unread.length then (some (unread.take len), unread.drop (padSize len))
  else (none, unread)

/-- The length word is consumed also where the characters are missing. -/
def readString16Inplace (unread : List UInt8) : Option (List Char16) × List UInt8 :=
  match readInt32 unread with
  | (none, unread) => (none, unread)
  | (some size, unread) =>
      if size.toInt < 0 ∨ size.toInt = 2 ^ 31 - 1 then (none, unread)
      else match read unread ((size.toNat + 1) * 2) with
        | (none, unread) => (none, unread)
        | (some bytes, unread) => (some (char16sOfBytes size.toNat bytes), unread)

theorem readInt32_enough {unread : List UInt8} (enough : 4 ≤ unread.length) :
    readInt32 unread = (some (wordOfBytes unread), unread.drop 4) := if_pos enough

theorem readInt32_starved {unread : List UInt8} (starved : unread.length < 4) :
    readInt32 unread = (none, unread) := if_neg (by omega)

/-! A read only ever takes bytes off the front. -/

theorem readInt32_suffix (unread : List UInt8) : (readInt32 unread).2 <:+ unread := by
  unfold readInt32
  split_ifs
  · exact List.drop_suffix _ _
  · exact List.suffix_refl _

theorem read_suffix (unread : List UInt8) (len : Nat) : (read unread len).2 <:+ unread := by
  unfold read
  split_ifs
  · exact List.drop_suffix _ _
  · exact List.suffix_refl _

theorem readString16Inplace_suffix (unread : List UInt8) :
    (readString16Inplace unread).2 <:+ unread := by
  have sizeRead := readInt32_suffix unread
  unfold readString16Inplace
  generalize readInt32 unread = sizeResult at *
  obtain ⟨sizeRead?, afterSize⟩ := sizeResult
  cases sizeRead? with
  | none => exact sizeRead
  | some size =>
      simp only
      split_ifs
      · exact sizeRead
      · have charsRead := read_suffix afterSize ((size.toNat + 1) * 2)
        generalize read afterSize ((size.toNat + 1) * 2) = charsResult at *
        obtain ⟨charsRead?, afterChars⟩ := charsResult
        cases charsRead? with
        | none => exact charsRead.trans sizeRead
        | some bytes => exact charsRead.trans sizeRead

end Unread

/-- `data` with `bytes` stored at `position`. -/
def storeAt (data : List UInt8) (position : Nat) (bytes : List UInt8) : List UInt8 :=
  data.take position ++ bytes ++ data.drop (position + bytes.length)

section Laws

variable {P : Type} [Platform P]

/-- The bytes a parcel still has to read. -/
def unread (p : P) : List UInt8 := (Platform.data p).drop (Platform.dataPosition p)

/-- What stands before the position is still there behind a write. -/
def Keeps (p p' : P) : Prop :=
  Platform.dataPosition p ≤ Platform.dataPosition p' ∧
    (Platform.data p).take (Platform.dataPosition p) <+: Platform.data p'

variable (P) in
/-- What libril relies on. A write may also fail, as long strings do, and store less. -/
class LawfulPlatform : Prop where
  data_new : Platform.data (Platform.new : P) = []
  dataPosition_new : Platform.dataPosition (Platform.new : P) = 0
  unread_setData (bytes : List UInt8) : unread (Platform.setData bytes : P) = bytes
  readInt32 (p : P) :
    ((Platform.readInt32 p).1, unread (Platform.readInt32 p).2) = Unread.readInt32 (unread p)
  read (p : P) (len : Nat) :
    ((Platform.read p len).1, unread (Platform.read p len).2) = Unread.read (unread p) len
  readInplace (p : P) (len : Nat) :
    ((Platform.readInplace p len).1, unread (Platform.readInplace p len).2) =
      Unread.read (unread p) len
  readString16Inplace (p : P) :
    ((Platform.readString16Inplace p).1, unread (Platform.readString16Inplace p).2) =
      Unread.readString16Inplace (unread p)
  data_setDataPosition (p : P) (position : Nat) :
    Platform.data (Platform.setDataPosition p position) = Platform.data p
  dataPosition_setDataPosition (p : P) (position : Nat)
    (inside : position ≤ (Platform.data p).length) :
    Platform.dataPosition (Platform.setDataPosition p position) = position
  data_writeInt32 (p : P) (word : Word) :
    Platform.data (Platform.writeInt32 p word) =
      storeAt (Platform.data p) (Platform.dataPosition p) (wordBytes word)
  dataPosition_writeInt32 (p : P) (word : Word) :
    Platform.dataPosition (Platform.writeInt32 p word) = Platform.dataPosition p + 4
  data_write (p : P) (bytes : List UInt8) (short : bytes.length < 2 ^ 31) :
    Platform.data (Platform.write p bytes) =
      storeAt (Platform.data p) (Platform.dataPosition p) (padBytes bytes)
  write_keeps (p : P) (bytes : List UInt8) :
    Keeps p (Platform.write p bytes)
  writeString16_keeps (p : P) (text : Option (List Char16)) :
    Keeps p (Platform.writeString16 p text)

end Laws

/-! ### A parcel of bytes -/

/-- A parcel that holds its bytes and its position. -/
structure ByteParcel where
  bytes : List UInt8
  position : Nat
  deriving DecidableEq

namespace ByteParcel

/-- A read on the bytes behind the position. -/
def reading {α : Type} (p : ByteParcel) (result : Option α × List UInt8) :
    Option α × ByteParcel :=
  (result.1, { p with position := p.bytes.length - result.2.length })

def storing (p : ByteParcel) (bytes : List UInt8) : ByteParcel :=
  ⟨storeAt p.bytes p.position bytes, p.position + bytes.length⟩

instance : Platform ByteParcel where
  abi := .lp64
  new := ⟨[], 0⟩
  setData bytes := ⟨bytes, 0⟩
  data := bytes
  dataPosition := position
  setDataPosition p position := { p with position := position }
  readInt32 p := p.reading (Unread.readInt32 (p.bytes.drop p.position))
  read p len := p.reading (Unread.read (p.bytes.drop p.position) len)
  readInplace p len := p.reading (Unread.read (p.bytes.drop p.position) len)
  readString16Inplace p := p.reading (Unread.readString16Inplace (p.bytes.drop p.position))
  writeInt32 p word := p.storing (wordBytes word)
  write p bytes := p.storing (padBytes bytes)
  writeString16 p text := p.storing (string16Bytes text)
  strndup16to8 text := cString (text.map fun c => UInt8.ofNat c.toNat)
  strdup8to16 text := text.map fun c => BitVec.ofNat 16 c.toNat

theorem unread_reading {α : Type} (p : ByteParcel) {result : Option α × List UInt8}
    (rest : result.2 <:+ p.bytes.drop p.position) :
    ((p.reading result).1, unread (p.reading result).2) = result := by
  obtain ⟨front, shape⟩ := rest.trans (List.drop_suffix _ _)
  refine Prod.ext rfl ?_
  change p.bytes.drop (p.bytes.length - result.2.length) = result.2
  rw [← shape, List.length_append, Nat.add_sub_cancel]
  exact List.drop_left

theorem keeps_storing (p : ByteParcel) (bytes : List UInt8) : Keeps p (p.storing bytes) := by
  refine ⟨Nat.le_add_right _ _, ?_⟩
  show p.bytes.take p.position <+: storeAt p.bytes p.position bytes
  rw [storeAt, List.append_assoc]
  exact List.prefix_append _ _

instance : LawfulPlatform ByteParcel where
  data_new := rfl
  dataPosition_new := rfl
  unread_setData _ := rfl
  readInt32 p := unread_reading p (Unread.readInt32_suffix _)
  read p len := unread_reading p (Unread.read_suffix _ len)
  readInplace p len := unread_reading p (Unread.read_suffix _ len)
  readString16Inplace p := unread_reading p (Unread.readString16Inplace_suffix _)
  data_setDataPosition _ _ := rfl
  dataPosition_setDataPosition _ _ _ := rfl
  data_writeInt32 _ _ := rfl
  dataPosition_writeInt32 _ _ := rfl
  data_write _ _ _ := rfl
  write_keeps p bytes := keeps_storing p (padBytes bytes)
  writeString16_keeps p text := keeps_storing p (string16Bytes text)

end ByteParcel

/-! ### Programs of reads -/

/-- A program that reads a parcel and calls the vendor RIL with values of `γ`. -/
inductive Reads (γ α : Type) : Type
  | done (value : α)
  | takeInt32 (next : Option Word → Reads γ α)
  | takeBytes (len : Nat) (next : Option (List UInt8) → Reads γ α)
  | takeInplace (len : Nat) (next : Option (List UInt8) → Reads γ α)
  | takeString (next : Option CString → Reads γ α)
  | makeCall (argument : γ) (next : Reads γ α)

namespace Reads

variable {γ α β : Type}

def bind : Reads γ α → (α → Reads γ β) → Reads γ β
  | done value, following => following value
  | takeInt32 next, following => takeInt32 fun result => (next result).bind following
  | takeBytes len next, following => takeBytes len fun result => (next result).bind following
  | takeInplace len next, following =>
      takeInplace len fun result => (next result).bind following
  | takeString next, following => takeString fun result => (next result).bind following
  | makeCall argument next, following => makeCall argument (next.bind following)

instance : Monad (Reads γ) where
  pure := done
  bind := bind

@[simp] theorem pure_then (value : α) (following : α → Reads γ β) :
    (pure value >>= following) = following value := rfl

theorem then_assoc {δ : Type} (program : Reads γ α) (following : α → Reads γ β)
    (last : β → Reads γ δ) :
    ((program >>= following) >>= last) = program >>= fun value => following value >>= last := by
  induction program with
  | done value => rfl
  | takeInt32 next inductionHypothesis =>
      exact congrArg takeInt32 (funext inductionHypothesis)
  | takeBytes len next inductionHypothesis =>
      exact congrArg (takeBytes len) (funext inductionHypothesis)
  | takeInplace len next inductionHypothesis =>
      exact congrArg (takeInplace len) (funext inductionHypothesis)
  | takeString next inductionHypothesis =>
      exact congrArg takeString (funext inductionHypothesis)
  | makeCall argument next inductionHypothesis =>
      exact congrArg (makeCall argument) inductionHypothesis

/-- `status = p.readInt32(&t)`. A read that fails leaves `t` as it is. -/
def readInt32 (t : Word) : Reads γ (Bool × Word) :=
  takeInt32 fun result => done (result.isSome, result.getD t)

/-- `status = p.read(&ut, sizeof(ut))` for one byte. -/
def read (ut : UInt8) : Reads γ (Bool × UInt8) :=
  takeBytes 1 fun result => done (result.isSome, (result.getD []).headD ut)

/-- `p.readInplace(len)`. -/
def readInplace (len : Nat) : Reads γ (Option (List UInt8)) := takeInplace len done

/-- `strdupReadString`: NULL where there is no string. -/
def strdupReadString : Reads γ (Option CString) := takeString done

/-- A call of the vendor RIL. -/
def call (argument : γ) : Reads γ Unit := makeCall argument (done ())

/-- The program on a parcel: its value, the parcel behind it, and the calls made. -/
def run {P : Type} [Platform P] : Reads γ α → P → α × P × List γ
  | done value, p => (value, p, [])
  | takeInt32 next, p =>
      let (result, p) := Platform.readInt32 p
      (next result).run p
  | takeBytes len next, p =>
      let (result, p) := Platform.read p len
      (next result).run p
  | takeInplace len next, p =>
      let (result, p) := Platform.readInplace p len
      (next result).run p
  | takeString next, p =>
      let (result, p) := Platform.readString16Inplace p
      (next (result.map (Platform.strndup16to8 P))).run p
  | makeCall argument next, p =>
      let (value, p, calls) := next.run p
      (value, p, argument :: calls)

/-- The program on the bytes left to read. -/
def runBytes (strndup16to8 : List Char16 → CString) :
    Reads γ α → List UInt8 → α × List UInt8 × List γ
  | done value, unread => (value, unread, [])
  | takeInt32 next, unread =>
      let (result, unread) := Unread.readInt32 unread
      (next result).runBytes strndup16to8 unread
  | takeBytes len next, unread =>
      let (result, unread) := Unread.read unread len
      (next result).runBytes strndup16to8 unread
  | takeInplace len next, unread =>
      let (result, unread) := Unread.read unread len
      (next result).runBytes strndup16to8 unread
  | takeString next, unread =>
      let (result, unread) := Unread.readString16Inplace unread
      (next (result.map strndup16to8)).runBytes strndup16to8 unread
  | makeCall argument next, unread =>
      let (value, unread, calls) := next.runBytes strndup16to8 unread
      (value, unread, argument :: calls)

section RunBytes

variable (strndup16to8 : List Char16 → CString) (unread : List UInt8)

@[simp] theorem runBytes_pure (value : α) :
    (pure value : Reads γ α).runBytes strndup16to8 unread = (value, unread, []) := rfl

@[simp] theorem runBytes_call (argument : γ) :
    (call argument).runBytes strndup16to8 unread = ((), unread, [argument]) := rfl

@[simp] theorem runBytes_readInt32_bind (t : Word) (following : Bool × Word → Reads γ α) :
    (readInt32 t >>= following).runBytes strndup16to8 unread =
      (following ((Unread.readInt32 unread).1.isSome, (Unread.readInt32 unread).1.getD t)).runBytes
        strndup16to8 (Unread.readInt32 unread).2 := rfl

@[simp] theorem runBytes_read_bind (ut : UInt8) (following : Bool × UInt8 → Reads γ α) :
    (read ut >>= following).runBytes strndup16to8 unread =
      (following ((Unread.read unread 1).1.isSome,
        ((Unread.read unread 1).1.getD []).headD ut)).runBytes
        strndup16to8 (Unread.read unread 1).2 := rfl

@[simp] theorem runBytes_readInplace_bind (len : Nat)
    (following : Option (List UInt8) → Reads γ α) :
    (readInplace len >>= following).runBytes strndup16to8 unread =
      (following (Unread.read unread len).1).runBytes strndup16to8
        (Unread.read unread len).2 := rfl

@[simp] theorem runBytes_strdupReadString_bind (following : Option CString → Reads γ α) :
    (strdupReadString >>= following).runBytes strndup16to8 unread =
      (following ((Unread.readString16Inplace unread).1.map strndup16to8)).runBytes strndup16to8
        (Unread.readString16Inplace unread).2 := rfl

end RunBytes

/-- **Only the unread bytes matter.** A program does on every lawful parcel what it
does on the bytes that are left. -/
theorem run_eq {P : Type} [Platform P] [LawfulPlatform P] (program : Reads γ α) (p : P) :
    ((program.run p).1, unread (program.run p).2.1, (program.run p).2.2) =
      program.runBytes (Platform.strndup16to8 P) (unread p) := by
  induction program generalizing p with
  | done value => rfl
  | takeInt32 next inductionHypothesis =>
      rw [runBytes, ← LawfulPlatform.readInt32]
      exact inductionHypothesis _ _
  | takeBytes len next inductionHypothesis =>
      rw [runBytes, ← LawfulPlatform.read]
      exact inductionHypothesis _ _
  | takeInplace len next inductionHypothesis =>
      rw [runBytes, ← LawfulPlatform.readInplace]
      exact inductionHypothesis _ _
  | takeString next inductionHypothesis =>
      rw [runBytes, ← LawfulPlatform.readString16Inplace]
      exact inductionHypothesis _ _
  | makeCall argument next inductionHypothesis =>
      rw [runBytes, ← inductionHypothesis]
      rfl

/-- The calls made on a lawful parcel. -/
theorem run_calls {P : Type} [Platform P] [LawfulPlatform P] (program : Reads γ α) (p : P) :
    (program.run p).2.2 =
      (program.runBytes (Platform.strndup16to8 P) (unread p)).2.2 :=
  congrArg (fun result => result.2.2) (run_eq program p)

end Reads

end RildHisi.Libril
