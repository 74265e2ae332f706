import Mathlib.Data.List.Basic
import Mathlib.Tactic.Ring

/-!
Owns `MsgHeader` of msgheader.proto. The generated classes write and read its fields with
the protobuf libraries of the three languages, which are not in this repository, so
writing and reading a header is a parameter with the law that reading undoes writing;
`wireCodec` is the wire format with all four fields, which obeys it.
-/

namespace RildHisi.MockRil

/-- The three programs on the control channel. -/
inductive Peer
  /-- ctrl_server.cpp. -/
  | ctrlServer
  /-- Msg.java. -/
  | msgJava
  /-- tcs.py. -/
  | tcs
  deriving DecidableEq

/-- The fields in the order of their numbers. -/
structure MsgHeader where
  cmd : BitVec 32
  lengthData : BitVec 32
  status : BitVec 32
  token : BitVec 64
  deriving DecidableEq

/-- The protobuf libraries: each of them reads what each of them writes. -/
structure MsgHeaderCodec where
  serialize : Peer → MsgHeader → List UInt8
  parse : Peer → List UInt8 → Option MsgHeader
  parse_serialize : ∀ reader writer header, parse reader (serialize writer header) = some header
  short : ∀ writer header, (serialize writer header).length < 2 ^ 31

/-! ### The wire format -/

/-- A base-128 varint of at most `size` bytes. -/
def varint : (size : ℕ) → ℕ → List UInt8
  | 0, _ => []
  | size + 1, n =>
      if n < 128 then [UInt8.ofNat n] else UInt8.ofNat (n % 128 + 128) :: varint size (n / 128)

def readVarint : (size : ℕ) → List UInt8 → Option (ℕ × List UInt8)
  | 0, _ => none
  | _ + 1, [] => none
  | size + 1, byte :: rest =>
      if byte.toNat < 128 then some (byte.toNat, rest)
      else (readVarint size rest).map fun high => (byte.toNat - 128 + 128 * high.1, high.2)

theorem varint_length (size n : ℕ) : (varint size n).length ≤ size := by
  induction size generalizing n with
  | zero => exact Nat.le_refl 0
  | succ size inductionHypothesis =>
      rw [varint]
      split_ifs
      · exact Nat.succ_le_succ (Nat.zero_le size)
      · exact Nat.succ_le_succ (inductionHypothesis (n / 128))

theorem readVarint_varint {size n : ℕ} (fits : n < 128 ^ size) (positive : 0 < size)
    (rest : List UInt8) : readVarint size (varint size n ++ rest) = some (n, rest) := by
  induction size generalizing n with
  | zero => omega
  | succ size inductionHypothesis =>
      rw [varint]
      split_ifs with small
      · have value : (UInt8.ofNat n).toNat = n := by
          rw [UInt8.toNat_ofNat']
          omega
        rw [List.singleton_append, readVarint, value, if_pos small]
      · have value : (UInt8.ofNat (n % 128 + 128)).toNat = n % 128 + 128 := by
          rw [UInt8.toNat_ofNat']
          omega
        have high : n / 128 < 128 ^ size := by
          rw [Nat.div_lt_iff_lt_mul (by decide), ← pow_succ]
          exact fits
        have more : 0 < size := by
          rcases Nat.eq_zero_or_pos size with rfl | more
          · simp at fits
            omega
          · exact more
        rw [List.cons_append, readVarint, value, if_neg (by omega),
          inductionHypothesis high more, Option.map_some]
        simp only [Option.some.injEq, Prod.mk.injEq, and_true]
        omega

/-- A field with its tag. -/
def field (tag : UInt8) (value : ℕ) : List UInt8 := tag :: varint 10 value

def readField (tag : UInt8) : List UInt8 → Option (ℕ × List UInt8)
  | [] => none
  | byte :: rest => if byte = tag then readVarint 10 rest else none

theorem readField_field (tag : UInt8) {value : ℕ} (fits : value < 2 ^ 64) (rest : List UInt8) :
    readField tag (field tag value ++ rest) = some (value, rest) := by
  have bound : value < 128 ^ 10 := lt_trans fits (by decide)
  rw [field, List.cons_append, readField, if_pos rfl]
  exact readVarint_varint bound (by decide) rest

/-- All four fields, in their order. -/
def wireFormat (header : MsgHeader) : List UInt8 :=
  field 0x08 header.cmd.toNat ++ (field 0x10 header.lengthData.toNat ++
    (field 0x18 header.status.toNat ++ field 0x20 header.token.toNat))

def parseWireFormat (bytes : List UInt8) : Option MsgHeader := do
  let (cmd, bytes) ← readField 0x08 bytes
  let (lengthData, bytes) ← readField 0x10 bytes
  let (status, bytes) ← readField 0x18 bytes
  let (token, bytes) ← readField 0x20 bytes
  if bytes = [] then
    some ⟨BitVec.ofNat 32 cmd, BitVec.ofNat 32 lengthData, BitVec.ofNat 32 status,
      BitVec.ofNat 64 token⟩
  else none

theorem parseWireFormat_wireFormat (header : MsgHeader) :
    parseWireFormat (wireFormat header) = some header := by
  have word (value : BitVec 32) : value.toNat < 2 ^ 64 := lt_trans value.isLt (by decide)
  have last := readField_field 0x20 header.token.isLt []
  rw [List.append_nil] at last
  simp [parseWireFormat, wireFormat, readField_field _ (word _), last]

theorem wireFormat_length (header : MsgHeader) : (wireFormat header).length < 2 ^ 31 := by
  have cmd := varint_length 10 header.cmd.toNat
  have lengthData := varint_length 10 header.lengthData.toNat
  have status := varint_length 10 header.status.toNat
  have token := varint_length 10 header.token.toNat
  simp only [wireFormat, field, List.length_append, List.length_cons]
  omega

/-- Every program writes and reads the wire format. -/
def wireCodec : MsgHeaderCodec where
  serialize _ := wireFormat
  parse _ := parseWireFormat
  parse_serialize _ _ := parseWireFormat_wireFormat
  short _ := wireFormat_length

end RildHisi.MockRil
