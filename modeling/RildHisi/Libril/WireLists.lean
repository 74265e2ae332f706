import RildHisi.Libril.ByteArrays
import RildHisi.Library.FixedWidth

/-!
Owns lists on the wire: a count, and as many records of a fixed width. What `responseInts`
and the two broadcast SMS functions write of a list against what the dispatch functions
make of it, and the other way round.
-/

namespace RildHisi.Libril

open RildHisi.Library

/-! ### Words -/

/-- Four bytes are written as they were read. -/
theorem wordBytes_wordOfBytes {bytes : List UInt8} (enough : 4 ≤ bytes.length) :
    wordBytes (wordOfBytes bytes) = bytes.take 4 := by
  match bytes with
  | [] | [_] | [_, _] | [_, _, _] => simp at enough
  | a :: b :: c :: d :: rest =>
      have boundA := a.toNat_lt
      have boundB := b.toNat_lt
      have boundC := c.toNat_lt
      have boundD := d.toNat_lt
      have value : (wordOfBytes (a :: b :: c :: d :: rest)).toNat =
          a.toNat + 2 ^ 8 * (b.toNat + 2 ^ 8 * (c.toNat + 2 ^ 8 * d.toNat)) := by
        simp only [wordOfBytes, List.take_succ_cons, List.take_zero, List.foldr_cons,
          List.foldr_nil, BitVec.toNat_ofNat]
        omega
      simp only [wordBytes, value, List.map_cons, List.map_nil, List.take_succ_cons,
        List.take_zero, List.cons.injEq, and_true]
      refine ⟨?_, ?_, ?_, ?_⟩ <;>
        · apply UInt8.toNat_inj.mp
          rw [UInt8.toNat_ofNat']
          omega

/-- The low byte of a word, written as an int. -/
theorem wordBytes_lowByte {bytes : List UInt8} (enough : 4 ≤ bytes.length) :
    wordBytes (BitVec.ofNat 32 (UInt8.ofNat (wordOfBytes bytes).toNat).toNat) =
      bytes.take 1 ++ [0, 0, 0] := by
  match bytes with
  | [] | [_] | [_, _] | [_, _, _] => simp at enough
  | a :: b :: c :: d :: rest =>
      have boundA := a.toNat_lt
      have boundB := b.toNat_lt
      have boundC := c.toNat_lt
      have boundD := d.toNat_lt
      have low : (UInt8.ofNat (wordOfBytes (a :: b :: c :: d :: rest)).toNat).toNat = a.toNat := by
        simp only [wordOfBytes, List.take_succ_cons, List.take_zero, List.foldr_cons,
          List.foldr_nil, BitVec.toNat_ofNat, UInt8.toNat_ofNat']
        omega
      have word : (BitVec.ofNat 32 a.toNat).toNat = a.toNat := by
        rw [BitVec.toNat_ofNat]
        omega
      rw [low]
      simp only [wordBytes, word, List.map_cons, List.map_nil, List.take_succ_cons,
        List.take_zero, List.cons_append, List.nil_append, List.cons.injEq, and_true]
      refine ⟨?_, ?_, ?_, ?_⟩ <;>
        · apply UInt8.toNat_inj.mp
          simp only [UInt8.toNat_ofNat', UInt8.toNat_zero]
          omega

/-- An int on the wire. -/
def wordCodec : FixedWidth UInt8 Word where
  width := 4
  encode := wordBytes
  decode := wordOfBytes
  normalize := id
  length_encode := wordBytes_length
  decode_encode := wordOfBytes_wordBytes
  encode_decode := by
    intro stream enough
    exact wordBytes_wordOfBytes enough

/-! ### Loops -/

/-- A read of an int that is there. -/
theorem readInt32_drop {unread : List UInt8} {offset : Nat} (inside : offset + 4 ≤ unread.length) :
    Unread.readInt32 (unread.drop offset) =
      (some (wordOfBytes (unread.drop offset)), unread.drop (offset + 4)) := by
  have enough : 4 ≤ (unread.drop offset).length := by
    rw [List.length_drop]
    omega
  rw [Unread.readInt32_enough enough, List.drop_drop]

/-- **A loop that reads records**: where each turn takes one and puts it in front of what the
others give, the loop gives the elements of the stream. -/
theorem runBytes_records (strndup16to8 : List Char16 → CString) {α τ ρ : Type}
    (codec : FixedWidth UInt8 α) (loop : Nat → τ → Reads OnRequest ρ) (result : List α → ρ)
    (last : ∀ t, loop 0 t = pure (result []))
    (turn : ∀ count t (following : ρ → Reads OnRequest Unit) (unread : List UInt8),
      codec.width ≤ unread.length → ∃ t' following',
        (loop (count + 1) t >>= following).runBytes strndup16to8 unread =
          (loop count t' >>= following').runBytes strndup16to8 (unread.drop codec.width) ∧
        ∀ entries, following' (result entries) =
          following (result (codec.decode unread :: entries)))
    (count : Nat) (t : τ) (following : ρ → Reads OnRequest Unit) {unread : List UInt8}
    (enough : codec.width * count ≤ unread.length) :
    (loop count t >>= following).runBytes strndup16to8 unread =
      (following (result (codec.elements count unread))).runBytes strndup16to8
        (unread.drop (codec.width * count)) := by
  induction count generalizing t unread following with
  | zero =>
      rw [last]
      rfl
  | succ count inductionHypothesis =>
      rw [Nat.mul_succ] at enough ⊢
      have behind : codec.width * count ≤ (unread.drop codec.width).length := by
        rw [List.length_drop]
        omega
      obtain ⟨t', following', same, hands⟩ := turn count t following unread (by omega)
      rw [same, inductionHypothesis t' following' behind, hands, List.drop_drop, Nat.add_comm]
      rfl

/-! ### Ints -/

section Ints

variable (strndup16to8 : List Char16 → CString) (abi : Abi) (request : RilRequest) (pRI : Nat)

theorem runBytes_readInts (count : Nat) {unread : List UInt8}
    (following : Option (List Word) → Reads OnRequest Unit) (enough : 4 * count ≤ unread.length) :
    (readInts count >>= following).runBytes strndup16to8 unread =
      (following (some (wordCodec.elements count unread))).runBytes strndup16to8
        (unread.drop (4 * count)) := by
  apply runBytes_records strndup16to8 wordCodec (fun count (_ : Unit) => readInts count) some
    (fun _ => rfl) _ count () following enough
  intro count _ following unread first
  refine ⟨(), fun pInts => following (pInts.map (wordOfBytes unread :: ·)), ?_, fun _ => rfl⟩
  rw [readInts, Reads.then_assoc, Reads.runBytes_readInt32_bind, Unread.readInt32_enough first]
  simp only [Option.isSome_some, Bool.not_true, Bool.false_eq_true, if_false, Option.getD_some]
  rw [Reads.then_assoc]
  rfl

/-- What `dispatchInts` hands over where all the ints are there. -/
theorem dispatchInts_calls {payload : List UInt8} (enough : 4 ≤ payload.length)
    (some_ : wordOfBytes payload ≠ 0)
    (whole : 4 + 4 * (wordOfBytes payload).toInt.toNat ≤ payload.length) :
    ((dispatchInts abi request pRI).runBytes strndup16to8 payload).2.2 =
      [⟨request, .ints (wordCodec.elements (wordOfBytes payload).toInt.toNat (payload.drop 4)),
        abi.wrap (4 * abi.sizeT (wordOfBytes payload)), pRI⟩] := by
  have behind : 4 * (wordOfBytes payload).toInt.toNat ≤ (payload.drop 4).length := by
    rw [List.length_drop]
    omega
  unfold dispatchInts
  rw [Reads.runBytes_readInt32_bind, Unread.readInt32_enough enough]
  simp only [Option.isSome_some, Bool.not_true, Bool.false_or, Option.getD_some, some_,
    decide_false, Bool.false_eq_true, if_false]
  rw [runBytes_readInts strndup16to8 _ _ behind]
  rfl

end Ints

/-- The payload of a list: its count, and its records. -/
def listPayload {α : Type} (codec : FixedWidth UInt8 α) (entries : List α) : List UInt8 :=
  wordBytes (BitVec.ofNat 32 entries.length) ++ entries.flatMap codec.encode

/-- The count of a list is an int. -/
theorem toNat_count {count : Nat} (few : count < 2 ^ 31) :
    (BitVec.ofNat 32 count : Word).toInt.toNat = count := by
  have word : (BitVec.ofNat 32 count : Word).toNat = count := by
    rw [BitVec.toNat_ofNat]
    omega
  rw [BitVec.toInt_eq_toNat_of_lt (by omega), word, Int.toNat_natCast]

section Payloads

variable {α : Type} (codec : FixedWidth UInt8 α) {entries : List α}

@[simp] theorem wordOfBytes_listPayload :
    wordOfBytes (listPayload codec entries) = BitVec.ofNat 32 entries.length :=
  wordOfBytes_wordBytes _ _

@[simp] theorem drop_listPayload :
    (listPayload codec entries).drop 4 = entries.flatMap codec.encode :=
  drop_wordBytes _ _

theorem length_listPayload :
    (listPayload codec entries).length = 4 + codec.width * entries.length := by
  rw [listPayload, List.length_append, wordBytes_length, codec.length_flatMap_encode]

theorem elements_listPayload (few : entries.length < 2 ^ 31) :
    codec.elements (BitVec.ofNat 32 entries.length : Word).toInt.toNat
      (entries.flatMap codec.encode) = entries := by
  have all := codec.elements_flatMap entries []
  rw [List.append_nil] at all
  rw [toNat_count few, all]

end Payloads

section Parcels

variable (P : Type) [Platform P] (request : RilRequest) (pRI : Nat)

/-- What a response function writes into a new parcel. -/
def payloadWritten (writes : List ParcelWrite) : List UInt8 :=
  Platform.data (writes.foldl ParcelWrite.apply (Platform.new : P))

/-- A list that is written with its count, each record in words. -/
def listWrites {α : Type} (words : α → List Word) (entries : List α) : List ParcelWrite :=
  .int32 (BitVec.ofNat 32 entries.length) :: entries.flatMap fun entry => (words entry).map .int32

theorem length_listWrites_int (pInts : List Word) :
    (listWrites (fun word => [word]) pInts).length = pInts.length + 1 := by
  rw [listWrites, List.length_cons]
  induction pInts with
  | nil => rfl
  | cons word pInts inductionHypothesis =>
      simp only [List.flatMap_cons, List.length_append, List.map_cons, List.map_nil,
        List.length_cons, List.length_nil] at inductionHypothesis ⊢
      omega

theorem payloadWritten_list [AppendingPlatform P] {α : Type} (codec : FixedWidth UInt8 α)
    {words : α → List Word} (encode : ∀ entry, codec.encode entry = (words entry).flatMap wordBytes)
    (entries : List α) : payloadWritten P (listWrites words entries) = listPayload codec entries := by
  have fits : ∀ write ∈ listWrites words entries, write.Fits P := by
    intro write member
    cases member with
    | head => trivial
    | tail _ member =>
        obtain ⟨entry, -, member⟩ := List.mem_flatMap.mp member
        obtain ⟨word, -, rfl⟩ := List.mem_map.mp member
        trivial
  rw [payloadWritten, data_foldl_new P fits, listWrites, List.flatMap_cons, listPayload,
    List.flatMap_assoc]
  apply congrArg (wordBytes _ ++ ·)
  apply List.flatMap_congr
  intro entry _
  rw [encode, List.flatMap_map]
  rfl

/-- The loop of a response function over a list whose length is an int. -/
theorem counted_list {α : Type} (words : α → List Word) (entry : Nat → α) {n : Nat}
    (few : n < 2 ^ 31) :
    counted n (fun i => (words (entry i)).map .int32) =
      listWrites words ((List.range n).map entry) := by
  rw [counted, toNat_count few, listWrites, List.length_map, List.length_range, List.flatMap_map]

/-- Such a loop never takes more steps than the length. -/
theorem toNat_count_le (num : Nat) : (BitVec.ofNat 32 num : Word).toInt.toNat ≤ num := by
  have small : (BitVec.ofNat 32 num : Word).toNat ≤ num := by
    rw [BitVec.toNat_ofNat]
    exact Nat.mod_le _ _
  have bound : (BitVec.ofNat 32 num : Word).toInt ≤ (BitVec.ofNat 32 num : Word).toNat := by
    rw [BitVec.toInt_eq_toNat_cond]
    split <;> omega
  omega

/-- The array of `n` ints at the pointer is written whole, and `dispatchInts` hands over what
was written as that array. -/
def IntsSurvive (pointee : Pointee) (n : Nat) : Prop :=
  ∃ writes, responseInts (Platform.abi P) (some pointee) (n * 4) = some (writes, 0) ∧
    writes = listWrites (fun word => [word]) ((List.range n).map pointee.ints) ∧
    ((dispatchInts (Platform.abi P) request pRI).run
        (Platform.setData (payloadWritten P writes) : P)).2.2 =
      [⟨request, .ints ((List.range n).map pointee.ints), n * 4, pRI⟩]

theorem responseInts_some (abi : Abi) (pointee : Pointee) (n : Nat) :
    responseInts abi (some pointee) (n * 4) =
      some (counted (n * 4 / abi.ptrSize) fun i => [.int32 (pointee.ints i)], 0) := by
  have whole : invalidArray (some pointee) (n * 4) 4 = false := by simp [invalidArray]
  rw [responseInts, whole]
  rfl

/-- A list of ints that was written is handed over. -/
theorem dispatchInts_listPayload (strndup16to8 : List Char16 → CString) (abi : Abi)
    {pInts : List Word} (nonempty : pInts ≠ []) (few : pInts.length < 2 ^ 31) :
    ((dispatchInts abi request pRI).runBytes strndup16to8 (listPayload wordCodec pInts)).2.2 =
      [⟨request, .ints pInts, abi.wrap (4 * pInts.length), pRI⟩] := by
  have size : (listPayload wordCodec pInts).length = _ := length_listPayload wordCodec
  have width : wordCodec.width = 4 := rfl
  have enough : 4 ≤ (listPayload wordCodec pInts).length := by omega
  have some_ : wordOfBytes (listPayload wordCodec pInts) ≠ 0 := by
    rw [wordOfBytes_listPayload]
    intro zero
    have count := congrArg (fun word : Word => word.toInt.toNat) zero
    rw [toNat_count few] at count
    exact nonempty (List.length_eq_zero_iff.mp count)
  have whole : 4 + 4 * (wordOfBytes (listPayload wordCodec pInts)).toInt.toNat ≤
      (listPayload wordCodec pInts).length := by
    rw [wordOfBytes_listPayload, toNat_count few, size, width]
  rw [dispatchInts_calls strndup16to8 abi request pRI enough some_ whole, wordOfBytes_listPayload,
    drop_listPayload, elements_listPayload wordCodec few, abi.sizeT_ofNat few]

/-- **Lists of ints** survive the wire exactly where pointers have the size of ints. -/
theorem responseInts_survive_iff [AppendingPlatform P] (pointee : Pointee) (n : Nat)
    (nonempty : 1 ≤ n) (inMemory : n * 4 < 2 ^ (8 * (Platform.abi P).ptrSize)) :
    IntsSurvive P request pRI pointee n ↔ Platform.abi P = .ilp32 := by
  unfold IntsSurvive
  rw [responseInts_some]
  cases abi : Platform.abi P with
  | ilp32 =>
      rw [abi] at inMemory
      have size : Abi.ilp32.ptrSize = 4 := rfl
      rw [size] at inMemory
      have few : n < 2 ^ 31 := by omega
      have count : ((List.range n).map pointee.ints).length = n := by simp
      have some_ : (List.range n).map pointee.ints ≠ [] := by
        intro empty
        rw [empty] at count
        exact absurd count (by simp only [List.length_nil]; omega)
      have fits : Abi.ilp32.wrap (4 * n) = n * 4 := by
        rw [Abi.wrap, size, Nat.mul_comm, Nat.mod_eq_of_lt inMemory]
      rw [size, Nat.mul_div_cancel n (by decide)]
      have written := counted_list (fun word => [word]) pointee.ints few
      simp only [List.map_cons, List.map_nil] at written
      rw [written]
      apply iff_of_true _ rfl
      refine ⟨_, rfl, rfl, ?_⟩
      rw [Reads.run_calls, LawfulPlatform.unread_setData,
        payloadWritten_list P wordCodec (fun word => (List.append_nil _).symm),
        dispatchInts_listPayload request pRI _ _ some_ (count.symm ▸ few), count, fits]
  | lp64 =>
      apply iff_of_false _ (by decide)
      intro survive
      obtain ⟨writes, written, whole, -⟩ := survive
      obtain rfl := congrArg Prod.fst (Option.some.inj written)
      -- half of the ints are missing, and one at least
      have lengths := congrArg List.length whole
      have half := toNat_count_le (n * 4 / 8)
      rw [length_listWrites_int] at lengths
      simp [counted, Abi.ptrSize] at lengths
      omega

end Parcels

/-- The two ints 5 and 6. -/
def twoInts : Pointee := { (default : Pointee) with ints := fun i => if i = 0 then 5 else 6 }

/-- A parcel of bytes where pointers have four bytes. -/
def ByteParcel32 : Type := ByteParcel

instance : Platform ByteParcel32 :=
  { ByteParcel.instPlatform with abi := .ilp32 }

instance : AppendingPlatform ByteParcel32 where
  data_new := rfl
  dataPosition_new := rfl
  unread_setData _ := rfl
  readInt32 := LawfulPlatform.readInt32 (P := ByteParcel)
  read := LawfulPlatform.read (P := ByteParcel)
  readInplace := LawfulPlatform.readInplace (P := ByteParcel)
  readString16Inplace := LawfulPlatform.readString16Inplace (P := ByteParcel)
  data_setDataPosition _ _ := rfl
  dataPosition_setDataPosition _ _ _ := rfl
  data_writeInt32 _ _ := rfl
  dataPosition_writeInt32 _ _ := rfl
  data_write _ _ _ := rfl
  write_keeps := LawfulPlatform.write_keeps (P := ByteParcel)
  writeString16_keeps := LawfulPlatform.writeString16_keeps (P := ByteParcel)
  write _ _ _ := ⟨rfl, rfl⟩
  writeString16 _ _ _ := ⟨rfl, rfl⟩

theorem responseInts_survive_twoInts :
    IntsSurvive ByteParcel32 .queryClip 16 twoInts 2 ∧
      ¬ IntsSurvive ByteParcel .queryClip 16 twoInts 2 :=
  ⟨(responseInts_survive_iff ByteParcel32 .queryClip 16 twoInts 2 (by decide) (by decide)).mpr rfl,
    fun survive => absurd
      ((responseInts_survive_iff ByteParcel .queryClip 16 twoInts 2 (by decide) (by decide)).mp
        survive) (by decide)⟩

/-- **The second int is lost** with pointers of eight bytes: the count that is written is 1. -/
theorem twoInts_halved :
    responseInts .lp64 (some twoInts) (2 * 4) = some ([.int32 1, .int32 5], 0) ∧
      ¬ IntsSurvive ByteParcel .queryClip 16 twoInts 2 := by
  have halved : responseInts .lp64 (some twoInts) (2 * 4) = some ([.int32 1, .int32 5], 0) := rfl
  apply And.intro halved
  intro survive
  obtain ⟨writes, written, whole, -⟩ := survive
  obtain rfl := congrArg Prod.fst (Option.some.inj (halved.symm.trans written))
  exact absurd (congrArg List.length whole) (by decide)

/-! ### Broadcast SMS configurations -/

/-- A block whose last word is narrowed to its low byte. -/
def narrowFlag (block : List UInt8) : List UInt8 := block.take (block.length - 3) ++ [0, 0, 0]

/-- An entry of ints, with a flag of one byte behind them. -/
structure FlaggedEntry (α : Type) where
  ints : Nat
  front : α → List Word
  flag : α → UInt8
  make : List Word → UInt8 → α
  length_front : ∀ entry, (front entry).length = ints
  make_front : ∀ entry, make (front entry) (flag entry) = entry
  front_make : ∀ words flag, words.length = ints → front (make words flag) = words
  flag_make : ∀ words byte, words.length = ints → flag (make words byte) = byte

namespace FlaggedEntry

variable {α : Type} (record : FlaggedEntry α)

/-- The ints an entry is written as: its flag is one of them. -/
def words (entry : α) : List Word :=
  record.front entry ++ [BitVec.ofNat 32 (record.flag entry).toNat]

/-- The entry at the front of the bytes. The int of the flag is cast to a byte. -/
def read (bytes : List UInt8) : α :=
  record.make (wordCodec.elements record.ints bytes)
    (UInt8.ofNat (wordOfBytes (bytes.drop (4 * record.ints))).toNat)

theorem flatMap_words (entry : α) : (record.words entry).flatMap wordBytes =
    (record.front entry).flatMap wordBytes ++
      wordBytes (BitVec.ofNat 32 (record.flag entry).toNat) := by
  rw [words, List.flatMap_append, List.flatMap_singleton]

theorem length_front_bytes (entry : α) :
    ((record.front entry).flatMap wordBytes).length = 4 * record.ints := by
  rw [← record.length_front entry]
  exact wordCodec.length_flatMap_encode (record.front entry)

/-- A byte written as an int is read back. -/
theorem ofNat_toNat_flag (flag : UInt8) :
    UInt8.ofNat (BitVec.ofNat 32 flag.toNat : Word).toNat = flag := by
  have bound := flag.toNat_lt
  apply UInt8.toNat_inj.mp
  rw [UInt8.toNat_ofNat', BitVec.toNat_ofNat]
  omega

theorem read_words (entry : α) (rest : List UInt8) :
    record.read ((record.words entry).flatMap wordBytes ++ rest) = entry := by
  have front : wordCodec.elements record.ints ((record.words entry).flatMap wordBytes ++ rest) =
      record.front entry := by
    rw [flatMap_words, List.append_assoc, ← record.length_front entry]
    exact wordCodec.elements_flatMap _ _
  have behind : ((record.words entry).flatMap wordBytes ++ rest).drop (4 * record.ints) =
      wordBytes (BitVec.ofNat 32 (record.flag entry).toNat) ++ rest := by
    rw [flatMap_words, List.append_assoc, ← record.length_front_bytes entry, List.drop_left]
  rw [read, front, behind, wordOfBytes_wordBytes, ofNat_toNat_flag, record.make_front]

theorem words_read {stream : List UInt8} (enough : 4 * record.ints + 4 ≤ stream.length) :
    (record.words (record.read stream)).flatMap wordBytes =
      narrowFlag (stream.take (4 * record.ints + 4)) := by
  have count : (wordCodec.elements record.ints stream).length = record.ints :=
    wordCodec.length_elements _ _
  have front : (wordCodec.elements record.ints stream).flatMap wordBytes =
      stream.take (4 * record.ints) := by
    have whole : wordCodec.width * record.ints ≤ stream.length := by
      show 4 * record.ints ≤ stream.length
      omega
    have written := wordCodec.flatMap_elements whole
    rw [wordCodec.normalized_eq_take fun _ => rfl] at written
    exact written
  have last : 4 ≤ (stream.drop (4 * record.ints)).length := by
    rw [List.length_drop]
    omega
  have length : (stream.take (4 * record.ints + 4)).length - 3 = 4 * record.ints + 1 := by
    rw [List.length_take]
    omega
  have narrowed : (stream.take (4 * record.ints + 4)).take (4 * record.ints + 1) =
      stream.take (4 * record.ints) ++ (stream.drop (4 * record.ints)).take 1 := by
    rw [List.take_take, Nat.min_eq_left (by omega), List.take_add]
  rw [flatMap_words, read, record.front_make _ _ count, record.flag_make _ _ count, front,
    wordBytes_lowByte last, narrowFlag, length, narrowed, List.append_assoc]

/-- An entry on the wire. -/
def codec : FixedWidth UInt8 α where
  width := 4 * record.ints + 4
  encode := fun entry => (record.words entry).flatMap wordBytes
  decode := record.read
  normalize := narrowFlag
  length_encode := by
    intro entry
    rw [flatMap_words, List.length_append, length_front_bytes, wordBytes_length]
  decode_encode := record.read_words
  encode_decode := by
    intro stream enough
    exact record.words_read enough

end FlaggedEntry

def gsmEntry : FlaggedEntry RilGsmBroadcastSmsConfigInfo where
  ints := 4
  front := fun entry =>
    [entry.fromServiceId, entry.toServiceId, entry.fromCodeScheme, entry.toCodeScheme]
  flag := RilGsmBroadcastSmsConfigInfo.selected
  make := fun words selected =>
    ⟨words.getD 0 0, words.getD 1 0, words.getD 2 0, words.getD 3 0, selected⟩
  length_front := fun _ => rfl
  make_front := fun _ => rfl
  front_make := by
    intro words selected count
    match words with
    | [fromServiceId, toServiceId, fromCodeScheme, toCodeScheme] => rfl
  flag_make := fun _ _ _ => rfl

def cdmaEntry : FlaggedEntry RilCdmaBroadcastSmsConfigInfo where
  ints := 2
  front := fun entry => [entry.serviceCategory, entry.language]
  flag := RilCdmaBroadcastSmsConfigInfo.selected
  make := fun words selected => ⟨words.getD 0 0, words.getD 1 0, selected⟩
  length_front := fun _ => rfl
  make_front := fun _ => rfl
  front_make := by
    intro words selected count
    match words with
    | [serviceCategory, language] => rfl
  flag_make := fun _ _ _ => rfl

/-- A list of configurations in both directions: its entries, where the dispatch function
and the response function keep it, and the two functions. -/
structure BrSmsCnf (α : Type) where
  record : FlaggedEntry α
  data : List α → RequestData
  entry : Pointee → Nat → α
  dispatch : Abi → RilRequest → Nat → Reads OnRequest Unit
  response : Abi → Option Pointee → Nat → Marshalled
  dispatch_calls : ∀ strndup16to8 abi request pRI (payload : List UInt8),
    4 + record.codec.width * (wordOfBytes payload).toInt.toNat ≤ payload.length →
    ((dispatch abi request pRI).runBytes strndup16to8 payload).2.2 =
      [⟨request, data (record.codec.elements (wordOfBytes payload).toInt.toNat (payload.drop 4)),
        abi.wrap (abi.sizeT (wordOfBytes payload) * abi.ptrSize), pRI⟩]
  dispatch_silent : ∀ strndup16to8 abi request pRI (payload : List UInt8),
    ¬ 4 + record.codec.width * (wordOfBytes payload).toInt.toNat ≤ payload.length →
    ((dispatch abi request pRI).runBytes strndup16to8 payload).2.2 = []
  response_some : ∀ abi pointee responselen,
    response abi (some pointee) responselen =
      some (counted (responselen / abi.ptrSize) fun i =>
        (record.words (entry pointee i)).map .int32, 0)

section Dispatch

variable (strndup16to8 : List Char16 → CString) (abi : Abi) (request : RilRequest) (pRI : Nat)

theorem decode_gsmEntry (unread : List UInt8) :
    gsmEntry.codec.decode unread =
      ⟨wordOfBytes unread, wordOfBytes (unread.drop 4), wordOfBytes (unread.drop 8),
        wordOfBytes (unread.drop 12), UInt8.ofNat (wordOfBytes (unread.drop 16)).toNat⟩ := by
  simp [FlaggedEntry.codec, FlaggedEntry.read, gsmEntry, FixedWidth.elements, wordCodec]

theorem decode_cdmaEntry (unread : List UInt8) :
    cdmaEntry.codec.decode unread =
      ⟨wordOfBytes unread, wordOfBytes (unread.drop 4),
        UInt8.ofNat (wordOfBytes (unread.drop 8)).toNat⟩ := by
  simp [FlaggedEntry.codec, FlaggedEntry.read, cdmaEntry, FixedWidth.elements, wordCodec]

theorem runBytes_readGsmBci (num : Nat) (t : Word) {unread : List UInt8}
    (following : Bool × List RilGsmBroadcastSmsConfigInfo → Reads OnRequest Unit)
    (enough : 20 * num ≤ unread.length) :
    (readGsmBci num true t >>= following).runBytes strndup16to8 unread =
      (following (true, gsmEntry.codec.elements num unread)).runBytes strndup16to8
        (unread.drop (20 * num)) := by
  apply runBytes_records strndup16to8 gsmEntry.codec (fun num t => readGsmBci num true t)
    (fun gsmBci => (true, gsmBci)) (fun _ => rfl) _ num t following enough
  intro num t following unread whole
  have inside : 20 ≤ unread.length := whole
  have fromServiceId : Unread.readInt32 unread = _ := Unread.readInt32_enough (by omega)
  have toServiceId : Unread.readInt32 (unread.drop 4) = _ := readInt32_drop (by omega)
  have fromCodeScheme : Unread.readInt32 (unread.drop 8) = _ := readInt32_drop (by omega)
  have toCodeScheme : Unread.readInt32 (unread.drop 12) = _ := readInt32_drop (by omega)
  have selected : Unread.readInt32 (unread.drop 16) = _ := readInt32_drop (by omega)
  refine ⟨wordOfBytes (unread.drop 16), fun others =>
    following (others.1, gsmEntry.codec.decode unread :: others.2), ?_, fun _ => rfl⟩
  rw [readGsmBci, decode_gsmEntry]
  simp only [Reads.then_assoc, Reads.runBytes_readInt32_bind, fromServiceId, toServiceId,
    fromCodeScheme, toCodeScheme, selected, Nat.reduceAdd, Option.isSome_some]
  rfl

theorem runBytes_readCdmaBci (num : Nat) (t : Word) {unread : List UInt8}
    (following : Bool × List RilCdmaBroadcastSmsConfigInfo → Reads OnRequest Unit)
    (enough : 12 * num ≤ unread.length) :
    (readCdmaBci num true t >>= following).runBytes strndup16to8 unread =
      (following (true, cdmaEntry.codec.elements num unread)).runBytes strndup16to8
        (unread.drop (12 * num)) := by
  apply runBytes_records strndup16to8 cdmaEntry.codec (fun num t => readCdmaBci num true t)
    (fun cdmaBci => (true, cdmaBci)) (fun _ => rfl) _ num t following enough
  intro num t following unread whole
  have inside : 12 ≤ unread.length := whole
  have serviceCategory : Unread.readInt32 unread = _ := Unread.readInt32_enough (by omega)
  have language : Unread.readInt32 (unread.drop 4) = _ := readInt32_drop (by omega)
  have selected : Unread.readInt32 (unread.drop 8) = _ := readInt32_drop (by omega)
  refine ⟨wordOfBytes (unread.drop 8), fun others =>
    following (others.1, cdmaEntry.codec.decode unread :: others.2), ?_, fun _ => rfl⟩
  rw [readCdmaBci, decode_cdmaEntry]
  simp only [Reads.then_assoc, Reads.runBytes_readInt32_bind, serviceCategory, language,
    selected, Nat.reduceAdd, Option.isSome_some]
  rfl

theorem dispatchGsmBrSmsCnf_calls {payload : List UInt8}
    (whole : 4 + 20 * (wordOfBytes payload).toInt.toNat ≤ payload.length) :
    ((dispatchGsmBrSmsCnf abi request pRI).runBytes strndup16to8 payload).2.2 =
      [⟨request, .gsmBrSmsCnf (gsmEntry.codec.elements (wordOfBytes payload).toInt.toNat
          (payload.drop 4)), abi.wrap (abi.sizeT (wordOfBytes payload) * abi.ptrSize), pRI⟩] := by
  have enough : 4 ≤ payload.length := by omega
  have behind : 20 * (wordOfBytes payload).toInt.toNat ≤ (payload.drop 4).length := by
    rw [List.length_drop]
    omega
  unfold dispatchGsmBrSmsCnf
  rw [Reads.runBytes_readInt32_bind, Unread.readInt32_enough enough]
  simp only [Option.isSome_some, Bool.not_true, Bool.false_eq_true, if_false, Option.getD_some]
  rw [runBytes_readGsmBci strndup16to8 _ _ _ behind]
  rfl

theorem dispatchCdmaBrSmsCnf_calls {payload : List UInt8}
    (whole : 4 + 12 * (wordOfBytes payload).toInt.toNat ≤ payload.length) :
    ((dispatchCdmaBrSmsCnf abi request pRI).runBytes strndup16to8 payload).2.2 =
      [⟨request, .cdmaBrSmsCnf (cdmaEntry.codec.elements (wordOfBytes payload).toInt.toNat
          (payload.drop 4)), abi.wrap (abi.sizeT (wordOfBytes payload) * abi.ptrSize), pRI⟩] := by
  have enough : 4 ≤ payload.length := by omega
  have behind : 12 * (wordOfBytes payload).toInt.toNat ≤ (payload.drop 4).length := by
    rw [List.length_drop]
    omega
  unfold dispatchCdmaBrSmsCnf
  rw [Reads.runBytes_readInt32_bind, Unread.readInt32_enough enough]
  simp only [Option.isSome_some, Bool.not_true, Bool.false_eq_true, if_false, Option.getD_some]
  rw [runBytes_readCdmaBci strndup16to8 _ _ _ behind]
  rfl

end Dispatch

def gsmBrSmsCnf : BrSmsCnf RilGsmBroadcastSmsConfigInfo where
  record := gsmEntry
  data := .gsmBrSmsCnf
  entry := Pointee.gsmBci
  dispatch := dispatchGsmBrSmsCnf
  response := responseGsmBrSmsCnf
  dispatch_calls := by
    intro strndup16to8 abi request pRI payload whole
    exact dispatchGsmBrSmsCnf_calls strndup16to8 abi request pRI whole
  dispatch_silent := by
    intro strndup16to8 abi request pRI payload short
    apply (dispatchGsmBrSmsCnf_decides abi request pRI 0 strndup16to8 payload).silent
    exact fun accepts => short accepts.2
  response_some := fun _ _ _ => rfl

def cdmaBrSmsCnf : BrSmsCnf RilCdmaBroadcastSmsConfigInfo where
  record := cdmaEntry
  data := .cdmaBrSmsCnf
  entry := Pointee.cdmaBci
  dispatch := dispatchCdmaBrSmsCnf
  response := responseCdmaBrSmsCnf
  dispatch_calls := by
    intro strndup16to8 abi request pRI payload whole
    exact dispatchCdmaBrSmsCnf_calls strndup16to8 abi request pRI whole
  dispatch_silent := by
    intro strndup16to8 abi request pRI payload short
    apply (dispatchCdmaBrSmsCnf_decides abi request pRI 0 strndup16to8 payload).silent
    exact fun accepts => short accepts.2
  response_some := fun _ _ _ => rfl

/-- The two broadcast SMS configurations. -/
inductive BrSmsKind
  | gsm | cdma
  deriving DecidableEq, Repr

def BrSmsKind.Entry : BrSmsKind → Type
  | gsm => RilGsmBroadcastSmsConfigInfo
  | cdma => RilCdmaBroadcastSmsConfigInfo

def BrSmsKind.cnf : (kind : BrSmsKind) → BrSmsCnf kind.Entry
  | gsm => gsmBrSmsCnf
  | cdma => cdmaBrSmsCnf

namespace BrSmsCnf

variable {α : Type} (cnf : BrSmsCnf α) (P : Type) [Platform P] (request : RilRequest) (pRI : Nat)

/-- The array of pointers leads to these entries. -/
def Holds (pointee : Pointee) (entries : List α) : Prop :=
  (List.range entries.length).map (cnf.entry pointee) = entries

/-- What the response function writes of the entries is handed over as them. -/
def RoundTrips (entries : List α) : Prop :=
  ∀ pointee, cnf.Holds pointee entries → ∃ writes,
    cnf.response (Platform.abi P) (some pointee) (entries.length * (Platform.abi P).ptrSize) =
      some (writes, 0) ∧
    ((cnf.dispatch (Platform.abi P) request pRI).run
        (Platform.setData (payloadWritten P writes) : P)).2.2 =
      [⟨request, cnf.data entries, entries.length * (Platform.abi P).ptrSize, pRI⟩]

/-- The count and the entries at the front of a payload, each flag narrowed to a byte. -/
def usedPrefix (payload : List UInt8) : List UInt8 :=
  payload.take 4 ++
    cnf.record.codec.normalized (wordOfBytes payload).toInt.toNat (payload.drop 4)

/-- What is handed over of a payload is written back by the response function. -/
def WritesBack (p : P) : Prop :=
  ∀ argument ∈ ((cnf.dispatch (Platform.abi P) request pRI).run p).2.2,
    ∃ entries, argument.data = cnf.data entries ∧
      ∀ pointee, cnf.Holds pointee entries → ∃ writes,
        cnf.response (Platform.abi P) (some pointee) argument.datalen = some (writes, 0) ∧
        payloadWritten P writes = cnf.usedPrefix (unread p)

theorem payloadWritten_words [AppendingPlatform P] (entries : List α) :
    payloadWritten P (listWrites cnf.record.words entries) =
      listPayload cnf.record.codec entries :=
  payloadWritten_list P cnf.record.codec (fun _ => rfl) entries

/-- The response function on an array whose length is an int. -/
theorem response_entries {abi : Abi} {pointee : Pointee} {entries : List α} {responselen : Nat}
    (holds : cnf.Holds pointee entries) (few : entries.length < 2 ^ 31)
    (size : responselen / abi.ptrSize = entries.length) :
    cnf.response abi (some pointee) responselen =
      some (listWrites cnf.record.words entries, 0) := by
  have written := counted_list cnf.record.words (cnf.entry pointee) few
  rw [holds] at written
  rw [cnf.response_some, size, written]

theorem roundTrips_of_few [AppendingPlatform P] {entries : List α} (few : entries.length < 2 ^ 31)
    (inMemory : entries.length * (Platform.abi P).ptrSize < 2 ^ (8 * (Platform.abi P).ptrSize)) :
    cnf.RoundTrips P request pRI entries := by
  intro pointee holds
  have positive : 0 < (Platform.abi P).ptrSize := by cases Platform.abi P <;> decide
  have written := cnf.response_entries holds few (Nat.mul_div_cancel _ positive)
  refine ⟨_, written, ?_⟩
  have whole : 4 + cnf.record.codec.width *
      (wordOfBytes (listPayload cnf.record.codec entries)).toInt.toNat ≤
        (listPayload cnf.record.codec entries).length := by
    rw [wordOfBytes_listPayload, toNat_count few, length_listPayload]
  rw [Reads.run_calls, LawfulPlatform.unread_setData, payloadWritten_words,
    cnf.dispatch_calls _ _ _ _ _ whole, wordOfBytes_listPayload, drop_listPayload,
    elements_listPayload _ few, Abi.sizeT_ofNat _ few, Abi.wrap, Nat.mod_eq_of_lt inMemory]

/-- The pointers of entries that were read lie in memory. -/
theorem pointers_inMemory (abi : Abi) {width count length : Nat} (few : count < 2 ^ 31)
    (wide : 4 ≤ width) (whole : 4 + width * count ≤ length)
    (inMemory : length < 2 ^ (8 * abi.ptrSize)) : count * abi.ptrSize < 2 ^ (8 * abi.ptrSize) := by
  cases abi with
  | ilp32 =>
      have narrow : 4 * count ≤ width * count := Nat.mul_le_mul_right count wide
      simp only [Abi.ptrSize] at inMemory ⊢
      omega
  | lp64 =>
      simp only [Abi.ptrSize]
      omega

theorem listPayload_elements {payload : List UInt8} (positive : 0 ≤ (wordOfBytes payload).toInt)
    (whole : 4 + cnf.record.codec.width * (wordOfBytes payload).toInt.toNat ≤ payload.length) :
    listPayload cnf.record.codec
        (cnf.record.codec.elements (wordOfBytes payload).toInt.toNat (payload.drop 4)) =
      cnf.usedPrefix payload := by
  have behind : cnf.record.codec.width * (wordOfBytes payload).toInt.toNat ≤
      (payload.drop 4).length := by
    rw [List.length_drop]
    omega
  have count : BitVec.ofNat 32 (wordOfBytes payload).toInt.toNat = wordOfBytes payload := by
    rw [toInt_eq_toNat positive, Int.toNat_natCast, BitVec.ofNat_toNat, BitVec.setWidth_eq]
  rw [listPayload, FixedWidth.length_elements, count, wordBytes_wordOfBytes (by omega),
    cnf.record.codec.flatMap_elements behind, usedPrefix]

theorem writesBack_of_count [AppendingPlatform P] {p : P}
    (positive : 0 ≤ (wordOfBytes (unread p)).toInt)
    (inMemory : (unread p).length < 2 ^ (8 * (Platform.abi P).ptrSize)) :
    cnf.WritesBack P request pRI p := by
  unfold WritesBack
  rw [Reads.run_calls]
  generalize unread p = payload at positive inMemory ⊢
  intro argument member
  by_cases whole : 4 + cnf.record.codec.width * (wordOfBytes payload).toInt.toNat ≤ payload.length
  · have few : (wordOfBytes payload).toInt.toNat < 2 ^ 31 := by
      have bound := BitVec.toInt_lt (x := wordOfBytes payload)
      omega
    have size : 0 < (Platform.abi P).ptrSize := by cases Platform.abi P <;> decide
    have fits := pointers_inMemory (Platform.abi P) few (Nat.le_add_left 4 _) whole inMemory
    rw [cnf.dispatch_calls _ _ _ _ _ whole] at member
    obtain rfl := List.mem_singleton.mp member
    refine ⟨_, rfl, ?_⟩
    intro pointee holds
    have count := cnf.record.codec.length_elements (wordOfBytes payload).toInt.toNat
      (payload.drop 4)
    have sizeT : (Platform.abi P).sizeT (wordOfBytes payload) =
        (wordOfBytes payload).toInt.toNat := by
      rw [Abi.sizeT_of_nonneg _ positive, toInt_eq_toNat positive, Int.toNat_natCast]
    have responselen : (Platform.abi P).wrap ((Platform.abi P).sizeT (wordOfBytes payload) *
        (Platform.abi P).ptrSize) / (Platform.abi P).ptrSize =
          (cnf.record.codec.elements (wordOfBytes payload).toInt.toNat (payload.drop 4)).length := by
      rw [sizeT, Abi.wrap, Nat.mod_eq_of_lt fits, Nat.mul_div_cancel _ size, count]
    have written := cnf.response_entries holds (count.symm ▸ few) responselen
    exact ⟨_, written, by rw [payloadWritten_words, cnf.listPayload_elements positive whole]⟩
  · rw [cnf.dispatch_silent _ _ _ _ _ whole] at member
    cases member

end BrSmsCnf

/-- **Broadcast SMS round trip.** A list of fewer than 2^31 entries is handed over as it was
written, and a payload whose count is not negative is written back as it was handed over. -/
theorem brSmsCnf_roundTrip (P : Type) [Platform P] [AppendingPlatform P] (request : RilRequest)
    (pRI : Nat) (kind : BrSmsKind) (entries : List kind.Entry) (few : entries.length < 2 ^ 31)
    (inMemory : entries.length * (Platform.abi P).ptrSize < 2 ^ (8 * (Platform.abi P).ptrSize))
    (p : P) (positive : 0 ≤ (wordOfBytes (unread p)).toInt)
    (payloadInMemory : (unread p).length < 2 ^ (8 * (Platform.abi P).ptrSize)) :
    kind.cnf.RoundTrips P request pRI entries ∧ kind.cnf.WritesBack P request pRI p :=
  ⟨kind.cnf.roundTrips_of_few P request pRI few inMemory,
    kind.cnf.writesBack_of_count P request pRI positive payloadInMemory⟩

/-- Two cell broadcast channels, one of them selected. -/
def sampleGsmBci : List RilGsmBroadcastSmsConfigInfo := [⟨0, 999, 0, 255, 1⟩, ⟨1000, 1000, 0, 0, 0⟩]

/-- One entry whose flag is the int 257. -/
def sampleBrSmsPayload : List UInt8 := wordBytes 1 ++ [1, 0, 2, 3, 4, 257].flatMap wordBytes

theorem brSmsCnf_roundTrip_sample :
    gsmBrSmsCnf.RoundTrips ByteParcel .gsmSetBroadcastSmsConfig 16 sampleGsmBci ∧
      gsmBrSmsCnf.WritesBack ByteParcel .gsmSetBroadcastSmsConfig 16 ⟨sampleBrSmsPayload, 0⟩ :=
  brSmsCnf_roundTrip ByteParcel .gsmSetBroadcastSmsConfig 16 .gsm sampleGsmBci (by decide)
    (by decide) ⟨sampleBrSmsPayload, 0⟩ (by decide) (by decide)

end RildHisi.Libril
