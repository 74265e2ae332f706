import RildHisi.Libril.WireLists

/-!
Owns strings on the wire: what `writeString16` stores is what `readString16Inplace` finds,
and a list of strings that `responseStrings` writes is the list that `dispatchStrings`
hands over.

The conversions of libcutils between the two kinds of characters are not in this
repository; `TextPlatform` says that they keep ASCII.
-/

namespace RildHisi.Libril

/-! ### One string -/

theorem char16sOfBytes_text (text : List Char16) (rest : List UInt8) :
    char16sOfBytes text.length (text.flatMap char16Bytes ++ rest) = text := by
  induction text with
  | nil => rfl
  | cons c text inductionHypothesis =>
      have bound := c.isLt
      have read : BitVec.ofNat 16
          ((UInt8.ofNat c.toNat).toNat + 2 ^ 8 * (UInt8.ofNat (c.toNat / 2 ^ 8)).toNat) = c := by
        apply BitVec.eq_of_toNat_eq
        simp only [UInt8.toNat_ofNat', BitVec.toNat_ofNat]
        omega
      show BitVec.ofNat 16 _ :: char16sOfBytes text.length (text.flatMap char16Bytes ++ rest) = _
      rw [inductionHypothesis, read]

theorem length_flatMap_char16Bytes (text : List Char16) :
    (text.flatMap char16Bytes).length = 2 * text.length := by
  induction text with
  | nil => rfl
  | cons c text inductionHypothesis =>
      rw [List.flatMap_cons, List.length_append, inductionHypothesis]
      simp only [char16Bytes, List.length_map, List.length_cons, List.length_nil]
      omega

/-- A string of a length that does not fail. -/
def ShortText (text : Option (List Char16)) : Prop := ∀ chars ∈ text, chars.length < 2 ^ 29

instance (text : Option (List Char16)) : Decidable (ShortText text) :=
  decidable_of_iff (text.all fun chars => chars.length < 2 ^ 29) (by cases text <;> simp [ShortText])

/-- **A string is read back as it was written**, a NULL one as NULL. -/
theorem readString16Inplace_string16Bytes {text : Option (List Char16)} (short : ShortText text)
    (rest : List UInt8) : Unread.readString16Inplace (string16Bytes text ++ rest) = (text, rest) := by
  cases text with
  | none =>
      unfold Unread.readString16Inplace
      rw [string16Bytes, Unread.readInt32_enough (by simp), wordOfBytes_wordBytes, drop_wordBytes]
      rfl
  | some chars =>
      have few : chars.length < 2 ^ 29 := short chars rfl
      have size : (BitVec.ofNat 32 chars.length : Word).toNat = chars.length := by
        rw [BitVec.toNat_ofNat]
        omega
      have signed : (BitVec.ofNat 32 chars.length : Word).toInt = chars.length := by
        rw [BitVec.toInt_eq_toNat_of_lt (by omega), size]
      have bytes : (chars.flatMap char16Bytes ++ [0, 0]).length = (chars.length + 1) * 2 := by
        rw [List.length_append, length_flatMap_char16Bytes]
        simp only [List.length_cons, List.length_nil]
        omega
      have valid : ¬ ((BitVec.ofNat 32 chars.length : Word).toInt < 0 ∨
          (BitVec.ofNat 32 chars.length : Word).toInt = 2 ^ 31 - 1) := by
        rw [signed]
        omega
      have padded : (padBytes (chars.flatMap char16Bytes ++ [0, 0])).length =
          padSize ((chars.length + 1) * 2) := by rw [padBytes_length, bytes]
      have whole : Unread.read (padBytes (chars.flatMap char16Bytes ++ [0, 0]) ++ rest)
          ((chars.length + 1) * 2) = (some (chars.flatMap char16Bytes ++ [0, 0]), rest) := by
        unfold Unread.read
        rw [if_pos (by rw [List.length_append, padded]; omega), ← padded, List.drop_left]
        rw [padBytes, List.append_assoc, ← bytes, List.take_left]
      unfold Unread.readString16Inplace
      rw [string16Bytes, List.append_assoc, Unread.readInt32_enough (by simp),
        wordOfBytes_wordBytes, drop_wordBytes]
      dsimp only
      rw [if_neg valid, size, whole]
      dsimp only
      rw [char16sOfBytes_text]

/-! ### Lists of strings -/

/-- The payload of a list of strings: its count, and the strings. -/
def stringsPayload (texts : List (Option (List Char16))) : List UInt8 :=
  wordBytes (BitVec.ofNat 32 texts.length) ++ texts.flatMap string16Bytes

/-- What a string takes in a parcel. -/
theorem string16Bytes_length_le {text : Option (List Char16)} {count : Nat}
    (short : ∀ chars ∈ text, chars.length ≤ count) :
    (string16Bytes text).length ≤ 2 * count + 9 := by
  cases text with
  | none =>
      show (wordBytes (-1)).length ≤ _
      rw [wordBytes_length]
      omega
  | some chars =>
      have few := short chars rfl
      have padded : padSize (2 * chars.length + 2) ≤ 2 * chars.length + 5 := by
        unfold padSize
        omega
      simp only [string16Bytes, List.length_append, wordBytes_length, padBytes_length,
        length_flatMap_char16Bytes, List.length_cons, List.length_nil, Nat.zero_add, Nat.reduceAdd]
      omega

theorem stringsPayload_length_le {texts : List (Option (List Char16))} {count : Nat}
    (short : ∀ text ∈ texts, ∀ chars ∈ text, chars.length ≤ count) :
    (stringsPayload texts).length ≤ 4 + texts.length * (2 * count + 9) := by
  have each : (texts.flatMap string16Bytes).length ≤ texts.length * (2 * count + 9) := by
    induction texts with
    | nil => simp
    | cons text texts inductionHypothesis =>
        have first := string16Bytes_length_le (short text List.mem_cons_self)
        have behind := inductionHypothesis fun later member =>
          short later (List.mem_cons_of_mem _ member)
        rw [List.flatMap_cons, List.length_append, List.length_cons, Nat.succ_mul]
        omega
  unfold stringsPayload
  rw [List.length_append, wordBytes_length]
  omega

section Strings

variable (strndup16to8 : List Char16 → CString) {texts : List (Option (List Char16))}

/-- The strings as the reader of the parcel sees them. -/
def readTexts (texts : List (Option (List Char16))) : List (Option CString) :=
  texts.map (Option.map strndup16to8)

theorem runBytes_readStrings {α : Type} (short : ∀ text ∈ texts, ShortText text)
    (following : List (Option CString) → Reads OnRequest α) (rest : List UInt8) :
    (readStrings texts.length >>= following).runBytes strndup16to8
        (texts.flatMap string16Bytes ++ rest) =
      (following (readTexts strndup16to8 texts)).runBytes strndup16to8 rest := by
  induction texts generalizing following with
  | nil => rfl
  | cons text texts inductionHypothesis =>
      rw [List.flatMap_cons, List.append_assoc, List.length_cons, readStrings, Reads.then_assoc,
        Reads.runBytes_strdupReadString_bind,
        readString16Inplace_string16Bytes (short text List.mem_cons_self)]
      dsimp only
      rw [Reads.then_assoc,
        inductionHypothesis (fun later member => short later (List.mem_cons_of_mem _ member))]
      rfl

/-- A list of strings is handed over as it stands in the payload. -/
theorem dispatchStrings_stringsPayload (abi : Abi) (request : RilRequest) (pRI : Nat)
    (few : texts.length < 2 ^ 29) (short : ∀ text ∈ texts, ShortText text) :
    ((dispatchStrings abi request pRI).runBytes strndup16to8 (stringsPayload texts)).2.2 =
      [⟨request, .strings (readTexts strndup16to8 texts), texts.length * abi.ptrSize, pRI⟩] := by
  have size : (BitVec.ofNat 32 texts.length : Word).toNat = texts.length := by
    rw [BitVec.toNat_ofNat]
    omega
  unfold dispatchStrings stringsPayload
  rw [Reads.runBytes_readInt32_bind, Unread.readInt32_enough (by simp), wordOfBytes_wordBytes,
    drop_wordBytes]
  simp only [Option.isSome_some, Option.getD_some, Bool.not_true, Bool.false_eq_true, if_false]
  by_cases empty : texts = []
  · subst empty
    simp [readTexts]
  · have positive : 0 < texts.length := List.length_pos_iff.mpr empty
    have nonzero : ¬ (BitVec.ofNat 32 texts.length : Word) = 0 := by
      intro same
      have zero := congrArg BitVec.toNat same
      rw [size] at zero
      simp only [BitVec.ofNat_eq_ofNat, BitVec.toNat_ofNat] at zero
      omega
    have notNull : ¬ (BitVec.ofNat 32 texts.length : Word) = -1 := by
      intro same
      have large := congrArg BitVec.toNat same
      rw [size] at large
      have minus : (-1 : Word).toNat = 2 ^ 32 - 1 := by decide
      omega
    have datalen : abi.wrap (abi.ptrSize * abi.sizeT (BitVec.ofNat 32 texts.length)) =
        texts.length * abi.ptrSize := by
      rw [abi.sizeT_ofNat (by omega), Nat.mul_comm]
      apply Nat.mod_eq_of_lt
      cases abi <;> simp only [Abi.ptrSize] <;> omega
    rw [if_neg nonzero, if_neg notNull, toNat_count (by omega), datalen]
    have read := runBytes_readStrings strndup16to8 short (fun pStrings =>
      Reads.call (⟨request, .strings pStrings, texts.length * abi.ptrSize, pRI⟩ : OnRequest)) []
    rw [List.append_nil] at read
    rw [read, Reads.runBytes_call]

end Strings

/-! ### Strings of C -/

/-- ASCII, as a string of C holds it. -/
def AsciiText (s : CString) : Prop := ∀ c ∈ s, 0 < c.toNat ∧ c.toNat < 128

instance (s : CString) : Decidable (AsciiText s) :=
  List.decidableBAll (fun c : UInt8 => 0 < c.toNat ∧ c.toNat < 128) s

/-- A string of C that a parcel takes, or NULL. -/
def WireText (s : Option CString) : Prop := ∀ text ∈ s, AsciiText text ∧ text.length < 2 ^ 29

/-- What libcutils does to ASCII. -/
class TextPlatform (P : Type) [Platform P] : Prop extends AppendingPlatform P where
  strndup16to8_strdup8to16 (s : CString) (plain : AsciiText s) :
    Platform.strndup16to8 P (Platform.strdup8to16 P s) = s
  length_strdup8to16 (s : CString) (plain : AsciiText s) :
    (Platform.strdup8to16 P s).length = s.length

theorem cString_of_ascii {s : CString} (plain : AsciiText s) : cString s = s := by
  unfold cString
  rw [List.takeWhile_eq_self_iff]
  intro c member
  have positive := (plain c member).1
  simp only [decide_eq_true_eq, ne_eq]
  rintro rfl
  exact absurd positive (by decide)

instance : TextPlatform ByteParcel where
  strndup16to8_strdup8to16 s plain := by
    show cString ((s.map fun c => BitVec.ofNat 16 c.toNat).map fun c => UInt8.ofNat c.toNat) = s
    have same : (s.map fun c => BitVec.ofNat 16 c.toNat).map (fun c => UInt8.ofNat c.toNat) = s := by
      rw [List.map_map]
      conv_rhs => rw [← List.map_id s]
      apply List.map_congr_left
      intro c _
      simp
    rw [same, cString_of_ascii plain]
  length_strdup8to16 s _ := List.length_map ..

section RoundTrip

variable {P : Type} [Platform P]

/-- The characters of the strings. -/
def wideTexts (P : Type) [Platform P] (strings : List (Option CString)) :
    List (Option (List Char16)) :=
  strings.map (Option.map (Platform.strdup8to16 P))

variable [TextPlatform P]

theorem WireText.short {s : Option CString} (wire : WireText s) :
    ShortText (s.map (Platform.strdup8to16 P)) := by
  intro chars same
  obtain ⟨text, given, rfl⟩ := Option.map_eq_some_iff.mp same
  obtain ⟨plain, few⟩ := wire text given
  rw [TextPlatform.length_strdup8to16 text plain]
  exact few

theorem readTexts_wideTexts {strings : List (Option CString)}
    (wire : ∀ s ∈ strings, WireText s) :
    readTexts (Platform.strndup16to8 P) (wideTexts P strings) = strings := by
  unfold readTexts wideTexts
  rw [List.map_map]
  conv_rhs => rw [← List.map_id strings]
  apply List.map_congr_left
  intro s member
  cases s with
  | none => rfl
  | some text =>
      exact congrArg some
        (TextPlatform.strndup16to8_strdup8to16 text (wire _ member text rfl).1)

theorem short_wideTexts {strings : List (Option CString)} (wire : ∀ s ∈ strings, WireText s) :
    ∀ text ∈ wideTexts P strings, ShortText text := by
  intro text member
  obtain ⟨s, inside, rfl⟩ := List.mem_map.mp member
  exact (wire s inside).short

/-- What `responseStrings` writes for an array of strings. -/
theorem responseStrings_some (abi : Abi) (pointee : Pointee) (n : Nat) :
    responseStrings abi (some pointee) (n * abi.ptrSize) =
      marshalled (counted n fun i => [.string (pointee.strings i)]) := by
  have size : 0 < abi.ptrSize := by cases abi <;> decide
  unfold responseStrings invalidArray
  simp [Nat.mul_div_cancel n size]

theorem counted_few {n : Nat} (few : n < 2 ^ 31) (each : Nat → List ParcelWrite) :
    counted n each = .int32 (BitVec.ofNat 32 n) :: (List.range n).flatMap each := by
  unfold counted
  dsimp only
  rw [toNat_count few]

/-- The writes are of sizes that do not fail. -/
theorem fits_counted_strings {strings : Nat → Option CString} {n : Nat}
    (wire : ∀ i, i < n → WireText (strings i)) (few : n < 2 ^ 31) :
    ∀ write ∈ counted n (fun i => [.string (strings i)]), write.Fits P := by
  intro write member
  rw [counted_few few] at member
  rcases List.mem_cons.mp member with rfl | inside
  · trivial
  · obtain ⟨i, below, written⟩ := List.mem_flatMap.mp inside
    rw [List.mem_singleton.mp written]
    exact (wire i (List.mem_range.mp below)).short

omit [TextPlatform P] in
/-- The payload of an array of strings. -/
theorem encoded_counted_strings (strings : Nat → Option CString) {n : Nat} (few : n < 2 ^ 31) :
    (counted n fun i => [ParcelWrite.string (strings i)]).flatMap (ParcelWrite.encoded P) =
      stringsPayload (wideTexts P ((List.range n).map strings)) := by
  unfold stringsPayload wideTexts
  rw [counted_few few, List.flatMap_cons, List.flatMap_assoc, List.length_map, List.length_map,
    List.length_range, List.flatMap_map, List.flatMap_map]
  refine congrArg (wordBytes _ ++ ·) (List.flatMap_congr fun i _ => ?_)
  simp [ParcelWrite.encoded]

/-- **Lists of strings survive the wire.** For every array of strings of ASCII and NULL
pointers, `responseStrings` writes a payload that `dispatchStrings` hands over as the same
array with the same length. -/
theorem responseStrings_roundTrip (abi : Abi) (request : RilRequest) (pRI : Nat)
    (pointee : Pointee) {n : Nat} (few : n < 2 ^ 29)
    (wire : ∀ i, i < n → WireText (pointee.strings i)) :
    ∃ writes, responseStrings abi (some pointee) (n * abi.ptrSize) = some (writes, 0) ∧
      ((dispatchStrings abi request pRI).runBytes (Platform.strndup16to8 P)
          (payloadWritten P writes)).2.2 =
        [⟨request, .strings ((List.range n).map pointee.strings), n * abi.ptrSize, pRI⟩] := by
  have wireList : ∀ s ∈ (List.range n).map pointee.strings, WireText s := by
    intro s member
    obtain ⟨i, below, rfl⟩ := List.mem_map.mp member
    exact wire i (List.mem_range.mp below)
  refine ⟨_, responseStrings_some abi pointee n, ?_⟩
  have length : (wideTexts P ((List.range n).map pointee.strings)).length = n := by
    simp [wideTexts]
  have fewTexts : (wideTexts P ((List.range n).map pointee.strings)).length < 2 ^ 29 := by
    omega
  have calls := dispatchStrings_stringsPayload (Platform.strndup16to8 P) abi request pRI
    fewTexts (short_wideTexts wireList)
  rw [payloadWritten, data_foldl_new P (fits_counted_strings wire (by omega)),
    encoded_counted_strings pointee.strings (by omega), calls, readTexts_wideTexts wireList, length]

/-- A name and a NULL pointer. -/
def nameAndNull : Pointee :=
  { (default : Pointee) with strings := fun i => if i = 0 then some (ascii "CMNET") else none }

theorem responseStrings_roundTrip_nameAndNull :
    ∃ writes, responseStrings .lp64 (some nameAndNull) 16 = some (writes, 0) ∧
      ((dispatchStrings .lp64 .setupDataCall 5).runBytes (Platform.strndup16to8 ByteParcel)
          (payloadWritten ByteParcel writes)).2.2 =
        [⟨.setupDataCall, .strings [some (ascii "CMNET"), none], 16, 5⟩] := by
  refine responseStrings_roundTrip (P := ByteParcel) .lp64 .setupDataCall 5 nameAndNull
    (n := 2) (by decide) ?_
  intro i below text given
  have first : text = ascii "CMNET" := by
    unfold nameAndNull at given
    dsimp only at given
    split_ifs at given
    · exact (Option.some.inj given).symm
    · cases given
  have length : (ascii "CMNET").length = 5 := rfl
  rw [first, length]
  exact ⟨by decide, by omega⟩

end RoundTrip

end RildHisi.Libril
