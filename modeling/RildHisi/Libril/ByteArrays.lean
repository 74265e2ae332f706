import RildHisi.Libril.Grammar
import RildHisi.Libril.SizeLimits

/-!
Owns byte arrays on the wire: a length, which is -1 for a null array, and the bytes.
Which length fields `dispatchRaw` and `dispatchDial` hand over as the array they announce,
and what the echo of `OEM_HOOK_RAW` brings back.
-/

namespace RildHisi.Libril

open RildHisi.Library

/-! ### What a length field announces -/

/-- The pointer and the length that the vendor RIL sees are those of the array that `len`
and the bytes behind it stand for. -/
def SeesArray (len : Word) (behind : List UInt8) (pointer : Option (List UInt8))
    (length : Int) : Prop :=
  (len = -1 ∧ pointer = none ∧ length = 0) ∨
    (0 ≤ len.toInt ∧ len.toNat ≤ behind.length ∧ pointer = some (behind.take len.toNat) ∧
      length = len.toInt)

/-- An array that is read in place is seen where it is not negative and all there. -/
theorem seesArray_readInplace_iff (abi : Abi) {len : Word} {behind : List UInt8} {length : Int}
    (array : len ≠ -1) (same : 0 ≤ len.toInt → length = len.toInt) :
    SeesArray len behind (Unread.read behind (abi.sizeT len)).1 length ↔
      CompleteArray len behind := by
  constructor
  · rintro (⟨null, -⟩ | ⟨positive, -, pointer, -⟩)
    · exact absurd null array
    · refine ⟨positive, ?_⟩
      rw [abi.sizeT_of_nonneg positive] at pointer
      by_contra short
      have starved : Unread.read behind len.toNat = (none, behind) := if_neg short
      rw [starved] at pointer
      cases pointer
  · rintro ⟨positive, whole⟩
    have taken : Unread.read behind len.toNat =
        (some (behind.take len.toNat), behind.drop (padSize len.toNat)) := if_pos whole
    rw [abi.sizeT_of_nonneg positive, taken]
    exact Or.inr ⟨positive, (length_le_padSize _).trans whole, rfl, same positive⟩

section Dispatch

variable (P : Type) [Platform P] (request : RilRequest) (pRI version : Nat)

/-! ### `dispatchRaw` -/

/-- Where `dispatchRaw` calls the vendor RIL, it sees the array. -/
def RawSees (p : P) : Prop :=
  ∀ argument ∈ ((dispatchRaw (Platform.abi P) request pRI).run p).2.2,
    ∃ pointer, argument.data = pointer.elim .null .raw ∧
      SeesArray (wordOfBytes (unread p)) ((unread p).drop 4) pointer argument.datalen

theorem elim_raw_injective {first second : Option (List UInt8)}
    (same : first.elim RequestData.null .raw = second.elim .null .raw) : first = second := by
  cases first <;> cases second <;> simp_all

theorem rawSees_iff [LawfulPlatform P] (p : P) :
    RawSees P request pRI p ↔ DispatchFunction.dispatchRaw.Intact version (unread p) := by
  unfold RawSees DispatchFunction.Intact
  rw [Reads.run_calls]
  generalize unread p = payload
  by_cases enough : 4 ≤ payload.length
  case neg =>
    have silent := (dispatchRaw_decides (Platform.abi P) request pRI version
      (Platform.strndup16to8 P) payload).silent enough
    change ((dispatchRaw _ _ _).runBytes _ _).2.2 = [] at silent
    rw [silent]
    exact iff_of_true (by simp) fun long => absurd long enough
  rw [dispatchRaw_calls pRI _ _ request enough, List.forall_mem_singleton]
  simp only [enough, true_implies]
  by_cases null : wordOfBytes payload = -1
  · -- the pointer is overwritten by `readInplace(0)`
    have empty : (Unread.read (payload.drop 4) ((Platform.abi P).sizeT 0)).1 = some [] := by
      rw [show (Platform.abi P).sizeT 0 = 0 from (Platform.abi P).sizeT_of_nonneg (by decide)]
      exact congrArg Prod.fst (if_pos (Nat.zero_le _))
    rw [if_pos null, empty, null]
    refine iff_of_false ?_ fun complete => absurd complete.1 (by decide)
    rintro ⟨pointer, data, ⟨-, rfl, -⟩ | ⟨positive, -⟩⟩
    · cases data
    · exact absurd positive (by decide)
  · rw [if_neg null]
    have length (positive : 0 ≤ (wordOfBytes payload).toInt) :
        (((Platform.abi P).sizeT (wordOfBytes payload) : Nat) : Int) =
          (wordOfBytes payload).toInt := by
      rw [(Platform.abi P).sizeT_of_nonneg positive, toInt_eq_toNat positive]
    rw [← seesArray_readInplace_iff (Platform.abi P) null length]
    constructor
    · rintro ⟨pointer, data, sees⟩
      rw [elim_raw_injective data]
      exact sees
    · intro sees
      exact ⟨_, rfl, sees⟩

/-! ### `dispatchDial` -/

/-- Where `dispatchDial` calls the vendor RIL with UUS information, it sees the array. The
length field stands behind the address and four words. -/
def DialSees (p : P) : Prop :=
  3 ≤ version → ∀ argument ∈ ((dispatchDial (Platform.abi P) request pRI version).run p).2.2,
    ∀ dial uusInfo, argument.data = .dial dial → dial.uusInfo = some uusInfo →
      SeesArray (wordOfBytes ((skipString (unread p)).drop 16)) ((skipString (unread p)).drop 20)
        uusInfo.uusData uusInfo.uusLength.toInt

/-- The UUS information that `dispatchDial` passes on. -/
def uusInfoAt (abi : Abi) (unread : List UInt8) : RilUusInfo :=
  let len := wordOfBytes (unread.drop 12)
  ⟨wordOfBytes (unread.drop 4), wordOfBytes (unread.drop 8), if len = -1 then 0 else len,
    if len = -1 then none else (Unread.read (unread.drop 16) (abi.sizeT len)).1⟩

section UusInfo

variable (strndup16to8 : List Char16 → CString) (abi : Abi) (t : Word) {unread : List UInt8}

theorem readUusInfo_absent (enough : 4 ≤ unread.length) (absent : wordOfBytes unread = 0)
    (following : Option (Option RilUusInfo) → Reads OnRequest Unit) :
    (readUusInfo abi t >>= following).runBytes strndup16to8 unread =
      (following (some none)).runBytes strndup16to8 (unread.drop 4) := by
  simp only [readUusInfo, Reads.then_assoc, Reads.runBytes_readInt32_bind,
    Unread.readInt32_enough enough, Option.isSome_some, Option.getD_some, Bool.not_true,
    Bool.false_eq_true, if_false, if_pos absent, Reads.pure_then]

theorem readUusInfo_present (enough : 16 ≤ unread.length) (present : wordOfBytes unread ≠ 0) :
    ∃ rest, ∀ following : Option (Option RilUusInfo) → Reads OnRequest Unit,
      (readUusInfo abi t >>= following).runBytes strndup16to8 unread =
        (following (some (some (uusInfoAt abi unread)))).runBytes strndup16to8 rest := by
  have word (offset : Nat) (inside : offset + 4 ≤ 16) :
      Unread.readInt32 (unread.drop offset) =
        (some (wordOfBytes (unread.drop offset)), unread.drop (offset + 4)) := by
    have here : 4 ≤ (unread.drop offset).length := by
      rw [List.length_drop]
      omega
    rw [Unread.readInt32_enough here, List.drop_drop]
  have first : Unread.readInt32 unread = (some (wordOfBytes unread), unread.drop 4) :=
    Unread.readInt32_enough (by omega)
  simp only [readUusInfo, Reads.then_assoc, Reads.runBytes_readInt32_bind, first,
    Option.isSome_some, Option.getD_some, Bool.not_true, Bool.false_eq_true, if_false,
    if_neg present, word 4 (by decide), word 8 (by decide), word 12 (by decide), Nat.reduceAdd,
    uusInfoAt]
  by_cases null : wordOfBytes (unread.drop 12) = -1
  · simp only [if_pos null, Reads.pure_then]
    exact ⟨_, fun _ => rfl⟩
  · simp only [if_neg null, Reads.then_assoc, Reads.runBytes_readInplace_bind, Reads.pure_then]
    exact ⟨_, fun _ => rfl⟩

/-- The UUS information is seen as its array unless the length is negative or bytes miss. -/
theorem seesArray_uusInfoAt_iff (unread : List UInt8) :
    SeesArray (wordOfBytes (unread.drop 12)) (unread.drop 16) (uusInfoAt abi unread).uusData
        (uusInfoAt abi unread).uusLength.toInt ↔
      (wordOfBytes (unread.drop 12) = -1 ∨
        CompleteArray (wordOfBytes (unread.drop 12)) (unread.drop 16)) := by
  unfold uusInfoAt
  by_cases null : wordOfBytes (unread.drop 12) = -1
  · simp only [if_pos null]
    exact iff_of_true (Or.inl ⟨null, rfl, by decide⟩) (Or.inl null)
  · simp only [if_neg null, or_iff_right null]
    exact seesArray_readInplace_iff abi null fun _ => rfl

end UusInfo

/-- The call that `dispatchDial` makes of an address and of what follows it. -/
theorem dispatchDial_calls (strndup16to8 : List Char16 → CString) (abi : Abi)
    {payload : List UInt8} {text : List Char16} (new : ¬ version < 3)
    (address : (Unread.readString16Inplace payload).1 = some text)
    (accepts : DispatchFunction.dispatchDial.Accepts version payload) :
    ∃ uusInfo : Option RilUusInfo,
      uusInfo = (if wordOfBytes ((skipString payload).drop 4) = 0 then none
        else some (uusInfoAt abi ((skipString payload).drop 4))) ∧
      ((dispatchDial abi request pRI version).runBytes strndup16to8 payload).2.2 =
        [⟨request, .dial ⟨some (strndup16to8 text), wordOfBytes (skipString payload), uusInfo⟩,
          abi.sizeofDial, pRI⟩] := by
  obtain ⟨-, words, old | ⟨uusThere, long⟩⟩ := accepts
  · exact absurd old new
  have clir : Unread.readInt32 (skipString payload) =
      (some (wordOfBytes (skipString payload)), (skipString payload).drop 4) :=
    Unread.readInt32_enough words
  have opened : (dispatchDial abi request pRI version).runBytes strndup16to8 payload = _ :=
    Reads.runBytes_strdupReadString_bind ..
  change _ = Reads.runBytes _ _ (skipString payload) at opened
  simp only [address, Option.map_some, Reads.runBytes_readInt32_bind, clir, Option.isSome_some,
    Option.getD_some, Option.isNone_some, Bool.not_true, Bool.or_self, Bool.false_eq_true,
    if_false, if_neg new] at opened
  have here : ((skipString payload).drop 4).length = (skipString payload).length - 4 :=
    List.length_drop
  refine ⟨_, rfl, ?_⟩
  rw [opened]
  by_cases absent : wordOfBytes ((skipString payload).drop 4) = 0
  · rw [readUusInfo_absent _ _ _ (by omega) absent, if_pos absent]
    rfl
  · have whole := long.resolve_left absent
    obtain ⟨rest, present⟩ := readUusInfo_present strndup16to8 abi
      (wordOfBytes (skipString payload)) (by omega) absent
    rw [present, if_neg absent]
    rfl

theorem dialSees_iff [LawfulPlatform P] (p : P) :
    DialSees P request pRI version p ↔
      DispatchFunction.dispatchDial.Intact version (unread p) := by
  unfold DialSees DispatchFunction.Intact
  rw [Reads.run_calls]
  refine forall_congr' fun new => ?_
  generalize unread p = payload
  have old : ¬ version < 3 := Nat.not_lt.mpr new
  by_cases accepts : DispatchFunction.dispatchDial.Accepts version payload
  case neg =>
    have silent := (dispatchDial_decides (Platform.abi P) request pRI version
      (Platform.strndup16to8 P) payload).silent accepts
    change ((dispatchDial _ _ _ _).runBytes _ _).2.2 = [] at silent
    rw [silent]
    refine iff_of_true (by simp) fun there long => absurd ⟨there, ?_⟩ accepts
    exact ⟨by omega, Or.inr ⟨by omega, Or.inr long⟩⟩
  obtain ⟨text, address⟩ := Option.isSome_iff_exists.mp accepts.1
  obtain ⟨uusInfo, given, called⟩ := dispatchDial_calls request pRI version
    (Platform.strndup16to8 P) (Platform.abi P) old address accepts
  simp only [called, List.forall_mem_singleton, accepts.1, true_implies]
  by_cases absent : wordOfBytes ((skipString payload).drop 4) = 0
  · rw [if_pos absent] at given
    refine iff_of_true ?_ fun _ => Or.inl absent
    intro dial seen data some'
    obtain rfl := RequestData.dial.inj data
    cases given.symm.trans some'
  · rw [if_neg absent] at given
    have long := (accepts.2.2.resolve_left old).2.resolve_left absent
    have sees := seesArray_uusInfoAt_iff (Platform.abi P) ((skipString payload).drop 4)
    rw [List.drop_drop, List.drop_drop] at sees
    simp only [long, true_implies, or_iff_right absent]
    rw [← sees]
    constructor
    · intro all
      exact all _ _ rfl given
    · intro seen dial uusInfo' data some'
      obtain rfl := RequestData.dial.inj data
      obtain rfl := Option.some.inj (given.symm.trans some')
      exact seen

/-! ### The echo -/

/-- An array as it is written. -/
def arrayBytes : Option (List UInt8) → List UInt8
  | none => wordBytes (-1)
  | some raw => wordBytes (BitVec.ofNat 32 raw.length) ++ padBytes raw

/-- `RIL_REQUEST_OEM_HOOK_RAW` of reference-ril: echo back data. -/
def echoOemHookRaw (argument : OnRequest) : Marshalled :=
  match argument.data with
  | .raw raw => responseRaw (some (arrayPointee raw)) argument.datalen
  | _ => responseRaw none argument.datalen

/-- An array whose length is an `int32_t`. -/
abbrev WireArray := {raw : List UInt8 // raw.length < 2 ^ 31}

/-- The array comes back as it was sent: what `responseRaw` writes is the array. -/
def Echoes (sent : Option WireArray) : Prop :=
  ∃ argument writes,
    ((dispatchRaw (Platform.abi P) request pRI).run
      (Platform.setData (arrayBytes (sent.map Subtype.val)) : P)).2.2 = [argument] ∧
    echoOemHookRaw argument = some (writes, 0) ∧
    DispatchFunction.dispatchRaw.grammar (Platform.strndup16to8 P) version
      (Platform.data (writes.foldl ParcelWrite.apply (Platform.new : P))) =
        some ((sent.map Subtype.val).elim .null .raw, [])

theorem toNat_length {raw : List UInt8} (small : raw.length < 2 ^ 31) :
    (BitVec.ofNat 32 raw.length : Word).toNat = raw.length ∧
      0 ≤ (BitVec.ofNat 32 raw.length : Word).toInt := by
  have fits : (BitVec.ofNat 32 raw.length : Word).toNat = raw.length := by
    rw [BitVec.toNat_ofNat]
    omega
  refine ⟨fits, ?_⟩
  rw [BitVec.toInt_eq_toNat_of_lt (by omega)]
  exact Int.natCast_nonneg _

theorem ofNat_ne_neg_one {size : Nat} (small : size < 2 ^ 31) : (BitVec.ofNat 32 size : Word) ≠ -1 := by
  intro negative
  have same := congrArg BitVec.toNat negative
  have last : (-1 : Word).toNat = 2 ^ 32 - 1 := by decide
  rw [BitVec.toNat_ofNat, Nat.mod_eq_of_lt (by omega), last] at same
  omega

/-- What is written into a new parcel. -/
theorem data_foldl_new [AppendingPlatform P] {writes : List ParcelWrite}
    (fits : ∀ write ∈ writes, write.Fits P) :
    Platform.data (writes.foldl ParcelWrite.apply (Platform.new : P)) =
      writes.flatMap (ParcelWrite.encoded P) := by
  have empty : HoldsBytes (Platform.new : P) [] :=
    ⟨LawfulPlatform.data_new, LawfulPlatform.dataPosition_new⟩
  exact (empty.writes fits).1

theorem grammar_arrayBytes (strndup16to8 : List Char16 → CString) (sent : Option WireArray) :
    DispatchFunction.dispatchRaw.grammar strndup16to8 version
      (arrayBytes (sent.map Subtype.val)) =
        some ((sent.map Subtype.val).elim .null .raw, []) := by
  cases sent with
  | none => rfl
  | some sent =>
      obtain ⟨raw, small⟩ := sent
      have size := toNat_length small
      have array : Grammar.array (BitVec.ofNat 32 raw.length) (padBytes raw) = some (raw, []) := by
        have whole : CompleteArray (BitVec.ofNat 32 raw.length) (padBytes raw) := by
          refine ⟨size.2, ?_⟩
          rw [size.1, padBytes_length]
        rw [Grammar.array, if_pos whole, size.1, ← padBytes_length, List.drop_length]
        exact congrArg (fun bytes => some (bytes, [])) List.take_left
      have enough : 4 ≤ (arrayBytes (some raw)).length := by
        rw [arrayBytes, List.length_append, wordBytes_length]
        omega
      simp only [Option.map_some, DispatchFunction.grammar]
      rw [int32_bind enough, arrayBytes, wordOfBytes_wordBytes, drop_wordBytes,
        if_neg (ofNat_ne_neg_one small)]
      change ((Grammar.array _ _).bind fun read => some (RequestData.raw read.1, read.2)) = _
      rw [array]
      rfl

/-- The vendor RIL is handed an array that is not null as it is. -/
theorem dispatchRaw_array (strndup16to8 : List Char16 → CString) (abi : Abi) (sent : WireArray) :
    ((dispatchRaw abi request pRI).runBytes strndup16to8 (arrayBytes (some sent.val))).2.2 =
      [⟨request, .raw sent.val, sent.val.length, pRI⟩] := by
  obtain ⟨raw, small⟩ := sent
  have enough : 4 ≤ (arrayBytes (some raw)).length := by
    rw [arrayBytes, List.length_append, wordBytes_length]
    omega
  have bytes : (Unread.read (padBytes raw) raw.length).1 = some raw := by
    unfold Unread.read
    rw [if_pos (padBytes_length raw).ge]
    exact congrArg some List.take_left
  rw [dispatchRaw_calls pRI _ _ request enough, arrayBytes, wordOfBytes_wordBytes, drop_wordBytes]
  simp only [if_neg (ofNat_ne_neg_one small), abi.sizeT_ofNat small, bytes, Option.elim_some]

/-- A null array is handed over as an empty one. -/
theorem dispatchRaw_null (strndup16to8 : List Char16 → CString) (abi : Abi) :
    ((dispatchRaw abi request pRI).runBytes strndup16to8 (arrayBytes none)).2.2 =
      [⟨request, .raw [], 0, pRI⟩] := by
  have zero : abi.sizeT 0 = 0 := abi.sizeT_of_nonneg (by decide)
  have null : wordOfBytes (arrayBytes none) = -1 := by decide
  have enough : 4 ≤ (arrayBytes none).length := by decide
  rw [dispatchRaw_calls pRI _ _ request enough]
  simp only [if_pos null, zero]
  rfl

/-- What `responseRaw` writes for an array that is not null. -/
theorem echoOemHookRaw_raw (raw : List UInt8) :
    echoOemHookRaw ⟨request, .raw raw, raw.length, pRI⟩ =
      some ([.int32 (BitVec.ofNat 32 raw.length), .bytes raw], 0) := by
  have written : (List.range raw.length).map (arrayPointee raw).bytes = raw :=
    pointsTo_arrayPointee raw
  simp only [echoOemHookRaw, responseRaw, written]
  rfl

/-- The response of the echo is read as the array. -/
theorem grammar_echo [AppendingPlatform P] (sent : WireArray) :
    DispatchFunction.dispatchRaw.grammar (Platform.strndup16to8 P) version
      (Platform.data ([.int32 (BitVec.ofNat 32 sent.val.length), .bytes sent.val].foldl
        ParcelWrite.apply (Platform.new : P))) = some (.raw sent.val, []) := by
  have fits : ∀ write ∈ [ParcelWrite.int32 (BitVec.ofNat 32 sent.val.length), .bytes sent.val],
      write.Fits P := by
    simpa [ParcelWrite.Fits] using sent.property
  have encoded : [ParcelWrite.int32 (BitVec.ofNat 32 sent.val.length), .bytes sent.val].flatMap
      (ParcelWrite.encoded P) = arrayBytes (some sent.val) := by
    simp [arrayBytes, ParcelWrite.encoded]
  rw [data_foldl_new P fits, encoded]
  exact grammar_arrayBytes version _ (some sent)

theorem echoes_iff [AppendingPlatform P] (sent : Option WireArray) :
    Echoes P request pRI version sent ↔ sent.isSome := by
  unfold Echoes
  rw [Reads.run_calls, LawfulPlatform.unread_setData]
  cases sent with
  | none =>
      refine iff_of_false ?_ (by decide)
      rintro ⟨argument, writes, called, echoed, read⟩
      obtain rfl : (⟨request, .raw [], 0, pRI⟩ : OnRequest) = argument :=
        List.singleton_inj.mp ((dispatchRaw_null request pRI _ _).symm.trans called)
      obtain rfl : [.int32 0, .bytes []] = writes := congrArg Prod.fst (Option.some.inj echoed)
      -- the null array has become an empty one
      have empty := grammar_echo P version ⟨[], by decide⟩
      cases empty.symm.trans read
  | some sent =>
      exact iff_of_true ⟨_, _, dispatchRaw_array request pRI _ _ sent,
        echoOemHookRaw_raw request pRI sent.val, grammar_echo P version sent⟩ rfl

/-- **Byte arrays on the wire.** The vendor RIL sees the array that a length field stands
for exactly where `dispatchRaw` finds a length that is not negative, and all of its bytes,
and where the UUS length is -1 or such a length. An array comes back from the echo exactly
if it is not null. -/
theorem byteArrays_iff [AppendingPlatform P] (p : P) (sent : Option WireArray) :
    (RawSees P request pRI p ↔ DispatchFunction.dispatchRaw.Intact version (unread p)) ∧
      (DialSees P request pRI version p ↔
        DispatchFunction.dispatchDial.Intact version (unread p)) ∧
      (Echoes P request pRI version sent ↔ sent.isSome) :=
  ⟨rawSees_iff P request pRI version p, dialSees_iff P request pRI version p,
    echoes_iff P request pRI version sent⟩

end Dispatch

/-- The bytes 1, 2, 3 are handed over and come back. -/
theorem byteArrays_threeBytes :
    (RawSees ByteParcel .oemHookRaw 16 ⟨arrayBytes (some [1, 2, 3]), 0⟩ ↔
        DispatchFunction.dispatchRaw.Intact 3 (arrayBytes (some [1, 2, 3]))) ∧
      (DialSees ByteParcel .oemHookRaw 16 3 ⟨arrayBytes (some [1, 2, 3]), 0⟩ ↔
        DispatchFunction.dispatchDial.Intact 3 (arrayBytes (some [1, 2, 3]))) ∧
      (Echoes ByteParcel .oemHookRaw 16 3 (some ⟨[1, 2, 3], by decide⟩) ↔ true) :=
  byteArrays_iff ByteParcel .oemHookRaw 16 3 ⟨arrayBytes (some [1, 2, 3]), 0⟩
    (some ⟨[1, 2, 3], by decide⟩)

/-- **A null array is seen as an empty one**, and comes back as one. -/
theorem nullArray_seenEmpty :
    ¬ RawSees ByteParcel .oemHookRaw 16 ⟨arrayBytes none, 0⟩ ∧
      ¬ Echoes ByteParcel .oemHookRaw 16 3 none := by
  constructor
  · rw [rawSees_iff ByteParcel .oemHookRaw 16 3]
    intro intact
    exact absurd (intact (by decide)).1 (by decide)
  · rw [echoes_iff]
    decide

end RildHisi.Libril
