import RildHisi.Libril.ByteArrays

/-!
Owns CDMA messages on the wire: what `responseCdmaSms` writes of a message, what
`dispatchCdmaSms` makes of it, and what `dispatchRilCdmaSmsWriteArgs` makes of a status
and the same bytes.

`responseCdmaSms` is in no entry of `s_commands`.
-/

namespace RildHisi.Libril

/-! ### Messages in memory -/

/-- An array of `max` bytes, zero behind those that are stored. -/
def filled (max : Nat) (bytes : List UInt8) : List UInt8 :=
  bytes ++ List.replicate (max - bytes.length) 0

/-- An array whose bytes are zero from `limit` on. -/
def zeroFrom (limit : Int) (bytes : List UInt8) : List UInt8 :=
  bytes.mapIdx fun i byte => if (i : Int) < limit then byte else 0

namespace RilCdmaSmsMessage

/-- The message with these arrays in place of its own. -/
def withArrays (message : RilCdmaSmsMessage) (digits subDigits bearer : List UInt8) :
    RilCdmaSmsMessage :=
  { message with
    sAddress := { message.sAddress with digits := digits }
    sSubAddress := { message.sSubAddress with digits := subDigits }
    aBearerData := bearer }

/-- The struct that was cleared before the bytes were stored. -/
def inMemory (message : RilCdmaSmsMessage) : RilCdmaSmsMessage :=
  message.withArrays (filled rilCdmaSmsAddressMax message.sAddress.digits)
    (filled rilCdmaSmsSubaddressMax message.sSubAddress.digits)
    (filled rilCdmaSmsBearerDataMax message.aBearerData)

/-- The bytes at or beyond the declared count and the limit of each array are zero. -/
def cleared (message : RilCdmaSmsMessage) : RilCdmaSmsMessage :=
  message.withArrays
    (zeroFrom (min message.sAddress.numberOfDigits.toNat rilCdmaSmsAddressMax)
      message.sAddress.digits)
    (zeroFrom (min message.sSubAddress.numberOfDigits.toNat rilCdmaSmsSubaddressMax)
      message.sSubAddress.digits)
    (zeroFrom (min message.uBearerDataLen.toInt rilCdmaSmsBearerDataMax) message.aBearerData)

/-- How many digits and bytes are written. -/
def addressLimit (message : RilCdmaSmsMessage) : Nat :=
  digitLimit true message.sAddress.numberOfDigits.toNat rilCdmaSmsAddressMax

def subaddressLimit (message : RilCdmaSmsMessage) : Nat :=
  digitLimit true message.sSubAddress.numberOfDigits.toNat rilCdmaSmsSubaddressMax

def bearerLimit (message : RilCdmaSmsMessage) : Nat :=
  digitLimit true message.uBearerDataLen.toInt.toNat rilCdmaSmsBearerDataMax

/-- The digits and bytes that are written. -/
def counted (message : RilCdmaSmsMessage) : RilCdmaSmsMessage :=
  message.withArrays (message.sAddress.digits.take message.addressLimit)
    (message.sSubAddress.digits.take message.subaddressLimit)
    (message.aBearerData.take message.bearerLimit)

end RilCdmaSmsMessage

/-- `RIL_CDMA_SMS_Message`: its arrays have their full length. -/
structure CdmaSmsStruct where
  message : RilCdmaSmsMessage
  address_length : message.sAddress.digits.length = rilCdmaSmsAddressMax
  subaddress_length : message.sSubAddress.digits.length = rilCdmaSmsSubaddressMax
  bearer_length : message.aBearerData.length = rilCdmaSmsBearerDataMax

/-- Storing the first bytes of an array into a cleared one. -/
theorem filled_take {max limit : Nat} {bytes : List UInt8} {bound : Int}
    (full : bytes.length = max) (below : limit ≤ max)
    (same : ∀ i : Nat, i < max → ((i : Int) < bound ↔ i < limit)) :
    filled max (bytes.take limit) = zeroFrom bound bytes := by
  have stored : (bytes.take limit).length = limit := by
    rw [List.length_take]
    omega
  refine List.ext_getElem ?_ fun i left right => ?_
  · rw [filled, zeroFrom, List.length_append, List.length_replicate, List.length_mapIdx, stored]
    omega
  · have inside : i < bytes.length := by simpa [zeroFrom] using right
    rw [full] at inside
    simp only [filled, zeroFrom, List.getElem_mapIdx, List.getElem_append, List.getElem_take,
      List.getElem_replicate, stored, same i inside]
    split_ifs <;> rfl

/-- What the counts keep of a message is the message with the rest cleared. -/
theorem CdmaSmsStruct.inMemory_counted (rcsm : CdmaSmsStruct) :
    rcsm.message.counted.inMemory = rcsm.message.cleared := by
  obtain ⟨message, address, subaddress, bearer⟩ := rcsm
  have digits : filled rilCdmaSmsAddressMax (message.sAddress.digits.take message.addressLimit) =
      zeroFrom (min message.sAddress.numberOfDigits.toNat rilCdmaSmsAddressMax)
        message.sAddress.digits := by
    refine filled_take address (Nat.min_le_right _ _) fun i inside => ?_
    unfold RilCdmaSmsMessage.addressLimit digitLimit
    rw [if_pos rfl]
    omega
  have subDigits : filled rilCdmaSmsSubaddressMax
      (message.sSubAddress.digits.take message.subaddressLimit) =
      zeroFrom (min message.sSubAddress.numberOfDigits.toNat rilCdmaSmsSubaddressMax)
        message.sSubAddress.digits := by
    refine filled_take subaddress (Nat.min_le_right _ _) fun i inside => ?_
    unfold RilCdmaSmsMessage.subaddressLimit digitLimit
    rw [if_pos rfl]
    omega
  have bytes : filled rilCdmaSmsBearerDataMax (message.aBearerData.take message.bearerLimit) =
      zeroFrom (min message.uBearerDataLen.toInt rilCdmaSmsBearerDataMax)
        message.aBearerData := by
    refine filled_take bearer (Nat.min_le_right _ _) fun i inside => ?_
    unfold RilCdmaSmsMessage.bearerLimit digitLimit
    rw [if_pos rfl]
    -- a negative length is none of the bytes
    omega
  simp only [RilCdmaSmsMessage.inMemory, RilCdmaSmsMessage.cleared, RilCdmaSmsMessage.counted,
    RilCdmaSmsMessage.withArrays, digits, subDigits, bytes]

/-! ### The encoder -/

/-- `for(digitCount =0 ; digitCount < digitLimit; digitCount ++)` around a write of one byte. -/
def digitWrites (digitLimit : Nat) (digits : List UInt8) : List ParcelWrite :=
  (List.range digitLimit).map fun digitCount => .bytes [digits.getD digitCount 0]

open ParcelWrite in
/-- The writes of `responseCdmaSms`. With a negative length the last loop does not run. -/
def cdmaSmsWrites (pCur : RilCdmaSmsMessage) : List ParcelWrite :=
  [int32 pCur.uTeleserviceID, bytes [pCur.bIsServicePresent], int32 pCur.uServicecategory,
      int32 pCur.sAddress.digitMode, int32 pCur.sAddress.numberMode,
      int32 pCur.sAddress.numberType, int32 pCur.sAddress.numberPlan,
      bytes [pCur.sAddress.numberOfDigits]] ++
    digitWrites (min pCur.sAddress.numberOfDigits.toNat rilCdmaSmsAddressMax)
      pCur.sAddress.digits ++
    [int32 pCur.sSubAddress.subaddressType, bytes [pCur.sSubAddress.odd],
      bytes [pCur.sSubAddress.numberOfDigits]] ++
    digitWrites (min pCur.sSubAddress.numberOfDigits.toNat rilCdmaSmsSubaddressMax)
      pCur.sSubAddress.digits ++
    [int32 pCur.uBearerDataLen] ++
    digitWrites (min pCur.uBearerDataLen.toInt (rilCdmaSmsBearerDataMax : Int)).toNat
      pCur.aBearerData

def responseCdmaSms (response : Option CdmaSmsStruct) (responselen : Nat) : Marshalled :=
  if response.isNone && responselen ≠ 0 then invalidResponse
  else if responselen ≠ structSize cdmaSmsMessageScalars then invalidResponse
  else response.map fun rcsm => (cdmaSmsWrites rcsm.message, 0)

/-- Bytes that take four each. -/
def bytesEach (digits : List UInt8) : List UInt8 := digits.flatMap fun digit => padBytes [digit]

/-- The bytes of a message with these digits. -/
def cdmaSmsEncoding (message : RilCdmaSmsMessage) : List UInt8 :=
  wordBytes message.uTeleserviceID ++ (padBytes [message.bIsServicePresent] ++
    (wordBytes message.uServicecategory ++ (wordBytes message.sAddress.digitMode ++
    (wordBytes message.sAddress.numberMode ++ (wordBytes message.sAddress.numberType ++
    (wordBytes message.sAddress.numberPlan ++ (padBytes [message.sAddress.numberOfDigits] ++
    (bytesEach message.sAddress.digits ++ (wordBytes message.sSubAddress.subaddressType ++
    (padBytes [message.sSubAddress.odd] ++ (padBytes [message.sSubAddress.numberOfDigits] ++
    (bytesEach message.sSubAddress.digits ++ (wordBytes message.uBearerDataLen ++
    bytesEach message.aBearerData)))))))))))))

section Encoder

variable (P : Type) [Platform P]

theorem encoded_digitWrites {limit : Nat} {digits : List UInt8} (inside : limit ≤ digits.length) :
    (digitWrites limit digits).flatMap (ParcelWrite.encoded P) = bytesEach (digits.take limit) := by
  have same : (List.range limit).map (fun digitCount => digits.getD digitCount 0) =
      digits.take limit := by
    refine List.ext_getElem (by simp [inside]) fun i left right => ?_
    have below : i < digits.length := by
      rw [List.length_map, List.length_range] at left
      omega
    simp [below]
  rw [digitWrites, List.flatMap_map, ← same, bytesEach, List.flatMap_map]
  rfl

theorem fits_digitWrites (limit : Nat) (digits : List UInt8) :
    ∀ write ∈ digitWrites limit digits, write.Fits P := by
  intro write member
  obtain ⟨digitCount, -, rfl⟩ := List.mem_map.mp member
  simp [ParcelWrite.Fits]

theorem fits_cdmaSmsWrites (message : RilCdmaSmsMessage) :
    ∀ write ∈ cdmaSmsWrites message, write.Fits P := by
  simp only [cdmaSmsWrites, List.forall_mem_append]
  refine ⟨⟨⟨⟨⟨?_, fits_digitWrites P _ _⟩, ?_⟩, fits_digitWrites P _ _⟩, ?_⟩,
    fits_digitWrites P _ _⟩ <;>
    simp [ParcelWrite.Fits]

theorem responseCdmaSms_some (rcsm : CdmaSmsStruct) :
    responseCdmaSms (some rcsm) (structSize cdmaSmsMessageScalars) =
      some (cdmaSmsWrites rcsm.message, 0) :=
  (if_neg (by simp)).trans (if_neg (by simp))

/-- `responseCdmaSms` writes the digits and bytes that the counts keep. -/
theorem data_cdmaSmsWrites [AppendingPlatform P] (rcsm : CdmaSmsStruct) :
    Platform.data ((cdmaSmsWrites rcsm.message).foldl ParcelWrite.apply (Platform.new : P)) =
      cdmaSmsEncoding rcsm.message.counted := by
  have bearer : (min rcsm.message.uBearerDataLen.toInt (rilCdmaSmsBearerDataMax : Int)).toNat =
      rcsm.message.bearerLimit := by
    unfold RilCdmaSmsMessage.bearerLimit digitLimit
    rw [if_pos rfl]
    omega
  have bearerInside : rcsm.message.bearerLimit ≤ rcsm.message.aBearerData.length :=
    rcsm.bearer_length.ge.trans' (Nat.min_le_right _ _)
  rw [data_foldl_new P (fits_cdmaSmsWrites P _), cdmaSmsWrites, bearer]
  simp only [List.flatMap_append]
  rw [encoded_digitWrites P (rcsm.address_length.ge.trans' (Nat.min_le_right _ _)),
    encoded_digitWrites P (rcsm.subaddress_length.ge.trans' (Nat.min_le_right _ _)),
    encoded_digitWrites P bearerInside]
  simp only [List.flatMap_cons, List.flatMap_nil, List.append_nil, List.append_assoc]
  rfl

end Encoder

/-! ### The decoders -/

section Decoder

variable (strndup16to8 : List Char16 → CString) {α : Type}

theorem runBytes_readInt32_word (t word : Word) (rest : List UInt8)
    (following : Bool × Word → Reads OnRequest α) :
    (Reads.readInt32 t >>= following).runBytes strndup16to8 (wordBytes word ++ rest) =
      (following (true, word)).runBytes strndup16to8 rest := by
  have enough : 4 ≤ (wordBytes word ++ rest).length := by
    rw [List.length_append, wordBytes_length]
    omega
  rw [Reads.runBytes_readInt32_bind, Unread.readInt32_enough enough, wordOfBytes_wordBytes,
    drop_wordBytes]
  rfl

theorem runBytes_read_byte (ut byte : UInt8) (rest : List UInt8)
    (following : Bool × UInt8 → Reads OnRequest α) :
    (Reads.read ut >>= following).runBytes strndup16to8 (padBytes [byte] ++ rest) =
      (following (true, byte)).runBytes strndup16to8 rest := by
  have enough : padSize 1 ≤ (padBytes [byte] ++ rest).length := by
    rw [List.length_append, padBytes_length]
    exact Nat.le_add_right _ _
  have taken : Unread.read (padBytes [byte] ++ rest) 1 = (some [byte], rest) := by
    have padded : padBytes [byte] = [byte, 0, 0, 0] := by simp [padBytes, padSize]
    rw [Unread.read, if_pos enough, padded]
    rfl
  rw [Reads.runBytes_read_bind, taken]
  rfl

/-- A loop over bytes reads them all, behind a read that was good. -/
theorem runBytes_readDigits (ut : UInt8) (digits rest : List UInt8)
    (following : Bool × UInt8 × List UInt8 → Reads OnRequest α) :
    (readDigits digits.length true ut >>= following).runBytes strndup16to8
        (bytesEach digits ++ rest) =
      (following (true, digits.getLastD ut, digits)).runBytes strndup16to8 rest := by
  induction digits generalizing ut following with
  | nil => rfl
  | cons digit digits inductionHypothesis =>
      rw [List.length_cons, readDigits, Reads.then_assoc, bytesEach, List.flatMap_cons,
        List.append_assoc, runBytes_read_byte, List.getLastD_cons]
      simp only
      rw [Reads.then_assoc]
      exact inductionHypothesis digit _

/-- Each loop of the decoder runs as often as there are digits or bytes. -/
structure RilCdmaSmsMessage.Fits (limited : Bool) (message : RilCdmaSmsMessage) : Prop where
  address : digitLimit limited message.sAddress.numberOfDigits.toNat rilCdmaSmsAddressMax =
    message.sAddress.digits.length
  subaddress : digitLimit limited message.sSubAddress.numberOfDigits.toNat
    rilCdmaSmsSubaddressMax = message.sSubAddress.digits.length
  bearer : digitLimit limited message.uBearerDataLen.toInt.toNat rilCdmaSmsBearerDataMax =
    message.aBearerData.length

theorem runBytes_readCdmaSmsMessage {limited : Bool} (t : Word) (ut : UInt8)
    {message : RilCdmaSmsMessage} (fits : message.Fits limited) (rest : List UInt8)
    (following : Bool × RilCdmaSmsMessage → Reads OnRequest α) :
    (readCdmaSmsMessage limited t ut >>= following).runBytes strndup16to8
        (cdmaSmsEncoding message ++ rest) =
      (following (true, message)).runBytes strndup16to8 rest := by
  obtain ⟨address, subaddress, bearer⟩ := fits
  simp only [readCdmaSmsMessage, cdmaSmsEncoding, Reads.then_assoc, List.append_assoc,
    runBytes_readInt32_word, runBytes_read_byte, address, runBytes_readDigits, subaddress,
    bearer, Reads.pure_then]

end Decoder

/-! ### Counts that fill the arrays -/

namespace CdmaSmsStruct

variable (rcsm : CdmaSmsStruct)

theorem address_counted :
    rcsm.message.counted.sAddress.digits.length = rcsm.message.addressLimit := by
  change (rcsm.message.sAddress.digits.take rcsm.message.addressLimit).length = _
  rw [List.length_take, rcsm.address_length]
  exact Nat.min_eq_left (Nat.min_le_right _ _)

theorem subaddress_counted :
    rcsm.message.counted.sSubAddress.digits.length = rcsm.message.subaddressLimit := by
  change (rcsm.message.sSubAddress.digits.take rcsm.message.subaddressLimit).length = _
  rw [List.length_take, rcsm.subaddress_length]
  exact Nat.min_eq_left (Nat.min_le_right _ _)

theorem bearer_counted :
    rcsm.message.counted.aBearerData.length = rcsm.message.bearerLimit := by
  change (rcsm.message.aBearerData.take rcsm.message.bearerLimit).length = _
  rw [List.length_take, rcsm.bearer_length]
  exact Nat.min_eq_left (Nat.min_le_right _ _)

/-- The decoder that stops at the counts reads what the encoder wrote. -/
theorem counted_fits : rcsm.message.counted.Fits true :=
  ⟨rcsm.address_counted.symm, rcsm.subaddress_counted.symm, rcsm.bearer_counted.symm⟩

end CdmaSmsStruct

/-- The declared counts reach the end of the arrays. -/
def RilCdmaSmsMessage.FillsArrays (message : RilCdmaSmsMessage) : Prop :=
  rilCdmaSmsAddressMax ≤ message.sAddress.numberOfDigits.toNat ∧
    rilCdmaSmsSubaddressMax ≤ message.sSubAddress.numberOfDigits.toNat ∧
    rilCdmaSmsBearerDataMax ≤ message.uBearerDataLen.toInt

namespace CdmaSmsStruct

variable (rcsm : CdmaSmsStruct)

theorem fillsArrays_iff :
    rcsm.message.FillsArrays ↔ rcsm.message.addressLimit = rilCdmaSmsAddressMax ∧
      rcsm.message.subaddressLimit = rilCdmaSmsSubaddressMax ∧
      rcsm.message.bearerLimit = rilCdmaSmsBearerDataMax := by
  unfold RilCdmaSmsMessage.FillsArrays RilCdmaSmsMessage.addressLimit
    RilCdmaSmsMessage.subaddressLimit RilCdmaSmsMessage.bearerLimit digitLimit
  unfold rilCdmaSmsAddressMax rilCdmaSmsSubaddressMax rilCdmaSmsBearerDataMax
  simp only [if_true]
  omega

/-- The decoder that always reads whole arrays reads them where they were written. -/
theorem counted_fits_unlimited (fills : rcsm.message.FillsArrays) :
    rcsm.message.counted.Fits false := by
  obtain ⟨address, subaddress, bearer⟩ := rcsm.fillsArrays_iff.mp fills
  exact ⟨address.symm.trans rcsm.address_counted.symm,
    subaddress.symm.trans rcsm.subaddress_counted.symm,
    bearer.symm.trans rcsm.bearer_counted.symm⟩

end CdmaSmsStruct

theorem bytesEach_length (digits : List UInt8) : (bytesEach digits).length = 4 * digits.length := by
  induction digits with
  | nil => rfl
  | cons digit digits inductionHypothesis =>
      rw [bytesEach, List.flatMap_cons, List.length_append, padBytes_length]
      change padSize 1 + (bytesEach digits).length = _
      rw [inductionHypothesis, List.length_cons]
      unfold padSize
      omega

theorem cdmaSmsEncoding_length (rcsm : CdmaSmsStruct) :
    (cdmaSmsEncoding rcsm.message.counted).length =
      48 + 4 * (rcsm.message.addressLimit + rcsm.message.subaddressLimit +
        rcsm.message.bearerLimit) := by
  simp only [cdmaSmsEncoding, List.length_append, wordBytes_length, padBytes_length,
    bytesEach_length, List.length_singleton, rcsm.address_counted, rcsm.subaddress_counted,
    rcsm.bearer_counted]
  unfold padSize
  omega

/-! ### Round trip -/

section RoundTrip

variable (strndup16to8 : List Char16 → CString) (request : RilRequest) (pRI : Nat)
  (rcsm : CdmaSmsStruct)

theorem dispatchCdmaSms_calls :
    ((dispatchCdmaSms request pRI).runBytes strndup16to8
        (cdmaSmsEncoding rcsm.message.counted)).2.2 =
      [⟨request, .cdmaSms rcsm.message.counted, structSize cdmaSmsMessageScalars, pRI⟩] := by
  rw [dispatchCdmaSms, ← List.append_nil (cdmaSmsEncoding _),
    runBytes_readCdmaSmsMessage _ _ _ rcsm.counted_fits]
  rfl

theorem dispatchRilCdmaSmsWriteArgs_calls (status : Word) (fills : rcsm.message.FillsArrays) :
    ((dispatchRilCdmaSmsWriteArgs request pRI).runBytes strndup16to8
        (wordBytes status ++ cdmaSmsEncoding rcsm.message.counted)).2.2 =
      [⟨request, .cdmaSmsWrite ⟨status, rcsm.message.counted⟩,
        structSize (4 :: cdmaSmsMessageScalars), pRI⟩] := by
  rw [dispatchRilCdmaSmsWriteArgs, runBytes_readInt32_word, ← List.append_nil (cdmaSmsEncoding _)]
  simp only
  rw [runBytes_readCdmaSmsMessage _ _ _ (rcsm.counted_fits_unlimited fills)]
  rfl

/-- Behind a status, a message whose counts do not fill its arrays is too short. -/
theorem dispatchRilCdmaSmsWriteArgs_silent (status : Word) (short : ¬ rcsm.message.FillsArrays) :
    ((dispatchRilCdmaSmsWriteArgs request pRI).runBytes strndup16to8
        (wordBytes status ++ cdmaSmsEncoding rcsm.message.counted)).2.2 = [] := by
  have silent := (dispatchRilCdmaSmsWriteArgs_decides .lp64 request pRI 0 strndup16to8
    (wordBytes status ++ cdmaSmsEncoding rcsm.message.counted)).silent
  simp only [DispatchFunction.dispatch, DispatchFunction.Accepts] at silent
  apply silent
  have address : rcsm.message.addressLimit ≤ 36 := Nat.min_le_right _ _
  have subaddress : rcsm.message.subaddressLimit ≤ 36 := Nat.min_le_right _ _
  have bearer : rcsm.message.bearerLimit ≤ 255 := Nat.min_le_right _ _
  rw [rcsm.fillsArrays_iff] at short
  unfold rilCdmaSmsAddressMax rilCdmaSmsSubaddressMax rilCdmaSmsBearerDataMax at short
  rw [List.length_append, wordBytes_length, cdmaSmsEncoding_length]
  omega

end RoundTrip

section Parcels

variable (P : Type) [Platform P] (request : RilRequest) (pRI : Nat) (rcsm : CdmaSmsStruct)

/-- What `responseCdmaSms` writes into a new parcel. -/
def cdmaSmsParcel (writes : List ParcelWrite) : List UInt8 :=
  Platform.data (writes.foldl ParcelWrite.apply (Platform.new : P))

/-- **CDMA SMS round trip.** What `responseCdmaSms` writes of a message `dispatchCdmaSms`
hands over as that message, with zeros at and beyond the declared counts and the limits. -/
theorem cdmaSms_roundTrip [AppendingPlatform P] :
    ∃ writes message,
      responseCdmaSms (some rcsm) (structSize cdmaSmsMessageScalars) = some (writes, 0) ∧
      ((dispatchCdmaSms request pRI).run (Platform.setData (cdmaSmsParcel P writes) : P)).2.2 =
        [⟨request, .cdmaSms message, structSize cdmaSmsMessageScalars, pRI⟩] ∧
      message.inMemory = rcsm.message.cleared := by
  refine ⟨_, rcsm.message.counted, responseCdmaSms_some rcsm, ?_, rcsm.inMemory_counted⟩
  rw [Reads.run_calls, LawfulPlatform.unread_setData, cdmaSmsParcel, data_cdmaSmsWrites P rcsm]
  exact dispatchCdmaSms_calls _ request pRI rcsm

/-- Behind `status`, what `responseCdmaSms` writes of the message is handed over by
`dispatchRilCdmaSmsWriteArgs` with that status and with the message `dispatchCdmaSms` reads. -/
def WriteArgsAgree (status : Word) : Prop :=
  ∃ writes message written,
    responseCdmaSms (some rcsm) (structSize cdmaSmsMessageScalars) = some (writes, 0) ∧
    ((dispatchCdmaSms request pRI).run (Platform.setData (cdmaSmsParcel P writes) : P)).2.2 =
      [⟨request, .cdmaSms message, structSize cdmaSmsMessageScalars, pRI⟩] ∧
    ((dispatchRilCdmaSmsWriteArgs request pRI).run
        (Platform.setData (wordBytes status ++ cdmaSmsParcel P writes) : P)).2.2 =
      [⟨request, .cdmaSmsWrite ⟨status, written⟩, structSize (4 :: cdmaSmsMessageScalars), pRI⟩] ∧
    written.inMemory = message.inMemory

theorem not_writeArgsAgree [AppendingPlatform P] {status : Word}
    (short : ¬ rcsm.message.FillsArrays) : ¬ WriteArgsAgree P request pRI rcsm status := by
  rintro ⟨writes, message, written, encoded, -, called, -⟩
  obtain rfl : cdmaSmsWrites rcsm.message = writes :=
    congrArg Prod.fst (Option.some.inj ((responseCdmaSms_some rcsm).symm.trans encoded))
  rw [Reads.run_calls, LawfulPlatform.unread_setData, cdmaSmsParcel, data_cdmaSmsWrites P rcsm,
    dispatchRilCdmaSmsWriteArgs_silent _ request pRI rcsm status short] at called
  cases called

/-- **The two decoders agree** exactly on the messages whose counts fill their arrays: one
stops at the counts, the other does not. -/
theorem writeArgsAgree_iff [AppendingPlatform P] (status : Word) :
    WriteArgsAgree P request pRI rcsm status ↔ rcsm.message.FillsArrays := by
  constructor
  · intro agree
    by_contra short
    exact not_writeArgsAgree P request pRI rcsm short agree
  · intro fills
    refine ⟨_, _, rcsm.message.counted, responseCdmaSms_some rcsm, ?_, ?_, rfl⟩
    · rw [Reads.run_calls, LawfulPlatform.unread_setData, cdmaSmsParcel, data_cdmaSmsWrites P rcsm]
      exact dispatchCdmaSms_calls _ request pRI rcsm
    · rw [Reads.run_calls, LawfulPlatform.unread_setData, cdmaSmsParcel, data_cdmaSmsWrites P rcsm]
      exact dispatchRilCdmaSmsWriteArgs_calls _ request pRI rcsm status fills

end Parcels

/-- A message with these counts, and every digit and byte 1. -/
def sampleCdmaSms (addressDigits subaddressDigits : UInt8) (uBearerDataLen : Word) :
    CdmaSmsStruct where
  message := ⟨4098, 0, 0,
    ⟨0, 0, 0, 0, addressDigits, List.replicate rilCdmaSmsAddressMax 1⟩,
    ⟨0, 0, subaddressDigits, List.replicate rilCdmaSmsSubaddressMax 1⟩,
    uBearerDataLen, List.replicate rilCdmaSmsBearerDataMax 1⟩
  address_length := List.length_replicate
  subaddress_length := List.length_replicate
  bearer_length := List.length_replicate

theorem cdmaSms_roundTrip_negativeLength :
    ∃ writes message,
      responseCdmaSms (some (sampleCdmaSms 200 3 (-1))) (structSize cdmaSmsMessageScalars) =
        some (writes, 0) ∧
      ((dispatchCdmaSms .cdmaSendSms 16).run
          (Platform.setData (cdmaSmsParcel ByteParcel writes) : ByteParcel)).2.2 =
        [⟨.cdmaSendSms, .cdmaSms message, structSize cdmaSmsMessageScalars, 16⟩] ∧
      message.inMemory = (sampleCdmaSms 200 3 (-1)).message.cleared :=
  cdmaSms_roundTrip ByteParcel .cdmaSendSms 16 (sampleCdmaSms 200 3 (-1))

theorem writeArgsAgree_fullArrays :
    WriteArgsAgree ByteParcel .cdmaWriteSmsToRuim 16 (sampleCdmaSms 36 255 255) 1 :=
  (writeArgsAgree_iff ByteParcel .cdmaWriteSmsToRuim 16 (sampleCdmaSms 36 255 255) 1).mpr
    ⟨by decide, by decide, by decide⟩

/-- **Ten digits and twenty bytes** are rejected behind a status. -/
theorem tenDigits_disagree :
    ¬ WriteArgsAgree ByteParcel .cdmaWriteSmsToRuim 16 (sampleCdmaSms 10 0 20) 1 := by
  apply not_writeArgsAgree ByteParcel _ _ _
  rintro ⟨address, -⟩
  exact absurd address (by decide)

end RildHisi.Libril
