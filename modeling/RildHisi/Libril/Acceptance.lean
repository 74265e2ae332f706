import RildHisi.Libril.LedgerRefinement

/-!
Owns which payloads each dispatch function hands to the vendor RIL, and that the
others leave the request in the list with nobody to complete it.

`Decides` is the rule of a program of reads: under a condition on the bytes it makes
one call, otherwise none. `Starved` says that it makes none once a word is missing.
The arrays that some of them make on the stack are in `StackArrays`.
-/

namespace RildHisi.Libril

open RildHisi.Library

/-! ### Rules for programs of reads -/

section Rules

variable {γ α : Type} (strndup16to8 : List Char16 → CString)

/-- Exactly one call, one that `wanted` holds of, if `accepts`, and no call otherwise. -/
structure Decides (wanted : γ → Prop) (program : Reads γ Unit) (unread : List UInt8)
    (accepts : Prop) : Prop where
  calls : accepts → ∃ argument, wanted argument ∧
    (program.runBytes strndup16to8 unread).2.2 = [argument]
  silent : ¬ accepts → (program.runBytes strndup16to8 unread).2.2 = []

/-- No call where less than a word is left. -/
def Starved (program : Reads γ Unit) : Prop :=
  ∀ unread : List UInt8, unread.length < 4 → (program.runBytes strndup16to8 unread).2.2 = []

variable {strndup16to8} {wanted : γ → Prop} {unread : List UInt8} {accepts : Prop}

theorem Decides.call {argument : γ} (wants : wanted argument) (holds : accepts) :
    Decides strndup16to8 wanted (Reads.call argument) unread accepts :=
  ⟨fun _ => ⟨argument, wants, rfl⟩, fun fails => absurd holds fails⟩

theorem Decides.nothing (fails : ¬ accepts) :
    Decides strndup16to8 wanted (pure ()) unread accepts :=
  ⟨fun holds => absurd holds fails, fun _ => rfl⟩

/-! Rules for a program that has read the parcel up to `offset`. What it accepts has to
need the bytes it reads. -/

section Offset

variable {payload : List UInt8} {offset : Nat}

/-- `status = p.readInt32(&t)`. -/
theorem Decides.readInt32 {t : Word} {following : Bool × Word → Reads γ Unit}
    (needs : accepts → offset + 4 ≤ payload.length)
    (starved : Starved strndup16to8 (following (false, t)))
    (decides : offset + 4 ≤ payload.length → Decides strndup16to8 wanted
      (following (true, wordOfBytes (payload.drop offset))) (payload.drop (offset + 4)) accepts) :
    Decides strndup16to8 wanted (Reads.readInt32 t >>= following) (payload.drop offset)
      accepts := by
  by_cases enough : offset + 4 ≤ payload.length
  · have step : (Reads.readInt32 t >>= following).runBytes strndup16to8 (payload.drop offset) =
        (following (true, wordOfBytes (payload.drop offset))).runBytes strndup16to8
          (payload.drop (offset + 4)) := by
      have here : 4 ≤ (payload.drop offset).length := by
        rw [List.length_drop]
        omega
      rw [Reads.runBytes_readInt32_bind, Unread.readInt32_enough here, List.drop_drop]
      rfl
    obtain ⟨calls, silent⟩ := decides enough
    rw [← step] at calls silent
    exact ⟨calls, silent⟩
  · have short : (payload.drop offset).length < 4 := by
      rw [List.length_drop]
      omega
    refine ⟨fun holds => absurd (needs holds) enough, fun _ => ?_⟩
    rw [Reads.runBytes_readInt32_bind, Unread.readInt32_starved short]
    exact starved _ short

/-- `status = p.read(&ut, sizeof(ut))`: one byte, four of the parcel. -/
theorem Decides.read {ut : UInt8} {following : Bool × UInt8 → Reads γ Unit}
    (needs : accepts → offset + 4 ≤ payload.length)
    (starved : Starved strndup16to8 (following (false, ut)))
    (decides : offset + 4 ≤ payload.length → Decides strndup16to8 wanted
      (following (true, (payload.drop offset).headD 0)) (payload.drop (offset + 4)) accepts) :
    Decides strndup16to8 wanted (Reads.read ut >>= following) (payload.drop offset) accepts := by
  by_cases enough : offset + 4 ≤ payload.length
  · have step : (Reads.read ut >>= following).runBytes strndup16to8 (payload.drop offset) =
        (following (true, (payload.drop offset).headD 0)).runBytes strndup16to8
          (payload.drop (offset + 4)) := by
      have here : 4 ≤ (payload.drop offset).length := by
        rw [List.length_drop]
        omega
      have taken : Unread.read (payload.drop offset) 1 =
          (some ((payload.drop offset).take 1), (payload.drop offset).drop 4) := if_pos here
      rw [Reads.runBytes_read_bind, taken, List.drop_drop]
      cases front : payload.drop offset with
      | nil => simp [front] at here
      | cons b rest => rfl
    obtain ⟨calls, silent⟩ := decides enough
    rw [← step] at calls silent
    exact ⟨calls, silent⟩
  · have short : (payload.drop offset).length < 4 := by
      rw [List.length_drop]
      omega
    have none_ : Unread.read (payload.drop offset) 1 = (none, payload.drop offset) :=
      if_neg (Nat.not_le_of_lt short)
    refine ⟨fun holds => absurd (needs holds) enough, fun _ => ?_⟩
    rw [Reads.runBytes_read_bind, none_]
    exact starved _ short

end Offset

/-- `strdupReadString(p)`, which no dispatch function takes a status of. -/
theorem Decides.strdupReadString {following : Option CString → Reads γ Unit}
    (decides : Decides strndup16to8 wanted
      (following ((Unread.readString16Inplace unread).1.map strndup16to8))
      (Unread.readString16Inplace unread).2 accepts) :
    Decides strndup16to8 wanted (Reads.strdupReadString >>= following) unread accepts :=
  ⟨decides.calls, decides.silent⟩

theorem Decides.readInplace {len : Nat} {following : Option (List UInt8) → Reads γ Unit}
    (decides : Decides strndup16to8 wanted (following (Unread.read unread len).1)
      (Unread.read unread len).2 accepts) :
    Decides strndup16to8 wanted (Reads.readInplace len >>= following) unread accepts :=
  ⟨decides.calls, decides.silent⟩

theorem readString16Inplace_starved (short : unread.length < 4) :
    Unread.readString16Inplace unread = (none, unread) := by
  unfold Unread.readString16Inplace
  rw [Unread.readInt32_starved short]

@[simp] theorem starved_nothing : Starved strndup16to8 (pure () : Reads γ Unit) :=
  fun _ _ => rfl

@[simp] theorem starved_readInt32 {t : Word} {following : Bool × Word → Reads γ Unit} :
    Starved strndup16to8 (Reads.readInt32 t >>= following) ↔
      Starved strndup16to8 (following (false, t)) := by
  refine forall₂_congr fun unread short => ?_
  rw [Reads.runBytes_readInt32_bind, Unread.readInt32_starved short]
  rfl

@[simp] theorem starved_read {ut : UInt8} {following : Bool × UInt8 → Reads γ Unit} :
    Starved strndup16to8 (Reads.read ut >>= following) ↔
      Starved strndup16to8 (following (false, ut)) := by
  refine forall₂_congr fun unread short => ?_
  have none_ : Unread.read unread 1 = (none, unread) := if_neg (Nat.not_le_of_lt short)
  rw [Reads.runBytes_read_bind, none_]
  rfl

@[simp] theorem starved_strdupReadString {following : Option CString → Reads γ Unit} :
    Starved strndup16to8 (Reads.strdupReadString >>= following) ↔
      Starved strndup16to8 (following none) := by
  refine forall₂_congr fun unread short => ?_
  rw [Reads.runBytes_strdupReadString_bind, readString16Inplace_starved short]
  rfl

end Rules

/-! ### The payloads that are accepted -/

/-- The bytes behind a string, or behind its length where the characters are missing. -/
def skipString (unread : List UInt8) : List UInt8 := (Unread.readString16Inplace unread).2

theorem skipString_length_le (unread : List UInt8) :
    (skipString unread).length ≤ unread.length :=
  (Unread.readString16Inplace_suffix unread).length_le

/-! A CDMA message: every one of its reads takes four bytes. Where it is `limited` the
two digit counts and the length it contains say how many reads follow them. -/

/-- The end of the digits of the address; their count stands at 28. -/
def addressEnd (limited : Bool) (payload : List UInt8) : Nat :=
  32 + 4 * digitLimit limited ((payload.drop 28).headD 0).toNat rilCdmaSmsAddressMax

/-- The end of the digits of the subaddress. -/
def subaddressEnd (limited : Bool) (payload : List UInt8) : Nat :=
  let address := addressEnd limited payload
  address + 12 +
    4 * digitLimit limited ((payload.drop (address + 8)).headD 0).toNat rilCdmaSmsSubaddressMax

def cdmaSmsBytes (limited : Bool) (payload : List UInt8) : Nat :=
  let subaddress := subaddressEnd limited payload
  subaddress + 4 + 4 * digitLimit limited
    (wordOfBytes (payload.drop subaddress)).toInt.toNat rilCdmaSmsBearerDataMax

/-- The payloads a dispatch function hands over. -/
def DispatchFunction.Accepts (version : Nat) (payload : List UInt8) : DispatchFunction → Prop
  | dispatchVoid | dispatchString => True
  | dispatchStrings | dispatchRaw => 4 ≤ payload.length
  | dispatchInts =>
      4 ≤ payload.length ∧ wordOfBytes payload ≠ 0 ∧
        4 + 4 * (wordOfBytes payload).toInt.toNat ≤ payload.length
  | dispatchSmsWrite =>
      4 ≤ payload.length ∧ (Unread.readString16Inplace (payload.drop 4)).1.isSome
  | dispatchDial =>
      (Unread.readString16Inplace payload).1.isSome ∧ 4 ≤ (skipString payload).length ∧
        (version < 3 ∨ 8 ≤ (skipString payload).length ∧
          (wordOfBytes ((skipString payload).drop 4) = 0 ∨ 20 ≤ (skipString payload).length))
  | dispatchSimIo => 12 ≤ (skipString (payload.drop 8)).length
  | dispatchCallForward => 4 ≤ (skipString (payload.drop 16)).length
  | dispatchCdmaSms => cdmaSmsBytes true payload ≤ payload.length
  | dispatchCdmaSmsAck => 8 ≤ payload.length
  | dispatchGsmBrSmsCnf =>
      4 ≤ payload.length ∧ 4 + 20 * (wordOfBytes payload).toInt.toNat ≤ payload.length
  | dispatchCdmaBrSmsCnf =>
      4 ≤ payload.length ∧ 4 + 12 * (wordOfBytes payload).toInt.toNat ≤ payload.length
  | dispatchRilCdmaSmsWriteArgs => 1360 ≤ payload.length

instance (version : Nat) (payload : List UInt8) (dispatch : DispatchFunction) :
    Decidable (dispatch.Accepts version payload) := by
  cases dispatch <;> unfold DispatchFunction.Accepts <;> infer_instance

section Dispatch

variable (strndup16to8 : List Char16 → CString) (abi : Abi) (request : RilRequest) (pRI : Nat)
  (payload : List UInt8)

@[simp] theorem starved_invalidCommandBlock : Starved strndup16to8 invalidCommandBlock :=
  starved_nothing

/-- A call for this request with its `RequestInfo`. -/
def HandsOver (argument : OnRequest) : Prop := argument.request = request ∧ argument.t = pRI

/-! #### Loops -/

section Loops

variable {strndup16to8} {wanted : OnRequest → Prop} {payload} {offset : Nat} {accepts : Prop}

theorem Decides.readStrings {count : Nat} {unread : List UInt8}
    {following : List (Option CString) → Reads OnRequest Unit}
    (decides : ∀ pStrings rest, Decides strndup16to8 wanted (following pStrings) rest accepts) :
    Decides strndup16to8 wanted (Libril.readStrings count >>= following) unread accepts := by
  induction count generalizing unread following with
  | zero => exact decides [] unread
  | succ count inductionHypothesis =>
      rw [Libril.readStrings, Reads.then_assoc]
      apply Decides.strdupReadString
      rw [Reads.then_assoc]
      apply inductionHypothesis
      intro pStrings rest
      exact decides _ rest

/-- The ints of a list: each of them has to be there. -/
theorem Decides.readInts {count : Nat} {following : Option (List Word) → Reads OnRequest Unit}
    (inside : offset ≤ payload.length) (needs : accepts → offset + 4 * count ≤ payload.length)
    (starved : Starved strndup16to8 (following none))
    (decides : offset + 4 * count ≤ payload.length → ∀ pInts rest,
      Decides strndup16to8 wanted (following (some pInts)) rest accepts) :
    Decides strndup16to8 wanted (Libril.readInts count >>= following) (payload.drop offset)
      accepts := by
  induction count generalizing offset following with
  | zero => exact decides inside [] _
  | succ count inductionHypothesis =>
      rw [Libril.readInts, Reads.then_assoc]
      refine Decides.readInt32 (fun holds => by have := needs holds; omega) starved
        fun enough => ?_
      simp only [Bool.not_true, Bool.false_eq_true, if_false]
      rw [Reads.then_assoc]
      refine inductionHypothesis enough (fun holds => by have := needs holds; omega) starved ?_
      intro more pInts rest
      exact decides (by omega) _ rest

@[simp] theorem starved_readDigits {digitLimit : Nat} {ut : UInt8}
    {following : Bool × UInt8 × List UInt8 → Reads OnRequest Unit} :
    Starved strndup16to8 (Libril.readDigits digitLimit false ut >>= following) ↔
      Starved strndup16to8 (following (false, ut, List.replicate digitLimit ut)) := by
  induction digitLimit generalizing following with
  | zero => exact Iff.rfl
  | succ digitLimit inductionHypothesis =>
      rw [Libril.readDigits, Reads.then_assoc, starved_read]
      simp only
      rw [Reads.then_assoc, inductionHypothesis]
      rfl

/-- The digits of an array, behind a read that was good. -/
theorem Decides.readDigits {digitLimit : Nat} {ut : UInt8}
    {following : Bool × UInt8 × List UInt8 → Reads OnRequest Unit}
    (inside : offset ≤ payload.length)
    (needs : accepts → offset + 4 * digitLimit ≤ payload.length)
    (starved : ∀ ut digits, Starved strndup16to8 (following (false, ut, digits)))
    (decides : offset + 4 * digitLimit ≤ payload.length → ∀ ut digits,
      Decides strndup16to8 wanted (following (true, ut, digits))
        (payload.drop (offset + 4 * digitLimit)) accepts) :
    Decides strndup16to8 wanted (Libril.readDigits digitLimit true ut >>= following)
      (payload.drop offset) accepts := by
  induction digitLimit generalizing offset ut following with
  | zero => exact decides inside ut []
  | succ digitLimit inductionHypothesis =>
      rw [Libril.readDigits, Reads.then_assoc]
      refine Decides.read (fun holds => by have := needs holds; omega) ?_ fun enough => ?_
      · simp only
        rw [Reads.then_assoc, starved_readDigits]
        exact starved _ _
      · simp only
        rw [Reads.then_assoc]
        refine inductionHypothesis enough (fun holds => by have := needs holds; omega)
          (fun ut digits => starved _ _) fun more ut digits => ?_
        have whole := decides (by omega) ut ((payload.drop offset).headD 0 :: digits)
        rw [Nat.mul_succ, Nat.add_comm (4 * digitLimit), ← Nat.add_assoc] at whole
        exact whole

@[simp] theorem starved_readCdmaSmsMessage {limited : Bool} {t : Word} {ut : UInt8}
    {following : Bool × RilCdmaSmsMessage → Reads OnRequest Unit}
    (starved : ∀ message, Starved strndup16to8 (following (false, message))) :
    Starved strndup16to8 (Libril.readCdmaSmsMessage limited t ut >>= following) := by
  simp only [Libril.readCdmaSmsMessage, Reads.then_assoc]
  simp [starved]

/-- The message of `dispatchCdmaSms` and `dispatchRilCdmaSmsWriteArgs`. -/
theorem Decides.readCdmaSmsMessage {limited : Bool} {t : Word} {ut : UInt8}
    {unread : List UInt8} {following : Bool × RilCdmaSmsMessage → Reads OnRequest Unit}
    (same : accepts ↔ cdmaSmsBytes limited unread ≤ unread.length)
    (starved : ∀ message, Starved strndup16to8 (following (false, message)))
    (decides : cdmaSmsBytes limited unread ≤ unread.length → ∀ message rest,
      Decides strndup16to8 wanted (following (true, message)) rest accepts) :
    Decides strndup16to8 wanted (Libril.readCdmaSmsMessage limited t ut >>= following) unread
      accepts := by
  have address : 32 ≤ addressEnd limited unread := Nat.le_add_right _ _
  have subaddress : addressEnd limited unread + 12 ≤ subaddressEnd limited unread :=
    Nat.le_add_right _ _
  have bearer : subaddressEnd limited unread + 4 ≤ cdmaSmsBytes limited unread :=
    Nat.le_add_right _ _
  have needs {offset : Nat} (below : offset ≤ cdmaSmsBytes limited unread) (holds : accepts) :
      offset ≤ unread.length := below.trans (same.mp holds)
  unfold Libril.readCdmaSmsMessage
  simp only [Reads.then_assoc]
  change Decides strndup16to8 wanted _ (unread.drop 0) accepts
  refine Decides.readInt32 (needs (by omega)) (by simp [starved]) fun _ => ?_
  refine Decides.read (needs (by omega)) (by simp [starved]) fun _ => ?_
  refine Decides.readInt32 (needs (by omega)) (by simp [starved]) fun _ => ?_
  refine Decides.readInt32 (needs (by omega)) (by simp [starved]) fun _ => ?_
  refine Decides.readInt32 (needs (by omega)) (by simp [starved]) fun _ => ?_
  refine Decides.readInt32 (needs (by omega)) (by simp [starved]) fun _ => ?_
  refine Decides.readInt32 (needs (by omega)) (by simp [starved]) fun _ => ?_
  refine Decides.read (needs (by omega)) (by simp [starved]) fun enough => ?_
  have toAddress : accepts → addressEnd limited unread ≤ unread.length := needs (by omega)
  refine Decides.readDigits enough toAddress (by simp [starved]) fun _ ut digits => ?_
  change Decides _ _ _ (unread.drop (addressEnd limited unread)) accepts
  refine Decides.readInt32 (needs (by omega)) (by simp [starved]) fun _ => ?_
  refine Decides.read (needs (by omega)) (by simp [starved]) fun _ => ?_
  refine Decides.read (needs (by omega)) (by simp [starved]) fun enough => ?_
  have toSubaddress : accepts → subaddressEnd limited unread ≤ unread.length := needs (by omega)
  refine Decides.readDigits enough toSubaddress (by simp [starved]) fun _ ut digits => ?_
  change Decides _ _ _ (unread.drop (subaddressEnd limited unread)) accepts
  refine Decides.readInt32 (needs (by omega)) (by simp [starved]) fun enough => ?_
  have toBearer : accepts → cdmaSmsBytes limited unread ≤ unread.length := needs le_rfl
  refine Decides.readDigits enough toBearer (by simp [starved]) fun whole ut digits => ?_
  exact decides whole _ _

/-! The two lists of configurations. Only the status of the last read counts, but a read
behind one that failed fails as well. -/

@[simp] theorem starved_readGsmBci {num : Nat} {t : Word}
    {following : Bool × List RilGsmBroadcastSmsConfigInfo → Reads OnRequest Unit}
    (starved : ∀ gsmBci, Starved strndup16to8 (following (false, gsmBci))) :
    Starved strndup16to8 (Libril.readGsmBci num false t >>= following) := by
  induction num generalizing t following with
  | zero => exact starved []
  | succ num inductionHypothesis =>
      simp only [Libril.readGsmBci, Reads.then_assoc, starved_readInt32]
      exact inductionHypothesis fun gsmBci => starved _

theorem Decides.readGsmBci {num : Nat} {t : Word}
    {following : Bool × List RilGsmBroadcastSmsConfigInfo → Reads OnRequest Unit}
    (inside : offset ≤ payload.length) (needs : accepts → offset + 20 * num ≤ payload.length)
    (starved : ∀ gsmBci, Starved strndup16to8 (following (false, gsmBci)))
    (decides : offset + 20 * num ≤ payload.length → ∀ gsmBci rest,
      Decides strndup16to8 wanted (following (true, gsmBci)) rest accepts) :
    Decides strndup16to8 wanted (Libril.readGsmBci num true t >>= following)
      (payload.drop offset) accepts := by
  induction num generalizing offset t following with
  | zero => exact decides inside [] _
  | succ num inductionHypothesis =>
      have before {size : Nat} (within : size ≤ offset + 20) (holds : accepts) :
          size ≤ payload.length := by
        have := needs holds
        omega
      simp only [Libril.readGsmBci, Reads.then_assoc]
      refine Decides.readInt32 (before (by omega)) (by simp [starved]) fun _ => ?_
      refine Decides.readInt32 (before (by omega)) (by simp [starved]) fun _ => ?_
      refine Decides.readInt32 (before (by omega)) (by simp [starved]) fun _ => ?_
      refine Decides.readInt32 (before (by omega)) (by simp [starved]) fun _ => ?_
      refine Decides.readInt32 (before (by omega)) (by simp [starved]) fun enough => ?_
      refine inductionHypothesis enough (fun holds => by have := needs holds; omega)
        (fun gsmBci => starved _) fun more gsmBci rest => ?_
      exact decides (by omega) _ rest

@[simp] theorem starved_readCdmaBci {num : Nat} {t : Word}
    {following : Bool × List RilCdmaBroadcastSmsConfigInfo → Reads OnRequest Unit}
    (starved : ∀ cdmaBci, Starved strndup16to8 (following (false, cdmaBci))) :
    Starved strndup16to8 (Libril.readCdmaBci num false t >>= following) := by
  induction num generalizing t following with
  | zero => exact starved []
  | succ num inductionHypothesis =>
      simp only [Libril.readCdmaBci, Reads.then_assoc, starved_readInt32]
      exact inductionHypothesis fun cdmaBci => starved _

theorem Decides.readCdmaBci {num : Nat} {t : Word}
    {following : Bool × List RilCdmaBroadcastSmsConfigInfo → Reads OnRequest Unit}
    (inside : offset ≤ payload.length) (needs : accepts → offset + 12 * num ≤ payload.length)
    (starved : ∀ cdmaBci, Starved strndup16to8 (following (false, cdmaBci)))
    (decides : offset + 12 * num ≤ payload.length → ∀ cdmaBci rest,
      Decides strndup16to8 wanted (following (true, cdmaBci)) rest accepts) :
    Decides strndup16to8 wanted (Libril.readCdmaBci num true t >>= following)
      (payload.drop offset) accepts := by
  induction num generalizing offset t following with
  | zero => exact decides inside [] _
  | succ num inductionHypothesis =>
      have before {size : Nat} (within : size ≤ offset + 12) (holds : accepts) :
          size ≤ payload.length := by
        have := needs holds
        omega
      simp only [Libril.readCdmaBci, Reads.then_assoc]
      refine Decides.readInt32 (before (by omega)) (by simp [starved]) fun _ => ?_
      refine Decides.readInt32 (before (by omega)) (by simp [starved]) fun _ => ?_
      refine Decides.readInt32 (before (by omega)) (by simp [starved]) fun enough => ?_
      refine inductionHypothesis enough (fun holds => by have := needs holds; omega)
        (fun cdmaBci => starved _) fun more cdmaBci rest => ?_
      exact decides (by omega) _ rest

end Loops

/-! #### The dispatch functions -/

section Functions

variable (version : Nat)

/-- The dispatch function hands over the payloads it accepts, and no others. -/
def DispatchFunction.DecidesWhat (dispatch : DispatchFunction) : Prop :=
  ∀ strndup16to8 payload, Decides strndup16to8 (HandsOver request pRI)
    (dispatch.dispatch abi request pRI version) payload (dispatch.Accepts version payload)

theorem handsOver (data : RequestData) (datalen : Nat) :
    HandsOver request pRI ⟨request, data, datalen, pRI⟩ := ⟨rfl, rfl⟩

theorem dispatchVoid_decides :
    DispatchFunction.dispatchVoid.DecidesWhat abi request pRI version :=
  fun _ _ => Decides.call (handsOver ..) trivial

theorem dispatchString_decides :
    DispatchFunction.dispatchString.DecidesWhat abi request pRI version :=
  fun _ _ => Decides.strdupReadString (Decides.call (handsOver ..) trivial)

theorem dispatchStrings_decides :
    DispatchFunction.dispatchStrings.DecidesWhat abi request pRI version := by
  intro strndup16to8 payload
  change Decides _ _ _ (payload.drop 0) (4 ≤ payload.length)
  refine Decides.readInt32 (by omega) (by simp) fun enough => ?_
  have holds : 4 ≤ payload.length := by omega
  simp only [Bool.not_true, Bool.false_eq_true, if_false]
  split_ifs
  · exact Decides.call (handsOver ..) holds
  · exact Decides.call (handsOver ..) holds
  · exact Decides.readStrings fun _ _ => Decides.call (handsOver ..) holds

theorem dispatchInts_decides :
    DispatchFunction.dispatchInts.DecidesWhat abi request pRI version := by
  intro strndup16to8 payload
  change Decides _ _ _ (payload.drop 0) (4 ≤ payload.length ∧ wordOfBytes payload ≠ 0 ∧
    4 + 4 * (wordOfBytes payload).toInt.toNat ≤ payload.length)
  refine Decides.readInt32 (fun holds => by omega) (by simp) fun enough => ?_
  simp only [Bool.not_true, Bool.false_or, decide_eq_true_eq]
  by_cases zero : wordOfBytes (payload.drop 0) = 0
  · rw [if_pos zero]
    exact Decides.nothing fun holds => holds.2.1 zero
  · rw [if_neg zero]
    refine Decides.readInts enough (fun holds => holds.2.2) (by simp) fun whole pInts rest => ?_
    exact Decides.call (handsOver ..) ⟨by omega, zero, whole⟩

theorem dispatchSmsWrite_decides :
    DispatchFunction.dispatchSmsWrite.DecidesWhat abi request pRI version := by
  intro strndup16to8 payload
  change Decides _ _ _ (payload.drop 0) (4 ≤ payload.length ∧
    (Unread.readString16Inplace (payload.drop 4)).1.isSome)
  refine Decides.readInt32 (fun holds => by omega) (by simp) fun enough => ?_
  apply Decides.strdupReadString
  simp only [Bool.not_true, Bool.false_or, Option.isNone_map, Nat.zero_add]
  cases pdu : (Unread.readString16Inplace (payload.drop 4)).1 with
  | none => exact Decides.nothing fun holds => by simp at holds
  | some text =>
      apply Decides.strdupReadString
      exact Decides.call (handsOver ..) ⟨by omega, rfl⟩

/-- The UUS part of a dial request, with `rest` behind the CLIR word. -/
theorem readUusInfo_decides {strndup16to8 : List Char16 → CString} {wanted : OnRequest → Prop}
    {accepts : Prop} {t : Word} {rest : List UInt8} {offset : Nat}
    {following : Option (Option RilUusInfo) → Reads OnRequest Unit}
    (needs : accepts → offset + 4 ≤ rest.length ∧
      (wordOfBytes (rest.drop offset) = 0 ∨ offset + 16 ≤ rest.length))
    (starved : Starved strndup16to8 (following none))
    (decides : offset + 4 ≤ rest.length →
      (wordOfBytes (rest.drop offset) = 0 ∨ offset + 16 ≤ rest.length) → ∀ uusInfo unread,
        Decides strndup16to8 wanted (following (some uusInfo)) unread accepts) :
    Decides strndup16to8 wanted (readUusInfo abi t >>= following) (rest.drop offset) accepts := by
  unfold readUusInfo
  simp only [Reads.then_assoc]
  refine Decides.readInt32 (fun holds => (needs holds).1) (by simpa using starved) fun enough => ?_
  simp only [Bool.not_true, Bool.false_eq_true, if_false]
  by_cases absent : wordOfBytes (rest.drop offset) = 0
  · rw [if_pos absent]
    exact decides enough (Or.inl absent) _ _
  · rw [if_neg absent]
    have long (holds : accepts) : offset + 16 ≤ rest.length :=
      (needs holds).2.resolve_left absent
    simp only [Reads.then_assoc]
    refine Decides.readInt32 (fun holds => by have := long holds; omega)
      (by simpa using starved) fun _ => ?_
    refine Decides.readInt32 (fun holds => by have := long holds; omega)
      (by simpa using starved) fun _ => ?_
    refine Decides.readInt32 (fun holds => by have := long holds; omega)
      (by simpa using starved) fun whole => ?_
    simp only [Bool.not_true, Bool.false_eq_true, if_false]
    split_ifs
    · exact decides enough (Or.inr (by omega)) _ _
    · rw [Reads.then_assoc]
      apply Decides.readInplace
      exact decides enough (Or.inr (by omega)) _ _

theorem dispatchDial_decides :
    DispatchFunction.dispatchDial.DecidesWhat abi request pRI version := by
  intro strndup16to8 payload
  simp only [DispatchFunction.Accepts, DispatchFunction.dispatch, Libril.dispatchDial]
  apply Decides.strdupReadString
  change Decides _ _ _ ((skipString payload).drop 0) _
  refine Decides.readInt32 (fun holds => by omega) (by simp) fun enough => ?_
  simp only [Bool.not_true, Bool.false_or, Option.isNone_map]
  cases address : (Unread.readString16Inplace payload).1 with
  | none => exact Decides.nothing fun holds => by simp at holds
  | some text =>
      simp only [Option.isNone_some, Bool.false_eq_true, if_false]
      by_cases old : version < 3
      · rw [if_pos old]
        exact Decides.call (handsOver ..) ⟨rfl, by omega, Or.inl old⟩
      · rw [if_neg old]
        refine readUusInfo_decides abi ?_ (by simp) ?_
        · intro holds
          exact holds.2.2.resolve_left old
        · intro present whole uusInfo unread
          exact Decides.call (handsOver ..) ⟨rfl, by omega, Or.inr ⟨present, whole⟩⟩

theorem dispatchSimIo_decides :
    DispatchFunction.dispatchSimIo.DecidesWhat abi request pRI version := by
  intro strndup16to8 payload
  change Decides _ _ _ (payload.drop 0) (12 ≤ (skipString (payload.drop 8)).length)
  have before (holds : 12 ≤ (skipString (payload.drop 8)).length) : 8 ≤ payload.length := by
    have shorter := skipString_length_le (payload.drop 8)
    rw [List.length_drop] at shorter
    omega
  refine Decides.readInt32 (fun holds => by have := before holds; omega) (by simp) fun _ => ?_
  refine Decides.readInt32 (fun holds => by have := before holds; omega) (by simp) fun _ => ?_
  apply Decides.strdupReadString
  change Decides _ _ _ ((skipString (payload.drop 8)).drop 0) _
  refine Decides.readInt32 (fun holds => by omega) (by simp) fun _ => ?_
  refine Decides.readInt32 (fun holds => by omega) (by simp) fun _ => ?_
  refine Decides.readInt32 (fun holds => by omega) (by simp) fun whole => ?_
  apply Decides.strdupReadString
  apply Decides.strdupReadString
  exact Decides.call (handsOver ..) (by omega)

theorem dispatchCallForward_decides :
    DispatchFunction.dispatchCallForward.DecidesWhat abi request pRI version := by
  intro strndup16to8 payload
  change Decides _ _ _ (payload.drop 0) (4 ≤ (skipString (payload.drop 16)).length)
  have before (holds : 4 ≤ (skipString (payload.drop 16)).length) : 16 ≤ payload.length := by
    have shorter := skipString_length_le (payload.drop 16)
    rw [List.length_drop] at shorter
    omega
  refine Decides.readInt32 (fun holds => by have := before holds; omega) (by simp) fun _ => ?_
  refine Decides.readInt32 (fun holds => by have := before holds; omega) (by simp) fun _ => ?_
  refine Decides.readInt32 (fun holds => by have := before holds; omega) (by simp) fun _ => ?_
  refine Decides.readInt32 (fun holds => by have := before holds; omega) (by simp) fun _ => ?_
  apply Decides.strdupReadString
  change Decides _ _ _ ((skipString (payload.drop 16)).drop 0) _
  refine Decides.readInt32 (fun holds => by omega) (by simp) fun whole => ?_
  exact Decides.call (handsOver ..) (by omega)

theorem dispatchRaw_decides :
    DispatchFunction.dispatchRaw.DecidesWhat abi request pRI version := by
  intro strndup16to8 payload
  change Decides _ _ _ (payload.drop 0) (4 ≤ payload.length)
  refine Decides.readInt32 (by omega) (by simp) fun enough => ?_
  apply Decides.readInplace
  exact Decides.call (handsOver ..) (by omega)

theorem dispatchCdmaSms_decides :
    DispatchFunction.dispatchCdmaSms.DecidesWhat abi request pRI version := by
  intro strndup16to8 payload
  change Decides _ _ _ payload (cdmaSmsBytes true payload ≤ payload.length)
  refine Decides.readCdmaSmsMessage Iff.rfl (by simp) fun whole message rest => ?_
  exact Decides.call (handsOver ..) whole

theorem dispatchCdmaSmsAck_decides :
    DispatchFunction.dispatchCdmaSmsAck.DecidesWhat abi request pRI version := by
  intro strndup16to8 payload
  change Decides _ _ _ (payload.drop 0) (8 ≤ payload.length)
  refine Decides.readInt32 (by omega) (by simp) fun _ => ?_
  refine Decides.readInt32 (by omega) (by simp) fun whole => ?_
  exact Decides.call (handsOver ..) (by omega)

theorem dispatchGsmBrSmsCnf_decides :
    DispatchFunction.dispatchGsmBrSmsCnf.DecidesWhat abi request pRI version := by
  intro strndup16to8 payload
  change Decides _ _ _ (payload.drop 0) (4 ≤ payload.length ∧
    4 + 20 * (wordOfBytes payload).toInt.toNat ≤ payload.length)
  refine Decides.readInt32 (fun holds => by omega) (by simp) fun enough => ?_
  refine Decides.readGsmBci enough (fun holds => holds.2) (by simp) fun whole gsmBci rest => ?_
  exact Decides.call (handsOver ..) ⟨by omega, whole⟩

theorem dispatchCdmaBrSmsCnf_decides :
    DispatchFunction.dispatchCdmaBrSmsCnf.DecidesWhat abi request pRI version := by
  intro strndup16to8 payload
  change Decides _ _ _ (payload.drop 0) (4 ≤ payload.length ∧
    4 + 12 * (wordOfBytes payload).toInt.toNat ≤ payload.length)
  refine Decides.readInt32 (fun holds => by omega) (by simp) fun enough => ?_
  refine Decides.readCdmaBci enough (fun holds => holds.2) (by simp) fun whole cdmaBci rest => ?_
  exact Decides.call (handsOver ..) ⟨by omega, whole⟩

theorem dispatchRilCdmaSmsWriteArgs_decides :
    DispatchFunction.dispatchRilCdmaSmsWriteArgs.DecidesWhat abi request pRI version := by
  intro strndup16to8 payload
  have unlimited : cdmaSmsBytes false (payload.drop 4) = 1356 := rfl
  have length := List.length_drop (i := 4) (l := payload)
  change Decides _ _ _ (payload.drop 0) (1360 ≤ payload.length)
  refine Decides.readInt32 (by omega) (by simp) fun enough => ?_
  change Decides _ _ _ (payload.drop 4) _
  refine Decides.readCdmaSmsMessage (by omega) (by simp) fun whole message rest => ?_
  exact Decides.call (handsOver ..) (by omega)

/-- **Every dispatch function** hands over exactly the payloads it accepts. -/
theorem DispatchFunction.decides (dispatch : DispatchFunction) :
    dispatch.DecidesWhat abi request pRI version := by
  cases dispatch with
  | dispatchVoid => exact dispatchVoid_decides abi request pRI version
  | dispatchString => exact dispatchString_decides abi request pRI version
  | dispatchStrings => exact dispatchStrings_decides abi request pRI version
  | dispatchInts => exact dispatchInts_decides abi request pRI version
  | dispatchDial => exact dispatchDial_decides abi request pRI version
  | dispatchSimIo => exact dispatchSimIo_decides abi request pRI version
  | dispatchCallForward => exact dispatchCallForward_decides abi request pRI version
  | dispatchRaw => exact dispatchRaw_decides abi request pRI version
  | dispatchSmsWrite => exact dispatchSmsWrite_decides abi request pRI version
  | dispatchCdmaSms => exact dispatchCdmaSms_decides abi request pRI version
  | dispatchCdmaSmsAck => exact dispatchCdmaSmsAck_decides abi request pRI version
  | dispatchGsmBrSmsCnf => exact dispatchGsmBrSmsCnf_decides abi request pRI version
  | dispatchCdmaBrSmsCnf => exact dispatchCdmaBrSmsCnf_decides abi request pRI version
  | dispatchRilCdmaSmsWriteArgs => exact dispatchRilCdmaSmsWriteArgs_decides abi request pRI version

end Functions

end Dispatch

/-! ### What a record leaves behind -/

section Records

variable (P : Type) [Platform P] [LawfulPlatform P] (version : Nat)

/-- From `s` to `s'` a request was handed over with the `RequestInfo` that was put into the
list, or the list stayed as it was. -/
def Settled (s s' : State) (pRI : Nat) : Prop :=
  (∃ argument info, s'.onRequests = s.onRequests ++ [argument] ∧ argument.t = pRI ∧
      s'.pending = pRI :: s.pending ∧ s'.heap pRI = some info ∧
      argument.request = info.pCI.requestNumber) ∨
    s'.pending = s.pending ∧ s'.heap = s.heap

/-- The dispatch function of the record's request accepts its payload. -/
def PayloadAccepted (buffer : List UInt8) : Prop :=
  ∀ pCI token, requestOf buffer = some (pCI, token) →
    pCI.dispatchFunction.Accepts version (buffer.drop 8)

omit [LawfulPlatform P] in
theorem dispatchCalls_decides (pRI : Nat) (pCI : CommandInfo) (payload : List UInt8) :
    (pCI.dispatchFunction.Accepts version payload → ∃ argument,
      HandsOver pCI.requestNumber pRI argument ∧
        dispatchCalls P version pRI pCI payload = [argument]) ∧
    (¬ pCI.dispatchFunction.Accepts version payload →
      dispatchCalls P version pRI pCI payload = []) := by
  have decides := pCI.dispatchFunction.decides (Platform.abi P) pCI.requestNumber pRI version
    (Platform.strndup16to8 P) payload
  exact ⟨decides.calls, decides.silent⟩

/-- **Where the stack is large enough**, a record is settled exactly where its request is
unsupported or its payload is accepted. Any other record is queued, and no call is made that
could complete it. -/
theorem settled_processCommandBuffer_iff {events : List Event} {s s' : State}
    {buffer : List UInt8} {pRI : Nat}
    (ran : Library.run (step P version) .initial events = some s)
    (stepped : step P version s (.processCommandBuffer buffer pRI) = some s') :
    Settled s s' pRI ↔ PayloadAccepted version buffer := by
  have tracks : Tracks s (Ledger.after events) := tracks_initial.run P version ran
  obtain ⟨⟨-, fresh⟩, rfl⟩ := by
    simpa only [step, Option.ite_none_right_eq_some, Option.some.injEq] using stepped
  cases found : requestOf buffer with
  | none =>
      rw [processCommandBuffer_rejected version pRI found]
      refine ⟨fun _ pCI token same => ?_, fun _ => Or.inr ⟨rfl, rfl⟩⟩
      rw [found] at same
      cases same
  | some accepted =>
      obtain ⟨pCI, token⟩ := accepted
      have condition : PayloadAccepted version buffer ↔
          pCI.dispatchFunction.Accepts version (buffer.drop 8) := by
        constructor
        · intro all
          exact all pCI token found
        · intro accepts pCI' token' same
          obtain ⟨rfl, rfl⟩ := by simpa [found] using same
          exact accepts
      rw [processCommandBuffer_accepted version pRI found, condition]
      obtain ⟨calls, silent⟩ := dispatchCalls_decides P version pRI pCI (buffer.drop 8)
      set info : RequestInfo := ⟨token, pCI, 0, false, false⟩
      have queued : (s.enqueue pRI info).pending = pRI :: s.pending := by
        rw [(tracks.list.enqueue info fresh rfl).pending_eq, tracks.list.pending_eq]
        rfl
      constructor
      · intro settled
        by_contra rejects
        rw [silent rejects] at settled
        rcases settled with ⟨argument, _, appended, -⟩ | ⟨same, -⟩
        · simp at appended
        · have longer := congrArg List.length (same.symm.trans queued)
          simp at longer
      · intro accepts
        obtain ⟨argument, handed, called⟩ := calls accepts
        rw [called]
        refine Or.inl ⟨argument, info.setPNext s.pendingRequests, rfl, handed.2, queued, ?_,
          handed.1⟩
        exact Function.update_self ..

/-- A client has connected, and nothing else has happened. -/
def connectedState : State := (State.initial.acceptClient 5).onNewCommandConnect 4 [] []

theorem connectedState_run :
    Library.run (step ByteParcel 3) .initial [.clientConnect 5 4 [] []] = some connectedState :=
  rfl

/-- `RADIO_POWER` with the one int it wants. -/
def radioPowerRecord : List UInt8 :=
  wordBytes 23 ++ wordBytes 7 ++ (wordBytes 1 ++ wordBytes 1)

end Records

end RildHisi.Libril
