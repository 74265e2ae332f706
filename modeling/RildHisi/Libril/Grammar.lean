import RildHisi.Libril.Acceptance

/-!
Owns the grammar of request payloads: the fields each dispatch function documents, read
off a payload only where all of them are complete, and exactly when what a dispatch
function hands over is what the grammar reads.

The integers are where the dispatch functions are right. What they miss is a string that
is not there, a negative count, and an array that is not there.
-/

namespace RildHisi.Libril

open RildHisi.Library

/-! ### Fields -/

/-- A value read off the front of the bytes, if its encoding is complete. -/
abbrev Grammar (α : Type) := StateT (List UInt8) Option α

/-- A string or a null string, with all that its length word declares. -/
def CompleteString (unread : List UInt8) : Prop :=
  4 ≤ unread.length ∧ (wordOfBytes unread = -1 ∨ (Unread.readString16Inplace unread).1.isSome)

/-- `count` strings, one behind the other. -/
def CompleteStrings : Nat → List UInt8 → Prop
  | 0, _ => True
  | count + 1, unread => CompleteString unread ∧ CompleteStrings count (skipString unread)

/-- The bytes of an array of this length. -/
def CompleteArray (len : Word) (unread : List UInt8) : Prop :=
  0 ≤ len.toInt ∧ padSize len.toNat ≤ unread.length

instance (unread : List UInt8) : Decidable (CompleteString unread) :=
  inferInstanceAs (Decidable (_ ∧ _))

instance (len : Word) (unread : List UInt8) : Decidable (CompleteArray len unread) :=
  inferInstanceAs (Decidable (_ ∧ _))

namespace Grammar

def int32 : Grammar Word := fun unread =>
  if 4 ≤ unread.length then some (wordOfBytes unread, unread.drop 4) else none

/-- A byte, which takes four. -/
def byte : Grammar UInt8 := fun unread =>
  if 4 ≤ unread.length then some (unread.headD 0, unread.drop 4) else none

def string (strndup16to8 : List Char16 → CString) : Grammar (Option CString) := fun unread =>
  if CompleteString unread then
    some ((Unread.readString16Inplace unread).1.map strndup16to8, skipString unread)
  else none

/-- The bytes of an array, whose length has been read. -/
def array (len : Word) : Grammar (List UInt8) := fun unread =>
  if CompleteArray len unread then
    some (unread.take len.toNat, unread.drop (padSize len.toNat))
  else none

/-- `count` elements, one behind the other. -/
def times {α : Type} (element : Grammar α) : Nat → Grammar (List α)
  | 0 => pure []
  | count + 1 => do
      let first ← element
      let rest ← times element count
      pure (first :: rest)

/-- As many elements as the count says. A negative count is none of anything. -/
def list {α : Type} (count : Word) (element : Grammar α) : Grammar (List α) :=
  if count.toInt < 0 then failure else times element count.toInt.toNat

/-! ### Payloads -/

def gsmBci : Grammar RilGsmBroadcastSmsConfigInfo := do
  let fromServiceId ← int32
  let toServiceId ← int32
  let fromCodeScheme ← int32
  let toCodeScheme ← int32
  let selected ← int32
  pure ⟨fromServiceId, toServiceId, fromCodeScheme, toCodeScheme, UInt8.ofNat selected.toNat⟩

def cdmaBci : Grammar RilCdmaBroadcastSmsConfigInfo := do
  let serviceCategory ← int32
  let language ← int32
  let selected ← int32
  pure ⟨serviceCategory, language, UInt8.ofNat selected.toNat⟩

/-- An array of bytes that each take four follows its length, cut off at `max` where it is
`limited` and else always of that length. -/
def cdmaSmsMessage (limited : Bool) : Grammar RilCdmaSmsMessage := do
  let uTeleserviceID ← int32
  let bIsServicePresent ← byte
  let uServicecategory ← int32
  let digitMode ← int32
  let numberMode ← int32
  let numberType ← int32
  let numberPlan ← int32
  let addressDigits ← byte
  let digits ← times byte (digitLimit limited addressDigits.toNat rilCdmaSmsAddressMax)
  let sAddress := ⟨digitMode, numberMode, numberType, numberPlan, addressDigits, digits⟩
  let subaddressType ← int32
  let odd ← byte
  let subaddressDigits ← byte
  let digits ← times byte (digitLimit limited subaddressDigits.toNat rilCdmaSmsSubaddressMax)
  let sSubAddress := ⟨subaddressType, odd, subaddressDigits, digits⟩
  let uBearerDataLen ← int32
  let aBearerData ← times byte
    (digitLimit limited uBearerDataLen.toInt.toNat rilCdmaSmsBearerDataMax)
  pure ⟨uTeleserviceID, bIsServicePresent, uServicecategory, sAddress, sSubAddress,
    uBearerDataLen, aBearerData⟩

/-- The UUS part of a dial request. -/
def uusInfo : Grammar (Option RilUusInfo) := do
  let uusPresent ← int32
  if uusPresent = 0 then pure none
  else
    let uusType ← int32
    let uusDcs ← int32
    let len ← int32
    -- -1 for a null array
    if len = -1 then pure (some ⟨uusType, uusDcs, 0, none⟩)
    else
      let uusData ← array len
      pure (some ⟨uusType, uusDcs, len, some uusData⟩)

end Grammar

open Grammar

/-- The payload each dispatch function documents, and the data it stands for. -/
def DispatchFunction.grammar (strndup16to8 : List Char16 → CString) (version : Nat) :
    DispatchFunction → Grammar RequestData
  | dispatchVoid => pure .null
  | dispatchString => do
      let string8 ← string strndup16to8
      pure (string8.elim .null .string)
  | dispatchStrings => do
      let countStrings ← int32
      if countStrings = -1 then pure .null
      else
        let pStrings ← list countStrings (string strndup16to8)
        pure (.strings pStrings)
  | dispatchInts => do
      let count ← int32
      let pInts ← list count int32
      pure (.ints pInts)
  | dispatchSmsWrite => do
      let status ← int32
      let pdu ← string strndup16to8
      let smsc ← string strndup16to8
      pure (.smsWrite ⟨status, pdu, smsc⟩)
  | dispatchDial => do
      let address ← string strndup16to8
      let clir ← int32
      if version < 3 then pure (.dial ⟨address, clir, none⟩)
      else
        let uusInfo ← uusInfo
        pure (.dial ⟨address, clir, uusInfo⟩)
  | dispatchSimIo => do
      let command ← int32
      let fileid ← int32
      let path ← string strndup16to8
      let p1 ← int32
      let p2 ← int32
      let p3 ← int32
      let data ← string strndup16to8
      let pin2 ← string strndup16to8
      pure (.simIo ⟨command, fileid, path, p1, p2, p3, data, pin2⟩)
  | dispatchCallForward => do
      let status ← int32
      let reason ← int32
      let serviceClass ← int32
      let toa ← int32
      let number ← string strndup16to8
      let timeSeconds ← int32
      -- 0 length -> null
      let number := if number = some [] then none else number
      pure (.callForward ⟨status, reason, serviceClass, toa, number, timeSeconds⟩)
  | dispatchRaw => do
      let len ← int32
      -- -1 for a null array
      if len = -1 then pure .null
      else
        let data ← array len
        pure (.raw data)
  | dispatchCdmaSms => do
      let rcsm ← cdmaSmsMessage true
      pure (.cdmaSms rcsm)
  | dispatchCdmaSmsAck => do
      let uErrorClass ← int32
      let uSMSCauseCode ← int32
      pure (.cdmaSmsAck ⟨uErrorClass, uSMSCauseCode⟩)
  | dispatchGsmBrSmsCnf => do
      let num ← int32
      let gsmBci ← list num gsmBci
      pure (.gsmBrSmsCnf gsmBci)
  | dispatchCdmaBrSmsCnf => do
      let num ← int32
      let cdmaBci ← list num cdmaBci
      pure (.cdmaBrSmsCnf cdmaBci)
  | dispatchRilCdmaSmsWriteArgs => do
      let status ← int32
      let message ← cdmaSmsMessage false
      pure (.cdmaSmsWrite ⟨status, message⟩)

/-! ### What is handed over -/

section Follows

variable (strndup16to8 : List Char16 → CString)

/-- Where the grammar reads the payload, the program hands over nothing else. -/
def Follows (program : Reads OnRequest Unit) (grammar : Grammar RequestData) : Prop :=
  ∀ unread data rest, grammar unread = some (data, rest) →
    ∀ argument ∈ (program.runBytes strndup16to8 unread).2.2, argument.data = data

variable {strndup16to8}

theorem Follows.nothing (grammar : Grammar RequestData) :
    Follows strndup16to8 (pure ()) grammar := by
  intro unread data rest _ argument member
  cases member

theorem Follows.call {argument : OnRequest} {data : RequestData} (same : argument.data = data) :
    Follows strndup16to8 (Reads.call argument) (pure data) := by
  intro unread data' rest read argument' member
  obtain rfl : data = data' := congrArg Prod.fst (Option.some.inj read)
  obtain rfl := List.mem_singleton.mp member
  exact same

/-- A grammar that begins with a field reads the field and then the rest. -/
theorem bind_read {α β : Type} {field : Grammar α} {following : α → Grammar β}
    {unread rest : List UInt8} {value : β} (read : (field >>= following) unread = some (value, rest)) :
    ∃ first behind, field unread = some (first, behind) ∧
      following first behind = some (value, rest) := by
  obtain ⟨⟨first, behind⟩, fieldRead, restRead⟩ := Option.bind_eq_some_iff.mp read
  exact ⟨first, behind, fieldRead, restRead⟩

theorem Follows.readInt32 {t : Word} {following : Bool × Word → Reads OnRequest Unit}
    {grammar : Word → Grammar RequestData}
    (follows : ∀ word, Follows strndup16to8 (following (true, word)) (grammar word)) :
    Follows strndup16to8 (Reads.readInt32 t >>= following) (int32 >>= grammar) := by
  intro unread data rest read
  obtain ⟨word, behind, fieldRead, restRead⟩ := bind_read read
  obtain ⟨enough, same⟩ := Option.ite_none_right_eq_some.mp fieldRead
  obtain ⟨rfl, rfl⟩ := Prod.mk.inj (Option.some.inj same)
  rw [Reads.runBytes_readInt32_bind, Unread.readInt32_enough enough]
  exact follows _ _ _ _ restRead

theorem Follows.read {ut : UInt8} {following : Bool × UInt8 → Reads OnRequest Unit}
    {grammar : UInt8 → Grammar RequestData}
    (follows : ∀ ut, Follows strndup16to8 (following (true, ut)) (grammar ut)) :
    Follows strndup16to8 (Reads.read ut >>= following) (byte >>= grammar) := by
  intro unread data rest read
  obtain ⟨first, behind, fieldRead, restRead⟩ := bind_read read
  obtain ⟨enough, same⟩ := Option.ite_none_right_eq_some.mp fieldRead
  obtain ⟨rfl, rfl⟩ := Prod.mk.inj (Option.some.inj same)
  have taken : Unread.read unread 1 = (some (unread.take 1), unread.drop 4) := if_pos enough
  rw [Reads.runBytes_read_bind, taken]
  cases unread with
  | nil => simp at enough
  | cons first unread => exact follows _ _ _ _ restRead

theorem Follows.strdupReadString {following : Option CString → Reads OnRequest Unit}
    {grammar : Option CString → Grammar RequestData}
    (follows : ∀ string8, Follows strndup16to8 (following string8) (grammar string8)) :
    Follows strndup16to8 (Reads.strdupReadString >>= following)
      (string strndup16to8 >>= grammar) := by
  intro unread data rest read
  obtain ⟨string8, behind, fieldRead, restRead⟩ := bind_read read
  obtain ⟨complete, same⟩ := Option.ite_none_right_eq_some.mp fieldRead
  obtain ⟨rfl, rfl⟩ := Prod.mk.inj (Option.some.inj same)
  exact follows _ _ _ _ restRead

theorem Follows.readInplace {abi : Abi} {len : Word}
    {following : Option (List UInt8) → Reads OnRequest Unit}
    {grammar : List UInt8 → Grammar RequestData}
    (follows : ∀ bytes, Follows strndup16to8 (following (some bytes)) (grammar bytes)) :
    Follows strndup16to8 (Reads.readInplace (abi.sizeT len) >>= following)
      (array len >>= grammar) := by
  intro unread data rest read
  obtain ⟨bytes, behind, fieldRead, restRead⟩ := bind_read read
  obtain ⟨⟨positive, enough⟩, same⟩ := Option.ite_none_right_eq_some.mp fieldRead
  obtain ⟨rfl, rfl⟩ := Prod.mk.inj (Option.some.inj same)
  have size : abi.sizeT len = len.toNat := abi.sizeT_of_nonneg positive
  have taken : Unread.read unread len.toNat =
      (some (unread.take len.toNat), unread.drop (padSize len.toNat)) := if_pos enough
  rw [Reads.runBytes_readInplace_bind, size, taken]
  exact follows _ _ _ _ restRead

/-! #### Loops -/

theorem Follows.readStrings {count : Nat}
    {following : List (Option CString) → Reads OnRequest Unit}
    {grammar : List (Option CString) → Grammar RequestData}
    (follows : ∀ pStrings, Follows strndup16to8 (following pStrings) (grammar pStrings)) :
    Follows strndup16to8 (Libril.readStrings count >>= following)
      (times (string strndup16to8) count >>= grammar) := by
  induction count generalizing following grammar with
  | zero => exact follows []
  | succ count inductionHypothesis =>
      rw [Libril.readStrings, times, Reads.then_assoc, bind_assoc]
      refine Follows.strdupReadString fun string8 => ?_
      rw [Reads.then_assoc, bind_assoc]
      refine inductionHypothesis fun pStrings => ?_
      exact follows _

theorem Follows.readInts {count : Nat} {following : Option (List Word) → Reads OnRequest Unit}
    {grammar : List Word → Grammar RequestData}
    (follows : ∀ pInts, Follows strndup16to8 (following (some pInts)) (grammar pInts)) :
    Follows strndup16to8 (Libril.readInts count >>= following) (times int32 count >>= grammar) := by
  induction count generalizing following grammar with
  | zero => exact follows []
  | succ count inductionHypothesis =>
      rw [Libril.readInts, times, Reads.then_assoc, bind_assoc]
      refine Follows.readInt32 fun word => ?_
      simp only [Bool.not_true, Bool.false_eq_true, if_false]
      rw [Reads.then_assoc, bind_assoc]
      refine inductionHypothesis fun pInts => ?_
      exact follows _

theorem Follows.readDigits {digitLimit : Nat} {ut : UInt8}
    {following : Bool × UInt8 × List UInt8 → Reads OnRequest Unit}
    {grammar : List UInt8 → Grammar RequestData}
    (follows : ∀ ut digits, Follows strndup16to8 (following (true, ut, digits)) (grammar digits)) :
    Follows strndup16to8 (Libril.readDigits digitLimit true ut >>= following)
      (times byte digitLimit >>= grammar) := by
  induction digitLimit generalizing ut following grammar with
  | zero => exact follows ut []
  | succ digitLimit inductionHypothesis =>
      rw [Libril.readDigits, times, Reads.then_assoc, bind_assoc]
      refine Follows.read fun ut => ?_
      simp only
      rw [Reads.then_assoc, bind_assoc]
      refine inductionHypothesis fun ut digits => ?_
      exact follows _ _

theorem Follows.readGsmBci {num : Nat} {t : Word}
    {following : Bool × List RilGsmBroadcastSmsConfigInfo → Reads OnRequest Unit}
    {grammar : List RilGsmBroadcastSmsConfigInfo → Grammar RequestData}
    (follows : ∀ gsmBci, Follows strndup16to8 (following (true, gsmBci)) (grammar gsmBci)) :
    Follows strndup16to8 (Libril.readGsmBci num true t >>= following)
      (times gsmBci num >>= grammar) := by
  induction num generalizing t following grammar with
  | zero => exact follows []
  | succ num inductionHypothesis =>
      simp only [Libril.readGsmBci, times, gsmBci, Reads.then_assoc, bind_assoc, pure_bind]
      refine Follows.readInt32 fun fromServiceId => ?_
      refine Follows.readInt32 fun toServiceId => ?_
      refine Follows.readInt32 fun fromCodeScheme => ?_
      refine Follows.readInt32 fun toCodeScheme => ?_
      refine Follows.readInt32 fun selected => ?_
      refine inductionHypothesis fun gsmBci => ?_
      exact follows _

theorem Follows.readCdmaBci {num : Nat} {t : Word}
    {following : Bool × List RilCdmaBroadcastSmsConfigInfo → Reads OnRequest Unit}
    {grammar : List RilCdmaBroadcastSmsConfigInfo → Grammar RequestData}
    (follows : ∀ cdmaBci, Follows strndup16to8 (following (true, cdmaBci)) (grammar cdmaBci)) :
    Follows strndup16to8 (Libril.readCdmaBci num true t >>= following)
      (times cdmaBci num >>= grammar) := by
  induction num generalizing t following grammar with
  | zero => exact follows []
  | succ num inductionHypothesis =>
      simp only [Libril.readCdmaBci, times, cdmaBci, Reads.then_assoc, bind_assoc, pure_bind]
      refine Follows.readInt32 fun serviceCategory => ?_
      refine Follows.readInt32 fun language => ?_
      refine Follows.readInt32 fun selected => ?_
      refine inductionHypothesis fun cdmaBci => ?_
      exact follows _

theorem Follows.readCdmaSmsMessage {limited : Bool} {t : Word} {ut : UInt8}
    {following : Bool × RilCdmaSmsMessage → Reads OnRequest Unit}
    {grammar : RilCdmaSmsMessage → Grammar RequestData}
    (follows : ∀ message, Follows strndup16to8 (following (true, message)) (grammar message)) :
    Follows strndup16to8 (Libril.readCdmaSmsMessage limited t ut >>= following)
      (cdmaSmsMessage limited >>= grammar) := by
  simp only [Libril.readCdmaSmsMessage, cdmaSmsMessage, Reads.then_assoc, bind_assoc, pure_bind]
  refine Follows.readInt32 fun uTeleserviceID => ?_
  refine Follows.read fun bIsServicePresent => ?_
  refine Follows.readInt32 fun uServicecategory => ?_
  refine Follows.readInt32 fun digitMode => ?_
  refine Follows.readInt32 fun numberMode => ?_
  refine Follows.readInt32 fun numberType => ?_
  refine Follows.readInt32 fun numberPlan => ?_
  refine Follows.read fun addressDigits => ?_
  refine Follows.readDigits fun ut digits => ?_
  refine Follows.readInt32 fun subaddressType => ?_
  refine Follows.read fun odd => ?_
  refine Follows.read fun subaddressDigits => ?_
  refine Follows.readDigits fun ut digits => ?_
  refine Follows.readInt32 fun uBearerDataLen => ?_
  refine Follows.readDigits fun ut aBearerData => ?_
  exact follows _

theorem Follows.readUusInfo {abi : Abi} {t : Word}
    {following : Option (Option RilUusInfo) → Reads OnRequest Unit}
    {grammar : Option RilUusInfo → Grammar RequestData}
    (follows : ∀ uusInfo, Follows strndup16to8 (following (some uusInfo)) (grammar uusInfo)) :
    Follows strndup16to8 (Libril.readUusInfo abi t >>= following) (uusInfo >>= grammar) := by
  simp only [Libril.readUusInfo, uusInfo, Reads.then_assoc, bind_assoc]
  refine Follows.readInt32 fun uusPresent => ?_
  simp only [Bool.not_true, Bool.false_eq_true, if_false]
  by_cases absent : uusPresent = 0
  · simp only [if_pos absent]
    exact follows none
  simp only [if_neg absent, Reads.then_assoc, bind_assoc]
  refine Follows.readInt32 fun uusType => ?_
  refine Follows.readInt32 fun uusDcs => ?_
  refine Follows.readInt32 fun len => ?_
  simp only [Bool.not_true, Bool.false_eq_true, if_false]
  by_cases null : len = -1
  · simp only [if_pos null]
    exact follows _
  · simp only [if_neg null, Reads.then_assoc, bind_assoc]
    refine Follows.readInplace fun uusData => ?_
    exact follows _

/-- A list with its count. -/
theorem Follows.list {α : Type} {count : Word} {element : Grammar α}
    {program : Reads OnRequest Unit} {grammar : List α → Grammar RequestData}
    (follows : 0 ≤ count.toInt →
      Follows strndup16to8 program (times element count.toInt.toNat >>= grammar)) :
    Follows strndup16to8 program (Grammar.list count element >>= grammar) := by
  unfold Grammar.list
  split_ifs with negative
  · intro unread data rest read
    cases read
  · exact follows (Int.not_lt.mp negative)

/-! #### The dispatch functions -/

/-- All but `dispatchRaw`, which hands over a null array as an empty one. -/
theorem DispatchFunction.follows (abi : Abi) (request : RilRequest) (pRI version : Nat)
    {dispatch : DispatchFunction} (other : dispatch ≠ .dispatchRaw) :
    Follows strndup16to8 (dispatch.dispatch abi request pRI version)
      (dispatch.grammar strndup16to8 version) := by
  cases dispatch with
  | dispatchVoid => exact Follows.call rfl
  | dispatchString => exact Follows.strdupReadString fun string8 => Follows.call rfl
  | dispatchStrings =>
      refine Follows.readInt32 fun countStrings => ?_
      simp only [Bool.not_true, Bool.false_eq_true, if_false]
      by_cases zero : countStrings = 0
      · subst zero
        exact Follows.call rfl
      rw [if_neg zero]
      by_cases null : countStrings = -1
      · rw [if_pos null, if_pos null]
        exact Follows.call rfl
      rw [if_neg null, if_neg null]
      exact Follows.list fun _ => Follows.readStrings fun pStrings => Follows.call rfl
  | dispatchInts =>
      refine Follows.readInt32 fun count => ?_
      simp only
      split_ifs
      · exact Follows.nothing _
      · exact Follows.list fun _ => Follows.readInts fun pInts => Follows.call rfl
  | dispatchSmsWrite =>
      refine Follows.readInt32 fun status => ?_
      refine Follows.strdupReadString fun pdu => ?_
      split_ifs
      · exact Follows.nothing _
      · exact Follows.strdupReadString fun smsc => Follows.call rfl
  | dispatchDial =>
      refine Follows.strdupReadString fun address => ?_
      refine Follows.readInt32 fun clir => ?_
      simp only
      by_cases invalid : (!true || address.isNone) = true
      · rw [if_pos invalid]
        exact Follows.nothing _
      rw [if_neg invalid]
      split_ifs
      · exact Follows.call rfl
      · exact Follows.readUusInfo fun uusInfo => Follows.call rfl
  | dispatchSimIo =>
      refine Follows.readInt32 fun command => ?_
      refine Follows.readInt32 fun fileid => ?_
      refine Follows.strdupReadString fun path => ?_
      refine Follows.readInt32 fun p1 => ?_
      refine Follows.readInt32 fun p2 => ?_
      refine Follows.readInt32 fun p3 => ?_
      refine Follows.strdupReadString fun data => ?_
      refine Follows.strdupReadString fun pin2 => ?_
      exact Follows.call rfl
  | dispatchCallForward =>
      refine Follows.readInt32 fun status => ?_
      refine Follows.readInt32 fun reason => ?_
      refine Follows.readInt32 fun serviceClass => ?_
      refine Follows.readInt32 fun toa => ?_
      refine Follows.strdupReadString fun number => ?_
      refine Follows.readInt32 fun timeSeconds => ?_
      exact Follows.call rfl
  | dispatchRaw => exact absurd rfl other
  | dispatchCdmaSms => exact Follows.readCdmaSmsMessage fun rcsm => Follows.call rfl
  | dispatchCdmaSmsAck =>
      refine Follows.readInt32 fun uErrorClass => ?_
      refine Follows.readInt32 fun uSMSCauseCode => ?_
      exact Follows.call rfl
  | dispatchGsmBrSmsCnf =>
      refine Follows.readInt32 fun num => ?_
      exact Follows.list fun _ => Follows.readGsmBci fun gsmBci => Follows.call rfl
  | dispatchCdmaBrSmsCnf =>
      refine Follows.readInt32 fun num => ?_
      exact Follows.list fun _ => Follows.readCdmaBci fun cdmaBci => Follows.call rfl
  | dispatchRilCdmaSmsWriteArgs =>
      refine Follows.readInt32 fun status => ?_
      exact Follows.readCdmaSmsMessage fun message => Follows.call rfl

end Follows

/-! ### Complete payloads -/

section Complete

variable {α β : Type} {unread : List UInt8}

theorem isSome_int32 {following : Word → Grammar β} :
    ((int32 >>= following) unread).isSome ↔
      4 ≤ unread.length ∧ (following (wordOfBytes unread) (unread.drop 4)).isSome := by
  change ((int32 unread).bind fun read => following read.1 read.2).isSome ↔ _
  unfold int32
  split_ifs with enough <;> simp [enough]

theorem isSome_byte {following : UInt8 → Grammar β} :
    ((byte >>= following) unread).isSome ↔
      4 ≤ unread.length ∧ (following (unread.headD 0) (unread.drop 4)).isSome := by
  change ((byte unread).bind fun read => following read.1 read.2).isSome ↔ _
  unfold byte
  split_ifs with enough <;> simp [enough]

theorem isSome_string {strndup16to8 : List Char16 → CString} {following : Option CString → Grammar β} :
    ((string strndup16to8 >>= following) unread).isSome ↔ CompleteString unread ∧
      (following ((Unread.readString16Inplace unread).1.map strndup16to8)
        (skipString unread)).isSome := by
  change ((string strndup16to8 unread).bind fun read => following read.1 read.2).isSome ↔ _
  unfold string
  split_ifs with complete <;> simp [complete]

theorem isSome_array {len : Word} {following : List UInt8 → Grammar β} :
    ((array len >>= following) unread).isSome ↔ CompleteArray len unread ∧
      (following (unread.take len.toNat) (unread.drop (padSize len.toNat))).isSome := by
  change ((array len unread).bind fun read => following read.1 read.2).isSome ↔ _
  unfold array
  split_ifs with complete <;> simp [complete]

theorem isSome_pure {value : β} : ((pure value : Grammar β) unread).isSome := rfl

theorem isSome_bind_pure {field : Grammar α} {result : α → β} :
    ((field >>= fun value => pure (result value)) unread).isSome ↔ (field unread).isSome := by
  change ((field unread).bind fun read => some (result read.1, read.2)).isSome ↔ _
  cases field unread <;> simp

theorem isSome_list {count : Word} {element : Grammar α} {result : List α → β} :
    ((Grammar.list count element >>= fun values => pure (result values)) unread).isSome ↔
      0 ≤ count.toInt ∧ (times element count.toInt.toNat unread).isSome := by
  rw [isSome_bind_pure]
  unfold Grammar.list
  split_ifs with negative
  · exact ⟨nofun, fun complete => absurd complete.1 (Int.not_le.mpr negative)⟩
  · simp [Int.not_lt.mp negative]

theorem isSome_strings {strndup16to8 : List Char16 → CString} {count : Nat} :
    (times (string strndup16to8) count unread).isSome ↔ CompleteStrings count unread := by
  induction count generalizing unread with
  | zero => exact iff_of_true rfl trivial
  | succ count inductionHypothesis =>
      rw [times, isSome_string, isSome_bind_pure, inductionHypothesis]
      rfl

/-- The grammar reads this many bytes, whatever they are. -/
structure Fixed (width : Nat) (grammar : Grammar α) : Prop where
  reads : ∀ unread : List UInt8, width ≤ unread.length →
    ∃ value, grammar unread = some (value, unread.drop width)
  short : ∀ unread : List UInt8, unread.length < width → grammar unread = none

theorem fixed_int32 : Fixed 4 int32 :=
  ⟨fun _ enough => ⟨_, if_pos enough⟩, fun _ short => if_neg (Nat.not_le_of_lt short)⟩

theorem fixed_byte : Fixed 4 byte :=
  ⟨fun _ enough => ⟨_, if_pos enough⟩, fun _ short => if_neg (Nat.not_le_of_lt short)⟩

theorem fixed_pure (value : α) : Fixed 0 (pure value : Grammar α) :=
  ⟨fun _ _ => ⟨value, rfl⟩, fun _ short => absurd short (Nat.not_lt_zero _)⟩

theorem Fixed.bind {width behind : Nat} {field : Grammar α} {following : α → Grammar β}
    (first : Fixed width field) (rest : ∀ value, Fixed behind (following value)) :
    Fixed (width + behind) (field >>= following) where
  reads unread enough := by
    obtain ⟨value, read⟩ := first.reads unread (by omega)
    obtain ⟨last, readRest⟩ := (rest value).reads (unread.drop width) (by
      rw [List.length_drop]
      omega)
    refine ⟨last, ?_⟩
    change ((field unread).bind fun read => following read.1 read.2) = _
    rw [read, Option.bind_some, readRest, List.drop_drop]
  short unread short := by
    change ((field unread).bind fun read => following read.1 read.2) = _
    by_cases enough : width ≤ unread.length
    · obtain ⟨value, read⟩ := first.reads unread enough
      rw [read, Option.bind_some]
      exact (rest value).short _ (by
        rw [List.length_drop]
        omega)
    · rw [first.short unread (by omega), Option.bind_none]

theorem Fixed.times {width : Nat} {element : Grammar α} (fixed : Fixed width element)
    (count : Nat) : Fixed (width * count) (Grammar.times element count) := by
  induction count with
  | zero => exact fixed_pure []
  | succ count inductionHypothesis =>
      have more := fixed.bind fun first => inductionHypothesis.bind fun rest =>
        fixed_pure (first :: rest)
      rw [Nat.add_zero, Nat.add_comm, ← Nat.mul_succ] at more
      exact more

theorem Fixed.isSome {width : Nat} {grammar : Grammar α} (fixed : Fixed width grammar) :
    (grammar unread).isSome ↔ width ≤ unread.length := by
  by_cases enough : width ≤ unread.length
  · obtain ⟨value, read⟩ := fixed.reads unread enough
    simp [read, enough]
  · simp [fixed.short unread (by omega), enough]

theorem fixed_gsmBci : Fixed 20 gsmBci :=
  fixed_int32.bind fun _ => fixed_int32.bind fun _ => fixed_int32.bind fun _ =>
    fixed_int32.bind fun _ => fixed_int32.bind fun _ => fixed_pure _

theorem fixed_cdmaBci : Fixed 12 cdmaBci :=
  fixed_int32.bind fun _ => fixed_int32.bind fun _ => fixed_int32.bind fun _ => fixed_pure _

/-! A message is read up to `offset`, and the rest of it is there. -/

section Offset

variable {payload : List UInt8} {offset : Nat}

theorem complete_int32 {following : Word → Grammar β} (enough : offset + 4 ≤ payload.length)
    (rest : (following (wordOfBytes (payload.drop offset)) (payload.drop (offset + 4))).isSome) :
    ((int32 >>= following) (payload.drop offset)).isSome := by
  rw [isSome_int32, List.drop_drop, List.length_drop]
  exact ⟨by omega, rest⟩

theorem complete_byte {following : UInt8 → Grammar β} (enough : offset + 4 ≤ payload.length)
    (rest : (following ((payload.drop offset).headD 0) (payload.drop (offset + 4))).isSome) :
    ((byte >>= following) (payload.drop offset)).isSome := by
  rw [isSome_byte, List.drop_drop, List.length_drop]
  exact ⟨by omega, rest⟩

theorem complete_bytes {count : Nat} {following : List UInt8 → Grammar β}
    (enough : offset + 4 * count ≤ payload.length)
    (rest : ∀ digits, (following digits (payload.drop (offset + 4 * count))).isSome) :
    ((times byte count >>= following) (payload.drop offset)).isSome := by
  obtain ⟨digits, read⟩ := (fixed_byte.times count).reads (payload.drop offset) (by
    rw [List.length_drop]
    omega)
  change ((times byte count (payload.drop offset)).bind fun read => following read.1 read.2).isSome
  rw [read, Option.bind_some, List.drop_drop]
  exact rest digits

theorem complete_cdmaSmsMessage {limited : Bool} {result : RilCdmaSmsMessage → β}
    (whole : cdmaSmsBytes limited payload ≤ payload.length) :
    ((cdmaSmsMessage limited >>= fun message => pure (result message)) payload).isSome := by
  have address : 32 ≤ addressEnd limited payload := Nat.le_add_right _ _
  have subaddress : addressEnd limited payload + 12 ≤ subaddressEnd limited payload :=
    Nat.le_add_right _ _
  have bearer : subaddressEnd limited payload + 4 ≤ cdmaSmsBytes limited payload :=
    Nat.le_add_right _ _
  rw [isSome_bind_pure]
  change (cdmaSmsMessage limited (payload.drop 0)).isSome
  unfold cdmaSmsMessage
  refine complete_int32 (by omega) <| complete_byte (by omega) <| complete_int32 (by omega) <|
    complete_int32 (by omega) <| complete_int32 (by omega) <| complete_int32 (by omega) <|
    complete_int32 (by omega) <| complete_byte (by omega) ?_
  have toAddress : addressEnd limited payload ≤ payload.length := by omega
  refine complete_bytes toAddress fun digits => ?_
  change ((int32 >>= _) (payload.drop (addressEnd limited payload))).isSome
  refine complete_int32 (by omega) <| complete_byte (by omega) <| complete_byte (by omega) ?_
  have toSubaddress : subaddressEnd limited payload ≤ payload.length := by omega
  refine complete_bytes toSubaddress fun digits => ?_
  change ((int32 >>= _) (payload.drop (subaddressEnd limited payload))).isSome
  exact complete_int32 (by omega) <| complete_bytes whole fun aBearerData => isSome_pure

end Offset

end Complete

/-! ### What the dispatch functions miss -/

/-- What a dispatch function does not check: that the strings are complete behind which
all integers can still be read, that a count is not negative, and that an array is there. -/
def DispatchFunction.Intact (version : Nat) (payload : List UInt8) : DispatchFunction → Prop
  | dispatchVoid | dispatchCdmaSms | dispatchCdmaSmsAck | dispatchRilCdmaSmsWriteArgs => True
  | dispatchString => CompleteString payload
  | dispatchStrings =>
      4 ≤ payload.length → wordOfBytes payload = -1 ∨ 0 ≤ (wordOfBytes payload).toInt ∧
        CompleteStrings (wordOfBytes payload).toInt.toNat (payload.drop 4)
  | dispatchInts | dispatchGsmBrSmsCnf | dispatchCdmaBrSmsCnf =>
      4 ≤ payload.length → 0 ≤ (wordOfBytes payload).toInt
  | dispatchSmsWrite =>
      (Unread.readString16Inplace (payload.drop 4)).1.isSome →
        CompleteString (skipString (payload.drop 4))
  | dispatchDial =>
      let behind := skipString payload
      3 ≤ version → (Unread.readString16Inplace payload).1.isSome → 20 ≤ behind.length →
        wordOfBytes (behind.drop 4) = 0 ∨ wordOfBytes (behind.drop 16) = -1 ∨
          CompleteArray (wordOfBytes (behind.drop 16)) (behind.drop 20)
  | dispatchSimIo =>
      let behind := skipString (payload.drop 8)
      12 ≤ behind.length → CompleteString (payload.drop 8) ∧ CompleteString (behind.drop 12) ∧
        CompleteString (skipString (behind.drop 12))
  | dispatchCallForward =>
      4 ≤ (skipString (payload.drop 16)).length → CompleteString (payload.drop 16)
  | dispatchRaw => 4 ≤ payload.length → CompleteArray (wordOfBytes payload) (payload.drop 4)

section Main

variable (strndup16to8 : List Char16 → CString) (version : Nat) (payload : List UInt8)

variable {payload} in
theorem completeString_of_isSome (text : (Unread.readString16Inplace payload).1.isSome) :
    CompleteString payload := by
  refine ⟨?_, Or.inr text⟩
  by_contra short
  rw [readString16Inplace_starved (Nat.lt_of_not_le short)] at text
  cases text

/-- The UUS part is complete where it is absent or its array is there. -/
theorem isSome_uusInfo {unread : List UInt8} :
    (uusInfo unread).isSome ↔ 4 ≤ unread.length ∧ (wordOfBytes unread = 0 ∨ 16 ≤ unread.length ∧
      (wordOfBytes (unread.drop 12) = -1 ∨
        CompleteArray (wordOfBytes (unread.drop 12)) (unread.drop 16))) := by
  unfold uusInfo
  rw [isSome_int32]
  refine and_congr_right fun enough => ?_
  by_cases absent : wordOfBytes unread = 0
  · simp only [if_pos absent]
    exact iff_of_true isSome_pure (Or.inl absent)
  simp only [if_neg absent, or_iff_right absent, isSome_int32, List.drop_drop, List.length_drop,
    Nat.reduceAdd]
  by_cases null : wordOfBytes (unread.drop 12) = -1
  · simp only [if_pos null, isSome_pure]
    constructor
    · rintro ⟨-, -, long, -⟩
      exact ⟨by omega, Or.inl null⟩
    · rintro ⟨long, -⟩
      exact ⟨by omega, by omega, by omega, trivial⟩
  · simp only [if_neg null, or_iff_right null, isSome_array, isSome_pure, and_true]
    constructor
    · rintro ⟨-, -, long, there⟩
      exact ⟨by omega, there⟩
    · rintro ⟨long, there⟩
      exact ⟨by omega, by omega, by omega, there⟩

variable {payload} in
/-- A list of elements of one width is complete unless its count is negative. -/
theorem complete_list_iff {α β : Type} {width : Nat} {element : Grammar α} {result : List α → β}
    (fixed : Fixed width element) {accepts : Prop}
    (whole : accepts → 4 ≤ payload.length ∧
      4 + width * (wordOfBytes payload).toInt.toNat ≤ payload.length)
    (negative : 4 ≤ payload.length → (wordOfBytes payload).toInt < 0 → accepts) :
    (accepts → ((int32 >>= fun count => Grammar.list count element >>= fun values =>
      pure (result values)) payload).isSome) ↔
        (4 ≤ payload.length → 0 ≤ (wordOfBytes payload).toInt) := by
  rw [isSome_int32, isSome_list, (fixed.times _).isSome, List.length_drop]
  constructor
  · intro complete enough
    by_contra below
    exact below (complete (negative enough (Int.not_le.mp below))).2.1
  · intro intact holds
    obtain ⟨enough, long⟩ := whole holds
    exact ⟨enough, intact enough, by omega⟩

/-- A payload that is accepted is complete exactly where the dispatch function misses
nothing. -/
theorem complete_iff_intact {dispatch : DispatchFunction} (other : dispatch ≠ .dispatchRaw) :
    (dispatch.Accepts version payload →
      (dispatch.grammar strndup16to8 version payload).isSome) ↔
        dispatch.Intact version payload := by
  cases dispatch with
  | dispatchVoid => exact iff_of_true (fun _ => isSome_pure) trivial
  | dispatchString =>
      simp only [DispatchFunction.Accepts, DispatchFunction.grammar, DispatchFunction.Intact,
        isSome_string, isSome_pure, and_true, true_implies]
  | dispatchStrings =>
      simp only [DispatchFunction.Accepts, DispatchFunction.grammar, DispatchFunction.Intact,
        isSome_int32]
      refine forall_congr' fun enough => ?_
      by_cases null : wordOfBytes payload = -1
      · simp only [if_pos null]
        exact iff_of_true ⟨enough, isSome_pure⟩ (Or.inl null)
      · simp only [if_neg null, isSome_list, isSome_strings, enough, true_and]
        exact (or_iff_right null).symm
  | dispatchInts =>
      refine complete_list_iff fixed_int32 (fun holds => ⟨holds.1, holds.2.2⟩) ?_
      intro enough negative
      have none' : (wordOfBytes payload).toInt.toNat = 0 := by omega
      refine ⟨enough, fun zero => ?_, by omega⟩
      rw [zero] at negative
      exact absurd negative (by decide)
  | dispatchSmsWrite =>
      simp only [DispatchFunction.Accepts, DispatchFunction.grammar, DispatchFunction.Intact,
        isSome_int32, isSome_string, isSome_pure, and_true]
      constructor
      · intro complete text
        have enough := (completeString_of_isSome text).1
        rw [List.length_drop] at enough
        exact (complete ⟨by omega, text⟩).2.2
      · rintro intact ⟨enough, text⟩
        exact ⟨enough, completeString_of_isSome text, intact text⟩
  | dispatchDial =>
      simp only [DispatchFunction.Accepts, DispatchFunction.grammar, DispatchFunction.Intact,
        isSome_string, isSome_int32]
      generalize skipString payload = behind
      by_cases old : version < 3
      · simp only [if_pos old, isSome_pure, and_true]
        refine iff_of_true ?_ fun new => absurd old (Nat.not_lt.mpr new)
        rintro ⟨text, enough, -⟩
        exact ⟨completeString_of_isSome text, enough⟩
      simp only [if_neg old, or_iff_right old, isSome_bind_pure, isSome_uusInfo, List.drop_drop,
        List.length_drop, Nat.reduceAdd]
      constructor
      · intro complete new text long
        exact (complete ⟨text, by omega, by omega, Or.inr long⟩).2.2.2.imp_right And.right
      · rintro intact ⟨text, enough, present, uus⟩
        refine ⟨completeString_of_isSome text, enough, by omega, ?_⟩
        rcases uus with absent | long
        · exact Or.inl absent
        · exact (intact (Nat.not_lt.mp old) text long).imp_right (And.intro (by omega))
  | dispatchSimIo =>
      simp only [DispatchFunction.Accepts, DispatchFunction.grammar, DispatchFunction.Intact,
        isSome_string, isSome_int32, isSome_pure, and_true, List.drop_drop, List.length_drop,
        Nat.reduceAdd]
      have shorter := skipString_length_le (payload.drop 8)
      rw [List.length_drop] at shorter
      generalize skipString (payload.drop 8) = behind at *
      constructor
      · intro complete long
        obtain ⟨-, -, path, -, -, -, data, pin2⟩ := complete long
        exact ⟨path, data, pin2⟩
      · intro intact long
        obtain ⟨path, data, pin2⟩ := intact long
        exact ⟨by omega, by omega, path, by omega, by omega, by omega, data, pin2⟩
  | dispatchCallForward =>
      simp only [DispatchFunction.Accepts, DispatchFunction.grammar, DispatchFunction.Intact,
        isSome_string, isSome_int32, isSome_pure, and_true, List.drop_drop, List.length_drop,
        Nat.reduceAdd]
      have shorter := skipString_length_le (payload.drop 16)
      rw [List.length_drop] at shorter
      refine forall_congr' fun long => ⟨fun complete => complete.2.2.2.2.1, fun number => ?_⟩
      exact ⟨by omega, by omega, by omega, by omega, number, long⟩
  | dispatchRaw => exact absurd rfl other
  | dispatchCdmaSms =>
      exact iff_of_true (fun whole => complete_cdmaSmsMessage whole) trivial
  | dispatchCdmaSmsAck =>
      refine iff_of_true (fun whole => ?_) trivial
      have long : 8 ≤ payload.length := whole
      simp only [DispatchFunction.grammar, isSome_int32, isSome_pure, and_true, List.length_drop]
      omega
  | dispatchGsmBrSmsCnf =>
      apply complete_list_iff fixed_gsmBci (fun holds => holds)
      intro enough negative
      exact ⟨enough, by omega⟩
  | dispatchCdmaBrSmsCnf =>
      apply complete_list_iff fixed_cdmaBci (fun holds => holds)
      intro enough negative
      exact ⟨enough, by omega⟩
  | dispatchRilCdmaSmsWriteArgs =>
      refine iff_of_true (fun whole => ?_) trivial
      have long : 1360 ≤ payload.length := whole
      have fixed : cdmaSmsBytes false (payload.drop 4) = 1356 := rfl
      simp only [DispatchFunction.grammar, isSome_int32]
      refine ⟨by omega, complete_cdmaSmsMessage ?_⟩
      rw [fixed, List.length_drop]
      omega

end Main

section Records

variable (P : Type) [Platform P] (version pRI : Nat)

/-- The data handed over is the one the payload encodes. -/
def Encodes (dispatch : DispatchFunction) (payload : List UInt8) (data : RequestData) : Prop :=
  ∃ rest, dispatch.grammar (Platform.strndup16to8 P) version payload = some (data, rest)

/-- The call of `dispatchRaw`. -/
theorem dispatchRaw_calls (strndup16to8 : List Char16 → CString) (abi : Abi)
    (request : RilRequest) {payload : List UInt8} (enough : 4 ≤ payload.length) :
    ((dispatchRaw abi request pRI).runBytes strndup16to8 payload).2.2 =
      let len := if wordOfBytes payload = -1 then 0 else wordOfBytes payload
      [⟨request, (Unread.read (payload.drop 4) (abi.sizeT len)).1.elim .null .raw, abi.sizeT len,
        pRI⟩] := by
  simp only [dispatchRaw, Reads.runBytes_readInt32_bind, Unread.readInt32_enough enough,
    Option.isSome_some, Option.getD_some, Bool.not_true, Bool.false_eq_true, if_false,
    Reads.runBytes_readInplace_bind, Reads.runBytes_call]

theorem int32_bind {β : Type} {following : Word → Grammar β} {unread : List UInt8}
    (enough : 4 ≤ unread.length) :
    (int32 >>= following) unread = following (wordOfBytes unread) (unread.drop 4) := by
  change ((int32 unread).bind fun read => following read.1 read.2) = _
  unfold int32
  rw [if_pos enough, Option.bind_some]

/-- `dispatchRaw` hands over what is encoded where the array is there. Where it is not the
length stays, and a null array becomes an empty one. -/
theorem dispatchRaw_encodes_iff (request : RilRequest) (payload : List UInt8) :
    (∀ argument ∈ ((dispatchRaw (Platform.abi P) request pRI).runBytes (Platform.strndup16to8 P)
        payload).2.2, Encodes P version .dispatchRaw payload argument.data) ↔
      DispatchFunction.dispatchRaw.Intact version payload := by
  by_cases enough : 4 ≤ payload.length
  case neg =>
    have silent : ((dispatchRaw (Platform.abi P) request pRI).runBytes
        (Platform.strndup16to8 P) payload).2.2 = [] :=
      (dispatchRaw_decides (Platform.abi P) request pRI version _ payload).silent enough
    refine iff_of_true (fun argument member => ?_) fun long => absurd long enough
    rw [silent] at member
    cases member
  rw [dispatchRaw_calls pRI _ _ request enough, List.forall_mem_singleton]
  simp only [Encodes, DispatchFunction.grammar, DispatchFunction.Intact, int32_bind enough, enough,
    true_implies]
  by_cases null : wordOfBytes payload = -1
  · have empty : Unread.read (payload.drop 4) ((Platform.abi P).sizeT 0) =
        (some [], payload.drop 4) := by
      rw [show (Platform.abi P).sizeT 0 = 0 from (Platform.abi P).sizeT_of_nonneg (by decide)]
      exact if_pos (Nat.zero_le _)
    rw [if_pos null, if_pos null, empty, null]
    refine iff_of_false ?_ (fun complete => absurd complete.1 (by decide))
    rintro ⟨rest, read⟩
    cases read
  rw [if_neg null, if_neg null]
  by_cases complete : CompleteArray (wordOfBytes payload) (payload.drop 4)
  · refine iff_of_true ⟨(payload.drop 4).drop (padSize (wordOfBytes payload).toNat), ?_⟩ complete
    have taken : Unread.read (payload.drop 4) (wordOfBytes payload).toNat = _ := if_pos complete.2
    have read : array (wordOfBytes payload) (payload.drop 4) = _ := if_pos complete
    change ((array _ _).bind fun read => some (RequestData.raw read.1, read.2)) = _
    rw [read, (Platform.abi P).sizeT_of_nonneg complete.1, taken]
    rfl
  · refine iff_of_false ?_ complete
    rintro ⟨rest, read⟩
    have there := Option.isSome_of_mem read
    rw [isSome_array] at there
    exact complete there.1

theorem dispatchCalls_encodes_iff (pCI : CommandInfo) (payload : List UInt8) :
    (∀ argument ∈ dispatchCalls P version pRI pCI payload,
      Encodes P version pCI.dispatchFunction payload argument.data) ↔
        pCI.dispatchFunction.Intact version payload := by
  by_cases raw : pCI.dispatchFunction = .dispatchRaw
  · unfold dispatchCalls
    rw [raw]
    exact dispatchRaw_encodes_iff P version pRI pCI.requestNumber payload
  obtain ⟨calls, silent⟩ := dispatchCalls_decides P version pRI pCI payload
  rw [← complete_iff_intact (Platform.strndup16to8 P) version payload raw]
  constructor
  · intro encodes accepts
    obtain ⟨argument, -, called⟩ := calls accepts
    obtain ⟨rest, read⟩ := encodes argument (by simp [called])
    simp [read]
  · intro complete argument member
    have accepts : pCI.dispatchFunction.Accepts version payload := by
      by_contra rejects
      rw [silent rejects] at member
      cases member
    obtain ⟨⟨data, rest⟩, read⟩ := Option.isSome_iff_exists.mp (complete accepts)
    have same := DispatchFunction.follows (Platform.abi P) pCI.requestNumber pRI version raw
      payload data rest read argument member
    exact ⟨rest, same ▸ read⟩

variable [LawfulPlatform P] (s : State) (buffer : List UInt8)

/-- From `s` to `s'` the vendor RIL was called only for the request of the record, with
the data that the payload of the record encodes. -/
def Grammatical (s s' : State) (buffer : List UInt8) : Prop :=
  ∃ calls, s'.onRequests = s.onRequests ++ calls ∧ ∀ argument ∈ calls, ∃ pCI token,
    requestOf buffer = some (pCI, token) ∧ argument.request = pCI.requestNumber ∧
      Encodes P version pCI.dispatchFunction (buffer.drop 8) argument.data

/-- The payload of the record is free of what its dispatch function misses. -/
def PayloadIntact (buffer : List UInt8) : Prop :=
  ∀ pCI token, requestOf buffer = some (pCI, token) →
    pCI.dispatchFunction.Intact version (buffer.drop 8)

/-- **The grammar of requests.** A record is handed over only where its payload encodes
what is handed over, exactly if the payload has nothing that its dispatch function misses. -/
theorem grammatical_iff :
    Grammatical P version s (s.processCommandBuffer P version buffer pRI) buffer ↔
      PayloadIntact version buffer := by
  cases found : requestOf buffer with
  | none =>
      rw [processCommandBuffer_rejected version pRI found]
      refine iff_of_true ⟨[], (List.append_nil _).symm, by simp⟩ fun pCI token same => ?_
      rw [found] at same
      cases same
  | some accepted =>
      obtain ⟨pCI, token⟩ := accepted
      rw [processCommandBuffer_accepted version pRI found]
      have intact : PayloadIntact version buffer ↔
          pCI.dispatchFunction.Intact version (buffer.drop 8) := by
        constructor
        · intro all
          exact all pCI token found
        · intro holds pCI' token' same
          obtain ⟨rfl, rfl⟩ := by simpa [found] using same
          exact holds
      rw [intact, ← dispatchCalls_encodes_iff P version pRI pCI (buffer.drop 8)]
      constructor
      · rintro ⟨calls, more, all⟩ argument member
        rw [← List.append_cancel_left more] at all
        obtain ⟨pCI', token', same, -, encodes⟩ := all argument member
        obtain ⟨rfl, rfl⟩ := by simpa [found] using same
        exact encodes
      · intro all
        refine ⟨_, rfl, fun argument member => ⟨pCI, token, found, ?_, all argument member⟩⟩
        obtain ⟨calls, silent⟩ := dispatchCalls_decides P version pRI pCI (buffer.drop 8)
        by_cases accepts : pCI.dispatchFunction.Accepts version (buffer.drop 8)
        · obtain ⟨called, handed, only⟩ := calls accepts
          rw [only] at member
          obtain rfl := List.mem_singleton.mp member
          exact handed.1
        · rw [silent accepts] at member
          cases member

/-- A `DTMF` whose string is whole is handed over as it is encoded. -/
theorem wholeString_handedOver :
    PayloadIntact 3 (wordBytes 24 ++ wordBytes 7 ++ (wordBytes 1 ++ [0x31, 0, 0, 0])) ∧
      Grammatical ByteParcel 3 connectedState (connectedState.processCommandBuffer ByteParcel 3
        (wordBytes 24 ++ wordBytes 7 ++ (wordBytes 1 ++ [0x31, 0, 0, 0])) 16)
        (wordBytes 24 ++ wordBytes 7 ++ (wordBytes 1 ++ [0x31, 0, 0, 0])) := by
  have found : requestOf (wordBytes 24 ++ wordBytes 7 ++ (wordBytes 1 ++ [0x31, 0, 0, 0])) =
      some (⟨.dtmf, .dispatchString, .responseVoid⟩, 7) := by decide
  have intact :
      PayloadIntact 3 (wordBytes 24 ++ wordBytes 7 ++ (wordBytes 1 ++ [0x31, 0, 0, 0])) := by
    intro pCI token same
    obtain ⟨rfl, rfl⟩ := Prod.mk.inj (Option.some.inj (found.symm.trans same))
    have whole : CompleteString (wordBytes 1 ++ [0x31, 0, 0, 0]) := by decide
    exact whole
  exact ⟨intact, (grammatical_iff ByteParcel 3 16 connectedState _).mpr intact⟩

/-- **A string that is not there.** `DTMF` with a length word of 5 and nothing behind it is
handed over with a NULL string. -/
theorem missingString_handedOver :
    ¬ Grammatical ByteParcel 3 connectedState (connectedState.processCommandBuffer ByteParcel 3
      (wordBytes 24 ++ wordBytes 7 ++ wordBytes 5) 16)
      (wordBytes 24 ++ wordBytes 7 ++ wordBytes 5) := by
  rintro ⟨calls, more, all⟩
  obtain rfl : [⟨.dtmf, .null, 8, 16⟩] = calls := more
  obtain ⟨pCI, token, found, -, rest, read⟩ := all _ List.mem_cons_self
  have expected : requestOf (wordBytes 24 ++ wordBytes 7 ++ wordBytes 5) =
      some (⟨.dtmf, .dispatchString, .responseVoid⟩, 7) := by decide
  obtain ⟨rfl, rfl⟩ := Prod.mk.inj (Option.some.inj (expected.symm.trans found))
  cases read

end Records

end RildHisi.Libril
