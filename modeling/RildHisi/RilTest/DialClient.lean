import RildHisi.Libril.ResponseFrames
import RildHisi.Libril.Strings
import RildHisi.Libril.WakeTimeouts
import RildHisi.ReferenceRil.Handlers

/-!
Owns the rest of rldial.cpp: the requests that it sends, and what its reader does with a
frame, the strings it reads and frees and the file it leaves the address in.

`sscanf` and `sprintf` are the C library's. The conditions that the two threads wait on are
only recorded; a wait that times out goes on with the next request all the same.
-/

namespace RildHisi.RilTest

open RildHisi.Libril RildHisi.ReferenceRil

/-! ### Requests -/

/-- A call of `ps_bind`, `apn_connect`, `get_pdp_addr` or `get_dhcp_info`. -/
inductive DialCall
  | psBind
  | apnConnect (pdpid connect : Int) (apnname : CString)
  | getPdpAddr
  | getDhcpInfo
  deriving DecidableEq, Repr

/-- What a call writes into its parcel. -/
structure DialRecord where
  request : RilRequest
  token : Word
  strings : List CString
  deriving DecidableEq, Repr

/-- `char args[100]`. -/
def argsSize : Nat := 100

/-- What `apn_connect` prints into `args`, nothing for a `connect` other than 0 and 1. Whether
it stays inside is `ArgsFit`. -/
def apnArgs (pdpid connect : Int) (apnname : CString) : Option CString :=
  if connect = 0 then some (ascii "=" ++ decimal pdpid ++ ascii "," ++ decimal connect)
  else if connect = 1 then
    some (ascii "=" ++ decimal pdpid ++ ascii "," ++ decimal connect ++ ascii ",\"" ++ apnname ++
      ascii "\"")
  else none

/-- The record that a call sends, if it sends one. -/
def DialCall.record : DialCall → Option DialRecord
  | psBind => some ⟨.pscsBindState, 0, [ascii "?"]⟩
  | apnConnect pdpid connect apnname =>
      (apnArgs pdpid connect apnname).map fun args => ⟨.ndisDial, 2, [args]⟩
  | getPdpAddr => some ⟨.pdpAddr, 3, []⟩
  | getDhcpInfo => some ⟨.dhcpInfo, 4, [ascii "?"]⟩

/-- `sprintf` stays inside `args`, with its NUL. -/
def DialCall.ArgsFit : DialCall → Prop
  | apnConnect pdpid connect apnname =>
      ∀ args ∈ apnArgs pdpid connect apnname, args.length < argsSize
  | _ => True

/-- The calls of `dial_up`. -/
def dialUp : List DialCall :=
  [.psBind, .apnConnect 1 0 (ascii "CMNET"), .apnConnect 1 1 (ascii "CMNET"), .getPdpAddr,
    .getDhcpInfo]

/-- The number has 96 characters of `args`, or shares 93 with the name of the access point. -/
theorem DialCall.argsFit_apnConnect (pdpid connect : Int) (apnname : CString) :
    (apnConnect pdpid connect apnname).ArgsFit ↔
      (connect = 0 → (decimal pdpid).length + 3 < argsSize) ∧
        (connect = 1 → (decimal pdpid).length + apnname.length + 6 < argsSize) := by
  have digits : (decimal 0).length = 1 ∧ (decimal 1).length = 1 := ⟨rfl, rfl⟩
  have signs : (ascii "=").length = 1 ∧ (ascii ",").length = 1 ∧ (ascii ",\"").length = 2 ∧
      (ascii "\"").length = 1 := ⟨rfl, rfl, rfl, rfl⟩
  show (∀ args ∈ apnArgs pdpid connect apnname, args.length < argsSize) ↔ _
  unfold apnArgs
  by_cases disconnects : connect = 0
  · subst disconnects
    simp only [if_true, Option.mem_def, Option.some.injEq, forall_eq', List.length_append, digits,
      signs]
    refine ⟨fun fits => ⟨fun _ => by omega, fun one => absurd one (by decide)⟩, fun fits => ?_⟩
    have short := fits.1 trivial
    omega
  rw [if_neg disconnects]
  by_cases connects : connect = 1
  · subst connects
    simp only [if_true, Option.mem_def, Option.some.injEq, forall_eq', List.length_append, digits,
      signs]
    refine ⟨fun fits => ⟨fun zero => absurd zero disconnects, fun _ => by omega⟩, fun fits => ?_⟩
    have short := fits.2 trivial
    omega
  · simp [disconnects, connects]

theorem DialCall.argsFit_dialUp : ∀ call ∈ dialUp, call.ArgsFit := by
  simp only [dialUp, List.forall_mem_cons]
  refine ⟨trivial, ?_, ?_, trivial, trivial, fun _ member => absurd member List.not_mem_nil⟩
  · exact (argsFit_apnConnect 1 0 _).mpr ⟨fun _ => by decide, fun one => absurd one (by decide)⟩
  · exact (argsFit_apnConnect 1 1 _).mpr ⟨fun zero => absurd zero (by decide), fun _ => by decide⟩

namespace DialRecord

variable (record : DialRecord)

def writes : List ParcelWrite :=
  [.int32 (BitVec.ofNat 32 record.request.number), .int32 record.token,
    .int32 (BitVec.ofNat 32 record.strings.length)] ++
      record.strings.map fun s => .string (some s)

/-- The parcel of the call. -/
def data (P : Type) [Platform P] : List UInt8 :=
  Platform.data (record.writes.foldl ParcelWrite.apply (Platform.new : P))

/-- The strings are ASCII. -/
def Plain : Prop := ∀ s ∈ record.strings, WireText (some s)

section Data

variable {record} {P : Type} [Platform P] [TextPlatform P]

theorem plain_wireTexts (plain : record.Plain) :
    ∀ s ∈ record.strings.map some, WireText s := by
  intro s member
  obtain ⟨text, inside, rfl⟩ := List.mem_map.mp member
  exact plain text inside

/-- A record is the request, the token and the strings. -/
theorem data_eq (plain : record.Plain) :
    record.data P = wordBytes (BitVec.ofNat 32 record.request.number) ++ wordBytes record.token ++
      stringsPayload (wideTexts P (record.strings.map some)) := by
  have fits : ∀ write ∈ record.writes, write.Fits P := by
    intro write member
    rcases List.mem_append.mp member with header | behind
    · simp only [List.mem_cons, List.not_mem_nil, or_false] at header
      rcases header with rfl | rfl | rfl <;> trivial
    · obtain ⟨s, inside, rfl⟩ := List.mem_map.mp behind
      exact (plain s inside).short
  unfold data
  rw [data_foldl_new P fits]
  unfold writes stringsPayload wideTexts
  simp only [List.flatMap_append, List.flatMap_cons, List.flatMap_nil, ParcelWrite.encoded,
    List.flatMap_map, List.length_map, List.append_nil, List.append_assoc]

end Data

end DialRecord

/-- `sendDataToRild`: the two buffers that it sends. The two high bytes of the length are
always 0. -/
def sendDataToRild (data : List UInt8) : List (List UInt8) :=
  let sendDataLen := data.length % 2 ^ 32
  [[0, 0, UInt8.ofNat (sendDataLen / 2 ^ 8), UInt8.ofNat sendDataLen], data]

/-- What is sent is a record, up to the length whose high bytes are 0. -/
theorem sendDataToRild_framed {data : List UInt8} (few : data.length < 2 ^ 16) :
    (sendDataToRild data).flatten = htonl data.length ++ data := by
  have small : data.length % 2 ^ 32 = data.length := Nat.mod_eq_of_lt (by omega)
  have high : data.length / 2 ^ 16 = 0 ∧ data.length / 2 ^ 24 = 0 := by omega
  unfold sendDataToRild htonl wordBytes
  simp only [small, BitVec.toNat_ofNat, high.1, high.2, List.map_cons, List.map_nil,
    List.reverse_cons, List.reverse_nil, List.nil_append, List.cons_append, List.flatten_cons,
    List.flatten_nil, List.append_nil]
  rfl

/-- The strings of a call that stays inside `args` are shorter than it. -/
theorem DialCall.ArgsFit.length_lt {call : DialCall} (fits : call.ArgsFit) {record : DialRecord}
    (recorded : call.record = some record) :
    record.strings.length ≤ 1 ∧ ∀ s ∈ record.strings, s.length < argsSize := by
  cases call with
  | apnConnect pdpid connect apnname =>
      obtain ⟨args, printed, rfl⟩ := Option.map_eq_some_iff.mp recorded
      exact ⟨le_rfl, List.forall_mem_singleton.mpr (fits args printed)⟩
  | psBind | getPdpAddr | getDhcpInfo =>
      obtain rfl := Option.some.inj recorded
      decide

/-- **A call reaches libril as one record**: the length that is sent in front is that of the
parcel, and libril takes records of this size. -/
theorem DialCall.sendDataToRild_record {P : Type} [Platform P] [TextPlatform P] {call : DialCall}
    (fits : call.ArgsFit) {record : DialRecord} (recorded : call.record = some record)
    (plain : record.Plain) :
    (sendDataToRild (record.data P)).flatten =
        htonl (record.data P).length ++ record.data P ∧
      (record.data P).length ≤ maxCommandBytes := by
  obtain ⟨one, short⟩ := fits.length_lt recorded
  have texts : ∀ text ∈ wideTexts P (record.strings.map some), ∀ chars ∈ text,
      chars.length ≤ argsSize := by
    intro text member chars given
    obtain ⟨s, inside, rfl⟩ := List.mem_map.mp member
    obtain ⟨printed, among, rfl⟩ := List.mem_map.mp inside
    obtain rfl := Option.some.inj given
    rw [TextPlatform.length_strdup8to16 printed (plain printed among printed rfl).1]
    exact (short printed among).le
  have payload := stringsPayload_length_le texts
  have count : (wideTexts P (record.strings.map some)).length ≤ 1 := by
    simpa [wideTexts] using one
  have small : (record.data P).length ≤ 221 := by
    rw [record.data_eq plain]
    simp only [List.length_append, wordBytes_length]
    simp only [argsSize] at payload
    omega
  exact ⟨sendDataToRild_framed (by omega), small.trans (by decide)⟩

/-! ### The strings of a frame -/

/-- What an entry of `pStrings` points to. -/
inductive StringPointer
  | null
  | live (s : CString)
  | dangling
  deriving DecidableEq, Repr

/-- What `strdupReadString` returns. -/
def StringPointer.ofString : Option CString → StringPointer
  | none => .null
  | some s => .live s

/-- The loop that reads so many strings. -/
def readPointers (strndup16to8 : List Char16 → CString) :
    Nat → List UInt8 → List StringPointer
  | 0, _ => []
  | count + 1, unread =>
      let (s16, unread) := Unread.readString16Inplace unread
      .ofString (s16.map strndup16to8) :: readPointers strndup16to8 count unread

/-- The loop that frees so many strings. None: it frees one that is freed, or reads behind
the array. -/
def freePointers : Nat → List StringPointer → Option (List StringPointer)
  | 0, pStrings => some pStrings
  | _ + 1, [] => none
  | count + 1, .null :: pStrings => (freePointers count pStrings).map (.null :: ·)
  | count + 1, .live _ :: pStrings => (freePointers count pStrings).map (.dangling :: ·)
  | _ + 1, .dangling :: _ => none

/-! ### The reader -/

/-- The conditions that the reader signals. -/
inductive DialCond
  | psbind | apn | pdp | dhcp
  deriving DecidableEq, Repr

/-- The variables of `readerLoop` that outlive a turn, and what it leaves for others.
`pStrings` is none for NULL; the array itself is `alloca`'s, so it stays. -/
structure Dialer where
  responseType : Word
  request : Word
  token : Word
  rErr : Word
  countStrings : Word
  pStrings : Option (List StringPointer)
  gDialSuccess : Bool
  dialResult : Option CString
  signalled : List DialCond
  deriving DecidableEq, Repr

/-- `recvP.readInt32(&value)`, which leaves `value` as it is where it fails. -/
def readInt32Into (value : Word) (unread : List UInt8) : Word × List UInt8 :=
  let (read, unread) := Unread.readInt32 unread
  (read.getD value, unread)

/-- `BYTE0`, `BYTE1`, `BYTE2` and `BYTE3` with dots between them. -/
def dotted (d : Word) : CString :=
  [46].intercalate ([0, 1, 2, 3].map fun i => decimal ((d.toNat / 2 ^ (8 * i)) % 2 ^ 8 : Nat))

/-- A line of `DIAL_RESULT_FILE`. -/
def resultLine (name : CString) (d : Word) : CString := name ++ [9] ++ dotted d ++ [10]

/-- What `IpRawStrdupToHex` reads; `hex` is what stands in its variable before. -/
def ipRawStrdupToHex (hex : Word) (data : CString) : Word :=
  if (numeral 16 data).isNone then hex else BitVec.ofNat 32 (strtoul .lp64 16 data)

/-- The lines of `DIAL_RESULT_FILE`, in order. -/
def resultNames : List CString :=
  [ascii "address", ascii "netmask", ascii "gateway", ascii "dhcpsvr", ascii "pdns",
    ascii "sdns"]

namespace Dialer

variable (d : Dialer)

def signal (cond : DialCond) : Dialer := { d with signalled := d.signalled ++ [cond] }

/-- `pStrings[i]` for `printf`: none where there is no such entry or it is freed. -/
def printable (i : Nat) : Option (Option CString) :=
  match d.pStrings.bind (·[i]?) with
  | none | some .dangling => none
  | some .null => some none
  | some (.live s) => some (some s)

/-- `pStrings[i]` for `sscanf`, which reads it. -/
def scannable (i : Nat) : Option CString := (d.printable i).join

/-- The number of the strings and the strings. -/
def readStrings (strndup16to8 : List Char16 → CString) (unread : List UInt8) : Dialer :=
  let (countStrings, unread) := readInt32Into d.countStrings unread
  if 0 < countStrings.toInt then
    { d with
      countStrings
      pStrings := some (readPointers strndup16to8 countStrings.toInt.toNat unread) }
  else { d with countStrings }

/-- The loop at the end of a turn. -/
def freeStrings : Option Dialer :=
  match d.pStrings with
  | none => some d
  | some pStrings =>
      (freePointers d.countStrings.toInt.toNat pStrings).map fun pStrings =>
        { d with pStrings := some pStrings }

/-- The request of the frame. -/
def Asks (request : RilRequest) : Prop := d.request = BitVec.ofNat 32 request.number

instance (request : RilRequest) : Decidable (d.Asks request) := by
  unfold Asks
  infer_instance

/-- The switch for a response with an error. -/
def responseFailed : Dialer :=
  if d.Asks .pscsBindState then d.signal .psbind
  else if d.Asks .ndisDial then d.signal .apn
  else if d.Asks .pdpAddr then d.signal .pdp
  else if d.Asks .dhcpInfo then { d.signal .dhcp with gDialSuccess := false }
  else d

/-- `RIL_REQUEST_DHCP_INFO`: the six addresses go to the file. -/
def writeDialResult (hex : Nat → Word) : Option Dialer := do
  let fields ← (List.range resultNames.length).mapM d.scannable
  let lines := List.zipWith resultLine resultNames
    (fields.mapIdx fun i field => ipRawStrdupToHex (hex i) field)
  pure ({ d with dialResult := some lines.flatten, gDialSuccess := true }.signal .dhcp)

/-- The switch for a response without one. -/
def responseSucceeded (hex : Nat → Word) : Option Dialer :=
  if d.Asks .pscsBindState then do
    let _ ← d.printable 0
    if d.token = 1 then pure (d.signal .psbind)
    else
      let _ ← d.printable 1
      pure (d.signal .psbind)
  else if d.Asks .pdpAddr then do
    let _ ← d.printable 0
    let _ ← d.printable 1
    pure (d.signal .pdp)
  else if d.Asks .dhcpInfo then d.writeDialResult hex
  else some d

/-- A turn of the loop, from `recvP.setData` on. None: it reads or frees a string that it
may not. -/
def processFrame (strndup16to8 : List Char16 → CString) (hex : Nat → Word)
    (data : List UInt8) : Option Dialer :=
  let (responseType, unread) := readInt32Into d.responseType data
  let (request, unread) := readInt32Into d.request unread
  let d := { d with responseType, request }
  if responseType = responseUnsolicited then
    if request = BitVec.ofInt 32 rilUnsolNdisDial then do
      let d := d.readStrings strndup16to8 unread
      let _ ← d.printable 0
      (d.signal .apn).freeStrings
    else d.freeStrings
  else if responseType = responseSolicited then
    let (token, unread) := readInt32Into d.token unread
    let (rErr, unread) := readInt32Into d.rErr unread
    let d := { d with token, rErr }
    if rErr ≠ 0 then some d.responseFailed
    else do
      let d ← (d.readStrings strndup16to8 unread).responseSucceeded hex
      d.freeStrings
  else d.freeStrings

end Dialer

/-! ### A frame of strings -/

theorem readInt32Into_word (value word : Word) (rest : List UInt8) :
    readInt32Into value (wordBytes word ++ rest) = (word, rest) := by
  unfold readInt32Into
  rw [Unread.readInt32_enough (by simp), wordOfBytes_wordBytes, drop_wordBytes]
  rfl

section Strings

variable (strndup16to8 : List Char16 → CString) {texts : List (Option (List Char16))}

/-- The strings are read as they stand in the frame. -/
theorem readPointers_texts (short : ∀ text ∈ texts, ShortText text) (rest : List UInt8) :
    readPointers strndup16to8 texts.length (texts.flatMap string16Bytes ++ rest) =
      (readTexts strndup16to8 texts).map StringPointer.ofString := by
  induction texts with
  | nil => rfl
  | cons text texts inductionHypothesis =>
      have behind := inductionHypothesis fun later member =>
        short later (List.mem_cons_of_mem _ member)
      rw [List.flatMap_cons, List.append_assoc, List.length_cons, readPointers,
        readString16Inplace_string16Bytes (short text List.mem_cons_self)]
      dsimp only
      rw [behind]
      rfl

/-- What freeing leaves of a pointer. -/
def StringPointer.freed : StringPointer → StringPointer
  | null => null
  | live _ | dangling => dangling

theorem freePointers_fresh {pStrings : List StringPointer} (fresh : .dangling ∉ pStrings) :
    freePointers pStrings.length pStrings = some (pStrings.map StringPointer.freed) := by
  induction pStrings with
  | nil => rfl
  | cons pointer pStrings inductionHypothesis =>
      rw [List.mem_cons, not_or] at fresh
      have behind := inductionHypothesis fresh.2
      cases pointer with
      | null => simp [freePointers, behind, StringPointer.freed]
      | live s => simp [freePointers, behind, StringPointer.freed]
      | dangling => exact absurd rfl fresh.1

theorem dangling_notMem_ofString (strings : List (Option CString)) :
    StringPointer.dangling ∉ strings.map StringPointer.ofString := by
  intro member
  obtain ⟨s, -, same⟩ := List.mem_map.mp member
  cases s <;> cases same

end Strings

/-- What the reader leaves in `DIAL_RESULT_FILE`. -/
def addressFile (addresses : List Word) : CString :=
  (List.zipWith resultLine resultNames addresses).flatten

section Response

variable {P : Type} [Platform P] [TextPlatform P]

/-- The strings of a frame, once they are read. -/
theorem Dialer.readStrings_payload (d : Dialer) {strings : List (Option CString)}
    (wire : ∀ s ∈ strings, WireText s) (some_ : strings ≠ []) (few : strings.length < 2 ^ 31) :
    d.readStrings (Platform.strndup16to8 P) (stringsPayload (wideTexts P strings)) =
      { d with
        countStrings := BitVec.ofNat 32 strings.length
        pStrings := some (strings.map StringPointer.ofString) } := by
  have length : (wideTexts P strings).length = strings.length := List.length_map ..
  have size : (BitVec.ofNat 32 strings.length : Word).toInt = strings.length := by
    rw [BitVec.toInt_eq_toNat_of_lt] <;> rw [BitVec.toNat_ofNat] <;> omega
  have positive := List.length_pos_iff.mpr some_
  have pointers := readPointers_texts (Platform.strndup16to8 P) (short_wideTexts (P := P) wire) []
  rw [List.append_nil, length, readTexts_wideTexts wire] at pointers
  unfold readStrings stringsPayload
  rw [length, readInt32Into_word]
  dsimp only
  rw [size, if_pos (by omega), Int.toNat_natCast, pointers]

theorem Dialer.scannable_some {d : Dialer} {strings : List CString}
    (holds : d.pStrings = some ((strings.map some).map StringPointer.ofString)) (i : Nat) :
    d.scannable i = strings[i]? := by
  unfold scannable printable
  rw [holds, Option.bind_some, List.getElem?_map, List.getElem?_map]
  cases strings[i]? <;> rfl

omit [TextPlatform P] in
/-- A response without an error, behind its header. -/
theorem Dialer.processFrame_response (d : Dialer) (strndup16to8 : List Char16 → CString)
    (hex : Nat → Word) (request : RilRequest) (token : Word) (payload : List UInt8) :
    d.processFrame strndup16to8 hex (frameHeader request token 0 ++ payload) =
      ((({ d with
        responseType := responseSolicited
        request := BitVec.ofNat 32 request.number
        token
        rErr := 0 } : Dialer).readStrings strndup16to8 payload).responseSucceeded hex).bind
          Dialer.freeStrings := by
  have solicited : ¬ responseSolicited = responseUnsolicited := by decide
  unfold processFrame frameHeader responseHeader
  simp only [List.append_assoc, readInt32Into_word, solicited, if_false, if_true, ne_eq,
    not_true_eq_false]
  rfl

theorem mapM_getElem? {α : Type} {entries : List α} {count : Nat} (enough : count ≤ entries.length) :
    (List.range count).mapM (entries[·]?) = some (entries.take count) := by
  induction entries generalizing count with
  | nil =>
      obtain rfl : count = 0 := Nat.le_zero.mp enough
      rfl
  | cons entry entries inductionHypothesis =>
      cases count with
      | zero => rfl
      | succ count =>
          have behind := inductionHypothesis (Nat.le_of_succ_le_succ enough)
          have shifted : ((fun i => (entry :: entries)[i]?) ∘ Nat.succ) = (entries[·]?) := rfl
          rw [List.range_succ_eq_map, List.mapM_cons, List.mapM_map, shifted, behind]
          rfl

/-- Fresh strings are freed. -/
theorem Dialer.freeStrings_fresh {d : Dialer} {strings : List (Option CString)}
    (few : strings.length < 2 ^ 31) (count : d.countStrings = BitVec.ofNat 32 strings.length)
    (holds : d.pStrings = some (strings.map StringPointer.ofString)) :
    d.freeStrings = some { d with
      pStrings := some ((strings.map StringPointer.ofString).map StringPointer.freed) } := by
  have freed := freePointers_fresh (dangling_notMem_ofString strings)
  rw [List.length_map] at freed
  unfold freeStrings
  rw [holds, count]
  dsimp only
  rw [toNat_count few, freed]
  rfl

/-- **The frame of an address.** The reader writes the first six fields to the file, whatever
it has read before, and frees what it has read. -/
theorem Dialer.processFrame_dhcpInfo (d : Dialer) (hex : Nat → Word) (token : Word)
    {strings : List CString} (wire : ∀ s ∈ strings, WireText (some s)) (six : 6 ≤ strings.length)
    (few : strings.length < 2 ^ 31) :
    ∃ d', d.processFrame (Platform.strndup16to8 P) hex
        (frameHeader .dhcpInfo token 0 ++ stringsPayload (wideTexts P (strings.map some))) =
          some d' ∧
      d'.dialResult = some (addressFile
        ((strings.take 6).mapIdx fun i field => ipRawStrdupToHex (hex i) field)) ∧
      d'.gDialSuccess = true := by
  have wireList : ∀ s ∈ strings.map some, WireText s := by
    intro s member
    obtain ⟨text, inside, rfl⟩ := List.mem_map.mp member
    exact wire text inside
  have nonempty : strings.map some ≠ [] := by
    intro empty
    rw [List.map_eq_nil_iff.mp empty] at six
    exact absurd six (by decide)
  have fewList : (strings.map some).length < 2 ^ 31 := by rwa [List.length_map]
  rw [processFrame_response, readStrings_payload _ wireList nonempty fewList]
  generalize read : ({ d with
    responseType := _, request := _, token := _, rErr := _, countStrings := _,
    pStrings := some _ } : Dialer) = r
  have asks : r.Asks .dhcpInfo := by subst read; rfl
  have others : ¬ r.Asks .pscsBindState ∧ ¬ r.Asks .pdpAddr := by
    unfold Asks at asks ⊢
    rw [asks]
    decide
  have holds : r.pStrings = some ((strings.map some).map StringPointer.ofString) := by
    subst read; rfl
  have scanned : (List.range resultNames.length).mapM r.scannable = some (strings.take 6) := by
    rw [funext (Dialer.scannable_some holds)]
    exact mapM_getElem? six
  unfold responseSucceeded
  rw [if_neg others.1, if_neg others.2, if_pos asks]
  unfold writeDialResult
  rw [scanned]
  simp only [Option.bind_eq_bind, Option.bind_some, Option.pure_def]
  have count : r.countStrings = BitVec.ofNat 32 (strings.map some).length := by subst read; rfl
  exact ⟨_, freeStrings_fresh fewList count holds, rfl, rfl⟩

end Response

end RildHisi.RilTest
