import RildHisi.Daemon.DialSession
import RildHisi.Daemon.Payloads
import RildHisi.RilTest.ReaderLoop

/-!
Owns the way of an address from the modem to the file of rldial: the line that answers
`AT^DHCP?`, the fields that the handler makes of it, the frame that libril sends, and what
the reader leaves in `DIAL_RESULT_FILE`.
-/

namespace RildHisi.Daemon

open RildHisi.AtChannel RildHisi.Library RildHisi.Libril RildHisi.ReferenceRil RildHisi.RilTest
open RildHisi.ReferenceRil.Handler

/-! ### The handler -/

section Handling

variable {chan : Channel} {environment : Environment}

theorem completeWithFields_lineOf (abi : Abi) (t : Nat) {tag : CString} (colon : 58 ∉ tag)
    {fields : List Field} (nonempty : fields ≠ []) (plain : Plain tag fields)
    (ten : fields.length ≤ 10) :
    completeWithFields abi t (lineOf tag fields) =
      rilOnRequestComplete t rilESuccess (.strings (fields.map fun field => some field.text))
        (fields.length * abi.ptrSize) := by
  cases fields with
  | nil => exact absurd rfl nonempty
  | cons field fields =>
      have counted : commas (lineOf tag (field :: fields)) + 1 = (field :: fields).length :=
        congrArg (· + 1) ((commas_eq_iff tag field fields).mpr plain)
      have filled := fillStrings_pointer 10 none (field :: fields) [] (by simpa using ten)
      unfold completeWithFields lineFields
      rw [atTokStart_lineOf colon, counted]
      simp only [Int.lt_irrefl, if_false, filled, List.nil_append]

/-- A success with its line is what the handler goes on with. -/
theorem succeeded_reply {reply : Reply} {command responsePrefix line : CString}
    (success : isFinalResponseSuccess reply.final = true)
    (found : reply.lines.find? (isIntermediate .singleline (some responsePrefix)) = some line) :
    ∃ response, (reply.result (singleline command responsePrefix)).requireIntermediate.succeeded =
        some response ∧ response.pIntermediates = [line] := by
  have lines : (reply.response (singleline command responsePrefix)).pIntermediates = [line] := by
    show intermediates .singleline (some responsePrefix) (answerLines none reply.lines) = _
    unfold intermediates answerLines
    simp [found]
  have kept : AtChannel.requireIntermediate 0
      (some (reply.response (singleline command responsePrefix))) =
        (0, some (reply.response (singleline command responsePrefix))) := by
    unfold AtChannel.requireIntermediate
    simp [lines]
  have err : (reply.result (singleline command responsePrefix)).requireIntermediate.err = 0 :=
    congrArg Prod.fst kept
  have stored : (reply.result (singleline command responsePrefix)).requireIntermediate.pResponse =
      some (reply.response (singleline command responsePrefix)) := congrArg Prod.snd kept
  refine ⟨_, ?_, lines⟩
  unfold AtResult.succeeded AtResult.answer
  rw [err, stored]
  simp [Reply.response, success]

theorem requestFields_completes (live : Live chan) {before : List CString} {reply : Reply}
    (brings : Brings (environment.commands 0) before reply) (abi : Abi) (t : Nat)
    {command responsePrefix line : CString} (final : isFinalResponseSuccess reply.final = true)
    (found : reply.lines.find? (isIntermediate .singleline (some responsePrefix)) = some line)
    {e : Word} {fields : ResponseData} {responselen : Nat}
    (completes : completeWithFields abi t line = rilOnRequestComplete t e fields responselen) :
    let run := runOn (requestFields abi t command responsePrefix) chan environment
    run.completions = [⟨t, e, fields, responselen⟩] ∧ run.ended = .done () := by
  obtain ⟨response, succeeded, lines⟩ := succeeded_reply final found
  unfold requestFields
  obtain ⟨after, -, same⟩ := live.runOn_singleline brings command responsePrefix _
  rw [same, succeeded]
  simp only [lines, List.head?_cons, completes]
  exact ⟨rfl, rfl⟩

/-- **The fields of the address complete the request.** -/
theorem requestDhcpInfo_completes (live : Live chan) (on : environment.RadioOn)
    {before : List CString} {reply : Reply} (brings : Brings (environment.commands 0) before reply)
    (abi : Abi) (t : Nat) {fields : List Field} (nonempty : fields ≠ [])
    (plain : Plain (ascii "^DHCP") fields) (ten : fields.length ≤ 10)
    (final : isFinalResponseSuccess reply.final = true)
    (found : reply.lines.find? (isIntermediate .singleline (some (ascii "^DHCP:"))) =
      some (lineOf (ascii "^DHCP") fields)) :
    let run := runOn (onRequest abi ⟨.dhcpInfo, .strings [some (ascii "?")], 1 * abi.ptrSize, t⟩)
      chan environment
    run.completions = [fieldsCompletion abi t fields] ∧ run.ended = .done () := by
  have later : Brings (environment.looked.looked.commands 0) before reply := brings
  rw [runOn_onRequest on]
  show (runOn (requestDhcpInfo abi (.strings [some (ascii "?")]) (1 * abi.ptrSize) t) _ _).completions
    = _ ∧ (runOn (requestDhcpInfo abi (.strings [some (ascii "?")]) (1 * abi.ptrSize) t) _ _).ended
    = _
  rw [Nat.one_mul, requestDhcpInfo, stringCommand, if_pos rfl]
  exact requestFields_completes live later abi t final found
    (completeWithFields_lineOf abi t (by decide) nonempty plain ten)

end Handling

/-! ### The address -/

/-- The fields of an answer to `AT^DHCP?`: at most 16 characters of ASCII without commas, with
six numbers in front. -/
structure DhcpFields (fields : List Field) (addresses : List Word) : Prop where
  ten : fields.length ≤ 10
  texts : ∀ field ∈ fields, AsciiText field.text ∧ 44 ∉ field.text ∧ field.text.length ≤ 16
  six : addresses.length = 6
  numerals : List.Forall₂ (fun field (address : Word) => IsNumeral 16 address.toNat field.text)
    (fields.take 6) addresses

theorem ipRawStrdupToHex_numeral (hex : Word) {address : Word} {data : CString}
    (isNumeral : IsNumeral 16 address.toNat data) : ipRawStrdupToHex hex data = address := by
  have small := address.isLt
  have read := isNumeral.numeral_eq (by decide)
  have long : ¬ 2 ^ (8 * Abi.lp64.ptrSize) ≤ address.toNat := by
    simp only [Abi.ptrSize]
    omega
  unfold ipRawStrdupToHex strtoul
  rw [read]
  dsimp only
  rw [if_neg (by simp), if_neg long, if_neg (by simp)]
  simp

section Address

variable {P : Type} [Platform P] [TextPlatform P] {version : Nat}

namespace DhcpFields

variable {fields : List Field} {addresses : List Word} (dhcp : DhcpFields fields addresses)

include dhcp

theorem six_le : 6 ≤ fields.length := by
  have same := dhcp.numerals.length_eq
  rw [List.length_take, dhcp.six] at same
  omega

theorem read (hex : Nat → Word) :
    ((fields.map Field.text).take 6).mapIdx (fun i field => ipRawStrdupToHex (hex i) field) =
      addresses := by
  have count := dhcp.numerals.length_eq
  apply List.ext_getElem
  · simpa [List.map_take] using count
  · intro i inside inside'
    have numeral := List.Forall₂.get dhcp.numerals (count ▸ inside') inside'
    rw [List.getElem_mapIdx]
    refine ipRawStrdupToHex_numeral _ ?_
    simpa using numeral

theorem wire : ∀ s ∈ fields.map Field.text, WireText (some s) := by
  intro s member text same
  obtain rfl := Option.some.inj same
  obtain ⟨field, inside, rfl⟩ := List.mem_map.mp member
  obtain ⟨plain, -, short⟩ := dhcp.texts field inside
  exact ⟨plain, lt_of_le_of_lt short (by decide)⟩

theorem wireList : ∀ s ∈ (fields.map Field.text).map some, WireText s := by
  intro s member
  obtain ⟨text, inside, rfl⟩ := List.mem_map.mp member
  exact dhcp.wire text inside

theorem frame_length : (frameHeader .dhcpInfo 4 rilESuccess ++
    stringsPayload (wideTexts P ((fields.map Field.text).map some))).length ≤ recvBufferSize := by
  have ten := dhcp.ten
  have short : ∀ text ∈ wideTexts P ((fields.map Field.text).map some), ∀ chars ∈ text,
      chars.length ≤ 16 := by
    intro text member chars given
    obtain ⟨s, inside, rfl⟩ := List.mem_map.mp member
    obtain ⟨field, among, rfl⟩ := List.mem_map.mp (List.map_map ▸ inside)
    obtain rfl := Option.some.inj given
    obtain ⟨plain, -, sixteen⟩ := dhcp.texts field among
    rwa [TextPlatform.length_strdup8to16 _ plain]
  have payload := stringsPayload_length_le short
  have texts : (wideTexts P ((fields.map Field.text).map some)).length = fields.length := by
    simp [wideTexts]
  rw [texts] at payload
  unfold recvBufferSize
  rw [List.length_append, frameHeader_length]
  omega

theorem plain : Plain (ascii "^DHCP") fields :=
  ⟨by decide, fun field inside => (dhcp.texts field inside).2.1⟩

end DhcpFields

/-- **The address reaches the file.** When `get_dhcp_info` is served, with the radio on, and the
modem answers with six numbers in front of short fields, libril sends the client one frame; it
fits the client's buffer, and whatever the client has read before, it writes the addresses to
`DIAL_RESULT_FILE`. -/
theorem dhcpInfo_toFile {rild rild' : Rild} (accounted : Accounted P version rild)
    (live : Live rild.chan) {record : DialRecord} (recorded : DialCall.getDhcpInfo.record = some record)
    {pRI : Nat} {environment : Environment} (on : environment.RadioOn) {before : List CString}
    {reply : Reply} (brings : Brings (environment.commands 0) before reply)
    (final : isFinalResponseSuccess reply.final = true) {fields : List Field}
    {addresses : List Word} (dhcp : DhcpFields fields addresses)
    (found : reply.lines.find? (isIntermediate .singleline (some (ascii "^DHCP:"))) =
      some (lineOf (ascii "^DHCP") fields))
    {moments : Nat → Moment}
    (stepped : rildStep P version rild (.record (record.data P) pRI environment moments) =
      some rild')
    {connection : Nat}
    (client : ((moments 0).messages.foldl Message.send (rild.libril.processCommandBuffer P version
      (record.data P) pRI)).client = some connection) :
    rild'.serving = true ∧
      ∃ frame, answersSent rild'.libril = answersSent rild.libril ++ [(connection, frame)] ∧
        frame.length ≤ recvBufferSize ∧
        ∀ (d : Dialer) (hex : Nat → Word), ∃ d',
          d.processFrame (Platform.strndup16to8 P) hex frame = some d' ∧
            d'.dialResult = some (addressFile addresses) ∧ d'.gDialSuccess = true := by
  have behind := accounted.step stepped
  obtain ⟨⟨serving, connected, fresh⟩, rfl⟩ := by
    simpa only [rildStep, Option.ite_none_right_eq_some, Option.some.injEq] using stepped
  obtain rfl := Option.some.inj recorded
  have plain : DialRecord.Plain ⟨.dhcpInfo, 4, [ascii "?"]⟩ := by
    intro s given text same
    obtain rfl := Option.some.inj same
    rw [List.mem_singleton.mp given]
    exact ⟨by decide, by decide⟩
  have known : commandInfo RilRequest.dhcpInfo.number =
      some ⟨.dhcpInfo, .dispatchStrings, .responseStrings⟩ := rfl
  obtain ⟨accepted, calls⟩ := record_dispatched (P := P) plain (show 1 < 2 ^ 29 by decide) known pRI
  have call : dispatchCalls P version pRI ⟨.dhcpInfo, .dispatchStrings, .responseStrings⟩
      ((DialRecord.data ⟨.dhcpInfo, 4, [ascii "?"]⟩ P).drop 8) =
        [⟨.dhcpInfo, .strings [some (ascii "?")], 1 * (Platform.abi P).ptrSize, pRI⟩] := calls
  obtain ⟨-, served, goesOn⟩ :=
    serve_accepted accounted.reached connected fresh accepted call environment moments
  have nonempty : fields ≠ [] := by
    rintro rfl
    exact absurd dhcp.six_le (by decide)
  obtain ⟨completions, ended⟩ := requestDhcpInfo_completes live on brings (Platform.abi P) pRI
    nonempty dhcp.plain dhcp.ten final found
  have wireList := dhcp.wireList
  have count : ((fields.map Field.text).map some).length = fields.length := by simp
  have small := dhcp.frame_length (P := P)
  have data := responseParcel_strings (P := P) version
    ⟨4, ⟨.dhcpInfo, .dispatchStrings, .responseStrings⟩, 0, false, false⟩ rfl rilESuccess
    (moments 0).memory wireList (by rw [count]; exact lt_of_le_of_lt dhcp.ten (by decide))
  rw [count] at data
  have fits : ¬ maxCommandBytes < (frameHeader .dhcpInfo 4 rilESuccess ++
      stringsPayload (wideTexts P ((fields.map Field.text).map some))).length := by
    have larger : recvBufferSize ≤ maxCommandBytes := by decide
    omega
  refine ⟨goesOn ended, _, ?_, small, fun d hex => ?_⟩
  · rw [behind.answers, accounted.answers, served, completions, client, List.filterMap_append]
    refine congrArg (_ ++ ·) ?_
    have texts : (fields.map fun field => some field.text) = (fields.map Field.text).map some := by
      simp
    simp only [List.filterMap_cons, List.filterMap_nil, Served.answer, fieldsCompletion,
      Served.info, texts, data]
    rw [if_neg fits]
    rfl
  · obtain ⟨d', processed, file, success'⟩ := d.processFrame_dhcpInfo (P := P) hex 4 dhcp.wire
      (by simpa using dhcp.six_le) (by simpa using lt_of_le_of_lt dhcp.ten (by decide))
    rw [dhcp.read] at file
    exact ⟨d', processed, file, success'⟩

theorem addressText_bare : BareText (ascii "0101A8C0") where
  nonempty := by decide
  noComma := by decide
  noSpace := fun c first => by cases first; rfl
  noQuote := by decide

/-- `0101A8C0`, bare. -/
def addressField : Field :=
  ⟨[], false, ascii "0101A8C0", fun _ member => absurd member List.not_mem_nil, addressText_bare⟩

/-- A modem's line of its own, and the one with six times that address. -/
def addressLines : List CString :=
  [ascii "^RSSI: 17", lineOf (ascii "^DHCP") (List.replicate 6 addressField)]

theorem addressLines_unfinished : ∀ line ∈ addressLines, isFinalResponse line = false := by
  decide

def addressReply : Reply := ⟨addressLines, ascii "OK", addressLines_unfinished, rfl⟩

def addressEnvironment : Environment where
  commands := fun _ => ⟨[], [⟨(addressReply.lines ++ [addressReply.final]).map .line, false⟩]⟩
  states := fun _ => .simReady
  qmi := none

theorem dhcpFields_replicate :
    DhcpFields (List.replicate 6 addressField) (List.replicate 6 0x0101A8C0#32) where
  ten := by decide
  texts := by
    intro field member
    rw [List.eq_of_mem_replicate member]
    exact ⟨by decide, by decide, by decide⟩
  six := by decide
  numerals := by
    have isNumeral : IsNumeral 16 (0x0101A8C0#32 : Word).toNat addressField.text :=
      ⟨⟨[], ascii "0101A8C0", rfl, Or.inl rfl, by decide, by decide +kernel, by decide⟩⟩
    repeat first | exact .nil | refine .cons isNumeral ?_

theorem dhcpInfo_toFile_replicate :
    ∃ rild rild' frame, rildStep ByteParcel 3 (.initial openChannel) (.clientConnect 5 4 [] []) =
        some rild ∧
      rildStep ByteParcel 3 rild (.record (DialRecord.data ⟨.dhcpInfo, 4, [ascii "?"]⟩ ByteParcel)
        16 addressEnvironment fun _ => ⟨[], default, []⟩) = some rild' ∧
      answersSent rild'.libril = answersSent rild.libril ++ [(0, frame)] ∧
      ∀ (d : Dialer) (hex : Nat → Word), ∃ d',
        d.processFrame (Platform.strndup16to8 ByteParcel) hex frame = some d' ∧
          d'.dialResult = some (addressFile (List.replicate 6 0x0101A8C0#32)) := by
  have ran : ((rildStep ByteParcel 3 (.initial openChannel) (.clientConnect 5 4 [] [])).bind
      fun rild => (rildStep ByteParcel 3 rild
        (.record (DialRecord.data ⟨.dhcpInfo, 4, [ascii "?"]⟩ ByteParcel) 16 addressEnvironment
          fun _ => ⟨[], default, []⟩))).isSome = true := by
    decide +kernel
  obtain ⟨rild', both⟩ := Option.isSome_iff_exists.mp ran
  obtain ⟨rild, connected, stepped⟩ := Option.bind_eq_some_iff.mp both
  have accounted := (accounted_initial rfl).step connected
  obtain ⟨-, libril, client, rfl⟩ := by
    simpa only [rildStep, Option.ite_none_right_eq_some, Option.map_eq_some_iff] using connected
  have first : ((rildStep ByteParcel 3 (.initial openChannel) (.clientConnect 5 4 [] [])).map
      fun rild => (rild.libril.processCommandBuffer ByteParcel 3
        (DialRecord.data ⟨.dhcpInfo, 4, [ascii "?"]⟩ ByteParcel) 16).client) = some (some 0) := by
    decide +kernel
  rw [connected] at first
  have live : Live openChannel := ⟨by decide, rfl, by decide, rfl⟩
  have brings : Brings (addressEnvironment.commands 0) [] addressReply :=
    ⟨rfl, by simp [addressEnvironment], rfl⟩
  obtain ⟨-, frame, answers, -, file⟩ := dhcpInfo_toFile (P := ByteParcel) accounted live rfl
    ⟨RadioState.noConfusion, RadioState.noConfusion⟩ brings (by decide) dhcpFields_replicate
    (by decide) stepped (Option.some.inj first)
  refine ⟨_, rild', frame, connected, stepped, answers, fun d hex => ?_⟩
  obtain ⟨d', processed, same, -⟩ := file d hex
  exact ⟨d', processed, same⟩

end Address

end RildHisi.Daemon
