import RildHisi.Daemon.DialAddress
import RildHisi.Libril.UnsolResponses
import RildHisi.ReferenceRil.Unsolicited
import RildHisi.RilTest.DialMemory

/-!
Owns the way of a line that the modem sends on its own: the reader loop hands it to
`onUnsolicited`, which calls `RIL_onUnsolicitedResponse`, whose parcel goes to the client;
and what the reader of rldial makes of it there.

`lines_toDialer` says which frames the lines lead to, one for each line that is known, and
which of them the dial client survives.
-/

namespace RildHisi.Daemon

open RildHisi.AtChannel RildHisi.Library RildHisi.Libril RildHisi.ReferenceRil RildHisi.RilTest

/-! ### The way of a line -/

/-- A step of the threads around the channel, with what `onUnsolicited` sees in `sState`, what
`RIL_onUnsolicitedResponse` finds, and the memory around its data. -/
structure RelayEvent where
  event : ThreadEvent
  sState : RadioState
  moment : UnsolMoment
  memory : UnsolPointee

/-- The channel with its reader, libril, and the lines that were handed to `onUnsolicited`
while the radio was there, each with what was found. -/
structure Relay where
  reception : Reception
  libril : State
  heard : List (CString × UnsolMoment)

section Relay

variable (P : Type) [Platform P] (version : Nat)

/-- A call that `onUnsolicited` makes. A timed callback is only put into the queue, and the
state of the radio is not set there. -/
def tellEffect (memory : UnsolPointee) (moment : UnsolMoment) (s : State) :
    Effect → Option State
  | .onUnsolicitedResponse unsolResponse data datalen =>
      s.tell P version unsolResponse.toNat
        ((pointeeOf memory.toPointee data).map fun pointee => { memory with toPointee := pointee })
        datalen moment
  | .requestDataCallList | .requestTimedCallback | .setRadioState _ => some s

/-- The lines of the callbacks. -/
def linesOf (callbacks : List Callback) : List CString :=
  callbacks.filterMap fun
    | .unsolicited s _ => some s
    | _ => none

/-- The lines that a step hands to `onUnsolicited`, where it knows the radio and returns. -/
def handed (event : RelayEvent) (before after : Reception) : List CString :=
  if event.sState = .unavailable ∨ after.crashed = true then []
  else match Reception.lineOf event.event with
    | none => []
    | some _ =>
        linesOf (after.threads.channel.callbacks.drop before.threads.channel.callbacks.length)

def relayStep (relay : Relay) (event : RelayEvent) : Option Relay := do
  let reception ← relay.reception.step (Platform.abi P) (event.event, event.sState)
  let effects := reception.told.drop relay.reception.told.length
  let libril ← effects.foldlM (tellEffect P version event.memory event.moment) relay.libril
  let lines := handed event relay.reception reception
  some ⟨reception, libril, relay.heard ++ lines.map (·, event.moment)⟩

end Relay

/-! ### What a line is to come to -/

/-- A line that says that the state of a call has changed. -/
def isCallLine (line : CString) : Bool :=
  strStartsWith line (ascii "+CRING:") || strStartsWith line (ascii "RING") ||
    strStartsWith line (ascii "NO CARRIER") || strStartsWith line (ascii "+CCWA")

/-- A line that says that the registration has changed. -/
def isNetworkLine (line : CString) : Bool :=
  strStartsWith line (ascii "+CREG:") || strStartsWith line (ascii "+CGREG:")

def isConnectedLine (line : CString) : Bool := strStartsWith line (ascii "^DCONN:")

/-- The time of a line `%CTZV:`, the first token behind the colon. -/
def timeOf (line : CString) : Option CString :=
  if strStartsWith line (ascii "%CTZV:") then
    match atTokNextstr (atTokStart (some line)).pCur none with
    | ⟨0, _, some response⟩ => some response
    | _ => none
  else none

/-- A line that leads to a message other than `RIL_UNSOL_NDIS_DIAL`. -/
def isNoticeLine (line : CString) : Bool :=
  !isConnectedLine line && ((timeOf line).isSome || isCallLine line || isNetworkLine line)

/-- The codes that are not `RIL_UNSOL_NDIS_DIAL`. -/
theorem noticeCodes : (1001 : Word) ≠ BitVec.ofInt 32 Libril.rilUnsolNdisDial ∧
    (1002 : Word) ≠ BitVec.ofInt 32 Libril.rilUnsolNdisDial ∧
    (1008 : Word) ≠ BitVec.ofInt 32 Libril.rilUnsolNdisDial := by
  decide

/-- The frame of a line, if it is known. -/
def lineFrame (P : Type) [Platform P] (moment : UnsolMoment) (line : CString) : Option DialFrame :=
  if isConnectedLine line then some (.connected [line])
  else match timeOf line with
    | some time => some (.notice 1008
        (string16Bytes (some (Platform.strdup8to16 P time)) ++ int64Bytes moment.timeReceived)
        noticeCodes.2.2)
    | none =>
        if isCallLine line then some (.notice 1001 [] noticeCodes.1)
        else if isNetworkLine line then some (.notice 1002 [] noticeCodes.2.1)
        else none

/-! ### The time -/

theorem nextTok_sublist {cur token : CString} {pCur : Option CString}
    (scanned : nextTok (some cur) = (some token, pCur)) : token.Sublist cur := by
  have blanks : (cur.dropWhile isSpace).Sublist cur := List.dropWhile_sublist _
  unfold nextTok at scanned
  simp only [skipWhiteSpace, Option.map_some, strsep] at scanned
  split_ifs at scanned
  · obtain rfl := Option.some.inj (congrArg Prod.fst scanned)
    exact (List.takeWhile_sublist _).trans ((List.tail_sublist _).trans blanks)
  · obtain rfl := Option.some.inj (congrArg Prod.fst scanned)
    exact (List.takeWhile_sublist _).trans blanks

/-- Behind its start, a line has a time, which is read out of what stands behind the colon. -/
theorem atTokNextstr_time (behind : CString) :
    ∃ pCur time, atTokNextstr (atTokStart (some (ascii "%CTZV:" ++ behind))).pCur none =
      ⟨0, pCur, some time⟩ ∧ time.Sublist behind := by
  have start : (atTokStart (some (ascii "%CTZV:" ++ behind))).pCur = some behind := rfl
  obtain ⟨time, token⟩ := Option.isSome_iff_exists.mp (nextTok_isSome behind)
  have scanned : nextTok (some behind) = (some time, (nextTok (some behind)).2) :=
    Prod.ext token rfl
  refine ⟨(nextTok (some behind)).2, time, ?_, nextTok_sublist scanned⟩
  rw [start]
  unfold atTokNextstr
  rw [if_neg (by simp), scanned]

theorem timeOf_starts {line : CString} (starts : strStartsWith line (ascii "%CTZV:") = true) :
    ∃ pCur time behind, atTokNextstr (atTokStart (some line)).pCur none = ⟨0, pCur, some time⟩ ∧
      timeOf line = some time ∧ time.Sublist behind ∧ ascii "%CTZV:" ++ behind = line := by
  obtain ⟨behind, rfl⟩ := (strStartsWith_iff _ _).mp starts
  obtain ⟨pCur, time, scanned, sublist⟩ := atTokNextstr_time behind
  refine ⟨pCur, time, behind, scanned, ?_, sublist, rfl⟩
  unfold timeOf
  rw [if_pos starts, scanned]
  rfl

theorem timeOf_other {line : CString} (other : strStartsWith line (ascii "%CTZV:") = false) :
    timeOf line = none := by
  unfold timeOf
  rw [other]
  rfl

/-! ### One line -/

section Line

variable {P : Type} [Platform P] [TextPlatform P] {version : Nat}

/-- A line whose frame fits the buffer of the dial client. -/
def Fits (line : CString) : Prop := AsciiText line ∧ line.length ≤ 239

/-- A frame that the client has taken. -/
def whole (P : Type) [Platform P] (connection : Nat) (frame : DialFrame) : Libril.Frame :=
  takenFrame connection (frame.data P)

theorem Fits.time {line time : CString} (fits : Fits line) (found : timeOf line = some time) :
    AsciiText time ∧ time.length ≤ 233 := by
  have starts : strStartsWith line (ascii "%CTZV:") = true := by
    by_contra other
    rw [timeOf_other (Bool.not_eq_true _ ▸ other)] at found
    cases found
  obtain ⟨-, read, behind, -, same, sublist, rfl⟩ := timeOf_starts starts
  obtain rfl := Option.some.inj (same.symm.trans found)
  obtain ⟨plain, short⟩ := fits
  have front : (ascii "%CTZV:").length = 6 := rfl
  have length := sublist.length_le
  rw [List.length_append] at short
  refine ⟨fun c member => plain c (List.mem_append_right _ (sublist.subset member)), by omega⟩

omit [TextPlatform P] in
theorem lineFrame_connected {line : CString} (connected : isConnectedLine line = true)
    (moment : UnsolMoment) : lineFrame P moment line = some (.connected [line]) := by
  unfold lineFrame
  rw [if_pos connected]

omit [TextPlatform P] in
theorem lineFrame_time {line time : CString} (other : isConnectedLine line = false)
    (found : timeOf line = some time) (moment : UnsolMoment) :
    lineFrame P moment line = some (.notice 1008
      (string16Bytes (some (Platform.strdup8to16 P time)) ++ int64Bytes moment.timeReceived)
      noticeCodes.2.2) := by
  unfold lineFrame
  rw [other, found]
  rfl

omit [TextPlatform P] in
/-- What the frame of a line may be. -/
theorem lineFrame_cases {line : CString} {moment : UnsolMoment} {frame : DialFrame}
    (framed : lineFrame P moment line = some frame) :
    (isConnectedLine line = true ∧ frame = .connected [line]) ∨
      isConnectedLine line = false ∧ frame.IsNotice ∧
        ((∃ time, timeOf line = some time ∧ frame = .notice 1008
            (string16Bytes (some (Platform.strdup8to16 P time)) ++
              int64Bytes moment.timeReceived) noticeCodes.2.2) ∨
          frame = .notice 1001 [] noticeCodes.1 ∨ frame = .notice 1002 [] noticeCodes.2.1) := by
  unfold lineFrame at framed
  cases connected : isConnectedLine line with
  | true =>
      rw [connected, if_pos rfl] at framed
      exact Or.inl ⟨rfl, (Option.some.inj framed).symm⟩
  | false =>
      rw [connected, if_neg (by decide)] at framed
      right
      cases found : timeOf line with
      | some time =>
          rw [found] at framed
          obtain rfl := Option.some.inj framed
          exact ⟨rfl, trivial, Or.inl ⟨time, rfl, rfl⟩⟩
      | none =>
          rw [found] at framed
          dsimp only at framed
          split_ifs at framed
          · obtain rfl := Option.some.inj framed
            exact ⟨rfl, trivial, Or.inr (Or.inl rfl)⟩
          · obtain rfl := Option.some.inj framed
            exact ⟨rfl, trivial, Or.inr (Or.inr rfl)⟩

theorem Fits.wire {line : CString} (fits : Fits line) : WireText (some line) := by
  intro text same
  obtain rfl := Option.some.inj same
  exact ⟨fits.1, lt_of_le_of_lt fits.2 (by decide)⟩

omit [TextPlatform P] in
theorem lineFrame_sendable {line : CString} (fits : Fits line) {moment : UnsolMoment}
    {frame : DialFrame} (framed : lineFrame P moment line = some frame) : frame.Sendable := by
  rcases lineFrame_cases framed with ⟨-, rfl⟩ | ⟨-, -, ⟨time, -, rfl⟩ | rfl | rfl⟩
  · refine ⟨?_, by simp, by simp⟩
    intro s member
    rw [List.mem_singleton.mp member]
    exact fits.wire
  · trivial
  · trivial
  · trivial

theorem lineFrame_length {line : CString} (fits : Fits line) {moment : UnsolMoment}
    {frame : DialFrame} (framed : lineFrame P moment line = some frame) :
    (frame.data P).length ≤ recvBufferSize := by
  unfold recvBufferSize
  rcases lineFrame_cases framed with ⟨-, rfl⟩ | ⟨-, -, ⟨time, found, rfl⟩ | rfl | rfl⟩
  · have short : ∀ text ∈ wideTexts P ([line].map some), ∀ chars ∈ text, chars.length ≤ 239 := by
      intro text member chars given
      rw [List.mem_singleton.mp member] at given
      obtain rfl := Option.some.inj given
      rw [TextPlatform.length_strdup8to16 _ fits.1]
      exact fits.2
    have payload := stringsPayload_length_le short
    have one : (wideTexts P ([line].map some)).length = 1 := rfl
    rw [one] at payload
    simp only [DialFrame.data, List.length_append, wordBytes_length]
    omega
  · obtain ⟨plain, short⟩ := fits.time found
    have wide : ∀ chars ∈ some (Platform.strdup8to16 P time), chars.length ≤ 233 := by
      intro chars given
      obtain rfl := Option.some.inj given
      rwa [TextPlatform.length_strdup8to16 _ plain]
    have payload := string16Bytes_length_le wide
    have eight : (int64Bytes moment.timeReceived).length = 8 := rfl
    simp only [DialFrame.data, List.length_append, wordBytes_length, eight]
    omega
  · simp [DialFrame.data, wordBytes_length]
  · simp [DialFrame.data, wordBytes_length]

/-! What a call of `RIL_onUnsolicitedResponse` sends. -/

variable {s : State} {connection : Nat} {moment : UnsolMoment}

/-- A call with a row and data that the response function takes. -/
theorem tellEffect_taken (memory : UnsolPointee) {unsolResponse : Word} {data : ResponseData}
    {datalen : Nat} {info : UnsolResponseInfo}
    (row : unsolResponseInfo unsolResponse.toNat = some info) {writes : List ParcelWrite}
    (marshals : info.responseFunction.marshal (Platform.abi P)
      ((pointeeOf memory.toPointee data).map fun pointee => { memory with toPointee := pointee })
      datalen version = some (writes, 0)) (fit : ∀ write ∈ writes, write.Fits P)
    {frame : DialFrame}
    (same : unsolHeader unsolResponse.toNat ++
      (writes ++ morePayload unsolResponse.toNat moment).flatMap (ParcelWrite.encoded P) =
        frame.data P)
    (small : (frame.data P).length ≤ recvBufferSize) (client : s.client = some connection)
    (taken : NeverFails moment.script) :
    tellEffect P version memory moment s (.onUnsolicitedResponse unsolResponse data datalen) =
      some { s with frames := s.frames ++ [whole P connection frame] } := by
  have larger : recvBufferSize ≤ maxCommandBytes := by decide
  exact State.tell_taken row marshals client
    ((data_unsolParcel_encoded unsolResponse.toNat moment fit).trans same) (by omega) taken

/-- `responseVoid` puts nothing behind the code. -/
theorem tell_notice (memory : UnsolPointee) {unsolResponse : Word} {wakeType : WakeType}
    (row : unsolResponseInfo unsolResponse.toNat =
      some ⟨unsolResponse.toNat, .common .responseVoid, wakeType⟩)
    (plain : morePayload unsolResponse.toNat moment = [])
    (other : unsolResponse ≠ BitVec.ofInt 32 Libril.rilUnsolNdisDial)
    (client : s.client = some connection) (taken : NeverFails moment.script) :
    tellEffect P version memory moment s (.onUnsolicitedResponse unsolResponse .null 0) =
      some { s with frames := s.frames ++ [whole P connection (.notice unsolResponse [] other)] } := by
  have same : unsolHeader unsolResponse.toNat ++
      (([] : List ParcelWrite) ++ morePayload unsolResponse.toNat moment).flatMap
        (ParcelWrite.encoded P) = (DialFrame.notice unsolResponse [] other).data P := by
    rw [plain]
    simp [unsolHeader, DialFrame.data]
  have small : ((DialFrame.notice unsolResponse [] other).data P).length ≤ recvBufferSize := by
    simp [DialFrame.data, wordBytes_length, recvBufferSize]
  exact tellEffect_taken memory row rfl (fun _ member => absurd member List.not_mem_nil) same small
    client taken

theorem tell_connected (memory : UnsolPointee) {line : CString} (fits : Fits line)
    (connected : isConnectedLine line = true) (client : s.client = some connection)
    (taken : NeverFails moment.script) :
    tellEffect P version memory moment s (.onUnsolicitedResponse ReferenceRil.rilUnsolNdisDial
        (.strings [some line]) (Platform.abi P).ptrSize) =
      some { s with frames := s.frames ++ [whole P connection (.connected [line])] } := by
  have wire : ∀ i, i < 1 → WireText (arrayOf [some line] memory.strings i) := by
    intro i inside
    obtain rfl : i = 0 := by omega
    exact fits.wire
  have framed := lineFrame_connected (P := P) connected moment
  have marshals : (UnsolFunction.common .responseStrings).marshal (Platform.abi P)
      ((pointeeOf memory.toPointee (.strings [some line])).map fun pointee =>
        { memory with toPointee := pointee }) (Platform.abi P).ptrSize version =
      some (counted 1 fun i => [.string (arrayOf [some line] memory.strings i)], 0) := by
    have one := responseStrings_some (Platform.abi P)
      { memory.toPointee with strings := arrayOf [some line] memory.strings } 1
    rw [Nat.one_mul] at one
    exact one
  have same : unsolHeader ReferenceRil.rilUnsolNdisDial.toNat ++
      ((counted 1 fun i => [.string (arrayOf [some line] memory.strings i)]) ++
        morePayload ReferenceRil.rilUnsolNdisDial.toNat moment).flatMap (ParcelWrite.encoded P) =
      (DialFrame.connected [line]).data P := by
    have nothing : morePayload ReferenceRil.rilUnsolNdisDial.toNat moment = [] := rfl
    rw [nothing, List.append_nil, encoded_counted_strings _ (by decide)]
    rfl
  have row : unsolResponseInfo ReferenceRil.rilUnsolNdisDial.toNat =
      some ⟨1031, .common .responseStrings, .dontWake⟩ := rfl
  exact tellEffect_taken (P := P) memory row marshals (fits_counted_strings wire (by decide)) same
    (lineFrame_length fits framed) client taken

theorem tell_time (memory : UnsolPointee) {line time : CString} (fits : Fits line)
    (other : isConnectedLine line = false) (found : timeOf line = some time)
    (client : s.client = some connection) (taken : NeverFails moment.script) :
    tellEffect P version memory moment s (.onUnsolicitedResponse
        ReferenceRil.rilUnsolNitzTimeReceived (.string time) time.length) =
      some { s with frames := s.frames ++ [whole P connection (.notice 1008
        (string16Bytes (some (Platform.strdup8to16 P time)) ++ int64Bytes moment.timeReceived)
        noticeCodes.2.2)] } := by
  have framed := lineFrame_time (P := P) other found moment
  have short : ∀ write ∈ [ParcelWrite.string (some time)], write.Fits P := by
    intro write member
    rw [List.mem_singleton.mp member]
    obtain ⟨plain, few⟩ := fits.time found
    intro chars given
    obtain rfl := Option.some.inj given
    rw [TextPlatform.length_strdup8to16 _ plain]
    exact lt_of_le_of_lt few (by decide)
  have same : unsolHeader ReferenceRil.rilUnsolNitzTimeReceived.toNat ++
      ([ParcelWrite.string (some time)] ++
        morePayload ReferenceRil.rilUnsolNitzTimeReceived.toNat moment).flatMap
          (ParcelWrite.encoded P) =
      (DialFrame.notice 1008 (string16Bytes (some (Platform.strdup8to16 P time)) ++
        int64Bytes moment.timeReceived) noticeCodes.2.2).data P := by
    have more : morePayload ReferenceRil.rilUnsolNitzTimeReceived.toNat moment =
        [.bytes (int64Bytes moment.timeReceived)] := rfl
    have aligned : padBytes (int64Bytes moment.timeReceived) =
        int64Bytes moment.timeReceived := by
      simp [padBytes, padSize, int64Bytes, wordBytes_length]
    rw [more]
    simp only [List.cons_append, List.nil_append, List.flatMap_cons, List.flatMap_nil,
      List.append_nil, ParcelWrite.encoded, aligned, DialFrame.data]
    rfl
  have row : unsolResponseInfo ReferenceRil.rilUnsolNitzTimeReceived.toNat =
      some ⟨1008, .common .responseString, .wakePartial⟩ := rfl
  have marshals : (UnsolFunction.common .responseString).marshal (Platform.abi P)
      ((pointeeOf memory.toPointee (.string time)).map fun pointee =>
        { memory with toPointee := pointee }) time.length version =
      some ([.string (some time)], 0) := rfl
  exact tellEffect_taken (P := P) memory row marshals short same (lineFrame_length fits framed)
    client taken

/-- **One line.** The calls of `onUnsolicited` for a line put its frame on the connection of the
client, if it has one, and nothing else. -/
theorem tell_line (memory : UnsolPointee) {sState : RadioState} {line : CString}
    (available : sState ≠ .unavailable) (fits : Fits line) {effects : List Effect}
    (handled : onUnsolicited (Platform.abi P) sState line none = some effects)
    (client : s.client = some connection) (taken : NeverFails moment.script) :
    effects.foldlM (tellEffect P version memory moment) s =
      some { s with frames := s.frames ++
        ((lineFrame P moment line).map (whole P connection)).toList } := by
  have alone : ∀ (effect : Effect) {s' : State},
      tellEffect P version memory moment s effect = some s' →
        [effect].foldlM (tellEffect P version memory moment) s = some s' := by
    intro effect s' told
    rw [List.foldlM_cons, told]
    rfl
  unfold onUnsolicited at handled
  rw [if_neg available, ← isConnectedLine] at handled
  unfold lineFrame
  cases connected : isConnectedLine line with
  | true =>
      rw [if_pos connected] at handled
      obtain rfl := Option.some.inj handled
      exact alone _ (tell_connected memory fits connected client taken)
  | false =>
      rw [if_neg (by rw [connected]; decide)] at handled
      cases starts : strStartsWith line (ascii "%CTZV:") with
      | true =>
          obtain ⟨pCur, time, -, scanned, found, -, -⟩ := timeOf_starts starts
          rw [if_pos starts, scanned] at handled
          obtain rfl := Option.some.inj handled
          rw [found]
          exact alone _ (tell_time memory fits connected found client taken)
      | false =>
          rw [if_neg (by rw [starts]; decide), ← isCallLine, ← isNetworkLine] at handled
          rw [timeOf_other starts]
          cases call : isCallLine line with
          | true =>
              rw [if_pos call] at handled
              obtain rfl := Option.some.inj handled
              exact alone _ (tell_notice memory rfl rfl noticeCodes.1 client taken)
          | false =>
              rw [if_neg (by rw [call]; decide)] at handled
              cases network : isNetworkLine line with
              | true =>
                  rw [if_pos network] at handled
                  obtain rfl := Option.some.inj handled
                  exact alone _ (tell_notice memory rfl rfl noticeCodes.2.1 client taken)
              | false =>
                  rw [if_neg (by rw [network]; decide)] at handled
                  -- a message fails on its NULL PDU, and the others call nothing that is sent
                  have quiet : effects = [] ∨ effects = [.requestDataCallList] := by
                    simp only [Option.map_none] at handled
                    split_ifs at handled
                    · exact Or.inr (Option.some.inj handled).symm
                    · exact Or.inl (Option.some.inj handled).symm
                  show effects.foldlM (tellEffect P version memory moment) s =
                    some { s with frames := s.frames ++ [] }
                  rw [List.append_nil]
                  rcases quiet with rfl | rfl <;> rfl

/-! ### Steps -/

/-- A line by itself, from which `onUnsolicited` returns. -/
theorem reception_line {abi : Abi} {sState : RadioState} {before after : Reception}
    {line : CString} (alone : before.line1 = none)
    (stepped : before.step abi (.reader (.line line), sState) = some after) :
    after.line1 = none ∧ ∃ effects, after.told = before.told ++ effects ∧
      (after.crashed = false → deliver abi sState (after.threads.channel.callbacks.drop
        before.threads.channel.callbacks.length) = some effects) ∧
      (after.crashed = true → effects = []) ∧
      after.threads.channel.callbacks.drop before.threads.channel.callbacks.length =
        if handsOver before.threads.channel line then [.unsolicited line none] else [] := by
  unfold Reception.step at stepped
  split_ifs at stepped with crashed
  obtain ⟨⟨threads, line1⟩, read, shape⟩ := Option.map_eq_some_iff.mp stepped
  rw [Reception.readLine, alone, isSmsUnsolicited] at read
  obtain ⟨ran, rfl⟩ : before.threads.step (.reader (.line line)) = some threads ∧ none = line1 := by
    simpa using read
  have calls := callbacks_step_line ran
  dsimp only at shape
  cases told : deliver abi sState
      (threads.channel.callbacks.drop before.threads.channel.callbacks.length) with
  | none =>
      rw [told] at shape
      subst shape
      exact ⟨rfl, [], (List.append_nil _).symm, fun intact => absurd intact (by simp),
        fun _ => rfl, by simp only [calls, List.drop_left]⟩
  | some effects =>
      rw [told] at shape
      subst shape
      exact ⟨rfl, effects, rfl, fun _ => told, fun failed => absurd failed (by simp),
        by simp only [calls, List.drop_left]⟩

/-- The other steps call nothing. -/
theorem reception_other {abi : Abi} {sState : RadioState} {before after : Reception}
    {event : ThreadEvent} (other : Reception.lineOf event = none)
    (stepped : before.step abi (event, sState) = some after) :
    after.line1 = before.line1 ∧ after.told = before.told := by
  unfold Reception.step at stepped
  split_ifs at stepped with crashed
  cases event with
  | reader event =>
      cases event with
      | line line => cases other
      | readerClosed =>
          obtain ⟨threads, -, rfl⟩ := Option.map_eq_some_iff.mp stepped
          exact ⟨rfl, rfl⟩
      | closed =>
          obtain ⟨threads, -, rfl⟩ := Option.map_eq_some_iff.mp stepped
          exact ⟨rfl, rfl⟩
  | _ =>
      obtain ⟨threads, -, rfl⟩ := Option.map_eq_some_iff.mp stepped
      exact ⟨rfl, rfl⟩

/-- A step hands over no line, and calls nothing, or one, for which it calls what
`onUnsolicited` does. -/
theorem handed_cases {abi : Abi} {event : RelayEvent} {before after : Reception}
    (alone : before.line1 = none)
    (stepped : before.step abi (event.event, event.sState) = some after) :
    after.line1 = none ∧
      ((handed event before after = [] ∧ after.told = before.told) ∨
        ∃ line effects, handed event before after = [line] ∧
          after.told = before.told ++ effects ∧ event.sState ≠ .unavailable ∧
          onUnsolicited abi event.sState line none = some effects) := by
  cases read : Reception.lineOf event.event with
  | none =>
      obtain ⟨kept, same⟩ := reception_other read stepped
      refine ⟨kept.trans alone, Or.inl ⟨?_, same⟩⟩
      unfold handed
      rw [read]
      exact ite_self _
  | some line =>
      rw [Reception.lineOf_eq_some read] at stepped
      obtain ⟨kept, effects, same, returned, failed, calls⟩ := reception_line alone stepped
      refine ⟨kept, ?_⟩
      have silent (nothing : effects = []) : after.told = before.told := by
        rw [same, nothing, List.append_nil]
      by_cases crashed : after.crashed = true
      · exact Or.inl ⟨if_pos (Or.inr crashed), silent (failed crashed)⟩
      have delivered := returned (by simpa using crashed)
      rw [calls, deliver_line] at delivered
      by_cases unavailable : event.sState = .unavailable
      · refine Or.inl ⟨if_pos (Or.inl unavailable), silent ?_⟩
        rw [onUnsolicited, if_pos unavailable, ite_self] at delivered
        exact (Option.some.inj delivered).symm
      have lines : handed event before after =
          if handsOver before.threads.channel line then [line] else [] := by
        unfold handed
        rw [if_neg (by simp [unavailable, crashed]), read, calls]
        split_ifs <;> rfl
      cases handsIt : handsOver before.threads.channel line with
      | false =>
          rw [handsIt] at delivered lines
          exact Or.inl ⟨lines, silent (Option.some.inj delivered).symm⟩
      | true =>
          rw [handsIt, if_pos rfl] at delivered lines
          exact Or.inr ⟨line, effects, lines, same, unavailable, delivered⟩

/-- The frames of lines. -/
def framesOf (P : Type) [Platform P] (heard : List (CString × UnsolMoment)) : List DialFrame :=
  heard.filterMap fun entry => lineFrame P entry.2 entry.1

/-- **Step lemma.** A step puts the frames of the lines it hands over on the connection. -/
theorem relayStep_frames {relay relay' : Relay} {event : RelayEvent}
    (alone : relay.reception.line1 = none) (client : relay.libril.client = some connection)
    (taken : NeverFails event.moment.script)
    (stepped : relayStep P version relay event = some relay') :
    ∃ lines : List CString, relay'.heard = relay.heard ++ lines.map (·, event.moment) ∧
      relay'.reception.line1 = none ∧
      ((∀ line ∈ lines, Fits line) → relay'.libril = { relay.libril with
        frames := relay.libril.frames ++
          (framesOf P (lines.map (·, event.moment))).map (whole P connection) }) := by
  unfold relayStep at stepped
  obtain ⟨reception, received, libril, told, shape⟩ := by
    simpa only [Option.bind_eq_bind, Option.bind_eq_some_iff] using stepped
  obtain rfl := Option.some.inj shape
  obtain ⟨kept, nothing | single⟩ := handed_cases alone received
  · obtain ⟨lines, same⟩ := nothing
    refine ⟨[], by rw [lines], kept, fun _ => ?_⟩
    rw [same, List.drop_length] at told
    obtain rfl := Option.some.inj told
    simp [framesOf]
  · obtain ⟨line, effects, lines, same, available, handled⟩ := single
    refine ⟨[line], by rw [lines], kept, fun fits => ?_⟩
    have sent : effects.foldlM (tellEffect P version event.memory event.moment) relay.libril =
        some { relay.libril with frames := relay.libril.frames ++
          ((lineFrame P event.moment line).map (whole P connection)).toList } :=
      tell_line event.memory available (fits line (List.mem_singleton.mpr rfl)) handled client taken
    rw [same, List.drop_left, sent] at told
    obtain rfl := Option.some.inj told
    unfold framesOf
    rw [List.map_cons, List.map_nil, List.filterMap_cons]
    cases lineFrame P event.moment line <;> rfl

/-! ### Runs -/

omit [TextPlatform P] in
theorem heard_of_step {relay relay' : Relay} {event : RelayEvent}
    (stepped : relayStep P version relay event = some relay') :
    ∃ heard, relay'.heard = relay.heard ++ heard := by
  unfold relayStep at stepped
  obtain ⟨reception, -, libril, -, shape⟩ := by
    simpa only [Option.bind_eq_bind, Option.bind_eq_some_iff] using stepped
  obtain rfl := Option.some.inj shape
  exact ⟨_, rfl⟩

omit [TextPlatform P] in
theorem heard_of_run {relay relay' : Relay} {events : List RelayEvent}
    (ran : run (relayStep P version) relay events = some relay') :
    ∃ heard, relay'.heard = relay.heard ++ heard := by
  induction events generalizing relay with
  | nil =>
      obtain rfl := Option.some.inj ran
      exact ⟨[], (List.append_nil _).symm⟩
  | cons event events inductionHypothesis =>
      rw [run_cons] at ran
      obtain ⟨next, stepped, behind⟩ := Option.bind_eq_some_iff.mp ran
      obtain ⟨first, same⟩ := heard_of_step stepped
      obtain ⟨later, rest⟩ := inductionHypothesis behind
      exact ⟨first ++ later, by rw [rest, same, List.append_assoc]⟩

/-- **Run lemma.** The frames of the lines are on the connection, one behind the other. -/
theorem relayed_of_run {relay relay' : Relay} {events : List RelayEvent}
    (ran : run (relayStep P version) relay events = some relay')
    (alone : relay.reception.line1 = none) (client : relay.libril.client = some connection)
    (taken : ∀ event ∈ events, NeverFails event.moment.script)
    {heard : List (CString × UnsolMoment)} (same : relay'.heard = relay.heard ++ heard)
    (fits : ∀ entry ∈ heard, Fits entry.1) :
    relay'.libril = { relay.libril with
      frames := relay.libril.frames ++ (framesOf P heard).map (whole P connection) } := by
  induction events generalizing relay heard with
  | nil =>
      obtain rfl := Option.some.inj ran
      obtain rfl : heard = [] := List.append_right_eq_self.mp same.symm
      simp [framesOf]
  | cons event events inductionHypothesis =>
      rw [run_cons] at ran
      obtain ⟨next, stepped, behind⟩ := Option.bind_eq_some_iff.mp ran
      obtain ⟨lines, first, kept, sent⟩ :=
        relayStep_frames alone client (taken event List.mem_cons_self) stepped
      obtain ⟨later, rest⟩ := heard_of_run behind
      obtain rfl : heard = lines.map (·, event.moment) ++ later := by
        rw [rest, first, List.append_assoc] at same
        exact (List.append_cancel_left same).symm
      have shape := sent fun line member =>
        fits (line, event.moment) (List.mem_append_left _ (List.mem_map.mpr ⟨line, member, rfl⟩))
      have stays : next.libril.client = some connection := by
        rw [shape]
        exact client
      have done := inductionHypothesis behind kept stays
        (fun other member => taken other (List.mem_cons_of_mem _ member)) rest
        (fun entry member => fits entry (List.mem_append_right _ member))
      have both : framesOf P (lines.map (·, event.moment) ++ later) =
          framesOf P (lines.map (·, event.moment)) ++ framesOf P later := List.filterMap_append
      rw [done, shape, both, List.map_append, List.append_assoc]

/-- What the reader of rldial makes of frames, one after another. -/
def readFrames (P : Type) [Platform P] (hex : Nat → Word) (d : Dialer)
    (frames : List DialFrame) : Option Dialer :=
  run (fun d frame => d.processFrame (Platform.strndup16to8 P) hex (frame.data P)) d frames

/-- No line that leads to another message comes while strings are owed. -/
def Harmless (owes : Bool) (lines : List CString) : Prop :=
  ∀ front line back, lines = front ++ line :: back → isNoticeLine line = true →
    owes = false ∧ ∀ before ∈ front, isConnectedLine before = false

theorem harmless_cons (owes : Bool) (line : CString) (lines : List CString) :
    Harmless owes (line :: lines) ↔
      (isNoticeLine line = true → owes = false) ∧
        Harmless (owes || isConnectedLine line) lines := by
  constructor
  · intro harmless
    refine ⟨fun notice => (harmless [] line lines rfl notice).1, ?_⟩
    intro front later back shape notice
    obtain ⟨clear, before⟩ := harmless (line :: front) later back (by rw [shape]; rfl) notice
    refine ⟨?_, fun other member => before other (List.mem_cons_of_mem _ member)⟩
    rw [clear, before line List.mem_cons_self]
    rfl
  · rintro ⟨first, later⟩ front other back shape notice
    cases front with
    | nil =>
        obtain ⟨rfl, -⟩ := List.cons_eq_cons.mp shape
        exact ⟨first notice, fun _ member => absurd member List.not_mem_nil⟩
    | cons head front =>
        obtain ⟨rfl, rest⟩ := List.cons_eq_cons.mp shape
        obtain ⟨clear, before⟩ := later front other back rest notice
        obtain ⟨free, unconnected⟩ := Bool.or_eq_false_iff.mp clear
        refine ⟨free, fun earlier member => ?_⟩
        rcases List.mem_cons.mp member with rfl | inside
        · exact unconnected
        · exact before earlier inside

omit [TextPlatform P] in
/-- A line leads to a frame exactly if it is connected or leads to another message. -/
theorem isNoticeLine_eq (moment : UnsolMoment) (line : CString) :
    isNoticeLine line = (!isConnectedLine line && (lineFrame P moment line).isSome) := by
  unfold isNoticeLine lineFrame
  cases isConnectedLine line with
  | true => rfl
  | false =>
      cases timeOf line with
      | some time => rfl
      | none => cases isCallLine line <;> cases isNetworkLine line <;> rfl

theorem notice_used {frame : DialFrame} (isNotice : frame.IsNotice) : frame.used = 0 := by
  cases frame with
  | notice _ _ _ => rfl
  | _ => exact isNotice.elim

theorem notice_owes {frame : DialFrame} (isNotice : frame.IsNotice) (before : Bool) :
    frame.owes before = before := by
  cases frame with
  | notice _ _ _ => rfl
  | _ => exact isNotice.elim

/-- The dial client processes the frames of lines exactly if no message frees strings that are
freed: none at all while it owes them, and none behind a line that brings new ones. -/
theorem readFrames_iff (hex : Nat → Word) {heard : List (CString × UnsolMoment)}
    (fits : ∀ entry ∈ heard, Fits entry.1) {d : Dialer} {owes : Bool} (keeps : d.Keeps owes) :
    (readFrames P hex d (framesOf P heard)).isSome = true ↔
      Harmless owes (heard.map Prod.fst) := by
  induction heard generalizing d owes with
  | nil =>
      refine iff_of_true rfl ?_
      intro front line back shape
      cases front <;> cases shape
  | cons entry heard inductionHypothesis =>
      obtain ⟨line, moment⟩ := entry
      have behind {d : Dialer} {owes : Bool} (kept : d.Keeps owes) :=
        inductionHypothesis (fun later member => fits later (List.mem_cons_of_mem _ member)) kept
      have fit : Fits line := fits _ List.mem_cons_self
      have notice := isNoticeLine_eq (P := P) moment line
      rw [List.map_cons, harmless_cons, notice]
      unfold framesOf
      rw [List.filterMap_cons]
      cases framed : lineFrame P moment line with
      | none =>
          have unconnected : isConnectedLine line = false := by
            by_contra connected
            rw [lineFrame_connected (by simpa using connected) moment] at framed
            cases framed
          rw [unconnected, Bool.or_false]
          exact (behind keeps).trans ⟨fun harmless => ⟨by simp, harmless⟩, And.right⟩
      | some frame =>
          obtain ⟨goesOn, stops⟩ :=
            Dialer.processFrame_step (P := P) hex keeps frame (lineFrame_sendable fit framed)
          show (readFrames P hex d (frame :: framesOf P heard)).isSome = true ↔ _
          unfold readFrames
          rw [run_cons]
          rcases lineFrame_cases framed with ⟨connected, rfl⟩ | ⟨unconnected, isNotice, -⟩
          · obtain ⟨d', kept, processed⟩ := goesOn ⟨Nat.zero_le _, False.elim⟩
            rw [processed, connected, Bool.or_true]
            exact (behind kept).trans ⟨fun harmless => ⟨by simp, harmless⟩, And.right⟩
          · rw [unconnected, Bool.or_false]
            cases owes with
            | false =>
                have safe : frame.Safe false :=
                  ⟨(notice_used isNotice).trans_le (Nat.zero_le _), fun _ => rfl⟩
                obtain ⟨d', kept, processed⟩ := goesOn safe
                rw [notice_owes isNotice] at kept
                rw [processed]
                exact (behind kept).trans ⟨fun harmless => ⟨fun _ => rfl, harmless⟩, And.right⟩
            | true =>
                rw [stops fun safe => absurd (safe.2 isNotice) (by decide)]
                refine iff_of_false (by simp) fun harmless => ?_
                exact absurd (harmless.1 (by simp)) (by decide)

end Line

/-- A channel with nobody on it, and a client. -/
def connectedRelay : Relay := ⟨.start .initial, connectedState, []⟩

/-- A line, when the radio is ready and the client takes everything. -/
def hearLine (line : String) : RelayEvent :=
  ⟨.reader (.line (ascii line)), .simReady, ⟨4, 7, []⟩, emptyMemory⟩

/-- A connection is announced, and then a registration. -/
def connectedThenRegistered : List RelayEvent :=
  [⟨.atOpen 3 [] true, .simReady, ⟨4, 7, []⟩, emptyMemory⟩, hearLine "^DCONN:1,\"IPV4\"",
    hearLine "+CREG: 1"]

end RildHisi.Daemon
