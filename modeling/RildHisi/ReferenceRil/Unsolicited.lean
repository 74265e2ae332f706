import RildHisi.AtChannel.Interleaving
import RildHisi.ReferenceRil.Handlers

/-!
Owns the unsolicited lines: `onUnsolicited` of reference-ril.c behind the reader loop of
the AT channel, line by line, with the two lines of an incoming message.

The reader may find the channel in any state. What it makes of a message depends on
`isSMSUnsolicited`, whose loop is compiled out.
-/

namespace RildHisi.ReferenceRil

open RildHisi.AtChannel RildHisi.Library RildHisi.Libril

/-! ### onUnsolicited -/

/-- `RIL_onUnsolicitedResponse (code, sms_pdu, strlen(sms_pdu))`. -/
def smsResponse (code : Word) (smsPdu : CString) : Effect :=
  .onUnsolicitedResponse code (.string smsPdu) smsPdu.length

/-- `onUnsolicited` with what its read of `sState` sees: the calls it makes, or none where it
reads through a NULL `sms_pdu`. -/
def onUnsolicited (abi : Abi) (sState : RadioState) (s : CString) (smsPdu : Option CString) :
    Option (List Effect) :=
  -- ignore unsolicited responses until we're initialized
  if sState = .unavailable then some []
  else if strStartsWith s (ascii "^DCONN:") then
    some [.onUnsolicitedResponse rilUnsolNdisDial (.strings [some s]) abi.ptrSize]
  else if strStartsWith s (ascii "%CTZV:") then
    match atTokNextstr (atTokStart (some s)).pCur none with
    | ⟨0, _, some response⟩ =>
        some [.onUnsolicitedResponse rilUnsolNitzTimeReceived (.string response) response.length]
    | _ => some []
  else if strStartsWith s (ascii "+CRING:") || strStartsWith s (ascii "RING") ||
      strStartsWith s (ascii "NO CARRIER") || strStartsWith s (ascii "+CCWA") then
    some [.onUnsolicitedResponse rilUnsolResponseCallStateChanged .null 0]
  else if strStartsWith s (ascii "+CREG:") || strStartsWith s (ascii "+CGREG:") then
    some [.onUnsolicitedResponse rilUnsolResponseNetworkStateChanged .null 0]
  else if strStartsWith s (ascii "+CMT:") then
    smsPdu.map fun smsPdu => [smsResponse rilUnsolResponseNewSms smsPdu]
  else if strStartsWith s (ascii "+CDS:") then
    smsPdu.map fun smsPdu => [smsResponse rilUnsolResponseNewSmsStatusReport smsPdu]
  else if strStartsWith s (ascii "+CGEV:") then some [.requestDataCallList]
  else if strStartsWith s (ascii "%CDCONN:") then
    smsPdu.map fun smsPdu => [smsResponse rilUnsolNdisDial smsPdu]
  else some []

/-- What the callbacks of the channel come to, in order. -/
def deliver (abi : Abi) (sState : RadioState) : List Callback → Option (List Effect)
  | [] => some []
  | .unsolicited s smsPdu :: callbacks => do
      let first ← onUnsolicited abi sState s smsPdu
      let rest ← deliver abi sState callbacks
      pure (first ++ rest)
  | _ :: callbacks => deliver abi sState callbacks

/-! ### The reader loop, line by line -/

/-- The first line of the two-line messages `onUnsolicited` knows. -/
def isSmsHeader (line : CString) : Bool :=
  strStartsWith line (ascii "+CMT:") || strStartsWith line (ascii "+CDS:")

/-- The response a message is to be told with. -/
def smsCode (header : CString) : Word :=
  if strStartsWith header (ascii "+CMT:") then rilUnsolResponseNewSms
  else rilUnsolResponseNewSmsStatusReport

/-- The threads around the channel, the first line `readerLoop` has put aside, the calls
`onUnsolicited` has made, and whether it has read through NULL. `header` is the line just
read if it is the header of a message: the next line is the PDU. -/
structure Reception where
  threads : Threads
  line1 : Option CString
  told : List Effect
  crashed : Bool
  header : Option CString

def Reception.start (threads : Threads) : Reception := ⟨threads, none, [], false, none⟩

/-- A step of a thread, and what `onUnsolicited` sees in `sState` if the step calls it. -/
abbrev ReceptionEvent := ThreadEvent × RadioState

namespace Reception

/-- `readerLoop` with its next line. -/
def readLine (s : Reception) (line : CString) : Option (Threads × Option CString) :=
  match s.line1 with
  | some line1 =>
      some ({ s.threads with channel := s.threads.channel.callUnsolHandler line1 (some line) }, none)
  | none =>
      if isSmsUnsolicited line then some (s.threads, some line)
      else (s.threads.step (.reader (.line line))).map (·, none)

/-- Only the reader loop calls the handler for unsolicited lines. Nothing runs behind a read
through NULL. -/
def step (abi : Abi) (s : Reception) (event : ReceptionEvent) : Option Reception :=
  if s.crashed then none
  else match event.1 with
    | .reader (.line line) =>
        (s.readLine line).map fun (threads, line1) =>
          let calls := threads.channel.callbacks.drop s.threads.channel.callbacks.length
          let header := if s.header.isNone && isSmsHeader line then some line else none
          match deliver abi event.2 calls with
          | none => ⟨threads, line1, s.told, true, header⟩
          | some effects => ⟨threads, line1, s.told ++ effects, false, header⟩
    | other => (s.threads.step other).map fun threads => { s with threads := threads }

end Reception

/-! ### Lines that reach the handler -/

/-- The type switch looks at `s_responsePrefix`. -/
def readsPrefix (chan : Channel) (response : AtResponse) : Bool :=
  chan.sType == .multiline || chan.sType == .singleline && response.pIntermediates.isEmpty

/-- The line goes to the handler: one is set, and no pending command takes the line or
fails on a NULL `s_responsePrefix`. -/
def handsOver (chan : Channel) (line : CString) : Bool :=
  chan.sUnsolHandler && chan.spResponse.all fun response =>
    !chan.takes response line && !(readsPrefix chan response && chan.sResponsePrefix.isNone)

theorem callbacks_handleUnsolicited (chan : Channel) (line : CString) :
    (chan.handleUnsolicited line).callbacks =
      chan.callbacks ++ if chan.sUnsolHandler then [.unsolicited line none] else [] := by
  unfold Channel.handleUnsolicited Channel.callUnsolHandler
  split_ifs <;> simp

/-- Behind the checks for a final response and the prompt, a line is added or handed
over, unless the prefix is missing. -/
theorem processLine_switched {chan : Channel} {response : AtResponse} {line : CString}
    (pending : chan.spResponse = some response) (unfinished : isFinalResponse line = false)
    (noPrompt : (chan.sSmsPdu.isSome && line == smsPrompt) = false) :
    chan.processLine line =
      if readsPrefix chan response && chan.sResponsePrefix.isNone then none
      else some (if keeps chan.sType chan.sResponsePrefix response.pIntermediates line then
        chan.addIntermediate response line else chan.handleUnsolicited line) := by
  obtain ⟨noSuccess, noError⟩ := Bool.or_eq_false_iff.mp unfinished
  simp only [Channel.processLine, pending, noSuccess, noError, noPrompt, Bool.false_eq_true,
    if_false]
  cases type : chan.sType with
  | noResult => simp [readsPrefix, type, keeps, isIntermediate]
  | numeric =>
      by_cases empty : response.pIntermediates = [] <;>
        by_cases digit : startsWithDigit line <;>
          simp [readsPrefix, type, keeps, isIntermediate, empty, digit]
  | singleline =>
      cases start : chan.sResponsePrefix <;> by_cases empty : response.pIntermediates = [] <;>
        simp [readsPrefix, type, keeps, isIntermediate, empty, strStartsWith_eq_isPrefixOf]
  | multiline =>
      cases start : chan.sResponsePrefix <;>
        simp [readsPrefix, type, keeps, isIntermediate, strStartsWith_eq_isPrefixOf]

/-- A line the channel processes is handed over with no second line, or not at all. -/
theorem processLine_callbacks {chan next : Channel} {line : CString}
    (stepped : chan.processLine line = some next) :
    next.callbacks =
      chan.callbacks ++ if handsOver chan line then [.unsolicited line none] else [] := by
  cases pending : chan.spResponse with
  | none =>
      have handed : handsOver chan line = chan.sUnsolHandler := by simp [handsOver, pending]
      rw [handed, ← callbacks_handleUnsolicited]
      simp only [Channel.processLine, pending, Option.some.injEq] at stepped
      rw [stepped]
  | some response =>
      by_cases closing : (isFinalResponse line ||
          (chan.sSmsPdu.isSome && line == smsPrompt)) = true
      · have taken : chan.takes response line = true := by rw [Channel.takes, closing]; rfl
        have kept : handsOver chan line = false := by simp [handsOver, pending, taken]
        rw [kept, Channel.processLine_closing pending closing stepped]
        simp
      · simp only [Bool.not_eq_true, Bool.or_eq_false_iff] at closing
        obtain ⟨unfinished, noPrompt⟩ := closing
        have taken : chan.takes response line =
            keeps chan.sType chan.sResponsePrefix response.pIntermediates line := by
          rw [Channel.takes, unfinished, noPrompt, Bool.false_or, Bool.false_or]
        rw [processLine_switched pending unfinished noPrompt] at stepped
        obtain ⟨present, shape⟩ := Option.ite_none_left_eq_some.mp stepped
        have handed : handsOver chan line = (chan.sUnsolHandler && !chan.takes response line) := by
          rw [handsOver, pending, Option.all_some, Bool.eq_false_iff.mpr present,
            Bool.not_false, Bool.and_true]
        rw [← Option.some.inj shape, handed, taken]
        split_ifs with kept here here
        · simp [kept] at here
        · simp [Channel.addIntermediate]
        · rw [callbacks_handleUnsolicited, if_pos (Bool.and_eq_true_iff.mp here).1]
        · rw [callbacks_handleUnsolicited, if_neg (by simpa [kept] using here)]

theorem handsOver_of_processLine_eq_none {chan : Channel} {line : CString}
    (failed : chan.processLine line = none) : handsOver chan line = false := by
  cases pending : chan.spResponse with
  | none => simp [Channel.processLine, pending] at failed
  | some response =>
      by_contra handed
      rw [Bool.not_eq_false, handsOver, pending, Option.all_some] at handed
      obtain ⟨-, both⟩ := Bool.and_eq_true_iff.mp handed
      obtain ⟨passed, present⟩ := Bool.and_eq_true_iff.mp both
      simp only [Bool.not_eq_true', Channel.takes, Bool.or_eq_false_iff] at passed
      obtain ⟨⟨unfinished, noPrompt⟩, -⟩ := passed
      have absent := (Bool.not_eq_true' _).mp present
      rw [processLine_switched pending unfinished noPrompt, absent] at failed
      cases failed

theorem callbacks_step_line {s s' : Threads} {line : CString}
    (stepped : s.step (.reader (.line line)) = some s') :
    s'.channel.callbacks =
      s.channel.callbacks ++ if handsOver s.channel line then [.unsolicited line none] else [] := by
  obtain ⟨-, ⟨next, processed, rfl⟩ | ⟨processed, rfl⟩⟩ := Threads.step_reader stepped
  · exact processLine_callbacks processed
  · rw [handsOver_of_processLine_eq_none processed]
    exact (List.append_nil _).symm

/-! ### What one line comes to -/

/-- `onUnsolicited` reads `sms_pdu` on the line. -/
def readsSmsPdu (line : CString) : Bool :=
  isSmsHeader line || strStartsWith line (ascii "%CDCONN:")

def isSmsResponse : Effect → Bool
  | .onUnsolicitedResponse code _ _ =>
      code == rilUnsolResponseNewSms || code == rilUnsolResponseNewSmsStatusReport
  | _ => false

/-- The messages among the calls of `onUnsolicited`. -/
def smsTold (told : List Effect) : List Effect := told.filter isSmsResponse

/-- A line does not start with two strings that differ within the shorter one. -/
theorem strStartsWith_other {line first second : CString}
    (starts : strStartsWith line first = true) (apart : ¬ first <+: second ∧ ¬ second <+: first) :
    strStartsWith line second = false := by
  by_contra also
  rw [Bool.not_eq_false, strStartsWith_iff] at also
  rcases List.prefix_or_prefix_of_prefix ((strStartsWith_iff _ _).mp starts) also with short | long
  · exact apart.1 short
  · exact apart.2 long

/-- The other lines `onUnsolicited` knows. -/
def otherUnsolicited : List CString :=
  [ascii "^DCONN:", ascii "%CTZV:", ascii "+CRING:", ascii "RING", ascii "NO CARRIER",
    ascii "+CCWA", ascii "+CREG:", ascii "+CGREG:", ascii "+CGEV:"]

theorem otherUnsolicited_apart :
    ∀ start ∈ [ascii "+CMT:", ascii "+CDS:", ascii "%CDCONN:"], ∀ other ∈ otherUnsolicited,
      ¬ start <+: other ∧ ¬ other <+: start := by
  decide

/-- Once the radio is initialized, a line that needs a second one fails without it. -/
theorem onUnsolicited_none_of_readsSmsPdu (abi : Abi) {sState : RadioState} {line : CString}
    (initialized : sState ≠ .unavailable) (reads : readsSmsPdu line = true) :
    onUnsolicited abi sState line none = none := by
  have others : ∀ other ∈ otherUnsolicited, strStartsWith line other = false := by
    simp only [readsSmsPdu, isSmsHeader, Bool.or_eq_true] at reads
    intro other member
    rcases reads with (cmt | cds) | cdconn
    · exact strStartsWith_other cmt (otherUnsolicited_apart _ (by simp) other member)
    · exact strStartsWith_other cds (otherUnsolicited_apart _ (by simp) other member)
    · exact strStartsWith_other cdconn (otherUnsolicited_apart _ (by simp) other member)
  simp only [otherUnsolicited, List.forall_mem_cons] at others
  by_cases cmt : strStartsWith line (ascii "+CMT:") = true
  · simp [onUnsolicited, initialized, others, cmt]
  by_cases cds : strStartsWith line (ascii "+CDS:") = true
  · simp [onUnsolicited, initialized, others, cds]
  have cdconn : strStartsWith line (ascii "%CDCONN:") = true := by
    simpa [readsSmsPdu, isSmsHeader, cmt, cds] using reads
  simp [onUnsolicited, initialized, others, cdconn]

/-- The other lines tell of no message. -/
theorem onUnsolicited_none_of_not_readsSmsPdu (abi : Abi) (sState : RadioState) {line : CString}
    (reads : readsSmsPdu line = false) :
    ∃ effects, onUnsolicited abi sState line none = some effects ∧ smsTold effects = [] := by
  simp only [readsSmsPdu, isSmsHeader, Bool.or_eq_false_iff] at reads
  obtain ⟨⟨cmt, cds⟩, cdconn⟩ := reads
  simp only [onUnsolicited, cmt, cds, cdconn, Bool.false_eq_true, if_false]
  split_ifs with unavailable dconn time call network gprs
  · exact ⟨_, rfl, rfl⟩
  · exact ⟨_, rfl, rfl⟩
  · split <;> exact ⟨_, rfl, rfl⟩
  · exact ⟨_, rfl, rfl⟩
  · exact ⟨_, rfl, rfl⟩
  · exact ⟨_, rfl, rfl⟩
  · exact ⟨_, rfl, rfl⟩

/-- The handler, or nothing, is called for one line. -/
theorem deliver_line (abi : Abi) (sState : RadioState) (line : CString) (handed : Bool) :
    deliver abi sState (if handed then [.unsolicited line none] else []) =
      if handed then onUnsolicited abi sState line none else some [] := by
  cases handed with
  | false => rfl
  | true => simp [deliver]

/-- The line reaches `onUnsolicited` on a branch that reads `sms_pdu`. -/
def failsOnSmsPdu (chan : Channel) (sState : RadioState) (line : CString) : Bool :=
  handsOver chan line && readsSmsPdu line && sState != .unavailable

/-- What a line without a second one comes to. -/
theorem deliver_handsOver (abi : Abi) (chan : Channel) (sState : RadioState) (line : CString) :
    (failsOnSmsPdu chan sState line = true ∧
      deliver abi sState (if handsOver chan line then [.unsolicited line none] else []) = none) ∨
    failsOnSmsPdu chan sState line = false ∧ ∃ effects, smsTold effects = [] ∧
      deliver abi sState (if handsOver chan line then [.unsolicited line none] else []) =
        some effects := by
  rw [deliver_line]
  cases handed : handsOver chan line with
  | false => exact Or.inr ⟨by simp [failsOnSmsPdu, handed], [], rfl, rfl⟩
  | true =>
      rw [if_pos rfl]
      by_cases unavailable : sState = .unavailable
      · exact Or.inr ⟨by simp [failsOnSmsPdu, unavailable], [], rfl,
          by rw [onUnsolicited, if_pos unavailable]⟩
      cases reads : readsSmsPdu line with
      | true =>
          exact Or.inl ⟨by simp [failsOnSmsPdu, handed, reads, unavailable],
            onUnsolicited_none_of_readsSmsPdu abi unavailable reads⟩
      | false =>
          obtain ⟨effects, returned, untold⟩ :=
            onUnsolicited_none_of_not_readsSmsPdu abi sState reads
          exact Or.inr ⟨by simp [failsOnSmsPdu, reads], effects, untold, returned⟩

namespace Reception

/-- **A line by itself.** The reader never keeps a line back, `onUnsolicited` tells of no
message, and it fails exactly on the lines above. -/
theorem step_line {abi : Abi} {sState : RadioState} {s s' : Reception} {line : CString}
    (alone : s.line1 = none) (stepped : s.step abi (.reader (.line line), sState) = some s') :
    s'.line1 = none ∧ s'.crashed = failsOnSmsPdu s.threads.channel sState line ∧
      smsTold s'.told = smsTold s.told := by
  unfold step at stepped
  split_ifs at stepped with crashed
  obtain ⟨⟨threads, line1⟩, read, shape⟩ := Option.map_eq_some_iff.mp stepped
  rw [readLine, alone, isSmsUnsolicited] at read
  obtain ⟨ran, rfl⟩ : s.threads.step (.reader (.line line)) = some threads ∧ none = line1 := by
    simpa using read
  have calls := callbacks_step_line ran
  simp only [calls, List.drop_left] at shape
  rcases deliver_handsOver abi s.threads.channel sState line with
    ⟨fails, crashes⟩ | ⟨passes, effects, untold, told⟩
  · rw [crashes] at shape
    subst shape
    exact ⟨rfl, fails.symm, rfl⟩
  · rw [told] at shape
    subst shape
    refine ⟨rfl, passes.symm, ?_⟩
    change smsTold (s.told ++ effects) = smsTold s.told
    rw [smsTold, List.filter_append, ← smsTold, ← smsTold, untold, List.append_nil]

/-- The line of a step of the reader. -/
def lineOf : ThreadEvent → Option CString
  | .reader (.line line) => some line
  | _ => none

/-- The other steps call nothing. -/
theorem step_other {abi : Abi} {sState : RadioState} {s s' : Reception} {event : ThreadEvent}
    (other : lineOf event = none) (stepped : s.step abi (event, sState) = some s') :
    s'.line1 = s.line1 ∧ s'.crashed = false ∧ smsTold s'.told = smsTold s.told := by
  unfold step at stepped
  split_ifs at stepped with crashed
  have moved : ∃ threads, { s with threads := threads } = s' := by
    cases event with
    | reader event =>
        cases event with
        | line line => cases other
        | readerClosed =>
            obtain ⟨threads, -, shape⟩ := Option.map_eq_some_iff.mp stepped
            exact ⟨threads, shape⟩
        | closed =>
            obtain ⟨threads, -, shape⟩ := Option.map_eq_some_iff.mp stepped
            exact ⟨threads, shape⟩
    | _ =>
        obtain ⟨threads, -, shape⟩ := Option.map_eq_some_iff.mp stepped
        exact ⟨threads, shape⟩
  obtain ⟨threads, rfl⟩ := moved
  exact ⟨rfl, by simpa using crashed, rfl⟩

theorem lineOf_eq_some {event : ThreadEvent} {line : CString} (read : lineOf event = some line) :
    event = .reader (.line line) := by
  cases event with
  | reader event =>
      cases event with
      | line text => rw [Option.some.inj read]
      | _ => cases read
  | _ => cases read

theorem line1_step {abi : Abi} {s s' : Reception} {event : ReceptionEvent}
    (alone : s.line1 = none) (stepped : s.step abi event = some s') : s'.line1 = none := by
  obtain ⟨event, sState⟩ := event
  cases read : lineOf event with
  | none => exact (step_other read stepped).1.trans alone
  | some line =>
      obtain rfl := lineOf_eq_some read
      exact (step_line alone stepped).1

/-- What a message with its header and its PDU line is to come to. -/
structure Told (s s' : Reception) (header pdu : CString) : Prop where
  told : smsTold s'.told = smsTold s.told ++ [smsResponse (smsCode header) pdu]
  pending : s'.threads.channel.spResponse = s.threads.channel.spResponse
  callbacks : .unsolicited pdu none ∉
    s'.threads.channel.callbacks.drop s.threads.channel.callbacks.length

/-- A step behind which `onUnsolicited` has not failed, and has told of exactly the message
that the step completes. -/
def Delivers (abi : Abi) (s : Reception) (event : ReceptionEvent) : Prop :=
  ∀ s', s.step abi event = some s' → s'.crashed = false ∧
    match lineOf event.1, s.header with
    | some pdu, some header => Told s s' header pdu
    | _, _ => smsTold s'.told = smsTold s.told

/-- A line is neither the second one of a message nor fails in `onUnsolicited`. -/
def NoSms (s : Reception) (event : ReceptionEvent) : Prop :=
  ∀ line, lineOf event.1 = some line →
    s.header = none ∧ failsOnSmsPdu s.threads.channel event.2 line = false

instance (s : Reception) (event : ReceptionEvent) : Decidable (NoSms s event) :=
  inferInstanceAs (Decidable (∀ line ∈ lineOf event.1,
    s.header = none ∧ failsOnSmsPdu s.threads.channel event.2 line = false))

theorem noSms_iff_delivers {abi : Abi} {s s' : Reception} {event : ReceptionEvent}
    (alone : s.line1 = none) (stepped : s.step abi event = some s') :
    NoSms s event ↔ Delivers abi s event := by
  obtain ⟨event, sState⟩ := event
  simp only [Delivers, NoSms, stepped, Option.some.injEq, forall_eq']
  cases read : lineOf event with
  | none =>
      obtain ⟨-, intact, untold⟩ := step_other read stepped
      simp [intact, untold]
  | some line =>
      obtain rfl := lineOf_eq_some read
      obtain ⟨-, fails, untold⟩ := step_line alone stepped
      cases first : s.header with
      | none => simp [fails, untold]
      | some header =>
          -- the second line tells of no message either
          have never : ¬ Told s s' header line := fun told => by
            have grown := told.told
            rw [untold] at grown
            exact absurd grown (by simp)
          simp [never]

end Reception

/-- **No message is delivered.** Whatever the modem sends, in whatever state of the channel,
the messages are told and no NULL PDU is read exactly as long as there is no message: no
header is followed by a further line, and the handler is called on none of the lines that
have a second one. -/
theorem messages_delivered_iff (abi : Abi) (threads : Threads) (events : List ReceptionEvent)
    {s : Reception} (ran : run (Reception.step abi) (.start threads) events = some s) :
    StepsMeet (Reception.step abi) (Reception.Delivers abi) (.start threads) events ↔
      StepsMeet (Reception.step abi) Reception.NoSms (.start threads) events :=
  (stepsMeet_congr (fun _ _ _ alone stepped => Reception.line1_step alone stepped)
    (fun _ _ _ alone stepped => Reception.noSms_iff_delivers alone stepped) rfl ran).symm

/-- An open channel with a handler, on a radio that is ready. -/
def openChannel : ReceptionEvent := (.atOpen 3 [] true, .simReady)

def readerLine (line : String) : ReceptionEvent := (.reader (.line (ascii line)), .simReady)

/-- Lines without a message, with `AT+CSQ` pending. -/
theorem signalLines_delivered :
    ∃ s, run (Reception.step .lp64) (.start .initial)
        [openChannel, (.send 1 false signalCommand, .simReady), readerLine "RING",
          readerLine "+CSQ: 20,0", readerLine "+CREG: 1", readerLine "OK"] = some s ∧
      StepsMeet (Reception.step .lp64) (Reception.Delivers .lp64) (.start .initial)
        [openChannel, (.send 1 false signalCommand, .simReady), readerLine "RING",
          readerLine "+CSQ: 20,0", readerLine "+CREG: 1", readerLine "OK"] := by
  have finishes : (run (Reception.step .lp64) (.start .initial)
      [openChannel, (.send 1 false signalCommand, .simReady), readerLine "RING",
        readerLine "+CSQ: 20,0", readerLine "+CREG: 1", readerLine "OK"]).isSome = true := by
    decide +kernel
  obtain ⟨s, ran⟩ := Option.isSome_iff_exists.mp finishes
  exact ⟨s, ran, (messages_delivered_iff .lp64 .initial _ ran).mpr (by decide +kernel)⟩

/-- **A message.** The header of a message reaches `onUnsolicited` without its PDU line,
which is read through NULL. -/
theorem incomingMessage_fails :
    ¬ (∀ events s, run (Reception.step .lp64) (.start .initial) events = some s →
      StepsMeet (Reception.step .lp64) (Reception.Delivers .lp64) (.start .initial) events) ∧
    (run (Reception.step .lp64) (.start .initial) [openChannel, readerLine "+CMT: ,24"]).map
      (·.crashed) = some true := by
  have fails : (run (Reception.step .lp64) (.start .initial)
      [openChannel, readerLine "+CMT: ,24"]).map (·.crashed) = some true := by decide +kernel
  refine ⟨fun claim => ?_, fails⟩
  obtain ⟨s, ran, crashed⟩ := Option.map_eq_some_iff.mp fails
  have kept : ∀ s event s', s.crashed = false → Reception.Delivers .lp64 s event →
      Reception.step .lp64 s event = some s' → s'.crashed = false :=
    fun _ _ s' _ delivers stepped => (delivers s' stepped).1
  have intact := run_invariant_of_stepsMeet kept rfl (claim _ s ran) ran
  exact absurd (crashed.symm.trans intact) (by decide)

end RildHisi.ReferenceRil
