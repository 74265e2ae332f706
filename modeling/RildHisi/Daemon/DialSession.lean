import RildHisi.Daemon.Serving
import RildHisi.Daemon.LiveModem
import RildHisi.ReferenceRil.FieldArrays
import RildHisi.ReferenceRil.IntegerTokens
import RildHisi.RilTest.DialClient

/-!
Owns a session of rldial with the daemon and its modem: what each of its calls puts on the
modem's wire, and what comes back for the address.

The radio is on, and the modem takes every write and answers every command.
-/

namespace RildHisi.Daemon

open RildHisi.AtChannel RildHisi.Library RildHisi.Libril RildHisi.ReferenceRil RildHisi.RilTest
open RildHisi.ReferenceRil.Handler

/-! ### Runs with a live modem, step by step -/

section Steps

variable {α : Type} {chan : Channel} {environment : Environment}

/-- A program that sends no command. -/
def Silent (handler : Handler α) : Prop := handler.Within (fun _ => False) fun _ => True

theorem Silent.exchanges {handler : Handler α} (silent : Silent handler) :
    (runOn handler chan environment).exchanges = [] ∧
      (runOn handler chan environment).chan = chan := by
  induction handler generalizing chan environment with
  | done result => exact ⟨rfl, rfl⟩
  | fault cause => exact ⟨rfl, rfl⟩
  | send command next inductionHypothesis => exact absurd silent.1 not_false
  | readState next inductionHypothesis => exact inductionHypothesis _ (silent _)
  | openQmi next inductionHypothesis => exact inductionHypothesis _ (silent _)
  | complete completion next inductionHypothesis => exact inductionHypothesis silent.2
  | perform effect next inductionHypothesis => exact inductionHypothesis silent

theorem silent_complete (t : Nat) (e : Word) (response : ResponseData) (responselen : Nat) :
    Silent (rilOnRequestComplete t e response responselen) := ⟨trivial, trivial⟩

theorem silent_failedTwice (t : Nat) : Silent (do genericFailure t; genericFailure t) :=
  (silent_complete t _ _ _).bind fun _ => silent_complete t _ _ _

theorem silent_completeWithFields (abi : Abi) (t : Nat) (line : CString) :
    Silent (completeWithFields abi t line) := by
  unfold completeWithFields
  cases lineFields line <;> trivial

/-- A command to a live modem, and what is behind it. -/
theorem Live.runOn_send (live : Live chan) {command : Command} (untimed : Untimed command)
    {before : List CString} {reply : Reply} (brings : Brings (environment.commands 0) before reply)
    (next : AtResult → Handler α) :
    ∃ after, Live after ∧
      runOn (.send command next) chan environment =
        (runOn (next (reply.result command)) after environment.answered).exchanged command
          (reply.result command) := by
  obtain ⟨after, response, sent, result, liveAfter, -⟩ := live.send untimed brings
  refine ⟨after, liveAfter, ?_⟩
  rw [← result]
  conv_lhs => unfold runOn
  rw [sent]

/-- The radio is on where `onRequest` looks. -/
def Environment.RadioOn (environment : Environment) : Prop :=
  environment.states 0 ≠ .unavailable ∧ environment.states 1 ≠ .off

theorem runOn_onRequest (on : environment.RadioOn) (abi : Abi) (call : OnRequest) :
    runOn (onRequest abi call) chan environment =
      runOn (switchRequest abi call) chan environment.looked.looked := by
  have first : ¬ (environment.states 0 = .unavailable ∧ call.request ≠ .getSimStatus) :=
    fun both => on.1 both.1
  have second : ¬ (environment.looked.states 0 = .off ∧
      ¬ (call.request = .radioPower ∨ call.request = .getSimStatus)) := fun both => on.2 both.1
  unfold onRequest
  rw [runOn, if_neg first, runOn, if_neg second]

theorem Live.exchanges_send (live : Live chan) {command : Command} (untimed : Untimed command)
    {before : List CString} {reply : Reply} (brings : Brings (environment.commands 0) before reply)
    {next : AtResult → Handler α} (silent : Silent (next (reply.result command))) :
    (runOn (.send command next) chan environment).exchanges =
      [(command, reply.result command)] := by
  obtain ⟨after, -, same⟩ := live.runOn_send untimed brings next
  rw [same]
  exact congrArg (_ :: ·) silent.exchanges.1

end Steps

/-! ### The commands of a call -/

/-- Command lines on the wire. -/
def wire (commands : List CString) : List UInt8 := commands.flatMap (· ++ [13])

theorem Modem.written_wire (modem : Modem) {exchanges : List (Command × AtResult)}
    (noPdu : ∀ exchange ∈ exchanges, exchange.1.smspdu = none) :
    modem.written exchanges = wire (exchanges.map fun exchange => exchange.1.command) := by
  induction exchanges generalizing modem with
  | nil => rfl
  | cons exchange exchanges inductionHypothesis =>
      have behind := inductionHypothesis modem.answered
        fun later member => noPdu later (List.mem_cons_of_mem _ member)
      have first : (modem.replies 0).written exchange.1 = exchange.1.command ++ [13] := by
        unfold Reply.written pduBytes
        rw [noPdu exchange List.mem_cons_self]
        simp
      unfold Modem.written
      rw [first, behind]
      rfl

/-- `at_send_command_singleline`. -/
def singleline (command responsePrefix : CString) : Command :=
  ⟨command, .singleline, some responsePrefix, none, 0, true⟩

/-- The reply is a success without the line that the command is for. -/
def Reply.lacksLine (reply : Reply) (command : Command) : Bool :=
  (reply.response command).success && (reply.response command).pIntermediates.isEmpty

/-- What a call puts on the wire. `requestPsCsStat` asks a second time where the line is
missing. -/
def dialCommands (modem : Modem) : DialCall → List CString
  | .psBind =>
      if (modem.replies 0).lacksLine (singleline (ascii "AT^CGCATT?") (ascii "^CGCATT:")) then
        [ascii "AT^CGCATT?", ascii "AT^CGCATT?"]
      else [ascii "AT^CGCATT?"]
  | .apnConnect pdpid connect apnname =>
      (apnArgs pdpid connect apnname).toList.map (ascii "AT^NDISDUP" ++ ·)
  | .getPdpAddr => [ascii "AT+CGPADDR"]
  | .getDhcpInfo => [ascii "AT^DHCP?"]

section Commands

variable {chan : Channel} {environment : Environment} {modem : Modem}

/-- The commands of a run are these, without a PDU. -/
def Sends (run : HandlerRun Unit) (commands : List CString) : Prop :=
  (run.exchanges.map fun exchange => exchange.1.command) = commands ∧
    ∀ exchange ∈ run.exchanges, exchange.1.smspdu = none

theorem sends_one {run : HandlerRun Unit} {command : Command} {result : AtResult}
    (same : run.exchanges = [(command, result)]) (noPdu : command.smspdu = none) :
    Sends run [command.command] := by
  unfold Sends
  rw [same]
  exact ⟨rfl, List.forall_mem_singleton.mpr noPdu⟩

theorem untimed_singleline (command responsePrefix : CString) :
    Untimed (singleline command responsePrefix) := untimed_prefixed command responsePrefix _ _ _

/-- A singleline command to a live modem, and what is behind it. -/
theorem Live.runOn_singleline (live : Live chan) {before : List CString} {reply : Reply}
    (brings : Brings (environment.commands 0) before reply) (command responsePrefix : CString)
    (next : AtResult → Handler Unit) :
    ∃ after, Live after ∧
      runOn (atSendCommandSingleline command responsePrefix >>= next) chan environment =
        (runOn (next (reply.result (singleline command responsePrefix)).requireIntermediate) after
          environment.answered).exchanged (singleline command responsePrefix)
            (reply.result (singleline command responsePrefix)) :=
  live.runOn_send (untimed_singleline command responsePrefix) brings
    fun result => next result.requireIntermediate

theorem Sends.exchanged {run : HandlerRun Unit} {commands : List CString} {command : Command}
    (rest : Sends run commands) (noPdu : command.smspdu = none) (result : AtResult) :
    Sends (run.exchanged command result) (command.command :: commands) :=
  ⟨congrArg (_ :: ·) rest.1, List.forall_mem_cons.mpr ⟨noPdu, rest.2⟩⟩

theorem Silent.sends {handler : Handler Unit} (silent : Silent handler) :
    Sends (runOn handler chan environment) [] := by
  unfold Sends
  rw [silent.exchanges.1]
  exact ⟨rfl, by simp⟩

theorem singleline_sends (live : Live chan)
    (brings : ∀ n, Brings (environment.commands n) (modem.before n) (modem.replies n))
    (command responsePrefix : CString) {next : AtResult → Handler Unit}
    (silent : ∀ result, Silent (next result)) :
    Sends (runOn (atSendCommandSingleline command responsePrefix >>= next) chan environment)
      [command] := by
  obtain ⟨after, -, same⟩ := live.runOn_singleline (brings 0) command responsePrefix next
  rw [same]
  exact (silent _).sends.exchanged rfl _

theorem requestFields_sends (live : Live chan)
    (brings : ∀ n, Brings (environment.commands n) (modem.before n) (modem.replies n)) (abi : Abi)
    (t : Nat) (command responsePrefix : CString) :
    Sends (runOn (requestFields abi t command responsePrefix) chan environment) [command] := by
  refine singleline_sends live brings command responsePrefix fun result => ?_
  cases result.succeeded with
  | none => exact silent_failedTwice t
  | some response =>
      dsimp only
      cases response.pIntermediates.head? with
      | none => exact silent_complete t _ _ _
      | some line => exact silent_completeWithFields abi t line

theorem requestNdisDial_sends (live : Live chan)
    (brings : ∀ n, Brings (environment.commands n) (modem.before n) (modem.replies n)) (abi : Abi)
    (t : Nat) (args : CString) :
    Sends (runOn (requestNdisDial abi (.strings [some args]) abi.ptrSize t) chan environment)
      [ascii "AT^NDISDUP" ++ args] := by
  unfold requestNdisDial stringCommand
  rw [if_pos rfl]
  exact sends_one (live.exchanges_send (untimed_noResult _ false) (brings 0)
    (silent_complete t _ _ _)) rfl

/-- Where the line is missing, no response is left. -/
theorem requireIntermediate_reply (reply : Reply) (command responsePrefix : CString) :
    (reply.result (singleline command responsePrefix)).requireIntermediate.pResponse =
      if reply.lacksLine (singleline command responsePrefix) then none
      else some (reply.response (singleline command responsePrefix)) := by
  show (AtChannel.requireIntermediate 0 (some (reply.response _))).2 = _
  unfold AtChannel.requireIntermediate Reply.lacksLine
  by_cases lacks : ((reply.response (singleline command responsePrefix)).success &&
      (reply.response (singleline command responsePrefix)).pIntermediates.isEmpty) = true
  · simp [lacks]
  · simp [lacks]

/-- The command is sent again exactly where its line is missing. -/
theorem sendPsCsStat_sends (live : Live chan)
    (brings : ∀ n, Brings (environment.commands n) (modem.before n) (modem.replies n)) (abi : Abi)
    (t : Nat) (command : CString) :
    Sends (runOn (sendPsCsStat abi t command) chan environment)
      (if (modem.replies 0).lacksLine (singleline command (ascii "^CGCATT:")) then
        [command, command] else [command]) := by
  have left := requireIntermediate_reply (modem.replies 0) command (ascii "^CGCATT:")
  unfold sendPsCsStat
  obtain ⟨after, liveAfter, same⟩ := live.runOn_singleline (brings 0) command (ascii "^CGCATT:") _
  rw [same]
  generalize ((modem.replies 0).result _).requireIntermediate = result at left ⊢
  by_cases lacks : (modem.replies 0).lacksLine (singleline command (ascii "^CGCATT:")) = true
  · rw [if_pos lacks] at left ⊢
    simp only [left, Option.isNone_none, if_true]
    refine Sends.exchanged (sends_one (liveAfter.exchanges_send (untimed_noResult command true)
      (brings 1) ?_) rfl) rfl _
    exact .ite (.ite trivial (silent_complete t _ _ _)) (silent_complete t _ _ _)
  · rw [if_neg lacks] at left ⊢
    simp only [left, Option.isNone_some, Bool.false_eq_true, if_false]
    refine Sends.exchanged (Silent.sends ?_) rfl _
    cases result.succeeded with
    | none => exact silent_failedTwice t
    | some response =>
        exact (within_firstLine response).bind fun line => silent_completeWithFields abi t line

/-- **The commands of a call**, once its record has come through libril. -/
theorem dialCall_sends (live : Live chan) (on : environment.RadioOn)
    (brings : ∀ n, Brings (environment.commands n) (modem.before n) (modem.replies n)) (abi : Abi)
    (t : Nat) {call : DialCall} {record : DialRecord} (recorded : call.record = some record) :
    Sends (runOn (onRequest abi ⟨record.request, .strings (record.strings.map some),
      record.strings.length * abi.ptrSize, t⟩) chan environment) (dialCommands modem call) := by
  rw [runOn_onRequest on]
  have later : ∀ n, Brings (environment.looked.looked.commands n) (modem.before n)
      (modem.replies n) := brings
  have one : 1 * abi.ptrSize = abi.ptrSize := Nat.one_mul _
  cases call with
  | psBind =>
      obtain rfl := Option.some.inj recorded
      show Sends (runOn (requestPsCsStat abi (.strings [some (ascii "?")]) (1 * abi.ptrSize) t) _ _) _
      rw [one, requestPsCsStat, psCsStatCommand, if_pos rfl]
      exact sendPsCsStat_sends live later abi t (ascii "AT^CGCATT?")
  | apnConnect pdpid connect apnname =>
      obtain ⟨args, printed, rfl⟩ := Option.map_eq_some_iff.mp recorded
      show Sends (runOn (requestNdisDial abi (.strings [some args]) (1 * abi.ptrSize) t) _ _) _
      rw [one, dialCommands, printed]
      exact requestNdisDial_sends live later abi t args
  | getPdpAddr =>
      obtain rfl := Option.some.inj recorded
      have other : ¬ (0 * abi.ptrSize = abi.ptrSize) := by cases abi <;> decide
      show Sends (runOn (requestPdpAddr abi (.strings []) (0 * abi.ptrSize) t) _ _) _
      rw [requestPdpAddr, stringCommand, if_neg other]
      exact requestFields_sends live later abi t _ _
  | getDhcpInfo =>
      obtain rfl := Option.some.inj recorded
      show Sends (runOn (requestDhcpInfo abi (.strings [some (ascii "?")]) (1 * abi.ptrSize) t) _ _) _
      rw [one, requestDhcpInfo, stringCommand, if_pos rfl]
      exact requestFields_sends live later abi t _ _

end Commands

/-! ### Serving a call -/

section Serving

variable {P : Type} [Platform P] [TextPlatform P] {version : Nat}

theorem number_lt (request : RilRequest) : request.number < 109 := by
  cases request <;> decide

omit [TextPlatform P] in
/-- A record is accepted as the request that it is. -/
theorem requestOf_words (request : RilRequest) (token : Word) (payload : List UInt8)
    {pCI : CommandInfo} (known : commandInfo request.number = some pCI) :
    requestOf (wordBytes (BitVec.ofNat 32 request.number) ++ wordBytes token ++ payload) =
      some (pCI, token) := by
  have small := number_lt request
  have size : (BitVec.ofNat 32 request.number : Word).toNat = request.number := by
    rw [BitVec.toNat_ofNat]
    omega
  have signed : (BitVec.ofNat 32 request.number : Word).toInt = request.number := by
    rw [BitVec.toInt_eq_toNat_of_lt (by omega), size]
  have positive : request.number ≠ 0 := Nat.succ_ne_zero _
  have inRange : ¬ ((request.number : Int) < 1 ∨ (numCommands : Int) ≤ request.number) := by
    have count : numCommands = 109 := by decide
    omega
  have long : ¬ (wordBytes (BitVec.ofNat 32 request.number) ++ wordBytes token ++ payload).length <
      8 := by
    simp only [List.length_append, wordBytes_length]
    omega
  unfold requestOf
  rw [if_neg long, List.append_assoc, wordOfBytes_wordBytes, drop_wordBytes, wordOfBytes_wordBytes]
  dsimp only
  rw [signed, if_neg inRange, size, known]
  rfl

/-- The strings of a record are handed over to `onRequest`. -/
theorem dispatchCalls_strings {pCI : CommandInfo} (function : pCI.dispatchFunction = .dispatchStrings)
    {strings : List (Option CString)} (few : strings.length < 2 ^ 29)
    (wire : ∀ s ∈ strings, WireText s) (pRI : Nat) :
    dispatchCalls P version pRI pCI (stringsPayload (wideTexts P strings)) =
      [⟨pCI.requestNumber, .strings strings, strings.length * (Platform.abi P).ptrSize, pRI⟩] := by
  have length : (wideTexts P strings).length = strings.length := List.length_map ..
  unfold dispatchCalls
  rw [function]
  refine (dispatchStrings_stringsPayload (Platform.strndup16to8 P) (Platform.abi P)
    pCI.requestNumber pRI (length.trans_lt few) (short_wideTexts wire)).trans ?_
  rw [readTexts_wideTexts wire, length]

/-- The record of a call reaches `onRequest` as it is. -/
theorem record_dispatched {record : DialRecord} (plain : record.Plain)
    (few : record.strings.length < 2 ^ 29) {function : ResponseFunction}
    (known : commandInfo record.request.number =
      some ⟨record.request, .dispatchStrings, function⟩) (pRI : Nat) :
    requestOf (record.data P) = some (⟨record.request, .dispatchStrings, function⟩, record.token) ∧
      dispatchCalls P version pRI ⟨record.request, .dispatchStrings, function⟩
          ((record.data P).drop 8) =
        [⟨record.request, .strings (record.strings.map some),
          record.strings.length * (Platform.abi P).ptrSize, pRI⟩] := by
  have header := requestOf_words record.request record.token
    (stringsPayload (wideTexts P (record.strings.map some))) known
  have behindHeader : (wordBytes (BitVec.ofNat 32 record.request.number) ++
      wordBytes record.token ++ stringsPayload (wideTexts P (record.strings.map some))).drop 8 =
        stringsPayload (wideTexts P (record.strings.map some)) := List.drop_left' rfl
  rw [record.data_eq plain, behindHeader, dispatchCalls_strings rfl (by rwa [List.length_map])
    (record.plain_wireTexts plain), List.length_map]
  exact ⟨header, rfl⟩

omit [TextPlatform P] in
/-- What serving an accepted record comes to. -/
theorem serve_accepted [LawfulPlatform P] {rild : Rild} (reached : Reached P version rild.libril)
    {buffer : List UInt8} {pRI : Nat} (connected : 0 ≤ rild.libril.fdCommand)
    (fresh : rild.libril.Fresh pRI) {pCI : CommandInfo} {token : Word}
    (accepted : requestOf buffer = some (pCI, token)) {call : OnRequest}
    (calls : dispatchCalls P version pRI pCI (buffer.drop 8) = [call]) (environment : Environment)
    (moments : Nat → Moment) :
    let run := runOn (onRequest (Platform.abi P) call) rild.chan environment
    let behind := rild.serve P version buffer pRI environment moments
    behind.chan = run.chan ∧ behind.served = rild.served ++
      [⟨pCI, token, pRI, run.completions, moments 0,
        ((moments 0).messages.foldl Message.send
          (rild.libril.processCommandBuffer P version buffer pRI)).client⟩] ∧
      (run.ended = .done () → behind.serving = true) := by
  obtain ⟨-, -, -, -, called⟩ :=
    processCommandBuffer_queued reached connected fresh accepted
  rw [calls] at called
  unfold Rild.serve
  dsimp only
  rw [called, accepted]
  dsimp only [handle]
  cases (runOn (onRequest (Platform.abi P) call) rild.chan environment).ended with
  | done result => exact ⟨rfl, rfl, fun _ => rfl⟩
  | fault cause => exact ⟨rfl, rfl, by simp⟩
  | waiting => exact ⟨rfl, rfl, by simp⟩
  | crashed => exact ⟨rfl, rfl, by simp⟩

/-- A call of rldial that is served: the address of its `RequestInfo`, what its handler meets
and the moments of its completions. -/
structure DialTurn where
  call : DialCall
  pRI : Nat
  environment : Environment
  modem : Modem
  moments : Nat → Moment

namespace DialTurn

variable (turn : DialTurn)

/-- The record of the call, if it sends one. -/
def stimulus (P : Type) [Platform P] : Option Stimulus :=
  turn.call.record.map fun record =>
    .record (record.data P) turn.pRI turn.environment turn.moments

/-- The radio is on, the modem answers, the strings are ASCII and `apn_connect` prints no more
than `args` can hold. -/
structure Usual : Prop where
  on : turn.environment.RadioOn
  brings : ∀ n, Brings (turn.environment.commands n) (turn.modem.before n) (turn.modem.replies n)
  plain : ∀ record ∈ turn.call.record, record.Plain
  argsFit : turn.call.ArgsFit

end DialTurn

theorem commandInfo_record {call : DialCall} {record : DialRecord}
    (recorded : call.record = some record) :
    ∃ function, commandInfo record.request.number =
        some ⟨record.request, .dispatchStrings, function⟩ ∧ record.strings.length < 2 ^ 29 := by
  cases call with
  | psBind =>
      obtain rfl := Option.some.inj recorded
      exact ⟨.responseStrings, by decide, by decide⟩
  | apnConnect pdpid connect apnname =>
      obtain ⟨args, -, rfl⟩ := Option.map_eq_some_iff.mp recorded
      exact ⟨.responseVoid, rfl, show 1 < 2 ^ 29 by decide⟩
  | getPdpAddr =>
      obtain rfl := Option.some.inj recorded
      exact ⟨.responseStrings, by decide, by decide⟩
  | getDhcpInfo =>
      obtain rfl := Option.some.inj recorded
      exact ⟨.responseStrings, by decide, by decide⟩

/-- Serving a call. -/
theorem serve_dialTurn {rild : Rild} (reached : Reached P version rild.libril)
    (live : Live rild.chan) {turn : DialTurn} (usual : turn.Usual)
    (connected : 0 ≤ rild.libril.fdCommand) (fresh : rild.libril.Fresh turn.pRI)
    {record : DialRecord} (recorded : turn.call.record = some record) :
    let behind := rild.serve P version (record.data P) turn.pRI turn.environment turn.moments
    Live behind.chan ∧
      behind.chan.written = rild.chan.written ++ wire (dialCommands turn.modem turn.call) ∧
      (behind.served.map fun served => (served.pCI.requestNumber, served.token)) =
        (rild.served.map fun served => (served.pCI.requestNumber, served.token)) ++
          [(record.request, record.token)] := by
  obtain ⟨function, known, few⟩ := commandInfo_record recorded
  have plain := usual.plain record recorded
  obtain ⟨accepted, calls⟩ := record_dispatched (P := P) plain few known turn.pRI
  obtain ⟨chan, served, -⟩ :=
    serve_accepted reached connected fresh accepted calls turn.environment turn.moments
  have answered := runOn_answered (onRequest_within (Platform.abi P)
    ⟨record.request, .strings (record.strings.map some),
      record.strings.length * (Platform.abi P).ptrSize, turn.pRI⟩) live usual.brings
  have sends := dialCall_sends live usual.on usual.brings (Platform.abi P) turn.pRI recorded
  dsimp only
  rw [chan, served, answered.written, turn.modem.written_wire sends.2, sends.1, List.map_append]
  exact ⟨answered.live, rfl, rfl⟩

/-- A call that sends no record leads to no command. -/
theorem dialCommands_of_silent (modem : Modem) {call : DialCall} (silent : call.record = none) :
    dialCommands modem call = [] := by
  cases call with
  | apnConnect pdpid connect apnname =>
      have unprinted : apnArgs pdpid connect apnname = none := Option.map_eq_none_iff.mp silent
      rw [dialCommands, unprinted]
      rfl
  | psBind | getPdpAddr | getDhcpInfo => cases silent

theorem wire_append (first second : List CString) :
    wire (first ++ second) = wire first ++ wire second := List.flatMap_append ..

/-- What the calls send to the daemon. -/
def sentByCalls (P : Type) [Platform P] (turns : List DialTurn) : List UInt8 :=
  turns.flatMap fun turn =>
    turn.call.record.toList.flatMap fun record => (sendDataToRild (record.data P)).flatten

/-- It is one record of libril for each call. -/
theorem sentByCalls_records {turns : List DialTurn} (usual : ∀ turn ∈ turns, turn.Usual) :
    sentByCalls P turns =
        (turns.filterMap (·.call.record)).flatMap (fun record =>
          htonl (record.data P).length ++ record.data P) ∧
      ∀ record ∈ turns.filterMap (·.call.record), (record.data P).length ≤ maxCommandBytes := by
  have each : ∀ turn ∈ turns, ∀ record ∈ turn.call.record,
      (sendDataToRild (record.data P)).flatten = htonl (record.data P).length ++ record.data P ∧
        (record.data P).length ≤ maxCommandBytes := fun turn member record recorded =>
    DialCall.sendDataToRild_record (usual turn member).argsFit recorded
      ((usual turn member).plain record recorded)
  constructor
  · unfold sentByCalls
    induction turns with
    | nil => rfl
    | cons turn turns inductionHypothesis =>
        rw [List.flatMap_cons, inductionHypothesis
          (fun later member => usual later (List.mem_cons_of_mem _ member))
          fun later member => each later (List.mem_cons_of_mem _ member)]
        cases recorded : turn.call.record with
        | none =>
            rw [List.filterMap_cons, recorded]
            rfl
        | some record =>
            rw [List.filterMap_cons, recorded, List.flatMap_cons, Option.toList_some,
              List.flatMap_singleton, (each turn List.mem_cons_self record recorded).1]
  · intro record member
    obtain ⟨turn, inside, recorded⟩ := List.mem_filterMap.mp member
    exact (each turn inside record recorded).2

/-- **A session of rldial.** Whatever calls it makes that stay inside `args`, it sends one
record for each, the modem gets the commands of the calls, in order and nothing else, and the
daemon has served each call that sends a record under its request and its token. -/
theorem dialTurns_onWire {rild rild' : Rild} (accounted : Accounted P version rild)
    (live : Live rild.chan) {turns : List DialTurn} (usual : ∀ turn ∈ turns, turn.Usual)
    (ran : Library.run (rildStep P version) rild
      (turns.filterMap (DialTurn.stimulus · P)) = some rild') :
    sentByCalls P turns =
        (turns.filterMap (·.call.record)).flatMap (fun record =>
          htonl (record.data P).length ++ record.data P) ∧
      (∀ record ∈ turns.filterMap (·.call.record), (record.data P).length ≤ maxCommandBytes) ∧
      rild'.chan.written =
        rild.chan.written ++ wire (turns.flatMap fun turn => dialCommands turn.modem turn.call) ∧
      (rild'.served.map fun served => (served.pCI.requestNumber, served.token)) =
        (rild.served.map fun served => (served.pCI.requestNumber, served.token)) ++
          (turns.filterMap (·.call.record)).map fun record => (record.request, record.token) := by
  obtain ⟨sent, small⟩ := sentByCalls_records (P := P) usual
  refine ⟨sent, small, ?_⟩
  clear sent small
  induction turns generalizing rild with
  | nil =>
      obtain rfl : rild = rild' := Option.some.inj ran
      simp [wire]
  | cons turn turns inductionHypothesis =>
      have usualBehind : ∀ later ∈ turns, later.Usual :=
        fun later member => usual later (List.mem_cons_of_mem _ member)
      rw [List.flatMap_cons, wire_append]
      cases recorded : turn.call.record with
      | none =>
          have silent : turn.stimulus P = none := Option.map_eq_none_iff.mpr recorded
          rw [List.filterMap_cons, silent] at ran
          rw [List.filterMap_cons, recorded, dialCommands_of_silent turn.modem recorded]
          exact inductionHypothesis accounted live usualBehind ran
      | some record =>
          have sent : turn.stimulus P = some (.record (record.data P) turn.pRI turn.environment
              turn.moments) := by
            rw [DialTurn.stimulus, recorded]
            rfl
          rw [List.filterMap_cons, sent, Library.run_cons] at ran
          obtain ⟨between, stepped, rest⟩ := Option.bind_eq_some_iff.mp ran
          have accountedBetween := accounted.step stepped
          obtain ⟨⟨-, connected, fresh⟩, rfl⟩ := by
            simpa only [rildStep, Option.ite_none_right_eq_some, Option.some.injEq] using stepped
          obtain ⟨liveBetween, written, served⟩ := serve_dialTurn accounted.reached live
            (usual turn List.mem_cons_self) connected fresh recorded
          obtain ⟨writtenBehind, servedBehind⟩ :=
            inductionHypothesis accountedBetween liveBetween usualBehind rest
          rw [writtenBehind, servedBehind, written, served, List.filterMap_cons, recorded,
            List.append_assoc, List.append_assoc]
          exact ⟨rfl, rfl⟩

/-- The calls of `dial_up`, with a modem that never has the line they are for. -/
def dialUpTurns : List DialTurn :=
  dialUp.map fun call => ⟨call, 16, imeiEnvironment, imeiModem, fun _ => ⟨[], default, []⟩⟩

theorem usual_dialUpTurns : ∀ turn ∈ dialUpTurns, turn.Usual := by
  intro turn member
  obtain ⟨call, inside, rfl⟩ := List.mem_map.mp member
  have short : ∀ call ∈ dialUp, ∀ record ∈ call.record.toList, ∀ s ∈ record.strings,
      AsciiText s ∧ s.length < argsSize := by decide
  refine ⟨⟨RadioState.noConfusion, RadioState.noConfusion⟩,
    fun _ => ⟨rfl, by simp [imeiEnvironment], rfl⟩, ?_, DialCall.argsFit_dialUp call inside⟩
  intro record recorded s given text same
  obtain rfl := Option.some.inj same
  obtain ⟨plain, few⟩ := short call inside record (Option.mem_toList.mpr recorded) s given
  exact ⟨plain, few.trans (by decide)⟩

theorem dialUpTurns_onWire :
    ∃ rild rild', rildStep ByteParcel 3 (.initial openChannel) (.clientConnect 5 4 [] []) =
        some rild ∧
      Library.run (rildStep ByteParcel 3) rild
        (dialUpTurns.filterMap (DialTurn.stimulus · ByteParcel)) = some rild' ∧
      rild'.chan.written = wire [ascii "AT^CGCATT?", ascii "AT^CGCATT?", ascii "AT^NDISDUP=1,0",
        ascii "AT^NDISDUP=1,1,\"CMNET\"", ascii "AT+CGPADDR", ascii "AT^DHCP?"] := by
  have ran : ((rildStep ByteParcel 3 (.initial openChannel) (.clientConnect 5 4 [] [])).bind
      fun rild => Library.run (rildStep ByteParcel 3) rild
        (dialUpTurns.filterMap (DialTurn.stimulus · ByteParcel))).isSome = true := by
    decide +kernel
  obtain ⟨rild', both⟩ := Option.isSome_iff_exists.mp ran
  obtain ⟨rild, connected, rest⟩ := Option.bind_eq_some_iff.mp both
  have accounted := (accounted_initial rfl).step connected
  have opened : rild.chan = openChannel := by
    obtain ⟨-, libril, -, rfl⟩ := by
      simpa only [rildStep, Option.ite_none_right_eq_some, Option.map_eq_some_iff] using connected
    rfl
  have live : Live rild.chan := by
    rw [opened]
    exact ⟨by decide, rfl, by decide, rfl⟩
  obtain ⟨-, -, written, -⟩ := dialTurns_onWire accounted live usual_dialUpTurns rest
  refine ⟨rild, rild', connected, rest, ?_⟩
  rw [written, opened]
  decide +kernel

end Serving

end RildHisi.Daemon
