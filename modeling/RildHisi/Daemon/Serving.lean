import RildHisi.Daemon.CommandAnswers
import RildHisi.Libril.Acceptance
import RildHisi.Libril.ResponseFrames

/-!
Owns the daemon: libril serves the records of its client one after another on the thread
of the event loop, each by a run of its handler over the AT channel, while the other
threads send unsolicited messages.

`accounted_of_stimuli` says what every run comes to: a request is answered by the first
completion of its handler, on the connection there is at that moment, and one whose
handler completes nothing is left in the list.
-/

namespace RildHisi.Daemon

open RildHisi.AtChannel RildHisi.Library RildHisi.Libril RildHisi.ReferenceRil

/-! ### What libril finds behind a response pointer -/

/-- An array, and the memory behind it. -/
def arrayOf {α : Type} (entries : List α) (beyond : Nat → α) (i : Nat) : α :=
  entries[i]?.getD (beyond i)

/-- The data of a request; `memory` is what its memory holds otherwise. -/
def pointeeOfRequest (memory : Pointee) : RequestData → Option Pointee
  | .null => none
  | .string string8 => some { memory with string := string8 }
  | .strings pStrings => some { memory with strings := arrayOf pStrings memory.strings }
  | .ints pInts => some { memory with ints := arrayOf pInts memory.ints }
  | .raw data => some { memory with bytes := arrayOf data memory.bytes }
  | _ => some memory

/-- The response of a handler. -/
def pointeeOf (memory : Pointee) : ResponseData → Option Pointee
  | .null => none
  | .ints pInts => some { memory with ints := arrayOf pInts memory.ints }
  | .string s => some { memory with string := s }
  | .strings pStrings => some { memory with strings := arrayOf pStrings memory.strings }
  | .calls ppCalls => some { memory with calls := arrayOf ppCalls memory.calls }
  | .sms response => some { memory with sms := response }
  | .simIo sr => some { memory with simIo := sr }
  | .dataCalls responses => some { memory with dataCalls := arrayOf responses memory.dataCalls }
  | .cardStatus pCardStatus => some { memory with cardStatus := pCardStatus }
  | .echo data => pointeeOfRequest memory data

/-! ### One record -/

/-- A call of `RIL_onUnsolicitedResponse`. -/
structure Message where
  unsolResponse : Nat
  payload : Option (List UInt8)
  script : List WriteOutcome

def Message.send (s : State) (message : Message) : State :=
  s.rilOnUnsolicitedResponse message.unsolResponse message.payload message.script

/-- What a call of `RIL_onRequestComplete` meets: the messages that the other threads have
sent before it, the memory around the response, and what the writes of its frame come to. -/
structure Moment where
  messages : List Message
  memory : Pointee
  script : List WriteOutcome

section Serving

variable (P : Type) [Platform P] (version : Nat)

/-- One completion of a handler. -/
def completeOne (s : State) (completion : Completion) (moment : Moment) : State :=
  (moment.messages.foldl Message.send s).rilOnRequestComplete P version completion.t completion.e
    (pointeeOf moment.memory completion.response) completion.responselen moment.script

/-- The completions of a handler, in order. -/
def completeAll (s : State) : List Completion → (Nat → Moment) → State
  | [], _ => s
  | completion :: completions, moments =>
      completeAll (completeOne P version s completion (moments 0)) completions
        fun n => moments (n + 1)

/-- A record that was accepted: its command and token, the address of its `RequestInfo`,
what its handler completed, the moment of the first completion and the connection there was
at that moment. -/
structure Served where
  pCI : CommandInfo
  token : Word
  pRI : Nat
  completions : List Completion
  moment : Moment
  client : Option Nat

/-- libril, the AT channel, whether the event loop still serves, and what it has served so
far. -/
structure Rild where
  libril : State
  chan : Channel
  serving : Bool
  served : List Served

def Rild.initial (chan : Channel) : Rild := ⟨.initial, chan, true, []⟩

/-- What comes of the calls that a record leads to: the completions, the channel behind them
and whether the event loop goes on. -/
def handle (calls : List OnRequest) (chan : Channel) (environment : Environment) :
    List Completion × Channel × Bool :=
  match calls with
  | [] => ([], chan, true)
  | call :: _ =>
      let run := runOn (onRequest (Platform.abi P) call) chan environment
      match run.ended with
      | .done _ => (run.completions, run.chan, true)
      | .fault _ | .waiting | .crashed => (run.completions, run.chan, false)

/-- A record of the client. -/
def Rild.serve (rild : Rild) (buffer : List UInt8) (pRI : Nat) (environment : Environment)
    (moments : Nat → Moment) : Rild :=
  let s := rild.libril.processCommandBuffer P version buffer pRI
  let calls := s.onRequests.drop rild.libril.onRequests.length
  let (completions, chan, serving) := handle P calls rild.chan environment
  { libril := completeAll P version s completions moments
    chan
    serving
    served := rild.served ++ (requestOf buffer).toList.map fun accepted =>
      { pCI := accepted.1
        token := accepted.2
        pRI
        completions
        moment := moments 0
        client := ((moments 0).messages.foldl Message.send s).client } }

/-! ### Runs -/

inductive Stimulus
  | record (buffer : List UInt8) (pRI : Nat) (environment : Environment) (moments : Nat → Moment)
  | clientDisconnect
  | clientConnect (fd : Int) (radioState : Word) (script nitzScript : List WriteOutcome)
  /-- Another thread or a timer sends a message. -/
  | message (message : Message)
  /-- What the reader, a reopening or a timed callback makes of the channel between two
  requests; behind them no command is pending. -/
  | channel (chan : Channel)

def rildStep (rild : Rild) : Stimulus → Option Rild
  | .record buffer pRI environment moments =>
      if rild.serving ∧ 0 ≤ rild.libril.fdCommand ∧ rild.libril.Fresh pRI then
        some (rild.serve P version buffer pRI environment moments)
      else none
  | .clientDisconnect =>
      if rild.serving then
        (step P version rild.libril .clientDisconnect).map fun s => { rild with libril := s }
      else none
  | .clientConnect fd radioState script nitzScript =>
      if rild.serving then
        (step P version rild.libril (.clientConnect fd radioState script nitzScript)).map
          fun s => { rild with libril := s }
      else none
  | .message message => some { rild with libril := message.send rild.libril }
  | .channel chan =>
      if rild.serving ∧ chan.spResponse = none then some { rild with chan } else none

/-! ### What a run comes to -/

/-- The `RequestInfo` of a record. -/
def Served.info (served : Served) : RequestInfo := ⟨served.token, served.pCI, 0, false, false⟩

/-- The connection and the data of its answer: the response to the first completion, if
there is one, it is not too long, and a client is connected. -/
def Served.answer (served : Served) : Option (Nat × List UInt8) :=
  match served.completions with
  | [] => none
  | completion :: _ =>
      let data := Platform.data (responseParcel P version served.info completion.e
        (pointeeOf served.moment.memory completion.response) completion.responselen : P)
      if maxCommandBytes < data.length then none
      else served.client.map fun connection => (connection, data)

/-- The solicited frames, by connection and data. -/
def answersSent (s : State) : List (Nat × List UInt8) :=
  (s.frames.filter Frame.solicited).map fun frame => (frame.connection, frame.data)

/-- libril is in a state that its events lead to. -/
def Reached (s : State) : Prop := ∃ events, Library.run (step P version) .initial events = some s

/-- What a run has come to. -/
structure Accounted (rild : Rild) : Prop where
  reached : Reached P version rild.libril
  pending : rild.libril.pending =
    ((rild.served.filter (·.completions.isEmpty)).map Served.pRI).reverse
  answers : answersSent rild.libril = rild.served.filterMap (Served.answer P version)
  idle : rild.serving = true → rild.chan.spResponse = none

end Serving

section Steps

variable {P : Type} [Platform P] {version : Nat} {s s' : State}

theorem Reached.step (reached : Reached P version s) (event : Libril.Event)
    (stepped : Libril.step P version s event = some s') : Reached P version s' := by
  obtain ⟨events, ran⟩ := reached
  refine ⟨events ++ [event], ?_⟩
  rw [run_concat, ran]
  exact stepped

theorem Reached.tracks [LawfulPlatform P] (reached : Reached P version s) :
    ∃ l, Tracks s l := by
  obtain ⟨events, ran⟩ := reached
  exact ⟨_, tracks_of_run ran⟩

theorem Reached.nodup [LawfulPlatform P] (reached : Reached P version s) : s.pending.Nodup := by
  obtain ⟨l, tracks⟩ := reached.tracks
  rw [tracks.list.pending_eq]
  exact tracks.list.1.nodup

/-! Messages. -/

/-- The requests and the answers sent are the same. -/
structure SameRequests (s s' : State) : Prop where
  heap : s'.heap = s.heap
  pending : s'.pending = s.pending
  answers : answersSent s' = answersSent s

theorem SameRequests.refl (s : State) : SameRequests s s := ⟨rfl, rfl, rfl⟩

theorem SameRequests.trans {s'' : State} (first : SameRequests s s')
    (second : SameRequests s' s'') : SameRequests s s'' :=
  ⟨second.heap.trans first.heap, second.pending.trans first.pending,
    second.answers.trans first.answers⟩

theorem SameRequests.sent {data : List UInt8} (sent : State.Sent s s' data)
    (other : Unsolicited data) : SameRequests s s' := by
  have answers : answersSent s' = answersSent s := by
    unfold answersSent
    rcases sent.frames with same | ⟨connection, taken, -, -, appended⟩
    · rw [same]
    · rw [appended, List.filter_append,
        List.filter_cons_of_neg (by simp [not_solicited other connection taken]), List.filter_nil,
        List.append_nil]
  rw [sent.others] at answers ⊢
  exact ⟨rfl, rfl, answers⟩

theorem Message.send_same (s : State) (message : Message) : SameRequests s (message.send s) := by
  unfold Message.send State.rilOnUnsolicitedResponse
  split_ifs
  · exact .refl s
  · cases message.payload with
    | none => exact .refl s
    | some payload =>
        have other : Unsolicited (wordBytes responseUnsolicited ++
            wordBytes (BitVec.ofNat 32 message.unsolResponse) ++ payload) := rfl
        simp only
        generalize wordBytes responseUnsolicited ++
          wordBytes (BitVec.ofNat 32 message.unsolResponse) ++ payload = data at *
        have same := SameRequests.sent (State.sendResponseRaw_sent s data message.script) other
        split_ifs
        · exact ⟨same.heap, same.pending, same.answers⟩
        · exact same

theorem sendMessages (reached : Reached P version s) (messages : List Message) :
    Reached P version (messages.foldl Message.send s) ∧
      SameRequests s (messages.foldl Message.send s) := by
  induction messages generalizing s with
  | nil => exact ⟨reached, .refl s⟩
  | cons message messages inductionHypothesis =>
      have stepped : Reached P version (message.send s) :=
        reached.step (.rilOnUnsolicitedResponse message.unsolResponse message.payload
          message.script) rfl
      obtain ⟨behind, same⟩ := inductionHypothesis stepped
      exact ⟨behind, (message.send_same s).trans same⟩

/-! Completions. -/

theorem solicited_response [LawfulPlatform P] (version : Nat) (pRI : RequestInfo) (e : Word)
    (response : Option Pointee) (responselen connection : Nat) (taken : List UInt8) :
    Frame.solicited ⟨connection,
      Platform.data (responseParcel P version pRI e response responselen : P), taken⟩ = true := by
  have header := responseParcel_header (P := P) version pRI e response responselen
  obtain ⟨rest, same⟩ := header
  unfold Frame.solicited
  rw [← same]
  rfl

variable [LawfulPlatform P]

omit [LawfulPlatform P] in
theorem Reached.complete (reached : Reached P version s) (t : Nat) (e : Word)
    (response : Option Pointee) (responselen : Nat) (script : List WriteOutcome) :
    Reached P version (s.rilOnRequestComplete P version t e response responselen script) :=
  reached.step (.rilOnRequestComplete t e response responselen script) rfl

/-- A completion of a request that is not pending. -/
theorem complete_absent (reached : Reached P version s) {t : Nat} (absent : t ∉ s.pending)
    (e : Word) (response : Option Pointee) (responselen : Nat) (script : List WriteOutcome) :
    s.rilOnRequestComplete P version t e response responselen script = s := by
  obtain ⟨l, tracks⟩ := reached.tracks
  rw [tracks.pending] at absent
  exact rilOnRequestComplete_absent P version tracks absent e response responselen script

/-- A completion of the request that was queued last. -/
theorem complete_first (reached : Reached P version s) {t : Nat} {rest : List Nat}
    (pending : s.pending = t :: rest) {info : RequestInfo} (stored : s.heap t = some info)
    (live : info.isLocal = false ∧ info.cancelled = false) (e : Word) (response : Option Pointee)
    (responselen : Nat) (script : List WriteOutcome) :
    (s.rilOnRequestComplete P version t e response responselen script).pending = rest ∧
      answersSent (s.rilOnRequestComplete P version t e response responselen script) =
        answersSent s ++
          (if maxCommandBytes <
              (Platform.data (responseParcel P version info e response responselen : P)).length then
            none
          else s.client.map fun connection => (connection,
            Platform.data (responseParcel P version info e response responselen : P))).toList := by
  obtain ⟨l, tracks⟩ := reached.tracks
  constructor
  · have names := tracks.pending
    rw [pending] at names
    obtain ⟨entry, back, shape, rfl, others⟩ := List.map_eq_cons_iff.mp names.symm
    have completed := tracks.rilOnRequestComplete P version entry.pRI e response responselen script
    have front : l.outstanding = [] ++ entry :: back := shape
    rw [Ledger.complete_present front (by simp)] at completed
    rw [completed.pending]
    exact others
  · obtain ⟨pRI, data, same, content, outcome⟩ := tracks.complete_pending (P := P)
      (pending ▸ List.mem_cons_self) version e response responselen script
    obtain rfl : info = pRI := Option.some.inj (stored.symm.trans same)
    have solicited := solicited_response (P := P) version info e response responselen
    rw [← content] at solicited ⊢
    rcases outcome with ⟨refused, frames⟩ | ⟨-, -, fits, connection, taken, client, frames, -⟩
    · have none_ : (if maxCommandBytes < data.length then none
          else s.client.map fun connection => (connection, data)) = none := by
        rcases refused with isLocal | cancelled | noClient | large
        · rw [live.1] at isLocal
          cases isLocal
        · rw [live.2] at cancelled
          cases cancelled
        · rw [noClient, Option.map_none, ite_self]
        · exact if_pos large
      unfold answersSent
      rw [none_, frames]
      simp
    · rw [if_neg (not_lt.mpr fits), client]
      unfold answersSent
      rw [frames]
      simp [List.filter_append, solicited connection taken]

/-- Completions of a request that is not pending change nothing but what the messages
change. -/
theorem completeAll_absent {completions : List Completion} {t : Nat}
    (own : ∀ completion ∈ completions, For t completion) (reached : Reached P version s)
    (absent : t ∉ s.pending) (moments : Nat → Moment) :
    Reached P version (completeAll P version s completions moments) ∧
      SameRequests s (completeAll P version s completions moments) := by
  induction completions generalizing s moments with
  | nil => exact ⟨reached, .refl s⟩
  | cons completion completions inductionHypothesis =>
      obtain ⟨sent, same⟩ := sendMessages reached (moments 0).messages
      have token : completion.t = t := own completion List.mem_cons_self
      have unchanged : completeOne P version s completion (moments 0) =
          (moments 0).messages.foldl Message.send s := by
        unfold completeOne
        rw [token]
        exact complete_absent sent (by rw [same.pending]; exact absent) _ _ _ _
      unfold completeAll
      rw [unchanged]
      obtain ⟨behind, sameBehind⟩ := inductionHypothesis
        (fun later member => own later (List.mem_cons_of_mem _ member)) sent
        (by rw [same.pending]; exact absent) fun n => moments (n + 1)
      exact ⟨behind, same.trans sameBehind⟩

/-- The first completion of a request answers it, and the others change nothing. -/
theorem completeAll_first (served : Served) {rest : List Nat}
    (own : ∀ completion ∈ served.completions, For served.pRI completion)
    (reached : Reached P version s) (pending : s.pending = served.pRI :: rest) {pNext : Nat}
    (stored : s.heap served.pRI = some (served.info.setPNext pNext)) {moments : Nat → Moment}
    (moment : served.moment = moments 0)
    (client : served.client = ((moments 0).messages.foldl Message.send s).client) :
    Reached P version (completeAll P version s served.completions moments) ∧
      (completeAll P version s served.completions moments).pending =
        (if served.completions.isEmpty then [served.pRI] else []) ++ rest ∧
      answersSent (completeAll P version s served.completions moments) =
        answersSent s ++ (served.answer P version).toList := by
  obtain ⟨pCI, token, pRI, completions, first, connection⟩ := served
  cases completions with
  | nil => exact ⟨reached, pending, by simp [Served.answer, completeAll]⟩
  | cons completion completions =>
      obtain ⟨sent, same⟩ := sendMessages reached (moments 0).messages
      dsimp only at own pending stored moment client
      subst first connection
      have names : completion.t = pRI := own completion List.mem_cons_self
      obtain ⟨left, answered⟩ := complete_first sent (same.pending.trans pending)
        ((congrFun same.heap pRI).trans stored) ⟨rfl, rfl⟩ completion.e
        (pointeeOf (moments 0).memory completion.response) completion.responselen
        (moments 0).script
      have reachedOne : Reached P version (completeOne P version s completion (moments 0)) :=
        sent.complete _ _ _ _ _
      unfold completeOne at reachedOne
      rw [names] at reachedOne
      have distinct := reached.nodup
      rw [pending] at distinct
      obtain ⟨behind, sameBehind⟩ := completeAll_absent
        (fun later member => own later (List.mem_cons_of_mem _ member)) reachedOne
        (by rw [left]; exact (List.nodup_cons.mp distinct).1) fun n => moments (n + 1)
      unfold completeAll completeOne
      rw [names]
      refine ⟨behind, sameBehind.pending.trans left, ?_⟩
      rw [sameBehind.answers, answered, same.answers]
      rfl

/-! Records. -/

/-- A record that is accepted stands at the front of the list. -/
theorem processCommandBuffer_queued (reached : Reached P version s) {buffer : List UInt8}
    {pRI : Nat} (connected : 0 ≤ s.fdCommand) (fresh : s.Fresh pRI) {pCI : CommandInfo}
    {token : Word} (accepted : requestOf buffer = some (pCI, token)) :
    let s' := s.processCommandBuffer P version buffer pRI
    Reached P version s' ∧ s'.pending = pRI :: s.pending ∧
      s'.heap pRI = some (RequestInfo.setPNext ⟨token, pCI, 0, false, false⟩ s.pendingRequests) ∧
      answersSent s' = answersSent s ∧
      s'.onRequests.drop s.onRequests.length =
        dispatchCalls P version pRI pCI (buffer.drop 8) := by
  have stepped : Libril.step P version s (.processCommandBuffer buffer pRI) =
      some (s.processCommandBuffer P version buffer pRI) := if_pos ⟨connected, fresh⟩
  obtain ⟨l, tracks⟩ := reached.tracks
  have behind := tracks.step P version stepped
  have queued : (s.processCommandBuffer P version buffer pRI).pending = pRI :: s.pending := by
    rw [behind.pending, tracks.pending]
    simp only [Ledger.step, accepted, Ledger.accept, List.map_cons]
  refine ⟨reached.step _ stepped, queued, ?_⟩
  rw [processCommandBuffer_accepted version pRI accepted]
  exact ⟨Function.update_self .., rfl, by simp⟩

end Steps

section Runs

variable {P : Type} [Platform P] {version : Nat}

/-- What a run over the channel completes is what its handler completes. -/
theorem runOn_completes {α : Type} {handler : Handler α} {sends : Command → Prop}
    {completes : Completion → Prop} (inside : handler.Within sends completes) (chan : Channel)
    (environment : Environment) :
    ∀ completion ∈ (runOn handler chan environment).completions, completes completion := by
  induction handler generalizing chan environment with
  | done result => simp [runOn]
  | fault cause => simp [runOn]
  | send command next inductionHypothesis =>
      unfold runOn
      cases (environment.commands 0).send command chan with
      | returned err response chan =>
          exact inductionHypothesis (resultOf err response) (inside.2 _) chan environment.answered
      | waiting chan => simp
      | crashed => simp
  | readState next inductionHypothesis =>
      exact inductionHypothesis _ (inside _) chan environment.looked
  | openQmi next inductionHypothesis => exact inductionHypothesis _ (inside _) chan environment
  | complete completion next inductionHypothesis =>
      intro other member
      rcases List.mem_cons.mp member with rfl | later
      · exact inside.1
      · exact inductionHypothesis inside.2 chan environment other later
  | perform effect next inductionHypothesis => exact inductionHypothesis inside chan environment

/-- The calls of a record complete that record only, and leave the channel idle for the next
one. -/
theorem handle_own {calls : List OnRequest} {pRI : Nat} (named : ∀ call ∈ calls, call.t = pRI)
    {chan : Channel} (idle : chan.spResponse = none) (environment : Environment) :
    (∀ completion ∈ (handle P calls chan environment).1, For pRI completion) ∧
      ((handle P calls chan environment).2.2 = true →
        (handle P calls chan environment).2.1.spResponse = none) := by
  cases calls with
  | nil => exact ⟨by simp [handle], fun _ => idle⟩
  | cons call calls =>
      have inside := onRequest_within (Platform.abi P) call
      rw [named call List.mem_cons_self] at inside
      have own := runOn_completes inside chan environment
      have conducted := runOn_conducted inside idle environment
      unfold handle
      dsimp only
      cases ended : (runOn (onRequest (Platform.abi P) call) chan environment).ended with
      | done result => exact ⟨own, fun _ => conducted.idle.resolve_left (by simp [ended])⟩
      | fault cause => exact ⟨own, by simp⟩
      | waiting => exact ⟨own, by simp⟩
      | crashed => exact ⟨own, by simp⟩

theorem dispatchCalls_named (version pRI : Nat) (pCI : CommandInfo) (payload : List UInt8) :
    ∀ call ∈ dispatchCalls P version pRI pCI payload, call.t = pRI := by
  intro call member
  obtain ⟨called, silent⟩ := dispatchCalls_decides P version pRI pCI payload
  by_cases accepts : pCI.dispatchFunction.Accepts version payload
  · obtain ⟨argument, handsOver, same⟩ := called accepts
    rw [same] at member
    rw [List.mem_singleton.mp member]
    exact handsOver.2
  · rw [silent accepts] at member
    cases member

variable [LawfulPlatform P] {rild rild' : Rild}

omit [LawfulPlatform P] in
theorem accounted_initial {chan : Channel} (idle : chan.spResponse = none) :
    Accounted P version (.initial chan) :=
  ⟨⟨[], rfl⟩, rfl, rfl, fun _ => idle⟩

/-- Serving a record. -/
theorem Accounted.serve (accounted : Accounted P version rild) (serving : rild.serving = true)
    {buffer : List UInt8} {pRI : Nat} (connected : 0 ≤ rild.libril.fdCommand)
    (fresh : rild.libril.Fresh pRI) (environment : Environment) (moments : Nat → Moment) :
    Accounted P version (rild.serve P version buffer pRI environment moments) := by
  have idle := accounted.idle serving
  unfold Rild.serve
  cases found : requestOf buffer with
  | none =>
      rw [processCommandBuffer_rejected version pRI found]
      dsimp only
      rw [List.drop_length]
      refine ⟨accounted.reached, ?_, ?_, fun _ => idle⟩
      · simpa [handle, completeAll] using accounted.pending
      · simpa [handle, completeAll] using accounted.answers
  | some accepted =>
      obtain ⟨pCI, token⟩ := accepted
      obtain ⟨reached, queued, stored, same, calls⟩ :=
        processCommandBuffer_queued accounted.reached connected fresh found
      dsimp only
      generalize rild.libril.processCommandBuffer P version buffer pRI = s at *
      rw [calls]
      obtain ⟨own, idleBehind⟩ := handle_own (P := P)
        (dispatchCalls_named (P := P) version pRI pCI (buffer.drop 8)) idle environment
      generalize handle P (dispatchCalls P version pRI pCI (buffer.drop 8)) rild.chan environment =
        handled at *
      obtain ⟨completions, chan, goesOn⟩ := handled
      obtain ⟨reachedBehind, left, answered⟩ := completeAll_first (P := P)
        ⟨pCI, token, pRI, completions, moments 0,
          ((moments 0).messages.foldl Message.send s).client⟩ own reached queued stored rfl rfl
      refine ⟨reachedBehind, ?_, ?_, idleBehind⟩
      · rw [left, accounted.pending]
        cases completions <;> simp
      · rw [answered, same, accounted.answers]
        rw [List.filterMap_append]
        simp only [Option.toList_some, List.map_cons, List.map_nil, List.filterMap_cons]
        cases Served.answer P version _ <;> rfl

omit [LawfulPlatform P] in
/-- An event of libril that is neither a record nor a completion. -/
theorem Accounted.libril {s : State} (accounted : Accounted P version rild) (event : Libril.Event)
    (stepped : Libril.step P version rild.libril event = some s)
    (pending : s.pending = rild.libril.pending)
    (answers : answersSent s = answersSent rild.libril) :
    Accounted P version { rild with libril := s } :=
  ⟨accounted.reached.step event stepped, pending.trans accounted.pending,
    answers.trans accounted.answers, accounted.idle⟩

/-- A client that connects is told the radio state and the time. -/
theorem connected_same {s : State} {l : Ledger} (tracks : Tracks s l) {fd : Int}
    (none_ : s.fdCommand < 0) (valid : 0 ≤ fd) (radioState : Word)
    (script nitzScript : List WriteOutcome) :
    SameRequests s ((s.acceptClient fd).onNewCommandConnect radioState script nitzScript) := by
  have accepted : SameRequests s (s.acceptClient fd) := ⟨rfl, rfl, rfl⟩
  have greeted := accepted.trans
    (Message.send_same (s.acceptClient fd)
      ⟨rilUnsolResponseBase, some (wordBytes radioState), script⟩)
  have times := ((tracks.acceptClient none_ valid).rilOnUnsolicitedResponse rilUnsolResponseBase
    (some (wordBytes radioState)) script).nitz
  unfold State.onNewCommandConnect
  unfold Message.send at greeted
  generalize (s.acceptClient fd).rilOnUnsolicitedResponse rilUnsolResponseBase
    (some (wordBytes radioState)) script = greetedState at *
  dsimp only
  cases cached : greetedState.lastNitzTimeData with
  | none => exact greeted
  | some data =>
      have told := SameRequests.sent (State.sendResponseRaw_sent greetedState data nitzScript)
        (times data cached)
      exact greeted.trans ⟨told.heap, told.pending, told.answers⟩

/-- **Step lemma.** -/
theorem Accounted.step (accounted : Accounted P version rild) {stimulus : Stimulus}
    (stepped : rildStep P version rild stimulus = some rild') : Accounted P version rild' := by
  cases stimulus with
  | record buffer pRI environment moments =>
      obtain ⟨⟨serving, connected, fresh⟩, rfl⟩ := by
        simpa only [rildStep, Option.ite_none_right_eq_some, Option.some.injEq] using stepped
      exact accounted.serve serving connected fresh environment moments
  | clientDisconnect =>
      obtain ⟨-, s, disconnected, rfl⟩ := by
        simpa only [rildStep, Option.ite_none_right_eq_some, Option.map_eq_some_iff] using stepped
      obtain ⟨l, tracks⟩ := accounted.reached.tracks
      obtain ⟨-, rfl⟩ := by
        simpa only [step, Option.ite_none_right_eq_some, Option.some.injEq] using disconnected
      have pending := tracks.clientDisconnect.pending.trans tracks.pending.symm
      exact accounted.libril _ disconnected pending rfl
  | clientConnect fd radioState script nitzScript =>
      obtain ⟨-, s, connected, rfl⟩ := by
        simpa only [rildStep, Option.ite_none_right_eq_some, Option.map_eq_some_iff] using stepped
      obtain ⟨l, tracks⟩ := accounted.reached.tracks
      obtain ⟨⟨none_, valid, -⟩, rfl⟩ := by
        simpa only [step, Option.ite_none_right_eq_some, Option.some.injEq] using connected
      have same := connected_same tracks none_ valid radioState script nitzScript
      exact accounted.libril _ connected same.pending same.answers
  | message message =>
      obtain rfl : _ = rild' := Option.some.inj stepped
      have same := message.send_same rild.libril
      exact accounted.libril (.rilOnUnsolicitedResponse message.unsolResponse
        message.payload message.script) rfl same.pending same.answers
  | channel chan =>
      obtain ⟨⟨serving, idle⟩, rfl⟩ := by
        simpa only [rildStep, Option.ite_none_right_eq_some, Option.some.injEq] using stepped
      exact ⟨accounted.reached, accounted.pending, accounted.answers, fun _ => idle⟩

/-- **The answers of a run.** Whatever the clients send and whatever the modem does: libril
is in a state that its own events lead to; the requests left in its list are those whose
handlers completed nothing; every other accepted request got one answer, the response to
its first completion, on the connection of that moment, or none where there was no client
or the answer is too long; and the channel is idle whenever the event loop goes on. -/
theorem accounted_of_stimuli {chan : Channel} (idle : chan.spResponse = none)
    {stimuli : List Stimulus}
    (ran : Library.run (rildStep P version) (.initial chan) stimuli = some rild) :
    Accounted P version rild :=
  run_invariant (fun _ _ _ accounted stepped => accounted.step stepped) (accounted_initial idle) ran

/-- A client asks for the IMEI twice; the second time the modem hangs up. -/
def imeiStimuli : List Stimulus :=
  let record (token : Word) (pRI : Nat) (environment : Environment) : Stimulus :=
    .record (wordBytes (BitVec.ofNat 32 RilRequest.getImei.number) ++ wordBytes token) pRI
      environment fun _ => ⟨[], default, []⟩
  [.clientConnect 5 4 [] [], record 7 16 imeiEnvironment,
    record 8 32 { imeiEnvironment with commands := fun _ => ⟨[.closed], []⟩ }]

theorem answers_imeiStimuli :
    ∃ rild, Library.run (rildStep ByteParcel 3) (.initial openChannel) imeiStimuli = some rild ∧
      (answersSent rild.libril).length = 2 ∧ Accounted ByteParcel 3 rild := by
  have count : ((Library.run (rildStep ByteParcel 3) (.initial openChannel) imeiStimuli).map
      fun rild => (answersSent rild.libril).length) = some 2 := by decide +kernel
  obtain ⟨rild, ran, two⟩ := Option.map_eq_some_iff.mp count
  exact ⟨rild, ran, two, accounted_of_stimuli rfl ran⟩

end Runs

end RildHisi.Daemon
