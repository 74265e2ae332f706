import RildHisi.Libril.Ledger

/-!
Owns the agreement of libril with its ledger: the list in the heap is the list of
outstanding requests, and every frame of a solicited response answers a completed
request of its own, on the connection that request was read from.
-/

namespace RildHisi.Libril

open RildHisi.Library RildHisi.Library.LinkedList

/-! ### Frames -/

/-- The frame of a response to a request. -/
def Frame.solicited (frame : Frame) : Bool :=
  frame.data.take 4 = wordBytes responseSolicited

/-- The frame carries the number and the token of the request, on its connection. -/
def Carries (frame : Frame) (entry : Entry) : Prop :=
  entry.origin = some frame.connection ∧
    frame.data.take 12 = responseHeader entry.request entry.token

/-- The solicited frames answer some of the requests that are due, each one once, in the
order of their completion. -/
def Answered (frames : List Frame) (due : List Entry) : Prop :=
  ∃ answered, answered.Sublist due ∧ List.Forall₂ Carries (frames.filter Frame.solicited) answered

theorem Answered.later {frames : List Frame} {due : List Entry} (answered : Answered frames due)
    (more : List Entry) : Answered frames (due ++ more) := by
  obtain ⟨entries, sublist, carries⟩ := answered
  exact ⟨entries, sublist.trans (List.sublist_append_left _ _), carries⟩

theorem Answered.unsolicited {frames : List Frame} {due : List Entry} {frame : Frame}
    (answered : Answered frames due) (other : frame.solicited = false) :
    Answered (frames ++ [frame]) due := by
  obtain ⟨entries, sublist, carries⟩ := answered
  refine ⟨entries, sublist, ?_⟩
  rw [List.filter_append, List.filter_cons_of_neg (by simp [other]), List.filter_nil,
    List.append_nil]
  exact carries

theorem Answered.carried {frames : List Frame} {due : List Entry} {frame : Frame} {entry : Entry}
    (answered : Answered frames due) (carries : Carries frame entry) :
    Answered (frames ++ [frame]) (due ++ [entry]) := by
  obtain ⟨entries, sublist, all⟩ := answered
  have kind : frame.solicited = true := by
    have front : frame.data.take 4 = (frame.data.take 12).take 4 := by
      rw [List.take_take]
      rfl
    unfold Frame.solicited
    rw [front, carries.2]
    exact decide_eq_true rfl
  refine ⟨entries ++ [entry], sublist.append (List.Sublist.refl _), ?_⟩
  rw [List.filter_append, List.filter_cons_of_pos kind, List.filter_nil]
  exact List.rel_append all (List.Forall₂.cons carries List.Forall₂.nil)

/-- The data of an unsolicited message. -/
def Unsolicited (data : List UInt8) : Prop := data.take 4 = wordBytes responseUnsolicited

theorem not_solicited {data : List UInt8} (other : Unsolicited data) (connection : Nat)
    (taken : List UInt8) : Frame.solicited ⟨connection, data, taken⟩ = false := by
  unfold Frame.solicited Unsolicited at *
  rw [other]
  rfl

/-! ### Agreement -/

/-- What the ledger knows of a `RequestInfo`: the token, the request, and whether its
response is dropped. -/
def RequestInfo.known (info : RequestInfo) : Word × RilRequest × Bool :=
  (info.token, info.pCI.requestNumber, info.isLocal || info.cancelled)

/-- The same of an outstanding request, from the connection there is now. -/
def Ledger.known (l : Ledger) (entry : Entry) : Nat × Word × RilRequest × Bool :=
  (entry.pRI, entry.token, entry.request, !Ledger.answerable (entry, l.connection))

/-- The state of libril is the one the ledger describes. -/
structure Tracks (s : State) (l : Ledger) : Prop where
  list : s.Holds RequestInfo.known (l.outstanding.map l.known)
  connected : s.fdCommand < 0 ↔ l.connection = none
  socket : ∀ connection, 0 ≤ s.fdCommand → s.sockets s.fdCommand = some connection →
    l.connection = some connection
  connections : s.connections = l.connections
  current : ∀ connection, l.connection = some connection → connection < l.connections
  origins : ∀ entry ∈ l.outstanding, ∀ connection, entry.origin = some connection →
    connection < l.connections
  nitz : ∀ data, s.lastNitzTimeData = some data → Unsolicited data
  answered : Answered s.frames l.due

theorem tracks_initial : Tracks .initial .initial where
  list := ⟨rfl, le_refl _⟩
  connected := ⟨fun _ => rfl, fun _ => by decide⟩
  socket := fun _ _ open_ => by cases open_
  connections := rfl
  current := fun _ same => by cases same
  origins := fun _ member => by cases member
  nitz := fun _ same => by cases same
  answered := ⟨[], List.Sublist.refl _, List.Forall₂.nil⟩

section Steps

variable {s s' : State} {l : Ledger}

theorem Tracks.pending (tracks : Tracks s l) : s.pending = l.outstanding.map Entry.pRI := by
  rw [tracks.list.pending_eq, List.map_map]
  rfl

/-- Sending changes what is open and what was sent, and nothing else that is tracked. -/
theorem Tracks.sent {data : List UInt8} (tracks : Tracks s l) (sent : State.Sent s s' data)
    (answered : Answered s'.frames l.due) : Tracks s' l := by
  have sockets : ∀ connection, 0 ≤ s.fdCommand → s'.sockets s.fdCommand = some connection →
      l.connection = some connection := by
    intro connection live socket
    rcases sent.sockets with same | closed
    · rw [same] at socket
      exact tracks.socket connection live socket
    · rw [closed, Function.update_self] at socket
      cases socket
  obtain ⟨list, connected, -, connections, current, origins, nitz, -⟩ := tracks
  rw [sent.others]
  exact ⟨list, connected, sockets, connections, current, origins, nitz, answered⟩

theorem Tracks.sent_unsolicited {data : List UInt8} (tracks : Tracks s l)
    (sent : State.Sent s s' data) (other : Unsolicited data) : Tracks s' l := by
  apply tracks.sent sent
  rcases sent.frames with same | ⟨connection, taken, -, -, appended⟩
  · rw [same]
    exact tracks.answered
  · rw [appended]
    exact tracks.answered.unsolicited (not_solicited other connection taken)

theorem Tracks.rilOnUnsolicitedResponse (tracks : Tracks s l) (unsolResponse : Nat)
    (payload : Option (List UInt8)) (script : List WriteOutcome) :
    Tracks (s.rilOnUnsolicitedResponse unsolResponse payload script) l := by
  unfold State.rilOnUnsolicitedResponse
  by_cases unsupported : unsolResponse < rilUnsolResponseBase ∨
      rilUnsolResponseBase + numUnsolResponses ≤ unsolResponse
  · rw [if_pos unsupported]
    exact tracks
  rw [if_neg unsupported]
  cases payload with
  | none => exact tracks
  | some payload =>
      have other : Unsolicited (wordBytes responseUnsolicited ++
          wordBytes (BitVec.ofNat 32 unsolResponse) ++ payload) := rfl
      simp only
      generalize wordBytes responseUnsolicited ++ wordBytes (BitVec.ofNat 32 unsolResponse) ++
        payload = data at *
      have sent := tracks.sent_unsolicited (State.sendResponseRaw_sent s data script) other
      split_ifs
      · obtain ⟨list, connected, socket, connections, current, origins, -, answered⟩ := sent
        refine ⟨list, connected, socket, connections, current, origins, ?_, answered⟩
        rintro _ ⟨⟩
        exact other
      · exact sent

theorem Tracks.onNewCommandConnect (tracks : Tracks s l) (radioState : Word)
    (script nitzScript : List WriteOutcome) :
    Tracks (s.onNewCommandConnect radioState script nitzScript) l := by
  have greeted := tracks.rilOnUnsolicitedResponse rilUnsolResponseBase
    (some (wordBytes radioState)) script
  unfold State.onNewCommandConnect
  generalize s.rilOnUnsolicitedResponse rilUnsolResponseBase (some (wordBytes radioState))
    script = s at *
  simp only
  cases cached : s.lastNitzTimeData with
  | none => exact greeted
  | some data =>
      obtain ⟨list, connected, socket, connections, current, origins, -, answered⟩ :=
        greeted.sent_unsolicited (State.sendResponseRaw_sent s data nitzScript)
          (greeted.nitz data cached)
      refine ⟨list, connected, socket, connections, current, origins, ?_, answered⟩
      intro data cleared
      cases cleared

/-- A request is accepted, from the client or a local one. -/
theorem Tracks.accept (tracks : Tracks s l) {pRI : Nat} (info : RequestInfo)
    {origin : Option Nat} (calls : List OnRequest) (fresh : s.Fresh pRI)
    (dropped : (info.isLocal || info.cancelled) =
      !Ledger.answerable (⟨l.accepted.length, pRI, info.token, info.pCI.requestNumber, origin⟩,
        l.connection))
    (from_ : ∀ connection, origin = some connection → connection < l.connections) :
    Tracks { s.enqueue pRI info with onRequests := calls }
      (l.accept pRI info.token info.pCI.requestNumber origin) := by
  have list := tracks.list.enqueue info fresh rfl
  refine ⟨?_, tracks.connected, tracks.socket, tracks.connections, tracks.current, ?_,
    tracks.nitz, tracks.answered⟩
  · show State.Holds _ _ (l.known _ :: l.outstanding.map l.known)
    rw [Ledger.known, ← dropped]
    exact list
  · intro entry member connection same
    rcases List.mem_cons.mp member with rfl | member
    · exact from_ connection same
    · exact tracks.origins entry member connection same

theorem Tracks.clientDisconnect (tracks : Tracks s l) :
    Tracks s.closeCommand.onCommandsSocketClosed { l with connection := none } := by
  have marked := State.Holds.onCommandsSocketClosed (s := s.closeCommand)
    tracks.list (fun known => (known.1, known.2.1, true))
    (fun info => by simp [RequestInfo.known])
  refine ⟨?_, ⟨fun _ => rfl, fun _ => show (-1 : Int) < 0 by decide⟩, ?_, tracks.connections, ?_,
    tracks.origins, tracks.nitz, tracks.answered⟩
  · rw [List.map_map] at marked
    have values : l.outstanding.map ({ l with connection := none } : Ledger).known =
        l.outstanding.map ((fun entry : Nat × Word × RilRequest × Bool =>
          (entry.1, entry.2.1, entry.2.2.1, true)) ∘ l.known) := by
      refine List.map_congr_left fun entry _ => ?_
      cases origin : entry.origin <;> simp [Ledger.known, Ledger.answerable, origin]
    show State.Holds _ _ (l.outstanding.map ({ l with connection := none } : Ledger).known)
    rw [values]
    exact marked
  · intro connection live
    exact absurd (show (0 : Int) ≤ -1 from live) (by decide)
  · intro connection same
    cases same

theorem Tracks.acceptClient (tracks : Tracks s l) {fd : Int} (none_ : s.fdCommand < 0)
    (valid : 0 ≤ fd) :
    Tracks (s.acceptClient fd)
      { l with connection := some l.connections, connections := l.connections + 1 } := by
  have closed := tracks.connected.mp none_
  refine ⟨?_, ?_, ?_, ?_, ?_, ?_, tracks.nitz, tracks.answered⟩
  · have values : l.outstanding.map (Ledger.known
        { l with connection := some l.connections, connections := l.connections + 1 }) =
        l.outstanding.map l.known := by
      refine List.map_congr_left fun entry member => ?_
      have earlier := tracks.origins entry member
      cases origin : entry.origin with
      | none => simp [Ledger.known, Ledger.answerable, origin]
      | some connection =>
          have below := earlier connection origin
          have apart : connection ≠ l.connections := by omega
          simp [Ledger.known, Ledger.answerable, origin, closed, apart]
    show State.Holds _ _ (l.outstanding.map _)
    rw [values]
    exact tracks.list
  · constructor
    · intro negative
      exact absurd negative (by simpa [State.acceptClient] using valid)
    · intro absent
      cases absent
  · intro connection live socket
    simp only [State.acceptClient, Function.update_self, Option.some.injEq] at socket
    rw [← socket, tracks.connections]
  · show s.connections + 1 = l.connections + 1
    rw [tracks.connections]
  · rintro _ ⟨⟩
    exact Nat.lt_succ_self _
  · intro entry member connection origin
    exact Nat.lt_succ_of_lt (tracks.origins entry member connection origin)

/-- The list without a completed request, before its response is sent. -/
theorem Tracks.dequeued (tracks : Tracks s l) {front back : List Entry} {entry : Entry}
    (shape : l.outstanding = front ++ entry :: back) :
    ∃ heap head info, s.checkAndDequeueRequestInfo entry.pRI =
        (true, { s with heap := heap, pendingRequests := head }) ∧
      heap entry.pRI = some info ∧ s.heap entry.pRI = some info ∧
      (entry.pRI, info.known) = l.known entry ∧
      Tracks { s with heap := heap, pendingRequests := head }
        { l with outstanding := front ++ back } ∧
      entry.pRI ∉ (front ++ back).map Entry.pRI := by
  have list := tracks.list
  rw [shape, List.map_append, List.map_cons] at list
  obtain ⟨heap, head, info, dequeues, holds, stored, viewed, frame⟩ :=
    State.checkAndDequeue_present list (fun _ _ => rfl)
  have distinct := list.1.nodup
  have unlisted : entry.pRI ∉ (front.map l.known).map Prod.fst := by
    intro member
    rw [List.map_append] at distinct
    exact (List.nodup_append.mp distinct).2.2 _ member _ (by simp [Ledger.known]) rfl
  rw [← List.map_cons, ← List.map_append, List.map_map] at distinct
  rw [← List.map_append] at holds
  refine ⟨heap, head, info, dequeues, stored, (frame _ unlisted).symm.trans stored,
    congrArg (Prod.mk _) viewed, ?_, ?_⟩
  · refine ⟨holds, tracks.connected, tracks.socket, tracks.connections, tracks.current, ?_,
      tracks.nitz, tracks.answered⟩
    intro other member connection origin
    refine tracks.origins other ?_ connection origin
    rw [shape]
    rcases List.mem_append.mp member with inFront | inBack
    · exact List.mem_append_left _ inFront
    · exact List.mem_append_right _ (List.mem_cons_of_mem _ inBack)
  · have middle : ((entry :: (front ++ back)).map Entry.pRI).Nodup :=
      ((List.perm_middle.map Entry.pRI).nodup_iff).mp distinct
    exact (List.nodup_cons.mp middle).1

theorem due_completed (l : Ledger) (outstanding : List Entry) (entry : Entry) :
    ({ l with outstanding := outstanding
              completed := l.completed ++ [(entry, l.connection)] } : Ledger).due =
      l.due ++ if Ledger.answerable (entry, l.connection) then [entry] else [] := by
  unfold Ledger.due
  rw [List.filter_append, List.map_append]
  split_ifs with may
  · rw [List.filter_cons_of_pos may]
    rfl
  · rw [List.filter_cons_of_neg may]
    rfl

section Complete

variable (P : Type) [Platform P] [LawfulPlatform P] (version : Nat)

/-- What `RIL_onRequestComplete` does with a request it has taken out of the list: the
request is among the completed ones, and a frame only goes to one that may be answered. -/
theorem Tracks.respond {outstanding : List Entry} {entry : Entry} {info : RequestInfo}
    (tracks : Tracks s { l with outstanding := outstanding })
    (known : (entry.pRI, info.known) = l.known entry) (e : Word) (response : Option Pointee)
    (responselen : Nat) (script : List WriteOutcome) :
    Tracks (if info.isLocal || info.cancelled then s else
        (s.sendResponseRaw (Platform.data (responseParcel P version info e response responselen))
          script).2)
      { l with outstanding := outstanding, completed := l.completed ++ [(entry, l.connection)] } := by
  have due := due_completed l outstanding entry
  simp only [Ledger.known, RequestInfo.known, Prod.mk.injEq, true_and] at known
  obtain ⟨token, request, dropped⟩ := known
  have listed : Tracks s
      { l with outstanding := outstanding, completed := l.completed ++ [(entry, l.connection)] } := by
    obtain ⟨list, connected, socket, connections, current, origins, nitz, answered⟩ := tracks
    refine ⟨list, connected, socket, connections, current, origins, nitz, ?_⟩
    rw [due]
    exact answered.later _
  by_cases silent : (info.isLocal || info.cancelled) = true
  · rw [if_pos silent]
    exact listed
  · rw [if_neg silent]
    have may : Ledger.answerable (entry, l.connection) = true := by
      rw [Bool.not_eq_true] at silent
      rw [silent] at dropped
      simpa using dropped.symm
    have sends := State.sendResponseRaw_sent s
      (Platform.data (responseParcel P version info e response responselen)) script
    apply listed.sent sends
    rw [due, if_pos may]
    rcases sends.frames with same | ⟨connection, taken, live, socket, appended⟩
    · rw [same]
      exact tracks.answered.later _
    · rw [appended]
      apply tracks.answered.carried
      constructor
      · have here : l.connection = some connection := tracks.socket connection live socket
        have same := of_decide_eq_true ((Bool.and_eq_true _ _).mp may).2
        exact same.trans here
      · have header := responseParcel_header (P := P) version info e response responselen
        rw [← token, ← request]
        exact (List.prefix_iff_eq_take.mp header).symm

omit [LawfulPlatform P] in
theorem rilOnRequestComplete_absent (tracks : Tracks s l) {t : Nat}
    (absent : t ∉ l.outstanding.map Entry.pRI) (e : Word) (response : Option Pointee)
    (responselen : Nat) (script : List WriteOutcome) :
    s.rilOnRequestComplete P version t e response responselen script = s := by
  have outside : t ∉ (l.outstanding.map l.known).map Prod.fst := by
    rw [List.map_map]
    exact absent
  unfold State.rilOnRequestComplete
  rw [State.checkAndDequeue_absent tracks.list outside]
  rfl

theorem Tracks.rilOnRequestComplete (tracks : Tracks s l) (t : Nat) (e : Word)
    (response : Option Pointee) (responselen : Nat) (script : List WriteOutcome) :
    Tracks (s.rilOnRequestComplete P version t e response responselen script) (l.complete t) := by
  by_cases member : t ∈ l.outstanding.map Entry.pRI
  · obtain ⟨front, entry, back, shape, rfl, earlier⟩ := Ledger.first_outstanding member
    obtain ⟨heap, head, info, dequeues, stored, -, known, rest, absent⟩ := tracks.dequeued shape
    have responded := rest.respond P version known e response responselen script
    rw [Ledger.complete_present shape earlier]
    unfold State.rilOnRequestComplete
    simp only [dequeues, Bool.not_true, Bool.false_eq_true, if_false, stored]
    obtain ⟨list, connected, socket, connections, current, origins, nitz, answered⟩ := responded
    refine ⟨list.free ?_, connected, socket, connections, current, origins, nitz, answered⟩
    rw [List.map_map]
    exact absent
  · rw [Ledger.complete_absent member, rilOnRequestComplete_absent P version tracks member]
    exact tracks

/-- The frame of a response that fits is solicited. -/
theorem solicited_responseParcel (pRI : RequestInfo) (e : Word) (response : Option Pointee)
    (responselen connection : Nat) (taken : List UInt8) :
    Frame.solicited ⟨connection,
      Platform.data (responseParcel P version pRI e response responselen), taken⟩ = true := by
  obtain ⟨rest, shape⟩ := responseParcel_header (P := P) version pRI e response responselen
  unfold Frame.solicited
  dsimp only
  rw [← shape]
  exact decide_eq_true rfl

/-- A completion puts at most one frame on the connection, a solicited one, and a client that
takes everything stays. -/
theorem rilOnRequestComplete_taken {s : State} {connection : Nat}
    (client : s.client = some connection) (t : Nat) (e : Word) (response : Option Pointee)
    (responselen : Nat) {script : List WriteOutcome} (taken : NeverFails script) :
    (s.rilOnRequestComplete P version t e response responselen script).client = some connection ∧
      ∃ sent, (s.rilOnRequestComplete P version t e response responselen script).frames =
          s.frames ++ sent ∧
        ∀ frame ∈ sent, frame.solicited = true := by
  have dequeued : (s.checkAndDequeueRequestInfo t).2 = s ∨ ∃ heap head,
      (s.checkAndDequeueRequestInfo t).2 = { s with heap := heap, pendingRequests := head } := by
    unfold State.checkAndDequeueRequestInfo
    split_ifs
    · exact Or.inl rfl
    · split
      · exact Or.inl rfl
      · exact Or.inr ⟨_, _, rfl⟩
  have same : (s.checkAndDequeueRequestInfo t).2.client = some connection ∧
      (s.checkAndDequeueRequestInfo t).2.frames = s.frames := by
    rcases dequeued with unchanged | ⟨heap, head, changed⟩
    · rw [unchanged]
      exact ⟨client, rfl⟩
    · rw [changed]
      exact ⟨client, rfl⟩
  unfold State.rilOnRequestComplete
  generalize s.checkAndDequeueRequestInfo t = result at same
  obtain ⟨found, before⟩ := result
  obtain ⟨open', frames⟩ : before.client = some connection ∧ before.frames = s.frames := same
  cases found with
  | false => exact ⟨open', [], by simp [frames], by simp⟩
  | true =>
      simp only [Bool.not_true, Bool.false_eq_true, if_false]
      cases before.heap t with
      | none => exact ⟨open', [], by simp [frames], by simp⟩
      | some pRI =>
          dsimp only
          by_cases silent : (pRI.isLocal || pRI.cancelled) = true
          · rw [if_pos silent]
            exact ⟨open', [], by simp [frames], by simp⟩
          rw [if_neg silent]
          by_cases large : maxCommandBytes <
              (Platform.data (responseParcel P version pRI e response responselen)).length
          · rw [State.sendResponseRaw_refused (Or.inr large)]
            exact ⟨open', [], by simp [frames], by simp⟩
          obtain ⟨bytes, sent, -⟩ := State.sendResponseRaw_tried open' (not_lt.mp large) script
          rw [sent, takesFrame_of_neverFails taken]
          refine ⟨open', [_], congrArg (· ++ _) frames, ?_⟩
          exact List.forall_mem_singleton.mpr (solicited_responseParcel P version _ _ _ _ _ _)

/-- **Step lemma.** Each event does to libril what it does to the ledger. -/
theorem Tracks.step (tracks : Tracks s l) {event : Event}
    (stepped : step P version s event = some s') : Tracks s' (l.step event) := by
  cases event with
  | processCommandBuffer buffer pRI =>
      obtain ⟨⟨live, fresh⟩, rfl⟩ := by
        simpa only [Libril.step, Option.ite_none_right_eq_some, Option.some.injEq] using stepped
      show Tracks _ (l.step (.processCommandBuffer buffer pRI))
      simp only [Ledger.step]
      cases found : requestOf buffer with
      | none =>
          rw [processCommandBuffer_rejected version pRI found]
          exact tracks
      | some accepted =>
          obtain ⟨pCI, token⟩ := accepted
          rw [processCommandBuffer_accepted version pRI found]
          have connected : l.connection.isSome := by
            rw [Option.isSome_iff_ne_none]
            intro none_
            have closed := tracks.connected.mpr none_
            omega
          refine tracks.accept ⟨token, pCI, 0, false, false⟩ _ fresh ?_ tracks.current
          simp [Ledger.answerable, connected]
  | issueLocalRequest request data len pRI =>
      obtain ⟨fresh, rfl⟩ := by
        simpa only [Libril.step, Option.ite_none_right_eq_some, Option.some.injEq] using stepped
      obtain ⟨pCI, entry, rfl⟩ := commandInfo_number request
      simp only [State.issueLocalRequest, entry]
      apply tracks.accept ⟨-1, pCI, 0, false, true⟩ _ fresh rfl
      rintro _ ⟨⟩
  | rilOnRequestComplete t e response responselen script =>
      obtain rfl := by simpa only [Libril.step, Option.some.injEq] using stepped
      exact tracks.rilOnRequestComplete P version t e response responselen script
  | rilOnUnsolicitedResponse unsolResponse payload script =>
      obtain rfl := by simpa only [Libril.step, Option.some.injEq] using stepped
      exact tracks.rilOnUnsolicitedResponse unsolResponse payload script
  | clientDisconnect =>
      obtain ⟨live, rfl⟩ := by
        simpa only [Libril.step, Option.ite_none_right_eq_some, Option.some.injEq] using stepped
      exact tracks.clientDisconnect
  | clientConnect fd radioState script nitzScript =>
      obtain ⟨⟨none_, valid, unused⟩, rfl⟩ := by
        simpa only [Libril.step, Option.ite_none_right_eq_some, Option.some.injEq] using stepped
      exact (tracks.acceptClient none_ valid).onNewCommandConnect radioState script nitzScript

theorem Tracks.run (tracks : Tracks s l) {events : List Event}
    (ran : Library.run (Libril.step P version) s events = some s') :
    Tracks s' (events.foldl Ledger.step l) := by
  induction events generalizing s l with
  | nil =>
      obtain rfl : s = s' := by simpa using ran
      exact tracks
  | cons event events inductionHypothesis =>
      obtain ⟨middle, stepped, rest⟩ := Option.bind_eq_some_iff.mp ran
      exact inductionHypothesis (tracks.step P version stepped) rest

end Complete

end Steps

/-! ### Every request is accounted for -/

/-- The list holds the outstanding requests, those accepted and not completed, without
duplicates. Every solicited frame answers one request of its own, with its number and
token, on the connection it was read from: a request of a client that was completed
while that client was there, so neither a local nor a cancelled one. A completion with
another token changes nothing. -/
structure Accounts (P : Type) [Platform P] (version : Nat) (s : State) (l : Ledger) : Prop where
  pending : s.pending = l.outstanding.map Entry.pRI
  nodup : s.pending.Nodup
  outstanding : ∀ entry, entry ∈ l.outstanding ↔
    entry ∈ l.accepted ∧ entry ∉ l.completed.map Prod.fst
  serials : (l.accepted.map Entry.serial).Nodup
  answered : ∃ answered, (answered.map Entry.serial).Nodup ∧ answered ⊆ l.due ∧
    List.Forall₂ Carries (s.frames.filter Frame.solicited) answered
  stale : ∀ t, t ∉ s.pending → ∀ e response responselen script,
    step P version s (.rilOnRequestComplete t e response responselen script) = some s

/-- **The life cycle of requests.** In every run libril accounts for its requests as
the ledger of the events says. -/
theorem accounts_of_run (P : Type) [Platform P] [LawfulPlatform P] (version : Nat)
    {events : List Event} {s : State}
    (ran : Library.run (step P version) .initial events = some s) :
    Accounts P version s (Ledger.after events) := by
  have tracks : Tracks s (Ledger.after events) := tracks_initial.run P version ran
  have sound := Ledger.sound_after events
  refine ⟨tracks.pending, ?_, sound.mem_outstanding, ?_, ?_, ?_⟩
  · rw [tracks.list.pending_eq]
    exact tracks.list.1.nodup
  · rw [sound.serials]
    exact List.nodup_range
  · obtain ⟨answered, sublist, carries⟩ := tracks.answered
    exact ⟨answered, sound.due_nodup.sublist (sublist.map Entry.serial), sublist.subset, carries⟩
  · intro t absent e response responselen script
    rw [tracks.pending] at absent
    exact congrArg some
      (rilOnRequestComplete_absent P version tracks absent e response responselen script)

/-- A client connects, asks for the IMSI, and is answered. A second completion of the
same token comes after it has left. -/
def sampleEvents : List Event :=
  [.clientConnect 5 4 [] [], .processCommandBuffer (wordBytes 11 ++ wordBytes 7) 16,
    .issueLocalRequest .resetRadio .null 0 32, .rilOnRequestComplete 16 0 none 0 [.wrote 3],
    .clientDisconnect, .rilOnRequestComplete 16 0 none 0 [], .rilOnRequestComplete 32 0 none 0 []]

theorem accounts_sampleEvents :
    ∃ s, Library.run (step ByteParcel 3) .initial sampleEvents = some s ∧
      s.frames.length = 2 ∧ Accounts ByteParcel 3 s (Ledger.after sampleEvents) := by
  have frames : ((Library.run (step ByteParcel 3) .initial sampleEvents).map
      fun s => s.frames.length) = some 2 := by decide +kernel
  obtain ⟨s, ran, count⟩ := Option.map_eq_some_iff.mp frames
  exact ⟨s, ran, count, accounts_of_run ByteParcel 3 ran⟩

end RildHisi.Libril
