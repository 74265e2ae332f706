import RildHisi.MockRil.RadioWorker

/-!
Owns which calls the delayed events of `rilRequestDial` reach. An event names an index: it
finds the call that was dialed, in a state it may still leave, as long as no request adds a
call under the index or moves its call on while the event is pending (`onlyOwnCall`).
-/

namespace RildHisi.MockRil

open RildHisi.Library

/-- The state is not behind the one that the event brings. -/
def CallState.upTo : CallState → NextState → Bool
  | .dialing, _ => true
  | .alerting, .alerting | .alerting, .active => true
  | .active, .active => true
  | _, _ => false

/-- The event brings the call forward. -/
def CallState.forward (state : CallState) (next : NextState) : Bool :=
  state.upTo next && state ≠ next.state

def NextState.rank : NextState → Nat
  | .dialing => 0
  | .alerting => 1
  | .active => 2

/-- `first` is in front of `second` if both are events for one index. -/
def Precedes (first second : RadioRequest) : Prop :=
  ∀ before after, first = .callStateChange before → second = .callStateChange after →
    before.callIndex = after.callIndex → before.nextState.rank ≤ after.nextState.rank

theorem precedes_of_change?_left {first : RadioRequest} (quiet : first.change? = none)
    (second : RadioRequest) : Precedes first second := by
  rintro before after rfl
  cases quiet

theorem precedes_of_change?_right (first : RadioRequest) {second : RadioRequest}
    (quiet : second.change? = none) : Precedes first second := by
  rintro before after - rfl
  cases quiet

theorem precedes_change {first : RadioRequest} {change : CallStateChange}
    (ranked : ∀ before, first = .callStateChange before → before.callIndex = change.callIndex →
      before.nextState.rank ≤ change.nextState.rank) :
    Precedes first (.callStateChange change) := by
  intro before after here there same
  cases there
  exact ranked before here same

/-- Events for different indices. -/
theorem precedes_of_apart {index : Nat} {first second : RadioRequest}
    (here : ∀ change, first = .callStateChange change → change.callIndex = index)
    (apart : ∀ change, second = .callStateChange change → change.callIndex ≠ index) :
    Precedes first second ∧ Precedes second first :=
  ⟨fun before after one two same => absurd (same ▸ here before one) (apart after two),
    fun before after one two same => absurd (same.trans (here after two)) (apart before one)⟩

theorem upTo_of_rank {first second : NextState} (ranked : first.rank ≤ second.rank) :
    first.state.upTo second = true := by
  cases first <;> cases second <;> first | rfl | exact absurd ranked (by decide)

theorem upTo_states {state : CallState} {next : NextState} (upTo : state.upTo next = true) :
    state = .dialing ∨ state = .alerting ∨ state = .active := by
  cases state <;> cases next <;> simp_all [CallState.upTo]

namespace Radio

/-- The request goes past the pending event: it adds a call under its index, puts the call on
hold, or takes it to a state that the event would take it back from. -/
def Overtakes (radio : Radio) (request : RadioRequest) (change : CallStateChange) : Prop :=
  (∃ state ∈ radio.newCallState request, radio.numberActiveCalls < maxNumberActiveCalls ∧
    radio.freeIndex = some change.callIndex ∧
      ¬ (state = .dialing ∧ change.nextState = .dialing)) ∨
  radio.editAt request change.callIndex = some (.become .holding) ∨
  (request = .setCallAlert ∧ radio.movable .dialing = some change.callIndex ∧
    change.nextState = .dialing) ∨
  (request = .setCallActive ∧ radio.movable .alerting = some change.callIndex ∧
    change.nextState ≠ .active)

instance (radio : Radio) (request : RadioRequest) (change : CallStateChange) :
    Decidable (radio.Overtakes request change) := by
  unfold Overtakes
  infer_instance

/-- The call the event will find is the one that was dialed, not past the event. While the
event is still to bring DIALING, nothing depends on which call it is. -/
def Behind (radio : Radio) (change : CallStateChange) : Prop :=
  ∀ call, radio.calls.get change.callIndex = some call →
    (call.object = change.object ∨ change.nextState = .dialing) ∧
      call.state.upTo change.nextState = true

/-- No edit of a loop touches a call that an event may still find, but to remove it or to
put it on hold. -/
theorem edit_upTo {radio : Radio} {request : RadioRequest} {index : Nat} {call : RilCall}
    {edit : CallEdit} {next : NextState} (defined : radio.calls.get index = some call)
    (found : radio.editAt request index = some edit) (upTo : call.state.upTo next = true) :
    edit = .keep ∨ edit = .remove ∨ edit = .become .holding := by
  rcases editAt_cases defined found with keep | ⟨-, removes | holds⟩ | ⟨held | waits, -⟩ |
    ⟨held | rings, -⟩
  · exact Or.inl keep
  · exact Or.inr (Or.inl removes)
  · exact Or.inr (Or.inr holds)
  all_goals rcases upTo_states upTo with state | state | state <;> simp_all [CallState.ringing]

/-- **A request keeps the events behind the calls they name**, unless it overtakes one. -/
theorem Consistent.behind_process {radio : Radio} (consistent : radio.Consistent)
    {request : RadioRequest} {change : CallStateChange} (behind : radio.Behind change)
    (order : Precedes request (.callStateChange change))
    (pace : ¬ radio.Overtakes request change) :
    (radio.process request).radio.Behind change := by
  intro after defined
  have acts := consistent.acts_process request change.callIndex
  unfold Acts at acts
  generalize before : radio.calls.get change.callIndex = entry at acts
  generalize (radio.process request).radio.calls.get change.callIndex = left at acts defined
  cases acts with
  | same => exact behind after (before.trans defined)
  | added call admitted room free object =>
      obtain rfl := Option.some.inj defined
      by_cases first : call.state = .dialing ∧ change.nextState = .dialing
      · rw [first.1]
        exact ⟨Or.inr first.2, rfl⟩
      · exact absurd (Or.inl ⟨call.state, admitted, room, free, first⟩) pace
  | edited call edit found done =>
      obtain ⟨own, upTo⟩ := behind call before
      rcases edit_upTo before found upTo with rfl | rfl | rfl
      · cases defined
        exact ⟨own, upTo⟩
      · cases defined
      · exact absurd (Or.inr (Or.inl found)) pace
  | answered call asked state done =>
      have upTo := (behind call before).2
      rw [state] at upTo
      cases upTo
  | alerted call asked only state =>
      obtain ⟨own, upTo⟩ := behind call before
      cases defined
      refine ⟨own, ?_⟩
      cases next : change.nextState with
      | dialing => exact absurd (Or.inr (Or.inr (Or.inl ⟨asked, only, next⟩))) pace
      | alerting => rfl
      | active => rfl
  | activated call asked only state =>
      obtain ⟨own, upTo⟩ := behind call before
      cases defined
      refine ⟨own, ?_⟩
      by_cases last : change.nextState = .active
      · rw [last]
        rfl
      · exact absurd (Or.inr (Or.inr (Or.inr ⟨asked, only, last⟩))) pace
  | changed call applied asked here =>
      obtain ⟨own, -⟩ := behind call before
      cases defined
      exact ⟨own, upTo_of_rank (order applied change asked rfl here)⟩
  | hungUp => cases defined
  | hungUpRemote => cases defined
  | refused => cases defined

end Radio

namespace RadioWorker

variable {s s' : RadioWorker}

/-- The events for calls that are pending. -/
def changes (s : RadioWorker) : List CallStateChange := s.pending.filterMap RadioRequest.change?

theorem mem_changes {change : CallStateChange} :
    change ∈ s.changes ↔ .callStateChange change ∈ s.pending := by
  unfold changes
  rw [List.mem_filterMap]
  constructor
  · rintro ⟨request, member, same⟩
    cases request <;> cases same
    exact member
  · exact fun member => ⟨_, member, rfl⟩

/-- No request that is processed overtakes a pending event. -/
def KeepsPace (s : RadioWorker) (event : RadioEvent) : Prop :=
  ∀ request ∈ s.running event, ∀ change ∈ s.changes, ¬ s.radio.Overtakes request change

instance (s : RadioWorker) (event : RadioEvent) : Decidable (s.KeepsPace event) := by
  unfold KeepsPace
  infer_instance

/-- An event leaves every call as it is, but the one it was scheduled for, which it brings
forward. -/
def OnlyOwnCall (s : RadioWorker) (event : RadioEvent) : Prop :=
  ∀ request ∈ s.running event, ∀ change ∈ request.change?, ∀ s' ∈ s.step event,
    ∀ index ∈ s.radio.indices, ∀ call ∈ s.radio.calls.get index,
      ∃ after ∈ s'.radio.calls.get index, after = call ∨
        call.object = change.object ∧ call.state.forward change.nextState = true ∧
          after = { call with state := change.nextState.state }

instance (s : RadioWorker) (event : RadioEvent) : Decidable (s.OnlyOwnCall event) := by
  unfold OnlyOwnCall
  infer_instance

/-! ### The order of the events -/

/-- The events for one index are pending in their order. -/
structure Ordered (s : RadioWorker) : Prop where
  line : s.line.Pairwise Precedes
  ahead : ∀ first ∈ s.line, ∀ record ∈ s.delayedQ, Precedes first record.request
  delayed : ∀ record ∈ s.delayedQ, ∀ change, record.request = .callStateChange change →
    change.nextState ≠ .dialing
  timed : ∀ first ∈ s.delayedQ, ∀ second ∈ s.delayedQ, first.time ≤ second.time →
    Precedes first.request second.request

namespace Ordered

theorem initial : RadioWorker.initial.Ordered where
  line := List.Pairwise.nil
  ahead first member := by cases member
  delayed record member := by cases member
  timed first member := by cases member

/-- Nothing is added. -/
theorem of_sublist (ordered : s.Ordered) (line : s'.line.Sublist s.line)
    (delayedQ : s'.delayedQ = s.delayedQ) : s'.Ordered where
  line := ordered.line.sublist line
  ahead first member record delayed :=
    ordered.ahead first (line.subset member) record (delayedQ ▸ delayed)
  delayed := by rw [delayedQ]; exact ordered.delayed
  timed := by rw [delayedQ]; exact ordered.timed

theorem wait (ordered : s.Ordered) (milliseconds : Nat) :
    ({ s with now := s.now + milliseconds } : RadioWorker).Ordered :=
  ordered.of_sublist (List.Sublist.refl _) rfl

/-- A request at the end of the queue, behind what is in front of it. -/
theorem add_line (ordered : s.Ordered) (request : RadioRequest)
    (behind : ∀ first ∈ s.line, Precedes first request)
    (ahead : ∀ record ∈ s.delayedQ, Precedes request record.request) :
    (s.add request 0).Ordered where
  line := by
    change (s.popped.toList ++ (s.q ++ [request])).Pairwise Precedes
    rw [← List.append_assoc]
    refine List.pairwise_append.mpr ⟨ordered.line, List.pairwise_singleton _ _, ?_⟩
    intro first member last same
    rw [List.mem_singleton.mp same]
    exact behind first member
  ahead first member record delayed := by
    change first ∈ s.popped.toList ++ (s.q ++ [request]) at member
    rw [← List.append_assoc] at member
    rcases List.mem_append.mp member with before | last
    · exact ordered.ahead first before record delayed
    · rw [List.mem_singleton.mp last]
      exact ahead record delayed
  delayed := ordered.delayed
  timed := ordered.timed

/-- A delayed request, in its place by time. -/
theorem add_delayed (ordered : s.Ordered) {request : RadioRequest} {delay : Nat}
    (positive : delay ≠ 0)
    (later : ∀ change, request = .callStateChange change → change.nextState ≠ .dialing)
    (behind : ∀ first ∈ s.line, Precedes first request)
    (after : ∀ record ∈ s.delayedQ, record.time ≤ s.now + delay → Precedes record.request request)
    (before : ∀ record ∈ s.delayedQ, s.now + delay ≤ record.time →
      Precedes request record.request) :
    (s.add request delay).Ordered := by
  rw [add, if_neg positive]
  refine ⟨ordered.line, ?_, ?_, ?_⟩
  · intro first member record delayed
    rcases List.mem_cons.mp delayed with rfl | old
    · exact behind first member
    · exact ordered.ahead first member record old
  · intro record delayed change same
    rcases List.mem_cons.mp delayed with rfl | old
    · exact later change same
    · exact ordered.delayed record old change same
  · intro first member second member' times
    rcases List.mem_cons.mp member with rfl | old
    · rcases List.mem_cons.mp member' with rfl | old'
      · rintro one two here there -
        obtain rfl : one = two := by
          rw [here] at there
          cases there
          rfl
        exact Nat.le_refl _
      · exact before second old' times
    · rcases List.mem_cons.mp member' with rfl | old'
      · exact after first old times
      · exact ordered.timed first old second old' times

/-- A request that is no event. -/
theorem add_quiet (ordered : s.Ordered) {request : RadioRequest} (quiet : request.change? = none)
    (delay : Nat) : (s.add request delay).Ordered := by
  by_cases atOnce : delay = 0
  · rw [atOnce]
    exact ordered.add_line request (fun first _ => precedes_of_change?_right first quiet)
      (fun record _ => precedes_of_change?_left quiet _)
  · refine ordered.add_delayed atOnce ?_ (fun first _ => precedes_of_change?_right first quiet)
      (fun record _ _ => precedes_of_change?_right _ quiet)
      (fun record _ _ => precedes_of_change?_left quiet _)
    rintro change rfl
    cases quiet

theorem schedule_quiet (ordered : s.Ordered) {scheduled : List (RadioRequest × Nat)}
    (quiet : ∀ entry ∈ scheduled, entry.1.change? = none) (elapsed : List Nat) :
    (s.schedule scheduled elapsed).Ordered := by
  induction scheduled generalizing s elapsed with
  | nil => exact ordered
  | cons entry rest inductionHypothesis =>
      have first := quiet entry List.mem_cons_self
      refine inductionHypothesis ?_ (fun later member => quiet later (List.mem_cons_of_mem _ member)) _
      exact (ordered.wait _).add_quiet first _

/-- The record that `obtain_record` takes from the worker holds no event behind that. -/
theorem reuse (ordered : s.Ordered) {request : RadioRequest} (quiet : request.change? = none) :
    ({ s with popped := s.popped.reuse request } : RadioWorker).Ordered := by
  cases popped : s.popped with
  | released lost =>
      have rest : ({ s with popped := .none } : RadioWorker).Ordered :=
        ordered.of_sublist (List.sublist_append_right _ _) rfl
      refine ⟨List.pairwise_cons.mpr ⟨fun later _ => precedes_of_change?_left quiet later,
        rest.line⟩, ?_, rest.delayed, rest.timed⟩
      intro first member record delayed
      rcases List.mem_cons.mp member with rfl | old
      · exact precedes_of_change?_left quiet _
      · exact rest.ahead first old record delayed
  | none =>
      refine ordered.of_sublist ?_ rfl
      rw [RadioWorker.line, RadioWorker.line, popped]
      exact List.Sublist.refl _
  | read kept =>
      refine ordered.of_sublist ?_ rfl
      rw [RadioWorker.line, RadioWorker.line, popped]
      exact List.Sublist.refl _

/-- The records that are due come in the order of their times. -/
theorem pop (ordered : s.Ordered) {moved : List DelayedRequest}
    (stepped : s.step (.pop moved) = some s') : s'.Ordered := by
  obtain ⟨idle, ⟨request, rest, queue, rfl⟩ | ⟨queue, first, others, due, rfl⟩⟩ := step_pop stepped
  · refine ordered.of_sublist ?_ rfl
    rw [RadioWorker.line, RadioWorker.line, idle, queue]
    exact List.Sublist.refl _
  · have known (record : DelayedRequest) (member : record ∈ first :: others) :
        record ∈ s.delayedQ ∧ record.time ≤ s.now := by
      have := due.1.subset member
      simpa using List.mem_filter.mp this
    refine ⟨?_, ?_, ?_, ?_⟩
    · change ((first :: others).map DelayedRequest.request).Pairwise Precedes
      rw [List.pairwise_map]
      refine due.2.imp_of_mem fun member member' times => ?_
      exact ordered.timed _ (known _ member).1 _ (known _ member').1 times
    · intro request member record delayed
      change request ∈ (first :: others).map DelayedRequest.request at member
      obtain ⟨early, here, rfl⟩ := List.mem_map.mp member
      obtain ⟨old, late⟩ := List.mem_filter.mp delayed
      obtain ⟨before, reached⟩ := known early here
      exact ordered.timed early before record old
        (Nat.le_of_lt (Nat.lt_of_le_of_lt reached (of_decide_eq_true late)))
    · exact fun record member => ordered.delayed record (List.mem_of_mem_filter member)
    · exact fun one member two member' =>
        ordered.timed one (List.mem_of_mem_filter member) two (List.mem_of_mem_filter member')

/-- The delayed events of a call that is dialed. -/
theorem schedule_transitions (ordered : s.Ordered) {index : Nat} (object : Nat)
    (lined : ∀ first ∈ s.line, ∀ change, first = .callStateChange change →
      change.callIndex = index → change.nextState = .dialing)
    (apart : ∀ record ∈ s.delayedQ, ∀ change, record.request = .callStateChange change →
      change.callIndex ≠ index) (elapsed : List Nat) :
    (s.schedule [(.callStateChange ⟨index, .alerting, object⟩, 1000),
      (.callStateChange ⟨index, .active, object⟩, 2000)] elapsed).Ordered := by
  have behind (next : NextState) (first : RadioRequest) (member : first ∈ s.line) :
      Precedes first (.callStateChange ⟨index, next, object⟩) := by
    refine precedes_change fun before here same => ?_
    rw [lined first member before here same]
    exact Nat.zero_le _
  have beside (next : NextState) (record : DelayedRequest) (member : record ∈ s.delayedQ) :
      Precedes (.callStateChange ⟨index, next, object⟩) record.request ∧
        Precedes record.request (.callStateChange ⟨index, next, object⟩) := by
    refine precedes_of_apart (fun change here => ?_) (apart record member)
    cases here
    rfl
  have later (next : NextState) (notFirst : next ≠ .dialing) (change : CallStateChange)
      (same : RadioRequest.callStateChange ⟨index, next, object⟩ = .callStateChange change) :
      change.nextState ≠ .dialing := by
    cases same
    exact notFirst
  have alerting := (ordered.wait (elapsed.headD 0)).add_delayed (by decide : 1000 ≠ 0)
    (later .alerting (by decide)) (behind .alerting)
    (fun record member _ => (beside .alerting record member).2)
    (fun record member _ => (beside .alerting record member).1)
  refine (alerting.wait (elapsed.tail.headD 0)).add_delayed (by decide : 2000 ≠ 0)
    (later .active (by decide)) (behind .active) (fun record member _ => ?_)
    (fun record member times => ?_)
  · rcases List.mem_cons.mp member with rfl | old
    · refine precedes_change fun before here _ => ?_
      cases here
      exact Nat.le_succ 1
    · exact (beside .active record old).2
  · rcases List.mem_cons.mp member with rfl | old
    · change s.now + elapsed.headD 0 + elapsed.tail.headD 0 + 2000 ≤ _ + 1000 at times
      simp only at times
      omega
    · exact (beside .active record old).1

/-- The events of a call that is dialed, where those that are pending for its index are all to
bring DIALING. -/
theorem schedule_dialEvents (ordered : s.Ordered) {index : Nat} (object : Nat)
    (clear : ∀ change ∈ s.changes, change.callIndex = index → change.nextState = .dialing)
    (transitionFlag : Bool) (elapsed : List Nat) :
    (s.schedule (Radio.dialEvents transitionFlag index object) elapsed).Ordered := by
  have dialed := (ordered.wait (elapsed.headD 0)).add_line (.callStateChange ⟨index, .dialing, object⟩)
    (fun first member => precedes_change fun before here same => by
      have dialing := clear before (mem_changes.mpr (List.mem_append_left _ (here ▸ member))) same
      exact Nat.le_of_eq (congrArg NextState.rank dialing))
    (fun record _ before after here _ _ => by
      cases here
      exact Nat.zero_le _)
  unfold Radio.dialEvents
  rw [schedule]
  split_ifs
  · exact dialed
  · refine dialed.schedule_transitions object (fun first member change here same => ?_)
      (fun record member change here same => ?_) _
    · change first ∈ s.popped.toList ++ (s.q ++ [_]) at member
      rw [← List.append_assoc] at member
      rcases List.mem_append.mp member with old | new
      · exact clear change (mem_changes.mpr (List.mem_append_left _ (here ▸ old))) same
      · rw [List.mem_singleton.mp new] at here
        cases here
        rfl
    · refine ordered.delayed record member change here (clear change ?_ same)
      exact mem_changes.mpr (List.mem_append_right _ (here ▸ List.mem_map_of_mem member))

end Ordered

/-! ### Runs -/

/-- The table is in order, and the events are pending in order behind the calls they name. -/
structure InOrder (s : RadioWorker) : Prop where
  consistent : s.radio.Consistent
  ordered : s.Ordered
  behind : ∀ change ∈ s.changes, s.radio.Behind change

theorem inOrder_initial : RadioWorker.initial.InOrder where
  consistent := Radio.Consistent.initial
  ordered := Ordered.initial
  behind change member := by cases member

/-- Where no event is added and the radio stays, only the order is to be kept. -/
theorem InOrder.of_radio (inOrder : s.InOrder) (ordered : s'.Ordered)
    (radio : s'.radio = s.radio) (changes : ∀ change ∈ s'.changes, change ∈ s.changes) :
    s'.InOrder where
  consistent := radio ▸ inOrder.consistent
  ordered := ordered
  behind change member := by
    rw [radio]
    exact inOrder.behind change (changes change member)

theorem changes_schedule (s : RadioWorker) (scheduled : List (RadioRequest × Nat))
    (elapsed : List Nat) {change : CallStateChange}
    (member : change ∈ (s.schedule scheduled elapsed).changes) :
    .callStateChange change ∈ scheduled.map Prod.fst ∨ change ∈ s.changes := by
  rw [mem_changes] at member ⊢
  exact List.mem_append.mp ((pending_schedule s scheduled elapsed).subset member)

theorem mem_pending_reuse {request pending : RadioRequest}
    (member : pending ∈ ({ s with popped := s.popped.reuse request } : RadioWorker).pending) :
    pending = request ∨ pending ∈ s.pending := by
  obtain ⟨lost, before, same | overwritten⟩ := pending_reuse s request
  · exact Or.inr (same ▸ member)
  · rw [overwritten] at member
    rcases List.mem_cons.mp member with new | old
    · exact Or.inl new
    · rw [before, List.append_assoc]
      exact Or.inr (List.mem_append_right _ old)

theorem change?_of_fromOutside {request : RadioRequest} {delay : Nat}
    (outside : request.fromOutside delay = true) : request.change? = none := by
  cases request with
  | callStateChange change => cases outside
  | _ => rfl

theorem InOrder.add (inOrder : s.InOrder) {request : RadioRequest} {delay : Nat}
    (stepped : s.step (.add request delay) = some s') : s'.InOrder := by
  obtain ⟨outside, rfl⟩ := step_add stepped
  have quiet := change?_of_fromOutside outside
  refine inOrder.of_radio ((inOrder.ordered.reuse quiet).add_quiet quiet delay) (radio_add _ _ _)
    fun change member => ?_
  rw [mem_changes] at member ⊢
  rcases List.mem_cons.mp ((pending_add _ request delay).subset member) with rfl | old
  · cases quiet
  · rcases mem_pending_reuse old with rfl | before
    · cases quiet
    · exact before

/-- Where only requests that are no events are added, the order and the calls stay. -/
theorem InOrder.schedule_quiet (inOrder : s.InOrder) {scheduled : List (RadioRequest × Nat)}
    (quiet : ∀ entry ∈ scheduled, entry.1.change? = none) (elapsed : List Nat) :
    (s.schedule scheduled elapsed).InOrder := by
  refine inOrder.of_radio (inOrder.ordered.schedule_quiet quiet elapsed) (radio_schedule _ _ _)
    fun change member => ?_
  rcases changes_schedule s scheduled elapsed member with new | old
  · obtain ⟨entry, here, same⟩ := List.mem_map.mp new
    have := quiet entry here
    rw [same] at this
    cases this
  · exact old

/-- The request is processed in front of all the events that stay pending. -/
theorem InOrder.handled (inOrder : s.InOrder) {elapsed : List Nat} {request : RadioRequest}
    (keeps : s.KeepsPace (.process elapsed)) (popped : s.popped = .read request)
    (running : s.running (.process elapsed) = some request) :
    (s.handled request).InOrder := by
  have lined : s.line = request :: (s.handled request).line := by
    rw [line, popped]
    rfl
  have pending := pending_handled popped
  refine ⟨inOrder.consistent.process request, ?_, fun change member => ?_⟩
  · exact inOrder.ordered.of_sublist (by rw [lined]; exact List.sublist_cons_self _ _) rfl
  · have before : change ∈ s.changes := by
      rw [mem_changes] at member ⊢
      rw [pending]
      exact List.mem_cons_of_mem _ member
    refine inOrder.consistent.behind_process (inOrder.behind change before) ?_
      (keeps request running change before)
    rcases List.mem_append.mp (mem_changes.mp member) with next | delayed
    · have line := inOrder.ordered.line
      rw [lined] at line
      exact (List.pairwise_cons.mp line).1 _ next
    · obtain ⟨record, here, same⟩ := List.mem_map.mp delayed
      rw [← same]
      exact inOrder.ordered.ahead request (by rw [lined]; exact List.mem_cons_self) record here

theorem change?_of_reports {request : RadioRequest} (reports : Radio.reports request = true) :
    request.change? = none := by
  cases request <;> first | rfl | cases reports

/-- The events of the call that was dialed find it. -/
theorem behind_dialed {radio : Radio} {request : RadioRequest} {index : Nat}
    (consistent : radio.Consistent) (adds : radio.newCallState request = some .dialing)
    (free : radio.freeIndex = some index) (next : NextState) :
    (radio.process request).radio.Behind ⟨index, next, radio.created⟩ := by
  intro call defined
  have acts := consistent.acts_process request index
  unfold Radio.Acts at acts
  rw [(Radio.freeIndex_eq_some free).2.2] at acts
  generalize (radio.process request).radio.calls.get index = left at acts defined
  cases acts with
  | same => cases defined
  | added new admitted room here object =>
      cases defined
      rw [adds] at admitted
      exact ⟨Or.inl object, by rw [← Option.some.inj admitted]; rfl⟩

theorem mem_dialEvents {transitionFlag : Bool} {index object : Nat} {change : CallStateChange}
    (event : .callStateChange change ∈
      (Radio.dialEvents transitionFlag index object).map Prod.fst) :
    change = ⟨index, change.nextState, object⟩ := by
  unfold Radio.dialEvents at event
  cases transitionFlag <;> simp at event
  · rcases event with rfl | rfl | rfl <;> rfl
  · rw [event]

theorem InOrder.process (inOrder : s.InOrder) {elapsed : List Nat}
    (keeps : s.KeepsPace (.process elapsed)) (stepped : s.step (.process elapsed) = some s') :
    s'.InOrder := by
  obtain ⟨request, popped, running, rfl⟩ := step_process stepped
  have handled := inOrder.handled keeps popped running
  have schedules := inOrder.consistent.schedules_process request
  generalize (s.radio.process request).unsolicited = unsolicited at schedules
  generalize (s.radio.process request).scheduled = scheduled at schedules ⊢
  cases schedules with
  | reports _ _ only silent =>
      exact handled.schedule_quiet (fun entry member => change?_of_reports (only entry member)) _
  | rings admits => exact handled.schedule_quiet (by simp [RadioRequest.change?]) _
  | ringsAgain asked unprocessed =>
      exact handled.schedule_quiet (by simp [RadioRequest.change?]) _
  | dialed index adds room free =>
      have clear (change : CallStateChange) (member : change ∈ (s.handled request).changes)
          (same : change.callIndex = index) : change.nextState = .dialing := by
        have before : change ∈ s.changes := by
          rw [mem_changes] at member ⊢
          rw [pending_handled popped]
          exact List.mem_cons_of_mem _ member
        by_contra later
        exact keeps request running change before
          (Or.inl ⟨_, adds, room, same ▸ free, fun both => later both.2⟩)
      refine ⟨?_, handled.ordered.schedule_dialEvents _ clear _ _, fun change member => ?_⟩
      · rw [radio_schedule]
        exact handled.consistent
      · rw [radio_schedule]
        rcases changes_schedule _ _ _ member with new | old
        · rw [mem_dialEvents new]
          exact behind_dialed inOrder.consistent adds free change.nextState
        · exact handled.behind change old

/-- A step keeps the order, where it keeps pace. -/
theorem InOrder.step {event : RadioEvent} (inOrder : s.InOrder) (keeps : s.KeepsPace event)
    (stepped : s.step event = some s') : s'.InOrder := by
  cases event with
  | add request delay => exact inOrder.add stepped
  | tick milliseconds =>
      cases stepped
      exact inOrder.of_radio (inOrder.ordered.wait milliseconds) rfl fun _ member => member
  | pop moved =>
      refine inOrder.of_radio (inOrder.ordered.pop stepped) ?_ fun change member => ?_
      · obtain ⟨-, ⟨_, _, -, rfl⟩ | ⟨-, _, _, -, rfl⟩⟩ := step_pop stepped <;> rfl
      · rw [mem_changes] at member ⊢
        exact (pending_pop stepped).subset member
  | read =>
      have pending := pending_read stepped
      obtain ⟨request, released, rfl⟩ := step_read stepped
      refine inOrder.of_radio (inOrder.ordered.of_sublist ?_ rfl) rfl fun change member => ?_
      · rw [line, line, released]
        exact List.Sublist.refl _
      · rw [mem_changes] at member ⊢
        exact pending ▸ member
  | process elapsed => exact inOrder.process keeps stepped

/-- In order, an event finds its own call or leaves the calls as they are. -/
theorem InOrder.eventOwnCall (inOrder : s.InOrder) (event : RadioEvent) : s.OnlyOwnCall event := by
  intro request running change isChange s' stepped index _ call defined
  obtain rfl : request = .callStateChange change := by
    cases request <;> cases isChange
    rfl
  cases event with
  | process elapsed =>
      obtain ⟨found, popped, same, rfl⟩ := step_process stepped
      obtain rfl := Option.some.inj (same.symm.trans running)
      have pending : change ∈ s.changes := by
        rw [mem_changes, pending_handled popped]
        exact List.mem_cons_self
      have acts := inOrder.consistent.acts_process (.callStateChange change) index
      unfold Radio.Acts at acts
      rw [radio_schedule]
      change ∃ after ∈ (s.radio.process (.callStateChange change)).radio.calls.get index, _
      rw [defined] at acts
      generalize (s.radio.process (.callStateChange change)).radio.calls.get index = left at acts ⊢
      cases acts with
      | same => exact ⟨call, rfl, Or.inl rfl⟩
      | changed _ applied asked here =>
          cases asked
          obtain ⟨own, upTo⟩ := inOrder.behind change pending call (here ▸ defined)
          refine ⟨_, rfl, ?_⟩
          by_cases already : call.state = change.nextState.state
          · exact Or.inl (by rw [← already])
          · have forward : call.state.forward change.nextState = true := by
              simp [CallState.forward, upTo, already]
            refine Or.inr ⟨own.resolve_right fun dialing => already ?_, forward, rfl⟩
            rw [dialing] at upTo ⊢
            rcases upTo_states upTo with state | state | state <;> rw [state] at upTo ⊢
            · rfl
            · cases upTo
            · cases upTo
      | edited _ edit found done => cases found
      | hungUp _ asked => cases asked
      | hungUpRemote _ data asked => cases asked
      | answered _ asked => cases asked
      | refused _ asked => cases asked
      | alerted _ asked => cases asked
      | activated _ asked => cases asked
  | _ => cases running

/-- **The events of a call reach that call alone, and bring it forward**, in every run in which
no request overtakes them. -/
theorem onlyOwnCall (events : List RadioEvent)
    (keeps : StepsMeet RadioWorker.step KeepsPace RadioWorker.initial events) :
    StepsMeet RadioWorker.step OnlyOwnCall RadioWorker.initial events :=
  StepsMeet.mono_of_invariant (fun _ _ _ inOrder pace stepped => inOrder.step pace stepped)
    (fun _ event inOrder _ => inOrder.eventOwnCall event) inOrder_initial keeps

/-- A call is dialed, and its events take it to ACTIVE. -/
def dialedCall : List RadioEvent :=
  [.add (.dial (some ⟨some "555"⟩)) 0] ++ turn [] ++ turn [] ++ turn [] ++ [.tick 1000] ++
    turn [⟨1000, .callStateChange ⟨1, .alerting, 0⟩⟩] ++ turn [] ++ [.tick 1000] ++
    turn [⟨2000, .callStateChange ⟨1, .active, 0⟩⟩]

theorem onlyOwnCall_dialedCall :
    (run RadioWorker.step RadioWorker.initial dialedCall).map
        (fun s => (s.radio.calls.get 1).map RilCall.state) = some (some .active) ∧
      StepsMeet RadioWorker.step OnlyOwnCall RadioWorker.initial dialedCall :=
  ⟨by decide, onlyOwnCall dialedCall (by decide)⟩

/-- The dialed call is hung up, and an incoming call takes over index 1. A second after the
dialing it is ALERTING. -/
def reusedIndex : List RadioEvent :=
  [.add (.dial (some ⟨some "555"⟩)) 0, .add (.hangUp (some 1)) 0,
    .add (.startInComingCall (some "556")) 0] ++
    turn [] ++ turn [] ++ turn [] ++ turn [] ++ turn [] ++ turn [] ++ [.tick 1000] ++
    turn [⟨1000, .callStateChange ⟨1, .alerting, 0⟩⟩]

theorem reusedIndex_alerting :
    ¬ ∀ events, StepsMeet RadioWorker.step OnlyOwnCall RadioWorker.initial events :=
  fun always => absurd (always reusedIndex) (by decide)

end RadioWorker

end RildHisi.MockRil
