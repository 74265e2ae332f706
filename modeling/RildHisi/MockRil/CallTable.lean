import RildHisi.Library.Runs
import RildHisi.MockRil.SimulatedRadio

/-!
Owns the invariant of the array of calls: the counter, the positions and the single call
that rings. What an operation does to the array is stated by position first; the invariant
is read off that.
-/

namespace RildHisi.MockRil.Radio

open RildHisi.Library

/-- The call at the index is INCOMING or WAITING. -/
def RingsAt (radio : Radio) (index : Nat) : Prop :=
  (radio.calls.get index).any (fun call => call.state.ringing) = true

instance (radio : Radio) (index : Nat) : Decidable (radio.RingsAt index) := by
  unfold RingsAt
  infer_instance

/-- The call table is in order. -/
structure Consistent (radio : Radio) : Prop where
  count : radio.numberActiveCalls = radio.calls.count
  atMost : radio.numberActiveCalls ≤ maxNumberActiveCalls
  placed : ∀ index call, radio.calls.get index = some call →
    1 ≤ index ∧ index ≤ maxNumberActiveCalls ∧ call.index = index
  single : ∀ first second, radio.RingsAt first → radio.RingsAt second → first = second

/-! ### Reading -/

theorem ringsAt_iff {radio : Radio} {index : Nat} :
    radio.RingsAt index ↔
      ∃ call, radio.calls.get index = some call ∧ call.state.ringing = true := by
  unfold RingsAt
  cases radio.calls.get index <;> simp

theorem inState_iff {radio : Radio} {state : CallState} {index : Nat} :
    radio.InState state index ↔
      ∃ call, radio.calls.get index = some call ∧ call.state = state := by
  unfold InState
  cases radio.calls.get index <;> simp

theorem mem_indices {radio : Radio} {index : Nat} {call : RilCall}
    (defined : radio.calls.get index = some call) : index ∈ radio.indices :=
  List.mem_range.mpr (SparseArray.lt_length_of_get defined)

@[simp] theorem getCall_natCast (radio : Radio) (index : Nat) :
    radio.getCall index = radio.calls.get index := by
  simp [getCall]

theorem getCall_eq_some {radio : Radio} {index : Int} {call : RilCall}
    (found : radio.getCall index = some call) :
    index = index.toNat ∧ radio.calls.get index.toNat = some call := by
  unfold getCall at found
  split_ifs at found with natural
  exact ⟨(Int.toNat_of_nonneg natural).symm, found⟩

namespace Consistent

variable {radio : Radio}

theorem initial : Radio.initial.Consistent where
  count := by simp [Radio.initial]
  atMost := Nat.zero_le _
  placed index call defined := by simp [Radio.initial] at defined
  single first second here := by simp [RingsAt, Radio.initial] at here

/-- The invariant reads the array and the counter alone. -/
theorem of_calls {after : Radio} (consistent : radio.Consistent)
    (calls : after.calls = radio.calls)
    (number : after.numberActiveCalls = radio.numberActiveCalls) : after.Consistent where
  count := by rw [calls, number]; exact consistent.count
  atMost := number ▸ consistent.atMost
  placed := by rw [calls]; exact consistent.placed
  single := by
    unfold RingsAt
    rw [calls]
    exact consistent.single

theorem get_of_noCalls (consistent : radio.Consistent) (noCalls : radio.numberActiveCalls = 0)
    (index : Nat) : radio.calls.get index = none :=
  SparseArray.get_eq_none_of_count (consistent.count ▸ noCalls) index

theorem noCalls_or_get (consistent : radio.Consistent) {index : Nat} {call : RilCall}
    (defined : radio.calls.get index = some call) : 0 < radio.numberActiveCalls :=
  consistent.count ▸ SparseArray.count_pos_of_get defined

/-- One of the seven positions is free while there are fewer than seven calls. -/
theorem exists_freeIndex (consistent : radio.Consistent)
    (room : radio.numberActiveCalls < maxNumberActiveCalls) :
    ∃ index, radio.freeIndex = some index := by
  cases free : radio.freeIndex with
  | some index => exact ⟨index, rfl⟩
  | none =>
      have full : maxNumberActiveCalls ≤ radio.calls.count := by
        refine SparseArray.le_count_of_defined fun index (above : 1 ≤ index) below => ?_
        have := List.find?_eq_none.mp free index (List.mem_range'_1.mpr ⟨above, below⟩)
        simpa [Option.isSome_iff_ne_none] using this
      have := consistent.count
      omega

end Consistent

theorem freeIndex_eq_some {radio : Radio} {index : Nat} (free : radio.freeIndex = some index) :
    1 ≤ index ∧ index ≤ maxNumberActiveCalls ∧ radio.calls.get index = none := by
  have position := List.mem_range'_1.mp (List.mem_of_find?_eq_some free)
  have undefined := List.find?_some free
  refine ⟨position.1, by omega, ?_⟩
  simpa using undefined

/-! ### What the operations do to each position -/

theorem get_setState (radio : Radio) (index other : Nat) (state : CallState) :
    (radio.setState index state).calls.get other =
      if other = index then (radio.calls.get index).map (fun call => { call with state })
      else radio.calls.get other := by
  unfold setState
  cases defined : radio.calls.get index with
  | none =>
      split_ifs with same
      · rw [same, defined]
        rfl
      · rfl
  | some call => exact SparseArray.get_put _ _ _ _

@[simp] theorem numberActiveCalls_setState (radio : Radio) (index : Nat) (state : CallState) :
    (radio.setState index state).numberActiveCalls = radio.numberActiveCalls := by
  unfold setState
  cases radio.calls.get index <;> rfl

theorem count_setState (radio : Radio) (index : Nat) (state : CallState) :
    (radio.setState index state).calls.count = radio.calls.count := by
  unfold setState
  cases defined : radio.calls.get index with
  | none => rfl
  | some call => exact SparseArray.count_put_of_some _ defined

/-- The call is removed and returned, if there is one. -/
theorem Consistent.removeCall_cases {radio : Radio} (consistent : radio.Consistent)
    (index : Int) :
    radio.getCall index = none ∧ radio.removeCall index = (none, radio) ∨
      ∃ call, radio.getCall index = some call ∧ (radio.removeCall index).1 = some call := by
  cases found : radio.getCall index with
  | none => simp [removeCall, found]
  | some call =>
      have positive := consistent.noCalls_or_get (getCall_eq_some found).2
      simp [removeCall, found, positive]

theorem Consistent.get_removeCall {radio : Radio} (consistent : radio.Consistent) (index : Int)
    (other : Nat) :
    (radio.removeCall index).2.calls.get other =
      if index = other then none else radio.calls.get other := by
  cases found : radio.getCall index with
  | none =>
      have same : (radio.removeCall index).2 = radio := by simp [removeCall, found]
      rw [same]
      split_ifs with here
      · simpa [here] using found
      · rfl
  | some call =>
      obtain ⟨natural, defined⟩ := getCall_eq_some found
      have positive := consistent.noCalls_or_get defined
      have deleted : (radio.calls.delete index.toNat).get other =
          if index = other then none else radio.calls.get other := by
        rw [SparseArray.get_delete]
        exact if_congr (by omega) rfl rfl
      have counted := SparseArray.count_delete defined
      have number := consistent.count
      simp only [removeCall, if_pos positive, found]
      split_ifs at deleted ⊢ with last here
      · rfl
      · rw [SparseArray.get_empty, ← deleted]
        exact (SparseArray.get_eq_none_of_count (by omega) other).symm
      · exact deleted
      · exact deleted

/-- The radio with one more call. -/
def withCall (radio : Radio) (index : Nat) (call : RilCall) : Radio :=
  { radio with
    numberActiveCalls := radio.numberActiveCalls + 1
    created := radio.created + 1
    calls := radio.calls.put index call }

theorem get_withCall (radio : Radio) (index other : Nat) (call : RilCall) :
    (radio.withCall index call).calls.get other =
      if other = index then some call else radio.calls.get other :=
  SparseArray.get_put _ _ _ _

/-- A call is added at the first free position, unless there are seven. -/
theorem Consistent.addCall_cases {radio : Radio} (consistent : radio.Consistent)
    (state : CallState) (number : Option String) (name : String) :
    radio.numberActiveCalls = maxNumberActiveCalls ∧
        radio.addCall state number name = (none, radio) ∨
      radio.numberActiveCalls < maxNumberActiveCalls ∧
        ∃ index call, radio.freeIndex = some index ∧
          call = ⟨state, index, number, name, radio.created⟩ ∧
          radio.addCall state number name = (some call, radio.withCall index call) := by
  by_cases room : radio.numberActiveCalls < maxNumberActiveCalls
  · obtain ⟨index, free⟩ := consistent.exists_freeIndex room
    refine Or.inr ⟨room, index, _, free, rfl, ?_⟩
    simp only [addCall, if_pos room, free, withCall]
  · refine Or.inl ⟨?_, by simp only [addCall, if_neg room]⟩
    have := consistent.atMost
    omega

/-! ### The operations keep the invariant -/

namespace Consistent

variable {radio : Radio}

theorem setState (consistent : radio.Consistent) (index : Nat) {state : CallState}
    (quiet : state.ringing = false) : (radio.setState index state).Consistent where
  count := by rw [numberActiveCalls_setState, count_setState]; exact consistent.count
  atMost := by rw [numberActiveCalls_setState]; exact consistent.atMost
  placed other call defined := by
    rw [get_setState] at defined
    split_ifs at defined with same
    · obtain ⟨before, here, rfl⟩ := Option.map_eq_some_iff.mp defined
      exact same ▸ consistent.placed index before here
    · exact consistent.placed other call defined
  single first second := by
    have still (other : Nat) (rings : (radio.setState index state).RingsAt other) :
        radio.RingsAt other := by
      obtain ⟨call, defined, ringing⟩ := ringsAt_iff.mp rings
      rw [get_setState] at defined
      split_ifs at defined with same
      · obtain ⟨before, here, rfl⟩ := Option.map_eq_some_iff.mp defined
        rw [quiet] at ringing
        cases ringing
      · exact ringsAt_iff.mpr ⟨call, defined, ringing⟩
    exact fun here there => consistent.single first second (still first here) (still second there)

theorem removeCall (consistent : radio.Consistent) (index : Int) :
    (radio.removeCall index).2.Consistent where
  count := by
    cases found : radio.getCall index with
    | none =>
        have same : (radio.removeCall index).2 = radio := by simp [Radio.removeCall, found]
        rw [same]
        exact consistent.count
    | some call =>
        have defined := (getCall_eq_some found).2
        have positive := consistent.noCalls_or_get defined
        have counted := SparseArray.count_delete defined
        have number := consistent.count
        simp only [Radio.removeCall, if_pos positive, found]
        split_ifs with last
        · exact last
        · omega
  atMost := by
    refine Nat.le_trans ?_ consistent.atMost
    unfold Radio.removeCall
    split_ifs
    · cases radio.getCall index with
      | none => exact Nat.le_refl _
      | some call => exact Nat.sub_le _ _
    · exact Nat.le_refl _
  placed other call defined := by
    rw [consistent.get_removeCall] at defined
    split_ifs at defined
    exact consistent.placed other call defined
  single first second := by
    have still (other : Nat) (rings : (radio.removeCall index).2.RingsAt other) :
        radio.RingsAt other := by
      unfold RingsAt at rings ⊢
      rw [consistent.get_removeCall] at rings
      split_ifs at rings
      · cases rings
      · exact rings
    exact fun here there => consistent.single first second (still first here) (still second there)

theorem withCall (consistent : radio.Consistent) {index : Nat} {call : RilCall}
    (room : radio.numberActiveCalls < maxNumberActiveCalls)
    (free : radio.freeIndex = some index) (placed : call.index = index)
    (alone : call.state.ringing = true → ∀ other, ¬ radio.RingsAt other) :
    (radio.withCall index call).Consistent := by
  obtain ⟨first, last, hole⟩ := freeIndex_eq_some free
  have rings (other : Nat) (here : (radio.withCall index call).RingsAt other) :
      other = index ∧ call.state.ringing = true ∨ radio.RingsAt other := by
    obtain ⟨found, defined, ringing⟩ := ringsAt_iff.mp here
    rw [get_withCall] at defined
    split_ifs at defined with new
    · exact Or.inl ⟨new, Option.some.inj defined ▸ ringing⟩
    · exact Or.inr (ringsAt_iff.mpr ⟨found, defined, ringing⟩)
  refine ⟨?_, room, ?_, ?_⟩
  · exact (SparseArray.count_put_of_none _ hole).symm ▸ congrArg (· + 1) consistent.count
  · intro other found defined
    rw [get_withCall] at defined
    split_ifs at defined with new
    · rw [← Option.some.inj defined, new]
      exact ⟨first, last, placed⟩
    · exact consistent.placed other found defined
  · intro one other here there
    rcases rings one here with ⟨same, ringing⟩ | before
    · rcases rings other there with ⟨same', -⟩ | before'
      · rw [same, same']
      · exact absurd before' (alone ringing other)
    · rcases rings other there with ⟨-, ringing⟩ | before'
      · exact absurd before (alone ringing one)
      · exact consistent.single one other before before'

theorem addCall (consistent : radio.Consistent) {state : CallState}
    (alone : state.ringing = true → ∀ index, ¬ radio.RingsAt index) (number : Option String)
    (name : String) : (radio.addCall state number name).2.Consistent := by
  obtain ⟨-, same⟩ | ⟨room, index, call, free, rfl, same⟩ :=
    consistent.addCall_cases state number name
  · rw [same]
    exact consistent
  · rw [same]
    exact consistent.withCall room free rfl alone

end Consistent

/-! ### The loops -/

/-- No edit makes a call ring. -/
def Quiet (edits : Nat → CallState → Option CallEdit) : Prop :=
  ∀ index before after, edits index before = some (.become after) → after.ringing = false

namespace Consistent

variable {radio : Radio}

theorem edit (consistent : radio.Consistent) (index : Nat) {edit : CallEdit}
    (quiet : ∀ after, edit = .become after → after.ringing = false) :
    (radio.edit index edit).Consistent := by
  cases edit with
  | keep => exact consistent
  | become state => exact consistent.setState index (quiet state rfl)
  | remove => exact consistent.removeCall index
  | removeProcessed => exact (consistent.removeCall index).of_calls rfl rfl

theorem forEachCall (consistent : radio.Consistent)
    {edits : Nat → CallState → Option CallEdit} (quiet : Quiet edits) (indices : List Nat) :
    (Radio.forEachCall edits indices radio).1.Consistent := by
  induction indices generalizing radio with
  | nil => exact consistent
  | cons index rest inductionHypothesis =>
      unfold Radio.forEachCall
      split
      · exact inductionHypothesis consistent
      · split
        · exact consistent
        · next _ _ _ found =>
            refine inductionHypothesis (consistent.edit index ?_)
            exact fun after same => quiet index _ after (same ▸ found)

end Consistent

/-- What `editCalls` leaves is what its loop leaves. -/
theorem editCalls_radio (radio : Radio) (edits : Nat → CallState → Option CallEdit) :
    (radio.editCalls edits).radio = (forEachCall edits radio.indices radio).1 := by
  unfold editCalls
  split <;> next _ same => rw [same]

theorem editActiveCalls_radio (radio : Radio) (edits : Nat → CallState → Option CallEdit) :
    (radio.editActiveCalls edits).radio =
      if radio.numberActiveCalls = 0 then radio
      else (forEachCall edits radio.indices radio).1 := by
  unfold editActiveCalls
  split_ifs
  · rfl
  · exact editCalls_radio radio edits

/-! ### What the handlers do -/

section

variable {radio : Radio} {handled : Handled}

/-- What holds of every result of a handler, and of the answer to an exception, holds of
`process` if it does not depend on `lastReq`. -/
theorem process_of_dispatch (property : Handled → Prop) (request : RadioRequest)
    (thrown : property { radio, rilErrCode := rilERequestNotSupported })
    (returned : ∀ handled, radio.dispatch request = some handled → property handled)
    (lastReq : ∀ handled, property handled →
      property { handled with radio := { handled.radio with lastReq := request.reqNum } }) :
    property (radio.process request) := by
  have holds : property ((radio.dispatch request).getD
      { radio, rilErrCode := rilERequestNotSupported }) := by
    cases result : radio.dispatch request with
    | none => exact thrown
    | some handled => exact returned handled result
  unfold Radio.process
  simp only
  split_ifs
  · exact lastReq _ holds
  · exact holds

theorem rilRequestDial_radio {data : Option ReqDial}
    (result : radio.rilRequestDial data = some handled) :
    ∃ request, data = some request ∧
      handled.radio = (radio.addCall .dialing request.address "").2 := by
  obtain ⟨request, present, dialed⟩ := Option.bind_eq_some_iff.mp result
  refine ⟨request, present, ?_⟩
  generalize radio.addCall .dialing request.address "" = outcome at dialed
  obtain ⟨call, after⟩ := outcome
  cases call <;> cases dialed <;> rfl

/-- HANGUP removes the call and tells nobody. -/
theorem rilRequestHangUp_radio {connectionIndex : Option Int}
    (result : radio.rilRequestHangUp connectionIndex = some handled) :
    ∃ index, connectionIndex = some index ∧ handled.radio = (radio.removeCall index).2 ∧
      handled.scheduled = [] ∧ handled.unsolicited = [] := by
  obtain ⟨index, present, hungUp⟩ := Option.bind_eq_some_iff.mp result
  refine ⟨index, present, ?_⟩
  generalize radio.removeCall index = outcome at hungUp
  obtain ⟨call, after⟩ := outcome
  cases call <;> cases hungUp <;> exact ⟨rfl, rfl, rfl⟩

theorem rilRequestSwitch_cases (radio : Radio) :
    radio.rilRequestSwitchWaitingOrHoldingAndActive = { radio } ∨
      radio.lastReq ≠ 15 ∧
        radio.rilRequestSwitchWaitingOrHoldingAndActive = radio.editActiveCalls switchEdit := by
  unfold rilRequestSwitchWaitingOrHoldingAndActive
  split_ifs with twice
  · exact Or.inl rfl
  · exact Or.inr ⟨twice, rfl⟩

theorem rilRequestConference_cases (radio : Radio) :
    radio.rilRequestConference = { radio, rilErrCode := rilEGenericFailure } ∨
      radio.rilRequestConference = radio.editCalls conferenceEdit := by
  unfold rilRequestConference
  split_ifs
  · exact Or.inl rfl
  · exact Or.inr rfl
  · exact Or.inl rfl

/-- ANSWER takes a single INCOMING call, and removes a single call in another state. -/
theorem rilRequestAnswer_cases (radio : Radio) :
    radio.rilRequestAnswer = { radio, rilErrCode := rilEGenericFailure } ∨
      radio.rilRequestAnswer = { radio := { radio with incomingCallIsProcessed := true } } ∨
      (∃ index, radio.InState .incoming index ∧ radio.rilRequestAnswer =
        { radio := { radio.setState index .active with incomingCallIsProcessed := true } }) ∨
      ∃ index : Nat, radio.numberActiveCalls = 1 ∧ ¬ radio.InState .incoming index ∧
        radio.rilRequestAnswer =
          { radio := (radio.removeCall index).2, rilErrCode := rilEGenericFailure } := by
  unfold rilRequestAnswer
  split_ifs with single
  · exact Or.inl rfl
  · apply Or.inr
    split
    · exact Or.inl rfl
    · next index _ =>
        apply Or.inr
        split_ifs with incoming
        · exact Or.inl ⟨index, incoming, rfl⟩
        · exact Or.inr ⟨index, not_not.mp single, incoming, rfl⟩

theorem rilRequestSeparateConnection_cases {index : Option Int}
    (result : radio.rilRequestSeparateConnection index = some handled) :
    ∃ separated, index = some separated ∧
      (handled = { radio, rilErrCode := rilEGenericFailure } ∨
        ∃ separateConn, radio.getCall separated = some separateConn ∧
          separateConn.state = .active ∧ handled = radio.editCalls (separateEdit separated)) := by
  obtain ⟨separated, present, after⟩ := Option.bind_eq_some_iff.mp result
  refine ⟨separated, present, ?_⟩
  split_ifs at after
  · exact Or.inl (Option.some.inj after).symm
  · split at after
    · exact Or.inl (Option.some.inj after).symm
    · next separateConn found =>
        split_ifs at after with active
        · exact Or.inl (Option.some.inj after).symm
        · exact Or.inr ⟨separateConn, found, not_not.mp active, (Option.some.inj after).symm⟩

/-- A new incoming call is added, or refused by the states of the others. -/
theorem startInComingCall_cases {phoneNumber : Option String}
    (result : radio.ctrlServerCmdStartInComingCall phoneNumber = some handled) :
    ∃ number, phoneNumber = some number ∧
      (handled = { radio, rilErrCode := ctrlStatusErr } ∨
        ∃ state, radio.incomingState = some state ∧ handled =
          { radio := { (radio.addCall state (some number) "").2 with
              incomingCallIsProcessed := false }
            rilErrCode := ctrlStatusOk
            scheduled := [(.unsolCallRing, 0)] }) := by
  obtain ⟨number, present, started⟩ := Option.bind_eq_some_iff.mp result
  refine ⟨number, present, ?_⟩
  split at started
  · exact Or.inl (Option.some.inj started).symm
  · next state admitted => exact Or.inr ⟨state, admitted, (Option.some.inj started).symm⟩

/-- The other side hangs up: a ringing call sets the flag. -/
theorem hangupConnRemote_cases {data : Option HangupConnRemote}
    (result : radio.ctrlServerCmdHangupConnRemote data = some handled) :
    ∃ request, data = some request ∧
      ((radio.removeCall request.connectionId).1 = none ∧ handled =
          { radio := (radio.removeCall request.connectionId).2, rilErrCode := ctrlStatusErr } ∨
        ∃ call, (radio.removeCall request.connectionId).1 = some call ∧ handled =
          { radio := { (radio.removeCall request.connectionId).2 with
              incomingCallIsProcessed := call.state.ringing ||
                (radio.removeCall request.connectionId).2.incomingCallIsProcessed
              lastCallFailCause := request.callFailCause }
            rilErrCode := ctrlStatusOk
            scheduled := [(.unsolCallStateChanged, 0)] }) := by
  obtain ⟨request, present, hungUp⟩ := Option.bind_eq_some_iff.mp result
  refine ⟨request, present, ?_⟩
  generalize radio.removeCall request.connectionId = outcome at hungUp ⊢
  obtain ⟨call, after⟩ := outcome
  cases call with
  | none => exact Or.inl ⟨rfl, (Option.some.inj hungUp).symm⟩
  | some call => exact Or.inr ⟨call, rfl, (Option.some.inj hungUp).symm⟩

theorem addDialingCall_cases {phoneNumber : Option String}
    (result : radio.ctrlServerCmdAddDialingCall phoneNumber = some handled) :
    ∃ number, phoneNumber = some number ∧
      (radio.countCallsInState .dialing = 0 ∧ handled =
          { radio := (radio.addCall .dialing (some number) "").2, rilErrCode := ctrlStatusOk } ∨
        handled = { radio, rilErrCode := ctrlStatusErr }) := by
  obtain ⟨number, present, added⟩ := Option.bind_eq_some_iff.mp result
  refine ⟨number, present, ?_⟩
  split_ifs at added with first
  · exact Or.inl ⟨first, (Option.some.inj added).symm⟩
  · exact Or.inr (Option.some.inj added).symm

end

/-! ### The handlers keep the invariant -/

theorem quiet_hangupWaitingOrBackgroundEdit : Quiet hangupWaitingOrBackgroundEdit := by
  intro index before after same
  cases before <;> cases same

theorem quiet_hangUpForegroundEdit : Quiet hangUpForegroundEdit := by
  intro index before after same
  cases before <;> cases same <;> rfl

theorem quiet_switchEdit : Quiet switchEdit := by
  intro index before after same
  cases before <;> cases same <;> rfl

theorem quiet_conferenceEdit : Quiet conferenceEdit := by
  intro index before after same
  cases before <;> cases same
  rfl

theorem quiet_separateEdit (separated : Int) : Quiet (separateEdit separated) := by
  intro index before after same
  unfold separateEdit at same
  split_ifs at same <;> cases same
  rfl

/-- A query leaves the radio as it is, and the queue. -/
theorem rilRequestQuery_quiet {radio : Radio} {asked : RadioQuery} {handled : Handled}
    (result : radio.rilRequestQuery asked = some handled) :
    handled.radio = radio ∧ handled.scheduled = [] ∧ handled.unsolicited = [] := by
  cases asked with
  | setMute state available =>
      obtain ⟨muted, -, done⟩ := Option.bind_eq_some_iff.mp result
      cases done
      exact ⟨rfl, rfl, rfl⟩
  | screenState state =>
      obtain ⟨screen, -, done⟩ := Option.bind_eq_some_iff.mp result
      cases done
      exact ⟨rfl, rfl, rfl⟩
  | _ => cases result; exact ⟨rfl, rfl, rfl⟩

/-- A new incoming call is let in where none rings. -/
theorem Consistent.not_ringsAt_of_incomingState {radio : Radio} (consistent : radio.Consistent)
    {state : CallState} (admitted : radio.incomingState = some state) (index : Nat) :
    ¬ radio.RingsAt index := by
  intro rings
  obtain ⟨call, defined, ringing⟩ := ringsAt_iff.mp rings
  unfold incomingState at admitted
  split_ifs at admitted with noCalls others
  · rw [consistent.get_of_noCalls noCalls] at defined
    cases defined
  · obtain ⟨-, -, notIncoming, notWaiting⟩ := others index (mem_indices defined) call defined
    cases shape : call.state <;> simp_all [CallState.ringing]

namespace Consistent

variable {radio : Radio} {handled : Handled}

theorem not_ringing_dialing (ringing : CallState.dialing.ringing = true) (index : Nat) :
    ¬ radio.RingsAt index := by
  cases ringing

theorem editActiveCalls (consistent : radio.Consistent)
    {edits : Nat → CallState → Option CallEdit} (quiet : Quiet edits) :
    (radio.editActiveCalls edits).radio.Consistent := by
  rw [editActiveCalls_radio]
  split_ifs
  · exact consistent
  · exact consistent.forEachCall quiet _

theorem rilRequestDial (consistent : radio.Consistent) {data : Option ReqDial}
    (result : radio.rilRequestDial data = some handled) : handled.radio.Consistent := by
  obtain ⟨request, -, dialed⟩ := rilRequestDial_radio result
  rw [dialed]
  exact consistent.addCall not_ringing_dialing request.address ""

theorem rilRequestHangUp (consistent : radio.Consistent) {connectionIndex : Option Int}
    (result : radio.rilRequestHangUp connectionIndex = some handled) :
    handled.radio.Consistent := by
  obtain ⟨index, -, hungUp, -⟩ := rilRequestHangUp_radio result
  rw [hungUp]
  exact consistent.removeCall index

theorem rilRequestSwitch (consistent : radio.Consistent) :
    radio.rilRequestSwitchWaitingOrHoldingAndActive.radio.Consistent := by
  rcases rilRequestSwitch_cases radio with same | ⟨-, same⟩
  · rw [same]
    exact consistent
  · rw [same]
    exact consistent.editActiveCalls quiet_switchEdit

theorem rilRequestConference (consistent : radio.Consistent) :
    radio.rilRequestConference.radio.Consistent := by
  rcases rilRequestConference_cases radio with same | same
  · rw [same]
    exact consistent
  · rw [same, editCalls_radio]
    exact consistent.forEachCall quiet_conferenceEdit _

theorem rilRequestAnswer (consistent : radio.Consistent) :
    radio.rilRequestAnswer.radio.Consistent := by
  rcases rilRequestAnswer_cases radio with same | same | ⟨index, -, same⟩ | ⟨index, -, -, same⟩
  · rw [same]
    exact consistent
  · rw [same]
    exact consistent.of_calls rfl rfl
  · rw [same]
    exact (consistent.setState index (rfl : CallState.active.ringing = false)).of_calls rfl rfl
  · rw [same]
    exact consistent.removeCall index

theorem rilRequestSeparateConnection (consistent : radio.Consistent) {index : Option Int}
    (result : radio.rilRequestSeparateConnection index = some handled) :
    handled.radio.Consistent := by
  obtain ⟨separated, -, rfl | ⟨-, -, -, rfl⟩⟩ := rilRequestSeparateConnection_cases result
  · exact consistent
  · rw [editCalls_radio]
    exact consistent.forEachCall (quiet_separateEdit separated) _

theorem cmdCallStateChange (consistent : radio.Consistent) (change : CallStateChange) :
    (radio.cmdCallStateChange change).radio.Consistent := by
  unfold Radio.cmdCallStateChange
  simp only
  split
  · exact consistent.setState _ (by cases change.nextState <;> rfl)
  · exact consistent.removeCall _

theorem startInComingCall (consistent : radio.Consistent) {phoneNumber : Option String}
    (result : radio.ctrlServerCmdStartInComingCall phoneNumber = some handled) :
    handled.radio.Consistent := by
  obtain ⟨number, -, rfl | ⟨state, admitted, rfl⟩⟩ := startInComingCall_cases result
  · exact consistent
  · have alone := consistent.not_ringsAt_of_incomingState admitted
    exact (consistent.addCall (fun _ => alone) _ _).of_calls rfl rfl

theorem hangupConnRemote (consistent : radio.Consistent) {data : Option HangupConnRemote}
    (result : radio.ctrlServerCmdHangupConnRemote data = some handled) :
    handled.radio.Consistent := by
  obtain ⟨request, -, ⟨-, rfl⟩ | ⟨call, -, rfl⟩⟩ := hangupConnRemote_cases result
  · exact consistent.removeCall request.connectionId
  · exact (consistent.removeCall request.connectionId).of_calls rfl rfl

theorem ctrlServerCmdMove (consistent : radio.Consistent) (before : CallState)
    {after : CallState} (quiet : after.ringing = false) :
    (radio.ctrlServerCmdMove before after).radio.Consistent := by
  unfold Radio.ctrlServerCmdMove
  split
  · exact consistent
  · exact consistent.setState _ quiet

theorem addDialingCall (consistent : radio.Consistent) {phoneNumber : Option String}
    (result : radio.ctrlServerCmdAddDialingCall phoneNumber = some handled) :
    handled.radio.Consistent := by
  obtain ⟨number, -, ⟨-, rfl⟩ | rfl⟩ := addDialingCall_cases result
  · exact consistent.addCall not_ringing_dialing _ _
  · exact consistent

/-- **Every handler keeps the call table in order.** -/
theorem dispatch (consistent : radio.Consistent) {request : RadioRequest}
    (result : radio.dispatch request = some handled) : handled.radio.Consistent := by
  cases request with
  | query asked => exact (rilRequestQuery_quiet result).1 ▸ consistent
  | dial data => exact consistent.rilRequestDial result
  | hangUp connectionIndex => exact consistent.rilRequestHangUp result
  | hangupWaitingOrBackground =>
      cases result
      exact consistent.editActiveCalls quiet_hangupWaitingOrBackgroundEdit
  | hangUpForegroundResumeBackground =>
      cases result
      exact consistent.editActiveCalls quiet_hangUpForegroundEdit
  | switchWaitingOrHoldingAndActive => cases result; exact consistent.rilRequestSwitch
  | conference => cases result; exact consistent.rilRequestConference
  | answer => cases result; exact consistent.rilRequestAnswer
  | separateConnection index => exact consistent.rilRequestSeparateConnection result
  | startInComingCall phoneNumber => exact consistent.startInComingCall result
  | hangupConnRemote data => exact consistent.hangupConnRemote result
  | setCallTransitionFlag flag =>
      obtain ⟨value, -, done⟩ := Option.bind_eq_some_iff.mp result
      cases done
      exact consistent.of_calls rfl rfl
  | setCallAlert => cases result; exact consistent.ctrlServerCmdMove _ rfl
  | setCallActive => cases result; exact consistent.ctrlServerCmdMove _ rfl
  | addDialingCall phoneNumber => exact consistent.addDialingCall result
  | delayTest => cases result; exact consistent
  | unsolSignalStrength => cases result; exact consistent
  | unsolCallStateChanged => cases result; exact consistent
  | callStateChange change => cases result; exact consistent.cmdCallStateChange change
  | unsolCallRing =>
      cases result
      unfold cmdUnsolCallRing
      split_ifs <;> exact consistent

theorem process (consistent : radio.Consistent) (request : RadioRequest) :
    (radio.process request).radio.Consistent := by
  apply process_of_dispatch (fun handled => handled.radio.Consistent)
  · exact consistent
  · exact fun handled result => consistent.dispatch result
  · exact fun handled kept => kept.of_calls rfl rfl

end Consistent

/-- **The call table is in order after every sequence of requests, commands and events.** -/
theorem callTable_consistent (requests : List RadioRequest) :
    (requests.foldl (fun radio request => (radio.process request).radio)
      Radio.initial).Consistent := by
  have along (radio : Radio) (consistent : radio.Consistent) :
      (requests.foldl (fun radio request => (radio.process request).radio) radio).Consistent := by
    induction requests generalizing radio with
    | nil => exact consistent
    | cons request rest inductionHypothesis =>
        exact inductionHypothesis _ (consistent.process request)
  exact along _ Consistent.initial

end RildHisi.MockRil.Radio
