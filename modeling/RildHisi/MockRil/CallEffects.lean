import RildHisi.MockRil.CallTable

/-!
Owns what a request of the simulated radio can do to one position of the array of calls,
to the ringing flag and to the queue of its worker. The loops are followed position by
position: a call is edited if the loop comes to it, and else left alone.
-/

namespace RildHisi.MockRil.Radio

open RildHisi.Library

/-! ### The loops by position -/

/-- What is left of the call. -/
def CallEdit.result (edit : CallEdit) (call : RilCall) : Option RilCall :=
  match edit with
  | .keep => some call
  | .become state => some { call with state }
  | .remove | .removeProcessed => none

/-- The loop fails at no call below the index. -/
def Reaches (radio : Radio) (edits : Nat → CallState → Option CallEdit) (index : Nat) : Prop :=
  ∀ lower < index, ∀ call ∈ radio.calls.get lower, (edits lower call.state).isSome = true

instance (radio : Radio) (edits : Nat → CallState → Option CallEdit) (index : Nat) :
    Decidable (radio.Reaches edits index) := by
  unfold Reaches
  infer_instance

theorem Consistent.get_edit {radio : Radio} (consistent : radio.Consistent) {index : Nat}
    {call : RilCall} (defined : radio.calls.get index = some call) (edit : CallEdit)
    (other : Nat) :
    (radio.edit index edit).calls.get other =
      if other = index then edit.result call else radio.calls.get other := by
  have removed : (radio.removeCall index).2.calls.get other =
      if other = index then none else radio.calls.get other := by
    rw [consistent.get_removeCall]
    exact if_congr (by omega) rfl rfl
  cases edit with
  | keep =>
      split_ifs with same
      · rw [same]
        exact defined
      · rfl
  | become state =>
      change (radio.setState index state).calls.get other = _
      rw [get_setState, defined]
      rfl
  | remove => exact removed
  | removeProcessed => exact removed

theorem flag_removeCall (radio : Radio) (index : Int) :
    (radio.removeCall index).2.incomingCallIsProcessed = radio.incomingCallIsProcessed := by
  unfold removeCall
  split_ifs
  · cases radio.getCall index <;> rfl
  · rfl

@[simp] theorem flag_setState (radio : Radio) (index : Nat) (state : CallState) :
    (radio.setState index state).incomingCallIsProcessed = radio.incomingCallIsProcessed := by
  unfold setState
  cases radio.calls.get index <;> rfl

theorem flag_edit (radio : Radio) (index : Nat) (edit : CallEdit) :
    (radio.edit index edit).incomingCallIsProcessed =
      (decide (edit = .removeProcessed) || radio.incomingCallIsProcessed) := by
  cases edit with
  | keep => rfl
  | become state => exact flag_setState radio index state
  | remove => exact flag_removeCall radio index
  | removeProcessed => rfl

/-- No loop clears the flag. -/
theorem flag_forEachCall {radio : Radio} {edits : Nat → CallState → Option CallEdit}
    (indices : List Nat) (processed : radio.incomingCallIsProcessed = true) :
    (forEachCall edits indices radio).1.incomingCallIsProcessed = true := by
  induction indices generalizing radio with
  | nil => exact processed
  | cons index rest inductionHypothesis =>
      unfold forEachCall
      split
      · exact inductionHypothesis processed
      · split
        · exact processed
        · apply inductionHypothesis
          rw [flag_edit, processed, Bool.or_true]

/-- The loop comes to the call and edits it so. -/
structure Reached (radio : Radio) (edits : Nat → CallState → Option CallEdit) (start index : Nat)
    (call : RilCall) (edit : CallEdit) : Prop where
  above : start ≤ index
  defined : radio.calls.get index = some call
  found : edits index call.state = some edit
  passes : ∀ lower, start ≤ lower → lower < index → ∀ other ∈ radio.calls.get lower,
    (edits lower other.state).isSome = true

/-- By induction on the positions that are left: the loop edits the position it is at and
none in front of it. -/
theorem Consistent.get_forEachCall {radio : Radio} (consistent : radio.Consistent)
    {edits : Nat → CallState → Option CallEdit} (quiet : Quiet edits) (start size index : Nat) :
    (Radio.forEachCall edits (List.range' start size) radio).1.calls.get index =
        radio.calls.get index ∨
      ∃ call edit, radio.Reached edits start index call edit ∧
        (Radio.forEachCall edits (List.range' start size) radio).1.calls.get index =
          edit.result call ∧
        (edit = .removeProcessed →
          (Radio.forEachCall edits (List.range' start size) radio).1.incomingCallIsProcessed =
            true) := by
  induction size generalizing radio start with
  | zero => exact Or.inl rfl
  | succ size inductionHypothesis =>
      rw [List.range'_succ, Radio.forEachCall]
      split
      · next hole =>
          apply (inductionHypothesis consistent (start + 1)).imp_right
          rintro ⟨call, edit, reached, becomes⟩
          refine ⟨call, edit, ⟨by have := reached.above; omega, reached.defined, reached.found,
            fun lower from_ below other member => ?_⟩, becomes⟩
          rcases Nat.eq_or_lt_of_le from_ with rfl | beyond
          · rw [hole] at member
            cases member
          · exact reached.passes lower beyond below other member
      · next call defined =>
          split
          · exact Or.inl rfl
          · next edit found =>
              have kept : (radio.edit start edit).Consistent :=
                consistent.edit start fun after same => quiet start _ after (same ▸ found)
              have elsewhere (other : Nat) (apart : start < other) :
                  (radio.edit start edit).calls.get other = radio.calls.get other := by
                rw [consistent.get_edit defined, if_neg (by omega)]
              rcases inductionHypothesis kept (start + 1) with same | ⟨last, later, reached, becomes⟩
              · rcases Nat.lt_trichotomy start index with above | rfl | below
                · exact Or.inl (same.trans (elsewhere index above))
                · refine Or.inr ⟨call, edit, ⟨Nat.le_refl _, defined, found, ?_⟩, ?_, ?_⟩
                  · intro lower from_ before
                    omega
                  · rw [same, consistent.get_edit defined, if_pos rfl]
                  · intro removes
                    exact flag_forEachCall _ (by rw [flag_edit, removes]; rfl)
                · refine Or.inl (same.trans ?_)
                  rw [consistent.get_edit defined, if_neg (by omega)]
              · have above := reached.above
                refine Or.inr ⟨last, later, ⟨by omega, ?_, reached.found, ?_⟩, becomes⟩
                · rw [← elsewhere index above]
                  exact reached.defined
                · intro lower from_ before other member
                  rcases Nat.eq_or_lt_of_le from_ with rfl | beyond
                  · obtain rfl : call = other := Option.some.inj (defined.symm.trans member)
                    rw [found]
                    rfl
                  · exact reached.passes lower beyond before other
                      (by rw [elsewhere lower beyond]; exact member)

/-! ### What a request can do to a position -/

/-- The loop that the request runs. -/
def edits (radio : Radio) : RadioRequest → Option (Nat → CallState → Option CallEdit)
  | .hangupWaitingOrBackground => some hangupWaitingOrBackgroundEdit
  | .hangUpForegroundResumeBackground => some hangUpForegroundEdit
  | .switchWaitingOrHoldingAndActive => if radio.lastReq = 15 then none else some switchEdit
  | .conference => some conferenceEdit
  | .separateConnection (some index) =>
      if (radio.getCall index).any (fun call => call.state = .active) then
        some (separateEdit index)
      else none
  | _ => none

/-- What the loop of the request does with the call at the index, if it comes to it. -/
def editAt (radio : Radio) (request : RadioRequest) (index : Nat) : Option CallEdit := do
  let edits ← radio.edits request
  let call ← radio.calls.get index
  if radio.Reaches edits index then edits index call.state else none

/-- The edits of all the loops, by the state of the call. -/
theorem editAt_cases {radio : Radio} {request : RadioRequest} {index : Nat} {call : RilCall}
    {edit : CallEdit} (defined : radio.calls.get index = some call)
    (found : radio.editAt request index = some edit) :
    edit = .keep ∨
      call.state = .active ∧ (edit = .remove ∨ edit = .become .holding) ∨
      (call.state = .holding ∨ call.state = .waiting) ∧ edit = .become .active ∨
      (call.state = .holding ∨ call.state.ringing = true) ∧ edit = .removeProcessed := by
  obtain ⟨edits, runs, reached⟩ := Option.bind_eq_some_iff.mp found
  obtain ⟨same, here, found⟩ := Option.bind_eq_some_iff.mp reached
  obtain rfl : call = same := Option.some.inj (defined.symm.trans here)
  split_ifs at found
  unfold Radio.edits at runs
  split at runs
  · cases runs
    generalize call.state = state at found ⊢
    cases state <;> cases found <;> simp [CallState.ringing]
  · cases runs
    generalize call.state = state at found ⊢
    cases state <;> cases found <;> simp [CallState.ringing]
  · split_ifs at runs
    cases runs
    generalize call.state = state at found ⊢
    cases state <;> cases found <;> simp [CallState.ringing]
  · cases runs
    generalize call.state = state at found ⊢
    cases state <;> cases found <;> simp [CallState.ringing]
  · split_ifs at runs
    cases runs
    unfold separateEdit at found
    split_ifs at found with same active
    · exact Or.inl (Option.some.inj found).symm
    · exact Or.inr (Or.inl ⟨active, Or.inr (Option.some.inj found).symm⟩)
  · cases runs

/-- The state of the call that the request adds. -/
def newCallState (radio : Radio) : RadioRequest → Option CallState
  | .dial (some _) => some .dialing
  | .addDialingCall (some _) =>
      if radio.countCallsInState .dialing = 0 then some .dialing else none
  | .startInComingCall (some _) => radio.incomingState
  | _ => none

/-- All that a request can do to a position. `processed` is the flag behind it. -/
inductive Effect (radio : Radio) (request : RadioRequest) (processed : Bool) (index : Nat) :
    Option RilCall → Option RilCall → Prop
  | same (entry : Option RilCall) : Effect radio request processed index entry entry
  | added (call : RilCall) (admitted : radio.newCallState request = some call.state)
      (room : radio.numberActiveCalls < maxNumberActiveCalls)
      (free : radio.freeIndex = some index) (object : call.object = radio.created) :
      Effect radio request processed index none (some call)
  | edited (call : RilCall) (edit : CallEdit) (found : radio.editAt request index = some edit)
      (done : edit = .removeProcessed → processed = true) :
      Effect radio request processed index (some call) (edit.result call)
  | hungUp (call : RilCall) (asked : request = .hangUp (some index)) :
      Effect radio request processed index (some call) none
  | hungUpRemote (call : RilCall) (data : HangupConnRemote)
      (asked : request = .hangupConnRemote (some data))
      (done : call.state.ringing = true → processed = true) :
      Effect radio request processed index (some call) none
  | answered (call : RilCall) (asked : request = .answer) (state : call.state = .incoming)
      (done : processed = true) :
      Effect radio request processed index (some call) (some { call with state := .active })
  | refused (call : RilCall) (asked : request = .answer) (single : radio.numberActiveCalls = 1)
      (state : call.state ≠ .incoming) :
      Effect radio request processed index (some call) none
  | alerted (call : RilCall) (asked : request = .setCallAlert)
      (only : radio.movable .dialing = some index) (state : call.state = .dialing) :
      Effect radio request processed index (some call) (some { call with state := .alerting })
  | activated (call : RilCall) (asked : request = .setCallActive)
      (only : radio.movable .alerting = some index) (state : call.state = .alerting) :
      Effect radio request processed index (some call) (some { call with state := .active })
  | changed (call : RilCall) (change : CallStateChange) (asked : request = .callStateChange change)
      (here : change.callIndex = index) :
      Effect radio request processed index (some call)
        (some { call with state := change.nextState.state })

/-- What `request` does to the position on the way from `radio` to `after`. -/
def Acts (radio : Radio) (request : RadioRequest) (after : Radio) (index : Nat) : Prop :=
  Effect radio request after.incomingCallIsProcessed index (radio.calls.get index)
    (after.calls.get index)

section

variable {radio after : Radio} {request : RadioRequest} {handled : Handled}

theorem acts_same (calls : after.calls = radio.calls) (index : Nat) :
    radio.Acts request after index := by
  unfold Acts
  rw [calls]
  exact .same _

theorem Acts.of_calls {last : Radio} {index : Nat} (acts : radio.Acts request after index)
    (calls : last.calls = after.calls)
    (flag : last.incomingCallIsProcessed = after.incomingCallIsProcessed) :
    radio.Acts request last index := by
  unfold Acts at acts ⊢
  rw [calls, flag]
  exact acts

namespace Consistent

theorem acts_editCalls (consistent : radio.Consistent)
    {edits : Nat → CallState → Option CallEdit} (quiet : Quiet edits)
    (runs : radio.edits request = some edits) (index : Nat) :
    radio.Acts request (radio.editCalls edits).radio index := by
  rw [editCalls_radio]
  unfold Acts indices
  rw [List.range_eq_range']
  rcases consistent.get_forEachCall quiet 0 radio.calls.length index with same |
    ⟨call, edit, reached, becomes, done⟩
  · rw [same]
    exact .same _
  · rw [becomes, reached.defined]
    refine .edited call edit ?_ done
    have reaches : radio.Reaches edits index := fun lower below =>
      reached.passes lower (Nat.zero_le _) below
    simp only [editAt, runs, reached.defined, if_pos reaches, reached.found, Option.bind_eq_bind,
      Option.bind_some]

theorem acts_editActiveCalls (consistent : radio.Consistent)
    {edits : Nat → CallState → Option CallEdit} (quiet : Quiet edits)
    (runs : radio.edits request = some edits) (index : Nat) :
    radio.Acts request (radio.editActiveCalls edits).radio index := by
  unfold Radio.editActiveCalls
  split_ifs
  · exact acts_same rfl index
  · exact consistent.acts_editCalls quiet runs index

theorem acts_withCall {index : Nat} {call : RilCall}
    (admitted : radio.newCallState request = some call.state)
    (room : radio.numberActiveCalls < maxNumberActiveCalls)
    (free : radio.freeIndex = some index) (object : call.object = radio.created) (other : Nat)
    (calls : after.calls = (radio.withCall index call).calls) :
    radio.Acts request after other := by
  unfold Acts
  rw [calls, get_withCall]
  split_ifs with same
  · subst same
    rw [(freeIndex_eq_some free).2.2]
    exact .added call admitted room free object
  · exact .same _

theorem acts_addCall (consistent : radio.Consistent) {state : CallState}
    (admitted : radio.newCallState request = some state) (number : Option String)
    (name : String) (index : Nat)
    (calls : after.calls = (radio.addCall state number name).2.calls) :
    radio.Acts request after index := by
  obtain ⟨-, same⟩ | ⟨room, free, call, found, rfl, same⟩ :=
    consistent.addCall_cases state number name
  · exact acts_same (by rw [calls, same]) index
  · exact acts_withCall admitted room found rfl index (by rw [calls, same])

theorem acts_setState {state : CallState} {here : Nat} (index : Nat)
    (effect : ∀ call, radio.calls.get here = some call →
      Effect radio request (radio.setState here state).incomingCallIsProcessed here (some call)
        (some { call with state })) :
    radio.Acts request (radio.setState here state) index := by
  unfold Acts
  rw [get_setState]
  split_ifs with same
  · subst same
    cases defined : radio.calls.get index with
    | none => exact .same _
    | some call => exact effect call defined
  · exact .same _

theorem acts_removeCall (consistent : radio.Consistent) {gone : Int} (index : Nat)
    (effect : gone = index → ∀ call, radio.calls.get index = some call →
      Effect radio request after.incomingCallIsProcessed index (some call) none)
    (calls : after.calls = (radio.removeCall gone).2.calls) : radio.Acts request after index := by
  unfold Acts
  rw [calls, consistent.get_removeCall]
  split_ifs with same
  · cases defined : radio.calls.get index with
    | none => exact .same _
    | some call => exact effect same call defined
  · exact .same _

theorem acts_dial (consistent : radio.Consistent) {data : Option ReqDial}
    (result : radio.rilRequestDial data = some handled) (index : Nat) :
    radio.Acts (.dial data) handled.radio index := by
  obtain ⟨request, rfl, dialed⟩ := rilRequestDial_radio result
  exact consistent.acts_addCall rfl _ _ index (congrArg Radio.calls dialed)

theorem acts_hangUp (consistent : radio.Consistent) {connectionIndex : Option Int}
    (result : radio.rilRequestHangUp connectionIndex = some handled) (index : Nat) :
    radio.Acts (.hangUp connectionIndex) handled.radio index := by
  obtain ⟨gone, rfl, hungUp, -⟩ := rilRequestHangUp_radio result
  exact consistent.acts_removeCall index (fun same call _ => .hungUp call (same ▸ rfl))
    (congrArg Radio.calls hungUp)

theorem acts_hangupConnRemote (consistent : radio.Consistent) {data : Option HangupConnRemote}
    (result : radio.ctrlServerCmdHangupConnRemote data = some handled) (index : Nat) :
    radio.Acts (.hangupConnRemote data) handled.radio index := by
  obtain ⟨request, rfl, ⟨nothing, rfl⟩ | ⟨call, removed, rfl⟩⟩ := hangupConnRemote_cases result
  · rcases consistent.removeCall_cases request.connectionId with ⟨-, same⟩ | ⟨gone, -, same⟩
    · exact acts_same (congrArg (fun outcome => outcome.2.calls) same) index
    · rw [nothing] at same
      cases same
  · rcases consistent.removeCall_cases request.connectionId with ⟨-, same⟩ | ⟨gone, found, same⟩
    · rw [same] at removed
      cases removed
    · rw [same] at removed
      cases removed
      refine consistent.acts_removeCall index ?_ rfl
      intro here other defined
      apply Effect.hungUpRemote other request rfl
      intro rings
      rw [here, getCall_natCast, defined] at found
      cases found
      exact (Bool.or_eq_true _ _).mpr (Or.inl rings)

theorem acts_switch (consistent : radio.Consistent) (index : Nat) :
    radio.Acts .switchWaitingOrHoldingAndActive
      radio.rilRequestSwitchWaitingOrHoldingAndActive.radio index := by
  rcases rilRequestSwitch_cases radio with same | ⟨twice, same⟩
  · rw [same]
    exact acts_same rfl index
  · rw [same]
    exact consistent.acts_editActiveCalls quiet_switchEdit (by simp [Radio.edits, twice]) index

theorem acts_conference (consistent : radio.Consistent) (index : Nat) :
    radio.Acts .conference radio.rilRequestConference.radio index := by
  rcases rilRequestConference_cases radio with same | same
  · rw [same]
    exact acts_same rfl index
  · rw [same]
    exact consistent.acts_editCalls quiet_conferenceEdit rfl index

theorem acts_answer (consistent : radio.Consistent) (index : Nat) :
    radio.Acts .answer radio.rilRequestAnswer.radio index := by
  rcases rilRequestAnswer_cases radio with
    same | same | ⟨first, incoming, same⟩ | ⟨first, single, other, same⟩
  · rw [same]
    exact acts_same rfl index
  · rw [same]
    apply acts_same
    rfl
  · obtain ⟨call, defined, state⟩ := inState_iff.mp incoming
    rw [same]
    unfold Acts
    simp only [get_setState]
    split_ifs with here
    · rw [here, defined]
      exact .answered call rfl state rfl
    · exact .same _
  · rw [same]
    apply consistent.acts_removeCall index _ rfl
    intro here call defined
    apply Effect.refused call rfl single
    intro state
    apply other
    exact inState_iff.mpr ⟨call, by rw [Int.natCast_inj.mp here]; exact defined, state⟩

theorem acts_separateConnection (consistent : radio.Consistent) {separated : Option Int}
    (result : radio.rilRequestSeparateConnection separated = some handled) (index : Nat) :
    radio.Acts (.separateConnection separated) handled.radio index := by
  obtain ⟨apart, rfl, rfl | ⟨separateConn, found, active, rfl⟩⟩ :=
    rilRequestSeparateConnection_cases result
  · exact acts_same rfl index
  · apply consistent.acts_editCalls (quiet_separateEdit apart) _ index
    simp only [Radio.edits, found, Option.any_some, active, decide_true, if_true]

theorem acts_startInComingCall (consistent : radio.Consistent) {phoneNumber : Option String}
    (result : radio.ctrlServerCmdStartInComingCall phoneNumber = some handled) (index : Nat) :
    radio.Acts (.startInComingCall phoneNumber) handled.radio index := by
  obtain ⟨number, rfl, rfl | ⟨state, admitted, rfl⟩⟩ := startInComingCall_cases result
  · exact acts_same rfl index
  · have adds : radio.newCallState (.startInComingCall (some number)) = some state := admitted
    exact consistent.acts_addCall adds _ _ index rfl

theorem acts_addDialingCall (consistent : radio.Consistent) {phoneNumber : Option String}
    (result : radio.ctrlServerCmdAddDialingCall phoneNumber = some handled) (index : Nat) :
    radio.Acts (.addDialingCall phoneNumber) handled.radio index := by
  obtain ⟨number, rfl, ⟨first, rfl⟩ | rfl⟩ := addDialingCall_cases result
  · exact consistent.acts_addCall (by simp [newCallState, first]) _ _ index rfl
  · exact acts_same rfl index

/-- The call that an order moves is in the state it starts from. -/
theorem movable_state {state : CallState} {index : Nat} (only : radio.movable state = some index) :
    radio.InState state index := by
  unfold movable at only
  split_ifs at only
  simpa using List.find?_some only

theorem acts_ctrlServerCmdMove {before state : CallState} (index : Nat)
    (effect : radio.movable before = some index → ∀ call, radio.calls.get index = some call →
      call.state = before → Effect radio request radio.incomingCallIsProcessed index (some call)
        (some { call with state })) :
    radio.Acts request (radio.ctrlServerCmdMove before state).radio index := by
  unfold Radio.ctrlServerCmdMove
  split
  · exact acts_same rfl index
  · next here only =>
      obtain ⟨call, defined, before⟩ := inState_iff.mp (movable_state only)
      unfold Acts
      simp only [get_setState, flag_setState]
      split_ifs with same
      · subst same
        rw [defined]
        exact effect only call defined before
      · exact .same _

theorem acts_cmdCallStateChange (consistent : radio.Consistent) (change : CallStateChange)
    (index : Nat) :
    radio.Acts (.callStateChange change) (radio.cmdCallStateChange change).radio index := by
  unfold Radio.cmdCallStateChange
  simp only
  split
  · exact acts_setState index fun call _ => .changed call change rfl rfl
  · next hole =>
      refine consistent.acts_removeCall index (fun same call defined => ?_) rfl
      rw [← Int.natCast_inj.mp same, hole] at defined
      cases defined

/-- **A request acts on every position in one of these ways.** -/
theorem acts_dispatch (consistent : radio.Consistent)
    (result : radio.dispatch request = some handled) (index : Nat) :
    radio.Acts request handled.radio index := by
  cases request with
  | query asked => exact acts_same ((rilRequestQuery_quiet result).1 ▸ rfl) index
  | dial data => exact consistent.acts_dial result index
  | hangUp connectionIndex => exact consistent.acts_hangUp result index
  | hangupWaitingOrBackground =>
      cases result
      exact consistent.acts_editActiveCalls quiet_hangupWaitingOrBackgroundEdit rfl index
  | hangUpForegroundResumeBackground =>
      cases result
      exact consistent.acts_editActiveCalls quiet_hangUpForegroundEdit rfl index
  | switchWaitingOrHoldingAndActive => cases result; exact consistent.acts_switch index
  | conference => cases result; exact consistent.acts_conference index
  | answer => cases result; exact consistent.acts_answer index
  | separateConnection separated => exact consistent.acts_separateConnection result index
  | startInComingCall phoneNumber => exact consistent.acts_startInComingCall result index
  | hangupConnRemote data => exact consistent.acts_hangupConnRemote result index
  | setCallTransitionFlag flag =>
      obtain ⟨value, -, done⟩ := Option.bind_eq_some_iff.mp result
      cases done
      exact acts_same rfl index
  | setCallAlert =>
      cases result
      exact acts_ctrlServerCmdMove index fun only call _ state => .alerted call rfl only state
  | setCallActive =>
      cases result
      exact acts_ctrlServerCmdMove index fun only call _ state => .activated call rfl only state
  | addDialingCall phoneNumber => exact consistent.acts_addDialingCall result index
  | delayTest => cases result; exact acts_same rfl index
  | unsolSignalStrength => cases result; exact acts_same rfl index
  | unsolCallStateChanged => cases result; exact acts_same rfl index
  | callStateChange change => cases result; exact consistent.acts_cmdCallStateChange change index
  | unsolCallRing =>
      cases result
      unfold cmdUnsolCallRing
      split_ifs <;> exact acts_same rfl index

theorem acts_process (consistent : radio.Consistent) (request : RadioRequest) (index : Nat) :
    radio.Acts request (radio.process request).radio index := by
  apply process_of_dispatch (fun handled => radio.Acts request handled.radio index)
  · exact acts_same rfl index
  · exact fun handled result => consistent.acts_dispatch result index
  · exact fun handled acts => acts.of_calls rfl rfl

end Consistent

end

/-! ### What a request schedules and sends -/

/-- The events of a call that was dialed. -/
def dialEvents (callTransitionFlag : Bool) (index object : Nat) : List (RadioRequest × Nat) :=
  (.callStateChange ⟨index, .dialing, object⟩, 0) ::
    if callTransitionFlag then []
    else [(.callStateChange ⟨index, .alerting, object⟩, 1000),
      (.callStateChange ⟨index, .active, object⟩, 2000)]

/-- The requests that act on no call and do not ring. -/
def reports : RadioRequest → Bool
  | .unsolCallStateChanged | .unsolSignalStrength => true
  | _ => false

/-- The request is one for an incoming call, and the calls allow it. -/
def admitsIncoming (radio : Radio) : RadioRequest → Bool
  | .startInComingCall (some _) => radio.incomingState.isSome
  | _ => false

/-- All that a request can add to the queue and send. -/
inductive Schedules (radio : Radio) (request : RadioRequest) :
    List (RadioRequest × Nat) → List Unsolicited → Prop
  | reports (scheduled : List (RadioRequest × Nat)) (unsolicited : List Unsolicited)
      (only : ∀ entry ∈ scheduled, reports entry.1 = true) (silent : .callRing ∉ unsolicited) :
      Schedules radio request scheduled unsolicited
  | dialed (index : Nat) (adds : radio.newCallState request = some .dialing)
      (room : radio.numberActiveCalls < maxNumberActiveCalls)
      (free : radio.freeIndex = some index) :
      Schedules radio request (dialEvents radio.callTransitionFlag index radio.created) []
  | rings (admits : radio.admitsIncoming request = true) :
      Schedules radio request [(.unsolCallRing, 0)] []
  | ringsAgain (asked : request = .unsolCallRing)
      (unprocessed : radio.incomingCallIsProcessed = false) :
      Schedules radio request [(.unsolCallRing, 3000)] [.responseCallStateChanged, .callRing]

section

variable {radio : Radio} {request : RadioRequest} {handled : Handled}

theorem schedules_nil : radio.Schedules request [] [] := .reports _ _ (by simp) (by simp)

theorem schedules_changed : radio.Schedules request [(.unsolCallStateChanged, 0)] [] :=
  .reports _ _ (by simp [reports]) (by simp)

theorem schedules_editCalls (edits : Nat → CallState → Option CallEdit) :
    radio.Schedules request (radio.editCalls edits).scheduled (radio.editCalls edits).unsolicited := by
  unfold editCalls
  split
  · exact schedules_changed
  · exact schedules_nil

theorem schedules_editActiveCalls (edits : Nat → CallState → Option CallEdit) :
    radio.Schedules request (radio.editActiveCalls edits).scheduled
      (radio.editActiveCalls edits).unsolicited := by
  unfold editActiveCalls
  split_ifs
  · exact schedules_changed
  · exact schedules_editCalls edits

theorem schedules_ctrlServerCmdMove (before after : CallState) :
    radio.Schedules request (radio.ctrlServerCmdMove before after).scheduled
      (radio.ctrlServerCmdMove before after).unsolicited := by
  unfold ctrlServerCmdMove
  split
  · exact schedules_nil
  · exact schedules_changed

theorem Consistent.schedules_dial (consistent : radio.Consistent) {data : Option ReqDial}
    (result : radio.rilRequestDial data = some handled) :
    radio.Schedules (.dial data) handled.scheduled handled.unsolicited := by
  obtain ⟨request, rfl, dialed⟩ := Option.bind_eq_some_iff.mp result
  obtain ⟨-, same⟩ | ⟨room, index, call, free, rfl, same⟩ :=
    consistent.addCall_cases .dialing request.address ""
  · rw [same] at dialed
    cases dialed
    exact schedules_nil
  · rw [same] at dialed
    cases dialed
    exact .dialed index rfl room free

/-- **A request adds to the queue in one of these ways.** -/
theorem Consistent.schedules_dispatch (consistent : radio.Consistent)
    (result : radio.dispatch request = some handled) :
    radio.Schedules request handled.scheduled handled.unsolicited := by
  cases request with
  | query asked =>
      obtain ⟨-, nothing, silent⟩ := rilRequestQuery_quiet result
      rw [nothing, silent]
      exact schedules_nil
  | dial data => exact consistent.schedules_dial result
  | hangUp connectionIndex =>
      obtain ⟨index, -, -, nothing, silent⟩ := rilRequestHangUp_radio result
      rw [nothing, silent]
      exact schedules_nil
  | hangupWaitingOrBackground => cases result; exact schedules_editActiveCalls _
  | hangUpForegroundResumeBackground => cases result; exact schedules_editActiveCalls _
  | switchWaitingOrHoldingAndActive =>
      cases result
      rcases rilRequestSwitch_cases radio with same | ⟨-, same⟩
      · rw [same]
        exact schedules_nil
      · rw [same]
        exact schedules_editActiveCalls _
  | conference =>
      cases result
      rcases rilRequestConference_cases radio with same | same
      · rw [same]
        exact schedules_nil
      · rw [same]
        exact schedules_editCalls _
  | answer =>
      cases result
      rcases rilRequestAnswer_cases radio with same | same | ⟨_, -, same⟩ | ⟨_, -, -, same⟩ <;>
        exact same ▸ schedules_nil
  | separateConnection index =>
      obtain ⟨apart, -, rfl | ⟨-, -, -, rfl⟩⟩ := rilRequestSeparateConnection_cases result
      · exact schedules_nil
      · exact schedules_editCalls _
  | startInComingCall phoneNumber =>
      obtain ⟨number, rfl, rfl | ⟨state, admitted, rfl⟩⟩ := startInComingCall_cases result
      · exact schedules_nil
      · exact .rings (by rw [admitsIncoming, admitted]; rfl)
  | hangupConnRemote data =>
      obtain ⟨request, -, ⟨-, rfl⟩ | ⟨-, -, rfl⟩⟩ := hangupConnRemote_cases result
      · exact schedules_nil
      · exact schedules_changed
  | setCallTransitionFlag flag =>
      obtain ⟨value, -, done⟩ := Option.bind_eq_some_iff.mp result
      cases done
      exact schedules_nil
  | setCallAlert => cases result; exact schedules_ctrlServerCmdMove _ _
  | setCallActive => cases result; exact schedules_ctrlServerCmdMove _ _
  | addDialingCall phoneNumber =>
      obtain ⟨number, -, ⟨-, rfl⟩ | rfl⟩ := addDialingCall_cases result
      · exact schedules_nil
      · exact schedules_nil
  | delayTest => cases result; exact schedules_nil
  | unsolSignalStrength =>
      cases result
      exact .reports _ _ (by simp [reports]) (by simp)
  | unsolCallStateChanged =>
      cases result
      exact .reports _ _ (by simp) (by simp)
  | callStateChange change => cases result; exact schedules_changed
  | unsolCallRing =>
      cases result
      unfold cmdUnsolCallRing
      split_ifs with processed
      · exact schedules_nil
      · exact .ringsAgain rfl (by simpa using processed)

theorem Consistent.schedules_process (consistent : radio.Consistent) (request : RadioRequest) :
    radio.Schedules request (radio.process request).scheduled
      (radio.process request).unsolicited := by
  apply process_of_dispatch
    (fun handled => radio.Schedules request handled.scheduled handled.unsolicited)
  · exact schedules_nil
  · exact fun handled result => consistent.schedules_dispatch result
  · exact fun handled schedules => schedules

/-! ### The ringing flag -/

theorem flag_editCalls (edits : Nat → CallState → Option CallEdit)
    (processed : radio.incomingCallIsProcessed = true) :
    (radio.editCalls edits).radio.incomingCallIsProcessed = true := by
  rw [editCalls_radio]
  exact flag_forEachCall _ processed

theorem flag_editActiveCalls (edits : Nat → CallState → Option CallEdit)
    (processed : radio.incomingCallIsProcessed = true) :
    (radio.editActiveCalls edits).radio.incomingCallIsProcessed = true := by
  unfold editActiveCalls
  split_ifs
  · exact processed
  · exact flag_editCalls edits processed

theorem flag_addCall (radio : Radio) (state : CallState) (number : Option String)
    (name : String) :
    (radio.addCall state number name).2.incomingCallIsProcessed =
      radio.incomingCallIsProcessed := by
  unfold addCall
  split_ifs
  · cases radio.freeIndex <;> rfl
  · rfl

theorem flag_ctrlServerCmdMove (radio : Radio) (before after : CallState) :
    (radio.ctrlServerCmdMove before after).radio.incomingCallIsProcessed =
      radio.incomingCallIsProcessed := by
  unfold ctrlServerCmdMove
  split
  · rfl
  · exact flag_setState _ _ _

/-- Only a new incoming call clears the flag. -/
theorem flag_dispatch (processed : radio.incomingCallIsProcessed = true)
    (others : radio.admitsIncoming request = false)
    (result : radio.dispatch request = some handled) :
    handled.radio.incomingCallIsProcessed = true := by
  cases request with
  | query asked =>
      rw [(rilRequestQuery_quiet result).1]
      exact processed
  | dial data =>
      obtain ⟨request, -, dialed⟩ := rilRequestDial_radio result
      rw [dialed, flag_addCall]
      exact processed
  | hangUp connectionIndex =>
      obtain ⟨index, -, hungUp, -⟩ := rilRequestHangUp_radio result
      rw [hungUp, flag_removeCall]
      exact processed
  | hangupWaitingOrBackground => cases result; exact flag_editActiveCalls _ processed
  | hangUpForegroundResumeBackground => cases result; exact flag_editActiveCalls _ processed
  | switchWaitingOrHoldingAndActive =>
      cases result
      rcases rilRequestSwitch_cases radio with same | ⟨-, same⟩
      · rw [same]
        exact processed
      · rw [same]
        exact flag_editActiveCalls _ processed
  | conference =>
      cases result
      rcases rilRequestConference_cases radio with same | same
      · rw [same]
        exact processed
      · rw [same]
        exact flag_editCalls _ processed
  | answer =>
      cases result
      rcases rilRequestAnswer_cases radio with same | same | ⟨index, -, same⟩ | ⟨index, -, -, same⟩
      · rw [same]
        exact processed
      · rw [same]
      · rw [same]
      · rw [same]
        exact (flag_removeCall _ _).trans processed
  | separateConnection index =>
      obtain ⟨apart, -, rfl | ⟨-, -, -, rfl⟩⟩ := rilRequestSeparateConnection_cases result
      · exact processed
      · exact flag_editCalls _ processed
  | startInComingCall phoneNumber =>
      obtain ⟨number, rfl, rfl | ⟨state, admitted, rfl⟩⟩ := startInComingCall_cases result
      · exact processed
      · rw [admitsIncoming, admitted] at others
        cases others
  | hangupConnRemote data =>
      obtain ⟨request, -, ⟨-, rfl⟩ | ⟨call, -, rfl⟩⟩ := hangupConnRemote_cases result
      · exact (flag_removeCall _ _).trans processed
      · exact (Bool.or_eq_true _ _).mpr (Or.inr ((flag_removeCall _ _).trans processed))
  | setCallTransitionFlag flag =>
      obtain ⟨value, -, done⟩ := Option.bind_eq_some_iff.mp result
      cases done
      exact processed
  | setCallAlert => cases result; exact (flag_ctrlServerCmdMove _ _ _).trans processed
  | setCallActive => cases result; exact (flag_ctrlServerCmdMove _ _ _).trans processed
  | addDialingCall phoneNumber =>
      obtain ⟨number, -, ⟨-, rfl⟩ | rfl⟩ := addDialingCall_cases result
      · exact (flag_addCall _ _ _ _).trans processed
      · exact processed
  | delayTest => cases result; exact processed
  | unsolSignalStrength => cases result; exact processed
  | unsolCallStateChanged => cases result; exact processed
  | callStateChange change =>
      cases result
      unfold Radio.cmdCallStateChange
      simp only
      split
      · exact (flag_setState _ _ _).trans processed
      · exact (flag_removeCall _ _).trans processed
  | unsolCallRing =>
      cases result
      unfold cmdUnsolCallRing
      split_ifs
      exact processed

theorem flag_process (processed : radio.incomingCallIsProcessed = true)
    (others : radio.admitsIncoming request = false) :
    (radio.process request).radio.incomingCallIsProcessed = true := by
  apply process_of_dispatch (fun handled => handled.radio.incomingCallIsProcessed = true)
  · exact processed
  · exact fun handled result => flag_dispatch processed others result
  · exact fun handled kept => kept

/-- A call that is let in rings. -/
theorem Consistent.ringsAt_of_admitsIncoming (consistent : radio.Consistent)
    (admits : radio.admitsIncoming request = true)
    (room : radio.numberActiveCalls < maxNumberActiveCalls) :
    ∃ index, (radio.process request).radio.RingsAt index := by
  unfold admitsIncoming at admits
  split at admits
  · next number =>
      obtain ⟨state, admitted⟩ := Option.isSome_iff_exists.mp admits
      have ringing : state.ringing = true := by
        unfold incomingState at admitted
        split_ifs at admitted
        · cases admitted
          rfl
        · cases admitted
          rfl
      obtain ⟨full, -⟩ | ⟨-, index, call, -, rfl, added⟩ :=
        consistent.addCall_cases state (some number) ""
      · omega
      · refine ⟨index, ringsAt_iff.mpr
          ⟨⟨state, index, some number, "", radio.created⟩, ?_, ringing⟩⟩
        simp only [Radio.process, Radio.dispatch, ctrlServerCmdStartInComingCall, admitted, added,
          Option.bind_eq_bind, Option.bind_some, Option.pure_def, Option.getD_some]
        exact (get_withCall _ _ _ _).trans (if_pos rfl)
  · cases admits

/-- RIL_UNSOL_CALL_RING is sent for a ring event alone, while the flag is not set. -/
theorem Consistent.callRing_sent (consistent : radio.Consistent)
    (sent : .callRing ∈ (radio.process request).unsolicited) :
    request = .unsolCallRing ∧ radio.incomingCallIsProcessed = false := by
  have schedules := consistent.schedules_process request
  generalize (radio.process request).unsolicited = unsolicited at schedules sent
  generalize (radio.process request).scheduled = scheduled at schedules
  cases schedules with
  | reports _ _ only silent => exact absurd sent silent
  | dialed => cases sent
  | rings => cases sent
  | ringsAgain asked unprocessed => exact ⟨asked, unprocessed⟩

end

end RildHisi.MockRil.Radio
