import RildHisi.MockRil.FailingRequests

/-!
Owns the two control commands that add a call. Both drop what `addCall` returns, and so
answer CTRL_STATUS_OK where the list is full and nothing was added.
-/

namespace RildHisi.MockRil.Radio

open RildHisi.Library

/-- The calls are those before and one more, with this number and in one of these states. -/
def OneMore (radio after : Radio) (number : String) (states : List CallState) : Prop :=
  ∃ index call, radio.calls.get index = none ∧ call.number = some number ∧
    call.state ∈ states ∧ ∀ other, after.calls.get other =
      if other = index then some call else radio.calls.get other

/-- The answer tells what has happened: success one more call, a full list an error and no
change. -/
structure AnswersTruly (radio : Radio) (phoneNumber : Option String) (states : List CallState)
    (handled : Handled) : Prop where
  success : handled.rilErrCode = ctrlStatusOk →
    ∃ number, phoneNumber = some number ∧ OneMore radio handled.radio number states
  full : radio.numberActiveCalls = maxNumberActiveCalls →
    handled.rilErrCode ≠ ctrlStatusOk ∧ Unchanged radio handled.radio ∧
      ∀ delay, (.unsolCallRing, delay) ∉ handled.scheduled

/-- A call forbids a new incoming one. -/
def Busy (radio : Radio) : Prop :=
  ∃ index call, radio.calls.get index = some call ∧
    (call.state = .dialing ∨ call.state = .alerting ∨ call.state.ringing = true)

/-- A call is being dialed. -/
def Dialing (radio : Radio) : Prop := ∃ index, radio.InState .dialing index

theorem countCallsInState_eq_zero_iff (radio : Radio) (state : CallState) :
    radio.countCallsInState state = 0 ↔ ¬ ∃ index, radio.InState state index := by
  unfold countCallsInState
  rw [List.countP_eq_zero]
  constructor
  · rintro nowhere ⟨index, here⟩
    obtain ⟨call, defined, -⟩ := inState_iff.mp here
    exact nowhere index (mem_indices defined) (decide_eq_true here)
  · intro nowhere index _ here
    exact nowhere ⟨index, of_decide_eq_true here⟩

section

variable {radio : Radio} {phoneNumber : Option String} {states : List CallState}

/-- An error that changes nothing is an answer that tells the truth. -/
theorem answersTruly_of_error {handled : Handled} (error : handled.rilErrCode ≠ ctrlStatusOk)
    (same : handled.radio = radio) (silent : handled.scheduled = []) :
    radio.AnswersTruly phoneNumber states handled := by
  apply AnswersTruly.mk
  · exact fun success => absurd success error
  · intro _
    rw [same, silent]
    exact ⟨error, Unchanged.refl radio, fun _ => List.not_mem_nil⟩

theorem ctrlStatusErr_ne_ok : ctrlStatusErr ≠ ctrlStatusOk := by decide

/-- An answer of success to `addCall` is true exactly if there was room. -/
theorem answersTruly_of_addCall_iff (consistent : radio.Consistent) {handled : Handled}
    {state : CallState} {number : String} (member : state ∈ states)
    (success : handled.rilErrCode = ctrlStatusOk)
    (calls : handled.radio.calls = (radio.addCall state (some number) "").2.calls) :
    radio.AnswersTruly (some number) states handled ↔
      radio.numberActiveCalls < maxNumberActiveCalls := by
  constructor
  · intro truly
    have atMost := consistent.atMost
    apply Nat.lt_of_le_of_ne atMost
    intro full
    exact (truly.full full).1 success
  · intro room
    apply AnswersTruly.mk
    · intro _
      refine ⟨number, rfl, ?_⟩
      rcases consistent.addCall_cases state (some number) "" with
        ⟨full, -⟩ | ⟨-, index, call, free, rfl, same⟩
      · exact absurd full (Nat.ne_of_lt room)
      · refine ⟨index, ⟨state, index, some number, "", radio.created⟩,
          (freeIndex_eq_some free).2.2, rfl, member, ?_⟩
        intro other
        rw [calls, same, get_withCall]
    · exact fun full => absurd full (Nat.ne_of_lt room)

/-- A new call is let in exactly if none forbids it. -/
theorem incomingState_eq_none_iff (consistent : radio.Consistent) :
    radio.incomingState = none ↔ radio.Busy := by
  unfold incomingState
  split_ifs with noCalls others
  · apply iff_of_false
    · exact not_false
    · rintro ⟨index, call, defined, -⟩
      rw [consistent.get_of_noCalls noCalls] at defined
      cases defined
  · apply iff_of_false
    · exact not_false
    · rintro ⟨index, call, defined, busy⟩
      obtain ⟨dialing, alerting, incoming, waiting⟩ :=
        others index (mem_indices defined) call defined
      rcases busy with state | state | ringing
      · exact dialing state
      · exact alerting state
      · cases state : call.state <;> simp_all [CallState.ringing]
  · apply iff_of_true rfl
    simp only [not_forall] at others
    obtain ⟨index, -, call, defined, forbids⟩ := others
    refine ⟨index, call, defined, ?_⟩
    cases state : call.state <;> simp_all [CallState.ringing]

theorem incomingState_mem {state : CallState} (admitted : radio.incomingState = some state) :
    state ∈ [CallState.incoming, .waiting] := by
  unfold incomingState at admitted
  split_ifs at admitted
  · cases admitted
    decide
  · cases admitted
    decide

/-- **A new incoming call is truly answered exactly if there is room, or no data, or a call
forbids it.** -/
theorem startInComingCall_truly_iff (consistent : radio.Consistent) :
    radio.AnswersTruly phoneNumber [.incoming, .waiting]
        (radio.process (.startInComingCall phoneNumber)) ↔
      radio.numberActiveCalls < maxNumberActiveCalls ∨ phoneNumber = none ∨ radio.Busy := by
  cases phoneNumber with
  | none =>
      apply iff_of_true
      · exact answersTruly_of_error (show rilERequestNotSupported ≠ ctrlStatusOk by decide) rfl rfl
      · exact Or.inr (Or.inl rfl)
  | some number =>
      show radio.AnswersTruly _ _
        ((radio.ctrlServerCmdStartInComingCall (some number)).getD _) ↔ _
      simp only [ctrlServerCmdStartInComingCall, Option.bind_eq_bind, Option.bind_some]
      rw [← incomingState_eq_none_iff consistent]
      cases admitted : radio.incomingState with
      | none =>
          apply iff_of_true
          · exact answersTruly_of_error ctrlStatusErr_ne_ok rfl rfl
          · exact Or.inr (Or.inr rfl)
      | some state =>
          rw [or_iff_left (by simp)]
          exact answersTruly_of_addCall_iff consistent (incomingState_mem admitted) rfl rfl

/-- **A new dialing call is truly answered exactly if there is room, or no data, or another
is being dialed.** -/
theorem addDialingCall_truly_iff (consistent : radio.Consistent) :
    radio.AnswersTruly phoneNumber [.dialing]
        (radio.process (.addDialingCall phoneNumber)) ↔
      radio.numberActiveCalls < maxNumberActiveCalls ∨ phoneNumber = none ∨ radio.Dialing := by
  cases phoneNumber with
  | none =>
      apply iff_of_true
      · exact answersTruly_of_error (show rilERequestNotSupported ≠ ctrlStatusOk by decide) rfl rfl
      · exact Or.inr (Or.inl rfl)
  | some number =>
      show radio.AnswersTruly _ _
        ((radio.ctrlServerCmdAddDialingCall (some number)).getD _) ↔ _
      simp only [ctrlServerCmdAddDialingCall, Option.bind_eq_bind, Option.bind_some]
      have dialing := radio.countCallsInState_eq_zero_iff .dialing
      split_ifs with first
      · have nobody : ¬ radio.Dialing := dialing.mp first
        rw [or_iff_left (by simp [nobody])]
        exact answersTruly_of_addCall_iff consistent (List.mem_singleton.mpr rfl) rfl rfl
      · apply iff_of_true
        · exact answersTruly_of_error ctrlStatusErr_ne_ok rfl rfl
        · exact Or.inr (Or.inr (not_not.mp fun nobody => first (dialing.mpr nobody)))

end

/-- **Behind every sequence of requests, commands and events, the commands answer truly
exactly if there are fewer than seven calls, or their own check refuses the call.** -/
theorem controlCommands_truly_iff (requests : List RadioRequest) (phoneNumber : Option String) :
    ((run requests).AnswersTruly phoneNumber [.incoming, .waiting]
        ((run requests).process (.startInComingCall phoneNumber)) ↔
      (run requests).numberActiveCalls < maxNumberActiveCalls ∨ phoneNumber = none ∨
        (run requests).Busy) ∧
      ((run requests).AnswersTruly phoneNumber [.dialing]
        ((run requests).process (.addDialingCall phoneNumber)) ↔
      (run requests).numberActiveCalls < maxNumberActiveCalls ∨ phoneNumber = none ∨
        (run requests).Dialing) := by
  have consistent := callTable_consistent requests
  exact ⟨startInComingCall_truly_iff consistent, addDialingCall_truly_iff consistent⟩

/-- Behind them seven calls are active. -/
def sevenActive : List RadioRequest :=
  (List.range 7).flatMap fun index =>
    [.dial (some ⟨some "5551212"⟩), .callStateChange ⟨index + 1, .active, index⟩]

/-- An eighth call is answered with success. -/
theorem eighthCall_dropped :
    ¬ (run sevenActive).AnswersTruly (some "5551213") [.incoming, .waiting]
      ((run sevenActive).process (.startInComingCall (some "5551213"))) := by
  intro truly
  exact (truly.full (by decide)).1 (by decide)

end RildHisi.MockRil.Radio
