import RildHisi.MockRil.FailingRequests

/-!
Owns SWITCH_WAITING_OR_HOLDING_AND_ACTIVE against the table in its comment. The loop moves
each call by its own state; in the table a call on hold stays there while another waits.
-/

namespace RildHisi.MockRil.Radio

open RildHisi.Library

/-- The radio behind the request. -/
def switched (radio : Radio) : Radio :=
  (radio.process .switchWaitingOrHoldingAndActive).radio

/-- All calls are ACTIVE, HOLDING or WAITING. -/
def Switchable (radio : Radio) : Prop :=
  ∀ index ∈ radio.indices, ∀ call ∈ radio.calls.get index,
    call.state = .active ∨ call.state = .holding ∨ call.state = .waiting

instance (radio : Radio) : Decidable radio.Switchable := by
  unfold Switchable
  infer_instance

/-- A call waits. -/
def Waiting (radio : Radio) : Prop := ∃ index, radio.InState .waiting index

/-- A call is on hold. -/
def Holding (radio : Radio) : Prop := ∃ index, radio.InState .holding index

/-- The table of the comment, for one call. -/
inductive Becomes (waiting : Prop) : CallState → CallState → Prop
  | held : Becomes waiting .active .holding
  | answered : Becomes waiting .waiting .active
  | stays (others : waiting) : Becomes waiting .holding .holding
  | resumed (alone : ¬ waiting) : Becomes waiting .holding .active

/-- A call behind the request, at the position where it was. -/
inductive Row (waiting : Prop) : Option RilCall → Option RilCall → Prop
  | idle : Row waiting none none
  | call (before : RilCall) (state : CallState) (becomes : Becomes waiting before.state state) :
      Row waiting (some before) (some { before with state })

/-- The request keeps to the table, and two of them to the list of ACTIVE and HOLDING calls. -/
structure FollowsTable (radio : Radio) : Prop where
  rows : ∀ index, Row radio.Waiting (radio.calls.get index) (radio.switched.calls.get index)
  number : radio.switched.numberActiveCalls = radio.numberActiveCalls
  restores : ¬ radio.Waiting → ∀ between : RadioRequest, between.reqNum < 200 →
    between.reqNum ≠ 15 →
    (∀ index, (radio.switched.process between).radio.calls.get index =
      radio.switched.calls.get index) →
    ∀ index, (radio.switched.process between).radio.switched.calls.get index =
      radio.calls.get index

theorem Row.becomes {waiting : Prop} {before after : RilCall}
    (row : Row waiting (some before) (some after)) :
    Becomes waiting before.state after.state := by
  cases row with
  | call _ state becomes => exact becomes

theorem Becomes.not_waiting {waiting : Prop} (becomes : Becomes waiting .holding .active) :
    ¬ waiting := by
  cases becomes with
  | resumed alone => exact alone

/-! ### What the loop does -/

/-- The state that the loop gives a call. -/
def swapped : CallState → CallState
  | .active => .holding
  | _ => .active

theorem switchEdit_eq {state : CallState} (index : Nat)
    (switchable : state = .active ∨ state = .holding ∨ state = .waiting) :
    switchEdit index state = some (.become (swapped state)) := by
  rcases switchable with rfl | rfl | rfl <;> rfl

theorem number_forEachCall_switchEdit (radio : Radio) (indices : List Nat) :
    (forEachCall switchEdit indices radio).1.numberActiveCalls = radio.numberActiveCalls := by
  induction indices generalizing radio with
  | nil => rfl
  | cons index rest inductionHypothesis =>
      unfold forEachCall
      cases radio.calls.get index with
      | none => exact inductionHypothesis radio
      | some call =>
          cases state : call.state <;> simp only [switchEdit, state]
          all_goals
            rw [inductionHypothesis]
            exact numberActiveCalls_setState radio index _

theorem number_switched (radio : Radio) :
    radio.switched.numberActiveCalls = radio.numberActiveCalls := by
  show radio.rilRequestSwitchWaitingOrHoldingAndActive.radio.numberActiveCalls = _
  rcases rilRequestSwitch_cases radio with same | ⟨-, same⟩
  · rw [same]
  · rw [same, editActiveCalls_radio]
    split_ifs
    · rfl
    · exact number_forEachCall_switchEdit radio radio.indices

namespace Consistent

variable {radio : Radio} (consistent : radio.Consistent)

include consistent

theorem switched : radio.switched.Consistent :=
  consistent.process .switchWaitingOrHoldingAndActive

/-- Each call moves by its own state. -/
theorem get_switched (switchable : radio.Switchable) (other : radio.lastReq ≠ 15) (index : Nat) :
    radio.switched.calls.get index = (radio.calls.get index).map
      (fun call => { call with state := swapped call.state }) := by
  show radio.rilRequestSwitchWaitingOrHoldingAndActive.radio.calls.get index = _
  rw [rilRequestSwitchWaitingOrHoldingAndActive, if_neg other, editActiveCalls_radio]
  split_ifs with noCalls
  · rw [consistent.get_of_noCalls noCalls]
    rfl
  · rw [indices, List.range_eq_range']
    cases defined : radio.calls.get index with
    | none =>
        rcases consistent.get_forEachCall quiet_switchEdit 0 radio.calls.length index with
          same | ⟨call, _, reached, -⟩
        · rw [same, defined]
          rfl
        · cases defined.symm.trans reached.defined
    | some call =>
        have found := switchEdit_eq index (switchable index (mem_indices defined) call defined)
        apply consistent.get_forEachCall_of_passes quiet_switchEdit (Nat.zero_le index) _ _
          defined found
        · rw [Nat.zero_add]
          exact SparseArray.lt_length_of_get defined
        · rintro lower - - ⟨last, here, refuses⟩
          rw [switchEdit_eq lower (switchable lower (mem_indices here) last here)] at refuses
          cases refuses

/-- Switched twice, the calls are where they were. -/
theorem get_switched_twice (switchable : radio.Switchable) (other : radio.lastReq ≠ 15)
    (quiet : ¬ radio.Waiting) {between : RadioRequest} (framework : between.reqNum < 200)
    (another : between.reqNum ≠ 15)
    (kept : ∀ index, (radio.switched.process between).radio.calls.get index =
      radio.switched.calls.get index) (index : Nat) :
    (radio.switched.process between).radio.switched.calls.get index =
      radio.calls.get index := by
  have behind : (radio.switched.process between).radio.Consistent :=
    consistent.switched.process between
  have lastReq : (radio.switched.process between).radio.lastReq ≠ 15 := by
    rw [Radio.process]
    simp only [if_pos framework]
    exact another
  have again : (radio.switched.process between).radio.Switchable := by
    intro index' _ call member
    rw [Option.mem_def, kept, consistent.get_switched switchable other] at member
    obtain ⟨before, -, rfl⟩ := Option.map_eq_some_iff.mp member
    show swapped before.state = .active ∨ _
    cases before.state <;> simp [swapped]
  rw [behind.get_switched again lastReq, kept, consistent.get_switched switchable other]
  cases defined : radio.calls.get index with
  | none => rfl
  | some call =>
      have back : swapped (swapped call.state) = call.state := by
        rcases switchable index (mem_indices defined) call defined with
          active | holding | waiting
        · rw [active]
          rfl
        · rw [holding]
          rfl
        · exact absurd ⟨index, inState_iff.mpr ⟨call, defined, waiting⟩⟩ quiet
      simp only [Option.map_some]
      rw [back]

/-- **The request keeps to its table exactly if not one call waits and another is on hold.** -/
theorem followsTable_iff (switchable : radio.Switchable) (other : radio.lastReq ≠ 15) :
    radio.FollowsTable ↔ ¬ (radio.Waiting ∧ radio.Holding) := by
  constructor
  · rintro follows ⟨waiting, index, held⟩
    obtain ⟨call, defined, state⟩ := inState_iff.mp held
    have row := follows.rows index
    rw [consistent.get_switched switchable other, defined, Option.map_some, state] at row
    have becomes := row.becomes
    rw [state] at becomes
    exact becomes.not_waiting waiting
  · intro apart
    refine ⟨?_, number_switched radio, fun quiet between framework another kept =>
      consistent.get_switched_twice switchable other quiet framework another kept⟩
    intro index
    rw [consistent.get_switched switchable other]
    cases defined : radio.calls.get index with
    | none => exact .idle
    | some call =>
        apply Row.call
        rcases switchable index (mem_indices defined) call defined with
          active | holding | waiting
        · rw [active]
          exact .held
        · rw [holding]
          exact .resumed fun waiting =>
            apart ⟨waiting, index, inState_iff.mpr ⟨call, defined, holding⟩⟩
        · rw [waiting]
          exact .answered

end Consistent

/-- **Behind every sequence of requests, commands and events that leaves only ACTIVE, HOLDING
and WAITING calls and no other switch last, the request keeps to its table exactly if not one
call waits and another is on hold.** -/
theorem switch_followsTable_iff (requests : List RadioRequest)
    (switchable : (run requests).Switchable) (other : (run requests).lastReq ≠ 15) :
    (run requests).FollowsTable ↔ ¬ ((run requests).Waiting ∧ (run requests).Holding) :=
  (callTable_consistent requests).followsTable_iff switchable other

/-- Behind them a call is active and another waits. -/
def activeAndWaiting : List RadioRequest :=
  [.dial (some ⟨some "5551212"⟩), .callStateChange ⟨1, .active, 0⟩,
    .startInComingCall (some "5551213")]

theorem switch_followsTable_activeAndWaiting :
    (run activeAndWaiting).FollowsTable ↔
      ¬ ((run activeAndWaiting).Waiting ∧ (run activeAndWaiting).Holding) :=
  switch_followsTable_iff activeAndWaiting (by decide) (by decide)

/-- Behind them a call is on hold and another waits. -/
def heldAndWaiting : List RadioRequest :=
  [.dial (some ⟨some "5551212"⟩), .callStateChange ⟨1, .active, 0⟩,
    .switchWaitingOrHoldingAndActive, .query .getCurrentCalls,
    .startInComingCall (some "5551213")]

/-- Both calls are active then. -/
theorem heldCall_resumed :
    ¬ ((run heldAndWaiting).Switchable → (run heldAndWaiting).lastReq ≠ 15 →
      (run heldAndWaiting).FollowsTable) := by
  intro follows
  have row := (follows (by decide) (by decide)).rows 1
  have held : (run heldAndWaiting).calls.get 1 = some ⟨.holding, 1, some "5551212", "", 0⟩ := rfl
  have active : (run heldAndWaiting).switched.calls.get 1 =
      some ⟨.active, 1, some "5551212", "", 0⟩ := rfl
  rw [held, active] at row
  exact row.becomes.not_waiting ⟨2, by decide⟩

end RildHisi.MockRil.Radio
