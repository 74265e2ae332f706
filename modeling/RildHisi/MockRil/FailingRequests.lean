import RildHisi.MockRil.CallEffects

/-!
Owns what a call request of the simulated radio leaves behind when it fails. CONFERENCE looks
at all calls before it changes one; the other loops change calls on their way to the one
they fail at, and ANSWER removes the call that it does not take.
-/

namespace RildHisi.MockRil.Radio

open RildHisi.Library

/-- The radio after these requests, commands and events. -/
def run (requests : List RadioRequest) : Radio :=
  requests.foldl (fun radio request => (radio.process request).radio) initial

/-- The array of calls, their number and the ringing flag are as before. -/
structure Unchanged (before after : Radio) : Prop where
  calls : after.calls = before.calls
  number : after.numberActiveCalls = before.numberActiveCalls
  flag : after.incomingCallIsProcessed = before.incomingCallIsProcessed

theorem Unchanged.refl (radio : Radio) : Unchanged radio radio := ⟨rfl, rfl, rfl⟩

/-- The call at the index is one that the loop fails at. -/
def RefusesAt (radio : Radio) (edits : Nat → CallState → Option CallEdit) (index : Nat) : Prop :=
  ∃ call, radio.calls.get index = some call ∧ edits index call.state = none

/-- The call at the index is one that the loop would change. -/
def ChangesAt (radio : Radio) (edits : Nat → CallState → Option CallEdit) (index : Nat) : Prop :=
  ∃ call edit, radio.calls.get index = some call ∧ edits index call.state = some edit ∧
    edit ≠ .keep

/-- Where the loop fails at a call, one such call stands in front of all it would change. -/
def RefusesFirst (radio : Radio) (edits : Nat → CallState → Option CallEdit) : Prop :=
  ∀ changed refused, radio.ChangesAt edits changed → radio.RefusesAt edits refused →
    ∃ first < changed, radio.RefusesAt edits first

/-! ### The loop -/

section

variable {radio : Radio} {edits : Nat → CallState → Option CallEdit} {index place : Nat}

/-- A hole is no call that the loop fails at. -/
theorem RefusesAt.ne_hole (refuses : radio.RefusesAt edits index)
    (hole : radio.calls.get place = none) : index ≠ place := by
  rintro rfl
  obtain ⟨call, defined, -⟩ := refuses
  rw [hole] at defined
  cases defined

/-- Nor is a call that it edits. -/
theorem RefusesAt.ne_edited (refuses : radio.RefusesAt edits index) {call : RilCall}
    {edit : CallEdit} (defined : radio.calls.get place = some call)
    (found : edits place call.state = some edit) : index ≠ place := by
  rintro rfl
  obtain ⟨other, here, refuses⟩ := refuses
  cases defined.symm.trans here
  rw [found] at refuses
  cases refuses

theorem refusesAt_congr {after : Radio} (same : after.calls.get index = radio.calls.get index) :
    after.RefusesAt edits index ↔ radio.RefusesAt edits index := by
  unfold RefusesAt
  rw [same]

end

/-- An edit other than `keep` does not leave the call as it is. -/
def Effective (edits : Nat → CallState → Option CallEdit) : Prop :=
  ∀ index state, edits index state ≠ some (.become state)

theorem Effective.result_ne {edits : Nat → CallState → Option CallEdit}
    (effective : Effective edits) {index : Nat} {call : RilCall} {edit : CallEdit}
    (found : edits index call.state = some edit) (change : edit ≠ .keep) :
    edit.result call ≠ some call := by
  intro same
  cases edit with
  | keep => exact change rfl
  | become state =>
      have state' : state = call.state := congrArg RilCall.state (Option.some.inj same)
      exact effective index call.state (state' ▸ found)
  | remove => cases same
  | removeProcessed => cases same

namespace Consistent

variable {radio : Radio} (consistent : radio.Consistent)
  {edits : Nat → CallState → Option CallEdit} (quiet : Quiet edits)

include consistent quiet

/-- Behind the index the edit of one call leaves all others. -/
theorem get_edit_beyond {start : Nat} {call : RilCall} {edit : CallEdit}
    (defined : radio.calls.get start = some call) (found : edits start call.state = some edit) :
    (radio.edit start edit).Consistent ∧ ∀ other, start < other →
      (radio.edit start edit).calls.get other = radio.calls.get other := by
  apply And.intro
  · exact consistent.edit start fun after same => quiet start call.state after (same ▸ found)
  · intro other apart
    rw [consistent.get_edit defined, if_neg (Nat.ne_of_gt apart)]

/-- The loop fails exactly if there is a call it fails at. -/
theorem forEachCall_fails_iff (start size : Nat) :
    (Radio.forEachCall edits (List.range' start size) radio).2 = false ↔
      ∃ refused, start ≤ refused ∧ refused < start + size ∧ radio.RefusesAt edits refused := by
  induction size generalizing radio start with
  | zero =>
      apply iff_of_false
      · exact Bool.noConfusion
      · rintro ⟨refused, above, below, -⟩
        omega
  | succ size inductionHypothesis =>
      rw [List.range'_succ, Radio.forEachCall]
      cases defined : radio.calls.get start with
      | none =>
          show (Radio.forEachCall edits (List.range' (start + 1) size) radio).2 = false ↔ _
          rw [inductionHypothesis consistent]
          constructor
          · rintro ⟨refused, above, below, refuses⟩
            exact ⟨refused, by omega, by omega, refuses⟩
          · rintro ⟨refused, above, below, refuses⟩
            have beyond := refuses.ne_hole defined
            exact ⟨refused, by omega, by omega, refuses⟩
      | some call =>
          cases found : edits start call.state with
          | none =>
              apply iff_of_true
              · simp only [found]
              · exact ⟨start, Nat.le_refl _, by omega, call, defined, found⟩
          | some edit =>
              simp only [found]
              obtain ⟨kept, elsewhere⟩ := consistent.get_edit_beyond quiet defined found
              rw [inductionHypothesis kept]
              constructor
              · rintro ⟨refused, above, below, refuses⟩
                have before := (refusesAt_congr (elsewhere refused above)).mp refuses
                exact ⟨refused, by omega, by omega, before⟩
              · rintro ⟨refused, above, below, refuses⟩
                have beyond := refuses.ne_edited defined found
                have apart : start < refused := by omega
                have after := (refusesAt_congr (elsewhere refused apart)).mpr refuses
                exact ⟨refused, apart, by omega, after⟩

/-- A call that no failing one stands in front of is edited. -/
theorem get_forEachCall_of_passes {start size index : Nat} {call : RilCall} {edit : CallEdit}
    (above : start ≤ index) (below : index < start + size)
    (passes : ∀ lower, start ≤ lower → lower < index → ¬ radio.RefusesAt edits lower)
    (defined : radio.calls.get index = some call) (found : edits index call.state = some edit) :
    (Radio.forEachCall edits (List.range' start size) radio).1.calls.get index =
      edit.result call := by
  induction size generalizing radio start with
  | zero => omega
  | succ size inductionHypothesis =>
      rw [List.range'_succ, Radio.forEachCall]
      rcases Nat.eq_or_lt_of_le above with rfl | beyond
      · simp only [defined, found]
        have kept := (consistent.get_edit_beyond quiet defined found).1
        rcases kept.get_forEachCall quiet (start + 1) size start with
          same | ⟨_, _, reached, -⟩
        · rw [same, consistent.get_edit defined, if_pos rfl]
        · exact absurd reached.above (Nat.not_succ_le_self start)
      · have later : ∀ lower, start + 1 ≤ lower → lower < index →
            ¬ radio.RefusesAt edits lower :=
          fun lower from_ => passes lower (Nat.le_of_succ_le from_)
        cases here : radio.calls.get start with
        | none => exact inductionHypothesis consistent beyond (by omega) later defined
        | some first =>
            cases change : edits start first.state with
            | none => exact absurd ⟨first, here, change⟩ (passes start (Nat.le_refl _) beyond)
            | some edit' =>
                simp only [change]
                obtain ⟨kept, elsewhere⟩ := consistent.get_edit_beyond quiet here change
                apply inductionHypothesis kept beyond (by omega)
                · intro lower from_ before refuses
                  exact later lower from_ before
                    ((refusesAt_congr (elsewhere lower from_)).mp refuses)
                · rw [elsewhere index beyond]
                  exact defined

end Consistent

/-- In front of the first call it fails at the loop changes nothing, if it fails first. -/
theorem forEachCall_of_refusesFirst {radio : Radio} {edits : Nat → CallState → Option CallEdit}
    (start size : Nat)
    (first : ∀ changed, start ≤ changed → radio.ChangesAt edits changed →
      ∃ lower, start ≤ lower ∧ lower < changed ∧ radio.RefusesAt edits lower) :
    (forEachCall edits (List.range' start size) radio).1 = radio := by
  induction size generalizing start with
  | zero => rfl
  | succ size inductionHypothesis =>
      rw [List.range'_succ, forEachCall]
      cases defined : radio.calls.get start with
      | none =>
          apply inductionHypothesis
          intro changed above changes
          obtain ⟨lower, from_, before, refuses⟩ := first changed (by omega) changes
          have beyond := refuses.ne_hole defined
          exact ⟨lower, by omega, before, refuses⟩
      | some call =>
          cases found : edits start call.state with
          | none => simp only [found]
          | some edit =>
              simp only [found]
              by_cases keep : edit = .keep
              · rw [keep]
                apply inductionHypothesis
                intro changed above changes
                obtain ⟨lower, from_, before, refuses⟩ := first changed (by omega) changes
                have beyond := refuses.ne_edited defined found
                exact ⟨lower, by omega, before, refuses⟩
              · obtain ⟨lower, from_, before, -⟩ :=
                  first start (Nat.le_refl _) ⟨call, edit, defined, found, keep⟩
                omega

/-! ### The requests -/

theorem editCalls_failed_iff (radio : Radio) (edits : Nat → CallState → Option CallEdit) :
    (radio.editCalls edits).rilErrCode = rilEGenericFailure ↔
      (forEachCall edits radio.indices radio).2 = false := by
  unfold editCalls
  generalize forEachCall edits radio.indices radio = outcome
  obtain ⟨after, finished⟩ := outcome
  cases finished with
  | true => simp [rilESuccess, rilEGenericFailure]
  | false => simp

namespace Consistent

variable {radio : Radio} (consistent : radio.Consistent)

include consistent

/-- **A failed loop has changed nothing exactly if it fails first.** -/
theorem editCalls_unchanged_iff {edits : Nat → CallState → Option CallEdit} (quiet : Quiet edits)
    (effective : Effective edits) :
    ((radio.editCalls edits).rilErrCode = rilEGenericFailure →
      Unchanged radio (radio.editCalls edits).radio) ↔ radio.RefusesFirst edits := by
  rw [editCalls_failed_iff, editCalls_radio, indices, List.range_eq_range',
    consistent.forEachCall_fails_iff quiet]
  constructor
  · intro unchanged changed refused changes refuses
    obtain ⟨last, there, refused'⟩ := refuses
    have below := SparseArray.lt_length_of_get there
    have same := unchanged ⟨refused, Nat.zero_le _, by omega, last, there, refused'⟩
    obtain ⟨call, edit, defined, found, change⟩ := changes
    apply by_contra
    intro alone
    have edited := consistent.get_forEachCall_of_passes quiet (Nat.zero_le changed)
      (by rw [Nat.zero_add]; exact SparseArray.lt_length_of_get defined)
      (fun lower _ before refuses => alone ⟨lower, before, refuses⟩) defined found
    rw [same.calls, defined] at edited
    exact effective.result_ne found change edited.symm
  · rintro first ⟨refused, -, -, refuses⟩
    rw [forEachCall_of_refusesFirst]
    · exact Unchanged.refl radio
    · intro changed _ changes
      obtain ⟨lower, before, here⟩ := first changed refused changes refuses
      exact ⟨lower, Nat.zero_le _, before, here⟩

theorem editActiveCalls_unchanged_iff {edits : Nat → CallState → Option CallEdit}
    (quiet : Quiet edits) (effective : Effective edits) :
    ((radio.editActiveCalls edits).rilErrCode = rilEGenericFailure →
      Unchanged radio (radio.editActiveCalls edits).radio) ↔ radio.RefusesFirst edits := by
  unfold Radio.editActiveCalls
  split_ifs with noCalls
  · apply iff_of_true
    · intro _
      exact Unchanged.refl radio
    · rintro changed refused ⟨call, edit, defined, -⟩
      rw [consistent.get_of_noCalls noCalls] at defined
      cases defined
  · exact consistent.editCalls_unchanged_iff quiet effective

end Consistent

theorem effective_hangupWaitingOrBackgroundEdit : Effective hangupWaitingOrBackgroundEdit := by
  intro index state same
  cases state <;> cases same

theorem effective_hangUpForegroundEdit : Effective hangUpForegroundEdit := by
  intro index state same
  cases state <;> cases same

theorem effective_switchEdit : Effective switchEdit := by
  intro index state same
  cases state <;> cases same

theorem effective_separateEdit (separated : Int) : Effective (separateEdit separated) := by
  intro index state same
  unfold separateEdit at same
  split_ifs at same with here active
  · cases same
  · rw [active] at same
    cases same

/-- The request finds what it fails at in front of what it would change. -/
def FailsFirst (radio : Radio) : RadioRequest → Prop
  | .hangupWaitingOrBackground => radio.RefusesFirst hangupWaitingOrBackgroundEdit
  | .hangUpForegroundResumeBackground => radio.RefusesFirst hangUpForegroundEdit
  | .switchWaitingOrHoldingAndActive => radio.lastReq = 15 ∨ radio.RefusesFirst switchEdit
  | .separateConnection (some index) =>
      (∃ call, radio.getCall index = some call ∧ call.state = .active) →
        radio.RefusesFirst (separateEdit index)
  | .answer => radio.numberActiveCalls = 1 → ∀ index call,
      radio.calls.get index = some call → call.state = .incoming
  | _ => True

/-- A failure leaves everything as it was. -/
def FailsCleanly (radio : Radio) (handled : Handled) : Prop :=
  handled.rilErrCode = rilEGenericFailure → Unchanged radio handled.radio

section

variable {radio : Radio} {handled : Handled}

theorem failsCleanly_of_radio (same : handled.radio = radio) : radio.FailsCleanly handled := by
  intro _
  rw [same]
  exact Unchanged.refl radio

theorem failsCleanly_of_succeeds (succeeds : handled.rilErrCode ≠ rilEGenericFailure) :
    radio.FailsCleanly handled :=
  fun failed => absurd failed succeeds

theorem success_ne_failure : rilESuccess ≠ rilEGenericFailure := by decide

theorem ctrlStatusErr_ne_failure : ctrlStatusErr ≠ rilEGenericFailure := by decide

/-- CONFERENCE looks at all calls first. -/
theorem failsCleanly_conference (consistent : radio.Consistent) :
    radio.FailsCleanly radio.rilRequestConference := by
  unfold rilRequestConference
  split_ifs with number suitable
  · exact failsCleanly_of_radio rfl
  · apply failsCleanly_of_succeeds
    rw [Ne, editCalls_failed_iff, indices, List.range_eq_range',
      consistent.forEachCall_fails_iff quiet_conferenceEdit]
    rintro ⟨refused, -, -, call, defined, refuses⟩
    rcases suitable refused (mem_indices defined) call defined with active | holding
    · rw [active] at refuses
      cases refuses
    · rw [holding] at refuses
      cases refuses
  · exact failsCleanly_of_radio rfl

/-- Where there is one call, it is the only one. -/
theorem Consistent.eq_of_single (consistent : radio.Consistent)
    (single : radio.numberActiveCalls = 1) {first second : Nat} {call other : RilCall}
    (here : radio.calls.get first = some call) (there : radio.calls.get second = some other) :
    second = first := by
  have counted := SparseArray.count_delete here
  have number := consistent.count
  have nothing : (radio.calls.delete first).count = 0 := by omega
  have gone := SparseArray.get_eq_none_of_count nothing second
  rw [SparseArray.get_delete] at gone
  split_ifs at gone with same
  · exact same
  · rw [gone] at there
    cases there

/-- ANSWER removes a single call in another state. -/
theorem failsCleanly_answer_iff (consistent : radio.Consistent) :
    radio.FailsCleanly radio.rilRequestAnswer ↔
      (radio.numberActiveCalls = 1 → ∀ index call, radio.calls.get index = some call →
        call.state = .incoming) := by
  unfold rilRequestAnswer
  split_ifs with several
  · exact iff_of_true (failsCleanly_of_radio rfl) (fun single => absurd single several)
  · have single : radio.numberActiveCalls = 1 := not_not.mp several
    cases first : radio.indices.find? (fun index => (radio.calls.get index).isSome) with
    | none =>
        apply iff_of_true
        · exact failsCleanly_of_succeeds success_ne_failure
        · intro _ index call defined
          have hole := List.find?_eq_none.mp first index (mem_indices defined)
          rw [defined] at hole
          exact absurd rfl hole
    | some index =>
        have there := List.find?_some first
        obtain ⟨call, defined⟩ := Option.isSome_iff_exists.mp there
        simp only
        split_ifs with incoming
        · apply iff_of_true
          · exact failsCleanly_of_succeeds success_ne_failure
          · intro _ other last here
            obtain rfl := consistent.eq_of_single single defined here
            obtain ⟨same, here', state⟩ := inState_iff.mp incoming
            cases here.symm.trans here'
            exact state
        · apply iff_of_false
          · intro cleanly
            have removed := (cleanly rfl).calls
            have gone := consistent.get_removeCall index index
            rw [if_pos rfl, removed, defined] at gone
            cases gone
          · intro states
            exact incoming (inState_iff.mpr ⟨call, defined, states single index call defined⟩)

theorem failsCleanly_move (before after : CallState) :
    radio.FailsCleanly (radio.ctrlServerCmdMove before after) := by
  unfold ctrlServerCmdMove
  split
  · exact failsCleanly_of_succeeds ctrlStatusErr_ne_failure
  · exact failsCleanly_of_succeeds success_ne_failure

theorem failsCleanly_switch_iff (consistent : radio.Consistent) :
    radio.FailsCleanly radio.rilRequestSwitchWaitingOrHoldingAndActive ↔
      radio.lastReq = 15 ∨ radio.RefusesFirst switchEdit := by
  unfold rilRequestSwitchWaitingOrHoldingAndActive
  split_ifs with twice
  · exact iff_of_true (failsCleanly_of_radio rfl) (Or.inl twice)
  · rw [or_iff_right twice]
    exact consistent.editActiveCalls_unchanged_iff quiet_switchEdit effective_switchEdit

theorem failsCleanly_separate_iff (consistent : radio.Consistent) (index : Int) :
    (∀ handled, radio.rilRequestSeparateConnection (some index) = some handled →
      radio.FailsCleanly handled) ↔
      ((∃ call, radio.getCall index = some call ∧ call.state = .active) →
        radio.RefusesFirst (separateEdit index)) := by
  unfold rilRequestSeparateConnection
  simp only [Option.bind_eq_bind, Option.bind_some, Option.pure_def]
  split_ifs with noCalls
  · apply iff_of_true
    · rintro handled same
      cases same
      exact failsCleanly_of_radio rfl
    · rintro ⟨call, found, -⟩
      have defined := (getCall_eq_some found).2
      rw [consistent.get_of_noCalls noCalls] at defined
      cases defined
  · cases found : radio.getCall index with
    | none =>
        apply iff_of_true
        · rintro handled same
          cases same
          exact failsCleanly_of_radio rfl
        · rintro ⟨call, here, -⟩
          cases here
    | some separateConn =>
        simp only
        split_ifs with active
        · apply iff_of_true
          · rintro handled same
            cases same
            exact failsCleanly_of_radio rfl
          · rintro ⟨call, here, state⟩
            cases here
            exact absurd state active
        · have separated : ∃ call, some separateConn = some call ∧ call.state = .active :=
            ⟨separateConn, rfl, not_not.mp active⟩
          rw [forall_prop_of_true separated, ← consistent.editCalls_unchanged_iff
            (quiet_separateEdit index) (effective_separateEdit index)]
          constructor
          · exact fun cleanly => cleanly _ rfl
          · rintro cleanly handled same
            cases same
            exact cleanly

theorem failsCleanly_dial (consistent : radio.Consistent) {data : Option ReqDial}
    (result : radio.rilRequestDial data = some handled) : radio.FailsCleanly handled := by
  obtain ⟨request, -, dialed⟩ := Option.bind_eq_some_iff.mp result
  rcases consistent.addCall_cases .dialing request.address "" with
    ⟨-, same⟩ | ⟨-, index, call, -, -, same⟩
  · rw [same] at dialed
    cases dialed
    exact failsCleanly_of_radio rfl
  · rw [same] at dialed
    cases dialed
    exact failsCleanly_of_succeeds success_ne_failure

theorem failsCleanly_hangUp (consistent : radio.Consistent) {index : Option Int}
    (result : radio.rilRequestHangUp index = some handled) : radio.FailsCleanly handled := by
  obtain ⟨connectionIndex, -, hungUp⟩ := Option.bind_eq_some_iff.mp result
  rcases consistent.removeCall_cases connectionIndex with ⟨-, same⟩ | ⟨call, -, removed⟩
  · rw [same] at hungUp
    cases hungUp
    exact failsCleanly_of_radio rfl
  · generalize radio.removeCall connectionIndex = outcome at hungUp removed
    obtain ⟨first, after⟩ := outcome
    cases removed
    cases hungUp
    exact failsCleanly_of_succeeds success_ne_failure

/-- **A failed request has left the calls as they were, exactly if it fails first.** -/
theorem failsCleanly_dispatch_iff (consistent : radio.Consistent) (request : RadioRequest) :
    (∀ handled, radio.dispatch request = some handled → radio.FailsCleanly handled) ↔
      radio.FailsFirst request := by
  have one (own : Handled) :
      (∀ handled, some own = some handled → radio.FailsCleanly handled) ↔
        radio.FailsCleanly own :=
    ⟨fun cleanly => cleanly own rfl, fun cleanly _ same => Option.some.inj same ▸ cleanly⟩
  cases request with
  | hangupWaitingOrBackground =>
      exact (one _).trans (consistent.editActiveCalls_unchanged_iff
        quiet_hangupWaitingOrBackgroundEdit effective_hangupWaitingOrBackgroundEdit)
  | hangUpForegroundResumeBackground =>
      exact (one _).trans (consistent.editActiveCalls_unchanged_iff
        quiet_hangUpForegroundEdit effective_hangUpForegroundEdit)
  | switchWaitingOrHoldingAndActive => exact (one _).trans (failsCleanly_switch_iff consistent)
  | answer => exact (one _).trans (failsCleanly_answer_iff consistent)
  | separateConnection index =>
      cases index with
      | none =>
          apply iff_of_true
          · rintro handled same
            cases same
          · trivial
      | some index => exact failsCleanly_separate_iff consistent index
  | conference => exact iff_of_true ((one _).mpr (failsCleanly_conference consistent)) trivial
  | query asked =>
      apply iff_of_true _ trivial
      exact fun handled result => failsCleanly_of_radio (rilRequestQuery_quiet result).1
  | dial data =>
      exact iff_of_true (fun handled result => failsCleanly_dial consistent result) trivial
  | hangUp connectionIndex =>
      exact iff_of_true (fun handled result => failsCleanly_hangUp consistent result) trivial
  | startInComingCall phoneNumber =>
      apply iff_of_true _ trivial
      intro handled result
      rcases startInComingCall_cases result with ⟨number, -, rfl | ⟨state, -, rfl⟩⟩
      · exact failsCleanly_of_succeeds ctrlStatusErr_ne_failure
      · exact failsCleanly_of_succeeds success_ne_failure
  | hangupConnRemote data =>
      apply iff_of_true _ trivial
      intro handled result
      rcases hangupConnRemote_cases result with ⟨asked, -, ⟨-, rfl⟩ | ⟨call, -, rfl⟩⟩
      · exact failsCleanly_of_succeeds ctrlStatusErr_ne_failure
      · exact failsCleanly_of_succeeds success_ne_failure
  | setCallTransitionFlag flag =>
      apply iff_of_true _ trivial
      intro handled result
      obtain ⟨value, -, done⟩ := Option.bind_eq_some_iff.mp result
      cases done
      exact failsCleanly_of_succeeds success_ne_failure
  | setCallAlert | setCallActive => exact iff_of_true ((one _).mpr (failsCleanly_move _ _)) trivial
  | addDialingCall phoneNumber =>
      apply iff_of_true _ trivial
      intro handled result
      rcases addDialingCall_cases result with ⟨number, -, ⟨-, rfl⟩ | rfl⟩
      · exact failsCleanly_of_succeeds success_ne_failure
      · exact failsCleanly_of_succeeds ctrlStatusErr_ne_failure
  | delayTest | unsolSignalStrength | unsolCallStateChanged | callStateChange =>
      exact iff_of_true ((one _).mpr (failsCleanly_of_succeeds success_ne_failure)) trivial
  | unsolCallRing =>
      apply iff_of_true ((one _).mpr _) trivial
      unfold cmdUnsolCallRing
      split_ifs
      · exact failsCleanly_of_succeeds success_ne_failure
      · exact failsCleanly_of_succeeds success_ne_failure

end

/-- **Behind every sequence of requests, commands and events, a request that fails with
RIL_E_GENERIC_FAILURE leaves the calls, their number and the ringing flag as they were,
exactly if it fails first.** -/
theorem failingRequest_unchanged_iff (requests : List RadioRequest) (request : RadioRequest) :
    (∀ handled, (run requests).dispatch request = some handled →
      handled.rilErrCode = rilEGenericFailure → Unchanged (run requests) handled.radio) ↔
      (run requests).FailsFirst request :=
  failsCleanly_dispatch_iff (callTable_consistent requests) request

/-- Behind them the first call is on hold and the second active. -/
def heldAndActive : List RadioRequest :=
  [.dial (some ⟨some "5551212"⟩), .callStateChange ⟨1, .active, 0⟩,
    .switchWaitingOrHoldingAndActive, .dial (some ⟨some "5551213"⟩),
    .callStateChange ⟨2, .active, 1⟩]

/-- The call on hold is removed on the way to the active one. -/
theorem heldCall_removed :
    ¬ ∀ handled, (run heldAndActive).dispatch .hangupWaitingOrBackground = some handled →
      handled.rilErrCode = rilEGenericFailure →
      Unchanged (run heldAndActive) handled.radio := by
  intro unchanged
  have failed := unchanged _ rfl (by decide)
  exact absurd failed.number (by decide)

end RildHisi.MockRil.Radio
