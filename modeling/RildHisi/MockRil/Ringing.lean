import RildHisi.MockRil.RadioWorker

/-!
Owns the ring events: how many are pending, and whether a call rings when one is sent. The
flag `incomingCallIsProcessed` stops them. It is set where an incoming call is answered, or
hung up by the other side; the other ways in which such a call stops ringing leave it.
-/

namespace RildHisi.MockRil

open RildHisi.Library

namespace Radio

/-- The request takes a ringing call at the index from its state, and leaves the flag. -/
def LosesAt (radio : Radio) (request : RadioRequest) (index : Nat) : Prop :=
  request = .hangUp (some index) ∨
  radio.editAt request index = some (.become .active) ∨
  (request = .answer ∧ radio.numberActiveCalls = 1 ∧ ¬ radio.InState .incoming index) ∨
  request.change?.any (fun change => change.callIndex = index) = true

instance (radio : Radio) (request : RadioRequest) (index : Nat) :
    Decidable (radio.LosesAt request index) := by
  unfold LosesAt
  infer_instance

/-- The loops keep a ringing call, answer it or hang it up with the flag. -/
theorem edit_ringing {radio : Radio} {request : RadioRequest} {index : Nat} {call : RilCall}
    {edit : CallEdit} (defined : radio.calls.get index = some call)
    (found : radio.editAt request index = some edit) (ringing : call.state.ringing = true) :
    edit = .keep ∨ edit = .become .active ∨ edit = .removeProcessed := by
  rcases editAt_cases defined found with keep | ⟨active, -⟩ | ⟨-, becomes⟩ | ⟨-, removes⟩
  · exact Or.inl keep
  · rw [active] at ringing
    cases ringing
  · exact Or.inr (Or.inl becomes)
  · exact Or.inr (Or.inr removes)

/-- **A ringing call rings on** behind a request that neither takes it from its state nor
sets the flag. -/
theorem Consistent.ringsAt_process {radio : Radio} (consistent : radio.Consistent)
    {request : RadioRequest} {index : Nat} (rings : radio.RingsAt index)
    (keeps : ¬ radio.LosesAt request index)
    (unprocessed : (radio.process request).radio.incomingCallIsProcessed = false) :
    (radio.process request).radio.RingsAt index := by
  obtain ⟨call, defined, ringing⟩ := ringsAt_iff.mp rings
  have acts := consistent.acts_process request index
  unfold Acts at acts
  rw [unprocessed, defined] at acts
  rw [ringsAt_iff]
  generalize (radio.process request).radio.calls.get index = left at acts ⊢
  cases acts with
  | same => exact ⟨call, rfl, ringing⟩
  | edited _ edit found done =>
      rcases edit_ringing defined found ringing with rfl | rfl | rfl
      · exact ⟨call, rfl, ringing⟩
      · exact absurd (Or.inr (Or.inl found)) keeps
      · cases done rfl
  | hungUp _ asked => exact absurd (Or.inl asked) keeps
  | hungUpRemote _ data asked done => cases done ringing
  | answered _ asked state done => cases done
  | refused _ asked single state =>
      refine absurd (Or.inr (Or.inr (Or.inl ⟨asked, single, fun incoming => ?_⟩))) keeps
      obtain ⟨same, here, incoming⟩ := inState_iff.mp incoming
      obtain rfl : call = same := Option.some.inj (defined.symm.trans here)
      exact state incoming
  | alerted _ asked only state =>
      rw [state] at ringing
      cases ringing
  | activated _ asked only state =>
      rw [state] at ringing
      cases ringing
  | changed _ change asked here =>
      refine absurd (Or.inr (Or.inr (Or.inr ?_))) keeps
      rw [asked, ← here]
      exact decide_eq_true rfl

end Radio

namespace RadioWorker

variable {s s' : RadioWorker}

/-- How many ring events are pending. -/
def rings (s : RadioWorker) : Nat := s.pending.count .unsolCallRing

/-- A new incoming call is let in while no ring event is pending and there is a place for it,
and no ringing call is taken from its state while one is pending and the flag is not set. -/
def KeepsRinging (s : RadioWorker) (event : RadioEvent) : Prop :=
  ∀ request ∈ s.running event,
    (s.radio.admitsIncoming request = true →
      s.rings = 0 ∧ s.radio.numberActiveCalls < maxNumberActiveCalls) ∧
    (0 < s.rings → s.radio.incomingCallIsProcessed = false →
      ∀ index ∈ s.radio.indices, s.radio.RingsAt index → ¬ s.radio.LosesAt request index)

instance (s : RadioWorker) (event : RadioEvent) : Decidable (s.KeepsRinging event) := by
  unfold KeepsRinging
  infer_instance

/-- RIL_UNSOL_CALL_RING is sent while a call rings, and at most one ring event is pending. -/
def RingsInCall (s : RadioWorker) (event : RadioEvent) : Prop :=
  ∀ s' ∈ s.step event, s'.rings ≤ 1 ∧
    ∀ request ∈ s.running event, .callRing ∈ (s.radio.process request).unsolicited →
      ∃ index ∈ s.radio.indices, s.radio.RingsAt index

instance (s : RadioWorker) (event : RadioEvent) : Decidable (s.RingsInCall event) := by
  unfold RingsInCall
  infer_instance

/-- At most one ring event is pending; while it is, a call rings or the flag is set. -/
structure InTune (s : RadioWorker) : Prop where
  consistent : s.radio.Consistent
  single : s.rings ≤ 1
  called : 0 < s.rings → s.radio.incomingCallIsProcessed = false →
    ∃ index, s.radio.RingsAt index

theorem inTune_initial : RadioWorker.initial.InTune where
  consistent := Radio.Consistent.initial
  single := Nat.zero_le _
  called pending := absurd pending (by decide)

theorem InTune.of_radio (inTune : s.InTune) (radio : s'.radio = s.radio)
    (rings : s'.rings ≤ s.rings) : s'.InTune where
  consistent := radio ▸ inTune.consistent
  single := Nat.le_trans rings inTune.single
  called pending := by
    rw [radio]
    exact inTune.called (Nat.lt_of_lt_of_le pending rings)

theorem rings_add {request : RadioRequest} {delay : Nat}
    (stepped : s.step (.add request delay) = some s') : s'.rings ≤ s.rings := by
  obtain ⟨outside, rfl⟩ := step_add stepped
  have other : request ≠ .unsolCallRing := by
    rintro rfl
    cases outside
  unfold rings
  rw [(pending_add _ request delay).count_eq, List.count_cons_of_ne other]
  obtain ⟨lost, before, same | overwritten⟩ := pending_reuse s request
  · exact Nat.le_of_eq (congrArg _ same)
  · rw [overwritten, List.count_cons_of_ne other, before, List.append_assoc]
    exact (List.sublist_append_right _ _).count_le _

theorem rings_schedule (s : RadioWorker) (scheduled : List (RadioRequest × Nat))
    (elapsed : List Nat) :
    (s.schedule scheduled elapsed).rings =
      (scheduled.map Prod.fst).count .unsolCallRing + s.rings := by
  unfold rings
  rw [(pending_schedule s scheduled elapsed).count_eq, List.count_append]

/-- A call rings behind the request as well. -/
theorem InTune.called_handled (inTune : s.InTune) {elapsed : List Nat} {request : RadioRequest}
    (keeps : s.KeepsRinging (.process elapsed))
    (running : s.running (.process elapsed) = some request) (pending : 0 < s.rings)
    (unprocessed : (s.radio.process request).radio.incomingCallIsProcessed = false) :
    ∃ index, (s.radio.process request).radio.RingsAt index := by
  obtain ⟨admission, kept⟩ := keeps request running
  have others : s.radio.admitsIncoming request = false := by
    by_contra admits
    have := (admission (by simpa using admits)).1
    omega
  have before : s.radio.incomingCallIsProcessed = false := by
    by_contra processed
    have after := Radio.flag_process (by simpa using processed) others
    rw [unprocessed] at after
    cases after
  obtain ⟨index, rings⟩ := inTune.called pending before
  obtain ⟨call, defined, -⟩ := Radio.ringsAt_iff.mp rings
  exact ⟨index, inTune.consistent.ringsAt_process rings
    (kept pending before index (Radio.mem_indices defined) rings) unprocessed⟩

theorem rings_reports {scheduled : List (RadioRequest × Nat)}
    (only : ∀ entry ∈ scheduled, Radio.reports entry.1 = true) :
    (scheduled.map Prod.fst).count .unsolCallRing = 0 := by
  refine List.count_eq_zero.mpr fun member => ?_
  obtain ⟨entry, here, same⟩ := List.mem_map.mp member
  have reports := only entry here
  rw [same] at reports
  cases reports

theorem rings_dialEvents (transitionFlag : Bool) (index object : Nat) :
    ((Radio.dialEvents transitionFlag index object).map Prod.fst).count .unsolCallRing = 0 := by
  refine List.count_eq_zero.mpr fun member => ?_
  unfold Radio.dialEvents at member
  cases transitionFlag <;> simp at member

theorem InTune.process (inTune : s.InTune) {elapsed : List Nat}
    (keeps : s.KeepsRinging (.process elapsed))
    (stepped : s.step (.process elapsed) = some s') : s'.InTune := by
  obtain ⟨request, popped, running, rfl⟩ := step_process stepped
  have called := inTune.called_handled keeps running
  have before : s.rings =
      (s.handled request).rings + if request = .unsolCallRing then 1 else 0 := by
    unfold rings
    rw [pending_handled popped, List.count_cons]
    simp
  have single := inTune.single
  have consistent := inTune.consistent.process request
  -- where no ring event is added, the pending ones have been pending before
  have silent (scheduled : List (RadioRequest × Nat))
      (none_ : (scheduled.map Prod.fst).count .unsolCallRing = 0) :
      ((s.handled request).schedule scheduled elapsed).InTune := by
    have rings := rings_schedule (s.handled request) scheduled elapsed
    refine ⟨by rw [radio_schedule]; exact consistent, by omega, fun pending unprocessed => ?_⟩
    rw [radio_schedule] at unprocessed ⊢
    exact called (by omega) unprocessed
  have schedules := inTune.consistent.schedules_process request
  generalize (s.radio.process request).unsolicited = unsolicited at schedules
  generalize (s.radio.process request).scheduled = scheduled at schedules ⊢
  cases schedules with
  | reports _ _ only _ => exact silent _ (rings_reports only)
  | dialed index adds room free => exact silent _ (rings_dialEvents _ _ _)
  | rings admits =>
      obtain ⟨nothing, room⟩ := (keeps request running).1 admits
      have rings := rings_schedule (s.handled request) [(.unsolCallRing, 0)] elapsed
      simp only [List.map_cons, List.map_nil, List.count_singleton_self] at rings
      refine ⟨by rw [radio_schedule]; exact consistent, by omega, fun _ _ => ?_⟩
      rw [radio_schedule]
      exact inTune.consistent.ringsAt_of_admitsIncoming admits room
  | ringsAgain asked unprocessed =>
      rw [if_pos asked] at before
      have rings := rings_schedule (s.handled request) [(.unsolCallRing, 3000)] elapsed
      simp only [List.map_cons, List.map_nil, List.count_singleton_self] at rings
      refine ⟨by rw [radio_schedule]; exact consistent, by omega, fun _ still => ?_⟩
      rw [radio_schedule] at still ⊢
      exact called (by omega) still

/-- A step keeps the ring events in tune with the calls, where it keeps the ringing. -/
theorem InTune.step {event : RadioEvent} (inTune : s.InTune) (keeps : s.KeepsRinging event)
    (stepped : s.step event = some s') : s'.InTune := by
  cases event with
  | add request delay =>
      refine inTune.of_radio ?_ (rings_add stepped)
      obtain ⟨-, rfl⟩ := step_add stepped
      exact radio_add _ _ _
  | tick milliseconds =>
      cases stepped
      exact inTune.of_radio rfl (Nat.le_refl _)
  | pop moved =>
      refine inTune.of_radio ?_ (Nat.le_of_eq ((pending_pop stepped).count_eq _))
      obtain ⟨-, ⟨_, _, -, rfl⟩ | ⟨-, _, _, -, rfl⟩⟩ := step_pop stepped <;> rfl
  | read =>
      refine inTune.of_radio ?_ (Nat.le_of_eq (by rw [rings, pending_read stepped]; rfl))
      obtain ⟨request, -, rfl⟩ := step_read stepped
      rfl
  | process elapsed => exact inTune.process keeps stepped

/-- In tune, a ring is sent for a call that rings. -/
theorem InTune.eventRings {event : RadioEvent} (inTune : s.InTune)
    (keeps : s.KeepsRinging event) : s.RingsInCall event := by
  intro s' stepped
  refine ⟨(inTune.step keeps stepped).single, fun request running sent => ?_⟩
  cases event with
  | process elapsed =>
      obtain ⟨found, popped, same, -⟩ := step_process stepped
      obtain rfl := Option.some.inj (same.symm.trans running)
      obtain ⟨rfl, unprocessed⟩ := inTune.consistent.callRing_sent sent
      have pending : 0 < s.rings := by
        unfold rings
        rw [pending_handled popped]
        exact List.count_pos_iff.mpr List.mem_cons_self
      obtain ⟨index, rings⟩ := inTune.called pending unprocessed
      obtain ⟨call, defined, -⟩ := Radio.ringsAt_iff.mp rings
      exact ⟨index, Radio.mem_indices defined, rings⟩
  | _ => cases running

/-- **A ring is sent while a call rings, and one at most is pending**, in every run that keeps
the ringing. -/
theorem ringsInCall (events : List RadioEvent)
    (keeps : StepsMeet RadioWorker.step KeepsRinging RadioWorker.initial events) :
    StepsMeet RadioWorker.step RingsInCall RadioWorker.initial events :=
  StepsMeet.mono_of_invariant (fun _ _ _ inTune ringing stepped => inTune.step ringing stepped)
    (fun _ _ inTune ringing => inTune.eventRings ringing) inTune_initial keeps

/-- An incoming call rings twice, is answered, and rings no more. -/
def answeredCall : List RadioEvent :=
  [.add (.startInComingCall (some "555")) 0] ++ turn [] ++ turn [] ++ [.tick 3000] ++
    turn [⟨3000, .unsolCallRing⟩] ++ [.add .answer 0] ++ turn [] ++ [.tick 3000] ++
    turn [⟨6000, .unsolCallRing⟩]

theorem ringsInCall_answeredCall :
    (run RadioWorker.step RadioWorker.initial answeredCall).map RadioWorker.rings = some 0 ∧
      StepsMeet RadioWorker.step RingsInCall RadioWorker.initial answeredCall :=
  ⟨by decide, ringsInCall answeredCall (by decide)⟩

/-- An incoming call is hung up by its index in front of its first ring, which is sent. -/
def hungUpCall : List RadioEvent :=
  [.add (.startInComingCall (some "555")) 0, .add (.hangUp (some 1)) 0] ++ turn [] ++ turn [] ++
    turn []

theorem hungUpCall_rings :
    ¬ ∀ events, StepsMeet RadioWorker.step RingsInCall RadioWorker.initial events :=
  fun always => absurd (always hungUpCall) (by decide)

end RadioWorker

end RildHisi.MockRil
