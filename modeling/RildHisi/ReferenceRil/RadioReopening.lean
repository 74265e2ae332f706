import RildHisi.ReferenceRil.RadioClosing

/-!
Owns what a close of the AT channel does to the next opening. `mainLoop` reopens the
channel as soon as it sees `s_closed`, be the close still in front of its critical
section or not; what a late close then does to the radio state is `noSpill_iff`.
-/

namespace RildHisi.ReferenceRil

open RildHisi.Library

namespace Radio

/-- The calls the source makes: only a close passes `RADIO_STATE_UNAVAILABLE`. -/
def sourceStep (s : Radio) : RadioEvent → Option Radio
  | .call thread newState => if newState = .unavailable then none else s.step (.call thread newState)
  | event => s.step event

theorem step_of_sourceStep {s s' : Radio} {event : RadioEvent}
    (stepped : s.sourceStep event = some s') : s.step event = some s' := by
  cases event with
  | call thread newState => exact (Option.ite_none_left_eq_some.mp stepped).2
  | _ => exact stepped

/-- Where an activity of a thread in `s'` comes from, if it is new. -/
inductive Arises (s s' : Radio) (thread : Nat) : Activity → Prop
  | begins (newState : RadioState) (given : newState ≠ .unavailable) :
      Arises s s' thread (.call .other (.enter newState))
  | atClose : Arises s s' thread .atClose
  | setClosed : Arises s s' thread .setClosed
  | initializes (opens : Nat) (waiting : opens ∈ s.scheduled) :
      Arises s s' thread (.call (.initializeCallback opens) (.enter .off))
  | closes : Arises s s' thread (.call (.closer s.opens) (.enter .unavailable))
  | goesOn (caller : Caller) (phase next : CallPhase)
      (at' : s.activities thread = some (.call caller phase))
      (entered : ∀ newState, next = .enter newState → newState = .simReady)
      (sets : ∀ newState, phase = .enter newState → s'.sState = (s.setState newState).sState) :
      Arises s s' thread (.call caller next)
  | asks (opens : Nat) (phase : CallPhase)
      (at' : s.activities thread = some (.call (.initializeCallback opens) phase))
      (left : ∀ newState, phase ≠ .enter newState) :
      Arises s s' thread (.call (.radioOn opens) (.enter .simNotReady))

theorem arises_put {s s' : Radio} {thread other : Nat} {activity next : Activity}
    (new : s.Arises s' thread next) (at' : (s.put thread (some next)).activities other = some activity) :
    s.activities other = some activity ∨ s.Arises s' other activity := by
  by_cases same : other = thread
  · subst same
    rw [put_activities_self] at at'
    exact Or.inr (Option.some.inj at' ▸ new)
  · rw [put_activities_of_ne s same] at at'
    exact Or.inl at'

theorem arises_returnTo {s : Radio} (s' : Radio) {thread other : Nat} {caller : Caller}
    {phase : CallPhase} {activity : Activity}
    (before : s.activities thread = some (.call caller phase))
    (left : ∀ newState, phase ≠ .enter newState)
    (at' : (s.returnTo thread caller).activities other = some activity) :
    s.activities other = some activity ∨ s.Arises s' other activity := by
  by_cases same : other = thread
  · subst same
    cases caller with
    | initializeCallback opens => exact arises_put (.asks opens phase before left) at'
    | _ => simp [returnTo, put] at at'
  · rw [returnTo_activities_of_ne s same] at at'
    exact Or.inl at'

theorem arises_runCall {s : Radio} {thread other : Nat} {caller : Caller} {phase : CallPhase}
    {activity : Activity} (before : s.activities thread = some (.call caller phase))
    (at' : (s.runCall thread caller phase).activities other = some activity) :
    s.activities other = some activity ∨ s.Arises (s.runCall thread caller phase) other activity := by
  cases phase with
  | enter newState =>
      have same : (s.runCall thread caller (.enter newState)).activities =
          (s.put thread (some (.call caller (.compare s.sState)))).activities := by
        simp [runCall, put]
      rw [same] at at'
      refine arises_put (.goesOn caller _ _ before (by simp) fun given entered => ?_) at'
      rw [← CallPhase.enter.inj entered]
      rfl
  | compare oldState =>
      rw [runCall] at at'
      split_ifs at at'
      · exact arises_put (.goesOn caller _ _ before (by simp) (by simp)) at'
      · exact arises_returnTo _ before (by simp) at'
  | request => exact arises_put (.goesOn caller _ _ before (by simp) (by simp)) at'
  | send payload => exact arises_put (.goesOn caller _ _ before (by simp) (by simp)) at'
  | follow =>
      rw [runCall] at at'
      split_ifs at at'
      · exact arises_put (.goesOn caller _ _ before (by simp) (by simp)) at'
      · exact arises_returnTo _ before (by simp) at'

theorem arises_step {s s' : Radio} {event : RadioEvent} {thread : Nat} {activity : Activity}
    (stepped : s.sourceStep event = some s') (at' : s'.activities thread = some activity) :
    s.activities thread = some activity ∨ s.Arises s' thread activity := by
  cases stepped_of_step (step_of_sourceStep stepped) with
  | call other newState idle =>
      exact arises_put (.begins newState (Option.ite_none_left_eq_some.mp stepped).1) at'
  | close other idle => exact arises_put .atClose at'
  | initializeCallback other opens scheduled idle waiting =>
      exact arises_put (.initializes opens (by simp [waiting])) at'
  | atClose other before => exact arises_put .setClosed at'
  | setClosed other before => exact arises_put .closes at'
  | runCall other caller phase before => exact arises_runCall before at'
  | reopen before => exact Or.inl at'
  | atOpen before => exact Or.inl at'
  | waitForClose before => exact Or.inl at'
  | wake broadcasts before => exact Or.inl at'

/-- Where the initializations of `s'` come from. -/
structure ListsFrom (s s' : Radio) : Prop where
  scheduled : ∀ opens ∈ s'.scheduled, opens ∈ s.scheduled ∨ opens = s.opens
  initialized : ∀ opens ∈ s'.initialized, opens ∈ s.initialized ∨
    ∃ thread phase, s.activities thread = some (.call (.radioOn opens) phase)

theorem listsFrom_of_eq {s s' : Radio} (scheduled : s'.scheduled = s.scheduled)
    (initialized : s'.initialized = s.initialized) : s.ListsFrom s' :=
  ⟨fun _ member => Or.inl (scheduled ▸ member), fun _ member => Or.inl (initialized ▸ member)⟩

theorem listsFrom_returnTo {s : Radio} {thread : Nat} {caller : Caller} {phase : CallPhase}
    (before : s.activities thread = some (.call caller phase)) :
    s.ListsFrom (s.returnTo thread caller) := by
  cases caller with
  | radioOn opens =>
      refine ⟨fun _ member => Or.inl member, fun known member => ?_⟩
      rcases List.mem_cons.mp member with rfl | old
      · exact Or.inr ⟨thread, phase, before⟩
      · exact Or.inl old
  | _ => exact listsFrom_of_eq rfl rfl

theorem listsFrom_runCall {s : Radio} {thread : Nat} {caller : Caller} {phase : CallPhase}
    (before : s.activities thread = some (.call caller phase)) :
    s.ListsFrom (s.runCall thread caller phase) := by
  cases phase with
  | enter newState =>
      refine listsFrom_of_eq ?_ ?_
      · simp only [runCall, put, setState]
        split_ifs <;> rfl
      · simp only [runCall, put, setState]
        split_ifs <;> rfl
  | compare oldState =>
      rw [runCall]
      split_ifs
      · exact listsFrom_of_eq rfl rfl
      · exact listsFrom_returnTo before
  | request => exact listsFrom_of_eq rfl rfl
  | send payload => exact listsFrom_of_eq rfl rfl
  | follow =>
      rw [runCall]
      split_ifs
      · exact listsFrom_of_eq rfl rfl
      · exact listsFrom_returnTo before

theorem listsFrom_step {s s' : Radio} {event : RadioEvent} (stepped : s.step event = some s') :
    s.ListsFrom s' := by
  cases stepped_of_step stepped with
  | initializeCallback thread opens scheduled idle waiting =>
      exact ⟨fun known member => Or.inl (waiting ▸ List.mem_cons_of_mem _ member),
        fun known member => Or.inl member⟩
  | runCall thread caller phase at' => exact listsFrom_runCall at'
  | atOpen at' =>
      refine ⟨fun known member => ?_, fun known member => Or.inl member⟩
      rcases List.mem_append.mp member with old | new
      · exact Or.inl old
      · exact Or.inr (List.mem_singleton.mp new)
  | _ => exact listsFrom_of_eq rfl rfl

end Radio

/-- The opening a call belongs to, if it is one of a close or an initialization. -/
def Caller.opens : Caller → Nat
  | .other => 0
  | .closer opens | .initializeCallback opens | .radioOn opens => opens

/-- `initializeCallback` of this opening is past its first critical section. -/
def Activity.begun (opens : Nat) : Activity → Bool
  | .call (.radioOn known) _ => known == opens
  | .call (.initializeCallback known) phase => known == opens && phase != .enter .off
  | _ => false

namespace Radio

/-- `initializeCallback` of this opening has set the state. -/
def Begun (s : Radio) (opens : Nat) : Prop :=
  opens ∈ s.initialized ∨
    ∃ thread activity, s.activities thread = some activity ∧ activity.begun opens = true

/-- What holds in every run of the source. -/
structure Sound (s : Radio) : Prop where
  closes : s.Closes
  callers : ∀ thread caller phase, s.activities thread = some (.call caller phase) →
    caller.opens ≤ s.opens
  scheduled : ∀ opens ∈ s.scheduled, opens ≤ s.opens
  initialized : ∀ opens ∈ s.initialized, opens ≤ s.opens
  values : ∀ thread caller, s.activities thread = some (.call caller (.enter .unavailable)) →
    ∃ opens, caller = .closer opens

theorem sound_step {s s' : Radio} {event : RadioEvent} (sound : s.Sound)
    (stepped : s.sourceStep event = some s') : s'.Sound := by
  have stepped' := step_of_sourceStep stepped
  have grows := (moves_step stepped').opens_le
  have lists := listsFrom_step stepped'
  refine ⟨closes_step sound.closes stepped', ?_, ?_, ?_, ?_⟩
  · intro thread caller phase at'
    rcases arises_step stepped at' with before | new
    · exact (sound.callers thread caller phase before).trans grows
    · cases new with
      | begins newState given => exact Nat.zero_le _
      | initializes opens waiting => exact (sound.scheduled opens waiting).trans grows
      | closes => exact grows
      | goesOn _ phase _ before => exact (sound.callers thread caller phase before).trans grows
      | asks opens phase before => exact (sound.callers thread _ phase before).trans grows
  · intro opens member
    rcases lists.scheduled opens member with before | rfl
    · exact (sound.scheduled opens before).trans grows
    · exact grows
  · intro opens member
    rcases lists.initialized opens member with before | ⟨thread, phase, at'⟩
    · exact (sound.initialized opens before).trans grows
    · exact (sound.callers thread _ phase at').trans grows
  · intro thread caller at'
    rcases arises_step stepped at' with before | new
    · exact sound.values thread caller before
    · cases new with
      | begins newState given => exact absurd rfl given
      | closes => exact ⟨s.opens, rfl⟩
      | goesOn _ phase _ before entered => exact absurd (entered _ rfl) (by decide)

theorem sound_initial : Radio.initial.Sound where
  closes := ⟨fun _ _ _ none => absurd none (by simp [Radio.initial]), by simp [Radio.initial]⟩
  callers _ _ _ at' := by cases at'
  scheduled _ member := by cases member
  initialized _ member := by cases member
  values _ _ at' := by cases at'

theorem Sound.begun_le {s : Radio} (sound : s.Sound) {opens : Nat} (begun : s.Begun opens) :
    opens ≤ s.opens := by
  rcases begun with done | ⟨thread, activity, at', begun⟩
  · exact sound.initialized opens done
  · cases activity with
    | call caller phase =>
        have known := sound.callers thread caller phase at'
        cases caller <;> simp_all [Activity.begun, Caller.opens]
    | _ => simp [Activity.begun] at begun

/-- An initialization that is past its first critical section was so before, or has just
left it. -/
theorem begun_back {s s' : Radio} {event : RadioEvent} {opens : Nat}
    (stepped : s.sourceStep event = some s') (begun : s'.Begun opens) :
    s.Begun opens ∨ ∃ thread, s.activities thread =
        some (.call (.initializeCallback opens) (.enter .off)) ∧
      s'.sState = (s.setState .off).sState := by
  rcases begun with done | ⟨thread, activity, at', begun⟩
  · rcases (listsFrom_step (step_of_sourceStep stepped)).initialized opens done with
      before | ⟨thread, phase, before⟩
    · exact Or.inl (Or.inl before)
    · exact Or.inl (Or.inr ⟨thread, _, before, by simp [Activity.begun]⟩)
  · rcases arises_step stepped at' with before | new
    · exact Or.inl (Or.inr ⟨thread, activity, before, begun⟩)
    · cases new with
      | goesOn caller phase next before entered sets =>
          by_cases first : caller = .initializeCallback opens ∧ phase = .enter .off
          · obtain ⟨rfl, rfl⟩ := first
            exact Or.inr ⟨thread, before, sets .off rfl⟩
          · refine Or.inl (Or.inr ⟨thread, _, before, ?_⟩)
            cases caller <;> simp_all [Activity.begun]
      | asks known phase before left =>
          have same : known = opens := by simpa [Activity.begun] using begun
          subst same
          exact Or.inl (Or.inr ⟨thread, _, before, by simp [Activity.begun, left]⟩)
      | _ => simp [Activity.begun] at begun

theorem runCall_opens (s : Radio) (thread : Nat) (caller : Caller) (phase : CallPhase) :
    (s.runCall thread caller phase).opens = s.opens := by
  have returns : (s.returnTo thread caller).opens = s.opens := by cases caller <;> rfl
  cases phase with
  | enter newState => exact setState_opens s newState
  | compare oldState =>
      rw [runCall]
      split_ifs
      · rfl
      · exact returns
  | request => rfl
  | send payload => rfl
  | follow =>
      rw [runCall]
      split_ifs
      · rfl
      · exact returns

/-- Only `mainLoop` opens. -/
theorem opens_step {s s' : Radio} {event : RadioEvent} (stepped : s.step event = some s') :
    s'.opens = s.opens ∨ event = .main ∧ s.main = .reopen ∧ s'.opens = s.opens + 1 ∧
      s'.activities = s.activities := by
  cases stepped_of_step stepped with
  | runCall thread caller phase at' => exact Or.inl (runCall_opens s thread caller phase)
  | reopen at' => exact Or.inr ⟨rfl, at', rfl, rfl⟩
  | _ => exact Or.inl rfl

/-- However the run goes on, the channel that was opened last is available once it is
initialized, until it is closed. -/
def NoSpill (s : Radio) : Prop :=
  ∀ later s', run sourceStep s later = some s' → s'.opens = s.opens →
    s'.Begun s'.opens → s'.sClosed = false → s'.sState ≠ .unavailable

/-- `mainLoop` clears `s_closed` only when no close stands between `s_closed = 1` and its
critical section. -/
def ClosesFirst (s : Radio) (event : RadioEvent) : Prop :=
  event = .main → s.main = .reopen → ∀ thread opens,
    s.activities thread ≠ some (.call (.closer opens) (.enter .unavailable))

/-- The close of no earlier opening still has its critical section in front of it. -/
def NoLateClose (s : Radio) : Prop :=
  ∀ thread opens, s.activities thread = some (.call (.closer opens) (.enter .unavailable)) →
    opens = s.opens

/-- An initialized channel is available until it is closed. -/
def Available (s : Radio) : Prop :=
  s.Begun s.opens → s.sClosed = false → s.sState ≠ .unavailable

/-- With `s_closed` clear, a critical section makes the state available. -/
theorem available_setState {s : Radio} (sound : s.Sound) (noLate : s.NoLateClose)
    (cleared : s.sClosed = false) {thread : Nat} {caller : Caller} {newState : RadioState}
    (at' : s.activities thread = some (.call caller (.enter newState))) :
    (s.setState newState).sState ≠ .unavailable := by
  rw [setState_sState, cleared]
  rintro rfl
  obtain ⟨opens, rfl⟩ := sound.values thread caller at'
  have closed := ((sound.closes.calls thread) opens _ at').1.closed (noLate thread opens at')
  rw [cleared] at closed
  cases closed

/-- Only a reopening makes a close late. -/
theorem noLateClose_step {s s' : Radio} {event : RadioEvent} (noLate : s.NoLateClose)
    (stepped : s.sourceStep event = some s') (same : s'.opens = s.opens) : s'.NoLateClose := by
  intro thread opens at'
  rw [same]
  rcases arises_step stepped at' with before | new
  · exact noLate thread opens before
  · cases new with
    | closes => rfl
    | goesOn _ _ _ _ entered => exact absurd (entered _ rfl) (by decide)

theorem available_step {s s' : Radio} {event : RadioEvent} (sound : s.Sound)
    (noLate : s.NoLateClose) (available : s.Available) (stepped : s.sourceStep event = some s')
    (same : s'.opens = s.opens) : s'.Available := by
  have stepped' := step_of_sourceStep stepped
  intro begun cleared
  rw [same] at begun
  -- the state is what it was, or a critical section has set it
  have kept : s'.sState = s.sState → s.sClosed = false → s'.sState ≠ .unavailable := by
    intro state before
    rcases begun_back stepped begun with begun | ⟨thread, at', sets⟩
    · exact state ▸ available begun before
    · exact sets ▸ available_setState sound noLate before at'
  cases moves_step stepped' with
  | reopens moved =>
      have count : s'.opens = s.opens + 1 := congrArg (·.2.2.1) moved
      omega
  | closes moved =>
      have closed : s'.sClosed = true := congrArg (·.2.1) moved
      rw [cleared] at closed
      cases closed
  | sets thread caller newState at' moved =>
      have closed : s'.sClosed = (s.setState newState).sClosed := congrArg (·.2.1) moved
      have state : s'.sState = (s.setState newState).sState := congrArg (·.1) moved
      rw [setState_sClosed] at closed
      rw [state]
      exact available_setState sound noLate (closed.symm.trans cleared) at'
  | stays moved =>
      have closed : s'.sClosed = s.sClosed := congrArg (·.2.1) moved
      exact kept (congrArg (·.1) moved) (closed.symm.trans cleared)
  | goesOn moved =>
      have closed : s'.sClosed = s.sClosed := congrArg (·.2.1) moved
      exact kept (congrArg (·.1) moved) (closed.symm.trans cleared)
  | tests moved =>
      have closed : s'.sClosed = s.sClosed := congrArg (·.2.1) moved
      exact kept (congrArg (·.1) moved) (closed.symm.trans cleared)

theorem opens_le_run {s s' : Radio} {events : List RadioEvent}
    (ran : run sourceStep s events = some s') : s.opens ≤ s'.opens := by
  have kept : ∀ before event after, s.opens ≤ before.opens →
      sourceStep before event = some after → s.opens ≤ after.opens := by
    intro before event after below stepped
    exact below.trans (moves_step (step_of_sourceStep stepped)).opens_le
  exact run_invariant kept le_rfl ran

/-- Until the next reopening nothing spills where no close is late. -/
theorem noSpill_of_noLateClose {s : Radio} (sound : s.Sound) (noLate : s.NoLateClose)
    (available : s.Available) : s.NoSpill := by
  intro later s' ran same
  induction later generalizing s with
  | nil =>
      obtain rfl : s = s' := by simpa using ran
      exact available
  | cons event later inductionHypothesis =>
      obtain ⟨next, stepped, rest⟩ := Option.bind_eq_some_iff.mp ran
      have first := (moves_step (step_of_sourceStep stepped)).opens_le
      have second := opens_le_run rest
      have still : next.opens = s.opens := by omega
      exact inductionHypothesis (sound_step sound stepped) (noLateClose_step noLate stepped still)
        (available_step sound noLate available stepped still) rest (same.trans still.symm)

/-! ### The schedule behind a late close -/

/-- Threads from `bound` on are idle. -/
def IdleFrom (s : Radio) (bound : Nat) : Prop :=
  ∀ thread, bound ≤ thread → s.activities thread = none

theorem idleFrom_step {s s' : Radio} {event : RadioEvent} (idle : ∃ bound, s.IdleFrom bound)
    (stepped : s.sourceStep event = some s') : ∃ bound, s'.IdleFrom bound := by
  obtain ⟨bound, idle⟩ := idle
  refine ⟨max bound ((event.thread.map (· + 1)).getD 0), fun thread above => ?_⟩
  rw [activities_step_of_ne (step_of_sourceStep stepped) ?_]
  · exact idle thread (le_trans (le_max_left _ _) above)
  · intro own
    rw [own, Option.map_some, Option.getD_some] at above
    omega

/-- The event loop comes to the last of the timed callbacks, each on a thread of its own. -/
theorem initializes_last {s : Radio} {bound opens : Nat} (idle : s.IdleFrom bound)
    {front : List Nat} (scheduled : s.scheduled = front ++ [opens]) :
    ∃ events s' thread, run sourceStep s events = some s' ∧ s'.sClosed = s.sClosed ∧
      s'.opens = s.opens ∧ (∀ other < bound, s'.activities other = s.activities other) ∧
      bound ≤ thread ∧
      s'.activities thread = some (.call (.initializeCallback opens) (.enter .off)) := by
  induction front generalizing s bound with
  | nil =>
      let next : Radio :=
        { s.put bound (some (.call (.initializeCallback opens) (.enter .off))) with scheduled := [] }
      have begins : s.step (.initializeCallback bound) = some next := by
        rw [step, idle bound le_rfl, scheduled]
        rfl
      refine ⟨[.initializeCallback bound], next, bound, ?_, rfl, rfl, fun other below => ?_, le_rfl,
        put_activities_self _ _ _⟩
      · exact congrArg (Option.bind · (run sourceStep · [])) begins
      · exact put_activities_of_ne s (Nat.ne_of_lt below) _
  | cons first front inductionHypothesis =>
      let next : Radio :=
        { s.put bound (some (.call (.initializeCallback first) (.enter .off))) with
          scheduled := front ++ [opens] }
      have begins : s.step (.initializeCallback bound) = some next := by
        rw [step, idle bound le_rfl, scheduled]
        rfl
      have above : next.IdleFrom (bound + 1) := fun thread above =>
        (put_activities_of_ne s (Nat.ne_of_gt above) _).trans (idle thread (by omega))
      obtain ⟨events, s', thread, ran, closed, same, others, fresh, at'⟩ :=
        inductionHypothesis above rfl
      refine ⟨.initializeCallback bound :: events, s', thread, ?_, closed, same,
        fun other below => ?_, by omega, at'⟩
      · exact (congrArg (Option.bind · (run sourceStep · events)) begins).trans ran
      · exact (others other (by omega)).trans (put_activities_of_ne s (Nat.ne_of_lt below) _)

/-- **A late close spills over**: the new channel is initialized, then the close goes on. -/
theorem not_noSpill_of_reopened {s s' : Radio} (idle : ∃ bound, s.IdleFrom bound) {closer known : Nat}
    (pending : s.activities closer = some (.call (.closer known) (.enter .unavailable)))
    (main : s.main = .reopen) (stepped : s.sourceStep .main = some s') : ¬ s'.NoSpill := by
  intro noSpill
  obtain ⟨bound, idle⟩ := idle
  have below : closer < bound := by
    by_contra above
    rw [idle closer (by omega)] at pending
    cases pending
  let opened : Radio := { s with sClosed := false, opens := s.opens + 1, main := .atOpen }
  let waiting : Radio :=
    { opened with scheduled := s.scheduled ++ [s.opens + 1], main := .waitForClose }
  have reopens : s.step .main = some opened := by
    rw [step, main]
  obtain rfl : opened = s' := Option.some.inj (reopens.symm.trans stepped)
  have waits : opened.sourceStep .main = some waiting := rfl
  have idle' : waiting.IdleFrom bound := idle
  obtain ⟨events, ready, thread, ran, cleared, same, others, fresh, at'⟩ :=
    initializes_last idle' rfl
  have late : ready.activities closer = some (.call (.closer known) (.enter .unavailable)) :=
    (others closer below).trans pending
  -- the critical section of the initialization, then that of the close
  let entered := ready.runCall thread (.initializeCallback (s.opens + 1)) (.enter .off)
  let spilled := entered.runCall closer (.closer known) (.enter .unavailable)
  have enters : ready.step (.run thread) = some entered := by
    rw [step, at']
  have still : entered.activities closer = some (.call (.closer known) (.enter .unavailable)) :=
    (runCall_activities_of_ne ready (by omega) _ _).trans late
  have spills : entered.step (.run closer) = some spilled := by
    rw [step, still]
  have whole : run sourceStep opened (.main :: (events ++ [.run thread, .run closer])) =
      some spilled := by
    rw [run_cons, waits, Option.bind_some, run_append, ran]
    exact (congrArg (Option.bind · (run sourceStep · [.run closer])) enters).trans
      (congrArg (Option.bind · (run sourceStep · [])) spills)
  have count : spilled.opens = s.opens + 1 :=
    (runCall_opens _ _ _ _).trans ((runCall_opens _ _ _ _).trans same)
  have closed : spilled.sClosed = false :=
    (setState_sClosed _ _).trans ((setState_sClosed _ _).trans cleared)
  have begun : spilled.Begun spilled.opens := by
    refine Or.inr ⟨thread, .call (.initializeCallback (s.opens + 1)) (.compare ready.sState), ?_, ?_⟩
    · rw [runCall_activities_of_ne entered (by omega)]
      exact put_activities_self _ _ _
    · simp [Activity.begun, count]
  refine noSpill _ spilled whole count begun closed ?_
  have still' : entered.sClosed = false := (setState_sClosed _ _).trans cleared
  change (entered.setState .unavailable).sState = .unavailable
  rw [setState_sState, still']
  rfl

/-- **One step.** Nothing spills behind a step exactly if it reopens behind every close. -/
theorem closesFirst_iff_noSpill {s s' : Radio} {event : RadioEvent} (sound : s.Sound)
    (idle : ∃ bound, s.IdleFrom bound) (noSpill : s.NoSpill)
    (stepped : s.sourceStep event = some s') : s.ClosesFirst event ↔ s'.NoSpill := by
  rcases opens_step (step_of_sourceStep stepped) with same | ⟨rfl, phase, opened, threads⟩
  · refine iff_of_true ?_ fun later s'' ran still => ?_
    · rintro rfl phase
      simp only [sourceStep, step, phase, Option.some.injEq] at stepped
      rw [← stepped] at same
      exact absurd same (Nat.succ_ne_self s.opens)
    · exact noSpill (event :: later) s'' (by rw [run_cons, stepped]; exact ran)
        (still.trans same)
  · constructor
    · intro first
      apply noSpill_of_noLateClose (sound_step sound stepped)
      · intro thread opens at'
        rw [threads] at at'
        exact absurd at' (first rfl phase thread opens)
      · -- nothing has run for the new opening
        intro begun
        have known := (sound_step sound stepped).begun_le begun
        rcases begun_back stepped begun with before | ⟨thread, at', -⟩
        · have old := sound.begun_le before
          omega
        · have old := sound.callers thread _ _ at'
          simp only [Caller.opens] at old
          omega
    · intro keeps _ _ thread opens at'
      exact not_noSpill_of_reopened idle at' phase stepped keeps

end Radio

/-- **A close does not spill over.** From every state of a run on, until `mainLoop` opens
the channel again, a channel that is initialized and not closed is available, exactly if
`mainLoop` only clears `s_closed` behind the critical section of the close that set it. -/
theorem noSpill_iff {events : List RadioEvent} {s : Radio}
    (ran : run Radio.sourceStep .initial events = some s) :
    (∀ front back middle, events = front ++ back →
      run Radio.sourceStep .initial front = some middle → middle.NoSpill) ↔
      StepsMeet Radio.sourceStep Radio.ClosesFirst .initial events := by
  have initially : Radio.initial.NoSpill := by
    refine Radio.noSpill_of_noLateClose Radio.sound_initial (fun thread opens at' => ?_) ?_
    · cases at'
    · rintro (done | ⟨thread, activity, at', -⟩)
      · cases done
      · cases at'
  have kept : ∀ before event after, before.Sound ∧ (∃ bound, before.IdleFrom bound) →
      Radio.sourceStep before event = some after → after.Sound ∧ ∃ bound, after.IdleFrom bound :=
    fun _ _ _ good stepped =>
      ⟨Radio.sound_step good.1 stepped, Radio.idleFrom_step good.2 stepped⟩
  exact (stepsMeet_iff_along kept
    (fun _ _ _ good noSpill stepped =>
      Radio.closesFirst_iff_noSpill good.1 good.2 noSpill stepped)
    ⟨Radio.sound_initial, 0, fun _ _ => rfl⟩ initially ran).symm

/-- The next `initializeCallback`, from its start to its end. -/
def initializeEvents (thread : Nat) : List RadioEvent :=
  .initializeCallback thread :: List.replicate 15 (.run thread)

/-- A close that `mainLoop` overtakes: it sees `s_closed`, reopens the channel and has it
initialized, and only then does the close go on to its critical section. -/
def overtakenClose : List RadioEvent :=
  [.main, .main, .main] ++ initializeEvents 2 ++
    [.close 1, .run 1, .run 1, .wake, .main, .main] ++ initializeEvents 2 ++ [.run 1]

/-- **A close spills over.** The channel is open and initialized, and the radio is unavailable
for as long as nothing else changes the state. -/
theorem overtakenClose_unavailable :
    ¬ ∀ events s, run Radio.sourceStep .initial events = some s → s.opens ∈ s.initialized →
      s.sClosed = false → s.sState ≠ .unavailable := by
  intro claim
  have finishes : (run Radio.sourceStep .initial overtakenClose).isSome = true := by decide
  obtain ⟨s, ran⟩ := Option.isSome_iff_exists.mp finishes
  have spilled : (run Radio.sourceStep .initial overtakenClose).any (fun s =>
      s.opens ∈ s.initialized ∧ s.sClosed = false ∧ s.sState = .unavailable) = true := by
    decide
  rw [ran] at spilled
  obtain ⟨initialized, cleared, unavailable⟩ :
      s.opens ∈ s.initialized ∧ s.sClosed = false ∧ s.sState = .unavailable := by
    simpa using spilled
  exact claim overtakenClose s ran initialized cleared unavailable

/-- The same with the close through before `mainLoop` goes on. -/
def quietClose : List RadioEvent :=
  [.main, .main, .main] ++ initializeEvents 2 ++
    (.close 1 :: List.replicate 7 (.run 1)) ++ [.wake, .main, .main] ++ initializeEvents 2

theorem quietClose_noSpill :
    ∃ s, run Radio.sourceStep .initial quietClose = some s ∧ s.NoSpill := by
  have finishes : (run Radio.sourceStep .initial quietClose).isSome = true := by decide
  obtain ⟨s, ran⟩ := Option.isSome_iff_exists.mp finishes
  -- two threads, both idle when the channel is reopened
  have own : StepsMeet Radio.sourceStep (fun s event => (∀ thread ∈ event.thread, thread < 3) ∧
      (event = .main → s.main = .reopen → ∀ thread < 3, s.activities thread = none))
      .initial quietClose := by
    decide
  have met : StepsMeet Radio.sourceStep Radio.ClosesFirst .initial quietClose := by
    refine @StepsMeet.mono_of_invariant _ _ _ _ _ (fun s => ∀ thread, 3 ≤ thread →
      s.activities thread = none) ?_ ?_ _ _ (fun _ _ => rfl) own
    · intro s event s' idle few stepped thread above
      rw [Radio.activities_step_of_ne (Radio.step_of_sourceStep stepped) ?_, idle thread above]
      intro same
      exact absurd (few.1 thread same) (by omega)
    · intro s event idle few main reopens thread opens at'
      have none : s.activities thread = none := by
        by_cases below : thread < 3
        · exact few.2 main reopens thread below
        · exact idle thread (by omega)
      rw [none] at at'
      cases at'
  exact ⟨s, ran, (noSpill_iff ran).mpr met quietClose [] s (List.append_nil _).symm ran⟩

end RildHisi.ReferenceRil
