import RildHisi.ReferenceRil.RadioState

/-!
Owns what a close of the AT channel does to the radio state. A close that has
returned stays in force until `mainLoop` clears `s_closed`: the state is
unavailable, and `waitForClose` has been told (`closed_of_run`).
-/

namespace RildHisi.ReferenceRil

open RildHisi.Library

namespace Radio

/-! ### In force -/

/-- The close of this opening has set `s_closed`, unless it was cleared since. -/
structure Flagged (s : Radio) (opens : Nat) : Prop where
  known : opens ≤ s.opens
  closed : opens = s.opens → s.sClosed = true

/-- Neither is the state available nor does `waitForClose` wait for a broadcast. -/
structure ClosedState (s : Radio) : Prop where
  closed : s.sClosed = true
  sState : s.sState = .unavailable
  told : ∀ broadcasts, s.main = .blocked broadcasts → true ∈ broadcasts

/-- The close of this opening is in force, unless `s_closed` was cleared since. -/
structure InForce (s : Radio) (opens : Nat) : Prop where
  known : opens ≤ s.opens
  closed : opens = s.opens → s.ClosedState

theorem InForce.flagged {s : Radio} {opens : Nat} (inForce : s.InForce opens) : s.Flagged opens :=
  ⟨inForce.known, fun same => (inForce.closed same).closed⟩

/-! What a step may do to `s_closed`, the state and the wait. -/

theorem setState_main_of_closed {s : Radio} (closed : s.sClosed = true) (newState : RadioState) :
    (s.setState newState).main = s.main.broadcast true := by
  simp [setState, closed]

@[simp] theorem setState_sClosed (s : Radio) (newState : RadioState) :
    (s.setState newState).sClosed = s.sClosed := by
  simp only [setState]
  split_ifs <;> rfl

@[simp] theorem setState_opens (s : Radio) (newState : RadioState) :
    (s.setState newState).opens = s.opens := by
  simp only [setState]
  split_ifs <;> rfl

/-- With `s_closed` set, a critical section closes the state and tells `waitForClose`. -/
theorem closedState_setState {s : Radio} (closed : s.sClosed = true) (newState : RadioState) :
    (s.setState newState).ClosedState where
  closed := by simpa using closed
  sState := by simp [setState_sState, closed]
  told broadcasts blocked := by
    rw [setState_main_of_closed closed] at blocked
    cases phase : s.main with
    | blocked before =>
        rw [phase] at blocked
        obtain rfl := MainPhase.blocked.inj blocked
        simp
    | _ => simp [phase, MainPhase.broadcast] at blocked

/-- What a close acts on. -/
def core (s : Radio) : RadioState × Bool × Nat × MainPhase :=
  (s.sState, s.sClosed, s.opens, s.main)

theorem ClosedState.congr {s s' : Radio} (same : s'.core = s.core) (closed : s.ClosedState) :
    s'.ClosedState := by
  simp only [core, Prod.mk.injEq] at same
  obtain ⟨sState, sClosed, -, main⟩ := same
  exact ⟨sClosed.trans closed.closed, sState.trans closed.sState, main ▸ closed.told⟩

/-- What a step does to the core. -/
inductive Moves (s s' : Radio) : Prop
  | stays (same : s'.core = s.core)
  | sets (thread : Nat) (caller : Caller) (newState : RadioState)
      (at' : s.activities thread = some (.call caller (.enter newState)))
      (same : s'.core = (s.setState newState).core)
  | closes (same : s'.core = (s.sState, true, s.opens, s.main))
  | reopens (same : s'.core = (s.sState, false, s.opens + 1, .atOpen))
  | goesOn (same : s'.core = (s.sState, s.sClosed, s.opens, .waitForClose))
  | tests (same : s'.core = s.testClosed.core)

theorem core_returnTo (s : Radio) (thread : Nat) (caller : Caller) :
    (s.returnTo thread caller).core = s.core := by cases caller <;> rfl

theorem moves_runCall {s : Radio} {thread : Nat} {caller : Caller} {phase : CallPhase}
    (at' : s.activities thread = some (.call caller phase)) :
    s.Moves (s.runCall thread caller phase) := by
  cases phase with
  | enter newState => exact .sets thread caller newState at' rfl
  | compare oldState =>
      rw [runCall]
      split_ifs
      · exact .stays rfl
      · exact .stays (core_returnTo s thread caller)
  | request => exact .stays rfl
  | send payload => exact .stays rfl
  | follow =>
      rw [runCall]
      split_ifs
      · exact .stays rfl
      · exact .stays (core_returnTo s thread caller)

theorem moves_step {s s' : Radio} {event : RadioEvent} (stepped : s.step event = some s') :
    s.Moves s' := by
  cases stepped_of_step stepped with
  | setClosed thread at' => exact .closes rfl
  | runCall thread caller phase at' => exact moves_runCall at'
  | reopen at' => exact .reopens rfl
  | atOpen at' => exact .goesOn rfl
  | waitForClose at' => exact .tests rfl
  | wake broadcasts at' => exact .tests rfl
  | _ => exact .stays rfl

/-- A step opens the channel anew, or leaves `s_closed` set. -/
theorem Moves.keeps {s s' : Radio} (moves : s.Moves s') :
    s'.opens = s.opens + 1 ∨ s'.opens = s.opens ∧ (s.sClosed = true → s'.sClosed = true) := by
  cases moves with
  | reopens same => exact Or.inl (congrArg (·.2.2.1) same)
  | closes same => exact Or.inr ⟨congrArg (·.2.2.1) same, fun _ => congrArg (·.2.1) same⟩
  | sets thread caller newState at' same =>
      have count : s'.opens = (s.setState newState).opens := congrArg (·.2.2.1) same
      have closed : s'.sClosed = (s.setState newState).sClosed := congrArg (·.2.1) same
      rw [setState_opens] at count
      rw [setState_sClosed] at closed
      exact Or.inr ⟨count, fun set => closed.trans set⟩
  | stays same =>
      exact Or.inr ⟨congrArg (·.2.2.1) same, fun set => Eq.trans (congrArg (·.2.1) same) set⟩
  | goesOn same =>
      exact Or.inr ⟨congrArg (·.2.2.1) same, fun set => Eq.trans (congrArg (·.2.1) same) set⟩
  | tests same =>
      exact Or.inr ⟨congrArg (·.2.2.1) same, fun set => Eq.trans (congrArg (·.2.1) same) set⟩

theorem Moves.opens_le {s s' : Radio} (moves : s.Moves s') : s.opens ≤ s'.opens := by
  rcases moves.keeps with more | ⟨same, -⟩ <;> omega

/-- `s_closed` is only cleared with a new opening. -/
theorem Flagged.step {s s' : Radio} {opens : Nat} (flagged : s.Flagged opens)
    (moves : s.Moves s') : s'.Flagged opens := by
  refine ⟨flagged.known.trans moves.opens_le, fun current => ?_⟩
  have known := flagged.known
  rcases moves.keeps with more | ⟨same, kept⟩
  · omega
  · exact kept (flagged.closed (current.trans same))

theorem testClosed_closedState {s : Radio} (closed : s.ClosedState) : s.testClosed.ClosedState where
  closed := closed.closed
  sState := closed.sState
  told broadcasts blocked := by simp [testClosed, closed.closed] at blocked

/-- **A close stays in force** until `s_closed` is cleared. -/
theorem InForce.step {s s' : Radio} {opens : Nat} (inForce : s.InForce opens)
    (moves : s.Moves s') : s'.InForce opens := by
  have known := inForce.known
  have flagged := inForce.flagged.step moves
  refine ⟨flagged.known, fun current => ?_⟩
  have count : s'.opens = s.opens := by
    rcases moves.keeps with more | ⟨same, -⟩ <;> omega
  have before := inForce.closed (current.trans count)
  cases moves with
  | reopens same =>
      have more : s'.opens = s.opens + 1 := congrArg (·.2.2.1) same
      omega
  | closes same =>
      apply before.congr
      rw [same, core, before.closed]
  | sets thread caller newState at' same =>
      exact (closedState_setState before.closed newState).congr same
  | stays same => exact before.congr same
  | goesOn same =>
      have main : s'.main = .waitForClose := congrArg (·.2.2.2) same
      refine ⟨flagged.closed current, (congrArg (·.1) same).trans before.sState, ?_⟩
      intro broadcasts blocked
      rw [main] at blocked
      cases blocked
  | tests same => exact (testClosed_closedState before).congr same

/-! ### Closes on the way -/

/-- The critical section of a close is the call with `RADIO_STATE_UNAVAILABLE`; behind it
the close is in force. -/
def Knows (s : Radio) (activity : Option Activity) : Prop :=
  ∀ opens phase, activity = some (.call (.closer opens) phase) →
    s.Flagged opens ∧ (phase ≠ .enter .unavailable → s.InForce opens)

/-- Every close that has set `s_closed`, on the way or returned. -/
structure Closes (s : Radio) : Prop where
  calls : ∀ thread, s.Knows (s.activities thread)
  returned : ∀ opens ∈ s.returned, s.InForce opens

theorem Knows.step {s s' : Radio} {activity : Option Activity} (knows : s.Knows activity)
    (moves : s.Moves s') : s'.Knows activity := fun opens phase same =>
  ⟨(knows opens phase same).1.step moves, fun behind => ((knows opens phase same).2 behind).step moves⟩

/-- A step that only moves one thread. -/
theorem Closes.step_of {s s' : Radio} (closes : s.Closes) (moves : s.Moves s') (thread : Nat)
    (others : ∀ other, other ≠ thread → s'.activities other = s.activities other)
    (own : s'.Knows (s'.activities thread))
    (returned : ∀ opens ∈ s'.returned, opens ∈ s.returned ∨ s'.InForce opens) : s'.Closes where
  calls other := by
    by_cases same : other = thread
    · exact same ▸ own
    · rw [others other same]
      exact (closes.calls other).step moves
  returned opens member := by
    rcases returned opens member with before | now
    · exact (closes.returned opens before).step moves
    · exact now

/-- A close that has left its critical section goes on with anything but another one. -/
theorem knows_put {s s' : Radio} {caller : Caller} {phase next : CallPhase}
    (knows : s.Knows (some (.call caller phase))) (moves : s.Moves s')
    (behind : phase ≠ .enter .unavailable) : s'.Knows (some (.call caller next)) := by
  intro opens phase' same
  obtain ⟨rfl, rfl⟩ := Activity.call.inj (Option.some.inj same)
  obtain ⟨flagged, inForce⟩ := knows opens phase rfl
  exact ⟨flagged.step moves, fun _ => (inForce behind).step moves⟩

/-- A step that moves one thread on, behind the critical section of its call. -/
theorem Closes.goesOn {s s' : Radio} {thread : Nat} {caller : Caller} {phase next : CallPhase}
    (closes : s.Closes) (moves : s.Moves s')
    (others : ∀ other, other ≠ thread → s'.activities other = s.activities other)
    (at' : s.activities thread = some (.call caller phase)) (behind : phase ≠ .enter .unavailable)
    (now : s'.activities thread = some (.call caller next)) (returned : s'.returned = s.returned) :
    s'.Closes := by
  have knows := closes.calls thread
  rw [at'] at knows
  refine closes.step_of moves thread others ?_ fun opens member => Or.inl (returned ▸ member)
  rw [now]
  exact knows_put knows moves behind

theorem closes_returnTo {s : Radio} {thread : Nat} {caller : Caller} {phase : CallPhase}
    (closes : s.Closes) (at' : s.activities thread = some (.call caller phase))
    (behind : phase ≠ .enter .unavailable) : (s.returnTo thread caller).Closes := by
  have moves : s.Moves (s.returnTo thread caller) := .stays (core_returnTo s thread caller)
  refine closes.step_of moves thread
    (fun other apart => returnTo_activities_of_ne s apart caller) ?_ ?_
  · cases caller <;> simp [Knows, returnTo, put]
  · cases caller with
    | closer opens =>
        intro known member
        rcases List.mem_cons.mp member with rfl | before
        · have knows := closes.calls thread
          rw [at'] at knows
          exact Or.inr (((knows known phase rfl).2 behind).step moves)
        · exact Or.inl before
    | _ => exact fun known member => Or.inl member

theorem closes_runCall {s : Radio} {thread : Nat} {caller : Caller} {phase : CallPhase}
    (closes : s.Closes) (at' : s.activities thread = some (.call caller phase)) :
    (s.runCall thread caller phase).Closes := by
  have moves := moves_runCall at'
  have others := fun other (apart : other ≠ thread) =>
    runCall_activities_of_ne s apart caller phase
  cases phase with
  | enter newState =>
      have knows := closes.calls thread
      rw [at'] at knows
      have sets : (s.runCall thread caller (.enter newState)).returned = s.returned := by
        simp only [runCall, put, setState]
        split_ifs <;> rfl
      refine closes.step_of moves thread others ?_ fun opens member => Or.inl (sets ▸ member)
      rw [runCall, put_activities_self]
      intro opens phase same
      obtain ⟨rfl, rfl⟩ := Activity.call.inj (Option.some.inj same)
      have flagged := (knows opens (.enter newState) rfl).1
      refine ⟨flagged.step moves, fun _ => ⟨(flagged.step moves).known, fun current => ?_⟩⟩
      have count : opens = s.opens := current.trans (setState_opens s newState)
      refine ClosedState.congr ?_ (closedState_setState (flagged.closed count) newState)
      rfl
  | compare oldState =>
      simp only [runCall] at moves others ⊢
      split_ifs at moves others ⊢
      · exact closes.goesOn moves others at' (by simp) (put_activities_self ..) rfl
      · exact closes_returnTo closes at' (by simp)
  | request => exact closes.goesOn moves others at' (by simp) (put_activities_self ..) rfl
  | send payload =>
      exact closes.goesOn moves others at' (by simp) (put_activities_self s thread _) rfl
  | follow =>
      simp only [runCall] at moves others ⊢
      split_ifs at moves others ⊢
      · exact closes.goesOn moves others at' (by simp) (put_activities_self ..) rfl
      · exact closes_returnTo closes at' (by simp)

/-- The calls that begin are no closes, or have not set `s_closed`. -/
theorem Closes.put {s : Radio} (closes : s.Closes) (thread : Nat) {activity : Activity}
    (new : ∀ opens phase, activity ≠ .call (.closer opens) phase) :
    (s.put thread (some activity)).Closes := by
  refine closes.step_of (.stays rfl) thread
    (fun other apart => put_activities_of_ne s apart _) ?_ fun opens member => Or.inl member
  rw [put_activities_self]
  exact fun opens phase same => absurd (Option.some.inj same) (new opens phase)

/-- The threads stay where they are. -/
theorem Closes.stay {s s' : Radio} (closes : s.Closes) (moves : s.Moves s')
    (threads : s'.activities = s.activities) (returned : s'.returned = s.returned) : s'.Closes :=
  ⟨fun thread => threads ▸ (closes.calls thread).step moves,
    fun opens member => (closes.returned opens (returned ▸ member)).step moves⟩

theorem closes_step {s s' : Radio} {event : RadioEvent} (closes : s.Closes)
    (stepped : s.step event = some s') : s'.Closes := by
  have moves := moves_step stepped
  cases stepped_of_step stepped with
  | call thread newState idle => exact closes.put thread (by simp)
  | close thread idle => exact closes.put thread (by simp)
  | initializeCallback thread opens scheduled idle waiting =>
      refine closes.step_of moves thread
        (fun other apart => put_activities_of_ne s apart _) ?_ fun opens member => Or.inl member
      change Knows _ ((s.put thread _).activities thread)
      rw [put_activities_self]
      exact fun opens phase same => absurd (Option.some.inj same) (by simp)
  | atClose thread at' => exact closes.put thread (by simp)
  | setClosed thread at' =>
      refine closes.step_of moves thread
        (fun other apart => put_activities_of_ne s apart _) ?_ fun opens member => Or.inl member
      change Knows _ ((s.put thread _).activities thread)
      rw [put_activities_self]
      intro opens phase same
      obtain ⟨known, rfl⟩ := Activity.call.inj (Option.some.inj same)
      obtain rfl := Caller.closer.inj known
      exact ⟨⟨Nat.le_refl _, fun _ => rfl⟩, fun behind => absurd rfl behind⟩
  | runCall thread caller phase at' => exact closes_runCall closes at'
  | reopen at' => exact closes.stay moves rfl rfl
  | atOpen at' => exact closes.stay moves rfl rfl
  | waitForClose at' => exact closes.stay moves rfl rfl
  | wake broadcasts at' => exact closes.stay moves rfl rfl

end Radio

/-- **A close is never missed or undone.** Behind a close that has returned, the state is
unavailable as long as `s_closed` is not cleared, and `waitForClose` waits for nothing but a
wake-up that a broadcast behind the close has sent. -/
theorem closed_of_run {events : List RadioEvent} {s : Radio}
    (ran : run Radio.step .initial events = some s) (returned : s.opens ∈ s.returned) :
    s.sClosed = true ∧ s.sState = .unavailable ∧
      ∀ broadcasts, s.main = .blocked broadcasts → true ∈ broadcasts := by
  have initially : Radio.initial.Closes :=
    ⟨fun _ _ _ none => absurd none (by simp [Radio.initial]), by simp [Radio.initial]⟩
  have closes := run_invariant (fun _ _ _ closes stepped => Radio.closes_step closes stepped)
    initially ran
  have closed := (closes.returned s.opens returned).closed rfl
  exact ⟨closed.closed, closed.sState, closed.told⟩

/-- An open channel, `mainLoop` in its wait, and a close. -/
def closeEvents : List RadioEvent :=
  [.main, .main, .main, .close 1, .run 1, .run 1, .run 1, .run 1]

theorem closeEvents_inForce :
    ∃ s, run Radio.step .initial closeEvents = some s ∧ s.sClosed = true ∧
      s.sState = .unavailable ∧ ∀ broadcasts, s.main = .blocked broadcasts → true ∈ broadcasts := by
  have finishes : (run Radio.step .initial closeEvents).isSome = true := by decide
  obtain ⟨s, ran⟩ := Option.isSome_iff_exists.mp finishes
  have returned : (run Radio.step .initial closeEvents).any (fun s => s.opens ∈ s.returned) = true := by
    decide
  rw [ran] at returned
  exact ⟨s, ran, closed_of_run ran (by simpa using returned)⟩

end RildHisi.ReferenceRil
