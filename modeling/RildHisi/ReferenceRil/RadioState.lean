import RildHisi.Library.Runs
import RildHisi.ReferenceRil.Handler

/-!
Owns `sState` and `s_closed` of reference-ril.c with the threads that set them:
`setRadioState` on any thread, `onATReaderClosed` and `onATTimeout`, `mainLoop`
with `waitForClose`, and `initializeCallback`.

Only the critical section of `setRadioState` holds `s_state_mutex`. The
comparison behind it, the request for the payload of the frame and the write of
the frame are steps of their own; so are the writes of `s_closed`.
-/

namespace RildHisi.ReferenceRil

open RildHisi.Library

/-- What a thread goes on with when its call of `setRadioState` returns. -/
inductive Caller
  | other
  /-- `onATReaderClosed` or `onATTimeout`; `opens` counts how often `mainLoop` had cleared
  `s_closed` when it was set here. -/
  | closer (opens : Nat)
  /-- `initializeCallback` of this opening, which then asks `isRadioOn`. -/
  | initializeCallback (opens : Nat)
  /-- The same in its second call. -/
  | radioOn (opens : Nat)
  deriving DecidableEq

/-- The next step of a call of `setRadioState`. -/
inductive CallPhase
  /-- The critical section. -/
  | enter (newState : RadioState)
  /-- `sState != oldState`, outside of the mutex. -/
  | compare (oldState : RadioState)
  /-- `RIL_onUnsolicitedResponse` asks for the state. -/
  | request
  /-- `sendResponse`. -/
  | send (payload : RadioState)
  /-- The tests of `sState` behind the response. -/
  | follow
  deriving DecidableEq

/-- Where a thread stands. -/
inductive Activity
  /-- A close, in front of `at_close ()`. -/
  | atClose
  /-- A close, in front of `s_closed = 1`. -/
  | setClosed
  | call (caller : Caller) (phase : CallPhase)
  deriving DecidableEq

/-- Where `mainLoop` stands. -/
inductive MainPhase
  /-- In front of `s_closed = 0`. -/
  | reopen
  /-- In front of `at_open` and the timed callback. -/
  | atOpen
  /-- In front of `waitForClose`. -/
  | waitForClose
  /-- In `pthread_cond_wait`: the broadcasts since, each with `s_closed` at the time. -/
  | blocked (broadcasts : List Bool)
  deriving DecidableEq

/-- `pthread_cond_broadcast (&s_state_cond)`. -/
def MainPhase.broadcast (sClosed : Bool) : MainPhase → MainPhase
  | .blocked broadcasts => .blocked (broadcasts ++ [sClosed])
  | other => other

/-- The statics and the threads. `opens` counts the times `s_closed` was cleared; `returned`
and `initialized` list the closes and the initializations that have returned, by that
count; `changed` records whether `sState` ever took another value. -/
structure Radio where
  sState : RadioState
  sClosed : Bool
  opens : Nat
  activities : Nat → Option Activity
  main : MainPhase
  scheduled : List Nat
  frames : List RadioState
  changed : Bool
  returned : List Nat
  initialized : List Nat

def Radio.initial : Radio where
  sState := .unavailable
  sClosed := false
  opens := 0
  activities _ := none
  main := .reopen
  scheduled := []
  frames := []
  changed := false
  returned := []
  initialized := []

inductive RadioEvent
  /-- Some other code calls `setRadioState`. -/
  | call (thread : Nat) (newState : RadioState)
  /-- The AT channel calls `onATReaderClosed` or `onATTimeout`. -/
  | close (thread : Nat)
  /-- The event loop calls the next `initializeCallback`. -/
  | initializeCallback (thread : Nat)
  /-- The next step of the thread. -/
  | run (thread : Nat)
  /-- The next step of `mainLoop`. -/
  | main
  /-- `pthread_cond_wait` returns. -/
  | wake
  deriving DecidableEq

namespace Radio

/-- The thread goes on with `activity`, or is idle. -/
def put (s : Radio) (thread : Nat) (activity : Option Activity) : Radio :=
  { s with activities := Function.update s.activities thread activity }

/-- A call of `setRadioState` returns. -/
def returnTo (s : Radio) (thread : Nat) : Caller → Radio
  | .other => s.put thread none
  | .closer opens => { s.put thread none with returned := opens :: s.returned }
  -- `isRadioOn` returns 1
  | .initializeCallback opens =>
      s.put thread (some (.call (.radioOn opens) (.enter .simNotReady)))
  | .radioOn opens => { s.put thread none with initialized := opens :: s.initialized }

/-- The critical section of `setRadioState`. -/
def setState (s : Radio) (newState : RadioState) : Radio :=
  let newState := if s.sClosed then .unavailable else newState
  if s.sState ≠ newState || s.sClosed then
    { s with
      sState := newState
      main := s.main.broadcast s.sClosed
      changed := s.changed || s.sState ≠ newState }
  else s

/-- The steps of `setRadioState`. -/
def runCall (s : Radio) (thread : Nat) (caller : Caller) : CallPhase → Radio
  | .enter newState =>
      (s.setState newState).put thread (some (.call caller (.compare s.sState)))
  | .compare oldState =>
      if s.sState ≠ oldState then s.put thread (some (.call caller .request))
      else s.returnTo thread caller
  | .request => s.put thread (some (.call caller (.send s.sState)))
  | .send payload =>
      { s.put thread (some (.call caller .follow)) with frames := s.frames ++ [payload] }
  | .follow =>
      -- `onSIMReady` does nothing, `onRadioPowerOn` polls the state of the SIM
      if s.sState = .simNotReady then s.put thread (some (.call caller (.enter .simReady)))
      else s.returnTo thread caller

/-- The test of `waitForClose`, with the mutex held. -/
def testClosed (s : Radio) : Radio :=
  { s with main := if s.sClosed then .reopen else .blocked [] }

def step (s : Radio) : RadioEvent → Option Radio
  | .call thread newState =>
      if (s.activities thread).isSome then none
      else some (s.put thread (some (.call .other (.enter newState))))
  | .close thread =>
      if (s.activities thread).isSome then none else some (s.put thread (some .atClose))
  | .initializeCallback thread =>
      if (s.activities thread).isSome then none
      else match s.scheduled with
        | [] => none
        | opens :: scheduled =>
            some { s.put thread (some (.call (.initializeCallback opens) (.enter .off))) with
              scheduled := scheduled }
  | .run thread =>
      match s.activities thread with
      | none => none
      | some .atClose => some (s.put thread (some .setClosed))
      | some .setClosed =>
          some { s.put thread (some (.call (.closer s.opens) (.enter .unavailable))) with
            sClosed := true }
      | some (.call caller phase) => some (s.runCall thread caller phase)
  | .main =>
      match s.main with
      | .reopen => some { s with sClosed := false, opens := s.opens + 1, main := .atOpen }
      | .atOpen => some { s with scheduled := s.scheduled ++ [s.opens], main := .waitForClose }
      | .waitForClose => some s.testClosed
      | .blocked _ => none
  | .wake =>
      match s.main with
      | .blocked _ => some s.testClosed
      | _ => none

/-- What a step is, with all it does. -/
inductive Stepped (s : Radio) : RadioEvent → Radio → Prop
  | call (thread : Nat) (newState : RadioState) (idle : ¬ (s.activities thread).isSome = true) :
      Stepped s (.call thread newState) (s.put thread (some (.call .other (.enter newState))))
  | close (thread : Nat) (idle : ¬ (s.activities thread).isSome = true) :
      Stepped s (.close thread) (s.put thread (some .atClose))
  | initializeCallback (thread opens : Nat) (scheduled : List Nat)
      (idle : ¬ (s.activities thread).isSome = true) (waiting : s.scheduled = opens :: scheduled) :
      Stepped s (.initializeCallback thread)
        { s.put thread (some (.call (.initializeCallback opens) (.enter .off))) with
          scheduled := scheduled }
  | atClose (thread : Nat) (at' : s.activities thread = some .atClose) :
      Stepped s (.run thread) (s.put thread (some .setClosed))
  | setClosed (thread : Nat) (at' : s.activities thread = some .setClosed) :
      Stepped s (.run thread)
        { s.put thread (some (.call (.closer s.opens) (.enter .unavailable))) with sClosed := true }
  | runCall (thread : Nat) (caller : Caller) (phase : CallPhase)
      (at' : s.activities thread = some (.call caller phase)) :
      Stepped s (.run thread) (s.runCall thread caller phase)
  | reopen (at' : s.main = .reopen) :
      Stepped s .main { s with sClosed := false, opens := s.opens + 1, main := .atOpen }
  | atOpen (at' : s.main = .atOpen) :
      Stepped s .main { s with scheduled := s.scheduled ++ [s.opens], main := .waitForClose }
  | waitForClose (at' : s.main = .waitForClose) : Stepped s .main s.testClosed
  | wake (broadcasts : List Bool) (at' : s.main = .blocked broadcasts) :
      Stepped s .wake s.testClosed

theorem stepped_of_step {s s' : Radio} {event : RadioEvent} (stepped : s.step event = some s') :
    s.Stepped event s' := by
  cases event with
  | call thread newState =>
      obtain ⟨idle, shape⟩ := Option.ite_none_left_eq_some.mp stepped
      exact Option.some.inj shape ▸ .call thread newState idle
  | close thread =>
      obtain ⟨idle, shape⟩ := Option.ite_none_left_eq_some.mp stepped
      exact Option.some.inj shape ▸ .close thread idle
  | initializeCallback thread =>
      obtain ⟨idle, shape⟩ := Option.ite_none_left_eq_some.mp stepped
      cases waiting : s.scheduled with
      | nil => simp [waiting] at shape
      | cons opens scheduled =>
          simp only [waiting, Option.some.injEq] at shape
          exact shape ▸ .initializeCallback thread opens scheduled idle waiting
  | run thread =>
      simp only [step] at stepped
      cases at' : s.activities thread with
      | none => simp [at'] at stepped
      | some activity =>
          cases activity with
          | atClose =>
              simp only [at', Option.some.injEq] at stepped
              exact stepped ▸ .atClose thread at'
          | setClosed =>
              simp only [at', Option.some.injEq] at stepped
              exact stepped ▸ .setClosed thread at'
          | call caller phase =>
              simp only [at', Option.some.injEq] at stepped
              exact stepped ▸ .runCall thread caller phase at'
  | main =>
      simp only [step] at stepped
      cases phase : s.main with
      | blocked broadcasts => simp [phase] at stepped
      | reopen =>
          simp only [phase, Option.some.injEq] at stepped
          exact stepped ▸ .reopen phase
      | atOpen =>
          simp only [phase, Option.some.injEq] at stepped
          exact stepped ▸ .atOpen phase
      | waitForClose =>
          simp only [phase, Option.some.injEq] at stepped
          exact stepped ▸ .waitForClose phase
  | wake =>
      simp only [step] at stepped
      cases phase : s.main with
      | blocked broadcasts =>
          simp only [phase, Option.some.injEq] at stepped
          exact stepped ▸ .wake broadcasts phase
      | reopen => simp [phase] at stepped
      | atOpen => simp [phase] at stepped
      | waitForClose => simp [phase] at stepped

end Radio

/-- The thread that the event is a step of, `mainLoop` apart. -/
def RadioEvent.thread : RadioEvent → Option Nat
  | .call thread _ | .close thread | .initializeCallback thread | .run thread => some thread
  | .main | .wake => none

/-! ### The last frame -/

/-- The thread is going to send a frame with the current state, unless it changes again. -/
def Activity.owes (sState : RadioState) : Activity → Bool
  | .call _ (.compare oldState) => sState != oldState
  | .call _ .request => true
  | .call _ (.send payload) => payload == sState
  | _ => false

namespace Radio

def Owes (s : Radio) (thread : Nat) : Prop :=
  ∃ activity, s.activities thread = some activity ∧ activity.owes s.sState = true

/-- The last frame carries the state, or a thread owes one that does. -/
def Told (s : Radio) : Prop := s.frames.getLast? = some s.sState ∨ ∃ thread, s.Owes thread

/-- A frame that the step sends carries the state. -/
def sendsState (s : Radio) : RadioEvent → Bool
  | .run thread =>
      match s.activities thread with
      | some (.call _ (.send payload)) => payload == s.sState
      | _ => true
  | _ => true

/-- A frame is sent while its payload is still the state, or while another thread owes one. -/
def SendsCurrent (s : Radio) (event : RadioEvent) : Prop :=
  s.sendsState event = true ∨ ∃ other, event ≠ .run other ∧ s.Owes other

theorem put_activities_self (s : Radio) (thread : Nat) (activity : Option Activity) :
    (s.put thread activity).activities thread = activity := Function.update_self ..

theorem put_activities_of_ne (s : Radio) {thread other : Nat} (apart : other ≠ thread)
    (activity : Option Activity) :
    (s.put thread activity).activities other = s.activities other := Function.update_of_ne apart ..

/-- A thread that owes nothing goes on. -/
theorem Told.put {s : Radio} {thread : Nat} (told : s.Told) (quiet : ¬ s.Owes thread)
    (activity : Option Activity) : (s.put thread activity).Told := by
  rcases told with last | ⟨other, next, at', owes⟩
  · exact Or.inl last
  · have apart : other ≠ thread := by
      rintro rfl
      exact quiet ⟨next, at', owes⟩
    exact Or.inr ⟨other, next, (s.put_activities_of_ne apart activity).trans at', owes⟩

/-- A thread comes to owe a frame. -/
theorem told_of_owes {s : Radio} (thread : Nat) {activity : Activity}
    (at' : s.activities thread = some activity) (owes : activity.owes s.sState = true) : s.Told :=
  Or.inr ⟨thread, activity, at', owes⟩

theorem not_owes {s : Radio} {thread : Nat} {activity : Activity}
    (at' : s.activities thread = some activity) (quiet : activity.owes s.sState = false) :
    ¬ s.Owes thread := by
  rintro ⟨other, same, owes⟩
  obtain rfl := Option.some.inj (at'.symm.trans same)
  exact absurd owes (by simp [quiet])

theorem not_owes_of_idle {s : Radio} {thread : Nat} (idle : ¬ (s.activities thread).isSome = true) :
    ¬ s.Owes thread := by
  rintro ⟨activity, at', -⟩
  exact idle (by rw [at']; rfl)

theorem Told.returnTo {s : Radio} {thread : Nat} (told : s.Told) (quiet : ¬ s.Owes thread)
    (caller : Caller) : (s.returnTo thread caller).Told := by
  cases caller <;> exact told.put quiet _

theorem changed_returnTo (s : Radio) (thread : Nat) (caller : Caller) :
    (s.returnTo thread caller).changed = s.changed := by cases caller <;> rfl

/-! What the critical section leaves alone. -/

@[simp] theorem setState_activities (s : Radio) (newState : RadioState) :
    (s.setState newState).activities = s.activities := by
  simp only [setState]
  split_ifs <;> rfl

@[simp] theorem setState_frames (s : Radio) (newState : RadioState) :
    (s.setState newState).frames = s.frames := by
  simp only [setState]
  split_ifs <;> rfl

theorem setState_sState (s : Radio) (newState : RadioState) :
    (s.setState newState).sState = if s.sClosed then .unavailable else newState := by
  by_cases closed : s.sClosed = true
  · simp [setState, closed]
  · by_cases same : s.sState = newState <;> simp [setState, closed, same]

theorem setState_changed (s : Radio) (newState : RadioState) :
    (s.setState newState).changed =
      (s.changed || decide (s.sState ≠ (s.setState newState).sState)) := by
  by_cases closed : s.sClosed = true
  · simp [setState, closed]
  · by_cases same : s.sState = newState <;> simp [setState, closed, same]

theorem returnTo_activities_of_ne (s : Radio) {thread other : Nat} (apart : other ≠ thread)
    (caller : Caller) : (s.returnTo thread caller).activities other = s.activities other := by
  cases caller <;> exact put_activities_of_ne s apart _

/-- A call is the thread's own. -/
theorem runCall_activities_of_ne (s : Radio) {thread other : Nat} (apart : other ≠ thread)
    (caller : Caller) (phase : CallPhase) :
    (s.runCall thread caller phase).activities other = s.activities other := by
  cases phase with
  | enter newState =>
      rw [runCall, put_activities_of_ne _ apart, setState_activities]
  | compare oldState =>
      rw [runCall]
      split_ifs
      · exact put_activities_of_ne s apart _
      · exact returnTo_activities_of_ne s apart caller
  | request => exact put_activities_of_ne s apart _
  | send payload => exact put_activities_of_ne s apart _
  | follow =>
      rw [runCall]
      split_ifs
      · exact put_activities_of_ne s apart _
      · exact returnTo_activities_of_ne s apart caller

/-- A step moves one thread. -/
theorem activities_step_of_ne {s s' : Radio} {event : RadioEvent} {other : Nat}
    (stepped : s.step event = some s') (apart : event.thread ≠ some other) :
    s'.activities other = s.activities other := by
  have others (thread : Nat) (own : event.thread = some thread) : other ≠ thread :=
    fun same => apart (same ▸ own)
  cases stepped_of_step stepped with
  | runCall thread caller phase at' =>
      exact runCall_activities_of_ne s (others thread rfl) caller phase
  | reopen at' => rfl
  | atOpen at' => rfl
  | waitForClose at' => rfl
  | wake broadcasts at' => rfl
  | _ => exact put_activities_of_ne s (others _ rfl) _

/-- A step of a call. -/
theorem told_runCall {s : Radio} {thread : Nat} {caller : Caller} {phase : CallPhase}
    (told : s.changed = true → s.Told) (at' : s.activities thread = some (.call caller phase))
    (current : ∀ payload, phase = .send payload →
      payload = s.sState ∨ ∃ other, other ≠ thread ∧ s.Owes other) :
    (s.runCall thread caller phase).changed = true → (s.runCall thread caller phase).Told := by
  cases phase with
  | enter newState =>
      intro changed
      by_cases same : (s.setState newState).sState = s.sState
      · have before : s.changed = true := by
          simpa [runCall, put, setState_changed, same] using changed
        have kept := (told before).put (not_owes at' rfl) (some (.call caller (.compare s.sState)))
        rcases kept with last | ⟨other, activity, where', owes⟩
        · exact Or.inl (by simpa [runCall, put, same] using last)
        · refine Or.inr ⟨other, activity, ?_, ?_⟩
          · simpa [runCall, put] using where'
          · simpa [runCall, put, same] using owes
      · apply told_of_owes thread (put_activities_self _ _ _)
        simpa [Activity.owes, runCall, put] using same
  | compare oldState =>
      simp only [runCall]
      split_ifs with differs
      · exact fun _ => told_of_owes thread (put_activities_self _ _ _) rfl
      · intro changed
        rw [changed_returnTo] at changed
        exact (told changed).returnTo (not_owes at' (by simpa [Activity.owes] using differs)) caller
  | request =>
      intro _
      exact told_of_owes thread (put_activities_self _ _ _) (by simp [Activity.owes, runCall, put])
  | send payload =>
      intro changed
      by_cases same : payload = s.sState
      · exact Or.inl (by simp [runCall, put, same])
      · obtain ⟨other, apart, activity, where', owes⟩ := (current payload rfl).resolve_left same
        exact Or.inr ⟨other, activity, (put_activities_of_ne _ apart _).trans where', owes⟩
  | follow =>
      simp only [runCall]
      split_ifs
      · exact fun changed => (told changed).put (not_owes at' rfl) _
      · intro changed
        rw [changed_returnTo] at changed
        exact (told changed).returnTo (not_owes at' rfl) caller

/-- **One step.** Once `sState` has changed, the last frame carries it or a thread owes one,
as long as no thread sends the last frame owed with another state. -/
theorem told_step {s s' : Radio} {event : RadioEvent} (told : s.changed = true → s.Told)
    (current : s.SendsCurrent event) (stepped : s.step event = some s') :
    s'.changed = true → s'.Told := by
  cases stepped_of_step stepped with
  | call thread newState idle => exact fun changed => (told changed).put (not_owes_of_idle idle) _
  | close thread idle => exact fun changed => (told changed).put (not_owes_of_idle idle) _
  | initializeCallback thread opens scheduled idle waiting =>
      exact fun changed => (told changed).put (not_owes_of_idle idle) _
  | atClose thread at' => exact fun changed => (told changed).put (not_owes at' rfl) _
  | setClosed thread at' => exact fun changed => (told changed).put (not_owes at' rfl) _
  | runCall thread caller phase at' =>
      refine told_runCall told at' fun payload sends => ?_
      subst sends
      rcases current with own | ⟨other, apart, owes⟩
      · exact Or.inl (by simpa [sendsState, at'] using own)
      · exact Or.inr ⟨other, fun same => apart (by rw [same]), owes⟩
  | reopen at' => exact told
  | atOpen at' => exact told
  | waitForClose at' => exact told
  | wake broadcasts at' => exact told

end Radio

/-- **The last frame.** In a run that sends no frame with a state of the past while nothing
newer is to come, the last frame carries the state once all calls have returned. -/
theorem lastFrame_of_stepsMeet {events : List RadioEvent} {s : Radio}
    (ran : run Radio.step .initial events = some s)
    (met : StepsMeet Radio.step Radio.SendsCurrent .initial events)
    (returned : ∀ thread, s.activities thread = none) (changed : s.changed = true) :
    s.frames.getLast? = some s.sState := by
  have told : s.changed = true → s.Told :=
    run_invariant_of_stepsMeet (fun _ _ _ told current stepped => Radio.told_step told current stepped)
      (fun never => absurd never (by decide)) met ran
  rcases told changed with last | ⟨thread, activity, at', -⟩
  · exact last
  · rw [returned thread] at at'
    cases at'

/-- Two calls, each by itself, then a step of each in turn. -/
def overtakenCalls : List RadioEvent :=
  [.call 1 .off, .run 1, .run 1, .run 1, .call 2 .simReady, .run 2, .run 2, .run 2, .run 2, .run 2,
    .run 1, .run 1]

/-- **A frame overtaken.** The first call has asked for the state when the second changes it
and sends its frame; then the first sends `RADIO_STATE_OFF`, and nothing follows. -/
theorem overtakenCalls_lastFrame :
    ¬ ∀ events s, run Radio.step .initial events = some s →
      (∀ thread, s.activities thread = none) → s.changed = true →
      s.frames.getLast? = some s.sState := by
  intro claim
  have last := claim overtakenCalls _ rfl ?_ rfl
  · exact absurd last (by decide)
  · intro thread
    rcases eq_or_ne thread 1 with rfl | first
    · rfl
    rcases eq_or_ne thread 2 with rfl | second
    · rfl
    simp only [Radio.runCall_activities_of_ne _ first, Radio.runCall_activities_of_ne _ second,
      Radio.put_activities_of_ne _ first, Radio.put_activities_of_ne _ second]
    rfl

/-- The first call sends what it has asked for while the second has changed the state, but
not asked for it. -/
def overlappingCalls : List RadioEvent :=
  [.call 1 .off, .call 2 .simReady, .run 1, .run 1, .run 1, .run 2, .run 1, .run 2, .run 1, .run 2,
    .run 2, .run 2]

/-- The step sends no state of the past, or it is one of the first thread while the second
owes a frame. -/
def Radio.secondOwes (s : Radio) (event : RadioEvent) : Bool :=
  s.sendsState event || (event == .run 1 && (s.activities 2).any (Activity.owes s.sState))

theorem overlappingCalls_lastFrame :
    ∃ s, run Radio.step .initial overlappingCalls = some s ∧
      s.frames = [.off, .simReady] ∧ s.frames.getLast? = some s.sState := by
  have met : StepsMeet Radio.step Radio.SendsCurrent .initial overlappingCalls := by
    have second : StepsMeet Radio.step (fun s event => s.secondOwes event = true) .initial
        overlappingCalls := by
      decide
    refine second.mono fun s event owes => ?_
    rcases Bool.or_eq_true_iff.mp owes with own | later
    · exact Or.inl own
    · obtain ⟨first, owed⟩ := Bool.and_eq_true_iff.mp later
      cases at' : s.activities 2 with
      | none =>
          rw [at'] at owed
          cases owed
      | some activity =>
          rw [at'] at owed
          exact Or.inr ⟨2, by rw [beq_iff_eq.mp first]; decide, activity, at', owed⟩
  refine ⟨_, rfl, rfl, lastFrame_of_stepsMeet rfl met ?_ rfl⟩
  intro thread
  rcases eq_or_ne thread 1 with rfl | first
  · rfl
  rcases eq_or_ne thread 2 with rfl | second
  · rfl
  simp only [Radio.runCall_activities_of_ne _ first, Radio.runCall_activities_of_ne _ second,
    Radio.put_activities_of_ne _ first, Radio.put_activities_of_ne _ second]
  rfl

end RildHisi.ReferenceRil
