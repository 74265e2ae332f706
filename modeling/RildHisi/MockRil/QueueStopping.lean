import Mathlib.Data.Finset.Max
import RildHisi.Library.Progress
import RildHisi.MockRil.WorkerQueue

/-!
Owns `Stop` on the thread of a work queue. Its signal does not take the mutex; whether
the worker sees it depends on where the worker stands between its test of `isRunning`
and its wait (`WorkerQueue.takesEffect_iff`).
-/

namespace RildHisi.MockRil

open RildHisi.Library

/-- The steps of the worker, and the return of its wait. -/
def QueueEvent.ofWorker : QueueEvent → Bool
  | .worker | .delayed _ _ | .wake => true
  | _ => false

namespace WorkerQueue

/-- `Stop` has changed `state_` and given its signal. -/
def Given (s : WorkerQueue) : Prop := s.stop = some .poll ∨ s.stop = some .returned

/-- The worker does not wait for a signal that has yet to come, and has a next step. -/
def CanGoOn (s : WorkerQueue) : Prop :=
  s.phase ≠ .wait false ∧ ∃ event, event.ofWorker = true ∧ (s.step event).isSome = true

/-- The worker is not blocked with no signal pending, `isRunning` is false, and in steps of
its own, whatever the other threads do, the worker comes to `STATE_STOPPED`, which ends the
loop of `WaitUntilStopped`. -/
structure TakesEffect (s : WorkerQueue) : Prop where
  awake : s.phase ≠ .wait false
  stopping : s.isRunning = false
  leaves : LeadsTo WorkerQueue.step QueueEvent.ofWorker CanGoOn (fun s => s.state = .stopped) s

/-- The signal does not come while the worker, between its test of `isRunning` and the wait,
has both queues empty. -/
def SignalsInTime (s : WorkerQueue) (event : QueueEvent) : Prop :=
  event = .waitUntilStopped → s.stop = some .signal →
    ¬ (s.phase = .queues ∧ s.q = [] ∧ s.delayedQ = [])

instance (s : WorkerQueue) (event : QueueEvent) : Decidable (s.SignalsInTime event) := by
  unfold SignalsInTime
  infer_instance

/-! ### The state and the phase -/

/-- `state_` goes with the phase. -/
def Steady (s : WorkerQueue) : Prop :=
  s.state.Steady (s.phase = .started) (s.phase = .finished) (s.stop ≠ none)

theorem steady_initial : WorkerQueue.initial.Steady where
  started _ := ⟨fun stop => stop rfl, rfl⟩
  stopping stop := absurd rfl stop
  finished := by decide

theorem Steady.isRunning {s : WorkerQueue} (steady : s.Steady) (stop : s.stop ≠ none) :
    s.isRunning = false := by
  simpa [WorkerQueue.isRunning] using steady.not_running stop

/-- A step of the worker between its start and its end. -/
theorem Steady.goesOn {s : WorkerQueue} (steady : s.Steady) {s' : WorkerQueue}
    (state : s'.state = s.state) (stop : s'.stop = s.stop) (started : s'.phase ≠ .started)
    (before : s.phase ≠ .finished) (after : s'.phase ≠ .finished) : s'.Steady := by
  rw [Steady, state, stop]
  exact steady.congr (fun first => absurd first started) (iff_of_false after before) Iff.rfl

theorem signal_ne {phase other : WorkerPhase} (apart : ∀ signalled, other ≠ .wait signalled) :
    phase.signal = other ↔ phase = other := by
  cases phase with
  | wait signalled => exact iff_of_false (apart true).symm (apart signalled).symm
  | _ => exact Iff.rfl

/-- The phase of the worker is as it was, or it has been signalled. -/
theorem Steady.stays {s s' : WorkerQueue} (steady : s.Steady) (state : s'.state = s.state)
    (stop : s'.stop = s.stop) (phase : s'.phase = s.phase ∨ s'.phase = s.phase.signal) :
    s'.Steady := by
  have same (other : WorkerPhase) (apart : ∀ signalled, other ≠ .wait signalled) :
      s'.phase = other ↔ s.phase = other := by
    rcases phase with phase | phase
    · rw [phase]
    · rw [phase, signal_ne apart]
  rw [Steady, state, stop]
  exact steady.congr (same .started (by simp)).mp (same .finished (by simp)) Iff.rfl

theorem signal_phase (s : WorkerQueue) (condition : Bool) :
    (s.signal condition).phase = s.phase ∨ (s.signal condition).phase = s.phase.signal := by
  simp only [signal]
  split_ifs <;> simp

theorem steady_step {s s' : WorkerQueue} {event : QueueEvent} (steady : s.Steady)
    (stepped : s.step event = some s') : s'.Steady := by
  have unfinished (phase : WorkerPhase) (at' : s.phase = phase) (apart : phase ≠ .finished) :
      s.phase ≠ .finished := at' ▸ apart
  cases stepped_of_step stepped with
  | add p free => exact steady.stays rfl rfl (signal_phase _ _)
  | addNow p delay now top free => exact steady.stays rfl rfl (signal_phase _ _)
  | addDelayed p delay now top condition free => exact steady.stays rfl rfl (signal_phase _ _)
  | stops at' => exact ThreadState.Steady.beginStopping steady at'
  | stopFails at' => exact steady
  | signals at' =>
      exact steady.congr (signal_ne (by simp)).mp (signal_ne (by simp)) (by simp [at'])
  | polls at' stopping => exact steady
  | stopReturns at' done => exact steady.congr id Iff.rfl (by simp [at'])
  | begins at' => exact ThreadState.Steady.begins steady at' (by simp) (by simp)
  | leaves at' => exact ThreadState.Steady.leaves (by simp) rfl
  | outerTest at' =>
      refine steady.goesOn rfl rfl ?_ (unfinished _ at' (by simp)) ?_
      · dsimp only
        split_ifs <;> simp
      · dsimp only
        split_ifs <;> simp
  | innerTest at' =>
      refine steady.goesOn rfl rfl ?_ (unfinished _ at' (by simp)) ?_
      · dsimp only
        split_ifs <;> simp
      · dsimp only
        split_ifs <;> simp
  | moves now tops delayedQ q at' empty some' moved =>
      refine steady.goesOn rfl rfl ?_ (unfinished _ at' (by simp)) ?_
      · dsimp only
        split_ifs <;> simp
      · dsimp only
        split_ifs <;> simp
  | locks at' =>
      rcases at' with at' | at' <;>
        exact steady.goesOn rfl rfl (by simp) (unfinished _ at' (by simp)) (by simp)
  | goesOn at' =>
      rcases at' with at' | at' <;>
        exact steady.goesOn rfl rfl (by simp) (unfinished _ at' (by simp)) (by simp)
  | wakes at' =>
      rcases at' with ⟨signalled, at'⟩ | at' <;>
        exact steady.goesOn rfl rfl (by simp) (unfinished _ at' (by simp)) (by simp)
  | finds at' full => exact steady.goesOn rfl rfl (by simp) (unfinished _ at' (by simp)) (by simp)
  | waits at' empty none =>
      exact steady.goesOn rfl rfl (by simp) (unfinished _ at' (by simp)) (by simp)
  | pops r q at' running front =>
      exact steady.goesOn rfl rfl (by simp) (unfinished _ at' (by simp)) (by simp)
  | skips at' running => exact steady.goesOn rfl rfl (by simp) (unfinished _ at' (by simp)) (by simp)
  | unlocks r p at' => exact steady.goesOn rfl rfl (by simp) (unfinished _ at' (by simp)) (by simp)
  | processes r p at' =>
      exact steady.goesOn rfl rfl (by simp) (unfinished _ at' (by simp)) (by simp)

/-! ### The way out -/

/-- The loop over `delayed_q_` always has a next record to take, or ends. -/
theorem exists_moveDue (records : Nat → Record) (now : Int) (delayedQ q : List Nat) :
    ∃ tops, (moveDue records now tops delayedQ q).isSome = true := by
  generalize size : delayedQ.length = n
  induction n generalizing delayedQ q with
  | zero =>
      obtain rfl := List.length_eq_zero_iff.mp size
      exact ⟨[], rfl⟩
  | succ n inductionHypothesis =>
      by_cases later : ∀ r ∈ delayedQ, ¬ (records r).time - now ≤ 0
      · exact ⟨[], by rw [moveDue, if_pos later]; rfl⟩
      · push Not at later
        obtain ⟨due, member, isDue⟩ := later
        obtain ⟨top, isTop, first⟩ := delayedQ.toFinset.exists_min_image (fun r => (records r).time)
          ⟨due, List.mem_toFinset.mpr member⟩
        have isTop : IsTop records delayedQ top :=
          ⟨List.mem_toFinset.mp isTop, fun other member =>
            first other (List.mem_toFinset.mpr member)⟩
        have topDue : (records top).time - now ≤ 0 := by
          have before := isTop.2 due member
          omega
        have shorter : (delayedQ.erase top).length = n := by
          rw [List.length_erase_of_mem isTop.1, size]
          rfl
        obtain ⟨tops, moved⟩ := inductionHypothesis (delayedQ.erase top) (q ++ [top]) shorter
        exact ⟨top :: tops, by rw [moveDue, if_pos ⟨isTop, topDue⟩]; exact moved⟩

/-- A bound on the steps to the end, once `isRunning` is false. -/
def remaining : WorkerPhase → Nat
  | .finished => 0
  | .left => 1
  | .outerTest => 2
  | .processing | .unlockElse => 3
  | .process _ _ | .pop => 4
  | .unlock _ _ | .innerTest => 5
  | .lock | .relock => 6
  | .wait _ | .timedWait => 7
  | .queues => 8
  | .started => 9

theorem remaining_signal (phase : WorkerPhase) : remaining phase.signal = remaining phase := by
  cases phase <;> rfl

theorem remaining_eq_zero {phase : WorkerPhase} : remaining phase = 0 ↔ phase = .finished := by
  cases phase <;> simp [remaining]

/-- `Stop` has given its signal, and the worker has not passed it by. -/
structure Settled (s : WorkerQueue) : Prop where
  steady : s.Steady
  given : s.Given
  awake : s.phase ≠ .wait false
  passed : ¬ (s.phase = .queues ∧ s.q = [] ∧ s.delayedQ = [])

theorem Given.stop_ne {s : WorkerQueue} (given : s.Given) : s.stop ≠ none := by
  rcases given with stop | stop <;> simp [stop]

theorem Settled.isRunning {s : WorkerQueue} (settled : s.Settled) : s.isRunning = false :=
  settled.steady.isRunning settled.given.stop_ne

theorem Given.stays {s s' : WorkerQueue} (given : s.Given) (stop : s'.stop = s.stop) : s'.Given := by
  rcases given with given | given
  · exact Or.inl (stop.trans given)
  · exact Or.inr (stop.trans given)

theorem given_step {s s' : WorkerQueue} {event : QueueEvent} (steady : s.Steady) (given : s.Given)
    (stepped : s.step event = some s') : s'.Given := by
  cases stepped_of_step stepped with
  | stops at' =>
      have settled := steady.isRunning given.stop_ne
      simp [isRunning, at'] at settled
  | signals at' => exact Or.inl rfl
  | stopReturns at' done => exact Or.inr rfl
  | _ => exact given.stays rfl

/-- The worker's own phases behind the signal are no wait, and no test of the queues. -/
theorem Settled.goesOn {s s' : WorkerQueue} {event : QueueEvent} (settled : s.Settled)
    (stepped : s.step event = some s')
    (phase : s'.phase ≠ .wait false ∧ s'.phase ≠ .queues) : s'.Settled where
  steady := steady_step settled.steady stepped
  given := given_step settled.steady settled.given stepped
  awake := phase.1
  passed at' := phase.2 at'.1

/-- Outside of the worker's critical section. -/
theorem Settled.pushed {s s' : WorkerQueue} {event : QueueEvent} (settled : s.Settled)
    (stepped : s.step event = some s') (free : s.phase.holds = false)
    (phase : s'.phase = s.phase ∨ s'.phase = s.phase.signal) : s'.Settled := by
  refine settled.goesOn stepped ⟨fun waits => ?_, fun queues => ?_⟩
  · rcases phase with phase | phase
    · exact settled.awake (phase ▸ waits)
    · rw [phase] at waits
      cases before : s.phase <;> simp [before, WorkerPhase.signal] at waits
  · have before : s.phase = .queues := by
      rcases phase with phase | phase
      · exact phase ▸ queues
      · exact (signal_ne (by simp)).mp (phase ▸ queues)
    rw [before] at free
    cases free

theorem settled_step {s s' : WorkerQueue} {event : QueueEvent} (settled : s.Settled)
    (stepped : s.step event = some s') : s'.Settled := by
  have idle := settled.isRunning
  cases stepped_of_step stepped with
  | add p free => exact settled.pushed stepped free (signal_phase _ _)
  | addNow p delay now top free => exact settled.pushed stepped free (signal_phase _ _)
  | addDelayed p delay now top condition free =>
      exact settled.pushed stepped free (signal_phase _ _)
  | stops at' => simp [isRunning, at'] at idle
  | signals at' => rcases settled.given with given | given <;> simp [at'] at given
  | stopFails at' => exact settled
  | polls at' stopping => exact settled
  | stopReturns at' done =>
      exact ⟨steady_step settled.steady stepped, Or.inr rfl, settled.awake, settled.passed⟩
  | waits at' empty none => exact absurd ⟨at', empty, none⟩ settled.passed
  | outerTest at' => exact settled.goesOn stepped (by simp [idle])
  | innerTest at' => exact settled.goesOn stepped (by simp [idle])
  | moves now tops delayedQ q at' empty some' moved =>
      apply settled.goesOn stepped
      dsimp only
      split_ifs <;> simp
  | _ => exact settled.goesOn stepped (by simp)

/-- Every step of the worker brings it nearer to its end. -/
theorem remaining_step {s s' : WorkerQueue} {event : QueueEvent} (settled : s.Settled)
    (stepped : s.step event = some s') :
    remaining s'.phase + (if event.ofWorker then 1 else 0) ≤ remaining s.phase := by
  have idle := settled.isRunning
  have signalled (condition : Bool) (pushed : WorkerQueue) (same : pushed.phase = s.phase) :
      remaining (pushed.signal condition).phase = remaining s.phase := by
    rcases signal_phase pushed condition with phase | phase
    · rw [phase, same]
    · rw [phase, remaining_signal, same]
  cases stepped_of_step stepped with
  | add p free => exact (signalled _ _ rfl).le
  | addNow p delay now top free => exact (signalled _ _ rfl).le
  | addDelayed p delay now top condition free => exact (signalled condition _ rfl).le
  | stops at' => exact Nat.le_refl _
  | stopFails at' => exact Nat.le_refl _
  | signals at' => exact (remaining_signal _).le
  | polls at' stopping => exact Nat.le_refl _
  | stopReturns at' done => exact Nat.le_refl _
  | waits at' empty none => exact absurd ⟨at', empty, none⟩ settled.passed
  | outerTest at' => simp [at', idle, remaining, QueueEvent.ofWorker]
  | innerTest at' => simp [at', idle, remaining, QueueEvent.ofWorker]
  | moves now tops delayedQ q at' empty some' moved =>
      rw [at']
      dsimp only
      split_ifs <;> simp [remaining, QueueEvent.ofWorker] at *
  | locks at' => rcases at' with at' | at' <;> simp [at', remaining, QueueEvent.ofWorker]
  | goesOn at' => rcases at' with at' | at' <;> simp [at', remaining, QueueEvent.ofWorker]
  | wakes at' =>
      rcases at' with ⟨signalled, at'⟩ | at' <;> simp [at', remaining, QueueEvent.ofWorker]
  | pops r q at' running front => simp [idle] at running
  | begins at' => simp [at', remaining, QueueEvent.ofWorker]
  | finds at' full => simp [at', remaining, QueueEvent.ofWorker]
  | skips at' running => simp [at', remaining, QueueEvent.ofWorker]
  | unlocks r p at' => simp [at', remaining, QueueEvent.ofWorker]
  | processes r p at' => simp [at', remaining, QueueEvent.ofWorker]
  | leaves at' => simp [at', remaining, QueueEvent.ofWorker]

/-- Until then it has a next step. -/
theorem Settled.canGoOn {s : WorkerQueue} (settled : s.Settled) :
    s.state = .stopped ∨ s.CanGoOn := by
  have idle := settled.isRunning
  have own (enabled : (s.step .worker).isSome = true) : s.CanGoOn :=
    ⟨settled.awake, .worker, rfl, enabled⟩
  cases phase : s.phase with
  | finished => exact Or.inl (settled.steady.finished.mpr phase)
  | wait signalled => exact Or.inr ⟨settled.awake, .wake, rfl, by simp [step, phase]⟩
  | timedWait => exact Or.inr ⟨settled.awake, .wake, rfl, by simp [step, phase]⟩
  | queues =>
      right
      by_cases full : s.q = []
      · have some' : s.delayedQ ≠ [] := fun none => settled.passed ⟨phase, full, none⟩
        obtain ⟨tops, moved⟩ := exists_moveDue s.records 0 s.delayedQ []
        refine ⟨settled.awake, .delayed 0 tops, rfl, ?_⟩
        simpa [step, delayed, phase, full, some'] using moved
      · exact own (by simp [step, worker, phase, full])
  | pop => exact Or.inr (own (by simp [step, worker, phase, idle]))
  | _ => exact Or.inr (own (by simp [step, worker, phase]))

theorem Settled.takesEffect {s : WorkerQueue} (settled : s.Settled) : s.TakesEffect where
  awake := settled.awake
  stopping := settled.isRunning
  leaves := by
    refine LeadsTo.of_measure (fun s => remaining s.phase)
      (fun _ _ _ settled stepped => settled_step settled stepped) ?_
      (fun _ settled => settled.canGoOn)
      (fun _ _ _ settled stepped => Or.inr (remaining_step settled stepped)) settled
    intro s event s' settled stopped stepped
    have finished := remaining_eq_zero.mpr (settled.steady.finished.mp stopped)
    have fallen := remaining_step settled stepped
    refine (settled_step settled stepped).steady.finished.mpr (remaining_eq_zero.mp ?_)
    omega

theorem TakesEffect.after {s s' : WorkerQueue} {event : QueueEvent} (steady : s.Steady)
    (given : s.Given) (effect : s.TakesEffect) (stepped : s.step event = some s') :
    s'.TakesEffect := by
  have leaves := effect.leaves.after stepped
  have steady' := steady_step steady stepped
  refine ⟨?_, steady'.isRunning (given_step steady given stepped).stop_ne, leaves⟩
  rcases leaves.now with stopped | goesOn
  · rw [steady'.finished.mp stopped]
    simp
  · exact goesOn.1

/-- A signal while the worker is in front of its wait is lost. -/
theorem not_takesEffect_of_passed {s : WorkerQueue} (steady : s.Steady)
    (passed : s.phase = .queues ∧ s.q = [] ∧ s.delayedQ = []) : ¬ s.TakesEffect := by
  obtain ⟨phase, q, delayedQ⟩ := passed
  intro effect
  have stepped : s.step .worker = some { s with phase := .wait false } := by
    simp [step, worker, phase, q, delayedQ]
  rcases (effect.leaves.after stepped).now with stopped | goesOn
  · exact absurd (steady.finished.mp stopped) (by simp [phase])
  · exact goesOn.1 rfl

/-- **One step.** -/
theorem takesEffect_step {s s' : WorkerQueue} {event : QueueEvent} (steady : s.Steady)
    (effect : s.Given → s.TakesEffect) (stepped : s.step event = some s') :
    s.SignalsInTime event ↔ (s'.Given → s'.TakesEffect) := by
  by_cases given : s.Given
  · refine iff_of_true (fun _ signals => ?_) fun _ => (effect given).after steady given stepped
    rcases given with given | given <;> simp [signals] at given
  · have nothing (first : s.stop ≠ some .signal ∨ event ≠ .waitUntilStopped)
        (stop : s'.Given → s.Given) : s.SignalsInTime event ↔ (s'.Given → s'.TakesEffect) := by
      refine iff_of_true (fun waits signals => ?_) fun given' => absurd (stop given') given
      rcases first with first | first
      · exact absurd signals first
      · exact absurd waits first
    cases stepped_of_step stepped with
    | signals at' =>
        have steady' := steady_step steady stepped
        constructor
        · intro inTime _
          refine Settled.takesEffect ⟨steady', Or.inl rfl, fun waits => ?_, fun passed => ?_⟩
          · cases phase : s.phase <;> simp [phase, WorkerPhase.signal] at waits
          · obtain ⟨phase, q, delayedQ⟩ := passed
            exact inTime rfl at' ⟨(signal_ne (by simp)).mp phase, q, delayedQ⟩
        · intro after _ _ passed
          refine not_takesEffect_of_passed steady' ?_ (after (Or.inl rfl))
          exact ⟨(signal_ne (by simp)).mpr passed.1, passed.2⟩
    | polls at' stopping => exact absurd (Or.inl at') given
    | stopReturns at' done => exact absurd (Or.inl at') given
    | stops at' => exact nothing (Or.inr (by simp)) fun given' => by simp [Given] at given'
    | _ => exact nothing (Or.inr (by simp)) fun given' => given'

/-- **A stop takes effect**, all along a run, exactly if its signal does not come while the
worker stands in front of its wait. -/
theorem takesEffect_iff {events : List QueueEvent} {s : WorkerQueue}
    (ran : run WorkerQueue.step .initial events = some s) :
    (∀ front back middle, events = front ++ back →
      run WorkerQueue.step .initial front = some middle → middle.Given → middle.TakesEffect) ↔
      StepsMeet WorkerQueue.step SignalsInTime .initial events := by
  have initially : WorkerQueue.initial.Given → WorkerQueue.initial.TakesEffect := by
    intro given
    exact absurd given (by unfold Given; decide)
  exact (stepsMeet_iff_along (fun _ _ _ steady stepped => steady_step steady stepped)
    (fun _ _ _ steady effect stepped => takesEffect_step steady effect stepped)
    steady_initial initially ran).symm

end WorkerQueue

end RildHisi.MockRil
