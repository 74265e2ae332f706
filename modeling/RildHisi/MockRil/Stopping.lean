import RildHisi.MockRil.CtrlServer
import RildHisi.MockRil.QueueStopping

/-!
Owns `Stop` on the thread of the control server, and with it on both threads. `done_`,
which `Stop` sets before it sends its byte, makes `isRunning` true for ever; only a
thread that has left its loops by then is stopped (`takesEffect_iff`).
-/

namespace RildHisi.MockRil

open RildHisi.Library

/-- The thread is in its loops. -/
def CtrlPhase.inLoops : CtrlPhase → Bool
  | .started | .left | .finished => false
  | _ => true

/-- The steps of the thread. -/
def CtrlEvent.ofServer : CtrlEvent → Bool
  | .server _ => true
  | _ => false

namespace CtrlServer

/-- `Stop` has changed `state_` and sent its byte. -/
def Given (s : CtrlServer) : Prop := s.stop = some .poll ∨ s.stop = some .returned

/-- The thread has a next step. -/
def CanGoOn (s : CtrlServer) : Prop := ∃ ok, (s.step (.server ok)).isSome = true

/-- The thread is not blocked in a `select` with nothing to read, `isRunning` is false where
it will be tested, and in steps of its own, whatever the others do, the thread comes to
`STATE_STOPPED`, which ends the loop of `WaitUntilStopped`. -/
structure TakesEffect (s : CtrlServer) : Prop where
  awake : s.phase = .selectAccept ∨ s.phase = .selectClient → s.CanGoOn
  stopping : s.phase.inLoops = true → s.isRunning = false
  leaves : LeadsTo CtrlServer.step CtrlEvent.ofServer CanGoOn (fun s => s.state = .stopped) s

/-- The byte is sent when the thread has left its loops. -/
def LeavesFirst (s : CtrlServer) (event : CtrlEvent) : Prop :=
  event = .waitUntilStopped → s.stop = some .send → s.phase.inLoops = false

instance (s : CtrlServer) (event : CtrlEvent) : Decidable (s.LeavesFirst event) := by
  unfold LeavesFirst
  infer_instance

/-! ### The state and the phase -/

/-- `state_` goes with the phase, and `done_` with the stop. -/
structure Steady (s : CtrlServer) : Prop where
  state : s.state.Steady (s.phase = .started) (s.phase = .finished) (s.stop ≠ none)
  done : s.stop ≠ none → s.stop ≠ some .setDone → s.done = true

theorem steady_initial : CtrlServer.initial.Steady where
  state := ⟨fun _ => ⟨fun stop => stop rfl, rfl⟩, fun stop => absurd rfl stop, by decide⟩
  done stop := absurd rfl stop

/-- A step between the start and the end of the thread. -/
theorem Steady.goesOn {s s' : CtrlServer} (steady : s.Steady) (state : s'.state = s.state)
    (stop : s'.stop = s.stop) (done : s'.done = s.done) (started : s'.phase ≠ .started)
    (before : s.phase ≠ .finished) (after : s'.phase ≠ .finished) : s'.Steady where
  state := by
    rw [state, stop]
    exact steady.state.congr (fun first => absurd first started) (iff_of_false after before) Iff.rfl
  done := by
    rw [stop, done]
    exact steady.done

/-- A step of another party. -/
theorem Steady.stays {s s' : CtrlServer} (steady : s.Steady) (state : s'.state = s.state)
    (stop : s'.stop = s.stop) (done : s'.done = s.done) (phase : s'.phase = s.phase) :
    s'.Steady where
  state := by
    rw [state, stop, phase]
    exact steady.state
  done := by
    rw [stop, done]
    exact steady.done

theorem steady_step {s s' : CtrlServer} {event : CtrlEvent} (steady : s.Steady)
    (stepped : s.step event = some s') : s'.Steady := by
  have unfinished {phase : CtrlPhase} (at' : s.phase = phase) (apart : phase ≠ .finished) :
      s.phase ≠ .finished := at' ▸ apart
  cases stepped_of_step stepped with
  | connect => exact steady.stays rfl rfl rfl rfl
  | arrives event begun incoming disconnected byClient => exact steady.stays rfl rfl rfl rfl
  | stops at' =>
      exact ⟨ThreadState.Steady.beginStopping steady.state at', fun _ first => absurd rfl first⟩
  | stopFails at' => exact steady
  | setsDone at' => exact ⟨steady.state.congr id Iff.rfl (by simp [at']), fun _ _ => rfl⟩
  | sends at' =>
      exact ⟨steady.state.congr id Iff.rfl (by simp [at']),
        fun _ _ => steady.done (by simp [at']) (by simp [at'])⟩
  | polls at' stopping => exact steady
  | stopReturns at' done =>
      exact ⟨steady.state.congr id Iff.rfl (by simp [at']),
        fun _ _ => steady.done (by simp [at']) (by simp [at'])⟩
  | begins ok at' =>
      exact ⟨ThreadState.Steady.begins steady.state at' (by simp) (by simp), steady.done⟩
  | leaves ok at' => exact ⟨ThreadState.Steady.leaves (by simp) rfl, steady.done⟩
  | outerTest ok at' =>
      refine steady.goesOn rfl rfl rfl ?_ (unfinished at' (by simp)) ?_ <;>
        (dsimp only; split_ifs <;> simp)
  | acceptTest ok found at' =>
      refine steady.goesOn rfl rfl rfl ?_ (unfinished at' (by simp)) ?_ <;>
        (dsimp only; split_ifs <;> simp)
  | innerTest ok at' =>
      refine steady.goesOn rfl rfl rfl ?_ (unfinished at' (by simp)) ?_ <;>
        (dsimp only; split_ifs <;> simp)
  | clientTest ok at' =>
      refine steady.goesOn rfl rfl rfl ?_ (unfinished at' (by simp)) ?_ <;>
        (dsimp only; split_ifs <;> simp)
  | found ok at' => exact steady.goesOn rfl rfl rfl (by simp) (unfinished at' (by simp)) (by simp)
  | acceptFails at' => exact steady.goesOn rfl rfl rfl (by simp) (unfinished at' (by simp)) (by simp)
  | accepts connection backlog at' first =>
      exact steady.goesOn rfl rfl rfl (by simp) (unfinished at' (by simp)) (by simp)
  | readies ok at' => exact steady.goesOn rfl rfl rfl (by simp) (unfinished at' (by simp)) (by simp)
  | reads ok connection message rest at' client arrived =>
      exact steady.goesOn rfl rfl rfl (by simp) (unfinished at' (by simp)) (by simp)
  | readFails ok at' => exact steady.goesOn rfl rfl rfl (by simp) (unfinished at' (by simp)) (by simp)
  | closes ok at' => exact steady.goesOn rfl rfl rfl (by simp) (unfinished at' (by simp)) (by simp)
  | handles ok index connection message at' known =>
      obtain ⟨written, requests, phase, same, inside, -⟩ := s.handle_eq ok index message
      rw [same]
      refine steady.goesOn rfl rfl rfl ?_ (unfinished at' (by simp)) ?_
      · rcases inside with rfl | rfl <;> simp
      · rcases inside with rfl | rfl <;> simp
  | finishes index sendResponse status data ok connection message requested free known =>
      obtain ⟨written, same, -⟩ := s.finish_eq sendResponse ok index message status data
      rw [same]
      exact steady.stays rfl rfl rfl rfl

/-! ### The way out -/

/-- The byte is sent, and the thread has left its loops. -/
structure Settled (s : CtrlServer) : Prop where
  steady : s.Steady
  given : s.Given
  out : s.phase = .left ∨ s.phase = .finished

theorem Given.stop_ne {s : CtrlServer} (given : s.Given) : s.stop ≠ none := by
  rcases given with stop | stop <;> simp [stop]

theorem Given.stays {s s' : CtrlServer} (given : s.Given) (stop : s'.stop = s.stop) : s'.Given := by
  rcases given with given | given
  · exact Or.inl (stop.trans given)
  · exact Or.inr (stop.trans given)

theorem given_step {s s' : CtrlServer} {event : CtrlEvent} (steady : s.Steady) (given : s.Given)
    (stepped : s.step event = some s') : s'.Given := by
  cases stepped_of_step stepped with
  | stops at' => exact absurd at' (steady.state.not_running given.stop_ne)
  | setsDone at' => rcases given with given | given <;> simp [at'] at given
  | sends at' => exact Or.inl rfl
  | stopReturns at' done => exact Or.inr rfl
  | handles ok index connection message at' known =>
      obtain ⟨written, requests, phase, same, -⟩ := s.handle_eq ok index message
      exact given.stays (by rw [same])
  | finishes index sendResponse status data ok connection message requested free known =>
      obtain ⟨written, same, -⟩ := s.finish_eq sendResponse ok index message status data
      exact given.stays (by rw [same])
  | _ => exact given.stays rfl

/-- The byte of `Stop` is the only way there. -/
theorem Given.back {s s' : CtrlServer} {event : CtrlEvent} (given : s'.Given)
    (stepped : s.step event = some s') :
    s.Given ∨ event = .waitUntilStopped ∧ s.stop = some .send := by
  cases stepped_of_step stepped with
  | sends at' => exact Or.inr ⟨rfl, at'⟩
  | stops at' => simp [Given] at given
  | setsDone at' => simp [Given] at given
  | stopReturns at' done => exact Or.inl (Or.inl at')
  | handles ok index connection message at' known =>
      obtain ⟨written, requests, phase, same, -⟩ := s.handle_eq ok index message
      exact Or.inl (given.stays (by rw [same]))
  | finishes index sendResponse status data ok connection message requested free known =>
      obtain ⟨written, same, -⟩ := s.finish_eq sendResponse ok index message status data
      exact Or.inl (given.stays (by rw [same]))
  | _ => exact Or.inl (given.stays rfl)

/-- The others leave the thread where it is. -/
theorem phase_step {s s' : CtrlServer} {event : CtrlEvent} (stepped : s.step event = some s')
    (other : event.ofServer = false) : s'.phase = s.phase := by
  cases stepped_of_step stepped with
  | connect => rfl
  | arrives event begun incoming disconnected byClient => rfl
  | stops at' => rfl
  | stopFails at' => rfl
  | setsDone at' => rfl
  | sends at' => rfl
  | polls at' stopping => rfl
  | stopReturns at' done => rfl
  | finishes index sendResponse status data ok connection message requested free known =>
      obtain ⟨written, same, -⟩ := s.finish_eq sendResponse ok index message status data
      rw [same]
  | _ => cases other

/-- Behind the loops a step of the thread is its last, and the others leave it there. -/
theorem Settled.step {s s' : CtrlServer} {event : CtrlEvent} (settled : s.Settled)
    (stepped : s.step event = some s') :
    s'.phase = .finished ∨ event.ofServer = false ∧ s'.phase = s.phase := by
  cases event with
  | server ok =>
      left
      rcases settled.out with left | finished
      · have last : { s with state := .stopped, phase := .finished } = s' := by
          simpa [CtrlServer.step, server, left] using stepped
        rw [← last]
      · simp [CtrlServer.step, server, finished] at stepped
  | _ => exact Or.inr ⟨rfl, phase_step stepped rfl⟩

theorem settled_step {s s' : CtrlServer} {event : CtrlEvent} (settled : s.Settled)
    (stepped : s.step event = some s') : s'.Settled where
  steady := steady_step settled.steady stepped
  given := given_step settled.steady settled.given stepped
  out := by
    rcases settled.step stepped with finished | ⟨-, same⟩
    · exact Or.inr finished
    · exact same ▸ settled.out

theorem Settled.takesEffect {s : CtrlServer} (settled : s.Settled) : s.TakesEffect where
  awake waits := by
    rcases settled.out with out | out <;> rcases waits with waits | waits <;> simp [out] at waits
  stopping inLoops := by
    rcases settled.out with out | out <;> simp [out, CtrlPhase.inLoops] at inLoops
  leaves := by
    refine LeadsTo.of_measure (fun s => if s.phase = .finished then 0 else 1)
      (fun _ _ _ settled stepped => settled_step settled stepped) ?_ ?_ ?_ settled
    · intro s event s' settled stopped stepped
      have finished := settled.steady.state.finished.mp stopped
      apply (settled_step settled stepped).steady.state.finished.mpr
      rcases settled.step stepped with done | ⟨-, same⟩
      · exact done
      · exact same.trans finished
    · intro s settled
      rcases settled.out with left | finished
      · exact Or.inr ⟨true, by simp [CtrlServer.step, server, left]⟩
      · exact Or.inl (settled.steady.state.finished.mpr finished)
    · intro s event s' settled stepped
      rcases settled.step stepped with done | ⟨other, same⟩
      · exact Or.inl ((settled_step settled stepped).steady.state.finished.mpr done)
      · right
        rw [same, other]
        exact Nat.le_refl _

/-- What a stop that takes effect says of the phase. -/
theorem TakesEffect.out {s : CtrlServer} (steady : s.Steady) (given : s.Given)
    (effect : s.TakesEffect) : s.phase = .left ∨ s.phase = .finished := by
  have done : s.done = true := by
    apply steady.done given.stop_ne
    rcases given with stop | stop <;> simp [stop]
  have running : s.isRunning = true := by simp [isRunning, done]
  have stopping := effect.stopping
  have notStarted : s.phase ≠ .started := fun first => (steady.state.started first).1 given.stop_ne
  rw [running] at stopping
  cases phase : s.phase <;> simp_all [CtrlPhase.inLoops]

/-- **One step.** -/
theorem takesEffect_step {s s' : CtrlServer} {event : CtrlEvent} (steady : s.Steady)
    (effect : s.Given → s.TakesEffect) (stepped : s.step event = some s') :
    s.LeavesFirst event ↔ (s'.Given → s'.TakesEffect) := by
  have steady' := steady_step steady stepped
  by_cases given : s.Given
  · refine iff_of_true (fun _ sends => ?_) fun _ => ?_
    · rcases given with given | given <;> simp [sends] at given
    · exact (settled_step ⟨steady, given, (effect given).out steady given⟩ stepped).takesEffect
  · by_cases last : event = .waitUntilStopped ∧ s.stop = some .send
    · obtain ⟨rfl, sends⟩ := last
      have shape : s' = { s with stopByte := true, stop := some .poll } := by
        simpa [CtrlServer.step, sends] using stepped.symm
      have given' : s'.Given := Or.inl (by rw [shape])
      have phase : s'.phase = s.phase := by rw [shape]
      constructor
      · intro leaves _
        have outside := leaves rfl sends
        have notStarted : s.phase ≠ .started := fun first =>
          (steady.state.started first).1 (by simp [sends])
        refine Settled.takesEffect ⟨steady', given', ?_⟩
        rw [phase]
        cases at' : s.phase <;> simp_all [CtrlPhase.inLoops]
      · intro after _ _
        rcases (after given').out steady' given' with out | out <;>
          simp [← phase, out, CtrlPhase.inLoops]
    · have never : ¬ s'.Given := fun given' => (given'.back stepped).elim given last
      exact iff_of_true (fun waits sends => absurd ⟨waits, sends⟩ last)
        fun given' => absurd given' never

theorem takesEffect_iff {events : List CtrlEvent} {s : CtrlServer}
    (ran : run CtrlServer.step .initial events = some s) :
    (∀ front back middle, events = front ++ back →
      run CtrlServer.step .initial front = some middle → middle.Given → middle.TakesEffect) ↔
      StepsMeet CtrlServer.step LeavesFirst .initial events := by
  have initially : CtrlServer.initial.Given → CtrlServer.initial.TakesEffect := by
    intro given
    exact absurd given (by unfold Given; decide)
  exact (stepsMeet_iff_along (fun _ _ _ steady stepped => steady_step steady stepped)
    (fun _ _ _ steady effect stepped => takesEffect_step steady effect stepped)
    steady_initial initially ran).symm

end CtrlServer

/-- **A stop takes effect**, all along a run: on the thread of a work queue exactly if its
signal does not come while the worker stands in front of its wait, and on the thread of the
control server exactly if it has left its loops when the byte is sent. -/
theorem stop_takesEffect_iff {queueEvents : List QueueEvent} {queue : WorkerQueue}
    (queueRan : run WorkerQueue.step .initial queueEvents = some queue)
    {serverEvents : List CtrlEvent} {server : CtrlServer}
    (serverRan : run CtrlServer.step .initial serverEvents = some server) :
    ((∀ front back middle, queueEvents = front ++ back →
      run WorkerQueue.step .initial front = some middle → middle.Given → middle.TakesEffect) ↔
      StepsMeet WorkerQueue.step WorkerQueue.SignalsInTime .initial queueEvents) ∧
    ((∀ front back middle, serverEvents = front ++ back →
      run CtrlServer.step .initial front = some middle → middle.Given → middle.TakesEffect) ↔
      StepsMeet CtrlServer.step CtrlServer.LeavesFirst .initial serverEvents) :=
  ⟨WorkerQueue.takesEffect_iff queueRan, CtrlServer.takesEffect_iff serverRan⟩

/-- The worker has tested `isRunning` when `Stop` comes in, and waits behind its signal. -/
def lostSignal : List QueueEvent :=
  [.worker, .worker, .worker, .worker, .stop, .waitUntilStopped, .worker]

/-- `Stop` on a control server that waits for a client. -/
def doneServer : List CtrlEvent :=
  [.server true, .server true, .stop, .waitUntilStopped, .waitUntilStopped]

/-- **Stops without effect**: a signal lost, and an `isRunning` that `done_` has made true. -/
theorem lostSignal_takesEffect :
    (¬ ∀ events s, run WorkerQueue.step .initial events = some s → s.Given → s.TakesEffect) ∧
      ¬ ∀ events s, run CtrlServer.step .initial events = some s → s.Given → s.TakesEffect := by
  constructor
  · intro claim
    have finishes : (run WorkerQueue.step .initial lostSignal).isSome = true := by decide
    obtain ⟨s, ran⟩ := Option.isSome_iff_exists.mp finishes
    have blocked : (run WorkerQueue.step .initial lostSignal).any (fun s =>
        s.stop = some .poll ∧ s.phase = .wait false) = true := by decide
    rw [ran] at blocked
    obtain ⟨given, waits⟩ : s.stop = some .poll ∧ s.phase = .wait false := by simpa using blocked
    exact (claim lostSignal s ran (Or.inl given)).awake waits
  · intro claim
    have finishes : (run CtrlServer.step .initial doneServer).isSome = true := by decide
    obtain ⟨s, ran⟩ := Option.isSome_iff_exists.mp finishes
    have running : (run CtrlServer.step .initial doneServer).any (fun s =>
        s.stop = some .poll ∧ s.phase.inLoops = true ∧ s.isRunning = true) = true := by decide
    rw [ran] at running
    obtain ⟨given, inLoops, running⟩ :
        s.stop = some .poll ∧ s.phase.inLoops = true ∧ s.isRunning = true := by
      simpa using running
    rw [(claim doneServer s ran (Or.inl given)).stopping inLoops] at running
    cases running

/-- `Stop` on a worker that waits. -/
def seenSignal : List QueueEvent :=
  [.worker, .worker, .worker, .worker, .worker, .stop, .waitUntilStopped, .wake, .worker, .worker,
    .worker, .worker, .worker, .waitUntilStopped]

/-- `Stop` on a control server that tests `isRunning` before `done_` is set. -/
def leavingServer : List CtrlEvent :=
  [.server true, .stop, .server true, .waitUntilStopped, .waitUntilStopped, .server true,
    .waitUntilStopped]

theorem seenSignal_takesEffect :
    (∃ s, run WorkerQueue.step .initial seenSignal = some s ∧ (s.Given → s.TakesEffect)) ∧
      ∃ s, run CtrlServer.step .initial leavingServer = some s ∧ (s.Given → s.TakesEffect) := by
  have queueFinishes : (run WorkerQueue.step .initial seenSignal).isSome = true := by decide
  have serverFinishes : (run CtrlServer.step .initial leavingServer).isSome = true := by decide
  obtain ⟨queue, queueRan⟩ := Option.isSome_iff_exists.mp queueFinishes
  obtain ⟨server, serverRan⟩ := Option.isSome_iff_exists.mp serverFinishes
  have queueMet : StepsMeet WorkerQueue.step WorkerQueue.SignalsInTime .initial seenSignal := by
    decide
  have serverMet : StepsMeet CtrlServer.step CtrlServer.LeavesFirst .initial leavingServer := by
    decide
  have both := stop_takesEffect_iff queueRan serverRan
  exact ⟨⟨queue, queueRan,
      both.1.mpr queueMet seenSignal [] queue (List.append_nil _).symm queueRan⟩,
    ⟨server, serverRan,
      both.2.mpr serverMet leavingServer [] server (List.append_nil _).symm serverRan⟩⟩

end RildHisi.MockRil
