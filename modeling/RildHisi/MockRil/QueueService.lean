import RildHisi.MockRil.PooledQueue
import RildHisi.MockRil.QueueStopping

/-!
Owns that a queue without a `Stop` is served: in steps of the worker alone, what is in it comes
to `Process`, record by record, until the queue is empty.
-/

namespace RildHisi.MockRil

open RildHisi.Library

namespace WorkerQueue

/-- No `Stop` has begun, and the worker stands where it can be then. -/
structure Serving (s : WorkerQueue) : Prop where
  stop : s.stop = none
  running : s.phase ≠ .started → s.state = .running
  alive : s.phase ≠ .left ∧ s.phase ≠ .finished ∧ s.phase ≠ .unlockElse
  full : s.phase = .pop → s.q ≠ []
  given : s.phase = .processing → s.processed ≠ []

theorem serving_initial : WorkerQueue.initial.Serving where
  stop := rfl
  running started := absurd rfl started
  alive := by decide
  full at' := by cases at'
  given at' := by cases at'

variable {s s' : WorkerQueue} {event : QueueEvent}

theorem Serving.isRunning (serving : s.Serving) (started : s.phase ≠ .started) :
    s.isRunning = true := by
  rw [WorkerQueue.isRunning, serving.running started]
  rfl

/-- The phase is as it was, or it has been signalled, and the queue is no shorter. -/
theorem Serving.stays (serving : s.Serving) (stop : s'.stop = s.stop) (state : s'.state = s.state)
    (phase : s'.phase = s.phase ∨ s'.phase = s.phase.signal) (q : s.q ≠ [] → s'.q ≠ [])
    (processed : s'.processed = s.processed) : s'.Serving := by
  have same (other : WorkerPhase) (apart : ∀ signalled, other ≠ .wait signalled) :
      s'.phase = other ↔ s.phase = other := by
    rcases phase with phase | phase
    · rw [phase]
    · rw [phase, signal_ne apart]
  refine ⟨stop.trans serving.stop, fun started => ?_, ?_, fun at' => ?_, fun at' => ?_⟩
  · exact state.trans (serving.running (mt (same .started (by simp)).mpr started))
  · rw [Ne, same .left (by simp), Ne, same .finished (by simp), Ne, same .unlockElse (by simp)]
    exact serving.alive
  · exact q (serving.full ((same .pop (by simp)).mp at'))
  · rw [processed]
    exact serving.given ((same .processing (by simp)).mp at')

/-- A step of the worker that runs. -/
theorem Serving.goesOn (serving : s.Serving) (started : s.phase ≠ .started) (stop : s'.stop = s.stop)
    (state : s'.state = s.state)
    (alive : s'.phase ≠ .left ∧ s'.phase ≠ .finished ∧ s'.phase ≠ .unlockElse)
    (full : s'.phase = .pop → s'.q ≠ []) (given : s'.phase = .processing → s'.processed ≠ []) :
    s'.Serving :=
  ⟨stop.trans serving.stop, fun _ => state.trans (serving.running started), alive, full, given⟩

/-- Most phases say nothing about the queue. -/
def plain : WorkerPhase → Bool
  | .left | .finished | .unlockElse | .pop | .processing => false
  | _ => true

theorem Serving.plain (serving : s.Serving) (started : s.phase ≠ .started) (stop : s'.stop = s.stop)
    (state : s'.state = s.state) (plain : plain s'.phase = true) : s'.Serving := by
  refine serving.goesOn started stop state ⟨?_, ?_, ?_⟩ ?_ ?_ <;>
    (intro at'; rw [at'] at plain; cases plain)

theorem serving_step (serving : s.Serving) (stepped : s.step event = some s')
    (stop : s'.stop = none) : s'.Serving := by
  cases stepped_of_step stepped with
  | add p free => exact serving.stays rfl rfl (signal_phase _ _) (fun _ => by simp [add, signal]) rfl
  | addNow p delay now top free =>
      exact serving.stays rfl rfl (signal_phase _ _) (fun _ => by simp [add, signal]) rfl
  | addDelayed p delay now top condition free =>
      exact serving.stays rfl rfl (signal_phase _ _) id rfl
  | stops at' => cases stop
  | stopFails at' => exact serving
  | signals at' => cases stop
  | polls at' stopping => exact serving
  | stopReturns at' done => cases stop
  | begins at' => exact ⟨serving.stop, fun _ => rfl, by simp, by simp, by simp⟩
  | outerTest at' =>
      have running := serving.isRunning (by simp [at'])
      exact serving.plain (by simp [at']) rfl rfl (by simp [running, plain])
  | innerTest at' =>
      have running := serving.isRunning (by simp [at'])
      exact serving.plain (by simp [at']) rfl rfl (by simp [running, plain])
  | locks at' => rcases at' with at' | at' <;> exact serving.plain (by simp [at']) rfl rfl rfl
  | finds at' full =>
      exact serving.goesOn (by simp [at']) rfl rfl (by simp) (fun _ => full) (by simp)
  | waits at' empty none => exact serving.plain (by simp [at']) rfl rfl rfl
  | pops r q at' running front => exact serving.plain (by simp [at']) rfl rfl rfl
  | skips at' running =>
      rw [serving.isRunning (by simp [at'])] at running
      cases running
  | unlocks r p at' => exact serving.plain (by simp [at']) rfl rfl rfl
  | processes r p at' =>
      exact serving.goesOn (by simp [at']) rfl rfl (by simp) (by simp) (by simp)
  | goesOn at' => rcases at' with at' | at' <;> exact serving.plain (by simp [at']) rfl rfl rfl
  | leaves at' => exact absurd at' serving.alive.1
  | moves now tops delayedQ q at' empty some' moved =>
      refine serving.plain (by simp [at']) rfl rfl ?_
      dsimp only
      split_ifs <;> rfl
  | wakes at' =>
      rcases at' with ⟨signalled, at'⟩ | at' <;> exact serving.plain (by simp [at']) rfl rfl rfl

/-! ### On the way to `Process` -/

/-- The loop over `delayed_q_` leaves nothing that is due. -/
theorem notDue_of_moveDue {records : Nat → Record} {now : Int}
    {tops delayedQ q delayedQ' q' : List Nat}
    (moved : moveDue records now tops delayedQ q = some (delayedQ', q')) :
    ∀ r ∈ delayedQ', ¬ (records r).time - now ≤ 0 := by
  induction tops generalizing delayedQ q with
  | nil =>
      obtain ⟨later, same⟩ := Option.ite_none_right_eq_some.mp moved
      obtain ⟨rfl, rfl⟩ := Prod.mk.inj (Option.some.inj same)
      exact later
  | cons r tops inductionHypothesis =>
      obtain ⟨-, moved⟩ := Option.ite_none_right_eq_some.mp moved
      exact inductionHypothesis moved

/-- The steps from a phase to the call of `Process`, where `q_` has a record. -/
def stepsToProcess : WorkerPhase → Nat
  | .process _ _ => 1
  | .unlock _ _ => 2
  | .pop => 3
  | .queues => 4
  | .innerTest => 5
  | .lock | .relock => 6
  | .outerTest | .wait _ | .timedWait => 7
  | .started => 8
  | _ => 0

/-- With an empty `q_`, the worker comes to `delayed_q_` first. -/
def distance (s : WorkerQueue) : Nat :=
  stepsToProcess s.phase + if s.q = [] ∧ s.phase.hand = none then 8 else 0

/-- The queue behind a step that leaves the records where they are. -/
theorem distance_lt (q : s'.q = s.q) (hand : s'.phase.hand = s.phase.hand)
    (closer : stepsToProcess s'.phase < stepsToProcess s.phase) : s'.distance < s.distance := by
  unfold distance
  rw [q, hand]
  omega

/-- When enough time has gone by, a record comes to `q_`. -/
theorem exists_delayed (at' : s.phase = .queues) (empty : s.q = []) (some' : s.delayedQ ≠ []) :
    ∃ now tops s', s.step (.delayed now tops) = some s' ∧ s'.distance < s.distance := by
  obtain ⟨r, rest, front⟩ := List.exists_cons_of_ne_nil some'
  obtain ⟨tops, moves⟩ := exists_moveDue s.records (s.records r).time s.delayedQ []
  obtain ⟨⟨delayedQ, q⟩, moved⟩ := Option.isSome_iff_exists.mp moves
  have full : q ≠ [] := by
    intro none
    have all := (moveDue_perm moved).mem_iff (a := r)
    rw [none, front] at all
    have member : r ∈ delayedQ := by simpa using all
    exact notDue_of_moveDue moved r member (by omega)
  refine ⟨(s.records r).time, tops, { s with
    delayedQ := delayedQ
    q := q
    phase := if q = [] ∧ delayedQ ≠ [] then .timedWait else .innerTest }, ?_, ?_⟩
  · rw [step, delayed, if_pos ⟨at', empty, some'⟩, moved]
    rfl
  · simp [distance, at', empty, full, WorkerPhase.hand, stepsToProcess]

/-- A step of the worker or the return of its wait, which leaves the queues as they are. -/
theorem closer_of_phase {phase : WorkerPhase} (hand : phase.hand = s.phase.hand)
    (closer : stepsToProcess phase < stepsToProcess s.phase) (state : ThreadState) :
    { s with state := state, phase := phase }.distance < s.distance :=
  distance_lt rfl hand closer

/-- **One step closer.** -/
theorem exists_closer (serving : s.Serving) (used : s.inUse ≠ []) (waits : s.phase ≠ .processing) :
    ∃ event s', event.ofWorker = true ∧ s.step event = some s' ∧
      (s'.phase = .processing ∨ s'.distance < s.distance) := by
  have running (started : s.phase ≠ .started) := serving.isRunning started
  cases at' : s.phase with
  | started =>
      refine ⟨.worker, { s with state := .running, phase := .outerTest }, rfl, ?_, Or.inr ?_⟩
      · simp [step, worker, at']
      · exact closer_of_phase (by rw [at']; rfl) (by simp [at', stepsToProcess]) .running
  | outerTest =>
      refine ⟨.worker, { s with phase := .lock }, rfl, ?_, Or.inr ?_⟩
      · simp [step, worker, at', running (by simp [at'])]
      · exact closer_of_phase (by rw [at']; rfl) (by simp [at', stepsToProcess]) s.state
  | lock =>
      refine ⟨.worker, { s with phase := .innerTest }, rfl, ?_, Or.inr ?_⟩
      · simp [step, worker, at']
      · exact closer_of_phase (by rw [at']; rfl) (by simp [at', stepsToProcess]) s.state
  | relock =>
      refine ⟨.worker, { s with phase := .innerTest }, rfl, ?_, Or.inr ?_⟩
      · simp [step, worker, at']
      · exact closer_of_phase (by rw [at']; rfl) (by simp [at', stepsToProcess]) s.state
  | innerTest =>
      refine ⟨.worker, { s with phase := .queues }, rfl, ?_, Or.inr ?_⟩
      · simp [step, worker, at', running (by simp [at'])]
      · exact closer_of_phase (by rw [at']; rfl) (by simp [at', stepsToProcess]) s.state
  | wait signalled =>
      refine ⟨.wake, { s with phase := .relock }, rfl, ?_, Or.inr ?_⟩
      · simp [step, at']
      · exact closer_of_phase (by rw [at']; rfl) (by simp [at', stepsToProcess]) s.state
  | timedWait =>
      refine ⟨.wake, { s with phase := .relock }, rfl, ?_, Or.inr ?_⟩
      · simp [step, at']
      · exact closer_of_phase (by rw [at']; rfl) (by simp [at', stepsToProcess]) s.state
  | queues =>
      by_cases empty : s.q = []
      · rw [inUse_of_idle (by rw [at']; rfl) waits, queued, empty, List.nil_append] at used
        obtain ⟨now, tops, s', stepped, closer⟩ :=
          exists_delayed at' empty fun none => used (by rw [none]; rfl)
        exact ⟨.delayed now tops, s', rfl, stepped, Or.inr closer⟩
      · refine ⟨.worker, { s with phase := .pop }, rfl, ?_, Or.inr ?_⟩
        · simp [step, worker, at', empty]
        · exact closer_of_phase (by rw [at']; rfl) (by simp [at', stepsToProcess]) s.state
  | pop =>
      obtain ⟨r, q, front⟩ := List.exists_cons_of_ne_nil (serving.full at')
      refine ⟨.worker, { s with
        q := q
        freeList := r :: s.freeList
        popped := s.popped ++ [(s.records r).p]
        phase := .unlock r (s.records r).p }, rfl, ?_, Or.inr ?_⟩
      · simp [step, worker, at', running (by simp [at']), front]
      · simp [distance, at', front, WorkerPhase.hand, stepsToProcess]
  | unlock r p =>
      refine ⟨.worker, { s with phase := .process r p }, rfl, ?_, Or.inr ?_⟩
      · simp [step, worker, at']
      · exact closer_of_phase (by rw [at']; rfl) (by simp [at', stepsToProcess]) s.state
  | process r p =>
      refine ⟨.worker, { s with
        processed := s.processed ++ [(s.records r).p], phase := .processing }, rfl, ?_, Or.inl rfl⟩
      simp [step, worker, at']
  | processing => exact absurd at' waits
  | unlockElse => exact absurd at' serving.alive.2.2
  | left => exact absurd at' serving.alive.1
  | finished => exact absurd at' serving.alive.2.1

/-- The other steps leave `Stop` alone. -/
theorem stop_step (begins : event ≠ .stop) (waits : event ≠ .waitUntilStopped)
    (stepped : s.step event = some s') : s'.stop = s.stop := by
  cases stepped_of_step stepped with
  | stops | stopFails => exact absurd rfl begins
  | signals | polls | stopReturns => exact absurd rfl waits
  | _ => rfl

theorem pointer_of_ofWorker (ofWorker : event.ofWorker = true) : event.pointer = none := by
  cases event <;> first | rfl | cases ofWorker

theorem ne_stop_of_ofWorker (ofWorker : event.ofWorker = true) : event ≠ .stop := by
  rintro rfl
  cases ofWorker

end WorkerQueue

namespace PooledQueue

variable {α : Type} {s s' : PooledQueue α}

theorem serving_turn {event : QueueEvent} (serving : s.queue.Serving) (begins : event ≠ .stop)
    (turned : s.turn event = some s') : s'.queue.Serving := by
  obtain ⟨-, shape⟩ := Option.ite_none_right_eq_some.mp turned
  obtain ⟨queue, stepped, rfl⟩ := Option.map_eq_some_iff.mp shape
  refine WorkerQueue.serving_step serving stepped
    ((WorkerQueue.stop_step begins ?_ stepped).trans serving.stop)
  rintro rfl
  simp [WorkerQueue.step, serving.stop] at stepped

theorem serving_put {a : α} {adding : Adding} (serving : s.queue.Serving)
    (added : s.put a adding = some s') : s'.queue.Serving := by
  obtain ⟨queue, stepped, rfl⟩ := Option.map_eq_some_iff.mp added
  refine WorkerQueue.serving_step serving stepped
    ((WorkerQueue.stop_step ?_ ?_ stepped).trans serving.stop)
  · cases adding <;> simp [Adding.event]
  · cases adding <;> simp [Adding.event]

/-- **What is in the queue comes to `Process`.** -/
theorem exists_processing (serving : s.queue.Serving) (used : s.queue.inUse ≠ []) :
    ∃ events s', (∀ event ∈ events, event.ofWorker = true) ∧
      run turn s events = some s' ∧ s'.queue.phase = .processing := by
  induction size : s.queue.distance using Nat.strong_induction_on generalizing s with
  | _ distance inductionHypothesis =>
      by_cases here : s.queue.phase = .processing
      · exact ⟨[], s, by simp, rfl, here⟩
      · obtain ⟨event, queue, ofWorker, stepped, closer⟩ :=
          WorkerQueue.exists_closer serving used here
        have adds := WorkerQueue.pointer_of_ofWorker ofWorker
        have turned : s.turn event = some { s with queue := queue } := by
          rw [turn, if_pos ⟨adds, fun both => here both.2⟩, stepped]
          rfl
        rcases closer with done | closer
        · exact ⟨[event], _, by simp [ofWorker], by rw [run_cons, turned]; rfl, done⟩
        · have used' : queue.inUse ≠ [] := by
            have kept := WorkerQueue.inUse_step stepped adds fun both => here both.2
            intro empty
            rw [empty] at kept
            exact used (List.nil_perm.mp kept)
          obtain ⟨events, s', works, ran, done⟩ := inductionHypothesis _ (size ▸ closer)
            (serving_turn serving (WorkerQueue.ne_stop_of_ofWorker ofWorker) turned) used' rfl
          refine ⟨event :: events, s', fun other member => ?_, by rw [run_cons, turned]; exact ran,
            done⟩
          rcases List.mem_cons.mp member with rfl | later
          · exact ofWorker
          · exact works other later

/-- Objects that are in use are there. -/
theorem inUse_eq_nil (sound : s.Sound) (empty : s.values = []) : s.queue.inUse = [] := by
  cases used : s.queue.inUse with
  | nil => rfl
  | cons p rest =>
      obtain ⟨a, leads⟩ := Option.isSome_iff_exists.mp
        (sound.made p (sound.apart.known p (by simp [used])))
      rw [values, used, List.filterMap_cons_some leads] at empty
      cases empty

theorem turn_worker {queue : WorkerQueue} (waits : s.queue.phase ≠ .processing)
    (stepped : s.queue.step .worker = some queue) :
    s.turn .worker = some { s with queue := queue } := by
  rw [turn, if_pos ⟨rfl, fun both => waits both.2⟩, stepped]
  rfl

/-- With nothing in it, the queue comes to where an `Add` neither waits nor takes a record that
has not been read. -/
theorem exists_free (serving : s.queue.Serving) (empty : s.queue.inUse = []) :
    ∃ events s', (∀ event ∈ events, event.ofWorker = true) ∧
      run turn s events = some s' ∧ s'.queue.phase.holds = false ∧ s'.queue.exposed = false := by
  obtain ⟨-, rest⟩ := List.append_eq_nil_iff.mp empty
  obtain ⟨handed, queued⟩ := List.append_eq_nil_iff.mp rest
  obtain ⟨q, delayedQ⟩ := List.append_eq_nil_iff.mp (List.map_eq_nil_iff.mp queued)
  have stays (free : s.queue.phase.holds = false) (calm : s.queue.exposed = false) :
      ∃ events s', (∀ event ∈ events, QueueEvent.ofWorker event = true) ∧
        run turn s events = some s' ∧ s'.queue.phase.holds = false ∧ s'.queue.exposed = false :=
    ⟨[], s, by simp, rfl, free, calm⟩
  cases at' : s.queue.phase with
  | innerTest =>
      have running := serving.isRunning (by simp [at'])
      have first : s.turn .worker = some { s with queue := { s.queue with phase := .queues } } :=
        turn_worker (by simp [at']) (by simp [WorkerQueue.step, WorkerQueue.worker, at', running])
      have second : turn { s with queue := { s.queue with phase := .queues } } .worker =
          some { s with queue := { s.queue with phase := .wait false } } :=
        turn_worker (by simp) (by simp [WorkerQueue.step, WorkerQueue.worker, q, delayedQ])
      exact ⟨[.worker, .worker], _, by simp [QueueEvent.ofWorker],
        by rw [run_cons, first, Option.bind_some, run_cons, second]; rfl, rfl, rfl⟩
  | queues =>
      have only : s.turn .worker =
          some { s with queue := { s.queue with phase := .wait false } } :=
        turn_worker (by simp [at'])
          (by simp [WorkerQueue.step, WorkerQueue.worker, at', q, delayedQ])
      exact ⟨[.worker], _, by simp [QueueEvent.ofWorker], by rw [run_cons, only]; rfl, rfl, rfl⟩
  | pop => exact absurd q (serving.full at')
  | unlock r p => simp [WorkerQueue.handed, at', WorkerPhase.hand] at handed
  | process r p => simp [WorkerQueue.handed, at', WorkerPhase.hand] at handed
  | unlockElse => exact absurd at' serving.alive.2.2
  | _ => exact stays (by rw [at']; rfl) (by rw [WorkerQueue.exposed, at'])

/-- What runs of the worker keep. -/
theorem run_spec {events : List QueueEvent} (sound : s.Sound) (serving : s.queue.Serving)
    (works : ∀ event ∈ events, event.ofWorker = true) (ran : run turn s events = some s') :
    s'.Sound ∧ s'.queue.Serving ∧ s'.values.Perm s.values := by
  induction events generalizing s with
  | nil =>
      obtain rfl : s = s' := by simpa using ran
      exact ⟨sound, serving, .refl _⟩
  | cons event events inductionHypothesis =>
      obtain ⟨middle, turned, rest⟩ := Option.bind_eq_some_iff.mp ran
      obtain ⟨sound', values⟩ := turn_spec sound turned
      obtain ⟨sound'', serving'', values'⟩ := inductionHypothesis sound'
        (serving_turn serving (WorkerQueue.ne_stop_of_ofWorker (works event List.mem_cons_self))
          turned)
        (fun event member => works event (List.mem_cons_of_mem _ member)) rest
      exact ⟨sound'', serving'', values'.trans values⟩

theorem serving_finish {a : α} (serving : s.queue.Serving) (finished : s.finish = some (a, s')) :
    s'.queue.Serving := by
  obtain ⟨p, -, rest⟩ := Option.bind_eq_some_iff.mp finished
  obtain ⟨a', -, rest⟩ := Option.bind_eq_some_iff.mp rest
  obtain ⟨queue, stepped, shape⟩ := Option.bind_eq_some_iff.mp rest
  obtain ⟨-, rfl⟩ := Prod.mk.inj (Option.some.inj shape)
  exact WorkerQueue.serving_step serving stepped
    ((WorkerQueue.stop_step (by simp) (by simp) stepped).trans serving.stop)

/-- `Process` has an object and returns. -/
theorem exists_finish (sound : s.Sound) (serving : s.queue.Serving)
    (busy : s.queue.phase = .processing) :
    ∃ a s', s.finish = some (a, s') := by
  obtain ⟨p, last⟩ := Option.ne_none_iff_exists'.mp
    (mt List.getLast?_eq_none_iff.mp (serving.given busy))
  have current : s.queue.current = some p := by rw [WorkerQueue.current, if_pos busy, last]
  obtain ⟨a, leads⟩ := Option.isSome_iff_exists.mp (sound.made p
    (sound.apart.known p (by simp [WorkerQueue.inUse, current])))
  have stepped : s.queue.step .worker = some { s.queue with phase := .outerTest } := by
    simp [WorkerQueue.step, WorkerQueue.worker, busy]
  refine ⟨a, { s with
    queue := { s.queue with phase := .outerTest }, freeList := s.freeList ++ [p] }, ?_⟩
  rw [finish, current]
  simp only [Option.bind_eq_bind, Option.bind_some, leads, stepped]
  rfl

end PooledQueue

end RildHisi.MockRil
