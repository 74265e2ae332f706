import Mathlib.Data.List.Perm.Basic
import Mathlib.Logic.Function.Basic
import RildHisi.Library.Runs
import RildHisi.MockRil.WorkerThread

/-!
Owns `WorkerQueue` of worker.cpp: the worker thread step by step, any number of threads
that call `Add` and `AddDelayed`, and `Stop`.

`Add` and `AddDelayed` are one critical section each, so one step. The worker's own
critical section is in steps, since `state_` and the signal of `Stop` do not take the
mutex; while the worker is in it, no other critical section can happen.
-/

namespace RildHisi.MockRil

open RildHisi.Library

/-- What `Stop` has still to do once it has changed `state_` to `STATE_STOPPING`. -/
inductive StopPhase
  /-- `pthread_cond_signal`, at the start of `WaitUntilStopped`. -/
  | signal
  /-- The loop of `WaitUntilStopped`. -/
  | poll
  | returned
  deriving DecidableEq

/-- `WorkerQueue::Record`. -/
structure Record where
  time : Int
  p : Nat
  deriving DecidableEq

/-- Where `Work` and `WorkerQueueThread::Worker` stand. -/
inductive WorkerPhase
  /-- In front of `state_ = STATE_RUNNING`. -/
  | started
  /-- `while (isRunning())`. -/
  | outerTest
  | lock
  /-- `isRunning ()` of the inner loop. -/
  | innerTest
  /-- Behind it. -/
  | queues
  /-- In `pthread_cond_wait`. -/
  | wait (signalled : Bool)
  /-- In `pthread_cond_timedwait`. -/
  | timedWait
  /-- Woken, and without the mutex. -/
  | relock
  /-- `if (isRunning())`, and the record is popped and released. -/
  | pop
  /-- The record has been released; `p` is what it held when it was popped. -/
  | unlock (r p : Nat)
  /-- In front of `Process (r->p)`. -/
  | process (r p : Nat)
  /-- In `Process`. -/
  | processing
  /-- The unlock of the `else` branch. -/
  | unlockElse
  /-- In front of `state_ = STATE_STOPPED`. -/
  | left
  | finished
  deriving DecidableEq

/-- The worker holds `mutex_`. -/
def WorkerPhase.holds : WorkerPhase → Bool
  | .innerTest | .queues | .pop | .unlock _ _ | .unlockElse => true
  | _ => false

/-- `pthread_cond_signal (&cond_)`. -/
def WorkerPhase.signal : WorkerPhase → WorkerPhase
  | .wait _ => .wait true
  | other => other

/-- A queue with its thread. `records` are the fields of the records by address, and those
below `allocated` exist. `added`, `popped` and `processed` are the pointers that were added,
that the popped records held, and that `Process` was called with. -/
structure WorkerQueue where
  state : ThreadState
  stop : Option StopPhase
  phase : WorkerPhase
  records : Nat → Record
  allocated : Nat
  q : List Nat
  freeList : List Nat
  delayedQ : List Nat
  added : List Nat
  popped : List Nat
  processed : List Nat

def WorkerQueue.initial : WorkerQueue where
  state := .initialized
  stop := none
  phase := .started
  records _ := ⟨0, 0⟩
  allocated := 0
  q := []
  freeList := []
  delayedQ := []
  added := []
  popped := []
  processed := []

inductive QueueEvent
  | add (p : Nat)
  /-- `now` is `elapsedRealtime`, `top` is `delayed_q_.top` behind the push. -/
  | addDelayed (p : Nat) (delay now : Int) (top : Nat)
  /-- `BeginStopping` on some thread. -/
  | stop
  /-- The next step of the `Stop` that has changed `state_`. -/
  | waitUntilStopped
  /-- The next step of the worker. -/
  | worker
  /-- The same where it takes records from `delayed_q_`: `tops` are the records that
  `delayed_q_.top` yields in turn. -/
  | delayed (now : Int) (tops : List Nat)
  /-- The wait of the worker returns: signalled, timed out or for no reason. -/
  | wake
  deriving DecidableEq

/-- The pointer the event adds. -/
def QueueEvent.pointer : QueueEvent → Option Nat
  | .add p | .addDelayed p _ _ _ => some p
  | _ => none

/-- `delayed_q_.top`: a record that no other one comes before. -/
def IsTop (records : Nat → Record) (delayedQ : List Nat) (r : Nat) : Prop :=
  r ∈ delayedQ ∧ ∀ other ∈ delayedQ, (records r).time ≤ (records other).time

instance (records : Nat → Record) (delayedQ : List Nat) (r : Nat) :
    Decidable (IsTop records delayedQ r) := by
  unfold IsTop
  infer_instance

/-- The loop that moves the records that are due from `delayed_q_` to `q_`. -/
def moveDue (records : Nat → Record) (now : Int) :
    List Nat → List Nat → List Nat → Option (List Nat × List Nat)
  | [], delayedQ, q =>
      if ∀ r ∈ delayedQ, ¬ (records r).time - now ≤ 0 then some (delayedQ, q) else none
  | r :: tops, delayedQ, q =>
      if IsTop records delayedQ r ∧ (records r).time - now ≤ 0 then
        moveDue records now tops (delayedQ.erase r) (q ++ [r])
      else none

namespace WorkerQueue

def isRunning (s : WorkerQueue) : Bool := s.state == .running

/-- The record that `obtain_record` yields. -/
def obtained (s : WorkerQueue) : Nat := s.freeList.headD s.allocated

/-- `obtain_record`, and the pointer is added. -/
def obtainRecord (s : WorkerQueue) (p : Nat) (time : Int) : WorkerQueue :=
  { s with
    records := Function.update s.records s.obtained ⟨time, p⟩
    allocated := if s.freeList = [] then s.allocated + 1 else s.allocated
    freeList := s.freeList.tail
    added := s.added ++ [p] }

def signal (s : WorkerQueue) (condition : Bool) : WorkerQueue :=
  { s with phase := if condition then s.phase.signal else s.phase }

def add (s : WorkerQueue) (p : Nat) : WorkerQueue :=
  let pushed := { s.obtainRecord p 0 with q := s.q ++ [s.obtained] }
  pushed.signal (pushed.q.length = 1)

def addDelayed (s : WorkerQueue) (p : Nat) (delay now : Int) (top : Nat) : Option WorkerQueue :=
  if delay ≤ 0 then some (s.add p)
  else
    let pushed :=
      { s.obtainRecord p (now + delay) with delayedQ := s.delayedQ ++ [s.obtained] }
    if IsTop pushed.records pushed.delayedQ top then
      some (pushed.signal (s.q.length = 0 && top = s.obtained))
    else none

/-- The next step of `Worker`, the loop over `delayed_q_` apart. -/
def worker (s : WorkerQueue) : Option WorkerQueue :=
  match s.phase with
  | .started => some { s with state := .running, phase := .outerTest }
  | .outerTest => some { s with phase := if s.isRunning then .lock else .left }
  | .lock => some { s with phase := .innerTest }
  | .innerTest => some { s with phase := if s.isRunning then .queues else .pop }
  | .queues =>
      if s.q ≠ [] then some { s with phase := .pop }
      else if s.delayedQ = [] then some { s with phase := .wait false }
      else none
  | .relock => some { s with phase := .innerTest }
  | .pop =>
      if s.isRunning then
        match s.q with
        | [] => none
        | r :: q =>
            some { s with
              q := q
              freeList := r :: s.freeList
              popped := s.popped ++ [(s.records r).p]
              phase := .unlock r (s.records r).p }
      else some { s with phase := .unlockElse }
  | .unlock r p => some { s with phase := .process r p }
  | .process r _ =>
      some { s with processed := s.processed ++ [(s.records r).p], phase := .processing }
  | .processing => some { s with phase := .outerTest }
  | .unlockElse => some { s with phase := .outerTest }
  | .left => some { s with state := .stopped, phase := .finished }
  | .wait _ | .timedWait | .finished => none

/-- The worker with `q_` empty and `delayed_q_` not. -/
def delayed (s : WorkerQueue) (now : Int) (tops : List Nat) : Option WorkerQueue :=
  if s.phase = .queues ∧ s.q = [] ∧ s.delayedQ ≠ [] then
    (moveDue s.records now tops s.delayedQ []).map fun moved =>
      { s with
        delayedQ := moved.1
        q := moved.2
        phase := if moved.2 = [] ∧ moved.1 ≠ [] then .timedWait else .innerTest }
  else none

def step (s : WorkerQueue) : QueueEvent → Option WorkerQueue
  | .add p => if s.phase.holds then none else some (s.add p)
  | .addDelayed p delay now top =>
      if s.phase.holds then none else s.addDelayed p delay now top
  -- the other calls of `Stop` return at once
  | .stop =>
      if s.state = .running then some { s with state := .stopping, stop := some .signal } else some s
  | .waitUntilStopped =>
      match s.stop with
      | some .signal => some { s with stop := some .poll, phase := s.phase.signal }
      | some .poll => if s.state = .stopping then some s else some { s with stop := some .returned }
      | _ => none
  | .worker => s.worker
  | .delayed now tops => s.delayed now tops
  | .wake =>
      match s.phase with
      | .wait _ | .timedWait => some { s with phase := .relock }
      | _ => none

/-- What a step is, with all it does. -/
inductive Stepped (s : WorkerQueue) : QueueEvent → WorkerQueue → Prop
  | add (p : Nat) (free : s.phase.holds = false) : Stepped s (.add p) (s.add p)
  | addNow (p : Nat) (delay now : Int) (top : Nat) (free : s.phase.holds = false) :
      Stepped s (.addDelayed p delay now top) (s.add p)
  | addDelayed (p : Nat) (delay now : Int) (top : Nat) (condition : Bool)
      (free : s.phase.holds = false) :
      Stepped s (.addDelayed p delay now top)
        (signal { s.obtainRecord p (now + delay) with
          delayedQ := s.delayedQ ++ [s.obtained] } condition)
  | stops (at' : s.state = .running) :
      Stepped s .stop { s with state := .stopping, stop := some .signal }
  | stopFails (at' : s.state ≠ .running) : Stepped s .stop s
  | signals (at' : s.stop = some .signal) :
      Stepped s .waitUntilStopped { s with stop := some .poll, phase := s.phase.signal }
  | polls (at' : s.stop = some .poll) (stopping : s.state = .stopping) :
      Stepped s .waitUntilStopped s
  | stopReturns (at' : s.stop = some .poll) (done : s.state ≠ .stopping) :
      Stepped s .waitUntilStopped { s with stop := some .returned }
  | begins (at' : s.phase = .started) :
      Stepped s .worker { s with state := .running, phase := .outerTest }
  | outerTest (at' : s.phase = .outerTest) :
      Stepped s .worker { s with phase := if s.isRunning then .lock else .left }
  | locks (at' : s.phase = .lock ∨ s.phase = .relock) :
      Stepped s .worker { s with phase := .innerTest }
  | innerTest (at' : s.phase = .innerTest) :
      Stepped s .worker { s with phase := if s.isRunning then .queues else .pop }
  | finds (at' : s.phase = .queues) (full : s.q ≠ []) : Stepped s .worker { s with phase := .pop }
  | waits (at' : s.phase = .queues) (empty : s.q = []) (none : s.delayedQ = []) :
      Stepped s .worker { s with phase := .wait false }
  | pops (r : Nat) (q : List Nat) (at' : s.phase = .pop) (running : s.isRunning = true)
      (front : s.q = r :: q) :
      Stepped s .worker { s with
        q := q
        freeList := r :: s.freeList
        popped := s.popped ++ [(s.records r).p]
        phase := .unlock r (s.records r).p }
  | skips (at' : s.phase = .pop) (running : s.isRunning = false) :
      Stepped s .worker { s with phase := .unlockElse }
  | unlocks (r p : Nat) (at' : s.phase = .unlock r p) :
      Stepped s .worker { s with phase := .process r p }
  | processes (r p : Nat) (at' : s.phase = .process r p) :
      Stepped s .worker { s with
        processed := s.processed ++ [(s.records r).p], phase := .processing }
  | goesOn (at' : s.phase = .processing ∨ s.phase = .unlockElse) :
      Stepped s .worker { s with phase := .outerTest }
  | leaves (at' : s.phase = .left) :
      Stepped s .worker { s with state := .stopped, phase := .finished }
  | moves (now : Int) (tops delayedQ q : List Nat) (at' : s.phase = .queues) (empty : s.q = [])
      (some' : s.delayedQ ≠ []) (moved : moveDue s.records now tops s.delayedQ [] = some (delayedQ, q)) :
      Stepped s (.delayed now tops) { s with
        delayedQ := delayedQ
        q := q
        phase := if q = [] ∧ delayedQ ≠ [] then .timedWait else .innerTest }
  | wakes (at' : (∃ signalled, s.phase = .wait signalled) ∨ s.phase = .timedWait) :
      Stepped s .wake { s with phase := .relock }

theorem stepped_of_worker {s s' : WorkerQueue} (stepped : s.worker = some s') :
    s.Stepped .worker s' := by
  simp only [worker] at stepped
  cases phase : s.phase with
  | started => exact Option.some.inj (by simpa [phase] using stepped) ▸ .begins phase
  | outerTest => exact Option.some.inj (by simpa [phase] using stepped) ▸ .outerTest phase
  | lock => exact Option.some.inj (by simpa [phase] using stepped) ▸ .locks (Or.inl phase)
  | relock => exact Option.some.inj (by simpa [phase] using stepped) ▸ .locks (Or.inr phase)
  | innerTest => exact Option.some.inj (by simpa [phase] using stepped) ▸ .innerTest phase
  | queues =>
      simp only [phase] at stepped
      split_ifs at stepped with full none
      · exact Option.some.inj stepped ▸ .finds phase full
      · exact Option.some.inj stepped ▸ .waits phase (not_not.mp full) none
  | pop =>
      simp only [phase] at stepped
      split_ifs at stepped with running
      · cases front : s.q with
        | nil => simp [front] at stepped
        | cons r q =>
            simp only [front, Option.some.injEq] at stepped
            exact stepped ▸ .pops r q phase running front
      · exact Option.some.inj stepped ▸ .skips phase (by simpa using running)
  | unlock r p => exact Option.some.inj (by simpa [phase] using stepped) ▸ .unlocks r p phase
  | process r p => exact Option.some.inj (by simpa [phase] using stepped) ▸ .processes r p phase
  | processing =>
      exact Option.some.inj (by simpa [phase] using stepped) ▸ .goesOn (Or.inl phase)
  | unlockElse =>
      exact Option.some.inj (by simpa [phase] using stepped) ▸ .goesOn (Or.inr phase)
  | left => exact Option.some.inj (by simpa [phase] using stepped) ▸ .leaves phase
  | wait signalled => simp [phase] at stepped
  | timedWait => simp [phase] at stepped
  | finished => simp [phase] at stepped

theorem stepped_of_step {s s' : WorkerQueue} {event : QueueEvent} (stepped : s.step event = some s') :
    s.Stepped event s' := by
  cases event with
  | add p =>
      obtain ⟨free, shape⟩ := Option.ite_none_left_eq_some.mp stepped
      exact Option.some.inj shape ▸ .add p (by simpa using free)
  | addDelayed p delay now top =>
      obtain ⟨free, shape⟩ := Option.ite_none_left_eq_some.mp stepped
      have free : s.phase.holds = false := by simpa using free
      simp only [WorkerQueue.addDelayed] at shape
      split_ifs at shape
      · exact Option.some.inj shape ▸ .addNow p delay now top free
      · exact Option.some.inj shape ▸ .addDelayed p delay now top _ free
  | stop =>
      simp only [step] at stepped
      split_ifs at stepped with running
      · exact Option.some.inj stepped ▸ .stops running
      · exact Option.some.inj stepped ▸ .stopFails running
  | waitUntilStopped =>
      simp only [step] at stepped
      cases stop : s.stop with
      | none => simp [stop] at stepped
      | some phase =>
          cases phase with
          | signal =>
              simp only [stop, Option.some.injEq] at stepped
              exact stepped ▸ .signals stop
          | poll =>
              simp only [stop] at stepped
              split_ifs at stepped with stopping
              · exact Option.some.inj stepped ▸ .polls stop stopping
              · exact Option.some.inj stepped ▸ .stopReturns stop stopping
          | returned => simp [stop] at stepped
  | worker => exact stepped_of_worker stepped
  | delayed now tops =>
      obtain ⟨⟨at', empty, some'⟩, shape⟩ := Option.ite_none_right_eq_some.mp stepped
      obtain ⟨⟨delayedQ, q⟩, moved, shape⟩ := Option.map_eq_some_iff.mp shape
      exact shape ▸ .moves now tops delayedQ q at' empty some' moved
  | wake =>
      simp only [step] at stepped
      cases phase : s.phase with
      | wait signalled =>
          simp only [phase, Option.some.injEq] at stepped
          exact stepped ▸ .wakes (Or.inl ⟨signalled, phase⟩)
      | timedWait =>
          simp only [phase, Option.some.injEq] at stepped
          exact stepped ▸ .wakes (Or.inr phase)
      | _ => simp [phase] at stepped

end WorkerQueue

end RildHisi.MockRil
