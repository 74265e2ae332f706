import Mathlib.Logic.Basic

/-!
Owns `state_` of `WorkerThread` in worker.cpp, and how it goes with the thread: `Work` sets
it when the thread starts and when it has finished, and `BeginStopping` in between.
-/

namespace RildHisi.MockRil

/-- `state_`. -/
inductive ThreadState
  | initialized
  | running
  | stopping
  | stopped
  deriving DecidableEq

/-- A thread that has yet to start, has finished, or that a `Stop` has told to stop. -/
structure ThreadState.Steady (state : ThreadState) (started finished stops : Prop) : Prop where
  started : started → ¬ stops ∧ state = .initialized
  stopping : stops → state = .stopping ∨ state = .stopped
  finished : state = .stopped ↔ finished

namespace ThreadState.Steady

variable {state : ThreadState} {started finished stops started' finished' stops' : Prop}

theorem not_running (steady : state.Steady started finished stops) (told : stops) :
    state ≠ .running := by
  rcases steady.stopping told with same | same <;> simp [same]

theorem congr (steady : state.Steady started finished stops) (fewer : started' → started)
    (sameEnd : finished' ↔ finished) (sameStop : stops' ↔ stops) :
    state.Steady started' finished' stops' where
  started now := by
    rw [sameStop]
    exact steady.started (fewer now)
  stopping told := steady.stopping (sameStop.mp told)
  finished := steady.finished.trans sameEnd.symm

/-- `BeginStopping` succeeds. -/
theorem beginStopping (steady : state.Steady started finished stops) (running : state = .running) :
    ThreadState.stopping.Steady started finished stops' where
  started now := by
    rw [(steady.started now).2] at running
    cases running
  stopping _ := Or.inl rfl
  finished := by
    refine iff_of_false (by simp) fun done => ?_
    rw [steady.finished.mpr done] at running
    cases running

/-- `Work` starts. -/
theorem begins (steady : state.Steady started finished stops) (now : started)
    (later : ¬ started') (unfinished : ¬ finished') :
    ThreadState.running.Steady started' finished' stops where
  started := fun first => absurd first later
  stopping told := absurd told (steady.started now).1
  finished := iff_of_false (by simp) unfinished

/-- `Work` has finished. -/
theorem leaves (later : ¬ started') (done : finished') :
    ThreadState.stopped.Steady started' finished' stops where
  started := fun first => absurd first later
  stopping _ := Or.inr rfl
  finished := iff_of_true rfl done

end ThreadState.Steady

end RildHisi.MockRil
