import RildHisi.Libril.EventRings

/-!
Owns `listMutex`: every call in ril_event.cpp but one leaves it free. `ril_event_del` of an
event without a slot returns with the mutex locked, and the event loop stops at its next
round; where each deletion finds a slot by the index of its event, every call returns
with the mutex free (`listMutex_free_iff`).
-/

namespace RildHisi.Libril

open RildHisi.Library

namespace EventMemory

variable {ε : Type} {s s' : EventMemory ε} {fuel : Nat}

/-- The index of the event that `ril_event_del` is for is that of a slot, and if the event
has none, of an empty one. -/
def DeletesSlot (s : EventMemory ε) : MemoryOp ε → Prop
  | .rilEventDel ev =>
      (0 ≤ (s.watches.events ev).index ∧ (s.watches.events ev).index < maxFdEvents) ∧
        (¬ s.watches.Watched ev →
          s.watches.watchTable[(s.watches.events ev).index.toNat]?.join = none)
  | _ => True

/-- The call has returned with the mutex free, and if it was the deletion of an event that
is not watched, with the table and the timers as they were. -/
structure ReturnsFree (before : EventMemory ε) (op : MemoryOp ε) (after : EventMemory ε) : Prop where
  listMutex : after.watches.listMutex = false
  unwatched : ∀ ev, op = .rilEventDel ev → ¬ before.watches.Watched ev →
    after.watches.watchTable = before.watches.watchTable ∧ after.links = before.links ∧
      after.timeout = before.timeout

/-- Only an empty slot may be cleared unnoticed. -/
theorem set_none_eq_iff {table : List (Option ε)} {i : Nat} :
    table.set i none = table ↔ table[i]?.join = none := by
  constructor
  · intro same
    rw [← same, List.getElem?_set_self']
    cases table[i]? <;> rfl
  · intro empty
    apply List.ext_getElem?
    intro j
    rw [List.getElem?_set]
    split_ifs with here inside
    · subst here
      rw [List.getElem?_eq_getElem inside] at empty ⊢
      exact congrArg some empty.symm
    · subst here
      exact (List.getElem?_eq_none (by omega)).symm
    · rfl

variable [DecidableEq ε]

/-- **One step** that is made with the mutex free leaves it free exactly if it deletes
nothing or finds a slot. -/
theorem deletesSlot_iff {op : MemoryOp ε} (free : s.watches.listMutex = false)
    (stepped : step fuel s op = some s') : s.DeletesSlot op ↔ s.ReturnsFree op s' := by
  by_cases deletes : ∃ ev, op = .rilEventDel ev
  case neg =>
    have others : ∀ ev, op ≠ .rilEventDel ev := fun ev same => deletes ⟨ev, same⟩
    have returns : s.ReturnsFree op s' :=
      ⟨((frame_of_step stepped).2 others).trans free, fun ev same => absurd same (others ev)⟩
    refine iff_of_true ?_ returns
    cases op with
    | rilEventDel ev => exact absurd rfl (others ev)
    | _ => trivial
  obtain ⟨ev, rfl⟩ := deletes
  obtain ⟨-, rfl⟩ := step_rilEventDel_iff.mp stepped
  by_cases early : (s.watches.events ev).index < 0 ∨
      (maxFdEvents : Int) ≤ (s.watches.events ev).index
  · have locked : (s.watches.rilEventDel ev).listMutex = true := by
      simp only [Watches.rilEventDel, if_pos early]
    refine iff_of_false (fun slot => ?_) fun returns => ?_
    · obtain ⟨inside, -⟩ := slot
      omega
    · cases locked.symm.trans returns.listMutex
  · have same : s.watches.rilEventDel ev =
        s.watches.removeWatch ev (s.watches.events ev).index.toNat := by
      simp only [Watches.rilEventDel, if_neg early]
    have inside : 0 ≤ (s.watches.events ev).index ∧
        (s.watches.events ev).index < maxFdEvents := by omega
    rw [same]
    constructor
    · rintro ⟨-, empty⟩
      refine ⟨free, fun other here unwatched => ?_⟩
      obtain rfl := MemoryOp.rilEventDel.inj here
      exact ⟨set_none_eq_iff.mpr (empty unwatched), rfl, rfl⟩
    · intro returns
      refine ⟨inside, fun unwatched => ?_⟩
      exact set_none_eq_iff.mp (returns.unwatched ev rfl unwatched).1

/-- **The mutex in every run** whose calls return: each has returned with `listMutex` free, and
the deletion of an event that is not watched with the table and the timers as they were,
exactly if every deletion finds a slot. In such a run every further call returns as well, as
long as none puts an event into a list, or clears it, while it is in one. -/
theorem listMutex_free_iff {ops : List (MemoryOp ε)}
    (ran : run (step fuel) rilEventInit ops = some s) :
    (StepsMeet (step fuel) DeletesSlot rilEventInit ops ↔
      ∀ front op back before after, ops = front ++ op :: back →
        run (step fuel) rilEventInit front = some before → step fuel before op = some after →
        before.ReturnsFree op after) ∧
    (StepsMeet (step fuel) (fun s op => s.DeletesSlot op ∧ s.PutsUnlisted op) rilEventInit ops →
      ∀ op, s.Due op → s.DeletesSlot op → s.PutsUnlisted op →
        ∃ enough, ∀ fuel' ≥ enough, ∃ after,
          step fuel' s op = some after ∧ s.ReturnsFree op after) := by
  have exact : ∀ (s : EventMemory ε) op s', s.watches.listMutex = false →
      step fuel s op = some s' → (s.DeletesSlot op ↔ s.ReturnsFree op s') :=
    fun _ _ _ free stepped => deletesSlot_iff free stepped
  constructor
  · exact stepsMeet_iff_transitions exact (fun _ _ _ _ _ returns => returns.listMutex) rfl ran
  · intro met op due slot unlisted
    have preserved : ∀ (s : EventMemory ε) op s',
        (s.watches.listMutex = false ∧ ∃ timers pending, s.Sound timers pending) →
        s.DeletesSlot op ∧ s.PutsUnlisted op → step fuel s op = some s' →
        s'.watches.listMutex = false ∧ ∃ timers pending, s'.Sound timers pending := by
      rintro s op s' ⟨free, timers, pending, sound⟩ ⟨slot, unlisted⟩ stepped
      exact ⟨((exact s op s' free stepped).mp slot).listMutex,
        sound.of_step unlisted free stepped⟩
    obtain ⟨free, timers, pending, sound⟩ :=
      run_invariant_of_stepsMeet preserved ⟨rfl, [], [], sound_rilEventInit⟩ met ran
    refine ⟨timers.length + 1, fun fuel' more => ?_⟩
    have enough : timers.length < fuel' := by omega
    obtain ⟨after, -, -, returned, -⟩ := sound.step due unlisted free enough
    exact ⟨after, returned, (deletesSlot_iff free returned).mp slot⟩

instance (s : EventMemory ε) : DecidablePred s.DeletesSlot := fun op =>
  match op with
  | .rilEventDel _ => inferInstanceAs (Decidable ((_ ∧ _) ∧ (_ → _)))
  | .rilEventSet _ _ _ | .rilEventAdd _ | .rilTimerAdd _ _ _ | .select _ | .processTimeouts _
  | .processReadReadies | .firePending | .fireNext => inferInstanceAs (Decidable True)

/-- A timer and an event that deletes itself in its function; it is persistent. -/
def persistentDeletion : List (MemoryOp Nat) :=
  [.rilEventSet 0 3 true, .rilEventSet 1 4 false, .rilEventAdd 0, .rilEventAdd 1,
    .rilEventSet 2 (-1) false, .rilTimerAdd 2 (some ⟨1, 0⟩) ⟨5, 0⟩, .select {3},
    .processTimeouts ⟨7, 0⟩, .processReadReadies, .firePending, .fireNext, .fireNext,
    .rilEventDel 0, .rilEventDel 1, .fireNext]

theorem listMutex_free_persistentDeletion : ∃ s : EventMemory Nat,
    run (step 8) rilEventInit persistentDeletion = some s ∧
    (∀ front op back before after, persistentDeletion = front ++ op :: back →
      run (step 8) rilEventInit front = some before → step 8 before op = some after →
      before.ReturnsFree op after) ∧
    ∃ enough, ∀ fuel' ≥ enough, ∃ after,
      step fuel' s (.rilEventAdd 1) = some after ∧ s.ReturnsFree (.rilEventAdd 1) after := by
  have ends : (run (step 8) rilEventInit persistentDeletion).isSome = true := by decide +kernel
  obtain ⟨s, ran⟩ := Option.isSome_iff_exists.mp ends
  obtain ⟨along, next⟩ := listMutex_free_iff ran
  exact ⟨s, ran, along.mp (by decide +kernel),
    next (by decide +kernel) (.rilEventAdd 1) trivial trivial trivial⟩

/-- The function of an event that is not persistent deletes it. -/
def selfDeletion : List (MemoryOp Nat) :=
  [.rilEventSet 0 3 false, .rilEventAdd 0, .select {3}, .processTimeouts ⟨0, 0⟩,
    .processReadReadies, .firePending, .fireNext, .rilEventDel 0]

/-- The deletion of an event that the loop has taken out of the table locks the mutex for
good: every later call that needs it waits for ever. -/
theorem selfDeletion_locks : ∃ s : EventMemory Nat,
    run (step 8) rilEventInit selfDeletion = some s ∧ s.watches.listMutex = true ∧
    ∀ fuel ev, step fuel s (.rilEventAdd ev) = none := by
  have ends : (run (step 8) rilEventInit selfDeletion).any (fun s => s.watches.listMutex) = true := by
    decide +kernel
  obtain ⟨s, ran, locked⟩ := (Option.any_eq_true _ _).mp ends
  exact ⟨s, ran, locked, fun fuel ev => if_pos locked⟩

end EventMemory

end RildHisi.Libril
