import RildHisi.Libril.EventRings

/-!
Owns when the deletion of an event is final. `ril_event_del` clears one slot of the table
and looks at no list, so an event that already waits in `pending_list` is called all the same
(`Sound.calls_deleted`); where the event is in no list and has no second slot, nothing
leads to its function until it is added again, whatever other callers do
(`deletion_final`).
-/

namespace RildHisi.Libril

open RildHisi.Library

namespace EventMemory

variable {ε : Type} {s s' : EventMemory ε} {ev : ε} {fuel : Nat}

/-- Nothing leads to the function of the event: no slot, no pointer, nor `firePending`. -/
structure Gone (s : EventMemory ε) (ev : ε) : Prop where
  unwatched : ¬ s.watches.Watched ev
  unreferenced : s.links.Unreferenced (.event ev)
  point : s.point ≠ .firing (.event ev)

/-- The step calls the function of the event. -/
def Calls (s : EventMemory ε) (op : MemoryOp ε) (ev : ε) : Prop :=
  op = .fireNext ∧ s.point = .firing (.event ev)

theorem Gone.not_calls (gone : s.Gone ev) (op : MemoryOp ε) : ¬ s.Calls op ev :=
  fun calls => gone.point calls.2

section Steps

variable [DecidableEq ε] {links links' : Links (EventPointer ε)}

theorem unreferenced_addToList (unreferenced : links.Unreferenced (.event ev))
    {node list : EventPointer ε} (node_ne : node ≠ .event ev) (list_ne : list ≠ .event ev)
    (added : addToList links node list = some links') : links'.Unreferenced (.event ev) := by
  obtain ⟨-, rfl⟩ := addToList_eq_some.mp added
  exact unreferenced.insertBefore node_ne list_ne

theorem unreferenced_removeFromList (unreferenced : links.Unreferenced (.event ev))
    {node : EventPointer ε} (removed : removeFromList links node = some links') :
    links'.Unreferenced (.event ev) := by
  obtain ⟨-, rfl⟩ := removeFromList_eq_some.mp removed
  exact unreferenced.remove (by simp) node

/-- The loop of `ril_timer_add` only follows pointers. -/
theorem insertionPoint_ne (unreferenced : links.Unreferenced (.event ev))
    {timeouts : EventPointer ε → Timeval} {timeout : Timeval} {list place : EventPointer ε}
    (list_ne : list ≠ .event ev)
    (found : insertionPoint timeouts links timeout fuel list = some place) :
    place ≠ .event ev := by
  induction fuel generalizing list with
  | zero => cases found
  | succ fuel inductionHypothesis =>
      unfold insertionPoint at found
      split_ifs at found with null earlier
      · exact inductionHypothesis (unreferenced list).1 found
      · exact Option.some.inj found ▸ list_ne

/-- So does that of `processTimeouts`, and it moves only what it has reached. -/
theorem unreferenced_expire (unreferenced : links.Unreferenced (.event ev))
    {timeouts : EventPointer ε → Timeval} {now : Timeval} {tev : EventPointer ε}
    (tev_ne : tev ≠ .event ev) (ended : expire timeouts now fuel tev links = some links') :
    links'.Unreferenced (.event ev) := by
  induction fuel generalizing tev links with
  | zero => cases ended
  | succ fuel inductionHypothesis =>
      unfold expire at ended
      split_ifs at ended with last null expired
      · exact Option.some.inj ended ▸ unreferenced
      · obtain ⟨moved, appended, rest⟩ := Option.bind_eq_some_iff.mp ended
        obtain ⟨removed, taken, added⟩ := Option.bind_eq_some_iff.mp appended
        apply inductionHypothesis _ (unreferenced tev).1 rest
        apply unreferenced_addToList _ tev_ne (by simp) added
        exact unreferenced_removeFromList unreferenced taken
      · exact Option.some.inj ended ▸ unreferenced

theorem unreferenced_readies (unreferenced : links.Unreferenced (.event ev)) {fired : List ε}
    (fresh : ev ∉ fired) (appended : fired.foldlM (fun links rev =>
      addToList links (.event rev) .pendingList) links = some links') :
    links'.Unreferenced (.event ev) := by
  induction fired generalizing links with
  | nil => exact Option.some.inj appended ▸ unreferenced
  | cons rev fired inductionHypothesis =>
      rw [List.mem_cons, not_or] at fresh
      obtain ⟨next, added, rest⟩ := Option.bind_eq_some_iff.mp appended
      have rev_ne : EventPointer.event rev ≠ .event ev :=
        fun same => fresh.1 (EventPointer.event.inj same).symm
      exact inductionHypothesis (unreferenced_addToList unreferenced rev_ne (by simp) added) fresh.2 rest

theorem Gone.rilTimerAdd (gone : s.Gone ev) {other : ε} {tv : Option Timeval} {now : Timeval}
    (apart : ¬ (MemoryOp.rilTimerAdd other tv now).Adds ev)
    (returned : s.rilTimerAdd fuel other tv now = some s') : s'.Gone ev := by
  cases tv with
  | none => exact Option.some.inj returned ▸ gone
  | some tv =>
      obtain ⟨list, found, rest⟩ := Option.bind_eq_some_iff.mp returned
      obtain ⟨links, added, rfl⟩ := Option.map_eq_some_iff.mp rest
      have other_ne : EventPointer.event other ≠ .event ev :=
        fun same => apart ⟨EventPointer.event.inj same, by simp⟩
      refine ⟨gone.unwatched, ?_, gone.point⟩
      apply unreferenced_addToList gone.unreferenced other_ne _ added
      exact insertionPoint_ne gone.unreferenced (gone.unreferenced .timerList).1 found

theorem Gone.processReadReadies (gone : s.Gone ev) {rfds : Finset Int}
    (returned : s.processReadReadies rfds = some s') : s'.Gone ev := by
  obtain ⟨fired, watches', sublist, -, -, watched, same⟩ := s.processReadReadies_eq rfds
  rw [same] at returned
  obtain ⟨links, appended, rfl⟩ := Option.map_eq_some_iff.mp returned
  have fresh : ev ∉ fired := fun member =>
    gone.unwatched (Watches.watched_of_mem_readies (sublist.mem member))
  exact ⟨fun still => gone.unwatched (watched ev still),
    unreferenced_readies gone.unreferenced fresh appended, by simp⟩

theorem Gone.fireNext (gone : s.Gone ev) {node : EventPointer ε}
    (returned : s.fireNext node = some s') : s'.Gone ev := by
  cases node with
  | null | timerList => cases returned
  | pendingList =>
      obtain rfl := Option.some.inj returned
      exact ⟨gone.unwatched, gone.unreferenced, by simp⟩
  | event other =>
      obtain ⟨links, removed, rfl⟩ := Option.map_eq_some_iff.mp returned
      refine ⟨gone.unwatched, unreferenced_removeFromList gone.unreferenced removed, ?_⟩
      exact fun here => (gone.unreferenced (.event other)).1 (RoundPoint.firing.inj here)

/-- `ril_event_add` of another event. -/
theorem Gone.rilEventAdd (gone : s.Gone ev) {other : ε} (apart : other ≠ ev) :
    Gone { s with watches := s.watches.rilEventAdd other } ev := by
  refine ⟨fun watched => gone.unwatched ?_, gone.unreferenced, gone.point⟩
  unfold Watches.rilEventAdd at watched
  cases free : s.watches.watchTable.findIdx? Option.isNone with
  | none => simpa only [free] using watched
  | some i =>
      simp only [free] at watched
      rcases List.mem_or_eq_of_mem_set watched with listed | added
      · exact listed
      · exact absurd (Option.some.inj added).symm apart

theorem Gone.rilEventDel (gone : s.Gone ev) (other : ε) :
    Gone { s with watches := s.watches.rilEventDel other } ev := by
  refine ⟨fun watched => gone.unwatched ?_, gone.unreferenced, gone.point⟩
  unfold Watches.rilEventDel at watched
  simp only at watched
  split_ifs at watched with early
  · exact watched
  · exact Watches.watched_of_removeWatch other _ watched

/-- **One step** brings nothing back that is not added. -/
theorem Gone.step (gone : s.Gone ev) {op : MemoryOp ε} (apart : ¬ op.Adds ev)
    (stepped : step fuel s op = some s') : s'.Gone ev := by
  cases op with
  | rilEventSet other fd persist =>
      obtain rfl := Option.some.inj stepped
      exact ⟨gone.unwatched, gone.unreferenced.clear (by simp) _, gone.point⟩
  | rilEventAdd other =>
      obtain ⟨-, rfl⟩ := step_rilEventAdd_iff.mp stepped
      exact gone.rilEventAdd apart
  | rilEventDel other =>
      obtain ⟨-, rfl⟩ := step_rilEventDel_iff.mp stepped
      exact gone.rilEventDel other
  | rilTimerAdd other tv now =>
      obtain ⟨-, returned⟩ := acquire_eq_some.mp stepped
      exact gone.rilTimerAdd apart returned
  | select rfds =>
      obtain ⟨-, rfl⟩ := step_select_iff.mp stepped
      exact ⟨gone.unwatched, gone.unreferenced, by simp⟩
  | processTimeouts now =>
      obtain ⟨rfds, links, -, -, ended, rfl⟩ := step_processTimeouts_iff.mp stepped
      exact ⟨gone.unwatched, unreferenced_expire gone.unreferenced
        (gone.unreferenced .timerList).1 ended, by simp⟩
  | processReadReadies =>
      obtain ⟨rfds, -, -, returned⟩ := step_processReadReadies_iff.mp stepped
      exact gone.processReadReadies returned
  | firePending =>
      obtain ⟨-, rfl⟩ := step_firePending_iff.mp stepped
      refine ⟨gone.unwatched, gone.unreferenced, fun here => ?_⟩
      exact (gone.unreferenced .pendingList).1 (RoundPoint.firing.inj here)
  | fireNext =>
      obtain ⟨node, -, returned⟩ := step_fireNext_iff.mp stepped
      exact gone.fireNext returned

/-! ### Deletion -/

/-- `ril_event_del` is for an event that waits in no list, and has no slot but that of its
index. -/
def DeletesUnqueued (s : EventMemory ε) : MemoryOp ε → Prop
  | .rilEventDel ev => s.links.Unreferenced (.event ev) ∧ s.point ≠ .firing (.event ev) ∧
      ∀ i < s.watches.watchTable.length, s.watches.watchTable[i]? = some (some ev) →
        (s.watches.events ev).index = i
  | _ => True

instance [Fintype ε] : Fintype (EventPointer ε) where
  elems := {.null, .timerList, .pendingList} ∪ Finset.univ.image .event
  complete := fun node => by cases node <;> simp

instance [Fintype ε] (s : EventMemory ε) : DecidablePred s.DeletesUnqueued := fun op =>
  match op with
  | .rilEventDel ev => inferInstanceAs (Decidable
      ((∀ node, s.links.next node ≠ .event ev ∧ s.links.prev node ≠ .event ev) ∧
        s.point ≠ .firing (.event ev) ∧ ∀ i < s.watches.watchTable.length,
          s.watches.watchTable[i]? = some (some ev) → (s.watches.events ev).index = i))
  | .rilEventSet _ _ _ | .rilEventAdd _ | .rilTimerAdd _ _ _ | .select _ | .processTimeouts _
  | .processReadReadies | .firePending | .fireNext => inferInstanceAs (Decidable True)

theorem gone_of_rilEventDel (length : s.watches.watchTable.length = maxFdEvents)
    (unqueued : s.DeletesUnqueued (.rilEventDel ev))
    (stepped : step fuel s (.rilEventDel ev) = some s') : s'.Gone ev := by
  obtain ⟨unreferenced, notNext, only⟩ := unqueued
  obtain ⟨-, rfl⟩ := step_rilEventDel_iff.mp stepped
  refine ⟨fun watched => ?_, unreferenced, notNext⟩
  obtain ⟨i, slot⟩ := Watches.watched_iff.mp watched
  unfold Watches.rilEventDel at slot
  simp only at slot
  split_ifs at slot with early
  · have inside : i < s.watches.watchTable.length := (List.getElem?_eq_some_iff.mp slot).1
    have own := only i inside slot
    omega
  · have slot' : (s.watches.watchTable.set (s.watches.events ev).index.toNat none)[i]? =
        some (some ev) := slot
    rw [List.getElem?_set] at slot'
    split_ifs at slot' with here inside
    · cases slot'
    · have own := only i (List.getElem?_eq_some_iff.mp slot').1 slot'
      omega

end Steps

/-! ### Runs -/

variable [DecidableEq ε]

/-- `firePending` comes to every event that waits. -/
theorem Sound.comes_to {timers front back : List ε} (sound : s.Sound timers (front ++ ev :: back))
    {node : EventPointer ε} (here : s.point = .firing node) :
    ∃ s', run (EventMemory.step fuel) s (List.replicate front.length .fireNext) = some s' ∧
      s'.point = .firing (.event ev) := by
  induction front generalizing s node with
  | nil => exact ⟨s, rfl, by rw [here, sound.firing node here]; rfl⟩
  | cons first front inductionHypothesis =>
      obtain ⟨next, fired, sound', point⟩ := sound.fireNext_cons here
      obtain ⟨s', rest, reached⟩ := inductionHypothesis sound' point
      refine ⟨s', ?_, reached⟩
      have stepped : EventMemory.step fuel s .fireNext = some next :=
        step_fireNext_iff.mpr ⟨node, here, fired⟩
      rw [List.length_cons, List.replicate_succ, run_cons, stepped]
      exact rest

/-- **A deletion that comes too late**: an event that waits behind the function that deletes
it is called as soon as those in front of it are. -/
theorem Sound.calls_deleted {timers front back : List ε}
    (sound : s.Sound timers (front ++ ev :: back)) {node : EventPointer ε}
    (here : s.point = .firing node) (stepped : EventMemory.step fuel s (.rilEventDel ev) = some s') :
    ∃ s'', run (EventMemory.step fuel) s' (List.replicate front.length .fireNext) = some s'' ∧
      s''.Calls .fireNext ev := by
  obtain ⟨-, rfl⟩ := step_rilEventDel_iff.mp stepped
  have sound' : Sound { s with watches := s.watches.rilEventDel ev } timers (front ++ ev :: back) :=
    sound.of_links rfl fun _ point => point
  obtain ⟨s'', reached, point⟩ := sound'.comes_to here
  exact ⟨s'', reached, rfl, point⟩

theorem length_of_run {ops : List (MemoryOp ε)}
    (ran : run (step fuel) rilEventInit ops = some s) :
    s.watches.watchTable.length = maxFdEvents := by
  have preserved : ∀ (s : EventMemory ε) op s', s.watches.watchTable.length = maxFdEvents →
      step fuel s op = some s' → s'.watches.watchTable.length = maxFdEvents :=
    fun _ _ _ length stepped => (frame_of_step stepped).1.trans length
  exact run_invariant preserved List.length_replicate ran

/-- **Deletion is final where the event is not queued**: in every run in which each
`ril_event_del` is for an event that waits in no list and has no second slot, the function
of a deleted event is not called before the event is added again. -/
theorem deletion_final {ops : List (MemoryOp ε)}
    (ran : run (step fuel) rilEventInit ops = some s)
    (unqueued : StepsMeet (step fuel) DeletesUnqueued rilEventInit ops) (ev : ε)
    (deleted : HappenedSince (step fuel) (fun _ op => op = .rilEventDel ev) (MemoryOp.Adds ev)
      rilEventInit ops) (op : MemoryOp ε) : ¬ s.Calls op ev := by
  obtain ⟨front, del, back, before, rfl, reached, rfl, kept⟩ := deleted
  rw [run_append, reached, Option.bind_some, run_cons] at ran
  obtain ⟨after, stepped, rest⟩ := Option.bind_eq_some_iff.mp ran
  have gone : after.Gone ev :=
    gone_of_rilEventDel (length_of_run reached) (stepsMeet_split unqueued reached).1 stepped
  have apart : StepsMeet (step fuel) (fun _ op => ¬ op.Adds ev) after back :=
    stepsMeet_of_always (fun op member _ => kept op member) after
  have preserved : ∀ (s : EventMemory ε) op s', s.Gone ev → ¬ op.Adds ev →
      step fuel s op = some s' → s'.Gone ev := fun _ _ _ gone others stepped =>
    gone.step others stepped
  exact (run_invariant_of_stepsMeet preserved gone apart rest).not_calls op

/-- Three events are watched, and the function of the first deletes the third. -/
def unqueuedDeletion : List (MemoryOp (Fin 3)) :=
  [.rilEventSet 0 3 true, .rilEventSet 1 4 false, .rilEventSet 2 5 true, .rilEventAdd 0,
    .rilEventAdd 1, .rilEventAdd 2, .select {3, 4}, .processTimeouts ⟨0, 0⟩,
    .processReadReadies, .firePending, .fireNext, .rilEventDel 2, .fireNext, .fireNext]

theorem deletion_final_unqueuedDeletion : ∃ s : EventMemory (Fin 3),
    run (step 8) rilEventInit unqueuedDeletion = some s ∧ ¬ s.Calls .fireNext 2 := by
  have ends : (run (step 8) rilEventInit unqueuedDeletion).isSome = true := by decide +kernel
  have reaches : (run (step 8) rilEventInit (unqueuedDeletion.take 11)).isSome = true := by
    decide +kernel
  obtain ⟨s, ran⟩ := Option.isSome_iff_exists.mp ends
  obtain ⟨before, reached⟩ := Option.isSome_iff_exists.mp reaches
  refine ⟨s, ran, deletion_final ran (by decide +kernel) 2 ?_ .fireNext⟩
  exact ⟨unqueuedDeletion.take 11, .rilEventDel 2, [.fireNext, .fireNext], before, rfl, reached,
    rfl, by simp [MemoryOp.Adds]⟩

/-- The same, where the third event is ready as well. -/
def queuedDeletion : List (MemoryOp (Fin 3)) :=
  [.rilEventSet 0 3 true, .rilEventSet 1 4 false, .rilEventSet 2 5 true, .rilEventAdd 0,
    .rilEventAdd 1, .rilEventAdd 2, .select {3, 4, 5}, .processTimeouts ⟨0, 0⟩,
    .processReadReadies, .firePending, .fireNext, .rilEventDel 2, .fireNext]

/-- A deleted event is called: it waited behind the one whose function deleted it. -/
theorem queuedDeletion_calls : ∃ s : EventMemory (Fin 3),
    run (step 8) rilEventInit queuedDeletion = some s ∧
    HappenedSince (step 8) (fun _ op => op = .rilEventDel 2) (MemoryOp.Adds 2) rilEventInit
      queuedDeletion ∧ s.Calls .fireNext 2 ∧ (step 8 s .fireNext).isSome = true := by
  have reaches : (run (step 8) rilEventInit (queuedDeletion.take 11)).isSome = true := by
    decide +kernel
  have ends : (run (step 8) rilEventInit queuedDeletion).any (fun s =>
      decide (s.point = .firing (.event 2)) && (step 8 s .fireNext).isSome) = true := by
    decide +kernel
  obtain ⟨before, reached⟩ := Option.isSome_iff_exists.mp reaches
  obtain ⟨s, ran, queued⟩ := (Option.any_eq_true _ _).mp ends
  obtain ⟨point, returns⟩ := Bool.and_eq_true_iff.mp queued
  exact ⟨s, ran, ⟨queuedDeletion.take 11, .rilEventDel 2, [.fireNext], before, rfl, reached, rfl,
    by simp [MemoryOp.Adds]⟩, ⟨rfl, of_decide_eq_true point⟩, returns⟩

end EventMemory

end RildHisi.Libril
