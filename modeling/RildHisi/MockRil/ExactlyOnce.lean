import RildHisi.Library.FreeList
import RildHisi.MockRil.WorkerQueue

/-!
Owns what becomes of the pointers added to a work queue. The worker reads the record
once more behind the unlock, when it is in the free list already; whether `Process`
is called with the pointer that was popped depends on who obtains the record in
between (`exactlyOnce_iff`).
-/

namespace RildHisi.MockRil

open RildHisi.Library

/-- The record between its pop and the call of `Process`, and what it held. -/
def WorkerPhase.hand : WorkerPhase → Option (Nat × Nat)
  | .unlock r p | .process r p => some (r, p)
  | _ => none

@[simp] theorem WorkerPhase.hand_signal (phase : WorkerPhase) : phase.signal.hand = phase.hand := by
  cases phase <;> rfl

theorem WorkerPhase.hand_ite (condition : Prop) [Decidable condition] {first second : WorkerPhase}
    (firstEmpty : first.hand = none) (secondEmpty : second.hand = none) :
    (if condition then first else second).hand = none := by
  split_ifs
  · exact firstEmpty
  · exact secondEmpty

namespace WorkerQueue

/-- The pointer that `Process` is about to be called with. -/
def handed (s : WorkerQueue) : List Nat := s.phase.hand.toList.map fun hand => (s.records hand.1).p

/-- The pointers in `q_` and `delayed_q_`. -/
def queued (s : WorkerQueue) : List Nat := (s.q ++ s.delayedQ).map fun r => (s.records r).p

/-- No pointer is processed more often than it was added, each call of `Process` is for the
pointer that was popped, and what is not processed is in a queue or about to be. -/
structure ExactlyOnce (s : WorkerQueue) : Prop where
  once : ∀ p, s.processed.count p ≤ s.added.count p
  popped : s.processed ++ s.handed = s.popped
  kept : (s.processed ++ s.handed ++ s.queued).Perm s.added

/-- Nobody obtains the record, for another pointer, between the unlock and the read. -/
def ReadsFirst (s : WorkerQueue) (event : QueueEvent) : Prop :=
  ∀ r p, s.phase = .process r p → s.freeList.head? = some r →
    ∀ other, event.pointer = some other → other = p

/-! ### What a step does to the records -/

/-- All but `state_`, the stop and the phase. -/
def books (s : WorkerQueue) :
    (Nat → Record) × Nat × List Nat × List Nat × List Nat × List Nat × List Nat × List Nat :=
  (s.records, s.allocated, s.q, s.freeList, s.delayedQ, s.added, s.popped, s.processed)

/-- A record is obtained for the pointer and goes into one of the queues. -/
structure Pushes (s s' : WorkerQueue) (p : Nat) : Prop where
  records : ∃ time, s'.records = Function.update s.records s.obtained ⟨time, p⟩
  allocated : s'.allocated = if s.freeList = [] then s.allocated + 1 else s.allocated
  queues : (s'.q ++ s'.delayedQ).Perm (s.obtained :: (s.q ++ s.delayedQ))
  freeList : s'.freeList = s.freeList.tail
  added : s'.added = s.added ++ [p]
  popped : s'.popped = s.popped
  processed : s'.processed = s.processed
  hand : s'.phase.hand = s.phase.hand

inductive Changes (s s' : WorkerQueue) (event : QueueEvent) : Prop
  | quiet (adds : event.pointer = none) (hand : s'.phase.hand = s.phase.hand)
      (same : s'.books = s.books)
  | pushes (p : Nat) (given : event.pointer = some p) (free : s.phase.holds = false)
      (pushed : s.Pushes s' p)
  | moves (adds : event.pointer = none) (q delayedQ : List Nat)
      (moved : (q ++ delayedQ).Perm (s.q ++ s.delayedQ)) (hand : s'.phase.hand = s.phase.hand)
      (same : s'.books = { s with q := q, delayedQ := delayedQ }.books)
  | pops (adds : event.pointer = none) (r : Nat) (q : List Nat) (front : s.q = r :: q)
      (at' : s.phase.hand = none) (hand : s'.phase.hand = some (r, (s.records r).p))
      (same : s'.books = { s with
        q := q, freeList := r :: s.freeList, popped := s.popped ++ [(s.records r).p] }.books)
  | processes (adds : event.pointer = none) (r p : Nat) (at' : s.phase.hand = some (r, p))
      (hand : s'.phase.hand = none)
      (same : s'.books = { s with processed := s.processed ++ [(s.records r).p] }.books)

theorem moveDue_perm {records : Nat → Record} {now : Int} {tops delayedQ q delayedQ' q' : List Nat}
    (moved : moveDue records now tops delayedQ q = some (delayedQ', q')) :
    (q' ++ delayedQ').Perm (q ++ delayedQ) := by
  induction tops generalizing delayedQ q with
  | nil =>
      obtain ⟨-, same⟩ := Option.ite_none_right_eq_some.mp moved
      obtain ⟨rfl, rfl⟩ := Prod.mk.inj (Option.some.inj same)
      exact List.Perm.refl _
  | cons r tops inductionHypothesis =>
      obtain ⟨⟨top, -⟩, moved⟩ := Option.ite_none_right_eq_some.mp moved
      have rest := inductionHypothesis moved
      rw [List.append_assoc] at rest
      exact rest.trans ((List.perm_cons_erase top.1).symm.append_left q)

theorem pushes_add (s : WorkerQueue) (p : Nat) : s.Pushes (s.add p) p where
  records := ⟨0, rfl⟩
  allocated := rfl
  queues := by
    change (s.q ++ [s.obtained] ++ s.delayedQ).Perm _
    rw [List.append_assoc]
    exact List.perm_middle
  freeList := rfl
  added := rfl
  popped := rfl
  processed := rfl
  hand := by
    simp only [add, signal]
    split_ifs
    · exact WorkerPhase.hand_signal _
    · rfl

theorem pushes_addDelayed (s : WorkerQueue) (p : Nat) (time : Int) (condition : Bool) :
    s.Pushes (signal { s.obtainRecord p time with delayedQ := s.delayedQ ++ [s.obtained] }
      condition) p where
  records := ⟨time, rfl⟩
  allocated := rfl
  queues := by
    change (s.q ++ (s.delayedQ ++ [s.obtained])).Perm _
    rw [← List.append_assoc]
    exact List.perm_append_singleton ..
  freeList := rfl
  added := rfl
  popped := rfl
  processed := rfl
  hand := by
    simp only [signal]
    split_ifs
    · exact WorkerPhase.hand_signal _
    · rfl

theorem changes_step {s s' : WorkerQueue} {event : QueueEvent} (stepped : s.step event = some s') :
    s.Changes s' event := by
  cases stepped_of_step stepped with
  | add p free => exact .pushes p rfl free (pushes_add s p)
  | addNow p delay now top free => exact .pushes p rfl free (pushes_add s p)
  | addDelayed p delay now top condition free =>
      exact .pushes p rfl free (pushes_addDelayed s p (now + delay) condition)
  | moves now tops delayedQ q at' empty some' moved =>
      refine .moves rfl q delayedQ ?_ ?_ rfl
      · have same := moveDue_perm moved
        rwa [empty]
      · rw [at', WorkerPhase.hand_ite _ rfl rfl]
        rfl
  | pops r q at' running front => exact .pops rfl r q front (by rw [at']; rfl) rfl rfl
  | processes r p at' => exact .processes rfl r p (by rw [at']; rfl) rfl rfl
  | unlocks r p at' => exact .quiet rfl (by rw [at']; rfl) rfl
  | signals at' => exact .quiet rfl (WorkerPhase.hand_signal _) rfl
  | outerTest at' => exact .quiet rfl (by rw [at', WorkerPhase.hand_ite _ rfl rfl]; rfl) rfl
  | innerTest at' => exact .quiet rfl (by rw [at', WorkerPhase.hand_ite _ rfl rfl]; rfl) rfl
  | locks at' => rcases at' with at' | at' <;> exact .quiet rfl (by rw [at']; rfl) rfl
  | goesOn at' => rcases at' with at' | at' <;> exact .quiet rfl (by rw [at']; rfl) rfl
  | wakes at' => rcases at' with ⟨signalled, at'⟩ | at' <;> exact .quiet rfl (by rw [at']; rfl) rfl
  | begins at' => exact .quiet rfl (by rw [at']; rfl) rfl
  | finds at' full => exact .quiet rfl (by rw [at']; rfl) rfl
  | waits at' empty none => exact .quiet rfl (by rw [at']; rfl) rfl
  | skips at' running => exact .quiet rfl (by rw [at']; rfl) rfl
  | leaves at' => exact .quiet rfl (by rw [at']; rfl) rfl
  | stops at' => exact .quiet rfl rfl rfl
  | stopFails at' => exact .quiet rfl rfl rfl
  | polls at' stopping => exact .quiet rfl rfl rfl
  | stopReturns at' done => exact .quiet rfl rfl rfl

/-! ### Records are in one place -/

/-- No record is in two places, and the record in hand held the last pointer popped. -/
structure Sound (s : WorkerQueue) : Prop where
  nodup : (s.q ++ s.delayedQ ++ s.freeList).Nodup
  known : ∀ r ∈ s.q ++ s.delayedQ ++ s.freeList, r < s.allocated
  hand : ∀ r p, s.phase.hand = some (r, p) → r < s.allocated ∧ ∃ front, s.popped = front ++ [p]

theorem sound_initial : WorkerQueue.initial.Sound where
  nodup := List.nodup_nil
  known _ member := absurd member List.not_mem_nil
  hand _ _ hand := by cases hand

theorem Sound.apart {s : WorkerQueue} (sound : s.Sound) :
    Apart (s.q ++ s.delayedQ) s.freeList s.allocated :=
  ⟨sound.nodup, sound.known⟩

/-- A record that is obtained is in none of the queues. -/
theorem Sound.obtained_notMem {s : WorkerQueue} (sound : s.Sound) :
    s.obtained ∉ s.q ++ s.delayedQ :=
  sound.apart.nextCell_notMem

/-- Of the record in hand, the free list tells whether it is obtained next. -/
theorem Sound.obtained_eq_iff {s : WorkerQueue} (sound : s.Sound) {r p : Nat}
    (hand : s.phase.hand = some (r, p)) : s.obtained = r ↔ s.freeList.head? = some r :=
  nextCell_eq_iff (sound.hand r p hand).1

theorem sound_step {s s' : WorkerQueue} {event : QueueEvent} (sound : s.Sound)
    (stepped : s.step event = some s') : s'.Sound := by
  cases changes_step stepped with
  | quiet adds hand same =>
      simp only [books, Prod.mk.injEq] at same
      obtain ⟨-, allocated, q, freeList, delayedQ, -, popped, -⟩ := same
      refine ⟨?_, ?_, ?_⟩
      · rw [q, freeList, delayedQ]
        exact sound.nodup
      · rw [q, freeList, delayedQ, allocated]
        exact sound.known
      · rw [hand, allocated, popped]
        exact sound.hand
  | pushes p given free pushed =>
      have apart : Apart (s'.q ++ s'.delayedQ) s'.freeList s'.allocated := by
        rw [pushed.freeList, pushed.allocated]
        exact sound.apart.take.perm pushed.queues
      refine ⟨apart.nodup, apart.known, fun r p hand => ?_⟩
      rw [pushed.hand] at hand
      obtain ⟨below, last⟩ := sound.hand r p hand
      refine ⟨?_, pushed.popped ▸ last⟩
      rw [pushed.allocated]
      split_ifs
      · omega
      · exact below
  | moves adds q delayedQ moved hand same =>
      simp only [books, Prod.mk.injEq] at same
      obtain ⟨-, allocated, rfl, freeList, rfl, -, popped, -⟩ := same
      have apart : Apart (s'.q ++ s'.delayedQ) s'.freeList s'.allocated := by
        rw [freeList, allocated]
        exact sound.apart.perm moved
      refine ⟨apart.nodup, apart.known, ?_⟩
      rw [hand, allocated, popped]
      exact sound.hand
  | pops adds r q front at' hand same =>
      simp only [books, Prod.mk.injEq] at same
      obtain ⟨-, allocated, rfl, freeList, delayedQ, -, popped, -⟩ := same
      have used := sound.apart
      rw [front, List.cons_append] at used
      have apart : Apart (s'.q ++ s'.delayedQ) s'.freeList s'.allocated := by
        rw [delayedQ, freeList, allocated]
        exact used.release (List.Perm.refl _)
      refine ⟨apart.nodup, apart.known, fun other p taken => ?_⟩
      obtain ⟨rfl, rfl⟩ := Prod.mk.inj (Option.some.inj (hand.symm.trans taken))
      refine ⟨?_, s.popped, popped⟩
      rw [allocated]
      exact sound.known r (by simp [front])
  | processes adds r p at' hand same =>
      simp only [books, Prod.mk.injEq] at same
      obtain ⟨-, allocated, q, freeList, delayedQ, -, popped, -⟩ := same
      refine ⟨?_, ?_, fun r p taken => ?_⟩
      · rw [q, freeList, delayedQ]
        exact sound.nodup
      · rw [q, freeList, delayedQ, allocated]
        exact sound.known
      · rw [hand] at taken
        cases taken

/-! ### The pointer behind the unlock -/

theorem handed_of_hand {s : WorkerQueue} {r p : Nat} (hand : s.phase.hand = some (r, p)) :
    s.handed = [(s.records r).p] := by simp [handed, hand]

theorem handed_of_none {s : WorkerQueue} (hand : s.phase.hand = none) : s.handed = [] := by
  simp [handed, hand]

/-- In a good state the record in hand still holds the pointer that was popped. -/
theorem ExactlyOnce.holds {s : WorkerQueue} (exactly : s.ExactlyOnce) (sound : s.Sound) {r p : Nat}
    (hand : s.phase.hand = some (r, p)) : (s.records r).p = p := by
  obtain ⟨-, front, popped⟩ := sound.hand r p hand
  have same := exactly.popped
  rw [handed_of_hand hand, popped] at same
  exact List.singleton_inj.mp (List.append_inj' same rfl).2

/-- What is kept bounds what is processed. -/
theorem ExactlyOnce.of_kept {s : WorkerQueue} (popped : s.processed ++ s.handed = s.popped)
    (kept : (s.processed ++ s.handed ++ s.queued).Perm s.added) : s.ExactlyOnce where
  once p := by
    rw [← kept.count_eq p, List.count_append, List.count_append]
    omega
  popped := popped
  kept := kept

/-- The new pointer is the one in the record obtained. -/
theorem Pushes.queued {s s' : WorkerQueue} {p : Nat} (pushed : s.Pushes s' p) (sound : s.Sound) :
    s'.queued.Perm (s.queued ++ [p]) := by
  obtain ⟨time, records⟩ := pushed.records
  have others : (s.q ++ s.delayedQ).map (fun r => (s'.records r).p) = s.queued := by
    refine List.map_congr_left fun r member => ?_
    have apart : r ≠ s.obtained := fun same => sound.obtained_notMem (same ▸ member)
    rw [records, Function.update_of_ne apart]
  have own : (s'.records s.obtained).p = p := by rw [records, Function.update_self]
  have placed := pushed.queues.map fun r => (s'.records r).p
  rw [List.map_cons, others, own] at placed
  exact placed.trans (List.perm_append_singleton p s.queued).symm

/-- A push leaves the pointer in hand as it was, exactly if the record in hand is not the one
obtained, or is given the same pointer. -/
theorem Pushes.holds_iff {s s' : WorkerQueue} {p : Nat} (pushed : s.Pushes s' p) (sound : s.Sound)
    {r held : Nat} (hand : s.phase.hand = some (r, held)) (holds : (s.records r).p = held) :
    (s'.records r).p = held ↔ (s.freeList.head? = some r → p = held) := by
  obtain ⟨time, records⟩ := pushed.records
  rw [records, ← sound.obtained_eq_iff hand]
  by_cases same : r = s.obtained
  · rw [same, Function.update_self]
    exact ⟨fun told _ => told, fun told => told rfl⟩
  · rw [Function.update_of_ne same]
    exact iff_of_true holds fun front => absurd front.symm same

/-- Outside of the critical section the record in hand is about to be read. -/
theorem hand_of_free {s : WorkerQueue} (free : s.phase.holds = false) (r p : Nat) :
    s.phase.hand = some (r, p) ↔ s.phase = .process r p := by
  cases phase : s.phase <;> simp_all [WorkerPhase.hand, WorkerPhase.holds]

theorem exactlyOnce_pushes {s s' : WorkerQueue} {event : QueueEvent} {p : Nat} (sound : s.Sound)
    (exactly : s.ExactlyOnce) (given : event.pointer = some p) (free : s.phase.holds = false)
    (pushed : s.Pushes s' p) : s.ReadsFirst event ↔ s'.ExactlyOnce := by
  have queued := pushed.queued sound
  cases hand : s.phase.hand with
  | none =>
      have nothing : s'.handed = [] := handed_of_none (pushed.hand.trans hand)
      have before : s.handed = [] := handed_of_none hand
      refine iff_of_true (fun r held at' => ?_) (.of_kept ?_ ?_)
      · rw [(hand_of_free free r held).mpr at'] at hand
        cases hand
      · rw [nothing, pushed.processed, pushed.popped, ← exactly.popped, before]
      · rw [nothing, pushed.processed, pushed.added, List.append_nil]
        have kept := exactly.kept
        rw [before, List.append_nil] at kept
        apply (queued.append_left s.processed).trans
        rw [← List.append_assoc]
        exact kept.append_right [p]
  | some taken =>
      obtain ⟨r, held⟩ := taken
      have holds := exactly.holds sound hand
      have before : s.handed = [held] := by rw [handed_of_hand hand, holds]
      have now : s'.handed = [(s'.records r).p] := handed_of_hand (pushed.hand.trans hand)
      have same := pushed.holds_iff sound hand holds
      constructor
      · intro first
        have kept := exactly.kept
        have told : s'.handed = s.handed := by
          rw [now, before, same.mpr fun front =>
            first r held ((hand_of_free free r held).mp hand) front p given]
        refine .of_kept ?_ ?_
        · rw [told, pushed.processed, pushed.popped, exactly.popped]
        · rw [told, pushed.processed, pushed.added]
          apply (queued.append_left _).trans
          rw [← List.append_assoc]
          exact kept.append_right [p]
      · intro after r' held' at' front other given'
        have hand' := (hand_of_free free r' held').mpr at'
        obtain ⟨rfl, rfl⟩ := Prod.mk.inj (Option.some.inj (hand.symm.trans hand'))
        obtain rfl := Option.some.inj (given.symm.trans given')
        refine same.mp ?_ front
        have popped := after.popped
        rw [now, pushed.processed, pushed.popped, ← exactly.popped, before] at popped
        exact List.singleton_inj.mp (List.append_cancel_left popped)

/-- **One step.** -/
theorem exactlyOnce_step {s s' : WorkerQueue} {event : QueueEvent} (sound : s.Sound)
    (exactly : s.ExactlyOnce) (stepped : s.step event = some s') :
    s.ReadsFirst event ↔ s'.ExactlyOnce := by
  have first (adds : event.pointer = none) : s.ReadsFirst event :=
    fun r p at' front other given => absurd (adds.symm.trans given) (by simp)
  have popped := exactly.popped
  have kept := exactly.kept
  cases changes_step stepped with
  | pushes p given free pushed => exact exactlyOnce_pushes sound exactly given free pushed
  | quiet adds hand same =>
      apply iff_of_true (first adds)
      simp only [books, Prod.mk.injEq] at same
      obtain ⟨records, allocated, q, freeList, delayedQ, added, popped', processed⟩ := same
      refine .of_kept ?_ ?_
      · simpa only [handed, hand, records, processed, popped'] using popped
      · simpa only [handed, queued, hand, records, processed, q, delayedQ, added] using kept
  | moves adds q delayedQ moved hand same =>
      apply iff_of_true (first adds)
      simp only [books, Prod.mk.injEq] at same
      obtain ⟨records, allocated, rfl, freeList, rfl, added, popped', processed⟩ := same
      refine .of_kept ?_ ?_
      · simpa only [handed, hand, records, processed, popped'] using popped
      · have queues : s'.queued.Perm s.queued := by
          simpa only [queued, records] using moved.map fun r => (s.records r).p
        have told : s'.processed ++ s'.handed = s.processed ++ s.handed := by
          simp only [handed, hand, records, processed]
        rw [told, added]
        exact (queues.append_left _).trans kept
  | pops adds r q front at' hand same =>
      apply iff_of_true (first adds)
      simp only [books, Prod.mk.injEq] at same
      obtain ⟨records, allocated, rfl, freeList, delayedQ, added, popped', processed⟩ := same
      rw [handed_of_none at', List.append_nil] at popped kept
      have now : s'.handed = [(s.records r).p] := by rw [handed_of_hand hand, records]
      refine .of_kept ?_ ?_
      · rw [now, processed, popped', popped]
      · rw [now, processed, added, List.append_assoc]
        simpa only [queued, front, delayedQ, records, List.cons_append, List.map_cons,
          List.nil_append] using kept
  | processes adds r p at' hand same =>
      apply iff_of_true (first adds)
      simp only [books, Prod.mk.injEq] at same
      obtain ⟨records, allocated, q, freeList, delayedQ, added, popped', processed⟩ := same
      have now : s'.processed ++ s'.handed = s.processed ++ s.handed := by
        rw [handed_of_none hand, handed_of_hand at', processed, List.append_nil]
      refine .of_kept ?_ ?_
      · rw [now, popped', popped]
      · rw [now, added]
        simpa only [queued, q, delayedQ, records] using kept

end WorkerQueue

/-- **Exactly once.** All along a run each pointer is processed at most once, as it was
popped, and is in a queue until then, exactly if no `Add` obtains the record just popped,
for another pointer, before `Process` has been given what it holds. -/
theorem exactlyOnce_iff {events : List QueueEvent} {s : WorkerQueue}
    (ran : run WorkerQueue.step .initial events = some s) :
    (∀ front back middle, events = front ++ back →
      run WorkerQueue.step .initial front = some middle → middle.ExactlyOnce) ↔
      StepsMeet WorkerQueue.step WorkerQueue.ReadsFirst .initial events := by
  have initially : WorkerQueue.initial.ExactlyOnce := .of_kept rfl (List.Perm.refl _)
  exact (stepsMeet_iff_along (fun _ _ _ sound stepped => WorkerQueue.sound_step sound stepped)
    (fun _ _ _ sound exactly stepped => WorkerQueue.exactlyOnce_step sound exactly stepped)
    WorkerQueue.sound_initial initially ran).symm

/-- A pointer is added, and the worker comes to the unlock behind its pop; then another one
is added, and the worker takes both records. -/
def reusedRecord : List QueueEvent :=
  [.worker, .worker, .worker, .worker, .worker, .add 1, .wake, .worker, .worker, .worker, .worker,
    .worker, .add 2, .worker, .worker, .worker, .worker, .worker, .worker, .worker, .worker,
    .worker]

/-- **A pointer lost, another one processed twice.** The second `Add` obtains the record that
the worker has released and not read yet. -/
theorem reusedRecord_processed :
    ¬ ∀ events s, run WorkerQueue.step .initial events = some s → s.ExactlyOnce := by
  intro claim
  have finishes : (run WorkerQueue.step .initial reusedRecord).isSome = true := by decide
  obtain ⟨s, ran⟩ := Option.isSome_iff_exists.mp finishes
  have twice : (run WorkerQueue.step .initial reusedRecord).any (fun s =>
      s.processed = [2, 2] ∧ s.added = [1, 2]) = true := by decide
  rw [ran] at twice
  obtain ⟨processed, added⟩ : s.processed = [2, 2] ∧ s.added = [1, 2] := by simpa using twice
  have once := (claim reusedRecord s ran).once 2
  rw [processed, added] at once
  exact absurd once (by decide)

/-- The second pointer is added when `Process` has been called. -/
def quietRecord : List QueueEvent :=
  [.worker, .worker, .worker, .worker, .worker, .add 1, .wake, .worker, .worker, .worker, .worker,
    .worker, .worker, .add 2, .worker, .worker, .worker, .worker, .worker, .worker, .worker,
    .worker]

theorem quietRecord_exactlyOnce :
    ∃ s, run WorkerQueue.step .initial quietRecord = some s ∧ s.ExactlyOnce := by
  have finishes : (run WorkerQueue.step .initial quietRecord).isSome = true := by decide
  obtain ⟨s, ran⟩ := Option.isSome_iff_exists.mp finishes
  have calm : StepsMeet WorkerQueue.step
      (fun s event => event.pointer = none ∨ s.phase.hand = none) .initial quietRecord := by decide
  have met : StepsMeet WorkerQueue.step WorkerQueue.ReadsFirst .initial quietRecord := by
    refine calm.mono fun s event quiet r p at' front other given => ?_
    rcases quiet with adds | hand
    · rw [adds] at given
      cases given
    · rw [at'] at hand
      cases hand
  exact ⟨s, ran, (exactlyOnce_iff ran).mpr met quietRecord [] s (List.append_nil _).symm ran⟩

end RildHisi.MockRil
