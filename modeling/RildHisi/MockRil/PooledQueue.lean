import RildHisi.MockRil.ExactlyOnce

/-!
Owns a work queue whose pointers lead to objects with a free list of their own:
`RilRequestWorkerQueue` with its `Request`s, and `WorkerV8` with its `ArgInfo`s. Both take an
object from the front of the free list, or make a new one, fill it and add its pointer; when
`Process` has used the object, it goes to the end of the free list.

All of this happens with the `v8::Locker` held: an `Add` with what is in front of it is one
step, and so is what `Process` does. Behind its call, `Process` waits for the lock.
-/

namespace RildHisi.MockRil

open RildHisi.Library

@[simp] theorem WorkerPhase.signal_eq_processing (phase : WorkerPhase) :
    phase.signal = .processing ↔ phase = .processing := by
  cases phase <;> simp [WorkerPhase.signal]

namespace WorkerQueue

/-- The pointer that `Process` has been called with and has not returned from. -/
def current (s : WorkerQueue) : Option Nat :=
  if s.phase = .processing then s.processed.getLast? else none

/-- The pointers that `Process` has, or is about to be given, and those in the queues. -/
def inUse (s : WorkerQueue) : List Nat := s.current.toList ++ (s.handed ++ s.queued)

/-- The next record obtained is the one that the worker has released and not read yet. -/
def exposed (s : WorkerQueue) : Bool :=
  match s.phase with
  | .process r _ => s.freeList.head? == some r
  | _ => false

variable {s s' : WorkerQueue} {event : QueueEvent}

theorem inUse_congr (hand : s'.phase.hand = s.phase.hand)
    (busy : s'.phase = .processing ↔ s.phase = .processing) (same : s'.books = s.books) :
    s'.inUse = s.inUse := by
  simp only [books, Prod.mk.injEq] at same
  obtain ⟨records, -, q, -, delayedQ, -, -, processed⟩ := same
  simp only [inUse, current, handed, queued, hand, busy, records, q, delayedQ, processed]

/-- Outside of the steps from the pop to the end of `Process`, all pointers are in the queues. -/
theorem inUse_of_idle (hand : s.phase.hand = none) (idle : s.phase ≠ .processing) :
    s.inUse = s.queued := by
  simp [inUse, current, handed, hand, idle]

/-- Steps that add nothing, up to the return of `Process`, only move the pointers. -/
theorem inUse_step (stepped : s.step event = some s') (adds : event.pointer = none)
    (inside : ¬ (event = .worker ∧ s.phase = .processing)) : s'.inUse.Perm s.inUse := by
  cases stepped_of_step stepped with
  | add p free => cases adds
  | addNow p delay now top free => cases adds
  | addDelayed p delay now top condition free => cases adds
  | moves now tops delayedQ q at' empty some' moved =>
      rw [inUse_of_idle (s := s) (by rw [at']; rfl) (by simp [at']), inUse_of_idle]
      · have same := (moveDue_perm moved).map fun r => (s.records r).p
        rwa [List.nil_append, ← List.nil_append s.delayedQ, ← empty] at same
      · exact WorkerPhase.hand_ite _ rfl rfl
      · change (if _ then _ else _) ≠ _
        split_ifs <;> simp
  | pops r q at' running front =>
      exact .of_eq (by simp [inUse, current, handed, queued, at', front, WorkerPhase.hand])
  | processes r p at' =>
      exact .of_eq (by simp [inUse, current, handed, queued, at', WorkerPhase.hand])
  | unlocks r p at' => exact .of_eq (inUse_congr (by rw [at']; rfl) (by simp [at']) rfl)
  | signals at' =>
      exact .of_eq (inUse_congr (WorkerPhase.hand_signal _) (WorkerPhase.signal_eq_processing _) rfl)
  | outerTest at' =>
      refine .of_eq (inUse_congr (by rw [at', WorkerPhase.hand_ite _ rfl rfl]; rfl) ?_ rfl)
      rw [at']
      split_ifs <;> simp
  | innerTest at' =>
      refine .of_eq (inUse_congr (by rw [at', WorkerPhase.hand_ite _ rfl rfl]; rfl) ?_ rfl)
      rw [at']
      split_ifs <;> simp
  | locks at' =>
      rcases at' with at' | at' <;>
        exact .of_eq (inUse_congr (by rw [at']; rfl) (by simp [at']) rfl)
  | goesOn at' =>
      rcases at' with at' | at'
      · exact absurd ⟨rfl, at'⟩ inside
      · exact .of_eq (inUse_congr (by rw [at']; rfl) (by simp [at']) rfl)
  | wakes at' =>
      rcases at' with ⟨signalled, at'⟩ | at' <;>
        exact .of_eq (inUse_congr (by rw [at']; rfl) (by simp [at']) rfl)
  | begins at' => exact .of_eq (inUse_congr (by rw [at']; rfl) (by simp [at']) rfl)
  | finds at' full => exact .of_eq (inUse_congr (by rw [at']; rfl) (by simp [at']) rfl)
  | waits at' empty none => exact .of_eq (inUse_congr (by rw [at']; rfl) (by simp [at']) rfl)
  | skips at' running => exact .of_eq (inUse_congr (by rw [at']; rfl) (by simp [at']) rfl)
  | leaves at' => exact .of_eq (inUse_congr (by rw [at']; rfl) (by simp [at']) rfl)
  | stops at' => exact .of_eq (inUse_congr rfl Iff.rfl rfl)
  | stopFails at' => exact .refl _
  | polls at' stopping => exact .refl _
  | stopReturns at' done => exact .of_eq (inUse_congr rfl Iff.rfl rfl)

/-- When `Process` returns, its pointer is not in use any more. -/
theorem inUse_return {p : Nat} (busy : s.current = some p) (stepped : s.step .worker = some s') :
    s.inUse = p :: s'.inUse := by
  have at' : s.phase = .processing := by
    unfold current at busy
    split_ifs at busy with at'
    exact at'
  have shape : { s with phase := .outerTest } = s' := by
    simpa [step, worker, at'] using stepped
  subst shape
  rw [inUse_of_idle (s := { s with phase := .outerTest }) rfl (by simp), inUse, busy,
    handed_of_none (by rw [at']; rfl)]
  rfl

/-! ### What an `Add` does -/

theorem processing_of_adds {p : Nat} (stepped : s.step event = some s')
    (given : event.pointer = some p) : s'.phase = .processing ↔ s.phase = .processing := by
  have signalled (condition : Bool) (t : WorkerQueue) :
      (t.signal condition).phase = .processing ↔ t.phase = .processing := by
    unfold signal
    cases condition <;> simp
  cases stepped_of_step stepped with
  | add p free => exact signalled _ _
  | addNow p delay now top free => exact signalled _ _
  | addDelayed p delay now top condition free => exact signalled _ _
  | _ => cases given

/-- The pointer in hand stays, or becomes the new one where the record is exposed. -/
theorem handed_pushes {p : Nat} (sound : s.Sound) (free : s.phase.holds = false)
    (pushed : s.Pushes s' p) : s'.handed = if s.exposed then [p] else s.handed := by
  obtain ⟨time, records⟩ := pushed.records
  cases hand : s.phase.hand with
  | none =>
      have calm : s.exposed = false := by
        unfold exposed
        cases phase : s.phase with
        | process r p => simp [phase, WorkerPhase.hand] at hand
        | _ => rfl
      rw [calm, handed_of_none hand, handed_of_none (pushed.hand.trans hand)]
      rfl
  | some taken =>
      obtain ⟨r, held⟩ := taken
      have at' := (hand_of_free free r held).mp hand
      have exposed_iff : s.exposed ↔ s.obtained = r := by
        rw [sound.obtained_eq_iff hand, exposed, at']
        exact beq_iff_eq
      rw [handed_of_hand hand, handed_of_hand (pushed.hand.trans hand), records]
      split_ifs with open'
      · rw [exposed_iff.mp open', Function.update_self]
      · rw [Function.update_of_ne fun same => open' (exposed_iff.mpr same.symm)]

theorem inUse_adds {p : Nat} (sound : s.Sound) (stepped : s.step event = some s')
    (given : event.pointer = some p) :
    s'.inUse.Perm (p :: (s.current.toList ++ ((if s.exposed then [p] else s.handed) ++ s.queued))) := by
  have busy := processing_of_adds stepped given
  cases changes_step stepped with
  | pushes q given' free pushed =>
      obtain rfl := Option.some.inj (given.symm.trans given')
      have now : s'.current = s.current := by simp only [current, busy, pushed.processed]
      rw [inUse, now, handed_pushes sound free pushed]
      have behind := (pushed.queued sound).trans (List.perm_append_singleton p s.queued)
      refine ((behind.append_left _).append_left _).trans ?_
      exact (List.perm_middle.append_left _).trans List.perm_middle
  | quiet adds => exact absurd (adds.symm.trans given) (by simp)
  | moves adds => exact absurd (adds.symm.trans given) (by simp)
  | pops adds => exact absurd (adds.symm.trans given) (by simp)
  | processes adds => exact absurd (adds.symm.trans given) (by simp)

end WorkerQueue

/-! ### With the objects -/

/-- A work queue, the objects by address, none where none has been made, and their free list. -/
structure PooledQueue (α : Type) where
  queue : WorkerQueue
  objects : Nat → Option α
  allocated : Nat
  freeList : List Nat

/-- `Add`, or `AddDelayed` with what it finds. -/
inductive Adding
  | add
  | addDelayed (delay now : Int) (top : Nat)
  deriving DecidableEq

def Adding.event (p : Nat) : Adding → QueueEvent
  | add => .add p
  | addDelayed delay now top => .addDelayed p delay now top

theorem Adding.pointer_event (p : Nat) (adding : Adding) :
    (adding.event p).pointer = some p := by
  cases adding <;> rfl

namespace PooledQueue

variable {α : Type}

def initial : PooledQueue α where
  queue := .initial
  objects _ := none
  allocated := 0
  freeList := []

/-- An object is obtained, filled and added. -/
def put (s : PooledQueue α) (a : α) (adding : Adding) : Option (PooledQueue α) :=
  let p := nextCell s.freeList s.allocated
  (s.queue.step (adding.event p)).map fun queue =>
    { queue := queue
      objects := Function.update s.objects p (some a)
      allocated := cellsBehind s.freeList s.allocated
      freeList := s.freeList.tail }

/-- Another step of the queue: neither an `Add` nor the end of `Process`. -/
def turn (s : PooledQueue α) (event : QueueEvent) : Option (PooledQueue α) :=
  if event.pointer = none ∧ ¬ (event = .worker ∧ s.queue.phase = .processing) then
    (s.queue.step event).map fun queue => { s with queue := queue }
  else none

/-- The object that `Process` has. -/
def processing (s : PooledQueue α) : Option α := s.queue.current.bind s.objects

/-- `Process` has used its object, puts it on the free list and returns. -/
def finish (s : PooledQueue α) : Option (α × PooledQueue α) := do
  let p ← s.queue.current
  let a ← s.objects p
  let queue ← s.queue.step .worker
  return (a, { s with queue := queue, freeList := s.freeList ++ [p] })

/-- The objects on their way through the queue. -/
def values (s : PooledQueue α) : List α := s.queue.inUse.filterMap s.objects

/-- No object is in two places. -/
structure Sound (s : PooledQueue α) : Prop where
  queue : s.queue.Sound
  apart : Apart s.queue.inUse s.freeList s.allocated
  made : ∀ p, p < s.allocated → (s.objects p).isSome = true

theorem sound_initial : (initial : PooledQueue α).Sound where
  queue := WorkerQueue.sound_initial
  apart := Apart.empty
  made _ below := absurd below (Nat.not_lt_zero _)

variable {s s' : PooledQueue α} {a : α} {adding : Adding}

theorem Sound.made_put (sound : s.Sound) (p : Nat)
    (below : p < cellsBehind s.freeList s.allocated) :
    (Function.update s.objects (nextCell s.freeList s.allocated) (some a) p).isSome = true := by
  by_cases same : p = nextCell s.freeList s.allocated
  · rw [same, Function.update_self]
    rfl
  · rw [Function.update_of_ne same]
    apply sound.made
    unfold cellsBehind at below
    split_ifs at below with empty
    · have new : nextCell s.freeList s.allocated = s.allocated := by rw [empty]; rfl
      omega
    · exact below

/-- Objects that are in use are not overwritten. -/
theorem Sound.filterMap_put (sound : s.Sound) {used : List Nat}
    (inside : ∀ p ∈ used, p ∈ s.queue.inUse) :
    used.filterMap (Function.update s.objects (nextCell s.freeList s.allocated) (some a)) =
      used.filterMap s.objects := by
  refine List.filterMap_congr fun p member => ?_
  have apart : p ≠ nextCell s.freeList s.allocated := fun same =>
    sound.apart.nextCell_notMem (same ▸ inside p member)
  rw [Function.update_of_ne apart]

/-- An `Add` that leaves the record in hand alone brings its value, and no other one is lost. -/
theorem put_calm (sound : s.Sound) (calm : s.queue.exposed = false)
    (added : s.put a adding = some s') : s'.Sound ∧ s'.values.Perm (a :: s.values) := by
  obtain ⟨queue, stepped, rfl⟩ := Option.map_eq_some_iff.mp added
  have used := WorkerQueue.inUse_adds sound.queue stepped (Adding.pointer_event _ adding)
  rw [calm] at used
  refine ⟨⟨WorkerQueue.sound_step sound.queue stepped, sound.apart.take.perm used,
    sound.made_put⟩, (used.filterMap _).trans ?_⟩
  rw [List.filterMap_cons_some (b := a) (Function.update_self ..)]
  exact .cons _ (.of_eq (sound.filterMap_put fun p member => member))

/-- An `Add` that obtains the record in hand: what it led to is lost, and the new value is on
its way twice. -/
theorem put_exposed (sound : s.Sound) (exposed : s.queue.exposed = true)
    (added : s.put a adding = some s') :
    ∃ lost rest, s.queue.handed.filterMap s.objects = [lost] ∧ s.values.Perm (lost :: rest) ∧
      s'.values.Perm (a :: a :: rest) := by
  obtain ⟨queue, stepped, rfl⟩ := Option.map_eq_some_iff.mp added
  have used := WorkerQueue.inUse_adds sound.queue stepped (Adding.pointer_event _ adding)
  rw [exposed, if_pos rfl] at used
  obtain ⟨r, p, at'⟩ : ∃ r p, s.queue.phase = .process r p := by
    unfold WorkerQueue.exposed at exposed
    cases phase : s.queue.phase with
    | process r p => exact ⟨r, p, rfl⟩
    | _ => simp [phase] at exposed
  have handed := WorkerQueue.handed_of_hand (s := s.queue) (r := r) (p := p) (by rw [at']; rfl)
  have current : s.queue.current = none := by simp [WorkerQueue.current, at']
  have inUse : s.queue.inUse = (s.queue.records r).p :: s.queue.queued := by
    rw [WorkerQueue.inUse, handed, current]
    rfl
  obtain ⟨lost, leads⟩ := Option.isSome_iff_exists.mp
    (sound.made (s.queue.records r).p (sound.apart.known _ (by simp [inUse])))
  refine ⟨lost, s.queue.queued.filterMap s.objects, ?_, ?_, (used.filterMap _).trans ?_⟩
  · rw [handed, List.filterMap_cons_some leads]
    rfl
  · rw [values, inUse, List.filterMap_cons_some leads]
  · rw [current]
    simp only [Option.toList_none, List.nil_append, List.cons_append]
    rw [List.filterMap_cons_some (b := a) (Function.update_self ..),
      List.filterMap_cons_some (b := a) (Function.update_self ..),
      sound.filterMap_put fun p member => by simp [inUse, member]]

theorem turn_spec {event : QueueEvent} (sound : s.Sound) (turned : s.turn event = some s') :
    s'.Sound ∧ s'.values.Perm s.values := by
  obtain ⟨⟨adds, inside⟩, shape⟩ := Option.ite_none_right_eq_some.mp turned
  obtain ⟨queue, stepped, rfl⟩ := Option.map_eq_some_iff.mp shape
  have used := WorkerQueue.inUse_step stepped adds inside
  exact ⟨⟨WorkerQueue.sound_step sound.queue stepped, sound.apart.perm used, sound.made⟩,
    used.filterMap _⟩

/-- The value of `Process` is not on its way any more, and its object is free. -/
theorem finish_spec (sound : s.Sound) (finished : s.finish = some (a, s')) :
    s.processing = some a ∧ s'.Sound ∧ s.values = a :: s'.values := by
  obtain ⟨p, busy, rest⟩ := Option.bind_eq_some_iff.mp finished
  obtain ⟨a', leads, rest⟩ := Option.bind_eq_some_iff.mp rest
  obtain ⟨queue, stepped, shape⟩ := Option.bind_eq_some_iff.mp rest
  obtain ⟨rfl, rfl⟩ := Prod.mk.inj (Option.some.inj shape)
  have used := WorkerQueue.inUse_return busy stepped
  refine ⟨by rw [processing, busy]; exact leads, ⟨WorkerQueue.sound_step sound.queue stepped, ?_,
    sound.made⟩, ?_⟩
  · have apart := sound.apart
    rw [used] at apart
    exact apart.release (List.perm_append_singleton p s.freeList)
  · rw [values, used, List.filterMap_cons_some leads]
    rfl

end PooledQueue

end RildHisi.MockRil
