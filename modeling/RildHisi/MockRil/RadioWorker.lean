import Mathlib.Data.List.Perm.Basic
import RildHisi.MockRil.CallEffects

/-!
Owns `simulatedRadioWorker`: the radio behind its queue, with the requests that other
threads add at any time and the events that the handlers add.

The queue is the one of worker.cpp, a request for each record. The worker releases the
record in front of reading it, so that an `Add` in between overwrites the request. Not
modelled is the free list of the `ArgInfo` records of worker_v8.cpp, which carry the
requests: that a request which is processed twice has been disposed of the first time.
-/

namespace RildHisi.MockRil

open RildHisi.Library

/-- A record of `delayed_q_`. -/
structure DelayedRequest where
  time : Nat
  request : RadioRequest
  deriving DecidableEq

/-- The record that the worker has popped. -/
inductive PoppedRecord
  | none
  /-- It is on the free list, and `r->p` has not been read. -/
  | released (request : RadioRequest)
  /-- In front of `process (request)`. -/
  | read (request : RadioRequest)
  deriving DecidableEq

namespace PoppedRecord

def toList : PoppedRecord → List RadioRequest
  | none => []
  | released request | read request => [request]

/-- `obtain_record` for another request takes the record from the free list. -/
def reuse (request : RadioRequest) : PoppedRecord → PoppedRecord
  | released _ => read request
  | other => other

end PoppedRecord

/-- The radio, its queue and the clock. -/
structure RadioWorker where
  radio : Radio
  q : List RadioRequest
  delayedQ : List DelayedRequest
  popped : PoppedRecord
  now : Nat
  deriving DecidableEq

inductive RadioEvent
  /-- Another thread adds a request. -/
  | add (request : RadioRequest) (delay : Nat)
  | tick (milliseconds : Nat)
  /-- The worker pops a record. Where `q_` is empty, `moved` are the records that are due, as
  `delayed_q_.top` yields them. -/
  | pop (moved : List DelayedRequest)
  /-- `r->p` is read. -/
  | read
  /-- `process`. In front of each record it adds, some time goes by. -/
  | process (elapsed : List Nat)
  deriving DecidableEq

/-- Requests of the framework and of the control server, and the first signal strength, which
`startMockRil` delays. The others are added by the handlers alone. -/
def RadioRequest.fromOutside (request : RadioRequest) (delay : Nat) : Bool :=
  match request with
  | .callStateChange _ | .unsolCallRing | .unsolCallStateChanged => false
  | .unsolSignalStrength => true
  | _ => delay = 0

namespace RadioWorker

def initial : RadioWorker where
  radio := .initial
  q := []
  delayedQ := []
  popped := .none
  now := 0

/-- `add` and `addDelayed` of the worker. -/
def add (s : RadioWorker) (request : RadioRequest) (delay : Nat) : RadioWorker :=
  if delay = 0 then { s with q := s.q ++ [request] }
  else { s with delayedQ := ⟨s.now + delay, request⟩ :: s.delayedQ }

/-- What a handler adds, one record after another. -/
def schedule (s : RadioWorker) : List (RadioRequest × Nat) → List Nat → RadioWorker
  | [], _ => s
  | (request, delay) :: rest, elapsed =>
      ({ s with now := s.now + elapsed.headD 0 }.add request delay).schedule rest elapsed.tail

/-- The records of `delayed_q_` that are due, in an order in which they may come from it. -/
def IsDue (s : RadioWorker) (moved : List DelayedRequest) : Prop :=
  moved.Perm (s.delayedQ.filter fun record => record.time ≤ s.now) ∧
    moved.Pairwise fun first second => first.time ≤ second.time

instance (s : RadioWorker) (moved : List DelayedRequest) : Decidable (s.IsDue moved) := by
  unfold IsDue
  infer_instance

/-- One event, none where it cannot happen. -/
def step (s : RadioWorker) : RadioEvent → Option RadioWorker
  | .add request delay =>
      if request.fromOutside delay then
        some ({ s with popped := s.popped.reuse request }.add request delay)
      else none
  | .tick milliseconds => some { s with now := s.now + milliseconds }
  | .pop moved =>
      match s.popped, s.q, moved with
      | .none, request :: rest, [] => some { s with popped := .released request, q := rest }
      | .none, [], first :: others =>
          if s.IsDue (first :: others) then
            some { s with
              popped := .released first.request
              q := others.map DelayedRequest.request
              delayedQ := s.delayedQ.filter fun record => s.now < record.time }
          else none
      | _, _, _ => none
  | .read =>
      match s.popped with
      | .released request => some { s with popped := .read request }
      | _ => none
  | .process elapsed =>
      match s.popped with
      | .read request =>
          let handled := s.radio.process request
          some ({ s with radio := handled.radio, popped := .none }.schedule handled.scheduled
            elapsed)
      | _ => none

/-- The request that the event processes. -/
def running (s : RadioWorker) : RadioEvent → Option RadioRequest
  | .process _ =>
      match s.popped with
      | .read request => some request
      | _ => none
  | _ => none

/-- The requests in the order in which they will be processed, as far as it is settled. -/
def line (s : RadioWorker) : List RadioRequest := s.popped.toList ++ s.q

/-- The worker pops a record and processes it. -/
def turn (moved : List DelayedRequest) : List RadioEvent := [.pop moved, .read, .process []]

/-- All the requests that are pending. -/
def pending (s : RadioWorker) : List RadioRequest :=
  s.line ++ s.delayedQ.map DelayedRequest.request

variable {s s' : RadioWorker}

/-! ### The steps -/

@[simp] theorem radio_add (s : RadioWorker) (request : RadioRequest) (delay : Nat) :
    (s.add request delay).radio = s.radio := by
  unfold add
  split_ifs <;> rfl

@[simp] theorem radio_schedule (s : RadioWorker) (scheduled : List (RadioRequest × Nat))
    (elapsed : List Nat) : (s.schedule scheduled elapsed).radio = s.radio := by
  induction scheduled generalizing s elapsed with
  | nil => rfl
  | cons entry rest inductionHypothesis =>
      rw [schedule, inductionHypothesis, radio_add]

theorem step_add {request : RadioRequest} {delay : Nat}
    (stepped : s.step (.add request delay) = some s') :
    request.fromOutside delay = true ∧
      s' = { s with popped := s.popped.reuse request }.add request delay := by
  simp only [step] at stepped
  split_ifs at stepped with outside
  exact ⟨outside, (Option.some.inj stepped).symm⟩

/-- A record is popped from the queue, or the records that are due take its place first. -/
theorem step_pop {moved : List DelayedRequest} (stepped : s.step (.pop moved) = some s') :
    s.popped = .none ∧
      ((∃ request rest, s.q = request :: rest ∧
          s' = { s with popped := .released request, q := rest }) ∨
        s.q = [] ∧ ∃ first others, s.IsDue (first :: others) ∧
          s' = { s with
            popped := .released first.request
            q := others.map DelayedRequest.request
            delayedQ := s.delayedQ.filter fun record => s.now < record.time }) := by
  simp only [step] at stepped
  split at stepped
  · next request rest idle queue =>
      exact ⟨idle, Or.inl ⟨request, rest, queue, (Option.some.inj stepped).symm⟩⟩
  · next first others idle queue =>
      split_ifs at stepped with due
      exact ⟨idle, Or.inr ⟨queue, first, others, due, (Option.some.inj stepped).symm⟩⟩
  · cases stepped

theorem step_read (stepped : s.step .read = some s') :
    ∃ request, s.popped = .released request ∧ s' = { s with popped := .read request } := by
  simp only [step] at stepped
  split at stepped
  · next request released => exact ⟨request, released, (Option.some.inj stepped).symm⟩
  · cases stepped

/-- What `process` leaves, but for the queue. -/
def handled (s : RadioWorker) (request : RadioRequest) : RadioWorker :=
  { s with radio := (s.radio.process request).radio, popped := .none }

theorem step_process {elapsed : List Nat} (stepped : s.step (.process elapsed) = some s') :
    ∃ request, s.popped = .read request ∧ s.running (.process elapsed) = some request ∧
      s' = (s.handled request).schedule (s.radio.process request).scheduled elapsed := by
  simp only [step] at stepped
  split at stepped
  · next request read =>
      exact ⟨request, read, by simp only [running, read], (Option.some.inj stepped).symm⟩
  · cases stepped

/-! ### What is pending -/

theorem pending_add (s : RadioWorker) (request : RadioRequest) (delay : Nat) :
    (s.add request delay).pending.Perm (request :: s.pending) := by
  unfold add pending line
  split_ifs
  · simp only [List.append_assoc, List.singleton_append]
    rw [← List.append_assoc, ← List.append_assoc]
    exact List.perm_middle
  · exact List.perm_middle

theorem pending_schedule (s : RadioWorker) (scheduled : List (RadioRequest × Nat))
    (elapsed : List Nat) :
    (s.schedule scheduled elapsed).pending.Perm (scheduled.map Prod.fst ++ s.pending) := by
  induction scheduled generalizing s elapsed with
  | nil => exact List.Perm.refl _
  | cons entry rest inductionHypothesis =>
      obtain ⟨request, delay⟩ := entry
      have later := inductionHypothesis ({ s with now := s.now + elapsed.headD 0 }.add request delay)
        elapsed.tail
      apply later.trans
      apply ((pending_add _ request delay).append_left _).trans
      exact List.perm_middle

theorem pending_pop {moved : List DelayedRequest} (stepped : s.step (.pop moved) = some s') :
    s'.pending.Perm s.pending := by
  obtain ⟨idle, ⟨request, rest, queue, rfl⟩ | ⟨queue, first, others, due, rfl⟩⟩ := step_pop stepped
  · simp [pending, line, idle, queue, PoppedRecord.toList]
  · have all : (first :: others ++ s.delayedQ.filter fun record => s.now < record.time).Perm
        s.delayedQ := by
      apply (due.1.append_right _).trans
      have parts := List.filter_append_perm
        (fun record : DelayedRequest => decide (record.time ≤ s.now)) s.delayedQ
      have later : (fun record : DelayedRequest => !decide (record.time ≤ s.now)) =
          fun record => decide (s.now < record.time) := by
        funext record
        by_cases past : record.time ≤ s.now
        · rw [decide_eq_true past, decide_eq_false (Nat.not_lt.mpr past), Bool.not_true]
        · rw [decide_eq_false past, decide_eq_true (Nat.lt_of_not_le past), Bool.not_false]
      rwa [later] at parts
    simpa [pending, line, idle, queue, PoppedRecord.toList] using
      all.map DelayedRequest.request

/-- The request that is processed is the only one that is no longer pending. -/
theorem pending_handled {request : RadioRequest} (popped : s.popped = .read request) :
    s.pending = request :: (s.handled request).pending := by
  rw [pending, pending, line, line, popped]
  rfl

/-- The record that is overwritten is lost. -/
theorem pending_reuse (s : RadioWorker) (request : RadioRequest) :
    ∃ lost, s.pending = lost ++ s.q ++ s.delayedQ.map DelayedRequest.request ∧
      (({ s with popped := s.popped.reuse request } : RadioWorker).pending = s.pending ∨
        ({ s with popped := s.popped.reuse request } : RadioWorker).pending =
          request :: (s.q ++ s.delayedQ.map DelayedRequest.request)) := by
  refine ⟨s.popped.toList, rfl, ?_⟩
  unfold pending line
  cases s.popped with
  | none => exact Or.inl rfl
  | read kept => exact Or.inl rfl
  | released lost => exact Or.inr rfl

theorem pending_read (stepped : s.step .read = some s') : s'.pending = s.pending := by
  obtain ⟨request, released, rfl⟩ := step_read stepped
  simp [pending, line, released, PoppedRecord.toList]

end RadioWorker

end RildHisi.MockRil
