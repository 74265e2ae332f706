import Mathlib.Data.List.Induction
import Mathlib.Data.Option.Basic

/-!
Owns runs of a machine with partial steps: `run step s events` takes the events
one after another and is none where one of them cannot happen. The rules carry
a property from one step to every run, for all steps or for those that meet a
condition on the state before them.
-/

namespace RildHisi.Library

variable {σ ε : Type*} (step : σ → ε → Option σ)

/-- The state after `events`, if each of them can happen. -/
def run (s : σ) (events : List ε) : Option σ := events.foldlM step s

@[simp] theorem run_nil (s : σ) : run step s [] = some s := rfl

theorem run_cons (s : σ) (event : ε) (events : List ε) :
    run step s (event :: events) = (step s event).bind (run step · events) := rfl

theorem run_append (s : σ) (first second : List ε) :
    run step s (first ++ second) = (run step s first).bind (run step · second) := by
  simp [run, List.foldlM_append]

theorem run_concat (s : σ) (events : List ε) (event : ε) :
    run step s (events ++ [event]) = (run step s events).bind (step · event) := by
  rw [run_append]
  cases run step s events with
  | none => rfl
  | some middle =>
      change (step middle event).bind some = step middle event
      cases step middle event <;> rfl

variable {step}

/-- **Invariant rule.** What every step preserves, every run preserves. -/
theorem run_invariant {inv : σ → Prop}
    (preserved : ∀ s event s', inv s → step s event = some s' → inv s')
    {s s' : σ} {events : List ε} (start : inv s) (ran : run step s events = some s') :
    inv s' := by
  induction events generalizing s with
  | nil =>
      obtain rfl : s = s' := by simpa using ran
      exact start
  | cons event events inductionHypothesis =>
      obtain ⟨middle, stepped, rest⟩ := Option.bind_eq_some_iff.mp ran
      exact inductionHypothesis (preserved s event middle start stepped) rest

/-- Every step of the run from `s` meets the condition. -/
def StepsMeet (step : σ → ε → Option σ) (condition : σ → ε → Prop) : σ → List ε → Prop
  | _, [] => True
  | s, event :: events =>
      condition s event ∧ ∀ s', step s event = some s' → StepsMeet step condition s' events

instance StepsMeet.decidable {condition : σ → ε → Prop}
    [∀ s event, Decidable (condition s event)] :
    (s : σ) → (events : List ε) → Decidable (StepsMeet step condition s events)
  | _, [] => isTrue trivial
  | s, event :: events =>
      match stepped : step s event with
      | none => decidable_of_iff (condition s event) (by simp [StepsMeet, stepped])
      | some s' =>
          have : Decidable (StepsMeet step condition s' events) := StepsMeet.decidable s' events
          decidable_of_iff (condition s event ∧ StepsMeet step condition s' events)
            (by simp [StepsMeet, stepped])

/-- Events that meet the condition in every state. -/
theorem stepsMeet_of_always {condition : σ → ε → Prop} {events : List ε}
    (always : ∀ event ∈ events, ∀ s, condition s event) (s : σ) :
    StepsMeet step condition s events := by
  induction events generalizing s with
  | nil => trivial
  | cons event events inductionHypothesis =>
      refine ⟨always event List.mem_cons_self s, fun s' _ => inductionHypothesis ?_ s'⟩
      exact fun later member => always later (List.mem_cons_of_mem _ member)

/-- A condition that keeps an invariant may be replaced by what follows from both. -/
theorem StepsMeet.mono_of_invariant {condition weaker : σ → ε → Prop} {inv : σ → Prop}
    (preserved : ∀ s event s', inv s → condition s event → step s event = some s' → inv s')
    (implies : ∀ s event, inv s → condition s event → weaker s event) {s : σ} {events : List ε}
    (start : inv s) (met : StepsMeet step condition s events) :
    StepsMeet step weaker s events := by
  induction events generalizing s with
  | nil => trivial
  | cons event events inductionHypothesis =>
      refine ⟨implies s event start met.1, fun s' stepped => ?_⟩
      exact inductionHypothesis (preserved s event s' start met.1 stepped) (met.2 s' stepped)

theorem StepsMeet.mono {condition weaker : σ → ε → Prop}
    (implies : ∀ s event, condition s event → weaker s event) {s : σ} {events : List ε}
    (met : StepsMeet step condition s events) : StepsMeet step weaker s events :=
  StepsMeet.mono_of_invariant (fun _ _ _ _ _ _ => trivial) (fun s event _ => implies s event)
    trivial met

theorem stepsMeet_append {condition : σ → ε → Prop} {s : σ} {first second : List ε}
    (met : StepsMeet step condition s first)
    (rest : ∀ s', run step s first = some s' → StepsMeet step condition s' second) :
    StepsMeet step condition s (first ++ second) := by
  induction first generalizing s with
  | nil => exact rest s rfl
  | cons event first inductionHypothesis =>
      refine ⟨met.1, fun s' stepped => inductionHypothesis (met.2 s' stepped) ?_⟩
      intro s'' ran
      exact rest s'' (by rw [run_cons, stepped]; exact ran)

/-- What a run meets behind a part of it. -/
theorem stepsMeet_split {condition : σ → ε → Prop} {s s' : σ} {first second : List ε}
    (met : StepsMeet step condition s (first ++ second)) (ran : run step s first = some s') :
    StepsMeet step condition s' second := by
  induction first generalizing s with
  | nil =>
      obtain rfl : s = s' := by simpa using ran
      exact met
  | cons event first inductionHypothesis =>
      obtain ⟨next, stepped, rest⟩ := Option.bind_eq_some_iff.mp ran
      exact inductionHypothesis (met.2 next stepped) rest

/-- What the first part of a run meets. -/
theorem stepsMeet_left {condition : σ → ε → Prop} {s : σ} {first second : List ε}
    (met : StepsMeet step condition s (first ++ second)) : StepsMeet step condition s first := by
  induction first generalizing s with
  | nil => trivial
  | cons event first inductionHypothesis =>
      exact ⟨met.1, fun s' stepped => inductionHypothesis (met.2 s' stepped)⟩

/-- **Invariant rule for runs whose steps all meet a condition.** -/
theorem run_invariant_of_stepsMeet {condition : σ → ε → Prop} {inv : σ → Prop}
    (preserved : ∀ s event s', inv s → condition s event → step s event = some s' → inv s')
    {s s' : σ} {events : List ε} (start : inv s) (met : StepsMeet step condition s events)
    (ran : run step s events = some s') : inv s' := by
  induction events generalizing s with
  | nil =>
      obtain rfl : s = s' := by simpa using ran
      exact start
  | cons event events inductionHypothesis =>
      obtain ⟨middle, stepped, rest⟩ := Option.bind_eq_some_iff.mp ran
      exact inductionHypothesis (preserved s event middle start met.1 stepped)
        (met.2 middle stepped) rest

/-- Two conditions that agree on every step hold on the same runs. -/
theorem stepsMeet_congr {condition property : σ → ε → Prop} {inv : σ → Prop}
    (preserved : ∀ s event s', inv s → step s event = some s' → inv s')
    (agree : ∀ s event s', inv s → step s event = some s' →
      (condition s event ↔ property s event))
    {s s' : σ} {events : List ε} (start : inv s) (ran : run step s events = some s') :
    StepsMeet step condition s events ↔ StepsMeet step property s events := by
  induction events generalizing s with
  | nil => exact Iff.rfl
  | cons event events inductionHypothesis =>
      obtain ⟨next, stepped, rest⟩ := Option.bind_eq_some_iff.mp ran
      have later := inductionHypothesis (preserved s event next start stepped) rest
      simp only [StepsMeet, stepped, Option.some.injEq, forall_eq']
      rw [agree s event next start stepped, later]

/-- **Exactness rule for transitions.** Where a step from a good state has the property
exactly if it meets the condition, and then leads to a good state, every step of a run
has it exactly if all of them meet the condition. -/
theorem stepsMeet_iff_transitions {condition : σ → ε → Prop} {good : σ → Prop}
    {property : σ → ε → σ → Prop}
    (exact : ∀ s event s', good s → step s event = some s' →
      (condition s event ↔ property s event s'))
    (keeps : ∀ s event s', good s → step s event = some s' → property s event s' → good s')
    {s s' : σ} {events : List ε} (start : good s) (ran : run step s events = some s') :
    StepsMeet step condition s events ↔
      ∀ front event back before after, events = front ++ event :: back →
        run step s front = some before → step before event = some after →
        property before event after := by
  induction events generalizing s with
  | nil =>
      refine iff_of_true trivial fun front event back before after shape => ?_
      cases (List.append_eq_nil_iff.mp shape.symm).2
  | cons event events inductionHypothesis =>
      obtain ⟨next, stepped, rest⟩ := Option.bind_eq_some_iff.mp ran
      have here := exact s event next start stepped
      constructor
      · rintro ⟨met, later⟩ front event' back before after shape reached stepped'
        cases front with
        | nil =>
            obtain ⟨rfl, rfl⟩ := List.cons.inj shape
            obtain rfl : s = before := by simpa using reached
            obtain rfl := Option.some.inj (stepped.symm.trans stepped')
            exact here.mp met
        | cons first front =>
            obtain ⟨rfl, rfl⟩ := List.cons.inj shape
            rw [run_cons, stepped] at reached
            have good' := keeps s event next start stepped (here.mp met)
            exact (inductionHypothesis good' rest).mp (later next stepped) front event' back before
              after rfl reached stepped'
      · intro all
        have first : property s event next := all [] event events s next rfl rfl stepped
        refine ⟨here.mpr first, fun other same => ?_⟩
        obtain rfl := Option.some.inj (stepped.symm.trans same)
        apply (inductionHypothesis (keeps s event next start stepped first) rest).mpr
        intro front event' back before after shape reached stepped'
        exact all (event :: front) event' back before after (by rw [shape]; rfl)
          (by rw [run_cons, stepped]; exact reached) stepped'

/-- **Exactness rule.** Where a step keeps the property exactly if it meets the condition,
the property holds all along a run exactly if all of its steps do. -/
theorem stepsMeet_iff_along {condition : σ → ε → Prop} {inv property : σ → Prop}
    (preserved : ∀ s event s', inv s → step s event = some s' → inv s')
    (exact : ∀ s event s', inv s → property s → step s event = some s' →
      (condition s event ↔ property s'))
    {s s' : σ} {events : List ε} (start : inv s) (initially : property s)
    (ran : run step s events = some s') :
    StepsMeet step condition s events ↔
      ∀ front back middle, events = front ++ back → run step s front = some middle →
        property middle := by
  have agrees : ∀ s event s', inv s ∧ property s → step s event = some s' →
      (condition s event ↔ property s') :=
    fun s event s' good stepped => exact s event s' good.1 good.2 stepped
  have keeps : ∀ s event s', inv s ∧ property s → step s event = some s' → property s' →
      inv s' ∧ property s' :=
    fun s event s' good stepped kept => ⟨preserved s event s' good.1 stepped, kept⟩
  rw [stepsMeet_iff_transitions agrees keeps ⟨start, initially⟩ ran]
  constructor
  · intro all front back middle shape reached
    rcases List.eq_nil_or_concat front with rfl | ⟨front, last, rfl⟩
    · obtain rfl : s = middle := by simpa using reached
      exact initially
    · rw [List.concat_eq_append] at shape reached
      rw [run_concat] at reached
      obtain ⟨before, there, stepped⟩ := Option.bind_eq_some_iff.mp reached
      exact all front last back before middle (by rw [shape, List.append_assoc]; rfl) there stepped
  · intro along front event back before after shape reached stepped
    apply along (front ++ [event]) back after (by rw [shape, List.append_assoc]; rfl)
    rw [run_concat, reached]
    exact stepped

/-- **Necessity rule.** Where the steps that meet the condition keep what is good, and a given
step from there that keeps the property meets it, the steps of a run along which the property
holds all meet it. -/
theorem stepsMeet_of_along {condition given : σ → ε → Prop} {good property : σ → Prop}
    (keeps : ∀ s event s', good s → condition s event → step s event = some s' → good s')
    (needs : ∀ s event s', good s → given s event → step s event = some s' → property s' →
      condition s event)
    {s s' : σ} {events : List ε} (start : good s) (supplied : StepsMeet step given s events)
    (ran : run step s events = some s')
    (along : ∀ front back middle, events = front ++ back → run step s front = some middle →
      property middle) : StepsMeet step condition s events := by
  induction events generalizing s with
  | nil => trivial
  | cons event events inductionHypothesis =>
      obtain ⟨next, stepped, rest⟩ := Option.bind_eq_some_iff.mp ran
      have reached : run step s [event] = some next := by rw [run_cons, stepped]; rfl
      have first : condition s event :=
        needs s event next start supplied.1 stepped (along [event] events next rfl reached)
      refine ⟨first, fun other same => ?_⟩
      obtain rfl := Option.some.inj (stepped.symm.trans same)
      refine inductionHypothesis (keeps s event next start first stepped)
        (supplied.2 next stepped) rest fun front back middle shape later => ?_
      exact along (event :: front) back middle (congrArg (event :: ·) shape)
        (by rw [run_cons, stepped]; exact later)

/-! ### What happened since -/

section Since

variable (step) (happens : σ → ε → Prop) (clears : ε → Prop) (start : σ)

/-- Something happened at one of the events, and none behind it has cleared it. -/
def HappenedSince (events : List ε) : Prop :=
  ∃ front event back s, events = front ++ event :: back ∧ run step start front = some s ∧
    happens s event ∧ ∀ later ∈ back, ¬ clears later

variable {step happens clears start}

theorem not_happenedSince_nil : ¬ HappenedSince step happens clears start [] := by
  rintro ⟨front, event, back, -, shape, -⟩
  cases front <;> cases shape

theorem happenedSince_concat {s : σ} {events : List ε} {event : ε}
    (ran : run step start events = some s) :
    HappenedSince step happens clears start (events ++ [event]) ↔
      happens s event ∨ HappenedSince step happens clears start events ∧ ¬ clears event := by
  constructor
  · rintro ⟨front, first, back, before, shape, reached, happened, since⟩
    rcases List.eq_nil_or_concat back with rfl | ⟨back, last, rfl⟩
    · obtain ⟨rfl, same⟩ := List.append_inj' shape rfl
      obtain rfl : event = first := List.singleton_inj.mp same
      rw [ran] at reached
      exact Or.inl (Option.some.inj reached ▸ happened)
    · rw [List.concat_eq_append, ← List.cons_append, ← List.append_assoc] at shape
      obtain ⟨rfl, same⟩ := List.append_inj' shape rfl
      obtain rfl : event = last := List.singleton_inj.mp same
      refine Or.inr ⟨⟨front, first, back, before, rfl, reached, happened, ?_⟩, ?_⟩
      · intro later member
        exact since later (by simp [member])
      · exact since event (by simp)
  · rintro (happened | ⟨⟨front, first, back, before, rfl, reached, happened, since⟩, kept⟩)
    · exact ⟨events, event, [], s, rfl, ran, happened, by simp⟩
    · refine ⟨front, first, back ++ [event], before, by simp, reached, happened, ?_⟩
      intro later member
      rcases List.mem_append.mp member with inside | last
      · exact since later inside
      · exact List.mem_singleton.mp last ▸ kept

/-- **Invariant rule with a history.** The invariant may speak of whether something
happened that was not cleared since. -/
theorem run_invariant_happenedSince (inv : σ → Prop → Prop)
    (preserved : ∀ s event s' happened, inv s happened → step s event = some s' →
      inv s' (happens s event ∨ happened ∧ ¬ clears event))
    {s' : σ} {events : List ε} (initially : inv start False)
    (ran : run step start events = some s') :
    inv s' (HappenedSince step happens clears start events) := by
  induction events using List.reverseRecOn generalizing s' with
  | nil =>
      obtain rfl : start = s' := by simpa using ran
      rwa [eq_false not_happenedSince_nil]
  | append_singleton events event inductionHypothesis =>
      rw [run_concat] at ran
      obtain ⟨s, before, stepped⟩ := Option.bind_eq_some_iff.mp ran
      rw [propext (happenedSince_concat before)]
      exact preserved s event s' _ (inductionHypothesis before) stepped

end Since

section Completion

variable {β : Type*} {tracks : σ → β → Prop} {next : β → ε → β} {safe : β → ε → Prop}

/-- **Completion rule.** Where what can happen next is decided by a summary of the state, and
the summary behind a step by the summary before it, a run goes through exactly if every one
of its events is safe in the summary of the events before it. -/
theorem run_isSome_iff
    (goesOn : ∀ s b event, tracks s b → safe b event →
      ∃ s', tracks s' (next b event) ∧ step s event = some s')
    (stops : ∀ s b event, tracks s b → ¬ safe b event → step s event = none)
    {s : σ} {b : β} (start : tracks s b) (events : List ε) :
    (run step s events).isSome ↔
      ∀ front event back, events = front ++ event :: back → safe (front.foldl next b) event := by
  induction events generalizing s b with
  | nil =>
      refine iff_of_true rfl ?_
      intro front event back shape
      cases front <;> cases shape
  | cons event events inductionHypothesis =>
      rw [run_cons]
      by_cases first : safe b event
      · obtain ⟨s', tracked, stepped⟩ := goesOn s b event start first
        rw [stepped, Option.bind_some, inductionHypothesis tracked]
        constructor
        · intro later front other back shape
          cases front with
          | nil =>
              obtain ⟨rfl, -⟩ := List.cons_eq_cons.mp shape
              exact first
          | cons head front =>
              obtain ⟨rfl, rest⟩ := List.cons_eq_cons.mp shape
              exact later front other back rest
        · intro all front other back shape
          exact all (event :: front) other back (congrArg (event :: ·) shape)
      · rw [stops s b event start first]
        refine iff_of_false (by simp) ?_
        intro all
        exact first (all [] event events rfl)

end Completion

end RildHisi.Library
