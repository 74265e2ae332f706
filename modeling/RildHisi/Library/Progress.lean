import RildHisi.Library.Runs

/-!
Owns progress of one party of a machine in the steps of its own: `LeadsTo` says that
whatever the others do, the goal is reached after a bounded number of them, and that
one is possible until then. It is proved by a measure that own steps lower and the
others do not raise.
-/

namespace RildHisi.Library

variable {σ ε : Type*} (step : σ → ε → Option σ) (own : ε → Bool) (ready goal : σ → Prop)

/-- After every run from `s` the goal is reached, or the party can go on and has made fewer
steps than the bound. -/
def LeadsTo (s : σ) : Prop :=
  ∃ bound, ∀ events s', run step s events = some s' →
    goal s' ∨ ready s' ∧ events.countP own < bound

variable {step own ready goal}

theorem LeadsTo.now {s : σ} (leads : LeadsTo step own ready goal s) : goal s ∨ ready s := by
  obtain ⟨bound, reached⟩ := leads
  exact (reached [] s rfl).imp_right And.left

/-- Steps do not lose it. -/
theorem LeadsTo.after {s s' : σ} {event : ε} (leads : LeadsTo step own ready goal s)
    (stepped : step s event = some s') : LeadsTo step own ready goal s' := by
  obtain ⟨bound, reached⟩ := leads
  refine ⟨bound, fun events s'' ran => ?_⟩
  have whole : run step s (event :: events) = some s'' := by rw [run_cons, stepped]; exact ran
  refine (reached (event :: events) s'' whole).imp_right fun ⟨isReady, few⟩ => ⟨isReady, ?_⟩
  rw [List.countP_cons] at few
  omega

/-- **Progress rule.** A measure that no step raises and own steps lower. -/
theorem LeadsTo.of_measure {inv : σ → Prop} (measure : σ → Nat)
    (preserved : ∀ s event s', inv s → step s event = some s' → inv s')
    (stays : ∀ s event s', inv s → goal s → step s event = some s' → goal s')
    (isReady : ∀ s, inv s → goal s ∨ ready s)
    (falls : ∀ s event s', inv s → step s event = some s' →
      goal s' ∨ measure s' + (if own event then 1 else 0) ≤ measure s)
    {s : σ} (start : inv s) : LeadsTo step own ready goal s := by
  have reached (events : List ε) (s s' : σ) (start : inv s) (ran : run step s events = some s') :
      goal s' ∨ ready s' ∧ measure s' + events.countP own ≤ measure s := by
    induction events using List.reverseRecOn generalizing s' with
    | nil =>
        obtain rfl : s = s' := by simpa using ran
        exact (isReady s start).imp_right fun isReady => ⟨isReady, by simp⟩
    | append_singleton events event inductionHypothesis =>
        rw [run_concat] at ran
        obtain ⟨middle, before, stepped⟩ := Option.bind_eq_some_iff.mp ran
        have good := run_invariant preserved start before
        have after := isReady s' (preserved middle event s' good stepped)
        rcases inductionHypothesis middle before with done | ⟨-, few⟩
        · exact Or.inl (stays middle event s' good done stepped)
        · rcases falls middle event s' good stepped with done | fallen
          · exact Or.inl done
          · refine after.imp_right fun isReady => ⟨isReady, ?_⟩
            rw [List.countP_append, List.countP_singleton]
            omega
  refine ⟨measure s + 1, fun events s' ran => ?_⟩
  refine (reached events s s' start ran).imp_right fun ⟨isReady, few⟩ => ⟨isReady, ?_⟩
  omega

end RildHisi.Library
