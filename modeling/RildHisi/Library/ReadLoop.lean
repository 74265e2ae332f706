import Mathlib.Data.List.Basic

/-!
Owns the loop that takes values off the front of its input, as readers of tagged fields do.
A turn fails, ends the loop, or goes on with less input; so one turn more than the input is
long is always enough, and the loop is known by what each of its turns does.
-/

namespace RildHisi.Library

/-- What a turn comes to where it does not fail. -/
inductive ReadTurn (σ β ρ : Type*)
  | goesOn (state : σ) (rest : List β)
  | ends (result : ρ)

section

variable {σ β ρ : Type*}

/-- The loop with a bound on its turns. -/
def readTurns (turn : σ → List β → Option (ReadTurn σ β ρ)) : ℕ → σ → List β → Option ρ
  | 0, _, _ => none
  | turns + 1, state, input =>
      match turn state input with
      | none => none
      | some (.ends result) => some result
      | some (.goesOn state rest) => readTurns turn turns state rest

def readLoop (turn : σ → List β → Option (ReadTurn σ β ρ)) (state : σ) (input : List β) :
    Option ρ :=
  readTurns turn (input.length + 1) state input

/-- A turn that goes on has taken something. -/
def Shortens (turn : σ → List β → Option (ReadTurn σ β ρ)) : Prop :=
  ∀ state input state' rest, turn state input = some (.goesOn state' rest) →
    rest.length < input.length

variable {turn : σ → List β → Option (ReadTurn σ β ρ)}

theorem readTurns_eq_of_lt (shortens : Shortens turn) {turns turns' : ℕ} {state : σ}
    {input : List β} (enough : input.length < turns) (enough' : input.length < turns') :
    readTurns turn turns state input = readTurns turn turns' state input := by
  induction turns generalizing turns' state input with
  | zero => exact absurd enough (Nat.not_lt_zero _)
  | succ turns inductionHypothesis =>
      cases turns' with
      | zero => exact absurd enough' (Nat.not_lt_zero _)
      | succ turns' =>
          rw [readTurns, readTurns]
          cases came : turn state input with
          | none => rfl
          | some outcome =>
              cases outcome with
              | ends result => rfl
              | goesOn state' rest =>
                  have shorter := shortens state input state' rest came
                  show readTurns turn turns state' rest = readTurns turn turns' state' rest
                  exact inductionHypothesis (by omega) (by omega)

/-! ### What a turn does -/

theorem readLoop_of_fails {state : σ} {input : List β} (fails : turn state input = none) :
    readLoop turn state input = none := by
  rw [readLoop, readTurns, fails]

theorem readLoop_of_ends {state : σ} {input : List β} {result : ρ}
    (ends : turn state input = some (.ends result)) : readLoop turn state input = some result := by
  rw [readLoop, readTurns, ends]

theorem readLoop_of_goesOn (shortens : Shortens turn) {state state' : σ} {input rest : List β}
    (goesOn : turn state input = some (.goesOn state' rest)) :
    readLoop turn state input = readLoop turn state' rest := by
  have shorter := shortens state input state' rest goesOn
  rw [readLoop, readTurns, goesOn]
  show readTurns turn input.length state' rest = readLoop turn state' rest
  exact readTurns_eq_of_lt shortens shorter (Nat.lt_succ_self _)

/-! ### Rules -/

/-- **Invariant rule.** What every turn keeps, the result is made of. -/
theorem readLoop_invariant (shortens : Shortens turn) (inv : σ → Prop) {good : ρ → Prop}
    (preserved : ∀ state input state' rest, inv state →
      turn state input = some (.goesOn state' rest) → inv state')
    (ended : ∀ state input result, inv state → turn state input = some (.ends result) →
      good result)
    {state : σ} {input : List β} {result : ρ} (initially : inv state)
    (came : readLoop turn state input = some result) : good result := by
  induction size : input.length using Nat.strongRecOn generalizing state input with
  | ind size inductionHypothesis =>
      cases outcome : turn state input with
      | none =>
          rw [readLoop_of_fails outcome] at came
          cases came
      | some first =>
          cases first with
          | ends last =>
              rw [readLoop_of_ends outcome] at came
              obtain rfl := Option.some.inj came
              exact ended state input last initially outcome
          | goesOn state' rest =>
              have shorter := shortens state input state' rest outcome
              rw [readLoop_of_goesOn shortens outcome] at came
              exact inductionHypothesis rest.length (size ▸ shorter)
                (preserved state input state' rest initially outcome) came rfl

end

/-- **Replacement rule.** A loop comes to what another computation does from related states,
if that agrees with each of its turns. -/
theorem readLoop_eq {σ τ β ρ : Type*} {turn : σ → List β → Option (ReadTurn σ β ρ)}
    (shortens : Shortens turn) {other : τ → List β → Option ρ}
    (related : σ → List β → τ → List β → Prop)
    (fails : ∀ state input state' input', related state input state' input' →
      turn state input = none → other state' input' = none)
    (ends : ∀ state input state' input' result, related state input state' input' →
      turn state input = some (.ends result) → other state' input' = some result)
    (goesOn : ∀ state input state' input' later rest, related state input state' input' →
      turn state input = some (.goesOn later rest) → ∃ later' rest',
        related later rest later' rest' ∧ other state' input' = other later' rest')
    {state : σ} {input : List β} {state' : τ} {input' : List β}
    (start : related state input state' input') :
    readLoop turn state input = other state' input' := by
  induction size : input.length using Nat.strongRecOn generalizing state input state' input' with
  | ind size inductionHypothesis =>
      cases outcome : turn state input with
      | none => rw [readLoop_of_fails outcome, fails _ _ _ _ start outcome]
      | some result =>
          cases result with
          | ends last => rw [readLoop_of_ends outcome, ends _ _ _ _ _ start outcome]
          | goesOn later rest =>
              obtain ⟨later', rest', after, same⟩ := goesOn _ _ _ _ _ _ start outcome
              have shorter := shortens state input later rest outcome
              rw [readLoop_of_goesOn shortens outcome, same]
              exact inductionHypothesis rest.length (size ▸ shorter) after rfl

end RildHisi.Library
