import RildHisi.Library.Chunks

/-!
Owns computations whose loops get a number of turns, and are none with too few. One that
settles comes to its value with turns enough and never to another; a loop that goes round
for ever is none with any number. The read loop is the one that calls `recv` until it is full.
-/

namespace RildHisi.Library

/-! ### Settling -/

/-- What the computation comes to, none where it goes round for ever. -/
inductive Settles {α : Type*} (run : ℕ → Option α) : Option α → Prop
  | ends (value : α) (enough : ℕ) (reached : ∀ turns, enough ≤ turns → run turns = some value)
      (only : ∀ turns, run turns = none ∨ run turns = some value) : Settles run (some value)
  | spins (never : ∀ turns, run turns = none) : Settles run none

namespace Settles

variable {α β : Type*} {run : ℕ → Option α}

theorem always (value : α) : Settles (fun _ => some value) (some value) :=
  .ends value 0 (fun _ _ => rfl) (fun _ => Or.inr rfl)

/-- It comes to a value with some number of turns exactly if it settles there. -/
theorem exists_eq_some_iff {result : Option α} (settles : Settles run result) (value : α) :
    (∃ turns, run turns = some value) ↔ result = some value := by
  cases settles with
  | ends last enough reached only =>
      constructor
      · rintro ⟨turns, came⟩
        rcases only turns with none' | same
        · rw [none'] at came
          cases came
        · rw [← same, came]
      · intro same
        exact ⟨enough, (reached enough (Nat.le_refl enough)).trans same⟩
  | spins never =>
      apply iff_of_false
      · rintro ⟨turns, came⟩
        rw [never] at came
        cases came
      · intro same
        cases same

/-- One turn more is needed. -/
theorem turn {result : Option α} (settles : Settles run result) (longer : ℕ → Option α)
    (first : longer 0 = none) (later : ∀ turns, longer (turns + 1) = run turns) :
    Settles longer result := by
  cases settles with
  | ends value enough reached only =>
      apply Settles.ends value (enough + 1)
      · intro turns above
        cases turns with
        | zero => omega
        | succ turns => rw [later, reached turns (by omega)]
      · intro turns
        cases turns with
        | zero => exact Or.inl first
        | succ turns =>
            rw [later]
            exact only turns
  | spins never =>
      apply Settles.spins
      intro turns
      cases turns with
      | zero => exact first
      | succ turns => rw [later, never]

theorem map {result : Option α} (settles : Settles run result) (f : α → β) :
    Settles (fun turns => (run turns).map f) (result.map f) := by
  cases settles with
  | ends value enough reached only =>
      apply Settles.ends (f value) enough
      · intro turns above
        rw [reached turns above, Option.map_some]
      · intro turns
        rcases only turns with none' | same
        · exact Or.inl (by rw [none', Option.map_none])
        · exact Or.inr (by rw [same, Option.map_some])
  | spins never =>
      apply Settles.spins
      intro turns
      rw [never, Option.map_none]

/-- What follows a value that it comes to. -/
theorem bind {value : α} {next : ℕ → α → Option β} {result : Option β}
    (first : Settles run (some value)) (second : Settles (fun turns => next turns value) result) :
    Settles (fun turns => (run turns).bind (next turns)) result := by
  cases first with
  | ends _ enough reached only =>
      cases second with
      | ends last enough' reached' only' =>
          apply Settles.ends last (max enough enough')
          · intro turns above
            rw [reached turns (Nat.le_trans (Nat.le_max_left _ _) above), Option.bind_some,
              reached' turns (Nat.le_trans (Nat.le_max_right _ _) above)]
          · intro turns
            rcases only turns with none' | same
            · exact Or.inl (by rw [none', Option.bind_none])
            · rw [same, Option.bind_some]
              exact only' turns
      | spins never =>
          apply Settles.spins
          intro turns
          rcases only turns with none' | same
          · rw [none', Option.bind_none]
          · rw [same, Option.bind_some, never]

theorem bind_spins {next : ℕ → α → Option β} (first : Settles run none) :
    Settles (fun turns => (run turns).bind (next turns)) none := by
  cases first with
  | spins never =>
      apply Settles.spins
      intro turns
      rw [never, Option.bind_none]

/-! With exceptions: what follows a value, and an exception that nothing follows. -/

section

variable {ε γ δ : Type} {first : ℕ → ExceptT ε Option γ} {next : ℕ → γ → ExceptT ε Option δ}

theorem bind_ok {value : γ} {result : Option (Except ε δ)}
    (settles : Settles (fun turns => (first turns).run) (some (.ok value)))
    (behind : Settles (fun turns => (next turns value).run) result) :
    Settles (fun turns => (first turns >>= next turns).run) result :=
  settles.bind behind

theorem bind_error {error : ε}
    (settles : Settles (fun turns => (first turns).run) (some (.error error))) :
    Settles (fun turns => (first turns >>= next turns).run) (some (.error error)) := by
  apply settles.bind
  exact always (Except.error error : Except ε δ)

theorem bind_never (settles : Settles (fun turns => (first turns).run) none) :
    Settles (fun turns => (first turns >>= next turns).run) none :=
  settles.bind_spins

end

end Settles

/-! ### The read loop -/

variable {β : Type*}

/-- What a loop does when `recv` brings nothing: it returns, or calls it again. -/
inductive AtEnd
  | returns
  | goesOn
  deriving DecidableEq

/-- The bytes of a call, put in front of those that the loop brings behind it. -/
def behindTurn (byte : β) (bytes : List β) (behind : Option (List β) × List (List β)) :
    Option (List β) × List (List β) :=
  (behind.1.map (byte :: bytes ++ ·), behind.2)

/-- Calls of `recv` until so many bytes are there. They are none if it returned at the end. -/
def receiveLoop (atEnd : AtEnd) :
    ℕ → ℕ → List (List β) → Option (Option (List β) × List (List β))
  | _, 0, chunks => some (some [], chunks)
  | 0, _ + 1, _ => none
  | turns + 1, count + 1, chunks =>
      match recv (count + 1) chunks with
      | ([], chunks) =>
          match atEnd with
          | .returns => some (none, chunks)
          | .goesOn => receiveLoop atEnd turns (count + 1) chunks
      | (byte :: bytes, chunks) =>
          (receiveLoop atEnd turns (count - bytes.length) chunks).map (behindTurn byte bytes)

/-- A call takes bytes off the front of the stream. -/
theorem recv_front {chunks : List (List β)} {stream : List β} (cut : Cut chunks stream)
    (count : ℕ) :
    ∃ rest, stream = (recv count chunks).1 ++ rest ∧ Cut (recv count chunks).2 rest ∧
      (recv count chunks).1.length ≤ count := by
  cases chunks with
  | nil =>
      obtain rfl : [] = stream := cut.2
      exact ⟨[], rfl, cut, Nat.zero_le count⟩
  | cons chunk chunks =>
      obtain ⟨solid, same⟩ := cut
      have others : ∀ other ∈ chunks, other ≠ [] :=
        fun other member => solid other (List.mem_cons_of_mem _ member)
      rw [List.flatten_cons] at same
      rw [recv]
      split_ifs with whole
      · exact ⟨chunks.flatten, same.symm, ⟨others, rfl⟩, whole⟩
      · refine ⟨chunk.drop count ++ chunks.flatten, ?_, ⟨?_, rfl⟩, ?_⟩
        · rw [← List.append_assoc, List.take_append_drop, same]
        · intro other member
          rcases List.mem_cons.mp member with rfl | old
          · apply List.ne_nil_of_length_pos
            rw [List.length_drop]
            omega
          · exact others other old
        · rw [List.length_take]
          exact Nat.min_le_left _ _

/-- What a loop comes to that the stream is too short for. -/
def AtEnd.outcome : AtEnd → Option (Option (List β) × List (List β))
  | returns => some (none, [])
  | goesOn => none

/-- At the end of the stream the loop returns or goes round for ever. -/
theorem receiveLoop_nil (atEnd : AtEnd) (count : ℕ) :
    Settles (fun turns => receiveLoop (β := β) atEnd turns (count + 1) []) atEnd.outcome := by
  cases atEnd with
  | returns =>
      exact (Settles.always (none, [])).turn _ rfl fun turns => rfl
  | goesOn =>
      apply Settles.spins
      intro turns
      induction turns with
      | zero => rfl
      | succ turns inductionHypothesis => exact inductionHypothesis

section

variable {chunks : List (List β)} {stream : List β} (cut : Cut chunks stream)

include cut

/-- One call before the end, and what is left to do. -/
theorem receiveLoop_turn (atEnd : AtEnd) (more : stream ≠ []) (count : ℕ) :
    ∃ byte bytes rest left, stream = (byte :: bytes) ++ rest ∧ Cut left rest ∧
      bytes.length ≤ count ∧ ∀ turns, receiveLoop atEnd (turns + 1) (count + 1) chunks =
        (receiveLoop atEnd turns (count - bytes.length) left).map (behindTurn byte bytes) := by
  have positive := recv_pos cut more (Nat.succ_pos count)
  obtain ⟨rest, same, behind, small⟩ := recv_front cut (count + 1)
  cases came : recv (count + 1) chunks with
  | mk taken left =>
      rw [came] at positive same behind small
      cases taken with
      | nil => exact absurd positive (Nat.lt_irrefl 0)
      | cons byte bytes =>
          refine ⟨byte, bytes, rest, left, same, behind, Nat.le_of_succ_le_succ small, ?_⟩
          intro turns
          rw [receiveLoop, came]

/-- **The bytes are there**: the loop brings them, however the stream is cut. -/
theorem receiveLoop_of_cut (atEnd : AtEnd) {count : ℕ} (enough : count ≤ stream.length) :
    ∃ left, Cut left (stream.drop count) ∧
      Settles (fun turns => receiveLoop atEnd turns count chunks)
        (some (some (stream.take count), left)) := by
  induction count using Nat.strongRecOn generalizing chunks stream with
  | ind count inductionHypothesis =>
      cases count with
      | zero =>
          refine ⟨chunks, cut, ?_⟩
          have done (turns : ℕ) : receiveLoop atEnd turns 0 chunks = some (some [], chunks) := by
            cases turns <;> rfl
          simp only [done, List.take_zero]
          exact Settles.always _
      | succ count =>
          have more : stream ≠ [] := by
            rintro rfl
            exact Nat.not_succ_le_zero count enough
          obtain ⟨byte, bytes, rest, left, rfl, behind, small, turn⟩ :=
            receiveLoop_turn cut atEnd more count
          have others : count - bytes.length ≤ rest.length := by
            rw [List.length_append, List.length_cons] at enough
            omega
          obtain ⟨last, cut', settles⟩ :=
            inductionHypothesis (count - bytes.length) (by omega) behind others
          have whole : count + 1 = (byte :: bytes).length + (count - bytes.length) := by
            rw [List.length_cons]
            omega
          refine ⟨last, ?_, ?_⟩
          · rw [whole, List.drop_length_add_append]
            exact cut'
          · rw [whole, List.take_length_add_append, ← whole]
            exact (settles.map (behindTurn byte bytes)).turn _ rfl turn

/-- **The stream ends before**: the loop returns with nothing, or goes round for ever. -/
theorem receiveLoop_of_short (atEnd : AtEnd) {count : ℕ} (short : stream.length < count) :
    Settles (fun turns => receiveLoop atEnd turns count chunks) atEnd.outcome := by
  induction count using Nat.strongRecOn generalizing chunks stream with
  | ind count inductionHypothesis =>
      cases count with
      | zero => exact absurd short (Nat.not_lt_zero _)
      | succ count =>
          by_cases more : stream = []
          · rw [more] at cut
            rw [cut.eq_nil]
            exact receiveLoop_nil atEnd count
          · obtain ⟨byte, bytes, rest, left, rfl, behind, small, turn⟩ :=
              receiveLoop_turn cut atEnd more count
            have others : rest.length < count - bytes.length := by
              rw [List.length_append, List.length_cons] at short
              omega
            have settles := inductionHypothesis (count - bytes.length) (by omega) behind others
            have mapped := (settles.map (behindTurn byte bytes)).turn
              (fun turns => receiveLoop atEnd turns (count + 1) chunks) rfl turn
            cases atEnd with
            | returns => exact mapped
            | goesOn => exact mapped

theorem receiveLoop_cases (atEnd : AtEnd) (count : ℕ) :
    (count ≤ stream.length ∧ ∃ left, Cut left (stream.drop count) ∧
      Settles (fun turns => receiveLoop atEnd turns count chunks)
        (some (some (stream.take count), left))) ∨
      (stream.length < count ∧
        Settles (fun turns => receiveLoop atEnd turns count chunks) atEnd.outcome) := by
  rcases Nat.lt_or_ge stream.length count with short | enough
  · exact Or.inr ⟨short, receiveLoop_of_short cut atEnd short⟩
  · exact Or.inl ⟨enough, receiveLoop_of_cut cut atEnd enough⟩

end

end RildHisi.Library
