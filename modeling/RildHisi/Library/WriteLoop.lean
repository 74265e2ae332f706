import Mathlib.Data.List.Basic

/-!
Owns the loop that hands a string of bytes to `write(2)` until all of it is
taken: interrupted calls are repeated, short ones continued, and the first
failure ends the loop. What the calls come to is a script; once it is used up,
every call takes all it is given.
-/

namespace RildHisi.Library

/-- What one `write` call comes to. -/
inductive WriteOutcome
  /-- `-1` with `EINTR`. -/
  | interrupted
  /-- `-1` with another error. -/
  | failed
  /-- At most this many bytes are taken. -/
  | wrote (count : Nat)
  deriving DecidableEq, Repr

/-- What a write loop leaves: the bytes taken, the script left, whether the loop
reached the end of the string. -/
structure Written (β : Type*) where
  bytes : List β
  script : List WriteOutcome
  complete : Bool
  deriving DecidableEq

variable {β : Type*}

/-- `while (cur < len)` around `do { written = write(..) } while (EINTR)`. -/
def writeLoop : List WriteOutcome → List β → Written β
  | script, [] => ⟨[], script, true⟩
  | [], bytes => ⟨bytes, [], true⟩
  | .interrupted :: script, bytes => writeLoop script bytes
  | .failed :: script, _ => ⟨[], script, false⟩
  | .wrote count :: script, bytes =>
      let behind := writeLoop script (bytes.drop count)
      { behind with bytes := bytes.take count ++ behind.bytes }

@[simp] theorem writeLoop_nil (script : List WriteOutcome) :
    writeLoop script ([] : List β) = ⟨[], script, true⟩ := by
  cases script with
  | nil => rfl
  | cons outcome script => cases outcome <;> rfl

@[simp] theorem writeLoop_exhausted (bytes : List β) :
    writeLoop [] bytes = ⟨bytes, [], true⟩ := by
  cases bytes <;> rfl

/-- A loop that reaches the end of the string has written all of it. -/
theorem writeLoop_complete {script : List WriteOutcome} {bytes : List β}
    (complete : (writeLoop script bytes).complete = true) :
    (writeLoop script bytes).bytes = bytes := by
  induction script generalizing bytes with
  | nil => simp
  | cons outcome script inductionHypothesis =>
      cases bytes with
      | nil => simp
      | cons b rest =>
          cases outcome with
          | interrupted => exact inductionHypothesis complete
          | failed => cases complete
          | wrote count =>
              have behind : (writeLoop script ((b :: rest).drop count)).bytes =
                  (b :: rest).drop count := inductionHypothesis complete
              change (b :: rest).take count ++ (writeLoop script ((b :: rest).drop count)).bytes
                = b :: rest
              rw [behind, List.take_append_drop]

/-- No call of the script fails. -/
def NeverFails (script : List WriteOutcome) : Prop := WriteOutcome.failed ∉ script

instance (script : List WriteOutcome) : Decidable (NeverFails script) :=
  inferInstanceAs (Decidable (_ ∉ script))

/-- Without a failure the loop ends, and so does the next one. -/
theorem writeLoop_of_neverFails {script : List WriteOutcome} (clean : NeverFails script)
    (bytes : List β) :
    (writeLoop script bytes).complete = true ∧ NeverFails (writeLoop script bytes).script := by
  induction script generalizing bytes with
  | nil => simpa using clean
  | cons outcome script inductionHypothesis =>
      have rest : NeverFails script := fun member => clean (List.mem_cons_of_mem _ member)
      cases bytes with
      | nil => simpa using clean
      | cons b tail =>
          cases outcome with
          | interrupted => exact inductionHypothesis rest (b :: tail)
          | failed => exact absurd List.mem_cons_self clean
          | wrote count => exact inductionHypothesis rest ((b :: tail).drop count)

end RildHisi.Library
