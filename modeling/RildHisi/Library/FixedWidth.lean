import Mathlib.Data.List.Basic

/-!
Owns records of a fixed width on a stream: each is encoded in so many symbols, and a list
of them is their encodings one behind the other. A list is read back as it was written, and
what is read is written back block by block in its normal form.
-/

namespace RildHisi.Library

universe u v

/-- A record of fixed width. Decoding ignores what is behind it, and may ignore some of
what it reads: `normalize` says what is left of a block. -/
structure FixedWidth (β : Type u) (α : Type v) where
  width : Nat
  encode : α → List β
  decode : List β → α
  normalize : List β → List β
  length_encode : ∀ value, (encode value).length = width
  decode_encode : ∀ value rest, decode (encode value ++ rest) = value
  encode_decode : ∀ stream, width ≤ stream.length →
    encode (decode stream) = normalize (stream.take width)

namespace FixedWidth

variable {β : Type u} {α : Type v} (codec : FixedWidth β α)

/-- The first `count` records of a stream. -/
def elements : Nat → List β → List α
  | 0, _ => []
  | count + 1, stream => codec.decode stream :: elements count (stream.drop codec.width)

/-- The first `count` blocks of a stream in their normal form. -/
def normalized : Nat → List β → List β
  | 0, _ => []
  | count + 1, stream =>
      codec.normalize (stream.take codec.width) ++ normalized count (stream.drop codec.width)

@[simp] theorem length_elements (count : Nat) (stream : List β) :
    (codec.elements count stream).length = count := by
  induction count generalizing stream with
  | zero => rfl
  | succ count inductionHypothesis => simp [elements, inductionHypothesis]

theorem length_flatMap_encode (values : List α) :
    (values.flatMap codec.encode).length = codec.width * values.length := by
  induction values with
  | nil => rfl
  | cons value values inductionHypothesis =>
      rw [List.flatMap_cons, List.length_append, codec.length_encode, inductionHypothesis,
        List.length_cons, Nat.mul_succ, Nat.add_comm]

/-- **What was written is read.** -/
theorem elements_flatMap (values : List α) (rest : List β) :
    codec.elements values.length (values.flatMap codec.encode ++ rest) = values := by
  induction values with
  | nil => rfl
  | cons value values inductionHypothesis =>
      have behind : ((codec.encode value ++ (values.flatMap codec.encode ++ rest))).drop
          codec.width = values.flatMap codec.encode ++ rest := by
        rw [← codec.length_encode value, List.drop_left]
      rw [List.flatMap_cons, List.append_assoc, List.length_cons, elements, codec.decode_encode,
        behind, inductionHypothesis]

/-- **What was read is written back** in its normal form. -/
theorem flatMap_elements {count : Nat} {stream : List β}
    (enough : codec.width * count ≤ stream.length) :
    (codec.elements count stream).flatMap codec.encode = codec.normalized count stream := by
  induction count generalizing stream with
  | zero => rfl
  | succ count inductionHypothesis =>
      rw [Nat.mul_succ] at enough
      have behind : codec.width * count ≤ (stream.drop codec.width).length := by
        rw [List.length_drop]
        omega
      rw [elements, normalized, List.flatMap_cons, codec.encode_decode stream (by omega),
        inductionHypothesis behind]

/-- Where the blocks are in their normal form, nothing changes. -/
theorem normalized_eq_take {count : Nat} {stream : List β}
    (normal : ∀ block, codec.normalize block = block) :
    codec.normalized count stream = stream.take (codec.width * count) := by
  induction count generalizing stream with
  | zero => rfl
  | succ count inductionHypothesis =>
      rw [normalized, normal, inductionHypothesis, Nat.mul_succ, Nat.add_comm, List.take_add]

end FixedWidth

end RildHisi.Library
