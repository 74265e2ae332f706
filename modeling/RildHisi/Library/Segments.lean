import Mathlib.Data.List.Basic
import Mathlib.Data.List.TakeWhile

/-!
Owns the plain splitter of a stream at separators: `segments` lists, in order,
the non-empty stretches that a separator ends. What follows the last separator
is not a segment, and empty stretches between separators are not listed.

The lemmas are the ones an incremental reader needs: separators in front change
nothing, and the first complete segment can be taken off the front.
-/

namespace RildHisi.Library

variable {α : Type*} (isSep : α → Bool)

/-- The non-empty stretches of `stream` that a separator ends. -/
noncomputable def segments (stream : List α) : List (List α) :=
  ((stream.splitOnP isSep).dropLast).filter (fun stretch => !stretch.isEmpty)

variable {isSep}

theorem segments_of_no_sep {stream : List α} (open' : ∀ c ∈ stream, isSep c = false) :
    segments isSep stream = [] := by
  simp [segments, List.splitOnP_eq_singleton open']

theorem segments_cons_sep {c : α} (sep : isSep c = true) (stream : List α) :
    segments isSep (c :: stream) = segments isSep stream := by
  obtain ⟨head, tail, shape⟩ :=
    List.exists_cons_of_ne_nil (List.splitOnP_ne_nil isSep stream)
  simp [segments, List.splitOnP_cons_eq_if_modifyHead, sep, shape]

/-- Separators in front of a stream start no segment. -/
theorem segments_append_seps {seps : List α} (all : ∀ c ∈ seps, isSep c = true)
    (stream : List α) : segments isSep (seps ++ stream) = segments isSep stream := by
  induction seps with
  | nil => rfl
  | cons c rest inductionHypothesis =>
      rw [List.cons_append, segments_cons_sep (all c (by simp)),
        inductionHypothesis (fun d member => all d (by simp [member]))]

/-- The first complete segment comes off the front. -/
theorem segments_segment_append {segment : List α} {c : α}
    (nonempty : segment ≠ []) (open' : ∀ d ∈ segment, isSep d = false)
    (sep : isSep c = true) (stream : List α) :
    segments isSep (segment ++ c :: stream) = segment :: segments isSep stream := by
  obtain ⟨head, tail, shape⟩ :=
    List.exists_cons_of_ne_nil (List.splitOnP_ne_nil isSep stream)
  have split := List.splitOnP_append_cons_of_forall_mem open' c sep stream
  have kept : (!segment.isEmpty) = true := by simpa using nonempty
  simp [segments, split, shape, kept]

/-! ### The first segment of a stream -/

/-- A stream has a first separator, or none. -/
theorem exists_first_sep (isSep : α → Bool) (stream : List α) :
    (∀ d ∈ stream, isSep d = false) ∨ ∃ front c rest, stream = front ++ c :: rest ∧
      (∀ d ∈ front, isSep d = false) ∧ isSep c = true := by
  induction stream with
  | nil => exact Or.inl (by simp)
  | cons c stream inductionHypothesis =>
      cases sep : isSep c with
      | true => exact Or.inr ⟨[], c, stream, rfl, by simp, sep⟩
      | false =>
          rcases inductionHypothesis with none | ⟨front, d, rest, rfl, open', last⟩
          · exact Or.inl (by simpa [sep] using none)
          · exact Or.inr ⟨c :: front, d, rest, rfl, by simpa [sep] using open', last⟩

/-- A stream has a first complete segment, or consists of separators and an unfinished
one. -/
theorem exists_first_segment (isSep : α → Bool) (stream : List α) :
    (∃ seps line, stream = seps ++ line ∧ (∀ d ∈ seps, isSep d = true) ∧
      ∀ d ∈ line, isSep d = false) ∨
    ∃ seps segment c rest, stream = seps ++ (segment ++ c :: rest) ∧
      (∀ d ∈ seps, isSep d = true) ∧ segment ≠ [] ∧ (∀ d ∈ segment, isSep d = false) ∧
      isSep c = true := by
  have split := List.takeWhile_append_dropWhile (p := isSep) (l := stream)
  have seps : ∀ d ∈ stream.takeWhile isSep, isSep d = true :=
    fun d member => List.mem_takeWhile_imp member
  rcases exists_first_sep isSep (stream.dropWhile isSep) with none | ⟨front, c, rest, shape, open', sep⟩
  · exact Or.inl ⟨_, _, split.symm, seps, none⟩
  · refine Or.inr ⟨_, front, c, rest, by rw [← shape, split], seps, ?_, open', sep⟩
    rintro rfl
    have head := List.head?_dropWhile_not isSep stream
    rw [shape] at head
    simp [sep] at head

/-- A segment is a stretch of the stream. -/
theorem exists_of_mem_segments {stream segment : List α} (member : segment ∈ segments isSep stream) :
    ∃ front rest, stream = front ++ (segment ++ rest) ∧ segment ≠ [] ∧
      ∀ d ∈ segment, isSep d = false := by
  induction total : stream.length using Nat.strong_induction_on generalizing stream with
  | _ size inductionHypothesis =>
      rcases exists_first_segment isSep stream with
        ⟨seps, line, rfl, all, open'⟩ | ⟨seps, first, c, rest, rfl, all, nonempty, open', sep⟩
      · rw [segments_append_seps all, segments_of_no_sep open'] at member
        cases member
      · rw [segments_append_seps all, segments_segment_append nonempty open' sep] at member
        rcases List.mem_cons.mp member with rfl | later
        · exact ⟨seps, c :: rest, rfl, nonempty, open'⟩
        · have shorter : rest.length < size := by
            rw [← total]
            simp only [List.length_append, List.length_cons]
            omega
          obtain ⟨front, tail, rfl, found⟩ := inductionHypothesis _ shorter later rfl
          exact ⟨seps ++ (first ++ c :: front), tail, by simp, found⟩

/-- All bytes in front of the first separator are in the first segment. -/
theorem length_flatten_segments {line : List α} {c : α} (open' : ∀ d ∈ line, isSep d = false)
    (sep : isSep c = true) (rest : List α) :
    (segments isSep (line ++ c :: rest)).flatten.length =
      line.length + (segments isSep rest).flatten.length := by
  by_cases empty : line = []
  · subst empty
    rw [List.nil_append, segments_cons_sep sep, List.length_nil, Nat.zero_add]
  · rw [segments_segment_append empty open' sep, List.flatten_cons, List.length_append]

/-- Bytes put in front of a stream take nothing away from its segments. -/
theorem length_flatten_segments_le (front stream : List α) :
    (segments isSep stream).flatten.length ≤ (segments isSep (front ++ stream)).flatten.length := by
  induction front with
  | nil => exact Nat.le_refl _
  | cons c front inductionHypothesis =>
      apply Nat.le_trans inductionHypothesis
      rw [List.cons_append]
      generalize front ++ stream = stream
      cases sep : isSep c with
      | true => rw [segments_cons_sep sep]
      | false =>
          rcases exists_first_sep isSep stream with none | ⟨line, d, rest, rfl, open', last⟩
          · rw [segments_of_no_sep none]
            exact Nat.zero_le _
          · have longer : ∀ e ∈ c :: line, isSep e = false := by simpa [sep] using open'
            rw [← List.cons_append, length_flatten_segments longer last,
              length_flatten_segments open' last, List.length_cons]
            omega

end RildHisi.Library
