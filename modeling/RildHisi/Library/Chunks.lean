import RildHisi.Library.WriteLoop

/-!
Owns a stream of bytes on its way through a socket: buffers are handed over one after the
other by a write loop, the stream arrives cut into chunks, and a read loop puts together
as many bytes as it is asked for. How the stream was cut makes no difference.

A single call of `recv` brings all the bytes it is asked for exactly where the stream was
not cut among them.
-/

namespace RildHisi.Library

variable {β : Type*}

/-- What the write loop makes of buffers that are written one after the other. -/
def sendAll : List WriteOutcome → List (List β) → List β
  | _, [] => []
  | script, buffer :: buffers =>
      (writeLoop script buffer).bytes ++ sendAll (writeLoop script buffer).script buffers

/-- Without a failure the stream is the buffers in their order. -/
theorem sendAll_eq_flatten {script : List WriteOutcome} (clean : NeverFails script)
    (buffers : List (List β)) : sendAll script buffers = buffers.flatten := by
  induction buffers generalizing script with
  | nil => rfl
  | cons buffer buffers inductionHypothesis =>
      obtain ⟨complete, rest⟩ := writeLoop_of_neverFails clean buffer
      rw [sendAll, writeLoop_complete complete, inductionHypothesis rest, List.flatten_cons]

/-- A stream in the chunks that the calls of `recv` find. An empty one is its end. -/
def Cut (chunks : List (List β)) (stream : List β) : Prop :=
  (∀ chunk ∈ chunks, chunk ≠ []) ∧ chunks.flatten = stream

theorem Cut.eq_nil {chunks : List (List β)} (cut : Cut chunks []) : chunks = [] := by
  cases chunks with
  | nil => rfl
  | cons chunk chunks =>
      have empty : chunk = [] := (List.append_eq_nil_iff.mp cut.2).1
      exact absurd empty (cut.1 chunk List.mem_cons_self)

/-- A stream that arrives byte by byte. -/
theorem cut_singletons (stream : List β) : Cut (stream.map fun byte => [byte]) stream := by
  refine ⟨fun chunk member => ?_, ?_⟩
  · obtain ⟨byte, -, rfl⟩ := List.mem_map.mp member
    exact List.cons_ne_nil byte []
  · induction stream with
    | nil => rfl
    | cons byte stream inductionHypothesis =>
        rw [List.map_cons, List.flatten_cons, inductionHypothesis, List.singleton_append]

/-- `while (count != 0)` around `recv (.., count)`, with the bytes read and the chunks left. -/
def readAll : ℕ → List (List β) → Option (List β × List (List β))
  | 0, chunks => some ([], chunks)
  | _ + 1, [] => none
  | _ + 1, [] :: _ => none
  | count + 1, (first :: chunk) :: chunks =>
      if count < chunk.length then
        some (first :: chunk.take count, chunk.drop count :: chunks)
      else (readAll (count - chunk.length) chunks).map fun behind =>
        (first :: chunk ++ behind.1, behind.2)

/-- **Reading.** Bytes at the front of a stream are read as they are, and the rest is left. -/
theorem readAll_of_cut {chunks : List (List β)} {bytes rest : List β}
    (cut : Cut chunks (bytes ++ rest)) :
    ∃ left, readAll bytes.length chunks = some (bytes, left) ∧ Cut left rest := by
  induction chunks generalizing bytes with
  | nil =>
      obtain ⟨rfl, rfl⟩ := List.append_eq_nil_iff.mp cut.2.symm
      exact ⟨[], rfl, cut⟩
  | cons chunk chunks inductionHypothesis =>
      cases bytes with
      | nil => exact ⟨chunk :: chunks, rfl, cut⟩
      | cons first bytes =>
          cases chunk with
          | nil => exact absurd rfl (cut.1 [] List.mem_cons_self)
          | cons head chunk =>
              obtain ⟨solid, same⟩ := cut
              have others : ∀ other ∈ chunks, other ≠ [] :=
                fun other member => solid other (List.mem_cons_of_mem _ member)
              rw [List.flatten_cons, List.cons_append, List.cons_append] at same
              obtain ⟨rfl, tails⟩ := List.cons.inj same
              rcases List.append_eq_append_iff.mp tails with
                ⟨more, rfl, behind⟩ | ⟨tail, rfl, rfl⟩
              · -- the whole chunk is asked for
                obtain ⟨left, read, cut⟩ := inductionHypothesis ⟨others, behind⟩
                refine ⟨left, ?_, cut⟩
                rw [List.length_cons, readAll, if_neg (by simp)]
                simp [read]
              · by_cases empty : tail = []
                · subst empty
                  refine ⟨chunks, ?_, others, rfl⟩
                  rw [List.length_cons, readAll, if_neg (by simp)]
                  simp [readAll]
                · refine ⟨tail :: chunks, ?_, ?_, rfl⟩
                  · rw [List.length_cons, readAll, if_pos]
                    · simp
                    · have positive := List.length_pos_iff.mpr empty
                      rw [List.length_append]
                      omega
                  · intro other member
                    rcases List.mem_cons.mp member with rfl | old
                    · exact empty
                    · exact others other old

/-! ### One call -/

/-- `recv (.., count)`: at most the chunk that is there, nothing at the end of the stream. -/
def recv (count : ℕ) : List (List β) → List β × List (List β)
  | [] => ([], [])
  | chunk :: chunks =>
      if chunk.length ≤ count then (chunk, chunks)
      else (chunk.take count, chunk.drop count :: chunks)

/-- The stream was cut behind so many bytes. -/
def CutAt (chunks : List (List β)) (offset : ℕ) : Prop :=
  ∃ front back, chunks = front ++ back ∧ front.flatten.length = offset

theorem cutAt_nil_iff {offset : ℕ} : CutAt ([] : List (List β)) offset ↔ offset = 0 := by
  constructor
  · rintro ⟨front, back, none', rfl⟩
    rw [(List.append_eq_nil_iff.mp none'.symm).1]
    rfl
  · rintro rfl
    exact ⟨[], [], rfl, rfl⟩

theorem cutAt_cons_iff {chunk : List β} {chunks : List (List β)} {offset : ℕ} :
    CutAt (chunk :: chunks) offset ↔
      offset = 0 ∨ ∃ behind, CutAt chunks behind ∧ offset = chunk.length + behind := by
  constructor
  · rintro ⟨front, back, same, rfl⟩
    cases front with
    | nil => exact Or.inl rfl
    | cons first front =>
        obtain ⟨rfl, rest⟩ := List.cons.inj same
        refine Or.inr ⟨front.flatten.length, ⟨front, back, rest, rfl⟩, ?_⟩
        rw [List.flatten_cons, List.length_append]
  · rintro (rfl | ⟨behind, ⟨front, back, rfl, rfl⟩, rfl⟩)
    · exact ⟨[], chunk :: chunks, rfl, rfl⟩
    · exact ⟨chunk :: front, back, rfl, by rw [List.flatten_cons, List.length_append]⟩

theorem cutAt_zero (chunks : List (List β)) : CutAt chunks 0 := ⟨[], chunks, rfl, rfl⟩

/-- A call that brings all it was asked for: the stream behind it is the rest, and is cut
where it was. -/
structure RecvWhole (chunks : List (List β)) (bytes rest : List β) : Prop where
  whole : (recv bytes.length chunks).1 = bytes
  cut : Cut (recv bytes.length chunks).2 rest
  cutAt : ∀ behind, 0 < behind →
    (CutAt (recv bytes.length chunks).2 behind ↔ CutAt chunks (bytes.length + behind))

/-- A chunk is not cut inside. -/
theorem not_cutAt_inside (chunk : List β) (chunks : List (List β)) {offset : ℕ}
    (first : 0 < offset) (before : offset < chunk.length) : ¬ CutAt (chunk :: chunks) offset := by
  intro at'
  rcases cutAt_cons_iff.mp at' with rfl | ⟨behind, -, rfl⟩ <;> omega

/-- The cuts behind a chunk. -/
theorem cutAt_behind_iff (chunk : List β) (chunks : List (List β)) {behind : ℕ}
    (later : 0 < behind) :
    CutAt chunks behind ↔ CutAt (chunk :: chunks) (chunk.length + behind) := by
  rw [cutAt_cons_iff]
  constructor
  · intro at'
    exact Or.inr ⟨behind, at', rfl⟩
  · rintro (none' | ⟨other, at', same⟩)
    · omega
    · obtain rfl : behind = other := by omega
      exact at'

/-- The cuts behind the front of a chunk. -/
theorem cutAt_drop_iff (chunk : List β) (chunks : List (List β)) {front behind : ℕ}
    (inside : front < chunk.length) (later : 0 < behind) :
    CutAt (chunk.drop front :: chunks) behind ↔ CutAt (chunk :: chunks) (front + behind) := by
  rw [cutAt_cons_iff, cutAt_cons_iff, List.length_drop]
  constructor
  · rintro (none' | ⟨other, at', same⟩)
    · omega
    · exact Or.inr ⟨other, at', by omega⟩
  · rintro (none' | ⟨other, at', same⟩)
    · omega
    · exact Or.inr ⟨other, at', by omega⟩

theorem recvWhole_of_equal {chunk rest : List β} {chunks : List (List β)}
    (cut : Cut chunks rest) : RecvWhole (chunk :: chunks) chunk rest := by
  have taken : recv chunk.length (chunk :: chunks) = (chunk, chunks) := if_pos (Nat.le_refl _)
  constructor
  · rw [taken]
  · rw [taken]
    exact cut
  · intro behind later
    rw [taken]
    exact cutAt_behind_iff chunk chunks later

theorem recvWhole_of_long {chunk bytes rest : List β} {chunks : List (List β)}
    (cut : Cut (chunk :: chunks) (bytes ++ rest)) (long : bytes.length < chunk.length) :
    RecvWhole (chunk :: chunks) bytes rest := by
  have taken : recv bytes.length (chunk :: chunks) =
      (chunk.take bytes.length, chunk.drop bytes.length :: chunks) :=
    if_neg (Nat.not_le_of_lt long)
  obtain ⟨solid, same⟩ := cut
  rw [List.flatten_cons] at same
  constructor
  · rw [taken]
    have firsts := congrArg (List.take bytes.length) same
    rwa [List.take_append_of_le_length (Nat.le_of_lt long), List.take_left] at firsts
  · rw [taken]
    constructor
    · intro other member
      rcases List.mem_cons.mp member with rfl | old
      · apply List.ne_nil_of_length_pos
        rw [List.length_drop]
        omega
      · exact solid other (List.mem_cons_of_mem _ old)
    · have lasts := congrArg (List.drop bytes.length) same
      rwa [List.drop_append_of_le_length (Nat.le_of_lt long), List.drop_left] at lasts
  · intro behind later
    rw [taken]
    exact cutAt_drop_iff chunk chunks long later

/-- **One call.** The bytes at the front of a stream come whole, unless it was cut among
them; then fewer come. -/
theorem recv_of_cut {chunks : List (List β)} {bytes rest : List β}
    (cut : Cut chunks (bytes ++ rest)) :
    (RecvWhole chunks bytes rest ∧
        ∀ offset, 0 < offset → offset < bytes.length → ¬ CutAt chunks offset) ∨
      ((recv bytes.length chunks).1.length < bytes.length ∧
        ∃ offset, 0 < offset ∧ offset < bytes.length ∧ CutAt chunks offset) := by
  cases chunks with
  | nil =>
      obtain ⟨rfl, rfl⟩ := List.append_eq_nil_iff.mp cut.2.symm
      refine Or.inl ⟨⟨rfl, cut, fun behind _ => ?_⟩, by simp⟩
      rw [List.length_nil, Nat.zero_add]
      rfl
  | cons chunk chunks =>
      rcases Nat.lt_trichotomy chunk.length bytes.length with short | equal | long
      · have taken : recv bytes.length (chunk :: chunks) = (chunk, chunks) :=
          if_pos (Nat.le_of_lt short)
        have positive : 0 < chunk.length :=
          List.length_pos_iff.mpr (cut.1 chunk List.mem_cons_self)
        refine Or.inr ⟨by rwa [taken], chunk.length, positive, short, ?_⟩
        exact cutAt_cons_iff.mpr (Or.inr ⟨0, cutAt_zero chunks, rfl⟩)
      · obtain ⟨solid, same⟩ := cut
        obtain ⟨rfl, behind⟩ := List.append_inj same equal
        have others : Cut chunks rest :=
          ⟨fun other member => solid other (List.mem_cons_of_mem _ member), behind⟩
        exact Or.inl ⟨recvWhole_of_equal others, fun _ => not_cutAt_inside chunk chunks⟩
      · apply Or.inl
        refine ⟨recvWhole_of_long cut long, fun offset first before => ?_⟩
        exact not_cutAt_inside chunk chunks first (Nat.lt_trans before long)

/-- A call brings something before the end of the stream. -/
theorem recv_pos {chunks : List (List β)} {stream : List β} (cut : Cut chunks stream)
    (more : stream ≠ []) {count : ℕ} (positive : 0 < count) :
    0 < (recv count chunks).1.length := by
  cases chunks with
  | nil => exact absurd cut.2.symm more
  | cons chunk chunks =>
      have solid := List.length_pos_iff.mpr (cut.1 chunk List.mem_cons_self)
      rw [recv]
      split_ifs
      · exact solid
      · rw [List.length_take]
        omega

end RildHisi.Library
