import RildHisi.CString
import RildHisi.Library.Segments

/-!
Owns `make_argv` of rild.c, which splits the library arguments at spaces into the array
`newArgv` of `main`. It stores one word behind the other up to the last, and so stays in
the array exactly if there are at most fifteen.
-/

namespace RildHisi.Rild

open RildHisi.Library

/-! ### Tokens and words -/

/-- The delimiters `" \0"`; the NUL ends the list of them. -/
def isDelim (c : UInt8) : Bool := c == 32

/-- `strtok` with these delimiters: the next token and what it leaves for the next call, none
for NULL. -/
def strtok (s : CString) : Option (CString × CString) :=
  let token := s.dropWhile isDelim
  if token = [] then none
  else some (token.takeWhile (!isDelim ·), (token.dropWhile (!isDelim ·)).drop 1)

/-- The words between the spaces. -/
noncomputable def words (args : CString) : List CString := segments isDelim (args ++ [32])

theorem words_nil : words [] = [] := by
  rw [words, List.nil_append, segments_cons_sep (by decide), segments_of_no_sep]
  simp

section Word

variable {word : CString} (nonempty : word ≠ []) (solid : ∀ c ∈ word, isDelim c = false)

include nonempty solid

/-- The first word comes off the front. -/
theorem words_append (rest : CString) : words (word ++ 32 :: rest) = word :: words rest := by
  rw [words, List.append_assoc, List.cons_append,
    segments_segment_append nonempty solid (by decide)]
  rfl

theorem words_single : words word = [word] := by
  rw [words, segments_segment_append nonempty solid (by decide), segments_of_no_sep (by simp)]

end Word

/-- **A token is the next word.** -/
theorem strtok_cases (s : CString) :
    (strtok s = none ∧ words s = []) ∨
      ∃ tok rest, strtok s = some (tok, rest) ∧ words s = tok :: words rest ∧
        rest.length < s.length := by
  have split := List.takeWhile_append_dropWhile (p := isDelim) (l := s)
  have spaces : ∀ c ∈ s.takeWhile isDelim, isDelim c = true :=
    fun c member => List.mem_takeWhile_imp member
  have behind : words s = words (s.dropWhile isDelim) := by
    have same := segments_append_seps spaces (s.dropWhile isDelim ++ [32])
    rwa [← List.append_assoc, split] at same
  have shorter : (s.dropWhile isDelim).length ≤ s.length := by
    have lengths := congrArg List.length split
    rw [List.length_append] at lengths
    omega
  have head := List.head?_dropWhile_not isDelim s
  unfold strtok
  generalize s.dropWhile isDelim = token at behind shorter head
  cases token with
  | nil => exact Or.inl ⟨rfl, behind.trans words_nil⟩
  | cons c token =>
      have first : isDelim c = false := by simpa using head
      have nonempty : (c :: token).takeWhile (!isDelim ·) ≠ [] := by
        rw [List.takeWhile_cons_of_pos (by simp [first])]
        exact List.cons_ne_nil _ _
      have solid : ∀ d ∈ (c :: token).takeWhile (!isDelim ·), isDelim d = false := by
        intro d member
        simpa using List.mem_takeWhile_imp member
      have parts := List.takeWhile_append_dropWhile (p := (!isDelim ·)) (l := c :: token)
      have last := List.head?_dropWhile_not (!isDelim ·) (c :: token)
      rw [if_neg (List.cons_ne_nil c token), behind]
      generalize (c :: token).takeWhile (!isDelim ·) = tok at nonempty solid parts
      generalize (c :: token).dropWhile (!isDelim ·) = left at parts last
      refine Or.inr ⟨tok, left.drop 1, rfl, ?_⟩
      have positive := List.length_pos_iff.mpr nonempty
      rw [← parts] at shorter ⊢
      cases left with
      | nil =>
          rw [List.append_nil] at shorter ⊢
          rw [words_single nonempty solid, List.drop_nil, words_nil]
          exact ⟨rfl, by simpa using Nat.lt_of_lt_of_le positive shorter⟩
      | cons d left =>
          have space : d = 32 := by simpa [isDelim] using last
          rw [space, words_append nonempty solid, List.drop_succ_cons, List.drop_zero]
          apply And.intro rfl
          rw [List.length_append, List.length_cons] at shorter
          omega

theorem words_of_strtok_none {s : CString} (ended : strtok s = none) : words s = [] := by
  rcases strtok_cases s with ⟨-, empty⟩ | ⟨tok, rest, came, -⟩
  · exact empty
  · rw [came] at ended
    cases ended

theorem words_of_strtok {s tok rest : CString} (came : strtok s = some (tok, rest)) :
    words s = tok :: words rest ∧ rest.length < s.length := by
  rcases strtok_cases s with ⟨ended, -⟩ | ⟨tok', rest', came', next, shorter⟩
  · rw [ended] at came
    cases came
  · rw [came'] at came
    cases came
    exact ⟨next, shorter⟩

/-! ### The loop -/

/-- The length of `newArgv`. -/
def maxLibArgs : Nat := 16

/-- A store into `argv`. -/
structure ArgvStore where
  index : Nat
  tok : CString
  deriving DecidableEq, Repr

theorem strtok_shorter {s tok rest : CString} (came : strtok s = some (tok, rest)) :
    rest.length < s.length := (words_of_strtok came).2

/-- The loop from `count` on, with the stores so far. -/
def makeArgvLoop (s : CString) (count : Nat) (stores : List ArgvStore) : Nat × List ArgvStore :=
  match came : strtok s with
  | none => (count, stores)
  | some (tok, rest) => makeArgvLoop rest (count + 1) (stores ++ [⟨count, tok⟩])
termination_by s.length
decreasing_by exact strtok_shorter came

/-- `make_argv`: the count and what it has stored. It reserves `argv[0]`. -/
def makeArgv (args : CString) : Nat × List ArgvStore := makeArgvLoop args 1 []

/-- `argv[i]` behind the stores. -/
def argv (stores : List ArgvStore) (i : Nat) : Option CString :=
  (stores.find? (·.index = i)).map ArgvStore.tok

/-- Words, stored one behind the other. -/
def storesFrom : Nat → List CString → List ArgvStore
  | _, [] => []
  | count, word :: rest => ⟨count, word⟩ :: storesFrom (count + 1) rest

/-- The loop stores the words. -/
theorem makeArgvLoop_eq (s : CString) (count : Nat) (stores : List ArgvStore) :
    makeArgvLoop s count stores =
      (count + (words s).length, stores ++ storesFrom count (words s)) := by
  induction s, count, stores using makeArgvLoop.induct with
  | case1 s count stores came =>
      rw [makeArgvLoop, words_of_strtok_none came]
      split
      · simp [storesFrom]
      · rename_i found
        rw [came] at found
        cases found
  | case2 s count stores tok rest came inductionHypothesis =>
      rw [makeArgvLoop, (words_of_strtok came).1]
      split
      · rename_i found
        rw [came] at found
        cases found
      · rename_i found
        rw [came] at found
        cases found
        rw [inductionHypothesis, List.length_cons, storesFrom, List.append_assoc,
          List.singleton_append, Nat.add_assoc, Nat.add_comm 1]

/-! ### What `newArgv` holds -/

/-- `make_argv` stays within `newArgv` and leaves there, in front of the count, the words
that fit. -/
structure FillsArgv (args : CString) : Prop where
  inside : ∀ store ∈ (makeArgv args).2, 1 ≤ store.index ∧ store.index < maxLibArgs
  stored : (List.range' 1 ((makeArgv args).1 - 1)).map (argv (makeArgv args).2) =
    ((words args).take (maxLibArgs - 1)).map some

theorem index_of_mem_storesFrom {count : Nat} {tokens : List CString} {store : ArgvStore}
    (member : store ∈ storesFrom count tokens) :
    count ≤ store.index ∧ store.index < count + tokens.length := by
  induction tokens generalizing count with
  | nil => cases member
  | cons word rest inductionHypothesis =>
      rw [List.length_cons]
      rcases List.mem_cons.mp member with rfl | later
      · show count ≤ count ∧ count < count + (rest.length + 1)
        omega
      · have bounds := inductionHypothesis later
        omega

/-- The last word is stored behind all others. -/
theorem exists_mem_storesFrom (count : Nat) {tokens : List CString} {i : Nat}
    (bound : i < tokens.length) : ∃ store ∈ storesFrom count tokens, store.index = count + i := by
  induction tokens generalizing count i with
  | nil => cases bound
  | cons word rest inductionHypothesis =>
      cases i with
      | zero => exact ⟨⟨count, word⟩, List.mem_cons_self, rfl⟩
      | succ i =>
          obtain ⟨store, member, index⟩ := inductionHypothesis (count + 1)
            (Nat.lt_of_succ_lt_succ bound)
          refine ⟨store, List.mem_cons_of_mem _ member, ?_⟩
          omega

/-- Each word is read back where it was stored. -/
theorem map_argv_storesFrom (count : Nat) (tokens : List CString) :
    (List.range' count tokens.length).map (argv (storesFrom count tokens)) =
      tokens.map some := by
  induction tokens generalizing count with
  | nil => rfl
  | cons word rest inductionHypothesis =>
      rw [List.length_cons, List.range'_succ, List.map_cons, List.map_cons]
      have first : argv (storesFrom count (word :: rest)) count = some word := by
        simp [argv, storesFrom]
      rw [first, ← inductionHypothesis (count + 1)]
      apply congrArg (some word :: ·)
      apply List.map_congr_left
      intro i member
      have other : count ≠ i := by
        have bounds := List.mem_range'_1.mp member
        omega
      simp [argv, storesFrom, other]

theorem makeArgv_eq (args : CString) :
    makeArgv args = (1 + (words args).length, storesFrom 1 (words args)) := by
  rw [makeArgv, makeArgvLoop_eq, List.nil_append]

/-- A store inside the array is one of at most fifteen. -/
theorem length_words_lt {args : CString}
    (inside : ∀ store ∈ (makeArgv args).2, 1 ≤ store.index ∧ store.index < maxLibArgs) :
    (words args).length < maxLibArgs := by
  rw [makeArgv_eq] at inside
  apply Nat.lt_of_not_le
  intro many
  obtain ⟨store, member, index⟩ := exists_mem_storesFrom 1
    (show maxLibArgs - 1 < (words args).length from many)
  have bounds := (inside store member).2
  rw [index] at bounds
  exact absurd bounds (by decide)

/-- **`make_argv` keeps to `newArgv` and fills it with the words of the arguments, exactly if
there are fewer than sixteen.** -/
theorem fillsArgv_iff (args : CString) :
    FillsArgv args ↔ (words args).length < maxLibArgs := by
  constructor
  · intro fills
    exact length_words_lt fills.inside
  · intro few
    have room : (words args).length ≤ maxLibArgs - 1 := Nat.le_pred_of_lt few
    apply FillsArgv.mk
    · rw [makeArgv_eq]
      intro store member
      have bounds := index_of_mem_storesFrom member
      omega
    · rw [makeArgv_eq, Nat.add_sub_cancel_left, map_argv_storesFrom,
        List.take_of_length_le room]

theorem words_replicate (n : Nat) :
    words (List.replicate n [97, 32]).flatten = List.replicate n [97] := by
  induction n with
  | zero => exact words_nil
  | succ n inductionHypothesis =>
      rw [List.replicate_succ, List.flatten_cons, List.replicate_succ, ← inductionHypothesis]
      show words ([97] ++ 32 :: (List.replicate n [97, 32]).flatten) = _
      exact words_append (by simp) (by simp [isDelim]) _

/-- Sixteen words: the last one is stored behind the end of the array. -/
theorem sixteenWords_written : ¬ FillsArgv (List.replicate 16 [97, 32]).flatten := by
  intro fills
  have few := length_words_lt fills.inside
  rw [words_replicate, List.length_replicate] at few
  exact absurd few (by decide)

end RildHisi.Rild
