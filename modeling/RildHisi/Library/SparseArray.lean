import Mathlib.Data.List.Basic

/-!
Owns arrays with undefined elements: a length, reading at any position, writing, which makes
the array longer where it has to, and deleting, which leaves the length as it is.
-/

namespace RildHisi.Library

/-- An array some of whose elements are undefined. -/
structure SparseArray (α : Type*) where
  elements : List (Option α)
  deriving DecidableEq

namespace SparseArray

variable {α : Type*}

def empty : SparseArray α := ⟨[]⟩

/-- `Array(length)`, with nothing in it. -/
def ofLength (length : Nat) : SparseArray α := ⟨List.replicate length none⟩

def length (array : SparseArray α) : Nat := array.elements.length

/-- The element, none where it is undefined or past the end. -/
def get (array : SparseArray α) (index : Nat) : Option α := (array.elements[index]?).join

def put (array : SparseArray α) (index : Nat) (value : α) : SparseArray α :=
  if index < array.length then
    ⟨array.elements.set index (some value)⟩
  else
    ⟨array.elements ++ List.replicate (index - array.length) none ++ [some value]⟩

def delete (array : SparseArray α) (index : Nat) : SparseArray α :=
  ⟨array.elements.set index none⟩

/-- The number of defined elements. -/
def count (array : SparseArray α) : Nat := array.elements.countP Option.isSome

@[simp] theorem get_empty (index : Nat) : (empty : SparseArray α).get index = none := rfl

@[simp] theorem get_ofLength (length index : Nat) :
    (ofLength length : SparseArray α).get index = none := by
  unfold get ofLength
  rw [List.getElem?_replicate]
  split_ifs <;> rfl

@[simp] theorem count_ofLength (length : Nat) : (ofLength length : SparseArray α).count = 0 := by
  simp [count, ofLength, List.countP_replicate]

theorem lt_length_of_get {array : SparseArray α} {index : Nat} {value : α}
    (defined : array.get index = some value) : index < array.length := by
  by_contra outside
  have past : array.elements[index]? = none := List.getElem?_eq_none (Nat.le_of_not_lt outside)
  rw [get, past] at defined
  cases defined

theorem get_put (array : SparseArray α) (index other : Nat) (value : α) :
    (array.put index value).get other = if other = index then some value else array.get other := by
  unfold put get length
  split_ifs with inside same same
  · subst same
    rw [List.getElem?_set_self inside]
    rfl
  · rw [List.getElem?_set_ne (fun equal => same equal.symm)]
  · subst same
    rw [List.getElem?_append_right (by simp; omega)]
    simp [Nat.add_sub_cancel' (Nat.le_of_not_lt inside)]
  · rw [List.append_assoc, List.getElem?_append]
    split_ifs with below
    · rfl
    · rw [List.getElem?_eq_none (Nat.le_of_not_lt below), List.getElem?_append,
        List.getElem?_replicate]
      split_ifs with hole hole'
      · rfl
      · exact absurd hole (by simpa using hole')
      · rw [List.length_replicate] at hole ⊢
        rw [List.getElem?_eq_none (by simp; omega)]

/-- Writing several values at one position leaves the others as they are. -/
theorem get_foldl_put_of_ne (values : List α) (array : SparseArray α) {index other : Nat}
    (different : other ≠ index) :
    (values.foldl (fun array value => array.put index value) array).get other =
      array.get other := by
  induction values generalizing array with
  | nil => rfl
  | cons value values inductionHypothesis =>
      rw [List.foldl_cons, inductionHypothesis, get_put, if_neg different]

theorem get_delete (array : SparseArray α) (index other : Nat) :
    (array.delete index).get other = if other = index then none else array.get other := by
  unfold delete get
  split_ifs with same
  · subst same
    rw [List.getElem?_set_self']
    cases array.elements[other]? <;> rfl
  · rw [List.getElem?_set_ne (fun equal => same equal.symm)]

theorem count_put_of_none {array : SparseArray α} {index : Nat} (value : α)
    (hole : array.get index = none) : (array.put index value).count = array.count + 1 := by
  unfold put count length
  split_ifs with inside
  · have here : array.elements[index] = none := by
      simpa [get, List.getElem?_eq_getElem inside] using hole
    rw [List.countP_set inside, here]
    simp
  · simp [List.countP_append, List.countP_replicate]

theorem count_put_of_some {array : SparseArray α} {index : Nat} {before : α} (value : α)
    (defined : array.get index = some before) :
    (array.put index value).count = array.count := by
  have inside : index < array.elements.length := lt_length_of_get defined
  have here : array.elements[index] = some before := by
    simpa [get, List.getElem?_eq_getElem inside] using defined
  have positive : 0 < array.elements.countP Option.isSome :=
    List.countP_pos_iff.mpr ⟨_, List.getElem_mem inside, by rw [here]; rfl⟩
  rw [put, if_pos (lt_length_of_get defined)]
  unfold count
  rw [List.countP_set inside, here]
  simp
  omega

theorem count_delete {array : SparseArray α} {index : Nat} {before : α}
    (defined : array.get index = some before) :
    (array.delete index).count + 1 = array.count := by
  have inside : index < array.elements.length := lt_length_of_get defined
  have here : array.elements[index] = some before := by
    simpa [get, List.getElem?_eq_getElem inside] using defined
  have positive : 0 < array.elements.countP Option.isSome :=
    List.countP_pos_iff.mpr ⟨_, List.getElem_mem inside, by rw [here]; rfl⟩
  unfold delete count
  rw [List.countP_set inside, here]
  simp
  omega

theorem count_pos_of_get {array : SparseArray α} {index : Nat} {value : α}
    (defined : array.get index = some value) : 0 < array.count := by
  have := count_delete defined
  omega

theorem get_eq_none_of_count {array : SparseArray α} (nothing : array.count = 0) (index : Nat) :
    array.get index = none := by
  cases defined : array.get index with
  | none => rfl
  | some value => exact absurd (count_pos_of_get defined) (by omega)

/-- Where the positions from `start` on are defined, that many elements are. -/
theorem le_count_of_defined {array : SparseArray α} {start size : Nat}
    (full : ∀ index, start ≤ index → index < start + size → (array.get index).isSome) :
    size ≤ array.count := by
  induction size generalizing array with
  | zero => exact Nat.zero_le _
  | succ size inductionHypothesis =>
      obtain ⟨value, last⟩ := Option.isSome_iff_exists.mp (full (start + size) (by omega) (by omega))
      have others : size ≤ (array.delete (start + size)).count := by
        refine inductionHypothesis fun index above below => ?_
        rw [get_delete, if_neg (by omega)]
        exact full index above (by omega)
      have := count_delete last
      omega

end SparseArray

end RildHisi.Library
