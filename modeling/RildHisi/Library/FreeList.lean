import Mathlib.Data.List.Nodup
import Mathlib.Data.List.Perm.Basic

/-!
Owns cells that are recycled through a free list. A cell is taken from the front of the list,
or allocated where the list is empty, and it comes back to the list when it is not used any
more. `Apart` is the discipline: no cell is used twice, and none is used and free.
-/

namespace RildHisi.Library

/-- The cell that is taken next. -/
def nextCell (freeList : List Nat) (allocated : Nat) : Nat := freeList.headD allocated

/-- The number of cells behind that. -/
def cellsBehind (freeList : List Nat) (allocated : Nat) : Nat :=
  if freeList = [] then allocated + 1 else allocated

/-- No cell is in two places, and all of them have been allocated. -/
structure Apart (used freeList : List Nat) (allocated : Nat) : Prop where
  nodup : (used ++ freeList).Nodup
  known : ∀ cell ∈ used ++ freeList, cell < allocated

variable {used used' freeList : List Nat} {allocated cell : Nat}

/-- The next cell is the first of the free list, or new. -/
theorem nextCell_cases (freeList : List Nat) (allocated : Nat) :
    freeList = nextCell freeList allocated :: freeList.tail ∨
      freeList = [] ∧ nextCell freeList allocated = allocated := by
  cases freeList with
  | nil => exact Or.inr ⟨rfl, rfl⟩
  | cons cell rest => exact Or.inl rfl

/-- Of a cell that is allocated already, the free list tells whether it is the next one. -/
theorem nextCell_eq_iff (below : cell < allocated) :
    nextCell freeList allocated = cell ↔ freeList.head? = some cell := by
  cases freeList with
  | nil => simpa [nextCell] using Nat.ne_of_gt below
  | cons first rest => simp [nextCell]

namespace Apart

theorem empty : Apart [] [] 0 where
  nodup := List.nodup_nil
  known _ member := absurd member List.not_mem_nil

theorem perm (apart : Apart used freeList allocated) (same : used'.Perm used) :
    Apart used' freeList allocated where
  nodup := (same.append_right freeList).nodup_iff.mpr apart.nodup
  known cell member := apart.known cell ((same.append_right freeList).mem_iff.mp member)

theorem nextCell_notMem (apart : Apart used freeList allocated) :
    nextCell freeList allocated ∉ used := by
  intro member
  rcases nextCell_cases freeList allocated with front | ⟨-, new⟩
  · have nodup := apart.nodup
    rw [front] at nodup
    exact (List.nodup_append.mp nodup).2.2 _ member _ List.mem_cons_self rfl
  · have below := apart.known _ (List.mem_append_left _ member)
    omega

/-- A cell that is taken is in one place again. -/
theorem take (apart : Apart used freeList allocated) :
    Apart (nextCell freeList allocated :: used) freeList.tail (cellsBehind freeList allocated) := by
  rcases nextCell_cases freeList allocated with front | ⟨rfl, new⟩
  · have same : (nextCell freeList allocated :: used ++ freeList.tail).Perm (used ++ freeList) := by
      conv_rhs => rw [front]
      exact List.perm_middle.symm
    refine ⟨same.nodup_iff.mpr apart.nodup, fun cell member => ?_⟩
    rw [cellsBehind, if_neg (by rw [front]; simp)]
    exact apart.known cell (same.mem_iff.mp member)
  · have nodup := apart.nodup
    have known := apart.known
    rw [List.append_nil] at nodup known
    refine ⟨?_, fun cell member => ?_⟩
    · rw [List.tail_nil, List.append_nil]
      exact List.nodup_cons.mpr ⟨apart.nextCell_notMem, nodup⟩
    · rw [List.tail_nil, List.append_nil] at member
      rw [cellsBehind, if_pos rfl]
      rcases List.mem_cons.mp member with rfl | old
      · omega
      · have below := known cell old
        omega

/-- A used cell that comes back to the free list. -/
theorem release (apart : Apart (cell :: used) freeList allocated) {freeList' : List Nat}
    (back : freeList'.Perm (cell :: freeList)) : Apart used freeList' allocated := by
  have same : (used ++ freeList').Perm (cell :: used ++ freeList) :=
    (back.append_left used).trans List.perm_middle
  exact ⟨same.nodup_iff.mpr apart.nodup, fun other member =>
    apart.known other (same.mem_iff.mp member)⟩

end Apart


end RildHisi.Library
