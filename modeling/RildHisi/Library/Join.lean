import Mathlib.Data.List.Basic
import Mathlib.Data.List.Induction

/-!
Owns the join of a list of entries with a list of updates by key: each update is put into
the first entry with its key, one after the other, and those of unknown keys are dropped.
An entry ends up with the last of the updates whose first match it is.
-/

namespace RildHisi.Library

variable {κ ε ν : Type*} [DecidableEq κ]

/-- Entries with a key and a value, of which a new one replaces all of the old. -/
structure Keyed (κ ε ν : Type*) where
  key : ε → κ
  put : ν → ε → ε
  key_put : ∀ value entry, key (put value entry) = key entry
  put_put : ∀ value before entry, put value (put before entry) = put value entry

namespace Keyed

variable (keyed : Keyed κ ε ν)

/-- The place of the first entry with the key. -/
def firstMatch (entries : List ε) (k : κ) : Option Nat :=
  entries.findIdx? fun entry => keyed.key entry = k

/-- One update. -/
def update (entries : List ε) (k : κ) (value : ν) : List ε :=
  match keyed.firstMatch entries k with
  | none => entries
  | some i => entries.modify i (keyed.put value)

/-- The last of the updates whose first match is the entry at `i`. -/
def lastFor (entries : List ε) (updates : List (κ × ν)) (i : Nat) : Option ν :=
  (updates.filter fun update => keyed.firstMatch entries update.1 = some i).getLast?.map Prod.snd

/-- Each entry with the last of its updates. -/
def join (entries : List ε) (updates : List (κ × ν)) : List ε :=
  entries.mapIdx fun i entry => (keyed.lastFor entries updates i).elim entry (keyed.put · entry)

/-- The keys alone decide about matches. -/
theorem firstMatch_congr {entries others : List ε}
    (same : entries.map keyed.key = others.map keyed.key) (k : κ) :
    keyed.firstMatch entries k = keyed.firstMatch others k := by
  have through (entries : List ε) :
      keyed.firstMatch entries k = (entries.map keyed.key).findIdx? fun key => key = k := by
    rw [List.findIdx?_map]
    rfl
  rw [through, through, same]

/-- A join keeps the keys. -/
theorem map_key_join (entries : List ε) (updates : List (κ × ν)) :
    (keyed.join entries updates).map keyed.key = entries.map keyed.key := by
  apply List.ext_getElem?
  intro i
  simp only [join, List.getElem?_map, List.getElem?_mapIdx, Option.map_map]
  apply congrArg (Option.map · entries[i]?)
  funext entry
  cases keyed.lastFor entries updates i with
  | none => rfl
  | some value => exact keyed.key_put value entry

theorem firstMatch_join (entries : List ε) (updates : List (κ × ν)) (k : κ) :
    keyed.firstMatch (keyed.join entries updates) k = keyed.firstMatch entries k :=
  keyed.firstMatch_congr (keyed.map_key_join entries updates) k

/-- The last update counts if the entry is its first match. -/
theorem lastFor_concat (entries : List ε) (updates : List (κ × ν)) (k : κ) (value : ν) (i : Nat) :
    keyed.lastFor entries (updates ++ [(k, value)]) i =
      if keyed.firstMatch entries k = some i then some value
      else keyed.lastFor entries updates i := by
  unfold lastFor
  rw [List.filter_append, List.filter_singleton]
  split_ifs with matches' <;> simp_all

/-- **Updates one after the other are a join.** -/
theorem foldl_update (entries : List ε) (updates : List (κ × ν)) :
    updates.foldl (fun entries update => keyed.update entries update.1 update.2) entries =
      keyed.join entries updates := by
  induction updates using List.reverseRecOn with
  | nil =>
      apply List.ext_getElem?
      intro i
      simp [join, lastFor, List.getElem?_mapIdx]
  | append_singleton updates update inductionHypothesis =>
      obtain ⟨k, value⟩ := update
      rw [List.foldl_append, inductionHypothesis, List.foldl_cons, List.foldl_nil]
      unfold Keyed.update
      rw [keyed.firstMatch_join]
      apply List.ext_getElem?
      intro i
      have joined : (keyed.join entries (updates ++ [(k, value)]))[i]? = entries[i]?.map fun entry =>
          (if keyed.firstMatch entries k = some i then some value
            else keyed.lastFor entries updates i).elim entry (keyed.put · entry) := by
        rw [join, List.getElem?_mapIdx]
        simp only [keyed.lastFor_concat]
      rw [joined]
      cases found : keyed.firstMatch entries k with
      | none => simp [join, List.getElem?_mapIdx]
      | some place =>
          rw [List.getElem?_modify, join, List.getElem?_mapIdx]
          by_cases here : place = i
          · subst here
            cases entries[place]? with
            | none => rfl
            | some entry =>
                cases keyed.lastFor entries updates place with
                | none => simp
                | some old => simp [keyed.put_put]
          · have elsewhere : ¬ some place = some i := fun same => here (Option.some.inj same)
            simp [here, elsewhere]

theorem firstMatch_update (entries : List ε) (k other : κ) (value : ν) :
    keyed.firstMatch (keyed.update entries k value) other = keyed.firstMatch entries other := by
  have single : keyed.update entries k value = keyed.join entries [(k, value)] :=
    keyed.foldl_update entries [(k, value)]
  rw [single, keyed.firstMatch_join]

end Keyed

end RildHisi.Library
