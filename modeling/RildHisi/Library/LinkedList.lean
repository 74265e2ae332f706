import Mathlib.Data.List.Nodup
import Mathlib.Logic.Function.Basic

/-!
Owns singly linked lists in a heap: cells at addresses, the address of the next
cell in each of them, 0 for the end. `Represents` says which list stands in the
heap from a head on; the rules say what a push, a walk over all cells, and an
unlink through a pointer to the pointer at the cell make of it.
-/

namespace RildHisi.Library.LinkedList

variable {κ ν : Type*} (next : κ → Nat) (view : κ → ν)

/-- From `head` on, `heap` holds cells at these addresses with these values. -/
def Represents (heap : Nat → Option κ) : Nat → List (Nat × ν) → Prop
  | head, [] => head = 0
  | head, (address, value) :: rest =>
      head = address ∧ address ≠ 0 ∧
        ∃ cell, heap address = some cell ∧ view cell = value ∧ Represents heap (next cell) rest

variable {next view} {heap : Nat → Option κ}

/-- Only the cells of the list matter. -/
theorem Represents.frame {heap' : Nat → Option κ} {head : Nat} {list : List (Nat × ν)}
    (represents : Represents next view heap head list)
    (same : ∀ address ∈ list.map Prod.fst, heap' address = heap address) :
    Represents next view heap' head list := by
  induction list generalizing head with
  | nil => exact represents
  | cons entry rest inductionHypothesis =>
      obtain ⟨address, value⟩ := entry
      obtain ⟨atHead, nonzero, cell, stored, viewed, behind⟩ := represents
      have kept : heap' address = some cell := by rw [same address (by simp), stored]
      refine ⟨atHead, nonzero, cell, kept, viewed, inductionHypothesis behind ?_⟩
      intro other member
      exact same other (by simp [member])

/-- A heap holds one list from a head on. -/
theorem Represents.unique {head : Nat} {first second : List (Nat × ν)}
    (left : Represents next view heap head first)
    (right : Represents next view heap head second) : first = second := by
  induction first generalizing head second with
  | nil =>
      cases second with
      | nil => rfl
      | cons entry rest => exact absurd (right.1.symm.trans left) right.2.1
  | cons entry rest inductionHypothesis =>
      obtain ⟨address, value⟩ := entry
      obtain ⟨atHead, nonzero, cell, stored, viewed, behind⟩ := left
      cases second with
      | nil => exact absurd (atHead.symm.trans right) nonzero
      | cons other others =>
          obtain ⟨address', value'⟩ := other
          obtain ⟨atHead', -, cell', stored', viewed', behind'⟩ := right
          obtain rfl : address = address' := atHead.symm.trans atHead'
          obtain rfl : cell = cell' := Option.some.inj (stored.symm.trans stored')
          rw [inductionHypothesis behind behind', ← viewed, ← viewed']

theorem Represents.behind {head address : Nat} {value : ν} {front back : List (Nat × ν)}
    (represents : Represents next view heap head (front ++ (address, value) :: back)) :
    Represents next view heap address ((address, value) :: back) := by
  induction front generalizing head with
  | nil => exact ⟨rfl, represents.2⟩
  | cons entry rest inductionHypothesis =>
      obtain ⟨-, -, cell, -, -, behind⟩ := represents
      exact inductionHypothesis behind

/-- No address occurs twice: the list would never end. -/
theorem Represents.nodup {head : Nat} {list : List (Nat × ν)}
    (represents : Represents next view heap head list) : (list.map Prod.fst).Nodup := by
  induction list generalizing head with
  | nil => exact List.nodup_nil
  | cons entry rest inductionHypothesis =>
      obtain ⟨address, value⟩ := entry
      have whole : Represents next view heap address ((address, value) :: rest) :=
        ⟨rfl, represents.2⟩
      obtain ⟨-, -, cell, -, -, behind⟩ := represents
      refine List.nodup_cons.mpr ⟨?_, inductionHypothesis behind⟩
      intro again
      obtain ⟨⟨_, value'⟩, member, rfl⟩ := List.mem_map.mp again
      obtain ⟨front, back, shape⟩ := List.append_of_mem member
      rw [shape] at behind
      have same := congrArg List.length (whole.unique behind.behind)
      simp only [shape, List.length_cons, List.length_append] at same
      omega

/-- The cell at an address of the list. -/
theorem Represents.cell {head address : Nat} {value : ν} {list : List (Nat × ν)}
    (represents : Represents next view heap head list) (member : (address, value) ∈ list) :
    ∃ cell, heap address = some cell ∧ view cell = value := by
  obtain ⟨front, back, shape⟩ := List.append_of_mem member
  rw [shape] at represents
  obtain ⟨-, -, cell, stored, viewed, -⟩ := represents.behind
  exact ⟨cell, stored, viewed⟩

/-! ### Push -/

/-- A new cell before the head. -/
theorem Represents.push {head address : Nat} {list : List (Nat × ν)}
    (represents : Represents next view heap head list) (cell : κ) (nonzero : address ≠ 0)
    (fresh : heap address = none) (linked : next cell = head) :
    Represents next view (Function.update heap address (some cell)) address
      ((address, view cell) :: list) := by
  refine ⟨rfl, nonzero, cell, Function.update_self .., rfl, ?_⟩
  rw [linked]
  apply represents.frame
  intro other member
  apply Function.update_of_ne
  rintro rfl
  obtain ⟨⟨_, value⟩, listed, rfl⟩ := List.mem_map.mp member
  obtain ⟨cell, stored, -⟩ := represents.cell listed
  exact absurd (stored.symm.trans fresh) (by simp)

/-! ### Walks -/

variable (next)

/-- The addresses from `cur` on; `fuel` bounds the walk. -/
def addresses (heap : Nat → Option κ) : Nat → Nat → List Nat
  | 0, _ => []
  | fuel + 1, cur =>
      if cur = 0 then []
      else cur :: addresses heap fuel (((heap cur).map next).getD 0)

/-- `for (; cur != NULL; cur = cur->next)` with an update of each cell. -/
def forEach (update : κ → κ) : Nat → (Nat → Option κ) → Nat → Nat → Option κ
  | 0, heap, _ => heap
  | fuel + 1, heap, cur =>
      if cur = 0 then heap
      else match heap cur with
        | none => heap
        | some cell =>
            let cell := update cell
            forEach update fuel (Function.update heap cur (some cell)) (next cell)

variable {next}

theorem Represents.addresses_eq {head : Nat} {list : List (Nat × ν)} {fuel : Nat}
    (represents : Represents next view heap head list) (enough : list.length ≤ fuel) :
    addresses next heap fuel head = list.map Prod.fst := by
  induction list generalizing head fuel with
  | nil =>
      obtain rfl : head = 0 := represents
      cases fuel with
      | zero => rfl
      | succ fuel => simp [addresses]
  | cons entry rest inductionHypothesis =>
      obtain ⟨address, value⟩ := entry
      obtain ⟨rfl, nonzero, cell, stored, -, behind⟩ := represents
      obtain ⟨fuel, rfl⟩ : ∃ less, fuel = less + 1 := ⟨fuel - 1, by simp at enough; omega⟩
      have bound : rest.length ≤ fuel := by simpa using enough
      have tail := inductionHypothesis behind bound
      simp [addresses, nonzero, stored, tail]

section ForEach

variable {update : κ → κ} {change : ν → ν}

theorem forEach_outside (fuel : Nat) {head address : Nat} {list : List (Nat × ν)}
    (links : ∀ cell, next (update cell) = next cell)
    (represents : Represents next view heap head list)
    (outside : address ∉ list.map Prod.fst) :
    forEach next update fuel heap head address = heap address := by
  induction list generalizing head fuel heap with
  | nil =>
      obtain rfl : head = 0 := represents
      cases fuel <;> simp [forEach]
  | cons entry rest inductionHypothesis =>
      have distinct := represents.nodup
      obtain ⟨there, value⟩ := entry
      obtain ⟨rfl, nonzero, cell, stored, -, behind⟩ := represents
      cases fuel with
      | zero => rfl
      | succ fuel =>
          have elsewhere : address ≠ head := fun same => outside (by simp [same])
          have behind' : Represents next view (Function.update heap head (some (update cell)))
              (next (update cell)) rest := by
            rw [links]
            apply behind.frame
            intro other member
            apply Function.update_of_ne
            rintro rfl
            exact (List.nodup_cons.mp distinct).1 member
          have tail := inductionHypothesis fuel behind' (fun member => outside (by simp [member]))
          rw [Function.update_of_ne elsewhere] at tail
          simpa [forEach, nonzero, stored] using tail

/-- A walk that changes the value of each cell and keeps the links. -/
theorem Represents.forEach {head : Nat} {list : List (Nat × ν)} {fuel : Nat}
    (represents : Represents next view heap head list) (enough : list.length ≤ fuel)
    (links : ∀ cell, next (update cell) = next cell)
    (changes : ∀ cell, view (update cell) = change (view cell)) :
    Represents next view (LinkedList.forEach next update fuel heap head) head
      (list.map fun entry => (entry.1, change entry.2)) := by
  induction list generalizing head fuel heap with
  | nil =>
      obtain rfl : head = 0 := represents
      rfl
  | cons entry rest inductionHypothesis =>
      have distinct := represents.nodup
      obtain ⟨address, value⟩ := entry
      obtain ⟨rfl, nonzero, cell, stored, rfl, behind⟩ := represents
      obtain ⟨fuel, rfl⟩ : ∃ less, fuel = less + 1 := ⟨fuel - 1, by simp at enough; omega⟩
      have notBehind := (List.nodup_cons.mp distinct).1
      have behind' : Represents next view (Function.update heap head (some (update cell)))
          (next (update cell)) rest := by
        rw [links]
        apply behind.frame
        intro other member
        apply Function.update_of_ne
        rintro rfl
        exact notBehind member
      have step : LinkedList.forEach next update (fuel + 1) heap head =
          LinkedList.forEach next update fuel (Function.update heap head (some (update cell)))
            (next (update cell)) := by
        simp [LinkedList.forEach, nonzero, stored]
      have kept : LinkedList.forEach next update fuel
          (Function.update heap head (some (update cell))) (next (update cell)) head =
          some (update cell) := by
        rw [forEach_outside fuel links behind' notBehind, Function.update_self]
      rw [step]
      refine ⟨rfl, nonzero, update cell, kept, changes cell, ?_⟩
      exact inductionHypothesis behind' (by simpa using enough)

end ForEach

/-! ### Unlink through a pointer to a pointer -/

/-- What a pointer to a pointer points at: the head, or the link in a cell. -/
inductive Slot
  | head
  | nextOf (address : Nat)
  deriving DecidableEq, Repr

variable (next)

/-- `*ppCur`. -/
def load (heap : Nat → Option κ) (head : Nat) : Slot → Nat
  | .head => head
  | .nextOf address => ((heap address).map next).getD 0

variable {next} in
theorem load_nextOf {head address : Nat} {cell : κ} (stored : heap address = some cell) :
    load next heap head (.nextOf address) = next cell := by
  rw [load, stored]
  rfl

/-- `for (; *ppCur != NULL; ppCur = &(*ppCur)->next) if (*ppCur == target) break`: the
slot that holds `target`. -/
def findSlot (heap : Nat → Option κ) (head target : Nat) : Nat → Slot → Option Slot
  | 0, _ => none
  | fuel + 1, ppCur =>
      let cur := load next heap head ppCur
      if cur = 0 then none
      else if target = cur then some ppCur
      else findSlot heap head target fuel (.nextOf cur)

/-- `*ppCur = address`: the heap and the head behind it. -/
def store (setNext : κ → Nat → κ) (heap : Nat → Option κ) (head : Nat) (ppCur : Slot)
    (address : Nat) : (Nat → Option κ) × Nat :=
  match ppCur with
  | .head => (heap, address)
  | .nextOf there => (Function.update heap there ((heap there).map (setNext · address)), head)

variable {next}

/-- A slot before a list: the head, or the link of a cell that is not in the list. -/
def Slot.Before (heap : Nat → Option κ) (list : List (Nat × ν)) : Slot → Prop
  | .head => True
  | .nextOf address => (heap address).isSome ∧ address ∉ list.map Prod.fst

theorem findSlot_absent {head target : Nat} {list : List (Nat × ν)} (fuel : Nat) {ppCur : Slot}
    (represents : Represents next view heap (load next heap head ppCur) list)
    (absent : target ∉ list.map Prod.fst) :
    findSlot next heap head target fuel ppCur = none := by
  induction list generalizing fuel ppCur with
  | nil =>
      have ended : load next heap head ppCur = 0 := represents
      cases fuel <;> simp [findSlot, ended]
  | cons entry rest inductionHypothesis =>
      obtain ⟨address, value⟩ := entry
      obtain ⟨atHead, nonzero, cell, stored, -, behind⟩ := represents
      cases fuel with
      | zero => rfl
      | succ fuel =>
          have other : target ≠ address := fun same => absent (by simp [same])
          have onward : Represents next view heap (load next heap head (.nextOf address)) rest := by
            rwa [load_nextOf stored]
          have tail := inductionHypothesis fuel onward (fun member => absent (by simp [member]))
          simpa [findSlot, atHead, nonzero, other] using tail

section Unlink

variable {setNext : κ → Nat → κ} (links : ∀ cell address, next (setNext cell address) = address)
  (views : ∀ cell address, view (setNext cell address) = view cell)

include links in
theorem load_store {head address : Nat} {ppCur : Slot} {list : List (Nat × ν)}
    (before : ppCur.Before heap list) :
    load next (store setNext heap head ppCur address).1 (store setNext heap head ppCur address).2
      ppCur = address := by
  cases ppCur with
  | head => rfl
  | nextOf there =>
      obtain ⟨cell, stored⟩ := Option.isSome_iff_exists.mp before.1
      simp [load, store, stored, links]

theorem store_frame {head address other : Nat} {ppCur : Slot} (apart : ppCur ≠ .nextOf other) :
    (store setNext heap head ppCur address).1 other = heap other := by
  cases ppCur with
  | head => rfl
  | nextOf there =>
      apply Function.update_of_ne
      rintro rfl
      exact apart rfl

theorem load_store_apart {head address : Nat} {ppCur found : Slot} {target : Nat}
    (inner : found = .nextOf target) (apart : ppCur ≠ found) :
    load next (store setNext heap head found address).1 (store setNext heap head found address).2
      ppCur = load next heap head ppCur := by
  subst inner
  cases ppCur with
  | head => rfl
  | nextOf there =>
      have kept : (store setNext heap head (.nextOf target) address).1 there = heap there :=
        store_frame (fun same => apart same.symm)
      show ((store setNext heap head (.nextOf target) address).1 there |>.map next).getD 0 = _
      rw [kept]
      rfl

include links views in
/-- **Unlink.** The walk finds the slot that holds the target, and storing the
target's link there takes exactly the target out of the list. -/
theorem Represents.unlink {head target fuel : Nat} {value : ν} {front back : List (Nat × ν)}
    (ppCur : Slot)
    (represents : Represents next view heap (load next heap head ppCur)
      (front ++ (target, value) :: back))
    (before : ppCur.Before heap (front ++ (target, value) :: back))
    (enough : (front ++ (target, value) :: back).length ≤ fuel) :
    ∃ found, findSlot next heap head target fuel ppCur = some found ∧
      (found = ppCur ∨ ∃ address ∈ front.map Prod.fst, found = .nextOf address) ∧
      Represents next view
        (store setNext heap head found (load next heap head (.nextOf target))).1
        (load next (store setNext heap head found (load next heap head (.nextOf target))).1
          (store setNext heap head found (load next heap head (.nextOf target))).2 ppCur)
        (front ++ back) := by
  induction front generalizing ppCur fuel with
  | nil =>
      obtain ⟨fuel, rfl⟩ : ∃ less, fuel = less + 1 := ⟨fuel - 1, by simp at enough; omega⟩
      obtain ⟨atHead, nonzero, cell, stored, -, behind⟩ := represents
      refine ⟨ppCur, by simp [findSlot, atHead, nonzero], Or.inl rfl, ?_⟩
      rw [load_store links before]
      have onward : Represents next view heap (load next heap head (.nextOf target)) back := by
        rwa [load_nextOf stored]
      apply onward.frame
      intro address member
      apply store_frame
      rintro rfl
      exact before.2 (by simp [member])
  | cons entry front inductionHypothesis =>
      have distinct := represents.nodup
      obtain ⟨address, value'⟩ := entry
      obtain ⟨fuel, rfl⟩ : ∃ less, fuel = less + 1 := ⟨fuel - 1, by simp at enough; omega⟩
      obtain ⟨atHead, nonzero, cell, stored, viewed, behind⟩ := represents
      have notBehind := (List.nodup_cons.mp distinct).1
      have other : target ≠ address := fun same => notBehind (by simp [same])
      have onward : Represents next view heap (load next heap head (.nextOf address))
          (front ++ (target, value) :: back) := by
        rwa [load_nextOf stored]
      obtain ⟨found, reached, place, rest⟩ := inductionHypothesis (.nextOf address) onward
        ⟨by simp [stored], notBehind⟩ (by simpa using enough)
      have inside : ∃ there ∈ ((address, value') :: front).map Prod.fst, found = .nextOf there := by
        rcases place with rfl | ⟨there, member, rfl⟩
        · exact ⟨address, by simp, rfl⟩
        · exact ⟨there, by simp [member], rfl⟩
      obtain ⟨there, listed, inner⟩ := inside
      have apart : ppCur ≠ found := by
        rintro rfl
        subst inner
        exact before.2 (by simp only [List.map_cons, List.map_append, List.cons_append] at *; grind)
      refine ⟨found, by simpa [findSlot, atHead, nonzero, other] using reached,
        Or.inr ⟨there, listed, inner⟩, ?_⟩
      rw [load_store_apart inner apart, atHead]
      refine ⟨rfl, nonzero, ?_⟩
      by_cases own : found = .nextOf address
      · subst own
        refine ⟨setNext cell (load next heap head (.nextOf target)), by simp [store, stored],
          by rw [views, viewed], ?_⟩
        simpa [load, store, stored, links] using rest
      · have kept : (store setNext heap head found (load next heap head (.nextOf target))).1
            address = some cell := by rw [store_frame own, stored]
        refine ⟨cell, kept, viewed, ?_⟩
        have link : load next (store setNext heap head found
            (load next heap head (.nextOf target))).1
            (store setNext heap head found (load next heap head (.nextOf target))).2
            (.nextOf address) = next cell := load_nextOf kept
        rw [link] at rest
        exact rest

end Unlink

end RildHisi.Library.LinkedList
