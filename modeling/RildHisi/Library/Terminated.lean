import Mathlib.Data.List.Basic
import Mathlib.Logic.Function.Basic

/-!
Owns texts in memory that a terminator ends. Memory goes by address; a terminated text that
is stored where another one ends continues it.
-/

namespace RildHisi.Library

variable {β : Type*}

abbrev Memory (β : Type*) : Type _ := Int → β

/-- Values stored one behind the other. -/
structure Block (β : Type*) where
  address : Int
  values : List β

/-- All of the block is in front of `size`, and none of it in front of 0. -/
def Block.Inside (size : Nat) (block : Block β) : Prop :=
  0 ≤ block.address ∧ block.address + block.values.length ≤ size

namespace Memory

/-- Memory behind a store. -/
def store (memory : Memory β) (address : Int) : List β → Memory β
  | [] => memory
  | value :: values => store (Function.update memory address value) (address + 1) values

/-- Memory behind these stores. -/
def storeAll (memory : Memory β) (blocks : List (Block β)) : Memory β :=
  blocks.foldl (fun memory block => memory.store block.address block.values) memory

/-- In front of the block nothing is changed. -/
theorem store_front (memory : Memory β) {address place : Int} (values : List β)
    (front : place < address) : memory.store address values place = memory place := by
  induction values generalizing memory address with
  | nil => rfl
  | cons value values inductionHypothesis =>
      rw [store, inductionHypothesis _ (by omega), Function.update_of_ne (by omega)]

/-- The text at the address, up to the first terminator. -/
def Holds (terminator : β) (memory : Memory β) : Int → List β → Prop
  | address, [] => memory address = terminator
  | address, value :: rest =>
      value ≠ terminator ∧ memory address = value ∧ Holds terminator memory (address + 1) rest

variable {terminator : β} {memory : Memory β} {address : Int}

theorem Holds.clean {text : List β} (holds : memory.Holds terminator address text) :
    terminator ∉ text := by
  induction text generalizing address with
  | nil => exact List.not_mem_nil
  | cons value rest inductionHypothesis =>
      obtain ⟨other, -, behind⟩ := holds
      intro member
      rcases List.mem_cons.mp member with same | later
      · exact other same.symm
      · exact inductionHypothesis behind later

/-- A terminated text is there once it is stored. -/
theorem holds_store (memory : Memory β) (address : Int) {text : List β}
    (clean : terminator ∉ text) :
    (memory.store address (text ++ [terminator])).Holds terminator address text := by
  induction text generalizing memory address with
  | nil => exact Function.update_self ..
  | cons value rest inductionHypothesis =>
      have other : value ≠ terminator := fun same => clean (same ▸ List.mem_cons_self)
      have here : memory.store address (value :: rest ++ [terminator]) address = value := by
        rw [List.cons_append, store, store_front _ _ (by omega), Function.update_self]
      have behind : terminator ∉ rest := fun member => clean (List.mem_cons_of_mem value member)
      exact ⟨other, here, inductionHypothesis _ _ behind⟩

/-- **Stored where a text ends**, another one continues it. -/
theorem Holds.append {front text : List β} (holds : memory.Holds terminator address front)
    (clean : terminator ∉ text) :
    (memory.store (address + front.length) (text ++ [terminator])).Holds terminator address
      (front ++ text) := by
  induction front generalizing address with
  | nil =>
      rw [List.length_nil, Int.natCast_zero, Int.add_zero]
      exact holds_store memory address clean
  | cons value rest inductionHypothesis =>
      obtain ⟨other, here, behind⟩ := holds
      have place : address + ((value :: rest).length : Int) = address + 1 + rest.length := by
        rw [List.length_cons]
        omega
      rw [place]
      refine ⟨other, ?_, inductionHypothesis behind⟩
      rw [store_front _ _ (by omega), here]

end Memory

end RildHisi.Library
