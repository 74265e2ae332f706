import Mathlib.Algebra.Group.Nat.Defs
import RildHisi.CString
import RildHisi.Library.Terminated

/-!
Owns `Print` of js_support.cpp. Each call of `snprintf` is told that it has the whole buffer,
wherever in it the text ends: a first argument that is too long is cut, what follows it is
stored behind the buffer.

The bytes of an argument are those that V8 converts it to, and the buffer comes from `new`
with what was in memory before.
-/

namespace RildHisi.MockRil.Print

open RildHisi.Library

/-- `v8::String::Utf8Value`, whose length is an `int`. It is NULL where the conversion failed. -/
structure Utf8Value where
  value : Option (List UInt8)
  short : ∀ bytes ∈ value, bytes.length < 2 ^ 31

/-- `ToCString`. -/
def toCString (utf8 : Utf8Value) : CString :=
  match utf8.value with
  | some bytes => cString bytes
  | none => ascii "<string conversion failed>"

/-! ### `Print` -/

/-- `str_size`, the length of `str`. -/
def strSize : Nat := 1000

/-- `snprintf` of a text: what it stores, and the length that it returns. -/
def snprintf (address : Int) (size : Nat) (text : CString) : Block UInt8 × BitVec 32 :=
  (⟨address, text.take (size - 1) ++ [0]⟩, BitVec.ofNat 32 text.length)

/-- The variables of `Print`, and what has been stored. Addresses count from `str`. -/
structure Locals where
  first : Bool
  offset : BitVec 32
  stored : List (Block UInt8)

/-- `offset += snprintf(&str[offset], str_size, ..)`. -/
def Locals.append (s : Locals) (text : CString) : Locals :=
  let (block, length) := snprintf s.offset.toInt strSize text
  { s with
    offset := s.offset + length
    stored := s.stored ++ [block] }

/-- A turn of the loop. -/
def Locals.arg (s : Locals) (strUtf8 : Utf8Value) : Locals :=
  let s := if s.first then { s with first := false } else s.append (ascii " ")
  s.append (toCString strUtf8)

/-- `Print`, up to `LOGD`. -/
def print (args : List Utf8Value) : Locals := args.foldl Locals.arg ⟨true, 0, []⟩

/-- What `LOGD` gets: the text at `str` behind the stores. -/
def Logs (fresh : Memory UInt8) (args : List Utf8Value) (text : CString) : Prop :=
  (fresh.storeAll (print args).stored).Holds 0 0 text

/-! ### What is asked of it -/

/-- The text that stands for an argument. -/
def Utf8Value.text (utf8 : Utf8Value) : List UInt8 :=
  utf8.value.getD (ascii "<string conversion failed>")

/-- Texts with a space between each two. -/
def spaced (texts : List (List UInt8)) : List UInt8 := [32].intercalate texts

/-- `Print` stays within its buffer, and logs the arguments as far as they fit. -/
structure PrintsWell (fresh : Memory UInt8) (args : List Utf8Value) : Prop where
  inside : ∀ block ∈ (print args).stored, block.Inside strSize
  logs : Logs fresh args ((spaced (args.map Utf8Value.text)).take (strSize - 1))

/-- Several arguments have room for all of their C strings, no NUL is among the bytes to log,
and without arguments the buffer comes with a NUL in front. -/
structure Fits (fresh : Memory UInt8) (args : List Utf8Value) : Prop where
  room : 2 ≤ args.length → (spaced (args.map toCString)).length < strSize
  clean : 0 ∉ (spaced (args.map Utf8Value.text)).take (strSize - 1)
  empty : args = [] → fresh 0 = 0

/-! ### The stores -/

/-- The stores of texts one behind the other. -/
def storesFrom (offset : BitVec 32) : List CString → List (Block UInt8)
  | [] => []
  | text :: texts =>
      (snprintf offset.toInt strSize text).1 ::
        storesFrom (offset + BitVec.ofNat 32 text.length) texts

theorem storesFrom_zero (text : CString) (texts : List CString) :
    storesFrom 0 (text :: texts) =
      (snprintf 0 strSize text).1 :: storesFrom (BitVec.ofNat 32 text.length) texts := by
  show _ :: storesFrom (0#32 + _) texts = _
  rw [BitVec.zero_add]
  rfl

theorem intersperse_cons {α : Type} (separator first : α) (others : List α) :
    (first :: others).intersperse separator =
      first :: others.flatMap fun other => [separator, other] := by
  induction others generalizing first with
  | nil => rfl
  | cons second others inductionHypothesis =>
      rw [List.intersperse_cons_cons, inductionHypothesis, List.flatMap_cons]
      rfl

/-- Each argument but the first has a space in front. -/
theorem stored_foldl_arg (args : List Utf8Value) {s : Locals} (later : s.first = false) :
    (args.foldl Locals.arg s).stored =
      s.stored ++ storesFrom s.offset ((args.map toCString).flatMap fun text => [[32], text]) := by
  induction args generalizing s with
  | nil => exact (List.append_nil _).symm
  | cons arg args inductionHypothesis =>
      have space : ascii " " = [32] := rfl
      rw [List.foldl_cons, inductionHypothesis]
      · simp [Locals.arg, Locals.append, later, space, storesFrom, snprintf]
      · simp [Locals.arg, Locals.append, later]

theorem stored_print (args : List Utf8Value) :
    (print args).stored = storesFrom 0 ((args.map toCString).intersperse [32]) := by
  cases args with
  | nil => rfl
  | cons arg args =>
      rw [print, List.foldl_cons, stored_foldl_arg args rfl, List.map_cons, intersperse_cons]
      simp [Locals.arg, Locals.append, storesFrom, snprintf]

/-- An offset that is an `int` has not overflowed. -/
theorem toInt_offset {offset : Nat} (small : offset < 2 ^ 31) :
    (BitVec.ofNat 32 offset).toInt = offset := by
  rw [BitVec.toInt_ofNat']
  apply Int.bmod_eq_of_le <;> omega

/-- Where the text ends within the buffer, a store is inside if all of its text is. -/
theorem inside_snprintf_iff {offset : Nat} {text : CString} (small : offset < 2 ^ 31)
    (behind : 0 < offset ∨ text.length < strSize) :
    (snprintf (BitVec.ofNat 32 offset).toInt strSize text).1.Inside strSize ↔
      offset + text.length < strSize := by
  simp only [snprintf, Block.Inside, toInt_offset small, List.length_append, List.length_take,
    List.length_singleton, strSize] at behind ⊢
  omega

/-- Behind the front of the buffer all stores are inside if there is room for all texts. -/
theorem inside_storesFrom_iff {offset : Nat} (texts : List CString) (positive : 0 < offset)
    (within : offset < strSize) :
    (∀ block ∈ storesFrom (BitVec.ofNat 32 offset) texts, block.Inside strSize) ↔
      offset + texts.flatten.length < strSize := by
  induction texts generalizing offset with
  | nil => exact iff_of_true (fun _ member => absurd member List.not_mem_nil) within
  | cons text texts inductionHypothesis =>
      have small : offset < 2 ^ 31 := lt_trans within (by decide)
      rw [storesFrom, List.forall_mem_cons, inside_snprintf_iff small (Or.inl positive),
        ← BitVec.ofNat_add, List.flatten_cons, List.length_append]
      constructor
      · rintro ⟨fits, others⟩
        rw [inductionHypothesis (by omega) fits] at others
        omega
      · intro room
        have fits : offset + text.length < strSize := by omega
        refine ⟨fits, (inductionHypothesis (by omega) fits).mpr ?_⟩
        omega

/-- Texts that there is room for continue the one in the buffer. -/
theorem holds_storesFrom {memory : Memory UInt8} {front : CString} (texts : List CString)
    (holds : memory.Holds 0 0 front) (clean : ∀ text ∈ texts, 0 ∉ text)
    (room : front.length + texts.flatten.length < strSize) :
    (memory.storeAll (storesFrom (BitVec.ofNat 32 front.length) texts)).Holds 0 0
      (front ++ texts.flatten) := by
  induction texts generalizing memory front with
  | nil => simpa [storesFrom, Memory.storeAll] using holds
  | cons text texts inductionHypothesis =>
      rw [List.flatten_cons, List.length_append] at room
      have small : front.length < 2 ^ 31 := by
        simp only [strSize] at room
        omega
      have address : (BitVec.ofNat 32 front.length).toInt = 0 + front.length := by
        rw [toInt_offset small, Int.zero_add]
      have whole : text.take (strSize - 1) = text := List.take_of_length_le (by omega)
      have continued := holds.append (clean text List.mem_cons_self)
      rw [← address] at continued
      rw [storesFrom, ← BitVec.ofNat_add, ← List.length_append, List.flatten_cons,
        ← List.append_assoc]
      simp only [snprintf, whole]
      apply inductionHypothesis continued
      · exact fun later member => clean later (List.mem_cons_of_mem text member)
      · rw [List.length_append]
        omega

/-! ### The texts -/

theorem toCString_eq (utf8 : Utf8Value) : toCString utf8 = cString utf8.text := by
  unfold toCString Utf8Value.text
  cases utf8.value with
  | none => decide
  | some bytes => rfl

theorem zero_notMem_toCString (utf8 : Utf8Value) : 0 ∉ toCString utf8 := by
  rw [toCString_eq]
  exact zero_notMem_cString _

theorem length_toCString_lt (utf8 : Utf8Value) : (toCString utf8).length < 2 ^ 31 := by
  unfold toCString
  cases present : utf8.value with
  | none => decide
  | some bytes =>
      have shorter : (cString bytes).length ≤ bytes.length := (List.takeWhile_prefix _).length_le
      exact lt_of_le_of_lt shorter (utf8.short bytes present)

/-- As far as there is no NUL, a text and its C string are the same. -/
theorem take_cString {text : List UInt8} {size : Nat} (clean : 0 ∉ text.take size) :
    (cString text).take size = text.take size := by
  unfold cString
  rw [List.take_takeWhile]
  exact cString_eq_self clean

/-- As far as there is no NUL, spaced texts and their spaced C strings are the same. -/
theorem take_spaced {texts : List (List UInt8)} {size : Nat}
    (clean : 0 ∉ (spaced texts).take size) :
    (spaced (texts.map cString)).take size = (spaced texts).take size := by
  unfold spaced at *
  induction texts generalizing size with
  | nil => rfl
  | cons text texts inductionHypothesis =>
      cases texts with
      | nil =>
          simp only [List.map_cons, List.map_nil, List.intercalate_singleton] at clean ⊢
          exact take_cString clean
      | cons text' texts =>
          simp only [List.map_cons, List.intercalate_cons_cons, List.append_assoc] at clean ⊢
          simp only [List.map_cons] at inductionHypothesis
          have front : 0 ∉ text.take size := by
            intro member
            apply clean
            rw [List.take_append]
            exact List.mem_append_left _ member
          rcases Nat.lt_or_ge text.length size with shorter | longer
          · obtain ⟨left, rfl⟩ : ∃ left, size = text.length + (left + 1) :=
              ⟨size - text.length - 1, by omega⟩
            rw [List.take_of_length_le shorter.le] at front
            rw [List.take_length_add_append, List.singleton_append, List.take_succ_cons] at clean
            have others := inductionHypothesis fun member =>
              clean (List.mem_append_right _ (List.mem_cons_of_mem 32 member))
            rw [cString_eq_self front, List.take_length_add_append, List.take_length_add_append,
              List.singleton_append, List.singleton_append, List.take_succ_cons,
              List.take_succ_cons, others]
          · have same := take_cString front
            have lengths := congrArg List.length same
            simp only [List.length_take] at lengths
            rw [List.take_append_of_le_length (by omega), List.take_append_of_le_length longer, same]

/-- C strings that fit are what is to be logged, if no NUL is. -/
theorem spaced_toCString {args : List Utf8Value}
    (room : (spaced (args.map toCString)).length < strSize)
    (clean : 0 ∉ (spaced (args.map Utf8Value.text)).take (strSize - 1)) :
    spaced (args.map toCString) = (spaced (args.map Utf8Value.text)).take (strSize - 1) := by
  have strings : args.map toCString = (args.map Utf8Value.text).map cString := by
    rw [List.map_map]
    exact List.map_congr_left fun utf8 _ => toCString_eq utf8
  have same := take_spaced clean
  rw [← strings, List.take_of_length_le (by omega)] at same
  exact same

theorem clean_intersperse (args : List Utf8Value) :
    ∀ text ∈ (args.map toCString).intersperse [32], 0 ∉ text := by
  cases args with
  | nil => exact fun _ member => absurd member List.not_mem_nil
  | cons arg args =>
      rw [List.map_cons, intersperse_cons, List.flatMap_map]
      intro text member
      rcases List.mem_cons.mp member with rfl | later
      · exact zero_notMem_toCString arg
      · obtain ⟨other, -, inPair⟩ := List.mem_flatMap.mp later
        rcases List.mem_cons.mp inPair with rfl | last
        · decide
        · rw [List.mem_singleton.mp last]
          exact zero_notMem_toCString other

/-! ### When it prints well -/

/-- The first store is always inside. -/
theorem inside_first (text : CString) : (snprintf 0 strSize text).1.Inside strSize := by
  simp only [snprintf, Block.Inside, List.length_append, List.length_take, List.length_singleton,
    strSize]
  omega

/-- **Several arguments** are stored inside exactly if there is room for all of their C strings. -/
theorem inside_print_iff (first second : Utf8Value) (others : List Utf8Value) :
    (∀ block ∈ (print (first :: second :: others)).stored, block.Inside strSize) ↔
      (spaced ((first :: second :: others).map toCString)).length < strSize := by
  have short := length_toCString_lt first
  rw [stored_print, spaced, List.intercalate, List.map_cons, List.map_cons,
    List.intersperse_cons_cons]
  generalize toCString first = text at short
  generalize (toCString second :: others.map toCString).intersperse [32] = texts
  rw [List.flatten_cons, List.flatten_cons, List.length_append, List.length_append,
    List.length_singleton, storesFrom_zero, storesFrom, List.forall_mem_cons, List.forall_mem_cons,
    inside_snprintf_iff short (Or.inr (by decide)), List.length_singleton, ← BitVec.ofNat_add]
  constructor
  · rintro ⟨-, space, rest⟩
    rw [inside_storesFrom_iff texts (by omega) space] at rest
    omega
  · intro room
    refine ⟨inside_first text, by omega, ?_⟩
    rw [inside_storesFrom_iff texts (by omega) (by omega)]
    omega

/-- What there is room for is logged. -/
theorem logs_spaced (fresh : Memory UInt8) {args : List Utf8Value} (some' : args ≠ [])
    (room : (spaced (args.map toCString)).length < strSize) :
    Logs fresh args (spaced (args.map toCString)) := by
  have clean := clean_intersperse args
  rw [spaced, List.intercalate] at room ⊢
  rw [Logs, stored_print]
  cases args with
  | nil => exact absurd rfl some'
  | cons arg args =>
      rw [List.map_cons, intersperse_cons] at clean room ⊢
      generalize toCString arg = text at clean room
      generalize (args.map toCString).flatMap (fun text => [[32], text]) = texts at clean room
      rw [List.flatten_cons, List.length_append] at room
      have whole : text.take (strSize - 1) = text := List.take_of_length_le (by omega)
      have first := fresh.holds_store 0 (clean text List.mem_cons_self)
      have rest := holds_storesFrom texts first
        (fun later member => clean later (List.mem_cons_of_mem text member)) room
      rw [storesFrom_zero, List.flatten_cons]
      simp only [snprintf, whole]
      exact rest

/-- A single argument is cut. -/
theorem logs_single (fresh : Memory UInt8) {arg : Utf8Value}
    (clean : 0 ∉ arg.text.take (strSize - 1)) : Logs fresh [arg] (arg.text.take (strSize - 1)) := by
  have stored := fresh.holds_store 0 clean
  rw [← take_cString clean, ← toCString_eq] at stored ⊢
  exact stored

theorem PrintsWell.room {fresh : Memory UInt8} {args : List Utf8Value}
    (well : PrintsWell fresh args) (several : 2 ≤ args.length) :
    (spaced (args.map toCString)).length < strSize := by
  cases args with
  | nil => cases several
  | cons first args =>
      cases args with
      | nil => exact absurd several (by simp)
      | cons second others => exact (inside_print_iff first second others).mp well.inside

theorem Fits.inside {fresh : Memory UInt8} {args : List Utf8Value} (fits : Fits fresh args) :
    ∀ block ∈ (print args).stored, block.Inside strSize := by
  cases args with
  | nil => exact fun _ member => absurd member List.not_mem_nil
  | cons first args =>
      cases args with
      | nil =>
          intro block member
          rw [stored_print] at member
          rw [List.mem_singleton.mp member]
          exact inside_first _
      | cons second others => exact (inside_print_iff first second others).mpr (fits.room (by simp))

theorem Fits.logs {fresh : Memory UInt8} {args : List Utf8Value} (fits : Fits fresh args) :
    Logs fresh args ((spaced (args.map Utf8Value.text)).take (strSize - 1)) := by
  have clean := fits.clean
  cases args with
  | nil => exact fits.empty rfl
  | cons first args =>
      cases args with
      | nil =>
          rw [List.map_singleton, spaced, List.intercalate_singleton] at clean ⊢
          exact logs_single fresh clean
      | cons second others =>
          have room := fits.room (by simp)
          rw [← spaced_toCString room clean]
          exact logs_spaced fresh (List.cons_ne_nil _ _) room

/-- **`Print` stays within its buffer and logs its arguments, exactly if there is room for the C
strings of several arguments, no NUL is among the bytes to log, and without arguments the
buffer comes with a NUL in front.** -/
theorem printsWell_iff (fresh : Memory UInt8) (args : List Utf8Value) :
    PrintsWell fresh args ↔ Fits fresh args := by
  constructor
  · intro well
    apply Fits.mk well.room well.logs.clean
    rintro rfl
    exact well.logs
  · intro fits
    exact ⟨fits.inside, fits.logs⟩

/-- A string of so many letters `a`. -/
def repeated (length : Nat) (small : length < 2 ^ 31) : Utf8Value where
  value := some (List.replicate length 97)
  short bytes same := by
    rw [← Option.some.inj same, List.length_replicate]
    exact small

theorem toCString_repeated (length : Nat) (small : length < 2 ^ 31) :
    toCString (repeated length small) = List.replicate length 97 :=
  cString_eq_self fun member => absurd (List.eq_of_mem_replicate member) (by decide)

/-- A string of 999 bytes, and another one. -/
def longAndShort : List Utf8Value := [repeated 999 (by decide), repeated 1 (by decide)]

/-- The space behind the long string has its NUL behind the buffer. Without arguments the log
is what was in memory. -/
theorem longAndShort_none :
    ¬ PrintsWell (fun _ => 0) longAndShort ∧ ¬ PrintsWell (fun _ => 97) [] := by
  constructor
  · intro well
    have room := (inside_print_iff _ _ _).mp well.inside
    simp only [List.map_cons, List.map_nil, toCString_repeated, spaced, List.intercalate_cons_cons,
      List.intercalate_singleton, List.length_append, List.length_replicate, List.length_singleton,
      strSize] at room
    omega
  · intro well
    have logged : (97 : UInt8) = 0 := well.logs
    cases logged

end RildHisi.MockRil.Print
