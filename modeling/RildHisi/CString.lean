import Mathlib.Data.List.Infix
import Mathlib.Data.List.TakeWhile

/-!
Owns C strings as the repository handles them: a NUL-terminated string is the
list of the bytes before its NUL. `strStartsWith` is the helper of misc.c.
-/

namespace RildHisi

/-- The bytes of a C string, without the terminating NUL. -/
abbrev CString := List UInt8

instance : LawfulBEq CString := inferInstance

/-- The bytes of an ASCII literal of the source. -/
def ascii (literal : String) : CString := literal.toList.map Char.toUInt8

/-- The C string that starts at the head of `bytes`: everything before the first NUL. -/
def cString (bytes : List UInt8) : CString := bytes.takeWhile (· ≠ 0)

/-- misc.c `strStartsWith`: 1 if `line` starts with the second argument. -/
def strStartsWith : CString → CString → Bool
  | c :: line, d :: rest => if c ≠ d then false else strStartsWith line rest
  | _, rest => rest.isEmpty

theorem strStartsWith_iff (line start : CString) :
    strStartsWith line start = true ↔ start <+: line := by
  induction line generalizing start with
  | nil => cases start <;> simp [strStartsWith]
  | cons c line inductionHypothesis =>
      cases start with
      | nil => simp [strStartsWith]
      | cons d rest =>
          by_cases same : c = d
          · subst same
            simp [strStartsWith, inductionHypothesis, List.cons_prefix_cons]
          · simp [strStartsWith, same, List.cons_prefix_cons, Ne.symm same]

theorem cString_eq_self {bytes : List UInt8} (clean : (0 : UInt8) ∉ bytes) :
    cString bytes = bytes := by
  refine List.takeWhile_eq_self_iff.mpr fun c member => ?_
  have nonzero : c ≠ 0 := fun zero => clean (zero ▸ member)
  simpa using nonzero

theorem zero_notMem_cString (bytes : List UInt8) : (0 : UInt8) ∉ cString bytes := by
  intro member
  have := List.mem_takeWhile_imp member
  simp at this

/-- A string followed by its NUL is read back, whatever lies behind. -/
theorem cString_append_zero {text : List UInt8} (clean : (0 : UInt8) ∉ text)
    (beyond : List UInt8) : cString (text ++ 0 :: beyond) = text := by
  have self := cString_eq_self clean
  unfold cString at self ⊢
  rw [List.takeWhile_append_of_pos (List.takeWhile_eq_self_iff.mp self)]
  simp

/-- Only the bytes up to the first NUL matter. -/
theorem cString_append_zero_congr (bytes beyond : List UInt8) :
    cString (bytes ++ 0 :: beyond) = cString bytes := by
  induction bytes with
  | nil => simp [cString]
  | cons c rest inductionHypothesis =>
      by_cases zero : c = 0
      · simp [cString, zero]
      · simpa [cString, zero] using inductionHypothesis

/-- A C string and its NUL stand at the front of the bytes it is read from. -/
theorem cString_zero_front (bytes beyond : List UInt8) :
    cString bytes ++ [0] <+: bytes ++ 0 :: beyond := by
  induction bytes with
  | nil => simp [cString]
  | cons c rest inductionHypothesis =>
      by_cases zero : c = 0
      · simp [cString, zero]
      · simpa [cString, zero, List.cons_prefix_cons] using inductionHypothesis

end RildHisi
