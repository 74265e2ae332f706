import RildHisi.ReferenceRil.LineFields

/-!
Owns the integers that at_tok.c reads. The number goes through a `long`, which is as
wide as a pointer, and is then cut to an `int`: a number that fits comes out as it is
on both widths, one that does not fit is read all the same.
-/

namespace RildHisi.ReferenceRil

open RildHisi.Libril

/-! ### Numbers -/

/-- The number that the numeral at the front of a token stands for. -/
def numeralValue (base : Nat) (token : CString) : Option Int :=
  (numeral base token).map fun (negative, magnitude) =>
    if negative then -(magnitude : Int) else magnitude

/-- A numeral without a sign: digits of its base, behind a `0x` or `0X` if that is 16. -/
structure IsNumeral (base value : Nat) (token : CString) : Prop where
  digits : ∃ mark digits, token = mark ++ digits ∧
    (mark = [] ∨ base = 16 ∧ (mark = [48, 120] ∨ mark = [48, 88])) ∧ digits ≠ [] ∧
    (∀ c ∈ digits, digitValue c < base) ∧
    (digits.map digitValue).foldl (fun value digit => base * value + digit) 0 = value

theorem leadingDigits_digits {base : Nat} {digits : CString}
    (valid : ∀ c ∈ digits, digitValue c < base) :
    leadingDigits base digits = digits.map digitValue := by
  unfold leadingDigits
  rw [List.takeWhile_eq_self_iff]
  intro digit member
  obtain ⟨c, inside, rfl⟩ := List.mem_map.mp member
  exact decide_eq_true (valid c inside)

/-- White space, signs, the letter `x` and the comma are no digits. -/
theorem digit_cases {c : UInt8} (digit : digitValue c < 16) :
    isSpace c = false ∧ c ≠ 45 ∧ c ≠ 43 ∧ c ≠ 120 ∧ c ≠ 88 ∧ c ≠ 44 := by
  have range : 48 ≤ c.toNat ∧ c.toNat ≤ 57 ∨ 65 ≤ c.toNat ∧ c.toNat ≤ 70 ∨
      97 ≤ c.toNat ∧ c.toNat ≤ 102 := by
    simp only [digitValue, Bool.and_eq_true, decide_eq_true_eq, UInt8.le_iff_toNat_le] at digit
    change (if 48 ≤ c.toNat ∧ c.toNat ≤ 57 then c.toNat - 48
      else if 65 ≤ c.toNat ∧ c.toNat ≤ 90 then c.toNat - 55
      else if 97 ≤ c.toNat ∧ c.toNat ≤ 122 then c.toNat - 87 else 36) < 16 at digit
    split_ifs at digit <;> omega
  have other (d : UInt8) (apart : c.toNat ≠ d.toNat) : c ≠ d := fun same => apart (same ▸ rfl)
  refine ⟨?_, other 45 ?_, other 43 ?_, other 120 ?_, other 88 ?_, other 44 ?_⟩
  · have noBlank : ¬ c = 32 := by
      apply other 32
      change c.toNat ≠ 32
      omega
    have noControl : ¬ (9 ≤ c ∧ c ≤ 13) := by
      rw [UInt8.le_iff_toNat_le, UInt8.le_iff_toNat_le]
      change ¬ (9 ≤ c.toNat ∧ c.toNat ≤ 13)
      omega
    simpa [isSpace, noBlank] using noControl
  all_goals
    simp only [ne_eq, UInt8.reduceToNat]
    omega

/-- What `strtol` and `strtoul` read of a numeral. -/
theorem IsNumeral.numeral_eq {base value : Nat} {token : CString}
    (isNumeral : IsNumeral base value token) (low : base ≤ 16) :
    numeral base token = some (false, value) := by
  obtain ⟨mark, digits, rfl, marked, nonempty, valid, rfl⟩ := isNumeral.digits
  have digit (c : UInt8) (member : c ∈ digits) := digit_cases (lt_of_lt_of_le (valid c member) low)
  have leading := leadingDigits_digits valid
  have some' : (digits.map digitValue).isEmpty = false := by
    cases digits with
    | nil => exact absurd rfl nonempty
    | cons c digits => rfl
  -- nothing stands in front of the digits but the mark
  have skipped : skipHexMark base (numeralSign ((mark ++ digits).dropWhile isSpace)).2 = digits ∧
      (numeralSign ((mark ++ digits).dropWhile isSpace)).1 = false := by
    rcases marked with rfl | ⟨rfl, rfl | rfl⟩
    · cases digits with
      | nil => exact absurd rfl nonempty
      | cons c digits =>
          obtain ⟨noSpace, noMinus, noPlus, -⟩ := digit c List.mem_cons_self
          have unmarked : ∀ d, digits.head? = some d → d ≠ 120 ∧ d ≠ 88 := by
            intro d first
            have member : d ∈ c :: digits := List.mem_cons_of_mem _ (List.mem_of_mem_head? first)
            exact ⟨(digit d member).2.2.2.1, (digit d member).2.2.2.2.1⟩
          have noMark : ¬ (digits.head? = some 120 ∨ digits.head? = some 88) := by
            rintro (first | first)
            · exact (unmarked 120 first).1 rfl
            · exact (unmarked 88 first).2 rfl
          simp [numeralSign, skipHexMark, noSpace, noMinus, noPlus, noMark]
    · simp [numeralSign, skipHexMark, isSpace, leading, nonempty]
    · simp [numeralSign, skipHexMark, isSpace, leading, nonempty]
  unfold numeral
  simp only [skipped.1, skipped.2, leading, some', Bool.false_eq_true, if_false]

theorem IsNumeral.numeralValue_eq {base value : Nat} {token : CString}
    (isNumeral : IsNumeral base value token) (low : base ≤ 16) :
    numeralValue base token = some (value : Int) := by
  simp [numeralValue, isNumeral.numeral_eq low]

/-- Each of the sixteen digits stands for itself. -/
theorem digitValue_digitChar {digit : Nat} (small : digit < 16) :
    digitValue (Nat.digitChar digit).toUInt8 = digit := by
  have all : ∀ i : Fin 16, digitValue (Nat.digitChar i).toUInt8 = i := by decide
  exact all ⟨digit, small⟩

/-- What `printf` makes of a number is a numeral of it. -/
theorem isNumeral_toDigits {base : Nat} (proper : 1 < base) (low : base ≤ 16) (value : Nat) :
    IsNumeral base value ((Nat.toDigits base value).map Char.toUInt8) := by
  have printed : (∀ c ∈ (Nat.toDigits base value).map Char.toUInt8, digitValue c < base) ∧
      (((Nat.toDigits base value).map Char.toUInt8).map digitValue).foldl
        (fun value digit => base * value + digit) 0 = value := by
    induction value using Nat.strong_induction_on with
    | _ value inductionHypothesis =>
        have last := Nat.mod_lt value (Nat.zero_lt_of_lt proper)
        have lastDigit := digitValue_digitChar (lt_of_lt_of_le last low)
        rw [Nat.toDigits_eq_if proper]
        split_ifs with small
        · rw [Nat.mod_eq_of_lt small] at lastDigit
          simp [lastDigit, small]
        · have positive : 0 < value := by omega
          obtain ⟨valid, sum⟩ := inductionHypothesis _ (Nat.div_lt_self positive proper)
          constructor
          · intro c member
            rw [List.map_append, List.mem_append] at member
            rcases member with front | new
            · exact valid c front
            · rw [List.map_singleton, List.mem_singleton] at new
              rwa [new, lastDigit]
          · rw [List.map_append, List.map_append, List.foldl_append, sum]
            simp only [List.map_cons, List.map_nil, List.foldl_cons, List.foldl_nil, lastDigit]
            exact Nat.div_add_mod value base
  have nonempty : (Nat.toDigits base value).map Char.toUInt8 ≠ [] :=
    fun empty => Nat.toDigits_ne_nil (List.map_eq_nil_iff.mp empty)
  exact ⟨⟨[], _, rfl, Or.inl rfl, nonempty, printed.1, printed.2⟩⟩

/-- No comma stands in a numeral. -/
theorem IsNumeral.noComma {base value : Nat} {token : CString}
    (isNumeral : IsNumeral base value token) (low : base ≤ 16) : 44 ∉ token := by
  obtain ⟨mark, digits, rfl, marked, -, valid, -⟩ := isNumeral.digits
  have digit (c : UInt8) (member : c ∈ digits) := digit_cases (lt_of_lt_of_le (valid c member) low)
  intro comma
  rcases List.mem_append.mp comma with front | behind
  · rcases marked with rfl | ⟨-, rfl | rfl⟩
    · cases front
    · exact absurd front (by decide)
    · exact absurd front (by decide)
  · exact (digit 44 behind).2.2.2.2.2 rfl

/-! ### The readers -/

/-- The readers of at_tok.c that give an integer. -/
inductive IntegerReader
  | nextint | nexthexint
  deriving DecidableEq, Repr

namespace IntegerReader

def base : IntegerReader → Nat
  | nextint => 10
  | nexthexint => 16

def scan (abi : Abi) : IntegerReader → Option CString → Word → Scanned Word
  | nextint => atTokNextint abi
  | nexthexint => atTokNexthexint abi

/-- The numbers that `*p_out` has room for: an `int`, or 32 bits without a sign. -/
def Fits : IntegerReader → Int → Prop
  | nextint, number => -2 ^ 31 ≤ number ∧ number < 2 ^ 31
  | nexthexint, number => 0 ≤ number ∧ number < 2 ^ 32

/-- The number in `*p_out`. -/
def result : IntegerReader → Word → Int
  | nextint, out => out.toInt
  | nexthexint, out => out.toNat

/-- The number that the next field starts with, if it starts with one. -/
def next (reader : IntegerReader) (pCur : Option CString) : Option Int :=
  (nextTok pCur).1.bind (numeralValue reader.base)

/-- The `long` that the token is read as. -/
def long (abi : Abi) : IntegerReader → CString → Int
  | nextint, token => strtol abi 10 token
  | nexthexint, token => strtoul abi 16 token

theorem scan_token (abi : Abi) (reader : IntegerReader) {pCur behind : Option CString}
    {token : CString} (came : nextTok pCur = (some token, behind)) (out : Word) :
    reader.scan abi pCur out =
      ⟨if (numeral reader.base token).isNone then -1 else 0, behind,
        BitVec.ofInt 32 (reader.long abi token)⟩ := by
  cases pCur with
  | none => cases came
  | some cur =>
      cases reader <;>
        simp [scan, atTokNextint, atTokNexthexint, atTokNextintBase, came, base, long]

/-- Without a number nothing is read. -/
theorem scan_noNumber (abi : Abi) (reader : IntegerReader) {pCur : Option CString}
    (none' : reader.next pCur = none) (out : Word) : (reader.scan abi pCur out).err = -1 := by
  cases pCur with
  | none => cases reader <;> rfl
  | some cur =>
      obtain ⟨token, present⟩ := Option.isSome_iff_exists.mp (nextTok_isSome cur)
      have came : nextTok (some cur) = (some token, (nextTok (some cur)).2) :=
        Prod.ext present rfl
      have noNumeral : numeral reader.base token = none := by
        simpa [next, present, numeralValue] using none'
      rw [reader.scan_token abi came, noNumeral]
      rfl

theorem limit_le (abi : Abi) : 2 ^ 31 ≤ 2 ^ (8 * abi.ptrSize - 1) ∧ 2 ^ 32 ≤ 2 ^ (8 * abi.ptrSize) := by
  cases abi <;> decide

/-- A number that fits goes through the `long` as it is. -/
theorem long_of_fits (abi : Abi) (reader : IntegerReader) {token : CString} {number : Int}
    (value : numeralValue reader.base token = some number) (fits : reader.Fits number) :
    reader.long abi token = number := by
  obtain ⟨⟨negative, magnitude⟩, read, rfl⟩ := Option.map_eq_some_iff.mp value
  obtain ⟨signed, unsigned⟩ := limit_le abi
  cases reader with
  | nextint =>
      simp only [Fits] at fits
      simp only [base] at read
      cases negative with
      | true =>
          simp only [if_true] at fits
          have small : min magnitude (2 ^ (8 * abi.ptrSize - 1)) = magnitude := by omega
          simp only [long, strtol, read, small, if_true]
      | false =>
          simp only [Bool.false_eq_true, if_false] at fits
          have small : min magnitude (2 ^ (8 * abi.ptrSize - 1) - 1) = magnitude := by omega
          simp only [long, strtol, read, small, Bool.false_eq_true, if_false]
  | nexthexint =>
      simp only [Fits] at fits
      simp only [base] at read
      cases negative with
      | true =>
          simp only [if_true] at fits
          obtain rfl : magnitude = 0 := by omega
          have positive : ¬ 2 ^ (8 * abi.ptrSize) ≤ 0 := by omega
          simp [long, strtoul, read]
      | false =>
          simp only [Bool.false_eq_true, if_false] at fits
          have small : ¬ 2 ^ (8 * abi.ptrSize) ≤ magnitude := by omega
          simp only [long, strtoul, read, small, Bool.false_eq_true, if_false]

/-- A number that fits an `int`, or 32 bits, comes out of them. -/
theorem result_of_fits (reader : IntegerReader) {number : Int} (fits : reader.Fits number) :
    reader.result (BitVec.ofInt 32 number) = number := by
  cases reader with
  | nextint =>
      simp only [Fits] at fits
      simp only [result, BitVec.toInt_ofInt]
      apply Int.bmod_eq_of_le <;> omega
  | nexthexint =>
      simp only [Fits] at fits
      simp only [result, BitVec.toNat_ofInt]
      omega

/-- A number that fits is read, and the pointer stands behind its field. -/
theorem scan_of_fits (abi : Abi) (reader : IntegerReader) {pCur behind : Option CString}
    {token : CString} (came : nextTok pCur = (some token, behind)) {number : Int}
    (value : numeralValue reader.base token = some number) (fits : reader.Fits number)
    (out : Word) :
    reader.scan abi pCur out = ⟨0, behind, BitVec.ofInt 32 number⟩ := by
  have present : (numeral reader.base token).isNone = false := by
    obtain ⟨read, present, -⟩ := Option.map_eq_some_iff.mp value
    rw [present]
    rfl
  rw [reader.scan_token abi came, present, reader.long_of_fits abi value fits]
  rfl

/-! ### What is read -/

/-- A reader returns 0 only with the number that the next field starts with, and refuses a
number that it has no room for. -/
structure Faithful (abi : Abi) (reader : IntegerReader) (pCur : Option CString) (out : Word) :
    Prop where
  exact : (reader.scan abi pCur out).err = 0 → ∃ number, reader.next pCur = some number ∧
    reader.Fits number ∧ reader.result (reader.scan abi pCur out).out = number
  refuses : ∀ number, reader.next pCur = some number → ¬ reader.Fits number →
    (reader.scan abi pCur out).err = -1

/-- **A reader is faithful exactly where the next field starts with no number or with one that
fits, with 32-bit and with 64-bit `long`s.** -/
theorem faithful_iff (abi : Abi) (reader : IntegerReader) (pCur : Option CString) (out : Word) :
    reader.Faithful abi pCur out ↔ ∀ number, reader.next pCur = some number → reader.Fits number := by
  constructor
  · intro faithful number found
    obtain ⟨token, present, value⟩ := Option.bind_eq_some_iff.mp found
    obtain ⟨read, some', -⟩ := Option.map_eq_some_iff.mp value
    have returned : (reader.scan abi pCur out).err = 0 := by
      rw [reader.scan_token abi (Prod.ext present rfl), some']
      rfl
    obtain ⟨other, same, fits, -⟩ := faithful.exact returned
    rw [found] at same
    exact Option.some.inj same ▸ fits
  · intro fitting
    constructor
    · intro returned
      cases found : reader.next pCur with
      | none =>
          rw [reader.scan_noNumber abi found] at returned
          cases returned
      | some number =>
          obtain ⟨token, present, value⟩ := Option.bind_eq_some_iff.mp found
          have fits := fitting number found
          apply Exists.intro number
          rw [reader.scan_of_fits abi (Prod.ext present rfl) value fits out]
          exact ⟨rfl, fits, reader.result_of_fits fits⟩
    · intro number found unfit
      exact absurd (fitting number found) unfit

/-- 2^32 is read as 0 with a 64-bit `long` and as the greatest `int` with a 32-bit one, and
16^8 as 0 or as the greatest 32 bits. -/
theorem outOfRange_read :
    (nextint.scan .lp64 (some (ascii "4294967296")) 7 = ⟨0, none, 0⟩ ∧
      nextint.scan .ilp32 (some (ascii "4294967296")) 7 = ⟨0, none, 0x7fffffff⟩ ∧
      nexthexint.scan .lp64 (some (ascii "100000000")) 7 = ⟨0, none, 0⟩ ∧
      nexthexint.scan .ilp32 (some (ascii "100000000")) 7 = ⟨0, none, 0xffffffff⟩) ∧
    ¬ nextint.Faithful .lp64 (some (ascii "4294967296")) 7 := by
  constructor
  · decide
  · intro faithful
    have refused := faithful.refuses 4294967296 (by decide) (by simp [Fits])
    exact absurd refused (by decide)

end IntegerReader

end RildHisi.ReferenceRil
