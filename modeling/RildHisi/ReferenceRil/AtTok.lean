import RildHisi.Libril.Parcel

/-!
Owns the tokenizer of at_tok.c. A `char *` into a line is the string from there on,
none for NULL. A function that moves `*p_cur` returns where it points behind the
call; the NULs that `strsep` writes all stand in front of that.

`strtol`, `strtoul` and `isspace` are the C library's, in the C locale.
-/

namespace RildHisi.ReferenceRil

open RildHisi.Libril

/-! ### Numerals -/

/-- `isspace`. -/
def isSpace (c : UInt8) : Bool := c == 32 || (9 ≤ c && c ≤ 13)

/-- What a digit or a letter stands for, in any base up to 36. -/
def digitValue (c : UInt8) : Nat :=
  if 48 ≤ c && c ≤ 57 then c.toNat - 48
  else if 65 ≤ c && c ≤ 90 then c.toNat - 55
  else if 97 ≤ c && c ≤ 122 then c.toNat - 87
  else 36

/-- The digits at the front of `s`. -/
def leadingDigits (base : Nat) (s : CString) : List Nat :=
  (s.map digitValue).takeWhile (· < base)

/-- Whether a minus sign stands at the front, and the string behind the sign. -/
def numeralSign (s : CString) : Bool × CString :=
  if s.head? = some 45 then (true, s.tail)
  else if s.head? = some 43 then (false, s.tail)
  else (false, s)

/-- Base 16 allows a `0x` or `0X` that a digit follows. -/
def skipHexMark (base : Nat) (s : CString) : CString :=
  if base = 16 ∧ s.head? = some 48 ∧ ((s.drop 1).head? = some 120 ∨ (s.drop 1).head? = some 88) ∧
      leadingDigits base (s.drop 2) ≠ [] then
    s.drop 2
  else s

/-- The sign and the magnitude `strtol` reads, or none where it reads no digit: then
`end == ret`. -/
def numeral (base : Nat) (s : CString) : Option (Bool × Nat) :=
  let (negative, s) := numeralSign (s.dropWhile isSpace)
  let digits := leadingDigits base (skipHexMark base s)
  if digits.isEmpty then none
  else some (negative, digits.foldl (fun value digit => base * value + digit) 0)

/-- `strtol`: the nearest `long`. -/
def strtol (abi : Abi) (base : Nat) (s : CString) : Int :=
  let limit : Nat := 2 ^ (8 * abi.ptrSize - 1)
  match numeral base s with
  | none => 0
  | some (true, magnitude) => -(min magnitude limit : Nat)
  | some (false, magnitude) => (min magnitude (limit - 1) : Nat)

/-- `strtoul`: `ULONG_MAX` where the magnitude is above it, else negated as an
`unsigned long`. -/
def strtoul (abi : Abi) (base : Nat) (s : CString) : Nat :=
  let limit : Nat := 2 ^ (8 * abi.ptrSize)
  match numeral base s with
  | none => 0
  | some (negative, magnitude) =>
      if limit ≤ magnitude then limit - 1
      else if negative then (limit - magnitude) % limit
      else magnitude

/-! ### Tokens -/

/-- `strsep(p_cur, delim)` for a pointer that is not NULL: the token, and the pointer. -/
def strsep (cur : CString) (delim : UInt8) : CString × Option CString :=
  (cur.takeWhile (· ≠ delim),
    match cur.dropWhile (· ≠ delim) with
    | [] => none
    | _ :: rest => some rest)

def skipWhiteSpace (pCur : Option CString) : Option CString :=
  pCur.map (·.dropWhile isSpace)

/-- The pointer stays at the terminator where there is no comma. -/
def skipNextComma (pCur : Option CString) : Option CString :=
  pCur.map fun cur => (cur.dropWhile (· ≠ 44)).drop 1

/-- The token and the pointer behind it. -/
def nextTok (pCur : Option CString) : Option CString × Option CString :=
  match skipWhiteSpace pCur with
  | none => (none, none)
  | some cur =>
      if cur.head? = some 34 then
        let (ret, pCur) := strsep cur.tail 34
        (some ret, skipNextComma pCur)
      else
        let (ret, pCur) := strsep cur 44
        (some ret, pCur)

/-- What a function of at_tok.c comes to: its return value, and `*p_cur` and `*p_out`
behind the call. -/
structure Scanned (α : Type) where
  err : Int
  pCur : Option CString
  out : α
  deriving DecidableEq, Repr

/-- `strchr` leaves NULL in `*p_cur` where there is no colon. -/
def atTokStart (pCur : Option CString) : Scanned Unit :=
  match pCur with
  | none => ⟨-1, none, ()⟩
  | some cur =>
      match cur.dropWhile (· ≠ 58) with
      | [] => ⟨-1, none, ()⟩
      | _ :: rest => ⟨0, some rest, ()⟩

/-- `*p_out` is written where there is a token, also if it is no number. -/
def atTokNextintBase (abi : Abi) (base : Nat) (uns : Bool) (pCur : Option CString) (out : Word) :
    Scanned Word :=
  if pCur.isNone then ⟨-1, pCur, out⟩
  else match nextTok pCur with
    | (none, pCur) => ⟨-1, pCur, out⟩
    | (some ret, pCur) =>
        let l : Int := if uns then strtoul abi base ret else strtol abi base ret
        ⟨if (numeral base ret).isNone then -1 else 0, pCur, BitVec.ofInt 32 l⟩

def atTokNextint (abi : Abi) (pCur : Option CString) (out : Word) : Scanned Word :=
  atTokNextintBase abi 10 false pCur out

def atTokNexthexint (abi : Abi) (pCur : Option CString) (out : Word) : Scanned Word :=
  atTokNextintBase abi 16 true pCur out

/-- The callers all pass a `p_out`. -/
def atTokNextbool (abi : Abi) (pCur : Option CString) (out : Word) : Scanned Word :=
  let scanned := atTokNextint abi pCur 0
  if scanned.err < 0 then ⟨-1, scanned.pCur, out⟩
  -- booleans should be 0 or 1
  else if ¬ (scanned.out = 0 ∨ scanned.out = 1) then ⟨-1, scanned.pCur, out⟩
  else scanned

def atTokNextstr (pCur : Option CString) (out : Option CString) : Scanned (Option CString) :=
  if pCur.isNone then ⟨-1, pCur, out⟩
  else
    let (ret, pCur) := nextTok pCur
    ⟨0, pCur, ret⟩

def atTokHasmore (pCur : Option CString) : Bool := pCur.any (!·.isEmpty)

/-- `at_tok_start` leaves NULL behind an error. -/
theorem atTokStart_failed {pCur : Option CString} (failed : (atTokStart pCur).err < 0) :
    (atTokStart pCur).pCur = none := by
  unfold atTokStart at failed ⊢
  cases pCur with
  | none => rfl
  | some cur =>
      cases found : cur.dropWhile (· ≠ 58) with
      | nil => simp only [found]
      | cons colon rest =>
          simp only [found] at failed
          exact absurd failed (by decide)

/-- A pointer that is not NULL gives a token. -/
theorem nextTok_isSome (cur : CString) : (nextTok (some cur)).1.isSome := by
  simp only [nextTok, skipWhiteSpace, Option.map_some]
  split <;> rfl

/-! ### Reading a line

Most callers take the same way out on every error, so they are programs that fail as
soon as one call fails. -/

/-- Calls of at_tok.c, each left with `if (err < 0) goto error`. -/
abbrev Tok := StateT (Option CString) Option

namespace Tok

variable {α : Type}

/-- One call; what stood in `*p_out` before is never used behind an error. -/
def ofScan (scan : Option CString → Scanned α) : Tok α := fun pCur =>
  let scanned := scan pCur
  if scanned.err < 0 then none else some (scanned.out, scanned.pCur)

def start : Tok Unit := ofScan atTokStart

def nextint (abi : Abi) : Tok Word := ofScan (atTokNextint abi · 0)

def nexthexint (abi : Abi) : Tok Word := ofScan (atTokNexthexint abi · 0)

def nextbool (abi : Abi) : Tok Word := ofScan (atTokNextbool abi · 0)

def nextstr : Tok (Option CString) := ofScan (atTokNextstr · none)

def hasmore : Tok Bool := fun pCur => some (atTokHasmore pCur, pCur)

/-- What the pointer leads to. Only behind a call that leaves it not NULL. -/
def rest : Tok CString := fun pCur => pCur.map fun cur => (cur, pCur)

/-- What the calls come to on a line. -/
def read (line : CString) (calls : Tok α) : Option α := (calls (some line)).map Prod.fst

/-- A string that is read is no NULL. -/
theorem nextstr_isSome {pCur pCur' : Option CString} {s : Option CString}
    (came : nextstr pCur = some (s, pCur')) : s.isSome := by
  cases pCur with
  | none => cases came
  | some cur =>
      have token : (nextTok (some cur)).1 = s := by
        simp only [nextstr, ofScan, atTokNextstr, Option.isNone_some, Bool.false_eq_true, if_false,
          Int.lt_irrefl, Option.some.injEq, Prod.mk.injEq] at came
        exact came.1
      rw [← token]
      exact nextTok_isSome cur

theorem ofScan_failed {scan : Option CString → Scanned α} {pCur : Option CString}
    (failed : (scan pCur).err < 0) : ofScan scan pCur = none := if_pos failed

theorem ofScan_scanned {scan : Option CString → Scanned α} {pCur behind : Option CString} {out : α}
    (scanned : scan pCur = ⟨0, behind, out⟩) : ofScan scan pCur = some (out, behind) := by
  unfold ofScan
  rw [scanned]
  rfl

theorem start_cases (pCur : Option CString) :
    ((atTokStart pCur).err < 0 ∧ start pCur = none) ∨
      ∃ behind, atTokStart pCur = ⟨0, behind, ()⟩ ∧ start pCur = some ((), behind) := by
  cases pCur with
  | none => exact Or.inl ⟨by decide, rfl⟩
  | some cur =>
      cases found : cur.dropWhile (· ≠ 58) with
      | nil =>
          have failed : atTokStart (some cur) = ⟨-1, none, ()⟩ := by simp only [atTokStart, found]
          have negative : (atTokStart (some cur)).err < 0 := by
            rw [failed]
            decide
          exact Or.inl ⟨negative, ofScan_failed negative⟩
      | cons colon rest =>
          have scanned : atTokStart (some cur) = ⟨0, some rest, ()⟩ := by
            simp only [atTokStart, found]
          exact Or.inr ⟨some rest, scanned, ofScan_scanned scanned⟩

/-- What stands in `*p_out` before a call matters only behind an error. -/
theorem nextint_cases (abi : Abi) (pCur : Option CString) (out : Word) :
    ((atTokNextint abi pCur out).err < 0 ∧ nextint abi pCur = none ∧
        ((atTokNextint abi pCur out).out = out ∨ (atTokNextint abi pCur out).out = 0)) ∨
      ∃ value behind, atTokNextint abi pCur out = ⟨0, behind, value⟩ ∧
        nextint abi pCur = some (value, behind) := by
  cases pCur with
  | none => exact Or.inl ⟨show (-1 : Int) < 0 by decide, rfl, Or.inl rfl⟩
  | some cur =>
      obtain ⟨token, present⟩ := Option.isSome_iff_exists.mp (nextTok_isSome cur)
      have came : nextTok (some cur) = (some token, (nextTok (some cur)).2) := Prod.ext present rfl
      have scanned (out : Word) : atTokNextint abi (some cur) out =
          ⟨if (numeral 10 token).isNone then -1 else 0, (nextTok (some cur)).2,
            BitVec.ofInt 32 (strtol abi 10 token)⟩ := by
        unfold atTokNextint atTokNextintBase
        rw [came]
        rfl
      cases read : numeral 10 token with
      | none =>
          have zero : strtol abi 10 token = 0 := by rw [strtol, read]
          have negative (out : Word) : (atTokNextint abi (some cur) out).err < 0 := by
            rw [scanned, read]
            exact show (-1 : Int) < 0 by decide
          refine Or.inl ⟨negative out, ofScan_failed (negative 0), Or.inr ?_⟩
          rw [scanned, zero]
          rfl
      | some number =>
          have found (out : Word) : atTokNextint abi (some cur) out =
              ⟨0, (nextTok (some cur)).2, BitVec.ofInt 32 (strtol abi 10 token)⟩ := by
            rw [scanned, read]
            rfl
          exact Or.inr ⟨_, _, found out, ofScan_scanned (found 0)⟩

theorem nextbool_cases (abi : Abi) (pCur : Option CString) (out : Word) :
    ((atTokNextbool abi pCur out).err < 0 ∧ nextbool abi pCur = none) ∨
      ∃ value behind, atTokNextbool abi pCur out = ⟨0, behind, value⟩ ∧
        nextbool abi pCur = some (value, behind) := by
  have refused (failed : ∀ out, atTokNextbool abi pCur out =
      ⟨-1, (atTokNextint abi pCur 0).pCur, out⟩) :
      (atTokNextbool abi pCur out).err < 0 ∧ nextbool abi pCur = none := by
    have negative (out : Word) : (atTokNextbool abi pCur out).err < 0 := by
      rw [failed]
      exact show (-1 : Int) < 0 by decide
    exact ⟨negative out, ofScan_failed (negative 0)⟩
  rcases nextint_cases abi pCur 0 with ⟨failed, -, -⟩ | ⟨value, behind, scanned, -⟩
  · refine Or.inl (refused ?_)
    intro out
    unfold atTokNextbool
    rw [if_pos failed]
  · by_cases boolean : value = 0 ∨ value = 1
    · have found (out : Word) : atTokNextbool abi pCur out = ⟨0, behind, value⟩ := by
        unfold atTokNextbool
        rw [scanned, if_neg (Int.lt_irrefl 0), if_neg (not_not.mpr boolean)]
      exact Or.inr ⟨value, behind, found out, ofScan_scanned (found 0)⟩
    · refine Or.inl (refused ?_)
      intro out
      unfold atTokNextbool
      rw [scanned, if_neg (Int.lt_irrefl 0), if_pos boolean]

/-- No call. -/
theorem pure_eq (result : α) (pCur : Option CString) :
    (pure result : Tok α) pCur = some (result, pCur) := rfl

/-- Calls behind one that fails. -/
theorem bind_of_none {β : Type} {calls : Tok α} {next : α → Tok β} {pCur : Option CString}
    (failed : calls pCur = none) : (calls >>= next) pCur = none := by
  change (calls pCur).bind (fun read => next read.1 read.2) = _
  rw [failed]
  rfl

/-- Calls behind one that succeeds. -/
theorem bind_of_some {β : Type} {calls : Tok α} {next : α → Tok β} {pCur pCur' : Option CString}
    {first : α} (came : calls pCur = some (first, pCur')) :
    (calls >>= next) pCur = next first pCur' := by
  change (calls pCur).bind (fun read => next read.1 read.2) = _
  rw [came]
  rfl

/-- What is read behind other calls. -/
theorem read_bind {β : Type} {line : CString} {calls : Tok α} {next : α → Tok β} {result : β}
    (came : read line (calls >>= next) = some result) :
    ∃ first pCur pCur', calls (some line) = some (first, pCur) ∧
      next first pCur = some (result, pCur') := by
  obtain ⟨⟨last, pCur'⟩, both, rfl⟩ := Option.map_eq_some_iff.mp came
  obtain ⟨⟨first, pCur⟩, front, behind⟩ := Option.bind_eq_some_iff.mp both
  exact ⟨first, pCur, pCur', front, behind⟩

end Tok

example : Tok.read (ascii "+CSQ: 17,\"99\"") (do
    Tok.start
    let rssi ← Tok.nextint .lp64
    let ber ← Tok.nextint .lp64
    pure (rssi, ber)) = some (17, 99) := by decide

end RildHisi.ReferenceRil
