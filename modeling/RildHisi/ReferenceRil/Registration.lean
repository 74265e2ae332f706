import RildHisi.ReferenceRil.FieldArrays
import RildHisi.ReferenceRil.IntegerTokens

/-!
Owns what `requestRegistrationState` reports. An answer comes in one of five shapes, which
the number of commas tells apart; whatever the shape is, the report depends on the state,
the location area and the cell that stand in it.
-/

namespace RildHisi.ReferenceRil

open RildHisi.AtChannel RildHisi.Library RildHisi.Libril Handler

/-! ### Answers -/

/-- The shapes of `+CREG:` and `+CGREG:`. -/
inductive RegistrationAnswer
  | onlyStat (stat : Field)
  | nStat (n stat : Field)
  | statLacCid (stat lac cid : Field)
  | nStatLacCid (n stat lac cid : Field)
  | nStatLacCidType (n stat lac cid networkType : Field)

namespace RegistrationAnswer

def fields : RegistrationAnswer → List Field
  | onlyStat stat => [stat]
  | nStat n stat => [n, stat]
  | statLacCid stat lac cid => [stat, lac, cid]
  | nStatLacCid n stat lac cid => [n, stat, lac, cid]
  | nStatLacCidType n stat lac cid networkType => [n, stat, lac, cid, networkType]

def networkType : RegistrationAnswer → Option Field
  | nStatLacCidType _ _ _ _ networkType => some networkType
  | _ => none

/-- The number in front of the state. -/
def n : RegistrationAnswer → Option Field
  | nStat n _ | nStatLacCid n _ _ _ | nStatLacCidType n _ _ _ _ => some n
  | _ => none

/-- The field with the state. -/
def state : RegistrationAnswer → Field
  | onlyStat stat | nStat _ stat | statLacCid stat _ _ | nStatLacCid _ stat _ _
  | nStatLacCidType _ stat _ _ _ => stat

/-- The fields with the location area and the cell. -/
def place : RegistrationAnswer → Option (Field × Field)
  | statLacCid _ lac cid | nStatLacCid _ _ lac cid | nStatLacCidType _ _ lac cid _ =>
      some (lac, cid)
  | _ => none

/-- The fields are numerals: of this state, and of this area and cell, if they are there. -/
structure Shows (answer : RegistrationAnswer) (stat : Nat) (place : Option (Nat × Nat)) :
    Prop where
  n : ∀ n ∈ answer.n, ∃ value, IsNumeral 10 value n.text
  stat : IsNumeral 10 stat answer.state.text
  present : answer.place.isSome = place.isSome
  lac : ∀ fields ∈ answer.place, ∀ values ∈ place, IsNumeral 16 values.1 fields.1.text
  cid : ∀ fields ∈ answer.place, ∀ values ∈ place, IsNumeral 16 values.2 fields.2.text
  networkType : ∀ networkType ∈ answer.networkType, ∃ value, IsNumeral 16 value networkType.text

section

variable {answer : RegistrationAnswer} {stat : Nat} {place : Option (Nat × Nat)}

theorem Shows.place_cases (shows : answer.Shows stat place) :
    (answer.place = none ∧ place = none) ∨
      ∃ lac cid values, answer.place = some (lac, cid) ∧ place = some values ∧
        IsNumeral 16 values.1 lac.text ∧ IsNumeral 16 values.2 cid.text := by
  have present := shows.present
  cases fields : answer.place with
  | none =>
      rw [fields] at present
      exact Or.inl ⟨rfl, Option.isNone_iff_eq_none.mp (by simpa using present.symm)⟩
  | some fields' =>
      rw [fields] at present
      obtain ⟨values, given⟩ := Option.isSome_iff_exists.mp present.symm
      exact Or.inr ⟨fields'.1, fields'.2, values, rfl, given,
        shows.lac fields' fields values given, shows.cid fields' fields values given⟩

/-- The area and the cell are numerals, if they are there. -/
theorem Shows.placeNumerals (shows : answer.Shows stat place) {lac cid : Field}
    (there : answer.place = some (lac, cid)) :
    (∃ value, IsNumeral 16 value lac.text) ∧ ∃ value, IsNumeral 16 value cid.text := by
  obtain ⟨absent, -⟩ | ⟨lac', cid', values, present, -, lacNumeral, cidNumeral⟩ := shows.place_cases
  · rw [there] at absent
    cases absent
  · rw [there] at present
    cases present
    exact ⟨⟨_, lacNumeral⟩, _, cidNumeral⟩

/-- None of the fields contains a comma. -/
theorem Shows.noComma (shows : answer.Shows stat place) :
    ∀ field ∈ answer.fields, commas field.text = 0 := by
  have plain {base : Nat} {field : Field} (low : base ≤ 16)
      (numeral : ∃ value, IsNumeral base value field.text) : commas field.text = 0 := by
    obtain ⟨value, isNumeral⟩ := numeral
    exact List.count_eq_zero.mpr (isNumeral.noComma low)
  have middle : commas answer.state.text = 0 := plain (by decide) ⟨stat, shows.stat⟩
  cases answer with
  | onlyStat stat => simpa [fields, state] using middle
  | nStat n stat => simpa [fields] using ⟨plain (by decide) (shows.n n rfl), middle⟩
  | statLacCid stat lac cid =>
      obtain ⟨lacNumeral, cidNumeral⟩ := shows.placeNumerals rfl
      simpa [fields] using ⟨middle, plain (by decide) lacNumeral, plain (by decide) cidNumeral⟩
  | nStatLacCid n stat lac cid =>
      obtain ⟨lacNumeral, cidNumeral⟩ := shows.placeNumerals rfl
      simpa [fields] using ⟨plain (by decide) (shows.n n rfl), middle,
        plain (by decide) lacNumeral, plain (by decide) cidNumeral⟩
  | nStatLacCidType n stat lac cid networkType =>
      obtain ⟨lacNumeral, cidNumeral⟩ := shows.placeNumerals rfl
      have last := plain (by decide) (shows.networkType networkType rfl)
      simpa [fields] using ⟨plain (by decide) (shows.n n rfl), middle,
        plain (by decide) lacNumeral, plain (by decide) cidNumeral, last⟩

/-- There are as many commas as stand between the fields. -/
theorem Shows.commas_eq (shows : answer.Shows stat place) :
    commas (Field.joined answer.fields) = answer.fields.length - 1 := by
  have none_counted : (answer.fields.map fun field => commas field.text).sum = 0 := by
    apply List.sum_eq_zero_iff_forall_eq_nat.mpr
    intro count member
    obtain ⟨field, inside, rfl⟩ := List.mem_map.mp member
    exact shows.noComma field inside
  cases fields : answer.fields with
  | nil => cases answer <;> cases fields
  | cons field rest =>
      rw [fields] at none_counted
      rw [commas_joined, none_counted]
      simp

end

end RegistrationAnswer

/-! ### Reading the fields -/

section Calls

variable {α : Type} (abi : Abi) (before : Option Field) {field : Field} {value : Nat}
  (fields : List Field) (next : Word → Tok α)

/-- A call for an integer, in front of a numeral. -/
theorem IntegerReader.ofScan_bind (reader : IntegerReader)
    (isNumeral : IsNumeral reader.base value field.text) :
    (Tok.ofScan (reader.scan abi · 0) >>= next) (Field.pointer before (field :: fields)) =
      next (BitVec.ofInt 32 (reader.long abi field.text)) (Field.pointer (some field) fields) := by
  have low : reader.base ≤ 16 := by cases reader <;> decide
  have scanned := reader.scan_token abi (Field.nextTok_pointer before field fields) 0
  rw [isNumeral.numeral_eq low] at scanned
  exact Tok.bind_of_some (Tok.ofScan_scanned scanned)

theorem Tok.nextint_bind (isNumeral : IsNumeral 10 value field.text) :
    (Tok.nextint abi >>= next) (Field.pointer before (field :: fields)) =
      next (BitVec.ofInt 32 (strtol abi 10 field.text)) (Field.pointer (some field) fields) :=
  IntegerReader.nextint.ofScan_bind abi before fields next isNumeral

theorem Tok.nexthexint_bind (isNumeral : IsNumeral 16 value field.text) :
    (Tok.nexthexint abi >>= next) (Field.pointer before (field :: fields)) =
      next (BitVec.ofInt 32 (strtoul abi 16 field.text)) (Field.pointer (some field) fields) :=
  IntegerReader.nexthexint.ofScan_bind abi before fields next isNumeral

end Calls

/-- The word that a numeral of 31 bits is read as. -/
theorem word_of_stat (abi : Abi) {token : CString} {value : Nat}
    (isNumeral : IsNumeral 10 value token) (small : value < 2 ^ 31) :
    (BitVec.ofInt 32 (strtol abi 10 token)).toInt = value := by
  have read := isNumeral.numeralValue_eq (by decide)
  have fits : IntegerReader.nextint.Fits value := by
    simp only [IntegerReader.Fits]
    omega
  have long := IntegerReader.nextint.long_of_fits abi read fits
  simp only [IntegerReader.long] at long
  rw [long]
  exact IntegerReader.nextint.result_of_fits fits

/-- The word that a numeral of 32 bits is read as. -/
theorem word_of_hex (abi : Abi) {token : CString} {value : Nat}
    (isNumeral : IsNumeral 16 value token) (small : value < 2 ^ 32) :
    BitVec.ofInt 32 (strtoul abi 16 token) = BitVec.ofNat 32 value := by
  have read := isNumeral.numeralValue_eq (by decide)
  have fits : IntegerReader.nexthexint.Fits value := by
    simp only [IntegerReader.Fits]
    omega
  have long := IntegerReader.nexthexint.long_of_fits abi read fits
  simp only [IntegerReader.long] at long
  rw [long, BitVec.ofInt_natCast]

/-! ### The report -/

/-- The strings for the state, the location area and the cell. -/
def registrationReport (stat : Nat) (place : Option (Nat × Nat)) : List (Option CString) :=
  [some (decimal stat),
    some (place.elim (ascii "ffffffff") fun values => hexadecimal (BitVec.ofNat 32 values.1)),
    some (place.elim (ascii "ffffffff") fun values => hexadecimal (BitVec.ofNat 32 values.2))]

/-- The string for the network type. -/
def networkTypeReport (abi : Abi) (networkType : Field) : CString :=
  decimal (BitVec.ofInt 32 (strtoul abi 16 networkType.text)).toInt

theorem isNumeral_decimal (value : Nat) : IsNumeral 10 value (decimal value) := by
  have printed : decimal value = (Nat.toDigits 10 value).map Char.toUInt8 := by
    unfold decimal ascii
    rw [← Nat.toList_repr]
    rfl
  rw [printed]
  exact isNumeral_toDigits (by decide) (by decide) value

theorem isNumeral_hexadecimal {value : Nat} (small : value < 2 ^ 32) :
    IsNumeral 16 value (hexadecimal (BitVec.ofNat 32 value)) := by
  have same : (BitVec.ofNat 32 value).toNat = value := by
    rw [BitVec.toNat_ofNat, Nat.mod_eq_of_lt small]
  rw [hexadecimal, same]
  exact isNumeral_toDigits (by decide) (by decide) value

/-- The words that are read of a line. -/
theorem registrationFields_lineOf (abi : Abi) {tag : CString} (colon : 58 ∉ tag)
    {answer : RegistrationAnswer} {stat : Nat} {place : Option (Nat × Nat)}
    (shows : answer.Shows stat place) :
    registrationFields abi (lineOf tag answer.fields) =
      some ([BitVec.ofInt 32 (strtol abi 10 answer.state.text),
          answer.place.elim (-1) fun fields => BitVec.ofInt 32 (strtoul abi 16 fields.1.text),
          answer.place.elim (-1) fun fields => BitVec.ofInt 32 (strtoul abi 16 fields.2.text)] ++
        answer.networkType.toList.map fun field => BitVec.ofInt 32 (strtoul abi 16 field.text)) := by
  have start : Tok.start (some (lineOf tag answer.fields)) =
      some ((), Field.pointer none answer.fields) := by
    simp [Tok.start, Tok.ofScan, atTokStart_lineOf colon]
  have rest : Tok.rest (Field.pointer none answer.fields) =
      some (Field.joined answer.fields, Field.pointer none answer.fields) := by
    rw [Field.pointer_none]
    rfl
  unfold registrationFields Tok.read
  rw [Tok.bind_of_some start, Tok.bind_of_some rest]
  simp only [shows.commas_eq]
  have middle := shows.stat
  cases answer with
  | onlyStat stat =>
      simp only [RegistrationAnswer.fields, RegistrationAnswer.state, List.length_cons, List.length_nil,
        Nat.zero_add, Nat.reduceSub] at middle ⊢
      rw [Tok.nextint_bind abi none [] _ middle]
      rfl
  | nStat n stat =>
      obtain ⟨number, front⟩ := shows.n n rfl
      simp only [RegistrationAnswer.fields, RegistrationAnswer.state, List.length_cons, List.length_nil,
        Nat.zero_add, Nat.reduceAdd, Nat.reduceSub] at middle ⊢
      rw [Tok.nextint_bind abi none _ _ front, Tok.nextint_bind abi (some n) _ _ middle]
      rfl
  | statLacCid stat lac cid =>
      obtain ⟨⟨area, lacNumeral⟩, cell, cidNumeral⟩ := shows.placeNumerals rfl
      simp only [RegistrationAnswer.fields, RegistrationAnswer.state, List.length_cons, List.length_nil,
        Nat.zero_add, Nat.reduceAdd, Nat.reduceSub] at middle ⊢
      rw [Tok.nextint_bind abi none _ _ middle, Tok.nexthexint_bind abi (some stat) _ _ lacNumeral,
        Tok.nexthexint_bind abi (some lac) _ _ cidNumeral]
      rfl
  | nStatLacCid n stat lac cid =>
      obtain ⟨number, front⟩ := shows.n n rfl
      obtain ⟨⟨area, lacNumeral⟩, cell, cidNumeral⟩ := shows.placeNumerals rfl
      simp only [RegistrationAnswer.fields, RegistrationAnswer.state, List.length_cons, List.length_nil,
        Nat.zero_add, Nat.reduceAdd, Nat.reduceSub] at middle ⊢
      rw [Tok.nextint_bind abi none _ _ front, Tok.nextint_bind abi (some n) _ _ middle,
        Tok.nexthexint_bind abi (some stat) _ _ lacNumeral,
        Tok.nexthexint_bind abi (some lac) _ _ cidNumeral]
      rfl
  | nStatLacCidType n stat lac cid networkType =>
      obtain ⟨number, front⟩ := shows.n n rfl
      obtain ⟨⟨area, lacNumeral⟩, cell, cidNumeral⟩ := shows.placeNumerals rfl
      obtain ⟨type, last⟩ := shows.networkType networkType rfl
      simp only [RegistrationAnswer.fields, RegistrationAnswer.state, List.length_cons, List.length_nil,
        Nat.zero_add, Nat.reduceAdd, Nat.reduceSub] at middle ⊢
      rw [Tok.nextint_bind abi none _ _ front, Tok.nextint_bind abi (some n) _ _ middle,
        Tok.nexthexint_bind abi (some stat) _ _ lacNumeral,
        Tok.nexthexint_bind abi (some lac) _ _ cidNumeral,
        Tok.nexthexint_bind abi (some cid) _ _ last]
      rfl

/-- The strings are made of the numbers that stand in the answer. -/
theorem registrationStrings_shown (abi : Abi) {answer : RegistrationAnswer} {stat : Nat}
    {place : Option (Nat × Nat)} (shows : answer.Shows stat place) (statFits : stat < 2 ^ 31)
    (placeFits : ∀ values ∈ place, values.1 < 2 ^ 32 ∧ values.2 < 2 ^ 32) :
    registrationStrings ([BitVec.ofInt 32 (strtol abi 10 answer.state.text),
        answer.place.elim (-1) fun fields => BitVec.ofInt 32 (strtoul abi 16 fields.1.text),
        answer.place.elim (-1) fun fields => BitVec.ofInt 32 (strtoul abi 16 fields.2.text)] ++
      answer.networkType.toList.map fun field => BitVec.ofInt 32 (strtoul abi 16 field.text)) =
    registrationReport stat place ++
      answer.networkType.toList.map fun field => some (networkTypeReport abi field) := by
  have middle := word_of_stat abi shows.stat statFits
  have unknown : hexadecimal 4294967295#32 = ascii "ffffffff" := by decide
  obtain ⟨absent, rfl⟩ | ⟨lac, cid, values, present, rfl, lacNumeral, cidNumeral⟩ :=
    shows.place_cases
  · rw [absent]
    cases answer.networkType <;>
      simp [registrationStrings, registrationReport, middle, unknown, networkTypeReport]
  · obtain ⟨lacFits, cidFits⟩ := placeFits values rfl
    have area := word_of_hex abi lacNumeral lacFits
    have cell := word_of_hex abi cidNumeral cidFits
    simp only [present, Option.elim_some, area, cell]
    cases answer.networkType <;>
      simp [registrationStrings, registrationReport, middle, networkTypeReport]

/-- **An answer in any of the shapes is reported with its state, area and cell, which are printed
as the numbers they are; without an area and a cell both are -1.** -/
theorem requestRegistrationState_reports (abi : Abi) (t : Nat) (around : Surroundings)
    (command responsePrefix tag : CString) (colon : 58 ∉ tag) (answer : RegistrationAnswer)
    (stat : Nat) (place : Option (Nat × Nat)) (shows : answer.Shows stat place)
    (statFits : stat < 2 ^ 31)
    (placeFits : ∀ values ∈ place, values.1 < 2 ^ 32 ∧ values.2 < 2 ^ 32)
    (answered : (around.answers 0).line = some (lineOf tag answer.fields)) :
    (requestRegistrationState abi t command responsePrefix).completions around =
        [⟨t, rilESuccess, .strings (registrationReport stat place ++
            answer.networkType.toList.map fun field => some (networkTypeReport abi field)),
          (3 + answer.networkType.toList.length) * abi.ptrSize⟩] ∧
      IsNumeral 10 stat (decimal stat) ∧
      ∀ values ∈ place, IsNumeral 16 values.1 (hexadecimal (BitVec.ofNat 32 values.1)) ∧
        IsNumeral 16 values.2 (hexadecimal (BitVec.ofNat 32 values.2)) := by
  have read := registrationFields_lineOf abi colon shows
  have printed := registrationStrings_shown abi shows statFits placeFits
  refine ⟨?_, isNumeral_decimal stat, fun values given => ?_⟩
  · obtain ⟨none', -⟩ | ⟨response, line, behind, first, succeeded, lines⟩ :=
      (around.answers 0).line_cases
    · rw [answered] at none'
      cases none'
    · obtain rfl : lineOf tag answer.fields = line := Option.some.inj (answered.symm.trans first)
      have answer' : (around.answers 0).requireIntermediate.answer = some response :=
        (Option.filter_eq_some_iff.mp succeeded).1
      simp only [requestRegistrationState, completions_atSendCommandSingleline, answer', firstLine,
        lines, done_bind, read, printed]
      simp only [rilOnRequestComplete, Handler.completions, List.length_append, List.length_map,
        List.length_cons, List.length_nil, Nat.zero_add]
  · exact ⟨isNumeral_hexadecimal (placeFits values given).1,
      isNumeral_hexadecimal (placeFits values given).2⟩

theorem noSpace_blank : ∀ c ∈ ([] : CString), isSpace c = true :=
  fun _ member => absurd member List.not_mem_nil

/-- `"ffffffff"`, in quotes. -/
def quotedHex : Field :=
  ⟨[], true, ascii "ffffffff", noSpace_blank, show (34 : UInt8) ∉ ascii "ffffffff" by decide⟩

/-- `+CREG: 17, 17,"ffffffff", 17`. -/
def locatedAnswer : RegistrationAnswer := .nStatLacCid bareNumber bareNumber quotedHex bareNumber

theorem locatedAnswer_shows : locatedAnswer.Shows 17 (some (4294967295, 23)) := by
  have seventeen : (Nat.toDigits 10 17).map Char.toUInt8 = bareNumber.text := by decide
  have hex : (Nat.toDigits 16 23).map Char.toUInt8 = bareNumber.text := by decide
  have largest : (Nat.toDigits 16 4294967295).map Char.toUInt8 = quotedHex.text := by decide
  constructor
  · intro n there
    cases there
    exact ⟨17, seventeen ▸ isNumeral_toDigits (by decide) (by decide) 17⟩
  · exact seventeen ▸ isNumeral_toDigits (by decide) (by decide) 17
  · rfl
  · intro fields there values given
    cases there
    cases given
    exact largest ▸ isNumeral_toDigits (by decide) (by decide) 4294967295
  · intro fields there values given
    cases there
    cases given
    exact hex ▸ isNumeral_toDigits (by decide) (by decide) 23
  · intro networkType there
    cases there

theorem requestRegistrationState_reports_located :
    (58 ∉ ascii "+CREG" ∧ locatedAnswer.Shows 17 (some (4294967295, 23))) ∧
      (requestRegistrationState .lp64 5 (ascii "AT+CREG?") (ascii "+CREG:")).completions
          (answersLines [lineOf (ascii "+CREG") locatedAnswer.fields]) =
        [⟨5, rilESuccess, .strings [some (ascii "17"), some (ascii "ffffffff"), some (ascii "17")],
          24⟩] := by
  have colon : 58 ∉ ascii "+CREG" := by decide
  have fits : ∀ values ∈ some (4294967295, 23), values.1 < 2 ^ 32 ∧ values.2 < 2 ^ 32 := by
    intro values given
    cases given
    decide
  exact ⟨⟨colon, locatedAnswer_shows⟩, (requestRegistrationState_reports .lp64 5
    (answersLines [lineOf (ascii "+CREG") locatedAnswer.fields]) (ascii "AT+CREG?")
    (ascii "+CREG:") (ascii "+CREG") colon locatedAnswer 17 (some (4294967295, 23))
    locatedAnswer_shows (by decide) fits rfl).1⟩

end RildHisi.ReferenceRil
