import RildHisi.ReferenceRil.AtTok

/-!
Owns lines of fields: what the calls of at_tok.c give on a line that is a prefix, a
colon, and fields with commas between them, each in double quotes or bare.

Whatever a call makes of its token, it moves the pointer in front of the next field.
Behind the last field the pointer is NULL if that is bare, and at the terminator if it
is quoted.
-/

namespace RildHisi.ReferenceRil

open RildHisi.Libril

/-! ### Fields -/

/-- A text that can stand without quotes. -/
structure BareText (text : CString) : Prop where
  nonempty : text ≠ []
  noComma : 44 ∉ text
  noSpace : ∀ c ∈ text.head?, isSpace c = false
  noQuote : text.head? ≠ some 34

/-- A field as it is written: white space, then the text, in quotes or bare. -/
structure Field where
  space : CString
  quoted : Bool
  text : CString
  blank : ∀ c ∈ space, isSpace c = true
  wellFormed : if quoted then 34 ∉ text else BareText text

namespace Field

/-- The text as it stands in the line. -/
def body (field : Field) : CString :=
  if field.quoted then 34 :: (field.text ++ [34]) else field.text

def written (field : Field) : CString := field.space ++ field.body

/-- The fields, with commas between them. -/
def joined : List Field → CString
  | [] => []
  | [field] => field.written
  | field :: next :: rest => field.written ++ 44 :: joined (next :: rest)

/-- Where the pointer stands in front of the fields that are left, given the one it is
behind, if there is one. -/
def pointer (before : Option Field) : List Field → Option CString
  | [] => if before.any (!·.quoted) then none else some []
  | next :: rest => some (joined (next :: rest))

end Field

/-- A line: a prefix that ends at the colon, and the fields. -/
def lineOf (tag : CString) (fields : List Field) : CString := tag ++ 58 :: Field.joined fields

/-! ### One token -/

theorem strsep_delim {token rest : CString} {delim : UInt8} (clean : delim ∉ token) :
    strsep (token ++ delim :: rest) delim = (token, some rest) := by
  have other : ∀ c ∈ token, decide (c ≠ delim) = true := by
    intro c member
    exact decide_eq_true fun same => clean (same ▸ member)
  unfold strsep
  rw [List.takeWhile_append_of_pos other, List.dropWhile_append_of_pos other]
  simp

theorem strsep_last {token : CString} {delim : UInt8} (clean : delim ∉ token) :
    strsep token delim = (token, none) := by
  have other : ∀ c ∈ token, decide (c ≠ delim) = true := by
    intro c member
    exact decide_eq_true fun same => clean (same ▸ member)
  have taken : (token ++ []).takeWhile (· ≠ delim) = _ := List.takeWhile_append_of_pos other
  have dropped : (token ++ []).dropWhile (· ≠ delim) = _ := List.dropWhile_append_of_pos other
  rw [List.append_nil] at taken dropped
  unfold strsep
  rw [taken, dropped]
  simp

theorem skipWhiteSpace_blank {space rest : CString} (blank : ∀ c ∈ space, isSpace c = true)
    (started : ∀ c ∈ rest.head?, isSpace c = false) :
    skipWhiteSpace (some (space ++ rest)) = some rest := by
  unfold skipWhiteSpace
  rw [Option.map_some, List.dropWhile_append_of_pos blank]
  cases rest with
  | nil => rfl
  | cons c rest => rw [List.dropWhile_cons_of_neg (by simp [started c rfl])]

/-- A quoted field, up to its comma or the end. -/
theorem nextTok_quoted {space text rest : CString} (blank : ∀ c ∈ space, isSpace c = true)
    (clean : 34 ∉ text) :
    nextTok (some (space ++ 34 :: (text ++ 34 :: rest))) =
      (some text, skipNextComma (some rest)) := by
  have started : ∀ c ∈ (34 :: (text ++ 34 :: rest)).head?, isSpace c = false := by
    intro c head
    cases head
    rfl
  unfold nextTok
  rw [skipWhiteSpace_blank blank started]
  simp [strsep_delim clean]

/-- A bare field ends where `strsep` finds a comma. -/
theorem nextTok_bare {space text rest : CString} (blank : ∀ c ∈ space, isSpace c = true)
    (bare : BareText text) :
    nextTok (some (space ++ (text ++ rest))) =
      (some (strsep (text ++ rest) 44).1, (strsep (text ++ rest) 44).2) := by
  obtain ⟨nonempty, -, noSpace, noQuote⟩ := bare
  have head : (text ++ rest).head? = text.head? := by
    cases text with
    | nil => exact absurd rfl nonempty
    | cons c text => rfl
  unfold nextTok
  rw [skipWhiteSpace_blank blank (head ▸ noSpace)]
  simp [head, noQuote]

namespace Field

theorem joined_cons (field : Field) (fields : List Field) :
    joined (field :: fields) = field.written ++
      if fields = [] then [] else 44 :: joined fields := by
  cases fields with
  | nil => simp [joined]
  | cons next rest => simp [joined]

theorem pointer_none (fields : List Field) : pointer none fields = some (joined fields) := by
  cases fields <;> rfl

/-- **A token is the text of its field, and the pointer stands in front of the next one.** -/
theorem nextTok_pointer (before : Option Field) (field : Field) (fields : List Field) :
    nextTok (pointer before (field :: fields)) = (some field.text, pointer (some field) fields) := by
  obtain ⟨space, quoted, text, blank, wellFormed⟩ := field
  rw [pointer, joined_cons]
  cases quoted with
  | true =>
      have clean : 34 ∉ text := wellFormed
      simp only [written, body, if_true, List.append_assoc, List.cons_append, List.nil_append]
      rw [nextTok_quoted blank clean]
      cases fields <;> simp [skipNextComma, pointer]
  | false =>
      have bare : BareText text := wellFormed
      simp only [written, body, Bool.false_eq_true, if_false, List.append_assoc]
      rw [nextTok_bare blank bare]
      cases fields with
      | nil => simp [strsep_last bare.noComma, pointer]
      | cons next rest => simp [strsep_delim bare.noComma, pointer]

theorem written_ne_nil (field : Field) : field.written ≠ [] := by
  obtain ⟨space, quoted, text, blank, wellFormed⟩ := field
  cases quoted with
  | true => simp [written, body]
  | false =>
      have bare : BareText text := wellFormed
      simp [written, body, bare.nonempty]

/-- There is more exactly where fields are left. -/
theorem hasmore_pointer (before : Option Field) (fields : List Field) :
    atTokHasmore (pointer before fields) = !fields.isEmpty := by
  cases fields with
  | nil =>
      rw [pointer]
      split <;> rfl
  | cons field fields =>
      have started : joined (field :: fields) ≠ [] := by
        rw [joined_cons]
        exact List.append_ne_nil_of_left_ne_nil field.written_ne_nil _
      simp [pointer, atTokHasmore, started]

end Field

theorem atTokStart_lineOf {tag : CString} (colon : 58 ∉ tag) (fields : List Field) :
    atTokStart (some (lineOf tag fields)) = ⟨0, Field.pointer none fields, ()⟩ := by
  have other : ∀ c ∈ tag, decide (c ≠ 58) = true := by
    intro c member
    exact decide_eq_true fun same => colon (same ▸ member)
  have behind : (lineOf tag fields).dropWhile (· ≠ 58) = 58 :: Field.joined fields := by
    rw [lineOf, List.dropWhile_append_of_pos other]
    simp
  rw [Field.pointer_none]
  simp only [atTokStart, behind]

/-! ### All tokens -/

/-- So many times `at_tok_hasmore`, then `at_tok_nextstr`: what they return, in order. -/
def Tok.strings : Nat → Tok (List (Bool × Option CString))
  | 0 => pure []
  | count + 1 => do
      let more ← Tok.hasmore
      let out ← Tok.nextstr
      let behind ← strings count
      pure ((more, out) :: behind)

/-- The field the pointer is behind, once those that are left are read. -/
theorem Field.last_cons (before : Option Field) (field : Field) (fields : List Field) :
    (field :: fields).getLast?.or before = fields.getLast?.or (some field) := by
  cases fields with
  | nil => rfl
  | cons next rest => simp [List.getLast?_cons]

theorem Tok.nextstr_pointer (before : Option Field) (field : Field) (fields : List Field) :
    Tok.nextstr (Field.pointer before (field :: fields)) =
      some (some field.text, Field.pointer (some field) fields) := by
  have present : (Field.pointer before (field :: fields)).isNone = false := rfl
  simp [Tok.nextstr, Tok.ofScan, atTokNextstr, present, Field.nextTok_pointer]

theorem Tok.strings_pointer (before : Option Field) (fields : List Field) :
    Tok.strings fields.length (Field.pointer before fields) =
      some (fields.map fun field => (true, some field.text),
        Field.pointer (fields.getLast?.or before) []) := by
  induction fields generalizing before with
  | nil => rfl
  | cons field fields inductionHypothesis =>
      have more : Tok.hasmore (Field.pointer before (field :: fields)) =
          some (true, Field.pointer before (field :: fields)) := by
        rw [Tok.hasmore, Field.hasmore_pointer]
        rfl
      rw [Field.last_cons, List.length_cons, Tok.strings]
      simp only [bind, StateT.bind, more, Option.bind_some, Tok.nextstr_pointer,
        inductionHypothesis]
      rfl

/-- **The tokens of a line of fields are the texts of its fields, in order: so many calls of
`at_tok_nextstr` succeed, `at_tok_hasmore` returns 1 in front of each and 0 behind the last.** -/
theorem atTokNextstr_roundTrip (tag : CString) (colon : 58 ∉ tag) (fields : List Field) :
    Tok.read (lineOf tag fields) (do
        Tok.start
        let strings ← Tok.strings fields.length
        let more ← Tok.hasmore
        pure (strings, more)) =
      some (fields.map fun field => (true, some field.text), false) := by
  have start : Tok.start (some (lineOf tag fields)) = some ((), Field.pointer none fields) := by
    simp [Tok.start, Tok.ofScan, atTokStart_lineOf colon]
  simp only [Tok.read, bind, StateT.bind, start, Option.bind_some, Tok.strings_pointer,
    Tok.hasmore, Field.hasmore_pointer]
  rfl

/-- `"a,b"`, in quotes. -/
def quotedPair : Field :=
  ⟨[], true, ascii "a,b", by simp, show (34 : UInt8) ∉ ascii "a,b" by decide⟩

/-- `"^home: 1"`, a quoted field with a colon. -/
def quotedColon : Field :=
  ⟨[], true, ascii "^home: 1", by simp, show (34 : UInt8) ∉ ascii "^home: 1" by decide⟩

/-- ` 17`, bare. -/
def bareNumber : Field :=
  ⟨[32], false, ascii "17", List.forall_mem_singleton.mpr rfl, show BareText (ascii "17") from {
    nonempty := by decide
    noComma := by decide
    noSpace := fun c first => by cases first; rfl
    noQuote := by decide }⟩

theorem atTokNextstr_roundTrip_pair :
    58 ∉ ascii "+X" ∧ Tok.read (ascii "+X: 17,\"a,b\"") (do
        Tok.start
        let strings ← Tok.strings 2
        let more ← Tok.hasmore
        pure (strings, more)) =
      some ([(true, some (ascii "17")), (true, some (ascii "a,b"))], false) :=
  ⟨by decide, atTokNextstr_roundTrip (ascii "+X") (by decide) [bareNumber, quotedPair]⟩

/-! ### Behind the last field -/

/-- The readers of at_tok.c. -/
inductive NextCall
  | nextint | nexthexint | nextbool | nextstr
  deriving DecidableEq, Repr

namespace NextCall

variable (abi : Abi)

/-- What one of them returns, and the pointer behind it. -/
def scan : NextCall → Option CString → Int × Option CString
  | nextint, pCur => let scanned := atTokNextint abi pCur 0; (scanned.err, scanned.pCur)
  | nexthexint, pCur => let scanned := atTokNexthexint abi pCur 0; (scanned.err, scanned.pCur)
  | nextbool, pCur => let scanned := atTokNextbool abi pCur 0; (scanned.err, scanned.pCur)
  | nextstr, pCur => let scanned := atTokNextstr pCur none; (scanned.err, scanned.pCur)

/-- What calls return, in order. -/
def returned : List NextCall → Option CString → List Int
  | [], _ => []
  | call :: calls, pCur =>
      let (err, behind) := call.scan abi pCur
      err :: returned calls behind

theorem scan_null (call : NextCall) : call.scan abi none = (-1, none) := by
  cases call <;> rfl

/-- Whatever comes of the token, the pointer is behind it. -/
theorem scan_pointer (call : NextCall) (cur : CString) :
    (call.scan abi (some cur)).2 = (nextTok (some cur)).2 := by
  have token := nextTok_isSome cur
  cases next : nextTok (some cur) with
  | mk ret behind =>
      rw [next] at token
      obtain ⟨ret, rfl⟩ := Option.isSome_iff_exists.mp token
      have number (base : Nat) (uns : Bool) :
          (atTokNextintBase abi base uns (some cur) 0).pCur = behind := by
        simp [atTokNextintBase, next]
      cases call with
      | nextint => exact number 10 false
      | nexthexint => exact number 16 true
      | nextbool =>
          simp only [scan, atTokNextbool]
          split
          · exact number 10 false
          · split <;> exact number 10 false
      | nextstr => simp [scan, atTokNextstr, next]

theorem returned_null (calls : List NextCall) : ∀ err ∈ returned abi calls none, err = -1 := by
  induction calls with
  | nil => simp [returned]
  | cons call calls inductionHypothesis =>
      simp only [returned, scan_null, List.mem_cons, forall_eq_or_imp, true_and]
      exact inductionHypothesis

/-- Calls over the fields bring the pointer behind the last one. -/
theorem returned_fields (calls further : List NextCall) (before : Option Field)
    (fields : List Field) (count : calls.length = fields.length) :
    (returned abi (calls ++ further) (Field.pointer before fields)).drop fields.length =
      returned abi further (Field.pointer (fields.getLast?.or before) []) := by
  induction fields generalizing calls before with
  | nil =>
      obtain rfl := List.length_eq_zero_iff.mp count
      rfl
  | cons field fields inductionHypothesis =>
      cases calls with
      | nil => cases count
      | cons call calls =>
          have behind : (call.scan abi (Field.pointer before (field :: fields))).2 =
              Field.pointer (some field) fields := by
            rw [Field.pointer, scan_pointer]
            exact congrArg Prod.snd (Field.nextTok_pointer none field fields)
          rw [Field.last_cons, List.cons_append, returned]
          simp only [List.length_cons, List.drop_succ_cons, behind]
          exact inductionHypothesis calls (some field) (Nat.succ.inj count)

/-- At the terminator only `at_tok_nextstr` finds a token, an empty one. -/
theorem scan_terminator (call : NextCall) :
    call.scan abi (some []) = (if call = nextstr then 0 else -1, none) := by
  cases call <;> rfl

theorem returned_terminator (further : List NextCall) :
    (∀ err ∈ returned abi further (some []), err = -1) ↔ further.head? ≠ some nextstr := by
  cases further with
  | nil => simp [returned]
  | cons call further =>
      simp only [returned, scan_terminator, List.mem_cons, forall_eq_or_imp, List.head?_cons, ne_eq,
        Option.some.injEq]
      by_cases string : call = nextstr
      · simp [string]
      · simp only [string, if_false, true_and, not_false_iff, iff_true]
        exact returned_null abi further

/-- **Behind the calls for its fields, every further call on a line returns -1 exactly if the
last field is bare or the first of them is not `at_tok_nextstr`.** -/
theorem returned_behindLine_iff (tag : CString) (colon : 58 ∉ tag) (fields : List Field)
    (calls further : List NextCall) (count : calls.length = fields.length) :
    (∀ err ∈ (returned abi (calls ++ further)
        (atTokStart (some (lineOf tag fields))).pCur).drop fields.length, err = -1) ↔
      (∃ last ∈ fields.getLast?, last.quoted = false) ∨ further.head? ≠ some nextstr := by
  rw [atTokStart_lineOf colon, returned_fields abi calls further none fields count, Option.or_none]
  cases last : fields.getLast? with
  | none => simp [Field.pointer, returned_terminator]
  | some field =>
      cases quoted : field.quoted with
      | true => simp [Field.pointer, quoted, returned_terminator]
      | false =>
          simp only [Field.pointer, Option.any_some, quoted, Bool.not_false, if_true]
          simpa [quoted] using returned_null abi further

theorem returned_behindLine_number :
    58 ∉ ascii "+X" ∧ ([nextint].length = [bareNumber].length) ∧
      ((∀ err ∈ (returned .lp64 ([nextint] ++ [nextstr, nextbool])
          (atTokStart (some (lineOf (ascii "+X") [bareNumber]))).pCur).drop 1, err = -1) ↔
        (∃ last ∈ [bareNumber].getLast?, last.quoted = false) ∨
          [nextstr, nextbool].head? ≠ some nextstr) :=
  ⟨by decide, rfl,
    returned_behindLine_iff .lp64 (ascii "+X") (by decide) [bareNumber] [nextint]
      [nextstr, nextbool] rfl⟩

/-- `+X:"a,b"`: the second `at_tok_nextstr` finds an empty string behind the only field. -/
theorem nextstr_behindQuoted :
    returned .lp64 [nextstr] (atTokStart (some (lineOf (ascii "+X") [quotedPair]))).pCur = [0] ∧
      ¬ ∀ err ∈ (returned .lp64 ([nextstr] ++ [nextstr])
          (atTokStart (some (lineOf (ascii "+X") [quotedPair]))).pCur).drop 1, err = -1 := by
  decide

end NextCall

end RildHisi.ReferenceRil
