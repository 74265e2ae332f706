import RildHisi.ReferenceRil.LineFields
import RildHisi.ReferenceRil.MissingResponses
import Mathlib.Algebra.GroupWithZero.Nat

/-!
Owns the handlers that copy what the modem sends into an array on the stack: when they
stay inside it, and when those that split a line into fields report the fields of the
line.

Three of them count the commas of the line first and ask the tokenizer for one field more.
-/

namespace RildHisi.ReferenceRil

open RildHisi.AtChannel RildHisi.Library RildHisi.Libril Handler

/-! ### The handlers -/

/-- The handlers that split the first line of an answer into `char *response[10]`. -/
inductive LineHandler
  | psCsStat | pdpAddr | dhcpInfo
  deriving DecidableEq, Repr

/-- The handlers with an array that the answer fills. -/
inductive ArrayHandler
  | portList | operator
  | fields (handler : LineHandler)
  deriving DecidableEq, Repr

section Handlers

variable (abi : Abi) (data : RequestData) (datalen t : Nat) (around : Surroundings)

def LineHandler.program : LineHandler → Handler Unit
  | psCsStat => requestPsCsStat abi data datalen t
  | pdpAddr => requestPdpAddr abi data datalen t
  | dhcpInfo => requestDhcpInfo abi data datalen t

def ArrayHandler.program : ArrayHandler → Handler Unit
  | portList => requestPortList abi data datalen t
  | operator => requestOperator abi t
  | fields handler => handler.program abi data datalen t

/-- What a line of the answer starts with, up to its colon. -/
def LineHandler.tag : LineHandler → CString
  | psCsStat => ascii "^CGCATT"
  | pdpAddr => ascii "+CGPADDR"
  | dhcpInfo => ascii "^DHCP"

/-- The strings that the command is made of are there. -/
def LineHandler.Readable : LineHandler → Prop
  | psCsStat => datalen = 2 * abi.ptrSize → 2 ≤ (stringsOf data).length
  | pdpAddr | dhcpInfo => FirstStringThere abi data datalen

def ArrayHandler.Readable : ArrayHandler → Prop
  | portList => FirstStringThere abi data datalen
  | operator => True
  | fields handler => handler.Readable abi data datalen

/-- What the answer may be like for the array: lines for 20 pointers, lines for three
names, or a line for ten fields. -/
def ArrayHandler.Fits : ArrayHandler → Prop
  | portList => ∀ response ∈ (around.answers 0).succeeded, response.pIntermediates.length ≤ 20
  | operator => NamesFit abi (around.answers 0)
  | fields _ => ∀ line ∈ (around.answers 0).line, FieldsFit line

/-! ### Commands -/

theorem stringCommand_cases (command otherwise : CString) (next : CString → Handler Unit) :
    (¬ FirstStringThere abi data datalen ∧
        (stringCommand abi data datalen command otherwise >>= next) = fault .data) ∨
      FirstStringThere abi data datalen ∧
        ∃ command', (stringCommand abi data datalen command otherwise >>= next) =
          next command' := by
  unfold stringCommand FirstStringThere
  by_cases one : datalen = abi.ptrSize
  · cases strings : stringsOf data with
    | nil => exact Or.inl ⟨by simp [one], by simp [one, stringAt, strings]⟩
    | cons first rest =>
        apply Or.inr
        exact ⟨by simp, command ++ text first, by simp [one, stringAt, strings]⟩
  · exact Or.inr ⟨fun same => absurd same one, command ++ otherwise, by simp [one]⟩

theorem psCsStatCommand_cases :
    (¬ LineHandler.psCsStat.Readable abi data datalen ∧
        requestPsCsStat abi data datalen t = fault .data) ∨
      LineHandler.psCsStat.Readable abi data datalen ∧
        ∃ command, requestPsCsStat abi data datalen t = sendPsCsStat abi t command := by
  have different : ¬ 2 * abi.ptrSize = abi.ptrSize := by cases abi <;> decide
  unfold requestPsCsStat psCsStatCommand LineHandler.Readable
  by_cases one : datalen = abi.ptrSize
  · have other : ¬ datalen = 2 * abi.ptrSize := fun two => different (two.symm.trans one)
    exact Or.inr ⟨fun two => absurd two other, _, by rw [if_pos one, done_bind]⟩
  · by_cases two : datalen = 2 * abi.ptrSize
    · cases strings : stringsOf data with
      | nil => exact Or.inl ⟨by simp [two], by simp [two, different, stringAt, strings]⟩
      | cons first rest =>
          cases rest with
          | nil => exact Or.inl ⟨by simp [two], by simp [two, different, stringAt, strings]⟩
          | cons second rest =>
              apply Or.inr
              exact ⟨by simp, _, by rw [if_neg one, if_pos two]; simp [stringAt, strings]; rfl⟩
    · exact Or.inr ⟨fun same => absurd same two, _, by rw [if_neg one, if_neg two, done_bind]⟩

/-! ### Lines -/

/-- A handler that is at its command: without a line it writes to no array, and with one it
does what `completeWithFields` does. -/
structure SplitsLine (rest : Handler Unit) : Prop where
  noLine : (around.answers 0).line = none → rest.faultOf around ≠ some .array
  completions : ∀ line ∈ (around.answers 0).line,
    rest.completions around = (completeWithFields abi t line).completions around.answered
  faultOf : ∀ line ∈ (around.answers 0).line,
    rest.faultOf around = (completeWithFields abi t line).faultOf around.answered

theorem requestFields_splitsLine (command responsePrefix : CString) :
    SplitsLine abi t around (requestFields abi t command responsePrefix) := by
  unfold requestFields
  obtain ⟨missing, failed⟩ | ⟨response, line, rest, first, succeeded, lines⟩ :=
    (around.answers 0).line_cases
  · exact {
      noLine := by
        intro _
        rw [faultOf_atSendCommandSingleline, failed]
        simp [genericFailure, rilOnRequestComplete, Handler.faultOf]
      completions := by simp [missing]
      faultOf := by simp [missing] }
  · exact {
      noLine := by simp [first]
      completions := by
        intro line' same
        obtain rfl : line = line' := Option.some.inj (first.symm.trans same)
        rw [completions_atSendCommandSingleline, succeeded]
        simp only [lines, List.head?_cons]
      faultOf := by
        intro line' same
        obtain rfl : line = line' := Option.some.inj (first.symm.trans same)
        rw [faultOf_atSendCommandSingleline, succeeded]
        simp only [lines, List.head?_cons] }

theorem sendPsCsStat_splitsLine (command : CString) :
    SplitsLine abi t around (sendPsCsStat abi t command) := by
  unfold sendPsCsStat
  obtain ⟨missing, failed⟩ | ⟨response, line, rest, first, succeeded, lines⟩ :=
    (around.answers 0).line_cases
  · exact {
      noLine := by
        intro _
        rw [faultOf_atSendCommandSingleline, failed]
        split
        · rw [faultOf_atSendCommand]
          split
          · split <;> simp
          · simp
        · simp [genericFailure, rilOnRequestComplete, Handler.faultOf]
      completions := by simp [missing]
      faultOf := by simp [missing] }
  · have present := AtResult.pResponse_of_succeeded succeeded
    exact {
      noLine := by simp [first]
      completions := by
        intro line' same
        obtain rfl : line = line' := Option.some.inj (first.symm.trans same)
        rw [completions_atSendCommandSingleline, succeeded, present]
        simp [firstLine, lines]
      faultOf := by
        intro line' same
        obtain rfl : line = line' := Option.some.inj (first.symm.trans same)
        rw [faultOf_atSendCommandSingleline, succeeded, present]
        simp [firstLine, lines] }

/-- A handler that cannot make its command reads data that is not there; any other does
with the line what `completeWithFields` does. -/
theorem LineHandler.program_cases (handler : LineHandler) :
    (¬ handler.Readable abi data datalen ∧ handler.program abi data datalen t = fault .data) ∨
      handler.Readable abi data datalen ∧
        SplitsLine abi t around (handler.program abi data datalen t) := by
  cases handler with
  | psCsStat =>
      obtain unreadable | ⟨readable, command, program⟩ := psCsStatCommand_cases abi data datalen t
      · exact Or.inl unreadable
      · apply Or.inr
        rw [LineHandler.program, program]
        exact ⟨readable, sendPsCsStat_splitsLine abi t around command⟩
  | pdpAddr =>
      obtain unreadable | ⟨readable, command, program⟩ := stringCommand_cases abi data datalen
        (ascii "AT+CGPADDR") [] fun command => requestFields abi t command (ascii "+CGPADDR:")
      · exact Or.inl unreadable
      · apply Or.inr
        rw [LineHandler.program, requestPdpAddr, program]
        exact ⟨readable, requestFields_splitsLine abi t around command _⟩
  | dhcpInfo =>
      obtain unreadable | ⟨readable, command, program⟩ := stringCommand_cases abi data datalen
        (ascii "AT^DHCP") (ascii "=?") fun command => requestFields abi t command (ascii "^DHCP:")
      · exact Or.inl unreadable
      · apply Or.inr
        rw [LineHandler.program, requestDhcpInfo, program]
        exact ⟨readable, requestFields_splitsLine abi t around command _⟩

/-! ### Arrays -/

theorem completeWithFields_array (line : CString) :
    (completeWithFields abi t line).faultOf around ≠ some .array ↔ FieldsFit line := by
  rw [fields_fit_iff]
  unfold completeWithFields
  cases lineFields line <;> simp

theorem LineHandler.array_iff (handler : LineHandler) :
    (handler.program abi data datalen t).faultOf around ≠ some .array ↔
      (handler.Readable abi data datalen → ∀ line ∈ (around.answers 0).line, FieldsFit line) := by
  obtain ⟨unreadable, program⟩ | ⟨readable, splits⟩ :=
    handler.program_cases abi data datalen t around
  · simp [program, unreadable]
  · cases answered : (around.answers 0).line with
    | none => simp [splits.noLine answered]
    | some line =>
        rw [splits.faultOf line answered, completeWithFields_array]
        simp [readable]

theorem faultOf_atSendCommandMultiline (command responsePrefix : CString)
    (next : AtResult → Handler Unit) :
    (atSendCommandMultiline command responsePrefix >>= next).faultOf around =
      (next (around.answers 0)).faultOf around.answered := rfl

theorem requestOperator_array :
    (requestOperator abi t).faultOf around ≠ some .array ↔ NamesFit abi (around.answers 0) := by
  unfold requestOperator NamesFit
  rw [faultOf_atSendCommandMultiline]
  cases (around.answers 0).answer with
  | none => simp
  | some response =>
      simp only [Option.mem_some_iff, forall_eq']
      rw [names_fit_iff]
      cases fillArray 3 (operatorName abi) response.pIntermediates [] with
      | filled names =>
          simp only
          split <;> simp
      | failed => simp
      | overrun => simp

theorem requestPortList_array :
    (requestPortList abi data datalen t).faultOf around ≠ some .array ↔
      (FirstStringThere abi data datalen →
        ∀ response ∈ (around.answers 0).succeeded, response.pIntermediates.length ≤ 20) := by
  unfold requestPortList
  obtain ⟨unreadable, program⟩ | ⟨readable, command, program⟩ := stringCommand_cases abi data datalen
    (ascii "AT^SETPORT") (ascii "=?") _
  · rw [program]
    simp [unreadable]
  · rw [program, faultOf_atSendCommandMultiline]
    cases (around.answers 0).succeeded with
    | none => simp [genericFailure, rilOnRequestComplete, Handler.faultOf]
    | some response =>
        simp only [Option.mem_some_iff, forall_eq', readable, true_imp_iff]
        rw [ports_fit_iff]
        cases fillArray 20 (fun line => some (some line)) response.pIntermediates [] <;> simp

/-- **A handler stays inside its array exactly if it cannot make its command or the answer
fits.** -/
theorem arrayHandler_inBounds_iff (handler : ArrayHandler) :
    (handler.program abi data datalen t).faultOf around ≠ some .array ↔
      (handler.Readable abi data datalen → handler.Fits abi around) := by
  cases handler with
  | portList => exact requestPortList_array abi data datalen t around
  | operator =>
      rw [ArrayHandler.Readable, true_imp_iff]
      exact requestOperator_array abi t around
  | fields handler => exact handler.array_iff abi data datalen t around

end Handlers

/-- A modem that answers every command with these lines and `OK`. -/
def answersLines (lines : List CString) : Surroundings where
  answers := fun _ => ⟨0, some ⟨true, some (ascii "OK"), lines⟩, Or.inl ⟨rfl, rfl⟩⟩
  states := fun _ => .simReady
  qmi := none

/-- Twenty-one ports, eleven fields, and four names each are one too many. -/
theorem arrayHandlers_overrun :
    (ArrayHandler.portList.program .lp64 (.strings []) 0 0).faultOf
        (answersLines (List.replicate 21 (ascii "^SETPORT:1"))) = some .array ∧
      (∀ handler : LineHandler,
        ((ArrayHandler.fields handler).program .lp64 (.strings []) 0 0).faultOf
          (answersLines [handler.tag ++ ascii ":1,2,3,4,5,6,7,8,9,10,11"]) = some .array) ∧
      (ArrayHandler.operator.program .lp64 .null 0 0).faultOf
        (answersLines (List.replicate 4 (ascii "+COPS:0"))) = some .array := by
  refine ⟨by decide, ?_, by decide⟩
  intro handler
  cases handler <;> decide

/-! ### Fields and commas -/

/-- The commas of a field are those of its text. -/
theorem commas_written (field : Field) : commas field.written = commas field.text := by
  obtain ⟨space, quoted, text, blank, wellFormed⟩ := field
  have spaces : space.count 44 = 0 := by
    apply List.count_eq_zero.mpr
    intro comma
    exact absurd (blank 44 comma) (by decide)
  cases quoted <;> simp [commas, Field.written, Field.body, spaces]

/-- Every comma of the fields stands between two of them or in a text. -/
theorem commas_joined (field : Field) (fields : List Field) :
    commas (Field.joined (field :: fields)) =
      fields.length + ((field :: fields).map fun field => commas field.text).sum := by
  induction fields generalizing field with
  | nil => simp [Field.joined, commas_written]
  | cons next rest inductionHypothesis =>
      have behind := inductionHypothesis next
      have split : commas (Field.joined (field :: next :: rest)) =
          commas field.written + (commas (Field.joined (next :: rest)) + 1) := by
        simp [commas, Field.joined, List.count_append]
      rw [split, behind, commas_written]
      simp only [List.map_cons, List.sum_cons, List.length_cons]
      omega

theorem commas_lineOf (tag : CString) (field : Field) (fields : List Field) :
    commas (lineOf tag (field :: fields)) = commas tag + (fields.length +
      ((field :: fields).map fun field => commas field.text).sum) := by
  rw [← commas_joined]
  simp [commas, lineOf, List.count_append]

/-- No comma stands in the prefix or in a field. -/
def Plain (tag : CString) (fields : List Field) : Prop :=
  44 ∉ tag ∧ ∀ field ∈ fields, 44 ∉ field.text

theorem commas_eq_iff (tag : CString) (field : Field) (fields : List Field) :
    commas (lineOf tag (field :: fields)) = fields.length ↔ Plain tag (field :: fields) := by
  have none_counted : ((field :: fields).map fun field => commas field.text).sum = 0 ↔
      ∀ other ∈ field :: fields, 44 ∉ other.text := by
    simp [commas, List.count_eq_zero, List.sum_eq_zero_iff_forall_eq_nat]
  have tag_counted : commas tag = 0 ↔ 44 ∉ tag := List.count_eq_zero
  rw [commas_lineOf, Plain, ← none_counted, ← tag_counted]
  omega

/-- The tokenizer fills the array with the texts. -/
theorem fillStrings_pointer (size : Nat) (before : Option Field) (fields : List Field)
    (response : List (Option CString)) (room : response.length + fields.length ≤ size) :
    fillStrings size fields.length (Field.pointer before fields) response =
      .filled (response ++ fields.map fun field => some field.text) := by
  induction fields generalizing before response with
  | nil => simp [fillStrings]
  | cons field fields inductionHypothesis =>
      have scanned : atTokNextstr (Field.pointer before (field :: fields)) none =
          ⟨0, Field.pointer (some field) fields, some field.text⟩ := by
        have present : (Field.pointer before (field :: fields)).isNone = false := rfl
        simp [atTokNextstr, present, Field.nextTok_pointer]
      rw [List.length_cons] at room
      have fits : ¬ size ≤ response.length := by omega
      have left : (response ++ [some field.text]).length + fields.length ≤ size := by
        rw [List.length_append, List.length_singleton]
        omega
      simp only [List.length_cons, fillStrings, scanned, Int.lt_irrefl, if_false, fits]
      rw [inductionHypothesis (some field) _ left]
      simp

/-- What the handlers should complete a request with. -/
def fieldsCompletion (abi : Abi) (t : Nat) (fields : List Field) : Completion :=
  ⟨t, rilESuccess, .strings (fields.map fun field => some field.text),
    fields.length * abi.ptrSize⟩

theorem completeWithFields_iff (abi : Abi) (t : Nat) (around : Surroundings) (tag : CString)
    (colon : 58 ∉ tag) (field : Field) (fields : List Field) (ten : (field :: fields).length ≤ 10) :
    (completeWithFields abi t (lineOf tag (field :: fields))).completions around =
        [fieldsCompletion abi t (field :: fields)] ↔
      Plain tag (field :: fields) := by
  rw [← commas_eq_iff]
  have started := atTokStart_lineOf colon (field :: fields)
  unfold completeWithFields lineFields
  simp only [started, Int.lt_irrefl, if_false]
  constructor
  · intro completed
    cases filled : fillStrings 10 (commas (lineOf tag (field :: fields)) + 1)
        (Field.pointer none (field :: fields)) [] with
    | overrun => simp [filled, Handler.completions] at completed
    | failed =>
        simp [filled, genericFailure, rilOnRequestComplete, Handler.completions, fieldsCompletion,
          rilEGenericFailure, rilESuccess] at completed
    | filled entries =>
        have size : 0 < abi.ptrSize := by cases abi <;> decide
        simp only [filled, rilOnRequestComplete, Handler.completions, fieldsCompletion,
          List.cons.injEq, Completion.mk.injEq, and_true, true_and] at completed
        exact Nat.succ.inj (Nat.eq_of_mul_eq_mul_right size completed.2)
  · intro counted
    rw [counted, ← List.length_cons (a := field), fillStrings_pointer 10 none _ [] (by simpa using ten)]
    simp [rilOnRequestComplete, Handler.completions, fieldsCompletion]

/-- **A handler completes a request with the fields of the line exactly if it can make its
command and no comma stands in the prefix or in a field.** -/
theorem lineHandler_completesWithFields_iff (abi : Abi) (handler : LineHandler)
    (data : RequestData) (datalen t : Nat) (around : Surroundings) (tag : CString)
    (colon : 58 ∉ tag) (fields : List Field) (nonempty : fields ≠ []) (ten : fields.length ≤ 10)
    (answered : (around.answers 0).line = some (lineOf tag fields)) :
    (handler.program abi data datalen t).completions around = [fieldsCompletion abi t fields] ↔
      handler.Readable abi data datalen ∧ Plain tag fields := by
  obtain ⟨unreadable, program⟩ | ⟨readable, splits⟩ :=
    handler.program_cases abi data datalen t around
  · simp [program, unreadable, Handler.completions]
  · cases fields with
    | nil => exact absurd rfl nonempty
    | cons field fields =>
        rw [splits.completions _ answered,
          completeWithFields_iff abi t around.answered tag colon field fields ten]
        simp [readable]

theorem lineHandler_completesWithFields_quotedColon :
    (58 ∉ ascii "^CGCATT" ∧
        ((answersLines [lineOf (ascii "^CGCATT") [bareNumber, quotedColon, bareNumber]]).answers
          0).line = some (ascii "^CGCATT: 17,\"^home: 1\", 17")) ∧
      (LineHandler.psCsStat.program .lp64 (.strings []) 0 5).completions
          (answersLines [lineOf (ascii "^CGCATT") [bareNumber, quotedColon, bareNumber]]) =
        [⟨5, rilESuccess,
          .strings [some (ascii "17"), some (ascii "^home: 1"), some (ascii "17")], 24⟩] := by
  have colon : 58 ∉ ascii "^CGCATT" := by decide
  have readable : LineHandler.psCsStat.Readable .lp64 (.strings []) 0 := by
    intro same
    exact absurd same (by decide)
  have plain : Plain (ascii "^CGCATT") [bareNumber, quotedColon, bareNumber] :=
    ⟨by decide, by decide⟩
  exact ⟨⟨colon, by decide⟩, (lineHandler_completesWithFields_iff .lp64 .psCsStat (.strings []) 0 5
    (answersLines [lineOf (ascii "^CGCATT") [bareNumber, quotedColon, bareNumber]])
    (ascii "^CGCATT") colon [bareNumber, quotedColon, bareNumber] (by simp) (by decide) rfl).mpr
      ⟨readable, plain⟩⟩

/-- ` 17,"a,b"` has two commas, so a third, empty field is reported behind the two. -/
theorem quotedComma_reportedAsField (handler : LineHandler) :
    (handler.program .lp64 (.strings []) 0 0).completions
        (answersLines [lineOf handler.tag [bareNumber, quotedPair]]) =
      [⟨0, rilESuccess, .strings [some (ascii "17"), some (ascii "a,b"), some []], 24⟩] := by
  cases handler <;> rfl

theorem quotedComma_notTheFields :
    LineHandler.Readable .lp64 (.strings []) 0 .pdpAddr ∧
      (LineHandler.pdpAddr.program .lp64 (.strings []) 0 0).completions
          (answersLines [lineOf LineHandler.pdpAddr.tag [bareNumber, quotedPair]]) ≠
        [fieldsCompletion .lp64 0 [bareNumber, quotedPair]] := by
  have readable : LineHandler.Readable .lp64 (.strings []) 0 .pdpAddr := by
    intro same
    exact absurd same (by decide)
  apply And.intro readable
  rw [quotedComma_reportedAsField]
  intro same
  have sizes := congrArg (List.map Completion.responselen) same
  exact absurd sizes (by decide)

end RildHisi.ReferenceRil
