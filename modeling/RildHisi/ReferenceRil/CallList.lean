import RildHisi.ReferenceRil.FieldArrays

/-!
Owns the calls that `requestGetCurrentCalls` reports. A line is parsed into the slot behind
the calls so far, and one that is not valid leaves there what was parsed of it: its number
gets into the next call whose line has none.

The other fields of a call are all written by its own line, or by none.
-/

namespace RildHisi.ReferenceRil

open RildHisi.AtChannel RildHisi.Library RildHisi.Libril Handler

/-! ### What a line says -/

/-- The fields that every valid line has. -/
structure ClccFront where
  index : Word
  isMT : Word
  state : Word
  isVoice : Word
  isMpty : Word
  deriving DecidableEq

/-- A line, read by itself. -/
inductive ClccLine
  /-- One of the fields that every line has cannot be read. -/
  | broken
  /-- The line ends behind them. -/
  | short (front : ClccFront)
  | full (front : ClccFront) (number : Option CString) (toa : Word)
  /-- There is a number, and no type of address behind it. -/
  | unfinished (front : ClccFront) (number : Option CString)
  deriving DecidableEq

/-- Strings like "NOT AVAILABLE" are no numbers. -/
def dialable (number : Option CString) : Option CString :=
  number.filter fun number => (ascii "+0123456789").contains (number.headD 0)

section Lines

variable (abi : Abi)

def clccFront : Tok ClccFront := do
  Tok.start
  let index ← Tok.nextint abi
  let isMT ← Tok.nextbool abi
  let state ← Tok.nextint abi
  let callState ← fun pCur => (clccStateToRilState state).map (·, pCur)
  let mode ← Tok.nextint abi
  let isMpty ← Tok.nextbool abi
  pure ⟨index, isMT, callState, if mode = 0 then 1 else 0, isMpty⟩

def clccLine (line : CString) : ClccLine :=
  match clccFront abi (some line) with
  | none => .broken
  | some (front, pCur) =>
      if atTokHasmore pCur then
        let number := atTokNextstr pCur none
        match Tok.nextint abi number.pCur with
        | none => .unfinished front (dialable number.out)
        | some (toa, _) => .full front (dialable number.out) toa
      else .short front

/-- The slot with the fields that every line has. -/
def ClccFront.fill (front : ClccFront) (slot : RilCall) : RilCall :=
  { slot with
    index := front.index
    isMT := front.isMT
    state := front.state
    isVoice := front.isVoice
    isMpty := front.isMpty }

/-- The call a line stands for, if it is valid. -/
def ClccLine.call : ClccLine → Option RilCall
  | .short front => some (front.fill zeroCall)
  | .full front number toa => some { front.fill zeroCall with number, toa }
  | .broken | .unfinished _ _ => none

/-- What `callFromCLCCLine` leaves in the slot it is given. -/
def ClccLine.Fills (slot : RilCall) : ClccLine → Bool × RilCall → Prop
  | .broken, result => ∃ front : ClccFront, result = (false, front.fill slot)
  | .short front, result => result = (true, { front.fill slot with uusInfo := none })
  | .full front number toa, result =>
      result = (true, { front.fill slot with number, toa, uusInfo := none })
  | .unfinished front number, result =>
      ∃ toa, (toa = slot.toa ∨ toa = 0) ∧ result = (false, { front.fill slot with number, toa })

/-- The number, where there is more behind the other fields. -/
theorem nextstr_of_hasmore {pCur : Option CString} (more : atTokHasmore pCur = true)
    (out : Option CString) :
    (atTokNextstr pCur none).err = 0 ∧ atTokNextstr pCur out = atTokNextstr pCur none := by
  cases pCur with
  | none => cases more
  | some cur => exact ⟨rfl, rfl⟩

/-- The fields that a slot holds. -/
def frontOf (slot : RilCall) : ClccFront :=
  ⟨slot.index, slot.isMT, slot.state, slot.isVoice, slot.isMpty⟩

/-- **What a line leaves in a slot.** -/
theorem callFromClccLine_fills (line : CString) (slot : RilCall) :
    (clccLine abi line).Fills slot (callFromClccLine abi line slot) := by
  unfold clccLine clccFront callFromClccLine
  rcases Tok.start_cases (some line) with ⟨failed, stops⟩ | ⟨afterStart, started, start⟩
  · rw [Tok.bind_of_none stops]
    simp only [failed, if_true]
    exact ⟨frontOf slot, rfl⟩
  rw [Tok.bind_of_some start]
  simp only [started, Int.lt_irrefl, if_false]
  rcases Tok.nextint_cases abi afterStart slot.index with
    ⟨failed, stops, -⟩ | ⟨index, afterIndex, scanned, reads⟩
  · rw [Tok.bind_of_none stops]
    simp only [failed, if_true]
    exact ⟨{ frontOf slot with index := _ }, rfl⟩
  rw [Tok.bind_of_some reads]
  simp only [scanned, Int.lt_irrefl, if_false]
  rcases Tok.nextbool_cases abi afterIndex slot.isMT with
    ⟨failed, stops⟩ | ⟨isMT, afterIsMT, scanned, reads⟩
  · rw [Tok.bind_of_none stops]
    simp only [failed, if_true]
    exact ⟨{ frontOf slot with index, isMT := _ }, rfl⟩
  rw [Tok.bind_of_some reads]
  simp only [scanned, Int.lt_irrefl, if_false]
  rcases Tok.nextint_cases abi afterIsMT 0 with
    ⟨failed, stops, -⟩ | ⟨state, afterState, scanned, reads⟩
  · rw [Tok.bind_of_none stops]
    simp only [failed, if_true]
    exact ⟨{ frontOf slot with index, isMT }, rfl⟩
  rw [Tok.bind_of_some reads]
  simp only [scanned, Int.lt_irrefl, if_false]
  cases known : clccStateToRilState state with
  | none =>
      rw [Tok.bind_of_none rfl]
      exact ⟨{ frontOf slot with index, isMT }, rfl⟩
  | some callState =>
  rw [Tok.bind_of_some rfl]
  rcases Tok.nextint_cases abi afterState 0 with
    ⟨failed, stops, -⟩ | ⟨mode, afterMode, scanned, reads⟩
  · rw [Tok.bind_of_none stops]
    simp only [failed, if_true]
    exact ⟨{ frontOf slot with index, isMT, state := callState }, rfl⟩
  rw [Tok.bind_of_some reads]
  simp only [scanned, Int.lt_irrefl, if_false]
  rcases Tok.nextbool_cases abi afterMode slot.isMpty with
    ⟨failed, stops⟩ | ⟨isMpty, afterIsMpty, scanned, reads⟩
  · rw [Tok.bind_of_none stops]
    simp only [failed, if_true]
    exact ⟨⟨index, isMT, callState, if mode = 0 then 1 else 0, _⟩, rfl⟩
  rw [Tok.bind_of_some reads, Tok.pure_eq]
  simp only [scanned, Int.lt_irrefl, if_false]
  cases more : atTokHasmore afterIsMpty with
  | false =>
      simp only [Bool.false_eq_true, if_false]
      rfl
  | true =>
      obtain ⟨present, same⟩ := nextstr_of_hasmore more slot.number
      simp only [if_true, same, present, Int.lt_irrefl, if_false]
      rcases Tok.nextint_cases abi (atTokNextstr afterIsMpty none).pCur slot.toa with
        ⟨failed, stops, left⟩ | ⟨toa, afterToa, scanned, reads⟩
      · simp only [failed, if_true]
        rw [stops]
        exact ⟨_, left, rfl⟩
      · simp only [scanned, Int.lt_irrefl, if_false]
        rw [reads]
        rfl

/-! ### The loop -/

/-- The calls of the valid lines, each read by itself. -/
def ownCalls (lines : List CString) : List RilCall :=
  lines.filterMap fun line => (clccLine abi line).call

/-- The next line that is not broken has no number. -/
def ShortNext : List CString → Prop
  | [] => False
  | line :: lines =>
      match clccLine abi line with
      | .broken => ShortNext lines
      | .short _ => True
      | .full .. | .unfinished .. => False

/-- Behind a line that ends behind its number, the next line that is not broken has one too. -/
def Unleaked : List CString → Prop
  | [] => True
  | line :: lines =>
      match clccLine abi line with
      | .unfinished _ (some _) => ¬ ShortNext abi lines ∧ Unleaked lines
      | _ => Unleaked lines

/-- A slot in which nothing was left but a number. -/
def leftWith (front : ClccFront) (number : Option CString) : RilCall :=
  { front.fill zeroCall with number }

/-- The calls so far stay in front. -/
theorem readCalls_front (lines : List CString) (calls : List RilCall) (slot : RilCall)
    (needRepoll : Bool) :
    ∃ behind, (readCalls abi lines calls slot needRepoll).1 = calls ++ behind := by
  induction lines generalizing calls slot needRepoll with
  | nil => exact ⟨[], (List.append_nil calls).symm⟩
  | cons line lines inductionHypothesis =>
      unfold readCalls
      obtain ⟨valid, call⟩ := callFromClccLine abi line slot
      cases valid with
      | false => exact inductionHypothesis calls call needRepoll
      | true =>
          obtain ⟨behind, same⟩ := inductionHypothesis (calls ++ [call]) zeroCall
            (needRepoll || decide (call.state ≠ rilCallActive ∧ call.state ≠ rilCallHolding))
          exact ⟨call :: behind, by simpa using same⟩

theorem ownCalls_cons (line : CString) (lines : List CString) :
    ownCalls abi (line :: lines) = (clccLine abi line).call.toList ++ ownCalls abi lines := by
  cases own : (clccLine abi line).call <;> simp [ownCalls, own]

/-- A valid line is reported as its own call exactly if that is what it makes of the slot. -/
theorem readCalls_valid_iff {line : CString} {lines : List CString} {slot call own : RilCall}
    (came : callFromClccLine abi line slot = (true, call))
    (meaning : (clccLine abi line).call = some own)
    (rest : ∀ calls needRepoll, (readCalls abi lines calls zeroCall needRepoll).1 =
      calls ++ ownCalls abi lines ↔ Unleaked abi lines)
    (calls : List RilCall) (needRepoll : Bool) :
    (readCalls abi (line :: lines) calls slot needRepoll).1 =
      calls ++ ownCalls abi (line :: lines) ↔ call = own ∧ Unleaked abi lines := by
  rw [ownCalls_cons, meaning]
  unfold readCalls
  simp only [came, Bool.not_true, Bool.false_eq_true, if_false]
  generalize (needRepoll || decide (call.state ≠ rilCallActive ∧ call.state ≠ rilCallHolding)) =
    repoll
  have appended : calls ++ ((some own).toList ++ ownCalls abi lines) =
      (calls ++ [own]) ++ ownCalls abi lines := by simp
  rw [appended]
  constructor
  · intro same
    obtain ⟨behind, front⟩ := readCalls_front abi lines (calls ++ [call]) zeroCall repoll
    have equal : call = own := by
      rw [front, List.append_assoc, List.append_assoc] at same
      exact (List.cons.inj (List.append_cancel_left same)).1
    rw [equal] at same
    exact ⟨equal, (rest _ _).mp same⟩
  · rintro ⟨rfl, unleaked⟩
    exact (rest _ _).mpr unleaked

/-- The loop reports the calls of the lines exactly if the number in the slot gets into none of
them, nor does one that a line leaves there. -/
theorem readCalls_own_iff (lines : List CString) (calls : List RilCall) (front : ClccFront)
    (number : Option CString) (needRepoll : Bool) :
    (readCalls abi lines calls (leftWith front number) needRepoll).1 = calls ++ ownCalls abi lines ↔
      (number = none ∨ ¬ ShortNext abi lines) ∧ Unleaked abi lines := by
  induction lines generalizing calls front number needRepoll with
  | nil => simp [readCalls, ownCalls, ShortNext, Unleaked]
  | cons line lines inductionHypothesis =>
      have fills := callFromClccLine_fills abi line (leftWith front number)
      have rest (calls : List RilCall) (needRepoll : Bool) :
          (readCalls abi lines calls zeroCall needRepoll).1 = calls ++ ownCalls abi lines ↔
            Unleaked abi lines := by
        have clean := inductionHypothesis calls (frontOf zeroCall) none needRepoll
        simp only [true_or, true_and] at clean
        exact clean
      -- a line that is not valid reports nothing, and leaves its slot behind
      have passes {slot : RilCall} (came : callFromClccLine abi line (leftWith front number) =
          (false, slot)) (meaning : (clccLine abi line).call = none) :
          (readCalls abi (line :: lines) calls (leftWith front number) needRepoll).1 =
              calls ++ ownCalls abi (line :: lines) ↔
            (readCalls abi lines calls slot needRepoll).1 = calls ++ ownCalls abi lines := by
        rw [ownCalls_cons, meaning, readCalls, came]
        rfl
      cases meaning : clccLine abi line with
      | broken =>
          rw [meaning] at fills
          obtain ⟨left, came⟩ := fills
          rw [passes came (by rw [meaning]; rfl), ShortNext, Unleaked, meaning]
          exact inductionHypothesis calls left number needRepoll
      | short front' =>
          rw [meaning] at fills
          have came : callFromClccLine abi line (leftWith front number) =
              (true, leftWith front' number) := fills
          rw [readCalls_valid_iff abi came (congrArg ClccLine.call meaning) rest, ShortNext, Unleaked,
            meaning]
          have own : leftWith front' number = front'.fill zeroCall ↔ number = none := by
            constructor
            · exact fun same => congrArg RilCall.number same
            · rintro rfl
              rfl
          rw [own]
          simp
      | full front' number' toa =>
          rw [meaning] at fills
          rw [readCalls_valid_iff abi fills (congrArg ClccLine.call meaning) rest, ShortNext, Unleaked,
            meaning]
          simp only [not_false_eq_true, or_true, true_and]
          exact and_iff_right rfl
      | unfinished front' number' =>
          rw [meaning] at fills
          obtain ⟨toa, left, came⟩ := fills
          obtain rfl : toa = 0 := by
            rcases left with rfl | rfl <;> rfl
          have came : callFromClccLine abi line (leftWith front number) =
              (false, leftWith front' number') := came
          rw [passes came (by rw [meaning]; rfl), ShortNext, Unleaked, meaning, inductionHypothesis]
          cases number' <;> simp

end Lines

/-! ### The report -/

/-- The completion with these calls. -/
def callsCompletion (abi : Abi) (t : Nat) (calls : List RilCall) : Completion :=
  ⟨t, rilESuccess, .calls calls, calls.length * abi.ptrSize⟩

theorem completions_requestGetCurrentCalls (abi : Abi) (t : Nat) {around : Surroundings}
    {response : AtResponse} (succeeded : (around.answers 0).succeeded = some response) :
    (requestGetCurrentCalls abi t).completions around =
      [callsCompletion abi t (readCalls abi response.pIntermediates [] zeroCall false).1] := by
  rw [requestGetCurrentCalls, completions_atSendCommandMultiline, succeeded]
  dsimp only
  generalize readCalls abi response.pIntermediates [] zeroCall false = read
  obtain ⟨calls, needRepoll⟩ := read
  cases needRepoll <;> rfl

/-- **The calls that are reported are those of the valid lines, in order and each as its line
says, exactly if behind no line that ends behind its number the next line that is not broken
ends in front of it.** -/
theorem requestGetCurrentCalls_own_iff (abi : Abi) (t : Nat) (around : Surroundings)
    (response : AtResponse) (succeeded : (around.answers 0).succeeded = some response) :
    (requestGetCurrentCalls abi t).completions around =
        [callsCompletion abi t (ownCalls abi response.pIntermediates)] ↔
      Unleaked abi response.pIntermediates := by
  have loop := readCalls_own_iff abi response.pIntermediates [] (frontOf zeroCall) none false
  simp only [List.nil_append, true_or, true_and] at loop
  rw [← loop, completions_requestGetCurrentCalls abi t succeeded]
  constructor
  · intro same
    have response := congrArg Completion.response (List.cons.inj same).1
    exact ResponseData.calls.inj response
  · intro same
    exact congrArg (fun calls => [callsCompletion abi t calls]) same

/-- A valid line without a number, and one behind a line that has all its fields. -/
def finishedLines : List CString :=
  [ascii "+CLCC: 1,0,0,0,0,\"+18005551212\",145", ascii "+CLCC: 2,0,0,0,0"]

theorem requestGetCurrentCalls_own_finishedLines :
    ((answersLines finishedLines).answers 0).succeeded =
        some ⟨true, some (ascii "OK"), finishedLines⟩ ∧
      ((requestGetCurrentCalls .lp64 0).completions (answersLines finishedLines) =
          [callsCompletion .lp64 0 (ownCalls .lp64 finishedLines)] ↔
        Unleaked .lp64 finishedLines) :=
  ⟨rfl, requestGetCurrentCalls_own_iff .lp64 0 (answersLines finishedLines) _ rfl⟩

/-- A line that ends behind its number, and a valid one that has none. -/
def unfinishedLines : List CString :=
  [ascii "+CLCC: 1,0,0,0,0,\"+18005551212\"", ascii "+CLCC: 2,0,0,0,0"]

/-- **The number of a line that is not valid** is reported with the call of the next one. -/
theorem unfinishedNumber_reported :
    (readCalls .lp64 unfinishedLines [] zeroCall false).1.map RilCall.number =
        [some (ascii "+18005551212")] ∧
      (ownCalls .lp64 unfinishedLines).map RilCall.number = [none] ∧
      (requestGetCurrentCalls .lp64 0).completions (answersLines unfinishedLines) ≠
        [callsCompletion .lp64 0 (ownCalls .lp64 unfinishedLines)] := by
  have reported : (readCalls .lp64 unfinishedLines [] zeroCall false).1.map RilCall.number =
      [some (ascii "+18005551212")] := by decide
  have own : (ownCalls .lp64 unfinishedLines).map RilCall.number = [none] := by decide
  refine ⟨reported, own, fun same => ?_⟩
  rw [completions_requestGetCurrentCalls .lp64 0 rfl] at same
  have calls := ResponseData.calls.inj (congrArg Completion.response (List.cons.inj same).1)
  change (readCalls .lp64 unfinishedLines [] zeroCall false).1 = _ at calls
  rw [calls, own] at reported
  cases reported

end RildHisi.ReferenceRil
