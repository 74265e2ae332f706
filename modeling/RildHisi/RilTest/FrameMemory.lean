import RildHisi.RilTest.DialMemory

/-!
Owns when a turn of the reader of rldial may process a frame, whatever bytes the frame has:
the strings that its switch looks at, and those that its end frees, are in `pStrings` and
not freed before.

For the frames that libril sends to rldial this says what `Safe` says.
-/

namespace RildHisi.RilTest

open RildHisi.Libril RildHisi.ReferenceRil

/-! ### A turn in two parts -/

namespace Dialer

/-- A response with an error, for which the turn frees nothing. -/
def Failed (d : Dialer) : Prop := d.responseType = responseSolicited ∧ d.rErr ≠ 0

/-- A message for which the turn reads strings. -/
def ReadsStrings (d : Dialer) : Prop :=
  (d.responseType = responseUnsolicited ∧ d.request = BitVec.ofInt 32 rilUnsolNdisDial) ∨
    (d.responseType = responseSolicited ∧ d.rErr = 0)

instance (d : Dialer) : Decidable d.Failed := by unfold Failed; infer_instance

instance (d : Dialer) : Decidable d.ReadsStrings := by unfold ReadsStrings; infer_instance

/-- The ints in front of the strings, and what is behind them. -/
def readInts (d : Dialer) (data : List UInt8) : Dialer × List UInt8 :=
  let (responseType, unread) := readInt32Into d.responseType data
  let (request, unread) := readInt32Into d.request unread
  if responseType = responseSolicited then
    let (token, unread) := readInt32Into d.token unread
    let (rErr, unread) := readInt32Into d.rErr unread
    ({ d with responseType, request, token, rErr }, unread)
  else ({ d with responseType, request }, unread)

/-- The variables where the switch and the end of the turn look at them. -/
def reading (d : Dialer) (strndup16to8 : List Char16 → CString) (data : List UInt8) : Dialer :=
  let (read, unread) := d.readInts data
  if read.ReadsStrings then read.readStrings strndup16to8 unread else read

/-- How many strings the switch looks at. -/
def looksAt (d : Dialer) : Nat :=
  if d.responseType = responseUnsolicited then
    if d.request = BitVec.ofInt 32 rilUnsolNdisDial then 1 else 0
  else if d.responseType = responseSolicited then
    if d.Asks .pscsBindState then if d.token = 1 then 1 else 2
    else if d.Asks .pdpAddr then 2
    else if d.Asks .dhcpInfo then resultNames.length
    else 0
  else 0

/-- The switch may look at a string: it prints it, or reads it for an address. -/
def Readable (d : Dialer) (i : Nat) : Prop :=
  if d.responseType = responseSolicited ∧ d.Asks .dhcpInfo then (d.scannable i).isSome
  else (d.printable i).isSome

/-- The end of the turn may free the strings. -/
def Freeable (d : Dialer) : Prop :=
  ∀ pStrings ∈ d.pStrings, ∀ i < d.countStrings.toInt.toNat,
    ∃ pointer ∈ pStrings[i]?, pointer ≠ .dangling

/-- The strings of a turn are there, those that it looks at and those that it frees. -/
def Intact (d : Dialer) : Prop := ¬ d.Failed → (∀ i < d.looksAt, d.Readable i) ∧ d.Freeable

/-- What the switch does to a frame without an error. -/
def switch (d : Dialer) (hex : Nat → Word) : Option Dialer :=
  if d.responseType = responseUnsolicited then
    if d.request = BitVec.ofInt 32 rilUnsolNdisDial then
      (d.printable 0).map fun _ => d.signal .apn
    else some d
  else if d.responseType = responseSolicited then d.responseSucceeded hex
  else some d

/-! ### Strings that are there -/

theorem freePointers_isSome_iff {count : Nat} {pStrings : List StringPointer} :
    (freePointers count pStrings).isSome ↔
      ∀ i < count, ∃ pointer ∈ pStrings[i]?, pointer ≠ .dangling := by
  induction count generalizing pStrings with
  | zero => simp [freePointers]
  | succ count inductionHypothesis =>
      cases pStrings with
      | nil =>
          refine iff_of_false Bool.false_ne_true fun there => ?_
          obtain ⟨pointer, none', -⟩ := there 0 (Nat.succ_pos count)
          cases none'
      | cons pointer pStrings =>
          rw [Nat.forall_lt_succ_left]
          cases pointer <;> simp [freePointers, inductionHypothesis]

theorem freeStrings_isSome_iff {d : Dialer} : d.freeStrings.isSome ↔ d.Freeable := by
  unfold freeStrings Freeable
  cases d.pStrings with
  | none => simp
  | some pStrings =>
      rw [Option.isSome_map, freePointers_isSome_iff]
      simp

/-- Freeing looks at the strings alone. -/
theorem freeable_congr {d d' : Dialer} (pStrings : d'.pStrings = d.pStrings)
    (countStrings : d'.countStrings = d.countStrings) : d'.Freeable ↔ d.Freeable := by
  unfold Freeable
  rw [pStrings, countStrings]

theorem mapM_isSome_iff {α : Type} (read : Nat → Option α) (count : Nat) :
    ((List.range count).mapM read).isSome ↔ ∀ i < count, (read i).isSome := by
  induction count with
  | zero => simp
  | succ count inductionHypothesis =>
      rw [List.range_succ, List.mapM_append, Nat.forall_lt_succ_right, ← inductionHypothesis]
      cases (List.range count).mapM read with
      | none => simp
      | some front => cases last : read count <;> simp [last]

theorem forall_lt_one {p : Nat → Prop} : (∀ i < 1, p i) ↔ p 0 := by
  simp

theorem forall_lt_two {p : Nat → Prop} : (∀ i < 2, p i) ↔ p 0 ∧ p 1 := by
  rw [Nat.forall_lt_succ_left, forall_lt_one]

/-- The switch of a response goes through where its strings are there, and leaves them. -/
theorem responseSucceeded_iff {d : Dialer} (solicited : d.responseType = responseSolicited)
    (hex : Nat → Word) :
    ((d.responseSucceeded hex).isSome ↔ ∀ i < d.looksAt, d.Readable i) ∧
      ∀ d' ∈ d.responseSucceeded hex,
        d'.pStrings = d.pStrings ∧ d'.countStrings = d.countStrings := by
  have other : ¬ responseSolicited = responseUnsolicited := by decide
  unfold responseSucceeded looksAt Readable
  simp only [solicited, other, if_false, if_true, true_and]
  by_cases bind : d.Asks .pscsBindState
  · have apart : ¬ d.Asks .dhcpInfo := fun same => absurd (bind.symm.trans same) (by decide)
    simp only [bind, apart, if_true, if_false]
    by_cases editing : d.token = 1
    · simp only [editing, if_true, forall_lt_one]
      cases d.printable 0 <;> simp [signal]
    · simp only [editing, if_false, forall_lt_two]
      cases d.printable 0 <;> cases d.printable 1 <;> simp [signal]
  by_cases address : d.Asks .pdpAddr
  · have apart : ¬ d.Asks .dhcpInfo := fun same => absurd (address.symm.trans same) (by decide)
    simp only [bind, address, apart, if_true, if_false, forall_lt_two]
    cases d.printable 0 <;> cases d.printable 1 <;> simp [signal]
  by_cases info : d.Asks .dhcpInfo
  · simp only [bind, address, info, if_true, if_false]
    rw [← mapM_isSome_iff]
    unfold writeDialResult
    cases (List.range resultNames.length).mapM d.scannable <;> simp [signal]
  · simp [bind, address, info]

/-- The switch goes through where its strings are there, and leaves them. -/
theorem switch_iff (d : Dialer) (hex : Nat → Word) :
    ((d.switch hex).isSome ↔ ∀ i < d.looksAt, d.Readable i) ∧
      ∀ d' ∈ d.switch hex, d'.pStrings = d.pStrings ∧ d'.countStrings = d.countStrings := by
  by_cases solicited : d.responseType = responseSolicited
  · have other : ¬ responseSolicited = responseUnsolicited := by decide
    have answered := responseSucceeded_iff solicited hex
    unfold switch
    rwa [if_neg (by rw [solicited]; exact other), if_pos solicited]
  · unfold switch looksAt Readable
    simp only [solicited, if_false, false_and]
    split_ifs
    · rw [forall_lt_one]
      cases d.printable 0 <;> simp [signal]
    · simp
    · simp

/-! ### Any frame -/

/-- **A turn in two parts**: what it reads, and what it does with it. -/
theorem processFrame_eq (d : Dialer) (strndup16to8 : List Char16 → CString) (hex : Nat → Word)
    (data : List UInt8) :
    d.processFrame strndup16to8 hex data =
      if (d.reading strndup16to8 data).Failed then
        some (d.reading strndup16to8 data).responseFailed
      else ((d.reading strndup16to8 data).switch hex).bind freeStrings := by
  have other : ¬ responseSolicited = responseUnsolicited := by decide
  have other' : ¬ responseUnsolicited = responseSolicited := by decide
  have reads (r : Dialer) (unread : List UInt8) :
      (r.readStrings strndup16to8 unread).responseType = r.responseType ∧
        (r.readStrings strndup16to8 unread).request = r.request ∧
        (r.readStrings strndup16to8 unread).rErr = r.rErr := by
    unfold readStrings
    dsimp only
    split_ifs <;> exact ⟨rfl, rfl, rfl⟩
  unfold processFrame reading readInts
  dsimp only
  by_cases solicited : (readInt32Into d.responseType data).1 = responseSolicited
  · simp only [solicited, other, if_false, if_true]
    by_cases error : (readInt32Into d.rErr (readInt32Into d.token (readInt32Into d.request
        (readInt32Into d.responseType data).2).2).2).1 = 0
    · simp only [ReadsStrings, Failed, switch, error, other, reads, false_and, false_or, and_self,
        ne_eq, not_true_eq_false, and_false, if_true, if_false]
      rfl
    · simp only [ReadsStrings, Failed, error, other, false_and, false_or, and_false, ne_eq,
        not_false_eq_true, and_self, if_true, if_false]
  by_cases unsolicited : (readInt32Into d.responseType data).1 = responseUnsolicited
  · simp only [unsolicited, other', if_false, if_true]
    by_cases dials : (readInt32Into d.request (readInt32Into d.responseType data).2).1 =
        BitVec.ofInt 32 rilUnsolNdisDial
    · simp only [ReadsStrings, Failed, switch, dials, other', reads, false_and, or_false, and_self,
        if_true, if_false, Option.bind_eq_bind, Option.bind_map]
      rfl
    · simp only [ReadsStrings, Failed, switch, dials, other', false_and, and_false, or_self,
        if_true, if_false, Option.bind_some]
  · simp only [ReadsStrings, Failed, switch, solicited, unsolicited, false_and, or_self, if_false,
      Option.bind_some]

/-- **A frame goes through** where the strings of its turn are there. -/
theorem processFrame_isSome_iff (d : Dialer) (strndup16to8 : List Char16 → CString)
    (hex : Nat → Word) (data : List UInt8) :
    (d.processFrame strndup16to8 hex data).isSome ↔ (d.reading strndup16to8 data).Intact := by
  rw [processFrame_eq]
  generalize d.reading strndup16to8 data = r
  unfold Intact
  by_cases failed : r.Failed
  · simp [failed]
  rw [if_neg failed]
  obtain ⟨goes, keeps⟩ := r.switch_iff hex
  cases switched : r.switch hex with
  | none =>
      rw [switched] at goes
      simp only [failed, not_false_eq_true, forall_const, ← goes]
      simp
  | some r' =>
      obtain ⟨pStrings, countStrings⟩ := keeps r' switched
      rw [switched] at goes
      simp only [failed, not_false_eq_true, forall_const, ← goes, Option.bind_some,
        freeStrings_isSome_iff, freeable_congr pStrings countStrings]
      simp

/-- The frames that libril sends to rldial. -/
theorem intact_iff_safe {P : Type} [Platform P] [TextPlatform P] {d : Dialer} {owes : Bool}
    (keeps : d.Keeps owes) (frame : DialFrame) (sendable : frame.Sendable) :
    (d.reading (Platform.strndup16to8 P) (frame.data P)).Intact ↔ frame.Safe owes := by
  obtain ⟨goesOn, stops⟩ := processFrame_step (P := P) (fun _ => 0) keeps frame sendable
  rw [← processFrame_isSome_iff d _ fun _ => 0]
  constructor
  · intro processed
    by_contra unsafe'
    rw [stops unsafe'] at processed
    cases processed
  · intro safe
    obtain ⟨d', -, processed⟩ := goesOn safe
    rw [processed]
    rfl

end Dialer

end RildHisi.RilTest
