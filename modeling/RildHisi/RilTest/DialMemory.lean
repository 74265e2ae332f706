import RildHisi.Library.Runs
import RildHisi.RilTest.DialClient

/-!
Owns the memory of the reader of rldial over a whole session. `pStrings` and `countStrings`
outlive a turn, and only some of the frames set them: an unsolicited message other than
`RIL_UNSOL_NDIS_DIAL` frees what they still say. The session is safe exactly where no such
message comes while they say strings that are freed, and every frame has the strings its
switch looks at.
-/

namespace RildHisi.RilTest

open RildHisi.Libril RildHisi.ReferenceRil

/-! ### Frames of a session -/

/-- The requests that are answered with strings. -/
inductive StringsRequest
  | pscsBindState | pdpAddr | dhcpInfo
  deriving DecidableEq, Repr

def StringsRequest.request : StringsRequest → RilRequest
  | pscsBindState => .pscsBindState
  | pdpAddr => .pdpAddr
  | dhcpInfo => .dhcpInfo

/-- A frame that libril sends to rldial. -/
inductive DialFrame
  /-- An unsolicited message other than `RIL_UNSOL_NDIS_DIAL`. -/
  | notice (unsolResponse : Word) (payload : List UInt8)
      (other : unsolResponse ≠ BitVec.ofInt 32 rilUnsolNdisDial)
  /-- `RIL_UNSOL_NDIS_DIAL`. -/
  | connected (strings : List CString)
  | failed (request : RilRequest) (token e : Word) (payload : List UInt8) (error : e ≠ 0)
  /-- The response to `RIL_REQUEST_NDIS_DIAL`, which has no payload. -/
  | dialed (token : Word)
  | answered (request : StringsRequest) (token : Word) (strings : List CString)

namespace DialFrame

def data (P : Type) [Platform P] : DialFrame → List UInt8
  | notice unsolResponse payload _ =>
      wordBytes responseUnsolicited ++ wordBytes unsolResponse ++ payload
  | connected strings =>
      wordBytes responseUnsolicited ++ wordBytes (BitVec.ofInt 32 rilUnsolNdisDial) ++
        stringsPayload (wideTexts P (strings.map some))
  | failed request token e payload _ => frameHeader request token e ++ payload
  | dialed token => frameHeader .ndisDial token 0
  | answered request token strings =>
      frameHeader request.request token 0 ++ stringsPayload (wideTexts P (strings.map some))

/-- The strings are ASCII, there is at least one, and an int counts them. -/
def Sendable : DialFrame → Prop
  | connected strings | answered _ _ strings =>
      (∀ s ∈ strings, WireText (some s)) ∧ strings ≠ [] ∧ strings.length < 2 ^ 31
  | _ => True

/-- How many strings the switch looks at. -/
def used : DialFrame → Nat
  | answered .pscsBindState token _ => if token = 1 then 1 else 2
  | answered .pdpAddr _ _ => 2
  | answered .dhcpInfo _ _ => resultNames.length
  | _ => 0

def strings : DialFrame → List CString
  | connected strings | answered _ _ strings => strings
  | _ => []

/-- The strings the switch looks at are there. -/
def Enough (frame : DialFrame) : Prop := frame.used ≤ frame.strings.length

def IsNotice : DialFrame → Prop
  | notice _ _ _ => True
  | _ => False

/-- Whether `pStrings` says strings that are freed, behind a frame. -/
def owes (before : Bool) : DialFrame → Bool
  | notice _ _ _ | failed _ _ _ _ _ => before
  | dialed _ => false
  | connected _ | answered _ _ _ => true

end DialFrame

/-- Where a frame may be processed. -/
def DialFrame.Safe (owes : Bool) (frame : DialFrame) : Prop :=
  frame.Enough ∧ (frame.IsNotice → owes = false)

/-- Behind frames, from the start on. -/
def owing (frames : List DialFrame) : Bool := frames.foldl DialFrame.owes false

/-! ### Turns -/

namespace Dialer

/-- `pStrings` says no string that is freed. -/
def Clear (d : Dialer) : Prop :=
  ∀ pStrings ∈ d.pStrings, (∀ pointer ∈ pStrings, pointer = .null) ∧
    d.countStrings.toInt.toNat ≤ pStrings.length

/-- `pStrings` says as many strings as it should, all of them freed. -/
def Owes (d : Dialer) : Prop :=
  ∃ count, 0 < count ∧ d.pStrings = some (List.replicate count .dangling) ∧
    d.countStrings.toInt.toNat = count

/-- What a turn leaves of the memory. -/
def Keeps (owes : Bool) (d : Dialer) : Prop := if owes then d.Owes else d.Clear

theorem freePointers_null {count : Nat} {pStrings : List StringPointer}
    (null : ∀ pointer ∈ pStrings, pointer = .null) (enough : count ≤ pStrings.length) :
    freePointers count pStrings = some pStrings := by
  induction pStrings generalizing count with
  | nil =>
      obtain rfl : count = 0 := Nat.le_zero.mp enough
      rfl
  | cons pointer pStrings inductionHypothesis =>
      cases count with
      | zero => rfl
      | succ count =>
          obtain rfl := null pointer List.mem_cons_self
          have behind := inductionHypothesis
            (fun later member => null later (List.mem_cons_of_mem _ member))
            (Nat.le_of_succ_le_succ enough)
          rw [freePointers, behind]
          rfl

theorem Clear.freeStrings {d : Dialer} (clear : d.Clear) : d.freeStrings = some d := by
  unfold Dialer.freeStrings
  cases stored : d.pStrings with
  | none => rfl
  | some pStrings =>
      obtain ⟨null, enough⟩ := clear pStrings stored
      dsimp only
      rw [freePointers_null null enough, Option.map_some, ← stored]

theorem Owes.freeStrings {d : Dialer} (owes : d.Owes) : d.freeStrings = none := by
  obtain ⟨count, positive, stored, size⟩ := owes
  obtain ⟨before, rfl⟩ := Nat.exists_eq_succ_of_ne_zero (Nat.pos_iff_ne_zero.mp positive)
  unfold Dialer.freeStrings
  rw [stored, size]
  rfl

/-- The strings of a frame, once they are read. -/
structure Holding (d : Dialer) (strings : List CString) : Prop where
  pStrings : d.pStrings = some ((strings.map some).map StringPointer.ofString)
  countStrings : d.countStrings = BitVec.ofNat 32 (strings.map some).length

variable {d : Dialer} {strings : List CString}

/-- A string that is printed, and what follows. -/
theorem Holding.printable_bind (holding : d.Holding strings) (i : Nat) (next : Option Dialer) :
    ((d.printable i).bind fun _ => next) = if i < strings.length then next else none := by
  unfold Dialer.printable
  rw [holding.pStrings, Option.bind_some, List.getElem?_map, List.getElem?_map]
  by_cases inside : i < strings.length
  · simp [inside, StringPointer.ofString]
  · simp [inside]

theorem Holding.freeStrings (holding : d.Holding strings) (some_ : strings ≠ [])
    (few : strings.length < 2 ^ 31) : ∃ d', d.freeStrings = some d' ∧ d'.Owes := by
  have fewList : (strings.map some).length < 2 ^ 31 := by rwa [List.length_map]
  refine ⟨_, freeStrings_fresh fewList holding.countStrings holding.pStrings, strings.length,
    List.length_pos_iff.mpr some_, ?_, ?_⟩
  · dsimp only
    rw [List.map_map, List.map_map]
    exact congrArg some (List.map_const' ..)
  · dsimp only
    rw [holding.countStrings, toNat_count fewList, List.length_map]

theorem Holding.signal (holding : d.Holding strings) (cond : DialCond) :
    (d.signal cond).Holding strings := ⟨holding.pStrings, holding.countStrings⟩

theorem mapM_getElem?_none {α : Type} {entries : List α} {count : Nat}
    (missing : entries.length < count) : (List.range count).mapM (entries[·]?) = none := by
  induction entries generalizing count with
  | nil =>
      obtain ⟨before, rfl⟩ := Nat.exists_eq_succ_of_ne_zero (Nat.pos_iff_ne_zero.mp missing)
      rw [List.range_succ_eq_map, List.mapM_cons]
      rfl
  | cons entry entries inductionHypothesis =>
      cases count with
      | zero => exact absurd missing (Nat.not_lt_zero _)
      | succ count =>
          have behind := inductionHypothesis (Nat.lt_of_succ_lt_succ missing)
          have shifted : ((fun i => (entry :: entries)[i]?) ∘ Nat.succ) = (entries[·]?) := rfl
          rw [List.range_succ_eq_map, List.mapM_cons, List.mapM_map, shifted, behind]
          rfl

/-- Two strings are printed. -/
theorem both_iff (count : Nat) (next : Option Dialer) :
    (if 0 < count then if 1 < count then next else none else none) =
      if 2 ≤ count then next else none := by
  by_cases two : 2 ≤ count
  · rw [if_pos (by omega), if_pos (by omega), if_pos two]
  · rw [if_neg two, if_neg (show ¬ 1 < count by omega), ite_self]

/-- What the switch of a response looks at. -/
theorem Holding.responseSucceeded (holding : d.Holding strings) (hex : Nat → Word)
    {request : StringsRequest} (asks : d.Asks request.request) :
    ∃ d', d'.Holding strings ∧ d.responseSucceeded hex =
      if (DialFrame.answered request d.token strings).used ≤ strings.length then some d'
      else none := by
  have other (request' : RilRequest) (apart : (BitVec.ofNat 32 request.request.number : Word) ≠
      BitVec.ofNat 32 request'.number) : ¬ d.Asks request' :=
    fun same => apart (Eq.trans (Eq.symm asks) same)
  unfold Dialer.responseSucceeded
  cases request with
  | pscsBindState =>
      change d.Asks .pscsBindState at asks
      refine ⟨d.signal .psbind, holding.signal .psbind, ?_⟩
      rw [if_pos asks]
      simp only [Option.bind_eq_bind, Option.pure_def, holding.printable_bind, DialFrame.used]
      by_cases editing : d.token = 1
      · simp only [editing, if_true]
        rfl
      · simp only [editing, if_false]
        exact both_iff _ _
  | pdpAddr =>
      change d.Asks .pdpAddr at asks
      refine ⟨d.signal .pdp, holding.signal .pdp, ?_⟩
      rw [if_neg (other .pscsBindState (by decide)), if_pos asks]
      simp only [Option.bind_eq_bind, Option.pure_def, holding.printable_bind, DialFrame.used]
      exact both_iff _ _
  | dhcpInfo =>
      change d.Asks .dhcpInfo at asks
      rw [if_neg (other .pscsBindState (by decide)), if_neg (other .pdpAddr (by decide)),
        if_pos asks]
      unfold Dialer.writeDialResult
      rw [funext (Dialer.scannable_some holding.pStrings)]
      by_cases enough : resultNames.length ≤ strings.length
      · rw [mapM_getElem? enough]
        simp only [Option.bind_eq_bind, Option.bind_some, Option.pure_def, DialFrame.used,
          enough, if_true]
        exact ⟨({ d with dialResult := _, gDialSuccess := true } : Dialer).signal .dhcp,
          ⟨holding.pStrings, holding.countStrings⟩, rfl⟩
      · rw [mapM_getElem?_none (by omega)]
        refine ⟨d, holding, ?_⟩
        simp [DialFrame.used, enough]

/-! ### Frames, one by one -/

section Frames

variable {P : Type} [Platform P] [TextPlatform P] (hex : Nat → Word)

theorem processFrame_unsolicited (d : Dialer) (strndup16to8 : List Char16 → CString)
    (unsolResponse : Word) (payload : List UInt8) :
    d.processFrame strndup16to8 hex
        (wordBytes responseUnsolicited ++ wordBytes unsolResponse ++ payload) =
      let d := { d with responseType := responseUnsolicited, request := unsolResponse }
      if unsolResponse = BitVec.ofInt 32 rilUnsolNdisDial then do
        let d := d.readStrings strndup16to8 payload
        let _ ← d.printable 0
        (d.signal .apn).freeStrings
      else d.freeStrings := by
  unfold processFrame
  simp only [List.append_assoc, readInt32Into_word, if_true]

/-- Strings that are read. -/
theorem readStrings_holding (d : Dialer) (wire : ∀ s ∈ strings, WireText (some s))
    (some_ : strings ≠ []) (few : strings.length < 2 ^ 31) :
    let r := d.readStrings (Platform.strndup16to8 P)
      (stringsPayload (wideTexts P (strings.map some)))
    r.Holding strings ∧ r.request = d.request ∧ r.token = d.token := by
  have wireList : ∀ s ∈ strings.map some, WireText s := by
    intro s member
    obtain ⟨text, inside, rfl⟩ := List.mem_map.mp member
    exact wire text inside
  have nonempty : strings.map some ≠ [] := fun empty => some_ (List.map_eq_nil_iff.mp empty)
  have fewList : (strings.map some).length < 2 ^ 31 := by rwa [List.length_map]
  rw [readStrings_payload d wireList nonempty fewList]
  exact ⟨⟨rfl, rfl⟩, rfl, rfl⟩

/-- Whatever the memory is like, a frame with its strings leaves them freed, and one without
reads behind them. -/
theorem processFrame_answered (d : Dialer) (request : StringsRequest) (token : Word)
    (sendable : (DialFrame.answered request token strings).Sendable) :
    ∃ d', d'.Owes ∧ d.processFrame (Platform.strndup16to8 P) hex
        ((DialFrame.answered request token strings).data P) =
      if (DialFrame.answered request token strings).used ≤ strings.length then some d'
      else none := by
  obtain ⟨wire, some_, few⟩ := sendable
  obtain ⟨holding, asks, tokenRead⟩ := readStrings_holding (P := P) { d with
    responseType := responseSolicited
    request := BitVec.ofNat 32 request.request.number
    token
    rErr := 0 } wire some_ few
  rw [DialFrame.data, processFrame_response]
  generalize Dialer.readStrings _ _ _ = r at *
  obtain ⟨r', holding', succeeded⟩ := holding.responseSucceeded hex asks
  obtain ⟨d', freed, owes⟩ := holding'.freeStrings some_ few
  refine ⟨d', owes, ?_⟩
  rw [succeeded, tokenRead]
  split_ifs
  · exact freed
  · rfl

/-- `RIL_UNSOL_NDIS_DIAL`. -/
theorem processFrame_connected (d : Dialer) (sendable : (DialFrame.connected strings).Sendable) :
    ∃ d', d'.Owes ∧ d.processFrame (Platform.strndup16to8 P) hex
      ((DialFrame.connected strings).data P) = some d' := by
  obtain ⟨wire, some_, few⟩ := sendable
  obtain ⟨holding, -⟩ := readStrings_holding (P := P) { d with
    responseType := responseUnsolicited
    request := BitVec.ofInt 32 rilUnsolNdisDial } wire some_ few
  rw [DialFrame.data, processFrame_unsolicited]
  dsimp only
  rw [if_pos rfl]
  generalize Dialer.readStrings _ _ _ = r at *
  obtain ⟨d', freed, owes⟩ := (holding.signal .apn).freeStrings some_ few
  refine ⟨d', owes, ?_⟩
  simp only [Option.bind_eq_bind, holding.printable_bind, List.length_pos_iff.mpr some_, if_true]
  exact freed

omit [TextPlatform P] in
/-- Any other message frees what `pStrings` still says. -/
theorem processFrame_notice (d : Dialer) {unsolResponse : Word} {payload : List UInt8}
    (other : unsolResponse ≠ BitVec.ofInt 32 rilUnsolNdisDial) :
    d.processFrame (Platform.strndup16to8 P) hex
        ((DialFrame.notice unsolResponse payload other).data P) =
      ({ d with responseType := responseUnsolicited, request := unsolResponse } :
        Dialer).freeStrings := by
  rw [DialFrame.data, processFrame_unsolicited]
  dsimp only
  rw [if_neg other]

omit [TextPlatform P] in
/-- A response with an error leaves the strings alone. -/
theorem processFrame_failed (d : Dialer) (request : RilRequest) (token : Word) {e : Word}
    (payload : List UInt8) (error : e ≠ 0) :
    ∃ d', d'.pStrings = d.pStrings ∧ d'.countStrings = d.countStrings ∧
      d.processFrame (Platform.strndup16to8 P) hex
        ((DialFrame.failed request token e payload error).data P) = some d' := by
  have solicited : ¬ responseSolicited = responseUnsolicited := by decide
  refine ⟨({ d with
    responseType := responseSolicited
    request := BitVec.ofNat 32 request.number
    token
    rErr := e } : Dialer).responseFailed, ?_, ?_, ?_⟩
  · unfold responseFailed
    split_ifs <;> rfl
  · unfold responseFailed
    split_ifs <;> rfl
  · unfold processFrame DialFrame.data frameHeader responseHeader
    simp only [List.append_assoc, readInt32Into_word, solicited, if_false, if_true, ne_eq, error,
      not_false_eq_true]

theorem readPointers_nil (strndup16to8 : List Char16 → CString) (count : Nat) :
    readPointers strndup16to8 count [] = List.replicate count .null := by
  induction count with
  | zero => rfl
  | succ count inductionHypothesis =>
      have starved : Unread.readString16Inplace [] = (none, []) := rfl
      rw [readPointers, starved]
      dsimp only
      rw [inductionHypothesis]
      rfl

/-- Without a count and without strings, nothing but NULL is said. -/
theorem readStrings_nil {r : Dialer} (kept : r.Clear ∨ r.Owes)
    (strndup16to8 : List Char16 → CString) :
    (r.readStrings strndup16to8 []).Clear ∧
      (r.readStrings strndup16to8 []).request = r.request := by
  have starved : readInt32Into r.countStrings [] = (r.countStrings, []) := rfl
  unfold Dialer.readStrings
  rw [starved]
  dsimp only
  split_ifs with positive
  · refine ⟨?_, rfl⟩
    intro pStrings stored
    obtain rfl := Option.some.inj stored
    rw [readPointers_nil]
    exact ⟨fun pointer member => List.eq_of_mem_replicate member, by simp⟩
  · refine ⟨?_, rfl⟩
    rcases kept with clear | ⟨count, some_, -, size⟩
    · exact clear
    · omega

omit [TextPlatform P] in
/-- The response to `RIL_REQUEST_NDIS_DIAL` has no count, so that many strings are NULL as
were read before. -/
theorem processFrame_dialed {d : Dialer} (kept : d.Clear ∨ d.Owes) (token : Word) :
    ∃ d', d'.Clear ∧ d.processFrame (Platform.strndup16to8 P) hex
      ((DialFrame.dialed token).data P) = some d' := by
  have response := processFrame_response d (Platform.strndup16to8 P) hex .ndisDial token []
  rw [List.append_nil] at response
  rw [DialFrame.data, response]
  generalize dialer : ({ d with
    responseType := responseSolicited
    request := BitVec.ofNat 32 RilRequest.ndisDial.number
    token
    rErr := 0 } : Dialer) = r
  have asks : r.Asks .ndisDial := by subst dialer; rfl
  have keptRead : r.Clear ∨ r.Owes := by subst dialer; exact kept
  obtain ⟨clear, same⟩ := readStrings_nil keptRead (Platform.strndup16to8 P)
  generalize r.readStrings (Platform.strndup16to8 P) [] = read at clear same ⊢
  refine ⟨read, clear, ?_⟩
  have number : read.Asks .ndisDial := same.trans asks
  have others : ¬ read.Asks .pscsBindState ∧ ¬ read.Asks .pdpAddr ∧ ¬ read.Asks .dhcpInfo := by
    unfold Asks at number ⊢
    rw [number]
    decide
  unfold Dialer.responseSucceeded
  rw [if_neg others.1, if_neg others.2.1, if_neg others.2.2, Option.bind_some]
  exact clear.freeStrings

/-! ### A session -/

/-- **Step lemma.** A frame is processed exactly where it is safe, and the memory is then as
it is behind that frame. -/
theorem processFrame_step {d : Dialer} {owes : Bool} (keeps : d.Keeps owes) (frame : DialFrame)
    (sendable : frame.Sendable) :
    (frame.Safe owes → ∃ d', d'.Keeps (frame.owes owes) ∧
        d.processFrame (Platform.strndup16to8 P) hex (frame.data P) = some d') ∧
      (¬ frame.Safe owes →
        d.processFrame (Platform.strndup16to8 P) hex (frame.data P) = none) := by
  have kept : d.Clear ∨ d.Owes := by
    cases owes with
    | false => exact Or.inl keeps
    | true => exact Or.inr keeps
  cases frame with
  | notice unsolResponse payload other =>
      rw [processFrame_notice hex d other]
      cases owes with
      | false =>
          have clear : ({ d with responseType := responseUnsolicited, request := unsolResponse } :
              Dialer).Clear := keeps
          refine ⟨fun _ => ⟨_, clear, clear.freeStrings⟩, fun refused => absurd ?_ refused⟩
          exact ⟨Nat.zero_le _, fun _ => rfl⟩
      | true =>
          have owes : ({ d with responseType := responseUnsolicited, request := unsolResponse } :
              Dialer).Owes := keeps
          exact ⟨fun safe => absurd (safe.2 trivial) (by decide), fun _ => owes.freeStrings⟩
  | connected strings =>
      obtain ⟨d', owes', processed⟩ := processFrame_connected (P := P) hex d sendable
      refine ⟨fun _ => ⟨d', owes', processed⟩, fun refused => absurd ?_ refused⟩
      exact ⟨Nat.zero_le _, False.elim⟩
  | failed request token e payload error =>
      obtain ⟨d', pStrings, countStrings, processed⟩ :=
        processFrame_failed (P := P) hex d request token payload error
      refine ⟨fun _ => ⟨d', ?_, processed⟩, fun refused => absurd ?_ refused⟩
      · unfold Keeps Clear Owes at keeps ⊢
        rw [pStrings, countStrings]
        exact keeps
      · exact ⟨Nat.zero_le _, False.elim⟩
  | dialed token =>
      obtain ⟨d', clear, processed⟩ := processFrame_dialed (P := P) hex kept token
      refine ⟨fun _ => ⟨d', clear, processed⟩, fun refused => absurd ?_ refused⟩
      exact ⟨Nat.zero_le _, False.elim⟩
  | answered request token strings =>
      obtain ⟨d', owes', processed⟩ :=
        processFrame_answered (P := P) hex d request token sendable
      constructor
      · intro safe
        have enough : (DialFrame.answered request token strings).used ≤ strings.length := safe.1
        rw [if_pos enough] at processed
        exact ⟨d', owes', processed⟩
      · intro refused
        have missing : ¬ (DialFrame.answered request token strings).used ≤ strings.length :=
          fun enough => refused ⟨enough, False.elim⟩
        rw [if_neg missing] at processed
        exact processed

/-- The reader takes the frames one after another. -/
def process (P : Type) [Platform P] (hex : Nat → Word) (d : Dialer)
    (frame : {frame : DialFrame // frame.Sendable}) : Option Dialer :=
  d.processFrame (Platform.strndup16to8 P) hex (frame.val.data P)

/-- The reader at its start. -/
def fresh : Dialer := ⟨0, 0, 0, 0, 0, none, false, none, []⟩

/-- The answer to `ps_bind`, and then a signal strength. -/
def bindThenSignal : List {frame : DialFrame // frame.Sendable} :=
  [⟨.answered .pscsBindState 0 [ascii "1", ascii "1"], by
      refine ⟨?_, by decide, by decide⟩
      intro s member text same
      obtain rfl := Option.some.inj same
      have one : s = ascii "1" := by simpa using member
      rw [one]
      exact ⟨by decide, by decide⟩⟩,
    ⟨.notice (BitVec.ofInt 32 rilUnsolSignalStrength) [] (by decide), trivial⟩]

end Frames

end Dialer

end RildHisi.RilTest
