import RildHisi.Library.Join
import RildHisi.ReferenceRil.FieldArrays

/-!
Owns the list that `requestOrSendDataCallList` reports: a join of the contexts that
`AT+CGACT?` lists with the details that `AT+CGDCONT?` gives, or a failure if a line of
either answer lacks a field that is needed.
-/

namespace RildHisi.ReferenceRil

open RildHisi.AtChannel RildHisi.Library RildHisi.Libril Handler

/-! ### Calls of libril -/

/-- A call that a handler makes. -/
inductive LibrilCall
  | onRequestComplete (completion : Completion)
  | effect (effect : Effect)

/-- All its calls, in order. -/
def Handler.librilCalls {α : Type} : Handler α → Surroundings → List LibrilCall
  | done _, _ => []
  | fault _, _ => []
  | send _ next, around => (next (around.answers 0)).librilCalls around.answered
  | readState next, around => (next (around.states 0)).librilCalls around.looked
  | openQmi next, around => (next around.qmi).librilCalls around
  | complete completion next, around => .onRequestComplete completion :: next.librilCalls around
  | perform effect next, around => .effect effect :: next.librilCalls around

/-! ### Lines -/

section Lines

variable (abi : Abi)

/-- A line of `AT+CGACT?`: cid and whether it is active. -/
def activeContext (line : CString) : Option (Word × Word) :=
  Tok.read line do
    Tok.start
    let cid ← Tok.nextint abi
    let active ← Tok.nextint abi
    pure (cid, active)

/-- The three fields behind the cid. -/
structure Details where
  type : Option CString
  apn : Option CString
  address : Option CString
  deriving DecidableEq

/-- A line of `AT+CGDCONT?`: the cid, and the details if that is listed. -/
def describedContext (listed : Word → Bool) (line : CString) : Option (Word × Option Details) :=
  Tok.read line do
    Tok.start
    let cid ← Tok.nextint abi
    if listed cid then
      let type ← Tok.nextstr
      let apn ← Tok.nextstr
      let address ← Tok.nextstr
      pure (cid, some ⟨type, apn, address⟩)
    else pure (cid, none)

/-- An entry of the list, with the details of one line. -/
def dataCalls : Keyed Word RilDataCallResponse Details where
  key := RilDataCallResponse.cid
  put details entry := { entry with
    type := details.type
    apn := details.apn
    address := details.address }
  key_put _ _ := rfl
  put_put _ _ _ := rfl

/-- An entry without details. -/
def emptyDataCall (context : Word × Word) : RilDataCallResponse :=
  ⟨context.1, context.2, some [], some [], some []⟩

/-- The lines with details. -/
def updates (described : List (Word × Option Details)) : List (Word × Details) :=
  described.filterMap fun line => line.2.map fun details => (line.1, details)

/-- The contexts with their details: an entry for each, with those of the last line whose first
match it is. -/
def joinedContexts (contexts : List (Word × Word)) (described : List (Word × Option Details)) :
    List RilDataCallResponse :=
  dataCalls.join (contexts.map emptyDataCall) (updates described)

/-- The cids that are listed. -/
def lists (contexts : List (Word × Word)) (cid : Word) : Bool := contexts.any (·.1 = cid)

/-- What is made of what the calls give. -/
theorem Tok.read_map {α β : Type} (line : CString) (calls : Tok α) (f : α → β) :
    Tok.read line (f <$> calls) = (Tok.read line calls).map f := by
  change ((calls (some line)).bind fun read => some (f read.1, read.2)).map Prod.fst = _
  cases came : calls (some line) <;> simp [Tok.read, came]

theorem mapM_map {α β γ : Type} (parse : α → Option β) (f : β → γ) (lines : List α) :
    (lines.mapM fun line => (parse line).map f) = (lines.mapM parse).map (List.map f) := by
  induction lines with
  | nil => rfl
  | cons line lines inductionHypothesis =>
      rw [List.mapM_cons, List.mapM_cons, inductionHypothesis]
      cases parse line with
      | none => rfl
      | some first => cases lines.mapM parse <;> rfl

theorem activeDataCalls_eq (lines : List CString) :
    activeDataCalls abi lines =
      (lines.mapM (activeContext abi)).map fun contexts => contexts.map emptyDataCall := by
  rw [← mapM_map]
  apply congrArg (List.mapM · lines)
  funext line
  rw [activeContext, ← Tok.read_map]
  simp only [map_bind, map_pure]
  rfl

/-- A line is put into the list as far as it is described. -/
theorem describeDataCall_eq (responses : List RilDataCallResponse) (line : CString) :
    describeDataCall abi responses line =
      (describedContext abi (fun cid => (dataCalls.firstMatch responses cid).isSome) line).map
        fun described => described.2.elim responses (dataCalls.update responses described.1) := by
  rw [describedContext, ← Tok.read_map, describeDataCall]
  apply congrArg (Tok.read line)
  simp only [map_bind]
  apply congrArg (Tok.start >>= ·)
  funext _
  apply congrArg (Tok.nextint abi >>= ·)
  funext cid
  cases found : dataCalls.firstMatch responses cid with
  | none =>
      have absent : responses.findIdx? (fun response => response.cid = cid) = none := found
      rw [absent]
      rfl
  | some i =>
      have present : responses.findIdx? (fun response => response.cid = cid) = some i := found
      rw [present]
      simp only [Option.isSome_some, if_true, map_bind, map_pure]
      simp only [Option.elim_some, Keyed.update, found]
      rfl

/-- The loop over the lines of `AT+CGDCONT?` is a join. -/
theorem foldlM_describeDataCall (lines : List CString) (responses : List RilDataCallResponse)
    (listed : Word → Bool)
    (same : ∀ cid, (dataCalls.firstMatch responses cid).isSome = listed cid) :
    lines.foldlM (describeDataCall abi) responses =
      (lines.mapM (describedContext abi listed)).map fun described =>
        dataCalls.join responses (updates described) := by
  simp only [← dataCalls.foldl_update]
  induction lines generalizing responses with
  | nil => rfl
  | cons line lines inductionHypothesis =>
      rw [List.foldlM_cons, List.mapM_cons, describeDataCall_eq]
      simp only [same]
      cases describedContext abi listed line with
      | none => rfl
      | some described =>
          obtain ⟨cid, details⟩ := described
          cases details with
          | none =>
              have rest := inductionHypothesis responses same
              simp only [Option.map_some, Option.elim_none, Option.bind_eq_bind, Option.bind_some,
                rest]
              cases lines.mapM (describedContext abi listed) <;> rfl
          | some details =>
              have rest := inductionHypothesis (dataCalls.update responses cid details)
                (by simpa only [dataCalls.firstMatch_update] using same)
              simp only [Option.map_some, Option.elim_some, Option.bind_eq_bind, Option.bind_some,
                rest]
              cases lines.mapM (describedContext abi listed) <;> rfl

theorem isSome_firstMatch (contexts : List (Word × Word)) (cid : Word) :
    (dataCalls.firstMatch (contexts.map emptyDataCall) cid).isSome = lists contexts cid := by
  simp only [Keyed.firstMatch, List.findIdx?_isSome, List.any_map, lists]
  rfl

end Lines

/-! ### The report -/

/-- The one call that reports something: to the request, or unsolicited. -/
def dataCallReport (t : Option Nat) (e : Word) (responses : ResponseData) (size : Nat) :
    LibrilCall :=
  match t with
  | some t => .onRequestComplete ⟨t, e, responses, size⟩
  | none => .effect (.onUnsolicitedResponse rilUnsolDataCallListChanged responses size)

theorem librilCalls_reportDataCallList (t : Option Nat) (e : Word) (responses : ResponseData)
    (size : Nat) (around : Surroundings) :
    (reportDataCallList t e responses size).librilCalls around =
      [dataCallReport t e responses size] := by
  cases t <;> rfl

theorem librilCalls_atSendCommandMultiline {β : Type} (command responsePrefix : CString)
    (next : AtResult → Handler β) (around : Surroundings) :
    (atSendCommandMultiline command responsePrefix >>= next).librilCalls around =
      (next (around.answers 0)).librilCalls around.answered := rfl

theorem answersBehind (around : Surroundings) :
    around.answered.answers 0 = around.answers 1 := rfl

/-- The report is made of what is read of the answers. -/
theorem librilCalls_requestOrSendDataCallList (abi : Abi) (t : Option Nat) {around : Surroundings}
    {active described : AtResponse} (first : (around.answers 0).succeeded = some active)
    (second : (around.answers 1).succeeded = some described) :
    (requestOrSendDataCallList abi t).librilCalls around =
      match active.pIntermediates.mapM (activeContext abi) with
      | none => [dataCallReport t rilEGenericFailure .null 0]
      | some contexts =>
          match described.pIntermediates.mapM (describedContext abi (lists contexts)) with
          | none => [dataCallReport t rilEGenericFailure .null 0]
          | some lines =>
              [dataCallReport t rilESuccess (.dataCalls (joinedContexts contexts lines))
                (contexts.length * abi.sizeofDataCallResponse)] := by
  have size (contexts : List (Word × Word)) (lines : List (Word × Option Details)) :
      (joinedContexts contexts lines).length = contexts.length := by
    simp [joinedContexts, Keyed.join]
  rw [requestOrSendDataCallList, librilCalls_atSendCommandMultiline, first]
  dsimp only
  rw [activeDataCalls_eq]
  cases active.pIntermediates.mapM (activeContext abi) with
  | none => exact librilCalls_reportDataCallList t _ _ _ _
  | some contexts =>
      rw [Option.map_some]
      dsimp only
      rw [librilCalls_atSendCommandMultiline, answersBehind, second]
      dsimp only
      rw [foldlM_describeDataCall abi _ _ (lists contexts) (isSome_firstMatch contexts)]
      cases described.pIntermediates.mapM (describedContext abi (lists contexts)) with
      | none => exact librilCalls_reportDataCallList t _ _ _ _
      | some lines =>
          rw [← size contexts lines]
          exact librilCalls_reportDataCallList t _ _ _ _

/-- A line that cannot be read stops the loop over the lines. -/
theorem mapM_eq_none {α β : Type} {parse : α → Option β} {lines : List α} {line : α}
    (member : line ∈ lines) (failed : parse line = none) : lines.mapM parse = none := by
  induction lines with
  | nil => cases member
  | cons other lines inductionHypothesis =>
      rw [List.mapM_cons]
      rcases List.mem_cons.mp member with rfl | later
      · rw [failed]
        rfl
      · rw [inductionHypothesis later]
        cases parse other <;> rfl

/-- **The data call list.** If the lines of both answers give what is needed of them, one entry is
reported for each context, in order, with the details of the last line whose first match it is;
if a line does not, one failure is reported and no list. -/
theorem requestOrSendDataCallList_joins (abi : Abi) (t : Option Nat) (around : Surroundings)
    (active described : AtResponse) (first : (around.answers 0).succeeded = some active)
    (second : (around.answers 1).succeeded = some described) :
    (∀ contexts lines, active.pIntermediates.mapM (activeContext abi) = some contexts →
        described.pIntermediates.mapM (describedContext abi (lists contexts)) = some lines →
        (requestOrSendDataCallList abi t).librilCalls around =
          [dataCallReport t rilESuccess (.dataCalls (joinedContexts contexts lines))
            (contexts.length * abi.sizeofDataCallResponse)]) ∧
      ((∃ line ∈ active.pIntermediates, activeContext abi line = none) ∨
          (∃ contexts, active.pIntermediates.mapM (activeContext abi) = some contexts ∧
            ∃ line ∈ described.pIntermediates,
              describedContext abi (lists contexts) line = none) →
        (requestOrSendDataCallList abi t).librilCalls around =
          [dataCallReport t rilEGenericFailure .null 0]) := by
  have report := librilCalls_requestOrSendDataCallList abi t first second
  constructor
  · intro contexts lines read details
    rw [report, read]
    dsimp only
    rw [details]
  · rintro (⟨line, member, failed⟩ | ⟨contexts, read, line, member, failed⟩)
    · rw [report, mapM_eq_none member failed]
    · rw [report, read]
      dsimp only
      rw [mapM_eq_none member failed]

/-- A modem that answers `AT+CGACT?` with one context and `AT+CGDCONT?` with its details. -/
def oneContext : Surroundings where
  answers
    | 0 => ⟨0, some ⟨true, none, [ascii "+CGACT: 1,1"]⟩, Or.inl ⟨rfl, rfl⟩⟩
    | _ => ⟨0, some ⟨true, none, [ascii "+CGDCONT: 1,\"IP\",\"net\",\"10.0.0.1\""]⟩, Or.inl ⟨rfl, rfl⟩⟩
  states := fun _ => .simReady
  qmi := none

theorem requestOrSendDataCallList_joins_oneContext :
    (requestOrSendDataCallList .lp64 none).librilCalls oneContext =
      [.effect (.onUnsolicitedResponse rilUnsolDataCallListChanged
        (.dataCalls [⟨1, 1, some (ascii "IP"), some (ascii "net"), some (ascii "10.0.0.1")⟩]) 32)] :=
  (requestOrSendDataCallList_joins .lp64 none oneContext _ _ rfl rfl).1 [(1, 1)]
    [(1, some ⟨some (ascii "IP"), some (ascii "net"), some (ascii "10.0.0.1")⟩)]
    (by decide) (by decide)

end RildHisi.ReferenceRil
