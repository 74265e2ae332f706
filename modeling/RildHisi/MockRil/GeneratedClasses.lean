import RildHisi.MockRil.GeneratedMessages

/-!
Owns the classes of ril.pb.cpp, ctrl.pb.cpp and msgheader.pb.cpp, and the headers of the
control channel as messages of theirs.
-/

namespace RildHisi.MockRil.Generated

/-! ### ril.proto and ctrl.proto -/

/-- The positions in the masks of `IsInitialized`. -/
def RilMessage.required : RilMessage → List ℕ
  | .rspGetSimStatus => [0]
  | .reqEnterSimPin => [0]
  | .rspEnterSimPin => [0]
  | .reqHangUp => [0]
  | .rspLastCallFailCause => [0]
  | .reqSeparateConnection => [0]
  | .reqSetMute => [0]
  | .reqScreenState => [0]
  | .ctrlReqRadioState => [0]
  | .ctrlRspRadioState => [0]
  | .ctrlReqSetMTCall => [0]
  | .ctrlHangupConnRemote => [0, 1]
  | .ctrlSetCallTransitionFlag => [0]
  | .ctrlReqAddDialingCall => [0]
  | _ => []

/-- The class that a field holds messages of. -/
def messageType {ι : Type} (field : Field ι) : Option ι :=
  match field.type with
  | .message type => some type
  | _ => none

def rilClasses : Classes RilMessage where
  toSchema := rilSchema
  required := RilMessage.required
  fields_length := by
    intro type
    cases type <;> decide +kernel
  required_outermost := by
    intro type field member type' typed
    have inner : ∀ type' ∈ (rilSchema.fields type).filterMap messageType,
        RilMessage.required type' = [] := by
      cases type <;> decide +kernel
    exact inner type' (List.mem_filterMap.mpr ⟨field, member, by rw [messageType, typed]⟩)

/-! ### msgheader.proto -/

def headerFields : List (Field Unit) :=
  [⟨"cmd", false, .int .uint32⟩, ⟨"lengthData", false, .int .uint32⟩,
    ⟨"status", false, .int .uint32⟩, ⟨"token", false, .int .uint64⟩]

def headerClasses : Classes Unit where
  fields _ := headerFields
  names_nodup _ := by decide +kernel
  required _ := [0, 1]
  fields_length _ := by decide
  required_outermost _ field member type' typed := by
    have none' : headerFields.filterMap messageType = [] := rfl
    have isMessage : messageType field = some type' := by rw [messageType, typed]
    have inner := List.mem_filterMap.mpr ⟨field, member, isMessage⟩
    rw [none'] at inner
    cases inner

/-- `cmd()` and the others: a number that is not set is zero. -/
def numberOr0 {υ : Type} (elements : List (Proto υ)) : Int :=
  match elements.head? with
  | some (.number value) => value
  | _ => 0

/-- The header with its four fields set. -/
def headerProto {υ : Type} (header : MsgHeader) : Proto υ :=
  .message [[.number header.cmd.toNat], [.number header.lengthData.toNat],
    [.number header.status.toNat], [.number header.token.toNat]] []

/-- What the accessors bring. -/
def headerOf {υ : Type} (value : Proto υ) : MsgHeader :=
  let contents := Contents.ofProto value
  ⟨BitVec.ofInt 32 (numberOr0 (contents.elements 0)),
    BitVec.ofInt 32 (numberOr0 (contents.elements 1)),
    BitVec.ofInt 32 (numberOr0 (contents.elements 2)),
    BitVec.ofInt 64 (numberOr0 (contents.elements 3))⟩

theorem headerOf_headerProto {υ : Type} (header : MsgHeader) :
    headerOf (headerProto (υ := υ) header) = header := by
  show (⟨BitVec.ofInt 32 header.cmd.toNat, BitVec.ofInt 32 header.lengthData.toNat,
    BitVec.ofInt 32 header.status.toNat, BitVec.ofInt 64 header.token.toNat⟩ : MsgHeader) = header
  simp only [BitVec.ofInt_natCast, BitVec.ofNat_toNat, BitVec.setWidth_eq]

end RildHisi.MockRil.Generated
