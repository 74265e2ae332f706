import RildHisi.Daemon.Serving
import RildHisi.Libril.Strings

/-!
Owns the frames of the responses that are arrays, with what the array holds in front of the
memory behind it: strings, and calls.
-/

namespace RildHisi.Daemon

open RildHisi.Library RildHisi.Libril

/-! ### Arrays -/

theorem range_map_arrayOf {α : Type} (entries : List α) (beyond : Nat → α) :
    (List.range entries.length).map (arrayOf entries beyond) = entries := by
  apply List.ext_getElem
  · simp
  · intro i inside _
    rw [List.length_map, List.length_range] at inside
    simp [arrayOf, inside]

/-- The writes of an array are its count, and those of its entries. -/
theorem encoded_counted_arrayOf (P : Type) [Platform P] {α : Type} (entries : List α)
    (beyond : Nat → α) (each : α → List ParcelWrite) (few : entries.length < 2 ^ 31) :
    (counted entries.length fun i => each (arrayOf entries beyond i)).flatMap
        (ParcelWrite.encoded P) =
      wordBytes (BitVec.ofNat 32 entries.length) ++
        entries.flatMap fun entry => (each entry).flatMap (ParcelWrite.encoded P) := by
  have inner : (List.range entries.length).flatMap (fun i => each (arrayOf entries beyond i)) =
      entries.flatMap each := by
    rw [← List.flatMap_map, range_map_arrayOf]
  rw [counted_few few, inner, List.flatMap_cons, List.flatMap_assoc]
  rfl

theorem fits_counted_arrayOf (P : Type) [Platform P] {α : Type} {entries : List α}
    (beyond : Nat → α) {each : α → List ParcelWrite} (few : entries.length < 2 ^ 31)
    (fits : ∀ entry ∈ entries, ∀ write ∈ each entry, write.Fits P) :
    ∀ write ∈ counted entries.length (fun i => each (arrayOf entries beyond i)),
      write.Fits P := by
  intro write member
  rw [counted_few few, ← List.flatMap_map, range_map_arrayOf] at member
  rcases List.mem_cons.mp member with rfl | inside
  · trivial
  · obtain ⟨entry, present, written⟩ := List.mem_flatMap.mp inside
    exact fits entry present write written

/-! ### Strings -/

section Frames

variable {P : Type} [Platform P] [TextPlatform P]

/-- The data of a response of strings. -/
theorem responseParcel_strings (version : Nat) (pRI : RequestInfo)
    (function : pRI.pCI.responseFunction = .responseStrings) (e : Word) (memory : Pointee)
    {strings : List (Option CString)} (wire : ∀ s ∈ strings, WireText s)
    (few : strings.length < 2 ^ 31) :
    Platform.data (responseParcel P version pRI e (pointeeOf memory (.strings strings))
        (strings.length * (Platform.abi P).ptrSize) : P) =
      frameHeader pRI.pCI.requestNumber pRI.token e ++ stringsPayload (wideTexts P strings) := by
  have marshals := responseStrings_some (Platform.abi P)
    { memory with strings := arrayOf strings memory.strings } strings.length
  have fits : ∀ i, i < strings.length → WireText (arrayOf strings memory.strings i) := by
    intro i inside
    have entry : arrayOf strings memory.strings i = strings[i] := by simp [arrayOf, inside]
    rw [entry]
    exact wire _ (List.getElem_mem inside)
  have success : pRI.pCI.responseFunction.marshal (Platform.abi P)
      (some { memory with strings := arrayOf strings memory.strings })
      (strings.length * (Platform.abi P).ptrSize) version =
        some (counted strings.length fun i => [.string (arrayOf strings memory.strings i)], 0) := by
    rw [function]
    exact marshals
  show Platform.data (responseParcel P version pRI e
    (some { memory with strings := arrayOf strings memory.strings }) _ : P) = _
  rw [responseParcel_success success, payloadOf_eq pRI e (fits_counted_strings fits few),
    encoded_counted_strings _ few, range_map_arrayOf]

/-! ### Calls -/

/-- The writes of `responseCallList` for one call. -/
def callWrites (abi : Abi) (version : Nat) (pCur : RilCall) : List ParcelWrite :=
  [.int32 pCur.state, .int32 pCur.index, .int32 pCur.toa, .int32 pCur.isMpty, .int32 pCur.isMT,
    .int32 pCur.als, .int32 pCur.isVoice, .int32 pCur.isVoicePrivacy, .string pCur.number,
    .int32 pCur.numberPresentation, .string pCur.name, .int32 pCur.namePresentation] ++
    uusWrites abi version pCur.uusInfo

/-- The payload of a list of calls. -/
def callsPayload (P : Type) [Platform P] (version : Nat) (calls : List RilCall) : List UInt8 :=
  wordBytes (BitVec.ofNat 32 calls.length) ++ calls.flatMap fun call =>
    (callWrites (Platform.abi P) version call).flatMap (ParcelWrite.encoded P)

/-- A call without UUS information, with strings that a parcel takes. -/
structure PlainCall (call : RilCall) : Prop where
  number : WireText call.number
  name : WireText call.name
  noUus : call.uusInfo = none

theorem PlainCall.fits {call : RilCall} (plain : PlainCall call) (abi : Abi) (version : Nat) :
    ∀ write ∈ callWrites abi version call, write.Fits P := by
  intro write member
  unfold callWrites at member
  rw [plain.noUus] at member
  simp only [uusWrites, List.cons_append, List.nil_append, List.mem_cons, List.not_mem_nil,
    or_false] at member
  rcases member with rfl | rfl | rfl | rfl | rfl | rfl | rfl | rfl | rfl | rfl | rfl | rfl | rfl
  case inr.inr.inr.inr.inr.inr.inr.inr.inl => exact plain.number.short
  case inr.inr.inr.inr.inr.inr.inr.inr.inr.inr.inl => exact plain.name.short
  all_goals trivial

/-- The data of a response of calls. -/
theorem responseParcel_calls (version : Nat) (pRI : RequestInfo)
    (function : pRI.pCI.responseFunction = .responseCallList) (e : Word) (memory : Pointee)
    {calls : List RilCall} (plain : ∀ call ∈ calls, PlainCall call)
    (few : calls.length < 2 ^ 31) :
    Platform.data (responseParcel P version pRI e (pointeeOf memory (.calls calls))
        (calls.length * (Platform.abi P).ptrSize) : P) =
      frameHeader pRI.pCI.requestNumber pRI.token e ++ callsPayload P version calls := by
  have size : 0 < (Platform.abi P).ptrSize := by cases Platform.abi P <;> decide
  have success : pRI.pCI.responseFunction.marshal (Platform.abi P)
      (some { memory with calls := arrayOf calls memory.calls })
      (calls.length * (Platform.abi P).ptrSize) version =
        some (counted calls.length fun i => callWrites (Platform.abi P) version
          (arrayOf calls memory.calls i), 0) := by
    rw [function]
    show responseCallList _ _ _ _ = _
    unfold responseCallList invalidArray
    simp only [Option.isNone_some, Bool.false_and, Nat.mul_mod_left, ne_eq, not_true_eq_false,
      decide_false, Bool.or_false, Bool.false_eq_true, if_false, Nat.mul_div_cancel _ size]
    rfl
  show Platform.data (responseParcel P version pRI e
    (some { memory with calls := arrayOf calls memory.calls }) _ : P) = _
  rw [responseParcel_success success, payloadOf_eq pRI e (fits_counted_arrayOf P memory.calls few
    fun call member => (plain call member).fits _ version),
    encoded_counted_arrayOf P calls memory.calls _ few]
  rfl

end Frames

end RildHisi.Daemon
