import RildHisi.Libril.LedgerRefinement

/-!
Owns the frames `RIL_onRequestComplete` sends: what stands in them for every command
and every response, and when one is sent at all.

The error path of `RIL_onRequestComplete` overwrites one word of a parcel it does not
truncate. That leaves no stale bytes because none of the response functions in
`s_commands` fails after it has written (`marshal_failed`).
-/

namespace RildHisi.Libril

open RildHisi.Library

/-! ### Writes at the end of a parcel -/

section Appending

variable (P : Type) [Platform P]

/-- A parcel whose writes of bytes and strings of these sizes do not fail. -/
class AppendingPlatform : Prop extends LawfulPlatform P where
  write (p : P) (bytes : List UInt8) (short : bytes.length < 2 ^ 31) :
    Platform.data (Platform.write p bytes) =
        storeAt (Platform.data p) (Platform.dataPosition p) (padBytes bytes) ∧
      Platform.dataPosition (Platform.write p bytes) =
        Platform.dataPosition p + (padBytes bytes).length
  writeString16 (p : P) (text : Option (List Char16)) (short : ∀ chars ∈ text, chars.length < 2 ^ 29) :
    Platform.data (Platform.writeString16 p text) =
        storeAt (Platform.data p) (Platform.dataPosition p) (string16Bytes text) ∧
      Platform.dataPosition (Platform.writeString16 p text) =
        Platform.dataPosition p + (string16Bytes text).length

instance : AppendingPlatform ByteParcel where
  write _ _ _ := ⟨rfl, rfl⟩
  writeString16 _ _ _ := ⟨rfl, rfl⟩

/-- The bytes a write puts into a parcel. -/
def ParcelWrite.encoded : ParcelWrite → List UInt8
  | int32 word => wordBytes word
  | bytes data => padBytes data
  | string s => string16Bytes (s.map (Platform.strdup8to16 P))

/-- The write is of a size that does not fail. -/
def ParcelWrite.Fits : ParcelWrite → Prop
  | int32 _ => True
  | bytes data => data.length < 2 ^ 31
  | string s => ∀ chars ∈ s.map (Platform.strdup8to16 P), chars.length < 2 ^ 29

end Appending

section Frames

variable {P : Type} [Platform P]

/-- The parcel holds these bytes, and the position is behind them. -/
def HoldsBytes (p : P) (bytes : List UInt8) : Prop :=
  Platform.data p = bytes ∧ Platform.dataPosition p = bytes.length

theorem storeAt_end (data bytes : List UInt8) : storeAt data data.length bytes = data ++ bytes := by
  simp [storeAt]

theorem HoldsBytes.write [AppendingPlatform P] {p : P} {bytes : List UInt8}
    (holds : HoldsBytes p bytes) {write : ParcelWrite} (fits : write.Fits P) :
    HoldsBytes (write.apply p) (bytes ++ write.encoded P) := by
  obtain ⟨data, position⟩ := holds
  cases write with
  | int32 word => exact writeInt32_at_end word ⟨data, position⟩
  | bytes content =>
      obtain ⟨stored, behind⟩ := AppendingPlatform.write p content fits
      rw [data, position, storeAt_end] at stored
      rw [position, ← List.length_append] at behind
      exact ⟨stored, behind⟩
  | string s =>
      obtain ⟨stored, behind⟩ := AppendingPlatform.writeString16 p _ fits
      rw [data, position, storeAt_end] at stored
      rw [position, ← List.length_append] at behind
      exact ⟨stored, behind⟩

theorem HoldsBytes.writes [AppendingPlatform P] {writes : List ParcelWrite} {p : P}
    {bytes : List UInt8} (holds : HoldsBytes p bytes) (fits : ∀ write ∈ writes, write.Fits P) :
    HoldsBytes (writes.foldl ParcelWrite.apply p)
      (bytes ++ writes.flatMap (ParcelWrite.encoded P)) := by
  induction writes generalizing p bytes with
  | nil => simpa using holds
  | cons write writes inductionHypothesis =>
      have rest := inductionHypothesis (holds.write (fits write List.mem_cons_self))
        fun later member => fits later (List.mem_cons_of_mem _ member)
      rw [List.flatMap_cons, ← List.append_assoc]
      exact rest

/-! ### Response functions -/

/-- Where the function fails it has written nothing. -/
def FailsClean (result : Marshalled) : Prop :=
  ∀ writes ret, result = some (writes, ret) → ret = 0 ∨ ret = rilErrnoInvalidResponse ∧ writes = []

theorem failsClean_none : FailsClean none := nofun

theorem failsClean_invalidResponse : FailsClean invalidResponse := by
  rintro writes ret same
  obtain ⟨rfl, rfl⟩ := Prod.mk.inj (Option.some.inj same)
  exact Or.inr ⟨rfl, rfl⟩

theorem failsClean_success (writes : List ParcelWrite) : FailsClean (some (writes, 0)) := by
  rintro writes' ret same
  exact Or.inl (Prod.mk.inj (Option.some.inj same)).2.symm

theorem failsClean_ite {condition : Prop} [Decidable condition] {first second : Marshalled}
    (yes : FailsClean first) (no : FailsClean second) :
    FailsClean (if condition then first else second) := by
  split_ifs
  · exact yes
  · exact no

theorem failsClean_countedArray (response : Option Pointee) (num : Nat)
    (each : Pointee → Nat → List ParcelWrite) : FailsClean (countedArray response num each) := by
  cases response with
  | none => exact failsClean_ite failsClean_none (failsClean_success _)
  | some pointee => exact failsClean_success _

/-- **No response function fails after it has written.** -/
theorem marshal_failsClean (function : ResponseFunction) (abi : Abi) (response : Option Pointee)
    (responselen version : Nat) :
    FailsClean (function.marshal abi response responselen version) := by
  have array {invalid : Bool} {num : Nat} {each : Pointee → Nat → List ParcelWrite} :
      FailsClean (if invalid then invalidResponse else countedArray response num each) :=
    failsClean_ite failsClean_invalidResponse (failsClean_countedArray response num each)
  cases function with
  | responseInts | responseCallList | responseCallForwards | responseDataCallList
  | responseCellList => exact array
  | responseStrings =>
      apply failsClean_ite failsClean_invalidResponse
      cases response <;> exact failsClean_success _
  | responseString | responseVoid => exact failsClean_success _
  | responseSms | responseSimIo =>
      cases response with
      | none => exact failsClean_invalidResponse
      | some pointee => exact failsClean_ite failsClean_invalidResponse (failsClean_success _)
  | responseRaw =>
      cases response with
      | none => exact failsClean_ite failsClean_invalidResponse (failsClean_success _)
      | some pointee => exact failsClean_success _
  | responseSimStatus =>
      apply failsClean_ite failsClean_invalidResponse
      cases response with
      | none => exact failsClean_none
      | some pointee => exact failsClean_success _
  | responseGsmBrSmsCnf | responseCdmaBrSmsCnf => exact failsClean_countedArray _ _ _
  | responseRilSignalStrength =>
      refine failsClean_ite failsClean_invalidResponse (failsClean_ite ?_ (failsClean_ite ?_
        failsClean_invalidResponse))
      · cases response with
        | none => exact failsClean_none
        | some pointee => exact failsClean_success _
      · cases response <;> exact failsClean_success _

/-- A response that is not NULL is not read through NULL. -/
theorem marshal_isSome (function : ResponseFunction) (abi : Abi) (pointee : Pointee)
    (responselen version : Nat) :
    (function.marshal abi (some pointee) responselen version).isSome = true := by
  have array {invalid : Bool} {num : Nat} {each : Pointee → Nat → List ParcelWrite} :
      (if invalid then invalidResponse else countedArray (some pointee) num each).isSome = true := by
    cases invalid <;> rfl
  cases function with
  | responseInts | responseCallList | responseCallForwards | responseDataCallList
  | responseCellList => exact array
  | responseString | responseVoid | responseRaw | responseGsmBrSmsCnf | responseCdmaBrSmsCnf => rfl
  | _ =>
      simp only [ResponseFunction.marshal, responseStrings, responseSms, responseSimIo,
        responseSimStatus, responseRilSignalStrength]
      split_ifs <;> rfl

/-! ### The frame of a response -/

/-- The four words a response begins with. -/
def frameHeader (request : RilRequest) (token status : Word) : List UInt8 :=
  responseHeader request token ++ wordBytes status

theorem frameHeader_length (request : RilRequest) (token status : Word) :
    (frameHeader request token status).length = 16 := rfl

/-- The parcel a response function writes to. -/
def headerParcel (P : Type) [Platform P] (pRI : RequestInfo) (e : Word) : P :=
  Platform.writeInt32 (Platform.writeInt32 (Platform.writeInt32 (Platform.writeInt32
    (Platform.new : P) responseSolicited) (BitVec.ofNat 32 pRI.pCI.requestNumber.number))
    pRI.token) e

variable [LawfulPlatform P]

theorem headerParcel_holds (pRI : RequestInfo) (e : Word) :
    HoldsBytes (headerParcel P pRI e) (frameHeader pRI.pCI.requestNumber pRI.token e) := by
  obtain ⟨data, position⟩ := header_written P pRI.pCI.requestNumber pRI.token
  exact writeInt32_at_end e ⟨data, position⟩

/-- What the writes of a response function put behind the header. -/
def payloadOf (P : Type) [Platform P] (pRI : RequestInfo) (e : Word) (writes : List ParcelWrite) :
    List UInt8 :=
  (Platform.data (writes.foldl ParcelWrite.apply (headerParcel P pRI e))).drop 16

/-- A response of NULL is two zeros. -/
theorem responseParcel_none (version : Nat) (pRI : RequestInfo) (e : Word) (responselen : Nat) :
    Platform.data (responseParcel P version pRI e none responselen) =
      frameHeader pRI.pCI.requestNumber pRI.token e ++ (wordBytes 0 ++ wordBytes 0) := by
  rw [← List.append_assoc]
  exact (writeInt32_at_end 0 (writeInt32_at_end 0 (headerParcel_holds pRI e))).1

omit [LawfulPlatform P] in
/-- A response function that succeeds writes behind the header. -/
theorem responseParcel_marshalled {version : Nat} {pRI : RequestInfo} {e : Word}
    {pointee : Pointee} {responselen : Nat} {writes : List ParcelWrite}
    (marshals : pRI.pCI.responseFunction.marshal (Platform.abi P) (some pointee) responselen
      version = some (writes, 0)) :
    responseParcel P version pRI e (some pointee) responselen =
      writes.foldl ParcelWrite.apply (headerParcel P pRI e) := by
  unfold responseParcel
  simp only [marshals]
  rw [if_neg (by simp)]
  rfl

/-- A response function that succeeds has its writes behind the header. -/
theorem responseParcel_success {version : Nat} {pRI : RequestInfo} {e : Word} {pointee : Pointee}
    {responselen : Nat} {writes : List ParcelWrite}
    (marshals : pRI.pCI.responseFunction.marshal (Platform.abi P) (some pointee) responselen
      version = some (writes, 0)) :
    Platform.data (responseParcel P version pRI e (some pointee) responselen) =
      frameHeader pRI.pCI.requestNumber pRI.token e ++ payloadOf P pRI e writes := by
  have holds := headerParcel_holds (P := P) pRI e
  have front : StandsBefore (frameHeader pRI.pCI.requestNumber pRI.token e)
      (headerParcel P pRI e) := ⟨holds.2.ge, holds.1 ▸ List.prefix_refl _⟩
  obtain ⟨payload, same⟩ := (front.writes writes).2
  rw [responseParcel_marshalled marshals]
  unfold payloadOf
  rw [← same, ← frameHeader_length pRI.pCI.requestNumber pRI.token e, List.drop_left]

/-- A response function that fails leaves nothing but the header, with its error. -/
theorem responseParcel_failed {version : Nat} {pRI : RequestInfo} {e : Word} {pointee : Pointee}
    {responselen : Nat} {writes : List ParcelWrite} {ret : Word}
    (marshals : pRI.pCI.responseFunction.marshal (Platform.abi P) (some pointee) responselen
      version = some (writes, ret)) (failed : ret ≠ 0) :
    Platform.data (responseParcel P version pRI e (some pointee) responselen) =
      frameHeader pRI.pCI.requestNumber pRI.token ret := by
  obtain ⟨-, rfl⟩ := (marshal_failsClean _ _ _ _ _ writes ret marshals).resolve_left failed
  obtain ⟨data, position⟩ := header_written P pRI.pCI.requestNumber pRI.token
  obtain ⟨stored, -⟩ := headerParcel_holds (P := P) pRI e
  have shape : responseParcel P version pRI e (some pointee) responselen =
      Platform.writeInt32 (Platform.setDataPosition (headerParcel P pRI e) 12) ret := by
    unfold responseParcel
    simp only [marshals]
    rw [if_pos failed, position]
    rfl
  rw [shape, LawfulPlatform.data_writeInt32, LawfulPlatform.data_setDataPosition,
    LawfulPlatform.dataPosition_setDataPosition _ _ (by rw [stored, frameHeader_length]; decide),
    stored]
  simp [storeAt, frameHeader, responseHeader, wordBytes]

omit [LawfulPlatform P] in
/-- The payload is the encodings of the writes, one behind the other. -/
theorem payloadOf_eq [AppendingPlatform P] (pRI : RequestInfo) (e : Word)
    {writes : List ParcelWrite} (fits : ∀ write ∈ writes, write.Fits P) :
    payloadOf P pRI e writes = writes.flatMap (ParcelWrite.encoded P) := by
  have holds := (headerParcel_holds (P := P) pRI e).writes fits
  unfold payloadOf
  rw [holds.1, ← frameHeader_length pRI.pCI.requestNumber pRI.token e, List.drop_left]

/-- The data of a response, for each thing the response function may come to. -/
structure RespondsAs (P : Type) [Platform P] (version : Nat) (pRI : RequestInfo) (e : Word)
    (response : Option Pointee) (responselen : Nat) (data : List UInt8) : Prop where
  null : response = none →
    data = frameHeader pRI.pCI.requestNumber pRI.token e ++ (wordBytes 0 ++ wordBytes 0)
  success : ∀ pointee writes, response = some pointee →
    pRI.pCI.responseFunction.marshal (Platform.abi P) response responselen version =
      some (writes, 0) →
    data = frameHeader pRI.pCI.requestNumber pRI.token e ++ payloadOf P pRI e writes ∧
      ((∀ write ∈ writes, write.Fits P) →
        payloadOf P pRI e writes = writes.flatMap (ParcelWrite.encoded P))
  failure : ∀ pointee writes ret, response = some pointee →
    pRI.pCI.responseFunction.marshal (Platform.abi P) response responselen version =
      some (writes, ret) → ret ≠ 0 →
    data = frameHeader pRI.pCI.requestNumber pRI.token ret
  total : ∀ pointee, response = some pointee →
    (pRI.pCI.responseFunction.marshal (Platform.abi P) response responselen version).isSome = true

omit [LawfulPlatform P] in
/-- Every response parcel is of that shape, for every command there is. -/
theorem responseParcel_respondsAs [AppendingPlatform P] (version : Nat) (pRI : RequestInfo)
    (e : Word) (response : Option Pointee) (responselen : Nat) :
    RespondsAs P version pRI e response responselen
      (Platform.data (responseParcel P version pRI e response responselen)) where
  null := by
    rintro rfl
    exact responseParcel_none version pRI e responselen
  success := by
    rintro pointee writes rfl marshals
    exact ⟨responseParcel_success marshals, payloadOf_eq pRI e⟩
  failure := by
    rintro pointee writes ret rfl marshals failed
    exact responseParcel_failed marshals failed
  total := by
    rintro pointee rfl
    exact marshal_isSome _ _ _ _ _

omit [LawfulPlatform P] in
/-- What completing a pending request comes to: nothing is sent where its response is
dropped, there is no client or the data is too long, and else one frame. -/
theorem Tracks.complete_pending {s : State} {l : Ledger} (tracks : Tracks s l) {t : Nat}
    (pending : t ∈ s.pending) (version : Nat) (e : Word) (response : Option Pointee)
    (responselen : Nat) (script : List WriteOutcome) :
    ∃ (pRI : RequestInfo) (data : List UInt8), s.heap t = some pRI ∧
      data = Platform.data (responseParcel P version pRI e response responselen) ∧
      ((pRI.isLocal = true ∨ pRI.cancelled = true ∨ s.client = none ∨
            maxCommandBytes < data.length) ∧
          (s.rilOnRequestComplete P version t e response responselen script).frames = s.frames ∨
        pRI.isLocal = false ∧ pRI.cancelled = false ∧ data.length ≤ maxCommandBytes ∧
          ∃ connection taken, s.client = some connection ∧
            (s.rilOnRequestComplete P version t e response responselen script).frames =
              s.frames ++ [⟨connection, data, taken⟩] ∧
            (takesFrame script data = true → taken = htonl data.length ++ data)) := by
  rw [tracks.pending] at pending
  obtain ⟨front, entry, back, shape, rfl, -⟩ := Ledger.first_outstanding pending
  obtain ⟨heap, head, info, dequeues, stored, before, -⟩ := tracks.dequeued shape
  refine ⟨info, _, before, rfl, ?_⟩
  unfold State.rilOnRequestComplete
  simp only [dequeues, Bool.not_true, Bool.false_eq_true, if_false, stored]
  generalize Platform.data (responseParcel P version info e response responselen) = data
  have client : ({ s with heap := heap, pendingRequests := head } : State).client = s.client := rfl
  by_cases dropped : (info.isLocal || info.cancelled) = true
  · rw [if_pos dropped]
    exact Or.inl ⟨by simp only [Bool.or_eq_true] at dropped; tauto, rfl⟩
  rw [if_neg dropped]
  obtain ⟨fromClient, current⟩ : info.isLocal = false ∧ info.cancelled = false := by
    simpa using dropped
  by_cases fits : data.length ≤ maxCommandBytes
  case neg =>
    rw [State.sendResponseRaw_refused (Or.inr (not_le.mp fits))]
    exact Or.inl ⟨Or.inr (Or.inr (Or.inr (not_le.mp fits))), rfl⟩
  cases open' : s.client with
  | none =>
      rw [State.sendResponseRaw_refused (Or.inl (client.trans open'))]
      exact Or.inl ⟨Or.inr (Or.inr (Or.inl rfl)), rfl⟩
  | some connection =>
      obtain ⟨taken, sent, whole⟩ := State.sendResponseRaw_tried (client.trans open') fits script
      rw [sent]
      exact Or.inr ⟨fromClient, current, fits, connection, taken, rfl, rfl, whole⟩

theorem tracks_of_run {version : Nat} {events : List Event} {s : State}
    (ran : Library.run (step P version) .initial events = some s) :
    Tracks s (Ledger.after events) := tracks_initial.run P version ran

omit [LawfulPlatform P] in
/-- **The frames of responses**: in every run a pending request that is completed is sent
at most one frame, and it is the four words and the payload the response calls for. It is
sent one where a client is connected that waits for it and the frame is not too long. -/
theorem frame_of_run [AppendingPlatform P] {version : Nat} {events : List Event} {s : State}
    (ran : Library.run (step P version) .initial events = some s) {t : Nat}
    (pending : t ∈ s.pending) (e : Word) (response : Option Pointee) (responselen : Nat)
    (script : List WriteOutcome) :
    ∃ pRI sent, s.heap t = some pRI ∧
      (s.rilOnRequestComplete P version t e response responselen script).frames =
        s.frames ++ sent ∧ sent.length ≤ 1 ∧
      (∀ frame ∈ sent, pRI.isLocal = false ∧ pRI.cancelled = false ∧
        RespondsAs P version pRI e response responselen frame.data) ∧
      (pRI.isLocal = false → pRI.cancelled = false → s.client.isSome = true →
        (Platform.data (responseParcel P version pRI e response responselen)).length ≤
          maxCommandBytes → sent ≠ []) := by
  obtain ⟨pRI, data, stored, content, outcome⟩ :=
    (tracks_of_run ran).complete_pending (P := P) pending version e response responselen script
  have shape := responseParcel_respondsAs (P := P) version pRI e response responselen
  rw [← content] at shape
  rcases outcome with ⟨refused, same⟩ | ⟨fromClient, current, fits, connection, taken, -, more, -⟩
  · refine ⟨pRI, [], stored, by rw [same]; simp, by simp, nofun, ?_⟩
    intro fromClient current client fits
    rcases refused with local' | cancelled | noClient | large
    · rw [local'] at fromClient
      cases fromClient
    · rw [cancelled] at current
      cases current
    · rw [noClient] at client
      cases client
    · rw [← content] at fits
      exact absurd fits (not_le.mpr large)
  · refine ⟨pRI, [⟨connection, data, taken⟩], stored, more, by simp, ?_, by simp⟩
    rintro frame member
    rw [List.mem_singleton.mp member]
    exact ⟨fromClient, current, shape⟩

/-- A client that waits for its IMSI. -/
def imsiEvents : List Event :=
  [.clientConnect 5 4 [] [], .processCommandBuffer (wordBytes 11 ++ wordBytes 7) 16]

theorem frame_imsiEvents : ∃ s, Library.run (step ByteParcel 3) .initial imsiEvents = some s ∧
    ∃ pRI sent, s.heap 16 = some pRI ∧
      (s.rilOnRequestComplete ByteParcel 3 16 0 none 0 []).frames = s.frames ++ sent ∧
        sent.length ≤ 1 ∧
      (∀ frame ∈ sent, pRI.isLocal = false ∧ pRI.cancelled = false ∧
        RespondsAs ByteParcel 3 pRI 0 none 0 frame.data) ∧
      (pRI.isLocal = false → pRI.cancelled = false → s.client.isSome = true →
        (Platform.data (responseParcel ByteParcel 3 pRI 0 none 0)).length ≤ maxCommandBytes →
          sent ≠ []) := by
  have ends : (Library.run (step ByteParcel 3) .initial imsiEvents).any
      (fun s => decide (16 ∈ s.pending)) = true := by decide +kernel
  obtain ⟨s, ran, pending⟩ := (Option.any_eq_true _ _).mp ends
  exact ⟨s, ran, frame_of_run ran (of_decide_eq_true pending) 0 none 0 []⟩

end Frames

end RildHisi.Libril
