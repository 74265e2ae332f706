import RildHisi.Libril.Acceptance
import RildHisi.Libril.ResponseFrames

/-!
Owns what becomes of a completed request whose client is still there: it is answered
exactly where its response parcel is within the limit `sendResponseRaw` checks. The limit
on requests is the same number, and does not keep the echo of `OEM_HOOK_RAW` within it.
-/

namespace RildHisi.Libril

open RildHisi.Library

section Limits

variable {P : Type} [Platform P] [LawfulPlatform P] {s s' : State} {l : Ledger} {connection : Nat}

/-- From `s` to `s'` one frame was sent on the connection, whole, with the number and the
token of the request. -/
def Responded (s s' : State) (connection : Nat) (request : RilRequest) (token : Word) : Prop :=
  ∃ frame, s'.frames = s.frames ++ [frame] ∧ frame.connection = connection ∧
    frame.data.take 12 = responseHeader request token ∧
    frame.taken = htonl frame.data.length ++ frame.data

omit [LawfulPlatform P] in
theorem Tracks.connection_of_client (tracks : Tracks s l) (open' : s.client = some connection) :
    l.connection = some connection := by
  unfold State.client at open'
  split_ifs at open' with noClient
  exact tracks.socket connection (Int.not_lt.mp noClient) open'

/-- An outstanding request of the client is answered where its response fits. -/
theorem Tracks.responded_iff (tracks : Tracks s l) {entry : Entry}
    (outstanding : entry ∈ l.outstanding) (origin : entry.origin = some connection)
    (open' : s.client = some connection) {script : List WriteOutcome} (clean : NeverFails script)
    (version : Nat) (e : Word) (response : Option Pointee) (responselen : Nat) :
    ∃ info, s.heap entry.pRI = some info ∧
      (Responded s (s.rilOnRequestComplete P version entry.pRI e response responselen script)
          connection entry.request entry.token ↔
        (Platform.data (responseParcel P version info e response responselen)).length ≤
          maxCommandBytes) := by
  obtain ⟨info, stored, known⟩ :=
    tracks.list.1.cell (List.mem_map.mpr ⟨entry, outstanding, rfl⟩)
  simp only [RequestInfo.known, Prod.mk.injEq] at known
  obtain ⟨token, request, dropped⟩ := known
  have waits : Ledger.answerable (entry, l.connection) = true := by
    simp [Ledger.answerable, origin, tracks.connection_of_client open']
  have pending : entry.pRI ∈ s.pending := by
    rw [tracks.pending]
    exact List.mem_map.mpr ⟨entry, outstanding, rfl⟩
  refine ⟨info, stored, ?_⟩
  obtain ⟨info', data, stored', rfl, outcome⟩ :=
    tracks.complete_pending (P := P) pending version e response responselen script
  obtain rfl := Option.some.inj (stored'.symm.trans stored)
  constructor
  · rintro ⟨frame, more, -⟩
    rcases outcome with ⟨-, same⟩ | ⟨-, -, fits, -⟩
    · rw [same] at more
      simpa using congrArg List.length more
    · exact fits
  · intro fits
    rcases outcome with ⟨refused, -⟩ | ⟨-, -, -, other, taken, client, more, whole⟩
    · rw [waits, Bool.not_true, Bool.or_eq_false_iff] at dropped
      rcases refused with local' | cancelled | noClient | large
      · simp [local'] at dropped
      · simp [cancelled] at dropped
      · simp [open'] at noClient
      · exact absurd fits (not_le.mpr large)
    · obtain rfl := Option.some.inj (open'.symm.trans client)
      refine ⟨_, more, rfl, ?_, whole (takesFrame_of_neverFails clean _)⟩
      have header := responseParcel_header (P := P) version info' e response responselen
      rw [← token, ← request]
      exact (List.prefix_iff_eq_take.mp header).symm

/-! ### The echo of raw bytes -/

/-- `RIL_REQUEST_OEM_HOOK_RAW` with these bytes. -/
def oemHookRawRecord (token : Word) (raw : List UInt8) : List UInt8 :=
  wordBytes 59 ++ wordBytes token ++ (wordBytes (BitVec.ofNat 32 raw.length) ++ padBytes raw)

/-- The pointer leads to these bytes. -/
def PointsTo (pointee : Pointee) (raw : List UInt8) : Prop :=
  (List.range raw.length).map pointee.bytes = raw

theorem oemHookRawRecord_length (token : Word) (raw : List UInt8) :
    (oemHookRawRecord token raw).length = 12 + padSize raw.length := by
  simp only [oemHookRawRecord, List.length_append, wordBytes_length, padBytes_length]
  omega

theorem requestOf_oemHookRaw (token : Word) (raw : List UInt8) :
    requestOf (oemHookRawRecord token raw) =
      some (⟨.oemHookRaw, .dispatchRaw, .responseRaw⟩, token) := by
  have long : ¬ (oemHookRawRecord token raw).length < 8 := by
    rw [oemHookRawRecord_length]
    omega
  have request : wordOfBytes (oemHookRawRecord token raw) = 59 := by
    rw [oemHookRawRecord, List.append_assoc]
    exact wordOfBytes_wordBytes _ _
  have behind : (oemHookRawRecord token raw).drop 4 =
      wordBytes token ++ (wordBytes (BitVec.ofNat 32 raw.length) ++ padBytes raw) := by
    rw [oemHookRawRecord, List.append_assoc, drop_wordBytes]
  have entry : (commandInfo (59 : Word).toNat).map (fun pCI => (pCI, token)) =
      some (⟨.oemHookRaw, .dispatchRaw, .responseRaw⟩, token) := by
    rw [show commandInfo (59 : Word).toNat = some ⟨.oemHookRaw, .dispatchRaw, .responseRaw⟩ by decide]
    rfl
  unfold requestOf
  rw [if_neg long, request, behind, wordOfBytes_wordBytes]
  exact (if_neg (by decide)).trans entry

omit [LawfulPlatform P] in
/-- The vendor RIL is handed the bytes. -/
theorem dispatchCalls_oemHookRaw (version pRI : Nat) {raw : List UInt8}
    (small : raw.length < 2 ^ 31) :
    dispatchCalls P version pRI ⟨.oemHookRaw, .dispatchRaw, .responseRaw⟩
      (wordBytes (BitVec.ofNat 32 raw.length) ++ padBytes raw) =
        [⟨.oemHookRaw, .raw raw, raw.length, pRI⟩] := by
  have size := (Platform.abi P).sizeT_ofNat small
  have enough : 4 ≤ (wordBytes (BitVec.ofNat 32 raw.length) ++ padBytes raw).length := by
    rw [List.length_append]
    exact Nat.le_add_right _ _
  have word : Unread.readInt32 (wordBytes (BitVec.ofNat 32 raw.length) ++ padBytes raw) =
      (some (BitVec.ofNat 32 raw.length), padBytes raw) := by
    rw [Unread.readInt32_enough enough, wordOfBytes_wordBytes, drop_wordBytes]
  have bytes : (Unread.read (padBytes raw) raw.length).1 = some raw := by
    unfold Unread.read
    rw [if_pos (padBytes_length raw).ge]
    exact congrArg some List.take_left
  have positive : BitVec.ofNat 32 raw.length ≠ -1 := by
    intro negative
    have same := congrArg BitVec.toNat negative
    have last : (-1 : Word).toNat = 2 ^ 32 - 1 := by decide
    rw [BitVec.toNat_ofNat, Nat.mod_eq_of_lt (by omega), last] at same
    omega
  simp only [dispatchCalls, DispatchFunction.dispatch, dispatchRaw,
    Reads.runBytes_readInt32_bind, word, Option.isSome_some, Option.getD_some, Bool.not_true,
    Bool.false_eq_true, if_false, if_neg positive, Reads.runBytes_readInplace_bind, size, bytes,
    Reads.runBytes_call, Option.elim_some]

/-- The response is the length and the bytes. -/
theorem responseParcel_raw (info : RequestInfo) (function : info.pCI.responseFunction = .responseRaw)
    {pointee : Pointee} {raw : List UInt8} (points : PointsTo pointee raw)
    (small : raw.length < 2 ^ 31) (version : Nat) (e : Word) :
    Platform.data (responseParcel P version info e (some pointee) raw.length) =
      frameHeader info.pCI.requestNumber info.token e ++
        (wordBytes (BitVec.ofNat 32 raw.length) ++ padBytes raw) := by
  have marshals : info.pCI.responseFunction.marshal (Platform.abi P) (some pointee) raw.length
      version = some ([.int32 (BitVec.ofNat 32 raw.length), .bytes raw], 0) := by
    rw [function]
    simp only [ResponseFunction.marshal, responseRaw, marshalled]
    rw [show (List.range raw.length).map pointee.bytes = raw from points]
  obtain ⟨data, position⟩ := writeInt32_at_end (BitVec.ofNat 32 raw.length)
    (headerParcel_holds (P := P) info e)
  rw [responseParcel_marshalled marshals]
  simp only [List.foldl_cons, List.foldl_nil, ParcelWrite.apply]
  rw [LawfulPlatform.data_write _ _ small, data, position, storeAt_end, List.append_assoc]

/-- A record of raw bytes is handed over, and its echo is answered where it fits. -/
theorem Tracks.oemHookRaw (tracks : Tracks s l) (version : Nat) {token : Word} {raw : List UInt8}
    {pRI : Nat} (open' : s.client = some connection)
    (admitted : (oemHookRawRecord token raw).length ≤ maxCommandBytes)
    (stepped : Libril.step P version s (.processCommandBuffer (oemHookRawRecord token raw) pRI) =
      some s') :
    s'.onRequests = s.onRequests ++ [⟨.oemHookRaw, .raw raw, raw.length, pRI⟩] ∧
      ∀ pointee script, PointsTo pointee raw → NeverFails script →
        (Responded s' (s'.rilOnRequestComplete P version pRI 0 (some pointee) raw.length script)
            connection .oemHookRaw token ↔ 20 + padSize raw.length ≤ maxCommandBytes) := by
  have tracks' := tracks.step P version stepped
  have found := requestOf_oemHookRaw token raw
  obtain ⟨⟨-, fresh⟩, rfl⟩ := by
    simpa only [Libril.step, Option.ite_none_right_eq_some, Option.some.injEq] using stepped
  have small : raw.length < 2 ^ 31 := by
    have padded := length_le_padSize raw.length
    rw [oemHookRawRecord_length] at admitted
    unfold maxCommandBytes at admitted
    omega
  have behind : (oemHookRawRecord token raw).drop 8 =
      wordBytes (BitVec.ofNat 32 raw.length) ++ padBytes raw := rfl
  have accepted := processCommandBuffer_accepted (P := P) (s := s) version pRI found
  rw [behind, dispatchCalls_oemHookRaw version pRI small] at accepted
  rw [accepted]
  refine ⟨rfl, fun pointee script points clean => ?_⟩
  rw [accepted] at tracks'
  simp only [Ledger.step, found] at tracks'
  set info : RequestInfo := ⟨token, ⟨.oemHookRaw, .dispatchRaw, .responseRaw⟩, 0, false, false⟩
  have listed : (⟨l.accepted.length, pRI, token, .oemHookRaw, l.connection⟩ : Entry) ∈
      (l.accept pRI token .oemHookRaw l.connection).outstanding := List.mem_cons_self
  obtain ⟨info', stored, iff'⟩ := tracks'.responded_iff (P := P) listed
    (tracks.connection_of_client open') open' clean version 0 (some pointee) raw.length
  obtain rfl : info.setPNext s.pendingRequests = info' := by
    have here : (s.enqueue pRI info).heap pRI = some (info.setPNext s.pendingRequests) :=
      Function.update_self ..
    exact Option.some.inj (here.symm.trans stored)
  have data := responseParcel_raw (P := P) (info.setPNext s.pendingRequests) rfl points small
    version 0
  rw [iff', data]
  simp only [List.length_append, frameHeader_length, wordBytes_length, padBytes_length]
  omega

/-! ### In every run -/

/-- A completed request of the client that is still there is answered exactly where its
response fits. Every record of raw bytes that is admitted is handed over as it is, and its
echo is eight bytes longer. -/
structure AnswersWhatFits (P : Type) [Platform P] (version : Nat) (s : State) (l : Ledger) :
    Prop where
  completed : ∀ entry ∈ l.outstanding, ∀ connection, entry.origin = some connection →
    s.client = some connection → ∀ script, NeverFails script → ∀ e response responselen,
      ∃ info, s.heap entry.pRI = some info ∧
        (Responded s (s.rilOnRequestComplete P version entry.pRI e response responselen script)
            connection entry.request entry.token ↔
          (Platform.data (responseParcel P version info e response responselen)).length ≤
            maxCommandBytes)
  oemHookRaw : ∀ token raw pRI s' connection, s.client = some connection →
    (oemHookRawRecord token raw).length ≤ maxCommandBytes →
    step P version s (.processCommandBuffer (oemHookRawRecord token raw) pRI) = some s' →
      s'.onRequests = s.onRequests ++ [⟨.oemHookRaw, .raw raw, raw.length, pRI⟩] ∧
      ∀ pointee script, PointsTo pointee raw → NeverFails script →
        (Responded s' (s'.rilOnRequestComplete P version pRI 0 (some pointee) raw.length script)
            connection .oemHookRaw token ↔
          (oemHookRawRecord token raw).length + 8 ≤ maxCommandBytes)

/-- **Answers within the limit.** In every run a completed request whose client is still
there is answered exactly where its response fits into `MAX_COMMAND_BYTES`. -/
theorem answersWhatFits_of_run {version : Nat} {events : List Event}
    (ran : Library.run (step P version) .initial events = some s) :
    AnswersWhatFits P version s (Ledger.after events) where
  completed _ outstanding _ origin open' _ clean e response responselen :=
    (tracks_of_run ran).responded_iff outstanding origin open' clean version e response responselen
  oemHookRaw token raw pRI s' connection open' admitted stepped := by
    obtain ⟨handed, echoed⟩ := (tracks_of_run ran).oemHookRaw version open' admitted stepped
    refine ⟨handed, fun pointee script points clean => (echoed pointee script points clean).trans ?_⟩
    rw [oemHookRawRecord_length]
    omega

end Limits

theorem answersWhatFits_sampleEvents :
    ∃ s, Library.run (step ByteParcel 3) .initial sampleEvents = some s ∧
      AnswersWhatFits ByteParcel 3 s (Ledger.after sampleEvents) := by
  have ends : (Library.run (step ByteParcel 3) .initial sampleEvents).isSome = true := by
    decide +kernel
  obtain ⟨s, ran⟩ := Option.isSome_iff_exists.mp ends
  exact ⟨s, ran, answersWhatFits_of_run ran⟩

/-- A pointer to these bytes. -/
def arrayPointee (raw : List UInt8) : Pointee :=
  { (default : Pointee) with bytes := fun i => raw.getD i 0 }

theorem pointsTo_arrayPointee (raw : List UInt8) : PointsTo (arrayPointee raw) raw := by
  refine List.ext_getElem (by simp) fun i below inside => ?_
  simp [arrayPointee, inside]

/-- **The echo of 8173 bytes is lost.** The record fits, the answer does not. -/
theorem lostEcho : ∃ raw s', (oemHookRawRecord 7 raw).length ≤ maxCommandBytes ∧
    step ByteParcel 3 connectedState (.processCommandBuffer (oemHookRawRecord 7 raw) 16) = some s' ∧
    s'.onRequests = [⟨.oemHookRaw, .raw raw, raw.length, 16⟩] ∧
    ¬ Responded s'
      (s'.rilOnRequestComplete ByteParcel 3 16 0 (some (arrayPointee raw)) raw.length [])
      0 .oemHookRaw 7 := by
  obtain ⟨raw, length⟩ : ∃ raw : List UInt8, raw.length = 8173 :=
    ⟨List.replicate 8173 0, List.length_replicate⟩
  have admitted : (oemHookRawRecord 7 raw).length ≤ maxCommandBytes := by
    rw [oemHookRawRecord_length, length]
    decide
  have open' : connectedState.client = some 0 := rfl
  have tracks : Tracks connectedState _ := tracks_of_run connectedState_run
  have stepped : step ByteParcel 3 connectedState
      (.processCommandBuffer (oemHookRawRecord 7 raw) 16) =
        some (connectedState.processCommandBuffer ByteParcel 3 (oemHookRawRecord 7 raw) 16) := by
    unfold step
    exact if_pos ⟨by decide, by decide⟩
  obtain ⟨handed, echoed⟩ := tracks.oemHookRaw 3 open' admitted stepped
  refine ⟨raw, _, admitted, stepped, handed, ?_⟩
  rw [echoed _ [] (pointsTo_arrayPointee raw) (by simp [NeverFails]), length]
  decide

end RildHisi.Libril
