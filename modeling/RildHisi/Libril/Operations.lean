import RildHisi.Libril.State

/-!
Owns what each operation of libril does to its state: one lemma for each, over the
list that stands in the heap, the sockets and the frames, and the header every
response parcel begins with.
-/

namespace RildHisi.Libril

open RildHisi.Library RildHisi.Library.LinkedList

/-! ### Response parcels -/

/-- The words a response to this request begins with. -/
def responseHeader (request : RilRequest) (token : Word) : List UInt8 :=
  wordBytes responseSolicited ++ wordBytes (BitVec.ofNat 32 request.number) ++ wordBytes token

theorem responseHeader_length (request : RilRequest) (token : Word) :
    (responseHeader request token).length = 12 := rfl

section Header

variable {P : Type} [Platform P] [LawfulPlatform P]

/-- `front` stands at the front of the parcel, before the position. -/
def StandsBefore (front : List UInt8) (p : P) : Prop :=
  front.length ≤ Platform.dataPosition p ∧ front <+: Platform.data p

omit [LawfulPlatform P] in
theorem StandsBefore.keeps {front : List UInt8} {p p' : P} (stands : StandsBefore front p)
    (keeps : Keeps p p') : StandsBefore front p' := by
  refine ⟨stands.1.trans keeps.1, ?_⟩
  have inFront : front <+: (Platform.data p).take (Platform.dataPosition p) :=
    List.prefix_take_iff.mpr ⟨stands.2, stands.1⟩
  exact inFront.trans keeps.2

theorem storeAt_front (data : List UInt8) (position : Nat) (bytes : List UInt8) :
    data.take position <+: storeAt data position bytes := by
  rw [storeAt, List.append_assoc]
  exact List.prefix_append _ _

theorem writeInt32_keeps (p : P) (word : Word) : Keeps p (Platform.writeInt32 p word) := by
  constructor
  · rw [LawfulPlatform.dataPosition_writeInt32]
    exact Nat.le_add_right _ _
  · rw [LawfulPlatform.data_writeInt32]
    exact storeAt_front _ _ _

theorem ParcelWrite.apply_keeps (p : P) (write : ParcelWrite) : Keeps p (write.apply p) := by
  cases write with
  | int32 word => exact writeInt32_keeps p word
  | bytes data => exact LawfulPlatform.write_keeps p data
  | string s => exact LawfulPlatform.writeString16_keeps p _

theorem StandsBefore.writes {front : List UInt8} {p : P} (stands : StandsBefore front p)
    (writes : List ParcelWrite) : StandsBefore front (writes.foldl ParcelWrite.apply p) := by
  induction writes generalizing p with
  | nil => exact stands
  | cons write writes inductionHypothesis =>
      exact inductionHypothesis (stands.keeps (ParcelWrite.apply_keeps p write))

/-- A word written at the end of a parcel. -/
theorem writeInt32_at_end {p : P} {bytes : List UInt8} (word : Word)
    (shape : Platform.data p = bytes ∧ Platform.dataPosition p = bytes.length) :
    Platform.data (Platform.writeInt32 p word) = bytes ++ wordBytes word ∧
      Platform.dataPosition (Platform.writeInt32 p word) = (bytes ++ wordBytes word).length := by
  rw [LawfulPlatform.data_writeInt32, LawfulPlatform.dataPosition_writeInt32, shape.1, shape.2]
  simp [storeAt, wordBytes]

variable (P) in
/-- The parcel with the three words of the header. -/
theorem header_written (request : RilRequest) (token : Word) :
    Platform.data (Platform.writeInt32 (Platform.writeInt32 (Platform.writeInt32
      (Platform.new : P) responseSolicited) (BitVec.ofNat 32 request.number)) token) =
        responseHeader request token ∧
    Platform.dataPosition (Platform.writeInt32 (Platform.writeInt32 (Platform.writeInt32
      (Platform.new : P) responseSolicited) (BitVec.ofNat 32 request.number)) token) = 12 := by
  have start : Platform.data (Platform.new : P) = [] ∧
      Platform.dataPosition (Platform.new : P) = ([] : List UInt8).length :=
    ⟨LawfulPlatform.data_new, LawfulPlatform.dataPosition_new⟩
  exact writeInt32_at_end token (writeInt32_at_end _ (writeInt32_at_end responseSolicited start))

/-- **Every response begins with its header**: kind, request number and token, also
where the response function fails and its writes are rewound. -/
theorem responseParcel_header (version : Nat) (pRI : RequestInfo) (e : Word)
    (response : Option Pointee) (responselen : Nat) :
    responseHeader pRI.pCI.requestNumber pRI.token <+:
      Platform.data (responseParcel P version pRI e response responselen) := by
  obtain ⟨data, position⟩ := header_written P pRI.pCI.requestNumber pRI.token
  simp only [responseParcel]
  generalize Platform.writeInt32 (Platform.writeInt32 (Platform.writeInt32 (Platform.new : P)
    responseSolicited) (BitVec.ofNat 32 pRI.pCI.requestNumber.number)) pRI.token = p at *
  have stands : StandsBefore (responseHeader pRI.pCI.requestNumber pRI.token) p := by
    refine ⟨?_, ?_⟩
    · rw [position, responseHeader_length]
    · rw [data]
  have error := stands.keeps (writeInt32_keeps p e)
  cases response with
  | none => exact ((error.keeps (writeInt32_keeps _ 0)).keeps (writeInt32_keeps _ 0)).2
  | some pointee =>
      simp only
      cases marshals : pRI.pCI.responseFunction.marshal (Platform.abi P) (some pointee)
          responselen version with
      | none => exact error.2
      | some result =>
          obtain ⟨writes, ret⟩ := result
          have written := error.writes writes
          by_cases failed : ret ≠ 0
          · simp only [if_pos failed]
            have inside := written.2.length_le
            rw [responseHeader_length] at inside
            have rewound : StandsBefore (responseHeader pRI.pCI.requestNumber pRI.token)
                (Platform.setDataPosition (writes.foldl ParcelWrite.apply (Platform.writeInt32 p e))
                  (Platform.dataPosition p)) := by
              refine ⟨?_, ?_⟩
              · rw [position, LawfulPlatform.dataPosition_setDataPosition _ _ inside,
                  responseHeader_length]
              · rw [LawfulPlatform.data_setDataPosition]
                exact written.2
            exact (rewound.keeps (writeInt32_keeps _ ret)).2
          · simp only [if_neg failed]
            exact written.2

end Header

/-! ### Request records -/

/-- The command and the token of a record, if its header is complete and its request
has a code that is supported. -/
def requestOf (buffer : List UInt8) : Option (CommandInfo × Word) :=
  if buffer.length < 8 then none
  else
    let request := wordOfBytes buffer
    if request.toInt < 1 ∨ (numCommands : Int) ≤ request.toInt then none
    else (commandInfo request.toNat).map fun pCI => (pCI, wordOfBytes (buffer.drop 4))

theorem readHeader_complete (strndup16to8 : List Char16 → CString) {buffer : List UInt8}
    (complete : 8 ≤ buffer.length) :
    readHeader.runBytes strndup16to8 buffer =
      ((true, wordOfBytes buffer, wordOfBytes (buffer.drop 4)), buffer.drop 8, []) := by
  have rest : 4 ≤ (buffer.drop 4).length := by
    rw [List.length_drop]
    omega
  simp only [readHeader, Reads.runBytes_readInt32_bind, Reads.runBytes_pure,
    Unread.readInt32_enough (show 4 ≤ buffer.length by omega), Unread.readInt32_enough rest,
    List.drop_drop, Option.isSome_some, Option.getD_some]

theorem readHeader_short (strndup16to8 : List Char16 → CString) {buffer : List UInt8}
    (short : buffer.length < 8) : (readHeader.runBytes strndup16to8 buffer).1.1 = false := by
  have starved : (Unread.readInt32 buffer).2.length < 4 := by
    by_cases enough : 4 ≤ buffer.length
    · rw [Unread.readInt32_enough enough, List.length_drop]
      omega
    · rw [Unread.readInt32_starved (by omega)]
      exact Nat.lt_of_not_le enough
  simp only [readHeader, Reads.runBytes_readInt32_bind, Reads.runBytes_pure,
    Unread.readInt32_starved starved, Option.isSome_none]

section Records

variable {P : Type} [Platform P] [LawfulPlatform P] (version : Nat) {s : State}
  {buffer : List UInt8} (pRI : Nat)

variable (P) in
/-- The calls of the vendor RIL that the payload of a record leads to. -/
def dispatchCalls (pCI : CommandInfo) (payload : List UInt8) : List OnRequest :=
  ((pCI.dispatchFunction.dispatch (Platform.abi P) pCI.requestNumber pRI version).runBytes
    (Platform.strndup16to8 P) payload).2.2

theorem readHeader_run (buffer : List UInt8) :
    ((readHeader.run (Platform.setData buffer : P)).1,
      unread (readHeader.run (Platform.setData buffer : P)).2.1,
      (readHeader.run (Platform.setData buffer : P)).2.2) =
    readHeader.runBytes (Platform.strndup16to8 P) buffer := by
  rw [Reads.run_eq, LawfulPlatform.unread_setData]

/-- A record without a supported request changes nothing. -/
theorem processCommandBuffer_rejected (rejected : requestOf buffer = none) :
    s.processCommandBuffer P version buffer pRI = s := by
  have header := readHeader_run (P := P) buffer
  unfold State.processCommandBuffer
  generalize readHeader.run (Platform.setData buffer : P) = result at *
  obtain ⟨⟨status, request, token⟩, p, calls⟩ := result
  by_cases short : buffer.length < 8
  · have failed := readHeader_short (Platform.strndup16to8 P) short
    rw [← header] at failed
    obtain rfl : status = false := failed
    rfl
  · rw [readHeader_complete _ (by omega)] at header
    obtain ⟨⟨rfl, rfl, rfl⟩, -, -⟩ := by simpa only [Prod.mk.injEq] using header
    unfold requestOf at rejected
    rw [if_neg short] at rejected
    by_cases outside : (wordOfBytes buffer).toInt < 1 ∨
        (numCommands : Int) ≤ (wordOfBytes buffer).toInt
    · simp [outside]
    · rw [if_neg outside, Option.map_eq_none_iff] at rejected
      simp [outside, rejected]

/-- A record with a supported request is queued and its payload dispatched. -/
theorem processCommandBuffer_accepted {pCI : CommandInfo} {token : Word}
    (accepted : requestOf buffer = some (pCI, token)) :
    s.processCommandBuffer P version buffer pRI =
      { s.enqueue pRI ⟨token, pCI, 0, false, false⟩ with
        onRequests := s.onRequests ++ dispatchCalls P version pRI pCI (buffer.drop 8) } := by
  have header := readHeader_run (P := P) buffer
  unfold State.processCommandBuffer
  generalize readHeader.run (Platform.setData buffer : P) = result at *
  obtain ⟨⟨status, request, token'⟩, p, calls⟩ := result
  simp only [requestOf] at accepted
  split_ifs at accepted with short outside
  obtain ⟨pCI', entry, same⟩ := Option.map_eq_some_iff.mp accepted
  obtain ⟨rfl, rfl⟩ := by simpa only [Prod.mk.injEq] using same
  rw [readHeader_complete _ (by omega)] at header
  obtain ⟨⟨rfl, rfl, rfl⟩, rest, -⟩ := by simpa only [Prod.mk.injEq] using header
  have calls := congrArg (fun result => result.2.2) (Reads.run_eq
    (pCI'.dispatchFunction.dispatch (Platform.abi P) pCI'.requestNumber pRI version) p)
  simp only [rest] at calls
  simp only [Bool.not_true, Bool.false_eq_true, if_false, if_neg outside, entry, dispatchCalls,
    ← calls]
  rfl

end Records

/-- The client takes all of a frame. -/
def takesFrame (script : List WriteOutcome) (data : List UInt8) : Bool :=
  let header := writeLoop script (htonl data.length)
  header.complete && (writeLoop header.script data).complete

theorem takesFrame_of_neverFails {script : List WriteOutcome} (clean : NeverFails script)
    (data : List UInt8) : takesFrame script data = true := by
  obtain ⟨head, rest⟩ := writeLoop_of_neverFails clean (htonl data.length)
  have body := (writeLoop_of_neverFails rest data).1
  simp [takesFrame, head, body]

/-! ### The list -/

namespace State

section List

variable {ν : Type*} {view : RequestInfo → ν}

/-- The list of pending requests has these addresses and values. -/
def Holds (view : RequestInfo → ν) (s : State) (list : List (Nat × ν)) : Prop :=
  Represents RequestInfo.pNext view s.heap s.pendingRequests list ∧ list.length ≤ s.queued

theorem Holds.pending_eq {s : State} {list : List (Nat × ν)} (holds : s.Holds view list) :
    s.pending = list.map Prod.fst :=
  holds.1.addresses_eq holds.2

theorem Holds.enqueue {s : State} {list : List (Nat × ν)} {pRI : Nat}
    (holds : s.Holds view list) (info : RequestInfo) (fresh : s.Fresh pRI)
    (views : view (info.setPNext s.pendingRequests) = view info) :
    (s.enqueue pRI info).Holds view ((pRI, view info) :: list) := by
  have pushed := holds.1.push (info.setPNext s.pendingRequests) fresh.1 fresh.2 rfl
  rw [views] at pushed
  refine ⟨pushed, ?_⟩
  have bound := holds.2
  simp only [State.enqueue, List.length_cons]
  omega

/-- A token that is not pending, NULL included, changes nothing. -/
theorem checkAndDequeue_absent {s : State} {list : List (Nat × ν)} {pRI : Nat}
    (holds : s.Holds view list) (absent : pRI ∉ list.map Prod.fst) :
    s.checkAndDequeueRequestInfo pRI = (false, s) := by
  unfold State.checkAndDequeueRequestInfo
  by_cases null : pRI = 0
  · rw [if_pos null]
  · rw [if_neg null, findSlot_absent (s.queued + 1) (by exact holds.1) absent]

/-- A pending token is taken out of the list; its object and those outside the list stay
as they were. -/
theorem checkAndDequeue_present {s : State} {front back : List (Nat × ν)} {pRI : Nat} {value : ν}
    (holds : s.Holds view (front ++ (pRI, value) :: back))
    (views : ∀ info pNext, view (RequestInfo.setPNext info pNext) = view info) :
    ∃ heap head info, s.checkAndDequeueRequestInfo pRI =
        (true, { s with heap := heap, pendingRequests := head }) ∧
      ({ s with heap := heap, pendingRequests := head } : State).Holds view (front ++ back) ∧
      heap pRI = some info ∧ view info = value ∧
      ∀ other, other ∉ front.map Prod.fst → heap other = s.heap other := by
  obtain ⟨represents, bound⟩ := holds
  have distinct := represents.nodup
  have nonzero : pRI ≠ 0 := represents.behind.2.1
  have listed : (pRI, value) ∈ front ++ (pRI, value) :: back := by simp
  obtain ⟨info, stored, viewed⟩ := represents.cell listed
  have links : ∀ info pNext, RequestInfo.pNext (RequestInfo.setPNext info pNext) = pNext :=
    fun _ _ => rfl
  obtain ⟨found, reached, place, rest⟩ :=
    Represents.unlink links views .head represents trivial (Nat.le_succ_of_le bound)
  have apart (other : Nat) (outside : other ∉ front.map Prod.fst) : found ≠ .nextOf other := by
    rcases place with rfl | ⟨address, member, rfl⟩
    · simp
    · rintro same
      obtain rfl : address = other := by simpa using same
      exact outside member
  have unlisted : pRI ∉ front.map Prod.fst := by
    intro member
    simp only [List.map_append, List.map_cons] at distinct
    exact (List.nodup_append.mp distinct).2.2 _ member _ (by simp) rfl
  refine ⟨_, _, info, ?_, ⟨rest, ?_⟩, ?_, viewed, ?_⟩
  · simp only [State.checkAndDequeueRequestInfo, if_neg nonzero, reached]
  · simp only [List.length_append, List.length_cons] at bound ⊢
    omega
  · exact (store_frame (apart pRI unlisted)).trans stored
  · exact fun other outside => store_frame (apart other outside)

/-- Marking the pending requests keeps the list. -/
theorem Holds.onCommandsSocketClosed {s : State} {list : List (Nat × ν)}
    (holds : s.Holds view list) (change : ν → ν)
    (changes : ∀ info : RequestInfo, view { info with cancelled := true } = change (view info)) :
    s.onCommandsSocketClosed.Holds view (list.map fun entry => (entry.1, change entry.2)) := by
  have bound := holds.2
  refine ⟨holds.1.forEach (by omega) (fun _ => rfl) changes, ?_⟩
  rw [List.length_map]
  exact bound

/-- An object that is not in the list may be freed. -/
theorem Holds.free {s : State} {list : List (Nat × ν)} {pRI : Nat} (holds : s.Holds view list)
    (absent : pRI ∉ list.map Prod.fst) :
    ({ s with heap := Function.update s.heap pRI none } : State).Holds view list := by
  refine ⟨holds.1.frame ?_, holds.2⟩
  intro address member
  apply Function.update_of_ne
  rintro rfl
  exact absent member

end List

/-! ### Sending -/

/-- All that sending does: at most one frame on the connection behind the command
descriptor, and at most that descriptor is closed. -/
structure Sent (s s' : State) (data : List UInt8) : Prop where
  others : s' = { s with frames := s'.frames, sockets := s'.sockets }
  frames : s'.frames = s.frames ∨
    ∃ connection taken, 0 ≤ s.fdCommand ∧ s.sockets s.fdCommand = some connection ∧
      s'.frames = s.frames ++ [⟨connection, data, taken⟩]
  sockets : s'.sockets = s.sockets ∨ s'.sockets = Function.update s.sockets s.fdCommand none

theorem Sent.nothing (s : State) (data : List UInt8) : Sent s s data :=
  ⟨rfl, Or.inl rfl, Or.inl rfl⟩

theorem sendResponseRaw_sent (s : State) (data : List UInt8) (script : List WriteOutcome) :
    Sent s (s.sendResponseRaw data script).2 data := by
  unfold sendResponseRaw
  by_cases closed : s.fdCommand < 0
  · rw [if_pos closed]
    exact Sent.nothing s data
  by_cases large : maxCommandBytes < data.length
  · rw [if_neg closed, if_pos large]
    exact Sent.nothing s data
  rw [if_neg closed, if_neg large]
  unfold writeFrame
  cases socket : s.sockets s.fdCommand with
  | none => exact Sent.nothing s data
  | some connection =>
      have live : 0 ≤ s.fdCommand := by omega
      simp only
      split_ifs
      · exact ⟨rfl, Or.inr ⟨connection, _, live, socket, rfl⟩, Or.inr rfl⟩
      · exact ⟨rfl, Or.inr ⟨connection, _, live, socket, rfl⟩, Or.inr rfl⟩
      · exact ⟨rfl, Or.inr ⟨connection, _, live, socket, rfl⟩, Or.inl rfl⟩

/-- The connection behind `s_fdCommand`, if it is open. -/
def client (s : State) : Option Nat := if s.fdCommand < 0 then none else s.sockets s.fdCommand

/-- What a send puts on a connection: nothing, or a frame and whether it is whole. -/
def attempt (s : State) (data : List UInt8) (script : List WriteOutcome) : Option Bool :=
  let (ret, after) := s.sendResponseRaw data script
  if after.frames.length = s.frames.length then none else some (ret = 0)

/-- A send that is not tried fails and changes nothing. -/
theorem sendResponseRaw_refused {s : State} {data : List UInt8}
    (refused : s.client = none ∨ maxCommandBytes < data.length) (script : List WriteOutcome) :
    s.sendResponseRaw data script = (-1, s) := by
  unfold client at refused
  unfold sendResponseRaw
  by_cases noClient : s.fdCommand < 0
  · rw [if_pos noClient]
  by_cases large : maxCommandBytes < data.length
  · rw [if_neg noClient, if_pos large]
  rw [if_neg noClient] at refused
  rw [if_neg noClient, if_neg large]
  unfold writeFrame
  rw [refused.resolve_right large]

/-- A send that is tried puts a frame on the connection, and closes it when the client
does not take all of it. -/
theorem sendResponseRaw_tried {s : State} {data : List UInt8} {connection : Nat}
    (open' : s.client = some connection) (fits : data.length ≤ maxCommandBytes)
    (script : List WriteOutcome) :
    ∃ taken, s.sendResponseRaw data script =
      (if takesFrame script data then 0 else -1,
        { (if takesFrame script data then s else s.closeSocket s.fdCommand) with
          frames := s.frames ++ [⟨connection, data, taken⟩] }) ∧
      (takesFrame script data = true → taken = htonl data.length ++ data) := by
  unfold client at open'
  unfold sendResponseRaw
  by_cases noClient : s.fdCommand < 0
  · rw [if_pos noClient] at open'
    cases open'
  rw [if_neg noClient] at open'
  rw [if_neg noClient, if_neg (not_lt.mpr fits)]
  unfold writeFrame takesFrame
  rw [open']
  cases head : (writeLoop script (htonl data.length)).complete with
  | false => exact ⟨_, by simp [head]; rfl, by simp [head]⟩
  | true =>
      cases body : (writeLoop (writeLoop script (htonl data.length)).script data).complete with
      | false => exact ⟨_, by simp [head, body]; rfl, by simp [head, body]⟩
      | true =>
          refine ⟨(writeLoop script (htonl data.length)).bytes ++
            (writeLoop (writeLoop script (htonl data.length)).script data).bytes,
            by simp [head, body], fun _ => ?_⟩
          rw [writeLoop_complete head, writeLoop_complete body]

theorem client_closeSocket (s : State) : (s.closeSocket s.fdCommand).client = none := by
  unfold client closeSocket
  split_ifs
  · rfl
  · exact Function.update_self ..

theorem attempt_refused {s : State} {data : List UInt8}
    (refused : s.client = none ∨ maxCommandBytes < data.length) (script : List WriteOutcome) :
    s.attempt data script = none := by
  unfold attempt
  rw [sendResponseRaw_refused refused]
  simp

theorem attempt_tried {s : State} {data : List UInt8} {connection : Nat}
    (open' : s.client = some connection) (fits : data.length ≤ maxCommandBytes)
    (script : List WriteOutcome) :
    s.attempt data script = some (takesFrame script data) := by
  obtain ⟨taken, sent, -⟩ := sendResponseRaw_tried open' fits script
  unfold attempt
  rw [sent]
  cases takesFrame script data <;> simp

end State

end RildHisi.Libril
