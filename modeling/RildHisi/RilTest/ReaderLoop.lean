import RildHisi.Library.Chunks
import RildHisi.Libril.Framing
import RildHisi.RilTest.FrameMemory

/-!
Owns `readerLoop` of rldial.cpp, the client that is bundled with libril: one `recv` for the
length and one for the payload, both into `recvBuffer`, and then the rest of the turn. It
processes the frames that were sent exactly where no chunk of the stream ends inside a length
or a payload, every payload fits the buffer, and each frame finds the strings and the stack
that its turn uses.

A `recv` that fails is not embedded.
-/

namespace RildHisi.RilTest

open RildHisi.Library
open RildHisi.Libril

/-! ### The loop -/

/-- `char recvBuffer[500]`. -/
def recvBufferSize : Nat := 500

/-- What the loop runs on. -/
structure Runtime where
  abi : Abi
  strndup16to8 : List Char16 → CString
  /-- What stands in the variable that `IpRawStrdupToHex` scans into. -/
  hex : Nat → Word
  /-- What `alloca` of so many bytes takes from the stack. -/
  alloca : Nat → Nat

/-- The variables that outlive a turn, and what is left of the stack of the thread. Nothing
that `alloca` takes is given back before the loop returns. -/
structure Memory where
  dialer : Dialer
  stack : Nat

/-- The buffer, the chunks that the calls of `recv` still find, and the memory. -/
structure Reader where
  recvBuffer : List UInt8
  chunks : List (List UInt8)
  memory : Memory

/-- A turn that goes on to process a frame: how much of a length it has read, what it puts
into the parcel, whether the bytes it received are inside `recvBuffer`, and whether it comes
to its end. -/
structure Processed where
  recvLen : Nat
  data : List UInt8
  inside : Bool
  finished : Bool
  deriving DecidableEq, Repr

/-- Bytes at the front of the buffer. -/
def stored (recvBuffer bytes : List UInt8) : List UInt8 :=
  bytes.take recvBufferSize ++ recvBuffer.drop bytes.length

section Loop

variable (on : Runtime)

/-- `datalen`, for so many strings. -/
def Runtime.datalen (count : Nat) : Nat := on.abi.wrap (on.abi.ptrSize * count)

/-- How many strings the array of a turn is for, if it makes one. -/
def Dialer.arrayLength (d : Dialer) : Nat :=
  if d.ReadsStrings then d.countStrings.toInt.toNat else 0

/-- The array is on the stack, and its strings are in the array. -/
def Runtime.HasRoom (stack count : Nat) : Prop :=
  count = 0 ∨ on.alloca (on.datalen count) ≤ stack ∧ on.abi.ptrSize * count ≤ on.datalen count

instance (stack count : Nat) : Decidable (on.HasRoom stack count) := by
  unfold Runtime.HasRoom
  infer_instance

/-- A turn, from `recvP.setData` on. None: it writes, reads or frees what it may not. -/
def Runtime.process (m : Memory) (data : List UInt8) : Option Memory :=
  let count := (m.dialer.reading on.strndup16to8 data).arrayLength
  if on.HasRoom m.stack count then
    (m.dialer.processFrame on.strndup16to8 on.hex data).map fun dialer =>
      ⟨dialer, if count = 0 then m.stack else m.stack - on.alloca (on.datalen count)⟩
  else none

/-- One turn of the loop. At the end of the stream it goes on without a frame. -/
def turn (r : Reader) : Option Reader × Option Processed :=
  let (header, chunks) := recv 4 r.chunks
  if header.length = 0 then (some { r with chunks }, none)
  else
    let recvBuffer := stored r.recvBuffer header
    let messageLength : Word := BitVec.ofNat 32 (ntohl (recvBuffer.take 4))
    let recvBuffer := stored recvBuffer [0, 0, 0, 0]
    let (data, chunks) := recv (on.abi.sizeT messageLength) chunks
    let memory := on.process r.memory data
    (memory.map fun memory => ⟨stored recvBuffer data, chunks, memory⟩,
      some ⟨header.length, data, decide (data.length ≤ recvBufferSize), memory.isSome⟩)

/-- What the loop processes in so many turns. -/
def readerLoop : Nat → Reader → List Processed
  | 0, _ => []
  | turns + 1, r =>
      (turn on r).2.toList ++
        match (turn on r).1 with
        | none => []
        | some r => readerLoop turns r

end Loop

/-! ### Frames -/

/-- A payload that `sendResponseRaw` does not refuse. -/
abbrev Payload := {data : List UInt8 // data.length ≤ maxCommandBytes}

/-- The buffers that `blockingWrite` is called with. -/
def frameBuffers (frames : List Payload) : List (List UInt8) :=
  frames.flatMap fun frame => [htonl frame.val.length, frame.val]

/-- A frame that is processed whole. -/
def whole (frame : Payload) : Processed := ⟨4, frame.val, true, true⟩

/-- The frames are processed one a turn, each with its whole payload, and nothing else. -/
def Decodes (on : Runtime) (frames : List Payload) (r : Reader) : Prop :=
  ∀ turns, readerLoop on turns r = (frames.map whole).take turns

/-- The turn finds what it uses: the stack for its array, and the strings that it looks at
and frees. -/
def Runtime.Admits (on : Runtime) (m : Memory) (data : List UInt8) : Prop :=
  on.HasRoom m.stack (m.dialer.reading on.strndup16to8 data).arrayLength ∧
    (m.dialer.reading on.strndup16to8 data).Intact

/-- Every frame finds it, behind those before it. -/
def Admitted (on : Runtime) (frames : List Payload) (m : Memory) : Prop :=
  StepsMeet on.process on.Admits m (frames.map Subtype.val)

/-- No payload is larger than the buffer, and none of the cuts is inside a length or a
payload of the frames that stand from `offset` on. -/
def Unsplit (cutAt : Nat → Prop) : List Payload → Nat → Prop
  | [], _ => True
  | frame :: frames, offset =>
      frame.val.length ≤ recvBufferSize ∧
        (∀ cut, cutAt cut → ¬ (offset < cut ∧ cut < offset + 4) ∧
          ¬ (offset + 4 < cut ∧ cut < offset + 4 + frame.val.length)) ∧
        Unsplit cutAt frames (offset + 4 + frame.val.length)

/-- Cuts that are counted from another place. -/
theorem unsplit_shift {cutAt behind : Nat → Prop} (consumed : Nat)
    (same : ∀ cut, 0 < cut → (behind cut ↔ cutAt (consumed + cut))) (frames : List Payload)
    (offset : Nat) : Unsplit behind frames offset ↔ Unsplit cutAt frames (consumed + offset) := by
  induction frames generalizing offset with
  | nil => exact Iff.rfl
  | cons frame frames inductionHypothesis =>
      have rest := inductionHypothesis (offset + 4 + frame.val.length)
      rw [show consumed + (offset + 4 + frame.val.length) =
        consumed + offset + 4 + frame.val.length by omega] at rest
      refine and_congr Iff.rfl (and_congr ?_ rest)
      constructor
      · intro clear cut at'
        by_cases before : cut ≤ consumed + offset
        · omega
        · have clear := clear (cut - consumed) ((same _ (by omega)).mpr (by
            rwa [show consumed + (cut - consumed) = cut by omega]))
          omega
      · intro clear cut at'
        by_cases first : 0 < cut
        · have clear := clear (consumed + cut) ((same cut first).mp at')
          omega
        · omega

/-! ### The memory -/

theorem process_isSome_iff (on : Runtime) (m : Memory) (data : List UInt8) :
    (on.process m data).isSome ↔ on.Admits m data := by
  unfold Runtime.process Runtime.Admits
  dsimp only
  by_cases room : on.HasRoom m.stack (m.dialer.reading on.strndup16to8 data).arrayLength
  · rw [if_pos room, Option.isSome_map, Dialer.processFrame_isSome_iff, and_iff_right room]
  · rw [if_neg room]
    exact iff_of_false Bool.false_ne_true fun admits => room admits.1

/-- A frame in front. -/
theorem admitted_cons_iff (on : Runtime) (frame : Payload) (frames : List Payload) (m : Memory) :
    Admitted on (frame :: frames) m ↔
      ∃ m', on.process m frame.val = some m' ∧ Admitted on frames m' := by
  have goes := process_isSome_iff on m frame.val
  unfold Admitted
  rw [List.map_cons, StepsMeet]
  cases processed : on.process m frame.val with
  | none =>
      rw [processed] at goes
      refine iff_of_false (fun admitted => Bool.false_ne_true (goes.mpr admitted.1)) ?_
      rintro ⟨m', same, -⟩
      cases same
  | some m' =>
      rw [processed] at goes
      simp only [← goes, Option.isSome_some, true_and, Option.some.injEq, forall_eq',
        exists_eq_left']

/-! ### One frame -/

theorem turn_end (on : Runtime) (recvBuffer : List UInt8) (m : Memory) :
    turn on ⟨recvBuffer, [], m⟩ = (some ⟨recvBuffer, [], m⟩, none) := rfl

/-- A turn comes to its end where it leaves a state. -/
theorem turn_finished {on : Runtime} {r : Reader} {processed : Processed}
    (turned : (turn on r).2 = some processed) : processed.finished = (turn on r).1.isSome := by
  unfold turn at turned ⊢
  dsimp only at turned ⊢
  split_ifs at turned ⊢ with ended
  obtain rfl := Option.some.inj turned
  simp

/-- The loop behind a turn that has processed something. -/
theorem decodes_cons_iff (on : Runtime) {frame : Payload} {frames : List Payload} {r : Reader}
    {processed : Processed} (turned : (turn on r).2 = some processed) :
    Decodes on (frame :: frames) r ↔
      processed = whole frame ∧ ∃ r', (turn on r).1 = some r' ∧ Decodes on frames r' := by
  have finished := turn_finished turned
  have next (turns : Nat) : readerLoop on (turns + 1) r = processed ::
      match (turn on r).1 with
      | none => []
      | some r => readerLoop on turns r := by
    rw [readerLoop, turned]
    rfl
  constructor
  · intro decodes
    have first := decodes 1
    rw [next] at first
    have same : processed = whole frame := (List.cons.inj first).1
    obtain ⟨r', left⟩ : ∃ r', (turn on r).1 = some r' := by
      rw [← Option.isSome_iff_exists, ← finished, same]
      rfl
    refine ⟨same, r', left, fun turns => ?_⟩
    have more := decodes (turns + 1)
    rw [next, left] at more
    exact (List.cons.inj more).2
  · rintro ⟨rfl, r', left, decodes⟩ turns
    cases turns with
    | zero => rfl
    | succ turns =>
        rw [next, left, List.map_cons, List.take_succ_cons]
        exact congrArg _ (decodes turns)

theorem stored_take {recvBuffer : List UInt8} (size : Nat) :
    (stored recvBuffer (htonl size)).take 4 = htonl size := by
  have front : (htonl size).take recvBufferSize = htonl size :=
    List.take_of_length_le (by rw [htonl_length]; decide)
  rw [stored, front, ← htonl_length size]
  exact List.take_left

/-- The length of a payload is passed to `recv` as it is. -/
theorem messageLength_payload (abi : Abi) (recvBuffer : List UInt8) (frame : Payload) :
    abi.sizeT (BitVec.ofNat 32 (ntohl ((stored recvBuffer (htonl frame.val.length)).take 4))) =
      frame.val.length := by
  have small : frame.val.length < 2 ^ 31 := lt_of_le_of_lt frame.property (by decide)
  rw [stored_take, ntohl_htonl (by omega), abi.sizeT_ofNat small]

section Turn

variable (on : Runtime) (recvBuffer : List UInt8) (m : Memory) {chunks : List (List UInt8)}
  {frame : Payload}

/-- A turn whose length comes whole receives the payload. -/
theorem turn_header (header : (recv 4 chunks).1 = htonl frame.val.length) :
    (turn on ⟨recvBuffer, chunks, m⟩).2 =
        some ⟨4, (recv frame.val.length (recv 4 chunks).2).1,
          decide ((recv frame.val.length (recv 4 chunks).2).1.length ≤ recvBufferSize),
          (on.process m (recv frame.val.length (recv 4 chunks).2).1).isSome⟩ ∧
      ∃ recvBuffer', (turn on ⟨recvBuffer, chunks, m⟩).1 =
        (on.process m (recv frame.val.length (recv 4 chunks).2).1).map fun m' =>
          ⟨recvBuffer', (recv frame.val.length (recv 4 chunks).2).2, m'⟩ := by
  simp only [turn, header, htonl_length, messageLength_payload]
  exact ⟨rfl, _, rfl⟩

/-- A turn whose length comes in part goes on all the same. -/
theorem turn_partial (some' : 0 < (recv 4 chunks).1.length) :
    ∃ data inside finished, (turn on ⟨recvBuffer, chunks, m⟩).2 =
      some ⟨(recv 4 chunks).1.length, data, inside, finished⟩ := by
  simp only [turn, if_neg (Nat.pos_iff_ne_zero.mp some')]
  exact ⟨_, _, _, rfl⟩

/-- At the end of the stream nothing more is processed. -/
theorem decodes_nil : Decodes on [] ⟨recvBuffer, [], m⟩ := by
  intro turns
  induction turns with
  | zero => rfl
  | succ turns inductionHypothesis =>
      rw [readerLoop, turn_end]
      simpa using inductionHypothesis

/-- A part of a length is taken for all of it. -/
theorem not_decodes_of_short_header (frames : List Payload)
    (some' : 0 < (recv 4 chunks).1.length) (short : (recv 4 chunks).1.length < 4) :
    ¬ Decodes on (frame :: frames) ⟨recvBuffer, chunks, m⟩ := by
  obtain ⟨data, inside, finished, turned⟩ := turn_partial on recvBuffer m some'
  rw [decodes_cons_iff on turned]
  rintro ⟨same, -⟩
  have length := congrArg Processed.recvLen same
  simp only [whole] at length
  omega

/-- A part of a payload is taken for all of it. -/
theorem not_decodes_of_short_payload (frames : List Payload)
    (header : (recv 4 chunks).1 = htonl frame.val.length)
    (short : (recv frame.val.length (recv 4 chunks).2).1.length < frame.val.length) :
    ¬ Decodes on (frame :: frames) ⟨recvBuffer, chunks, m⟩ := by
  rw [decodes_cons_iff on (turn_header on recvBuffer m header).1]
  rintro ⟨same, -⟩
  have data := congrArg (fun processed => processed.data.length) same
  simp only [whole] at data
  omega

/-- A frame that comes whole is processed whole if it fits the buffer and its turn comes to
its end. -/
theorem decodes_of_whole (frames : List Payload)
    (header : (recv 4 chunks).1 = htonl frame.val.length)
    (data : (recv frame.val.length (recv 4 chunks).2).1 = frame.val) :
    ∃ recvBuffer', Decodes on (frame :: frames) ⟨recvBuffer, chunks, m⟩ ↔
      frame.val.length ≤ recvBufferSize ∧ ∃ m', on.process m frame.val = some m' ∧
        Decodes on frames ⟨recvBuffer', (recv frame.val.length (recv 4 chunks).2).2, m'⟩ := by
  obtain ⟨turned, recvBuffer', left⟩ := turn_header on recvBuffer m header
  refine ⟨recvBuffer', ?_⟩
  rw [decodes_cons_iff on turned, left, data]
  cases on.process m frame.val with
  | none => simp [whole]
  | some m' => simp [whole]

end Turn

/-- **The loop** decodes the frames of a stream exactly where it is not split, every payload
fits and every frame finds what its turn uses. -/
theorem decodes_iff_unsplit (on : Runtime) {frames : List Payload} {chunks : List (List UInt8)}
    (recvBuffer : List UInt8) (m : Memory) (cut : Cut chunks (frameBuffers frames).flatten) :
    Decodes on frames ⟨recvBuffer, chunks, m⟩ ↔
      Unsplit (CutAt chunks) frames 0 ∧ Admitted on frames m := by
  induction frames generalizing chunks recvBuffer m with
  | nil =>
      obtain rfl := cut.eq_nil
      exact iff_of_true (decodes_nil on recvBuffer m) ⟨trivial, trivial⟩
  | cons frame frames inductionHypothesis =>
      have stream : (frameBuffers (frame :: frames)).flatten =
          htonl frame.val.length ++ (frame.val ++ (frameBuffers frames).flatten) := by
        simp [frameBuffers]
      rw [stream] at cut
      rw [Unsplit, Nat.zero_add]
      rcases recv_of_cut cut with ⟨header, unsplit⟩ | ⟨short, offset, first, before, at'⟩
      case inr =>
        have more : htonl frame.val.length ++ (frame.val ++ (frameBuffers frames).flatten) ≠ [] := by
          apply List.ne_nil_of_length_pos
          rw [List.length_append, htonl_length]
          omega
        have some' := recv_pos cut more (show 0 < 4 by decide)
        rw [htonl_length] at short before
        apply iff_of_false
        · exact not_decodes_of_short_header on recvBuffer m frames some' short
        · exact fun clear => (clear.1.2.1 offset at').1 ⟨first, before⟩
      obtain ⟨length, behind, shifted⟩ := header
      rw [htonl_length] at length behind shifted unsplit
      rcases recv_of_cut behind with ⟨payload, whole'⟩ | ⟨short, offset, first, before, at'⟩
      case inr =>
        apply iff_of_false
        · exact not_decodes_of_short_payload on recvBuffer m frames length short
        · intro clear
          have inside := (clear.1.2.1 (4 + offset) ((shifted offset first).mp at')).2
          omega
      obtain ⟨data, rest, moved⟩ := payload
      obtain ⟨recvBuffer', decodes⟩ := decodes_of_whole on recvBuffer m frames length data
      have counted : Unsplit (CutAt (recv frame.val.length (recv 4 chunks).2).2) frames 0 ↔
          Unsplit (CutAt chunks) frames (4 + frame.val.length) := by
        apply unsplit_shift (4 + frame.val.length)
        intro cut positive
        rw [moved cut positive, shifted _ (by omega), Nat.add_assoc]
      have clear (cut : Nat) (at' : CutAt chunks cut) : ¬ (0 < cut ∧ cut < 4) ∧
          ¬ (4 < cut ∧ cut < 4 + frame.val.length) := by
        constructor
        · rintro ⟨positive, below⟩
          exact unsplit cut positive below at'
        · rintro ⟨positive, below⟩
          obtain ⟨offset, rfl⟩ := Nat.exists_eq_add_of_lt positive
          have moved := (shifted (offset + 1) (by omega)).mpr (by rwa [← Nat.add_assoc])
          exact whole' (offset + 1) (by omega) (by omega) moved
      have next (m' : Memory) := inductionHypothesis recvBuffer' m' rest
      rw [decodes, admitted_cons_iff, and_assoc]
      refine and_congr_right fun fits => ?_
      rw [and_assoc, and_iff_right clear, ← counted]
      simp only [next]
      constructor
      · rintro ⟨m', processed, unsplit', admitted⟩
        exact ⟨unsplit', m', processed, admitted⟩
      · rintro ⟨unsplit', m', processed, admitted⟩
        exact ⟨m', processed, unsplit', admitted⟩

/-- At the start the buffer is clear and `pStrings` is NULL, whatever stands in the ints. -/
def Reader.start (ints : Dialer) (stack : Nat) (chunks : List (List UInt8)) : Reader :=
  ⟨List.replicate recvBufferSize 0, chunks, { ints with pStrings := none }, stack⟩

/-- **The bundled client.** However the write loop is interrupted, the client processes
exactly the frames that are sent where every payload fits its buffer, no chunk of the stream
ends inside a length or a payload, and every frame finds the strings and the stack that its
turn uses. -/
theorem readerLoop_decodes_iff (on : Runtime) (ints : Dialer) (stack : Nat)
    {script : List WriteOutcome} (clean : NeverFails script) {frames : List Payload}
    {chunks : List (List UInt8)} (cut : Cut chunks (sendAll script (frameBuffers frames))) :
    Decodes on frames (.start ints stack chunks) ↔
      Unsplit (CutAt chunks) frames 0 ∧
        Admitted on frames (Reader.start ints stack chunks).memory := by
  rw [sendAll_eq_flatten clean] at cut
  exact decodes_iff_unsplit on _ _ cut

/-- `RIL_UNSOL_RESPONSE_CALL_STATE_CHANGED`, which has no payload of its own. -/
def callStateFrame : Payload := ⟨[1, 0, 0, 0, 0xe9, 3, 0, 0], by decide⟩

/-- The answer to `ps_bind`. -/
def bindFrame : Payload :=
  ⟨(DialFrame.answered .pscsBindState 0 [ascii "1", ascii "1"]).data ByteParcel, by decide⟩

/-- A runtime whose `alloca` keeps the stack aligned. -/
def alignedRuntime : Runtime :=
  ⟨.lp64, Platform.strndup16to8 ByteParcel, fun _ => 0, fun size => (size + 15) / 16 * 16⟩

theorem readerLoop_decodes_whole :
    Decodes alignedRuntime [callStateFrame, bindFrame] (.start Dialer.fresh 1000
      [[0, 0, 0, 8, 1, 0, 0, 0, 0xe9, 3, 0, 0, 0, 0, 0, 36], bindFrame.val]) := by
  have cut : Cut [[0, 0, 0, 8, 1, 0, 0, 0, 0xe9, 3, 0, 0, 0, 0, 0, 36], bindFrame.val]
      (sendAll [.wrote 3, .interrupted] (frameBuffers [callStateFrame, bindFrame])) :=
    ⟨by decide, by decide⟩
  refine (readerLoop_decodes_iff alignedRuntime Dialer.fresh 1000 (by decide) cut).mpr ⟨?_, ?_⟩
  · have clear (offset : Nat) (at' : CutAt [[0, 0, 0, 8, 1, 0, 0, 0, 0xe9, 3, 0, 0, 0, 0, 0, 36],
        bindFrame.val] offset) : offset = 0 ∨ offset = 16 ∨ offset = 52 := by
      simp only [cutAt_cons_iff, cutAt_nil_iff] at at'
      have size : bindFrame.val.length = 36 := rfl
      rcases at' with rfl | ⟨_, rfl | ⟨_, rfl, rfl⟩, rfl⟩ <;> simp [size]
    refine ⟨by decide, fun offset at' => ?_, by decide, fun offset at' => ?_, trivial⟩
    · rcases clear offset at' with rfl | rfl | rfl <;> decide
    · rcases clear offset at' with rfl | rfl | rfl <;> decide
  · refine (admitted_cons_iff ..).mpr ⟨_, rfl, ?_⟩
    exact (admitted_cons_iff ..).mpr ⟨_, rfl, trivial⟩

/-- **A frame that arrives in two parts** is processed with half of its payload, and the rest
as a frame of its own. -/
theorem splitFrame_misread :
    ∃ chunks, Cut chunks (sendAll [] (frameBuffers [callStateFrame])) ∧
      ¬ Decodes alignedRuntime [callStateFrame] (.start Dialer.fresh 1000 chunks) := by
  refine ⟨[[0, 0, 0, 8, 1, 0], [0, 0, 0xe9, 3, 0, 0]], ⟨by simp, by decide⟩, fun decodes => ?_⟩
  exact absurd (decodes 1) (by decide)

end RildHisi.RilTest
