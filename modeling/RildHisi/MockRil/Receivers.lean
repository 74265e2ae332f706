import RildHisi.Library.Turns
import RildHisi.MockRil.CtrlFraming

/-!
Owns the receivers of the control channel on any stream that ends: `ReadMessage` of
ctrl_server.cpp, `Msg.recv` on RilChannel.java, and `recvMsg` of tcs.py. The stream need not
be a frame; it may end inside one, and a length in it may be any four bytes.

The protobuf libraries are parameters that may make anything of the bytes they are given.
-/

namespace RildHisi.MockRil.Receivers

open RildHisi.Library
open RildHisi.Libril (Word wordOfBytes)

/-- What ends a receiver without a message. -/
inductive Stop
  /-- A status other than STATUS_OK, or an exception. -/
  | failed
  /-- It allocates or reads with a negative length, or writes where it has no memory. -/
  | overrun
  deriving DecidableEq

/-- The memory of the program that receives. -/
structure Room where
  stack : ℕ
  heap : ℕ
  deriving DecidableEq

/-- The generated classes of `MsgHeader` in the three languages. -/
structure HeaderParsers where
  /-- The fields of `mh` behind it, also where it returns false. -/
  parseFromArray : List UInt8 → MsgHeader
  /-- None for an exception. -/
  parseFrom : List UInt8 → Option MsgHeader
  parseFromString : List UInt8 → Option MsgHeader

/-- A part of a receiver, which is none as long as it reads. -/
abbrev Receiving (α : Type) : Type := ExceptT Stop Option α

/-- The bytes of a loop; an error if it returned at the end of the stream. -/
def orFailed (found : Option (List UInt8) × List (List UInt8)) :
    Except Stop (List UInt8 × List (List UInt8)) :=
  match found with
  | (some bytes, chunks) => .ok (bytes, chunks)
  | (none, _) => .error .failed

/-- A value, or an exception where there is none. -/
def orRaises {α : Type} (value : Option α) : Receiving α :=
  match value with
  | some value => pure value
  | none => throw .failed

/-- An allocation of a length that is an `int`. -/
def allocation (limit : ℕ) (refusal : Stop) (length : Word) : Receiving ℕ :=
  if 0 ≤ length.toInt ∧ length.toInt ≤ limit then pure length.toInt.toNat else throw refusal

/-! ### ctrl_server.cpp -/

/-- `ReadAll`, which returns STATUS_CLIENT_CLOSED_CONNECTION at the end. -/
def readAll (turns count : ℕ) (chunks : List (List UInt8)) :
    Receiving (List UInt8 × List (List UInt8)) :=
  (receiveLoop .returns turns count chunks).map orFailed

/-- `alloca` does not refuse. -/
def alloca (room : Room) : Word → Receiving ℕ := allocation room.stack .overrun

/-- `ObtainBuffer`; without memory `Buffer` writes to NULL. -/
def obtainBuffer (room : Room) : Word → Receiving ℕ := allocation room.heap .overrun

/-- The end of `ReadMessage`. -/
def readAuxillaryData (room : Room) (turns : ℕ) (mh : MsgHeader) (chunks : List (List UInt8)) :
    Receiving Received :=
  if mh.lengthData.toNat > 0 then do
    let length ← obtainBuffer room mh.lengthData
    let (data, _) ← readAll turns length chunks
    return ⟨mh, some data⟩
  else
    return ⟨mh, none⟩

/-- `ReadMessage`. -/
def readMessage (parsers : HeaderParsers) (room : Room) (turns : ℕ)
    (chunks : List (List UInt8)) : Receiving Received := do
  let (raw, chunks) ← readAll turns 4 chunks
  let lenMsgHeader ← alloca room (wordOfBytes raw)
  let (msgHeaderRaw, chunks) ← readAll turns lenMsgHeader chunks
  readAuxillaryData room turns (parsers.parseFromArray msgHeaderRaw) chunks

/-! ### Msg.java -/

/-- `recvAllRewind`. At the end of the stream `read` returns -1 and the buffer stays as it is. -/
def recvAllRewind (turns count : ℕ) (chunks : List (List UInt8)) :
    Receiving (List UInt8 × List (List UInt8)) :=
  (receiveLoop .goesOn turns count chunks).map orFailed

/-- `ByteBuffer.allocate`, which throws if the length is negative or there is no memory. -/
def allocate (room : Room) : Word → Receiving ℕ := allocation room.heap .failed

/-- `recvHeader`. -/
def recvHeader (parsers : HeaderParsers) (room : Room) (turns : ℕ)
    (chunks : List (List UInt8)) : Receiving (MsgHeader × List (List UInt8)) := do
  let (lenBuffer, chunks) ← recvAllRewind turns 4 chunks
  let lenHeader ← allocate room (wordOfBytes lenBuffer)
  let (mhBuffer, chunks) ← recvAllRewind turns lenHeader chunks
  let mh ← orRaises (parsers.parseFrom mhBuffer)
  return (mh, chunks)

/-- The data that `read` allocates and receives behind the header. -/
def recvData (room : Room) (turns : ℕ) (mHeader : MsgHeader) (chunks : List (List UInt8)) :
    Receiving Received :=
  if mHeader.lengthData.toInt > 0 then do
    let length ← allocate room mHeader.lengthData
    let (bb, _) ← recvAllRewind turns length chunks
    return ⟨mHeader, some bb⟩
  else
    return ⟨mHeader, none⟩

/-- `Msg.recv`. -/
def recv (parsers : HeaderParsers) (room : Room) (turns : ℕ) (chunks : List (List UInt8)) :
    Receiving Received := do
  let (mHeader, chunks) ← recvHeader parsers room turns chunks
  recvData room turns mHeader chunks

/-! ### tcs.py -/

/-- `recvall`, which returns None at the end. It reads nothing for a negative count. -/
def recvall (turns : ℕ) (count : Int) (chunks : List (List UInt8)) :
    Receiving (Option (List UInt8) × List (List UInt8)) :=
  (receiveLoop .returns turns count.toNat chunks).map .ok

/-- `recvMsg` with `recvHeader`. `struct.unpack` and `ParseFromString` raise an exception for
None; the data is None where the stream ends inside it. -/
def recvMsg (parsers : HeaderParsers) (turns : ℕ) (chunks : List (List UInt8)) :
    Receiving Received := do
  let (lenMsgHeaderRaw, chunks) ← recvall turns 4 chunks
  let lenMsgHdr ← orRaises lenMsgHeaderRaw
  let (mhRaw, chunks) ← recvall turns (wordOfBytes lenMsgHdr).toInt chunks
  let mhRaw ← orRaises mhRaw
  let mh ← orRaises (parsers.parseFromString mhRaw)
  if mh.lengthData.toNat > 0 then
    let (protobuf, _) ← recvall turns mh.lengthData.toNat chunks
    return ⟨mh, protobuf⟩
  else
    return ⟨mh, some []⟩

def receive (parsers : HeaderParsers) (room : Room) (receiver : Peer) (turns : ℕ)
    (chunks : List (List UInt8)) : Receiving Received :=
  match receiver with
  | .ctrlServer => readMessage parsers room turns chunks
  | .msgJava => recv parsers room turns chunks
  | .tcs => recvMsg parsers turns chunks

/-! ### Robust receivers -/

/-- It ends with a message or an error after finitely many calls, and never overruns. -/
structure Robust {α : Type} (run : ℕ → Receiving α) : Prop where
  ends : ∃ turns ended, (run turns).run = some ended
  contained : ∀ turns, (run turns).run ≠ some (.error .overrun)

/-- The header length in the stream. -/
def headerLength (stream : List UInt8) : Int := (wordOfBytes (stream.take 4)).toInt

/-- The header in the stream. -/
def headerBytes (stream : List UInt8) : List UInt8 :=
  (stream.drop 4).take (headerLength stream).toNat

/-- The lengths are ones that `ReadMessage` has memory for. -/
def Affordable (parsers : HeaderParsers) (room : Room) (stream : List UInt8) : Prop :=
  4 ≤ stream.length → 0 ≤ headerLength stream ∧ headerLength stream ≤ room.stack ∧
    (4 + headerLength stream ≤ stream.length →
      0 ≤ (parsers.parseFromArray (headerBytes stream)).lengthData.toInt ∧
        (parsers.parseFromArray (headerBytes stream)).lengthData.toInt ≤ room.heap)

/-- Where `Msg.recv` allocates a buffer, the stream has the bytes for it. -/
def Complete (parsers : HeaderParsers) (room : Room) (stream : List UInt8) : Prop :=
  4 ≤ stream.length ∧ (0 ≤ headerLength stream → headerLength stream ≤ room.heap →
    4 + headerLength stream ≤ stream.length ∧
      ∀ mHeader, parsers.parseFrom (headerBytes stream) = some mHeader →
        mHeader.lengthData.toInt ≤ room.heap →
        4 + headerLength stream + mHeader.lengthData.toInt ≤ stream.length)

/-- What the stream must be like. -/
def Safe (parsers : HeaderParsers) (room : Room) (stream : List UInt8) : Peer → Prop
  | .ctrlServer => Affordable parsers room stream
  | .msgJava => Complete parsers room stream
  | .tcs => True

/-! ### What a receiver comes to -/

/-- It settles, and where it does is robust exactly under the condition. -/
def RobustExactly {α : Type} (run : ℕ → Receiving α) (condition : Prop) : Prop :=
  ∃ result, Settles (fun turns => (run turns).run) result ∧
    (result ≠ none ∧ result ≠ some (.error .overrun) ↔ condition)

namespace RobustExactly

variable {α β : Type} {run : ℕ → Receiving α} {condition : Prop}

theorem robust_iff (exactly : RobustExactly run condition) : Robust run ↔ condition := by
  obtain ⟨result, settles, fine⟩ := exactly
  rw [← fine]
  constructor
  · rintro ⟨⟨turns, ended, came⟩, contained⟩
    constructor
    · rw [(settles.exists_eq_some_iff ended).mp ⟨turns, came⟩]
      exact Option.some_ne_none ended
    · intro overruns
      obtain ⟨turns, same⟩ := (settles.exists_eq_some_iff _).mpr overruns
      exact contained turns same
  · rintro ⟨ends, contained⟩
    obtain ⟨ended, same⟩ := Option.ne_none_iff_exists'.mp ends
    constructor
    · obtain ⟨turns, came⟩ := (settles.exists_eq_some_iff ended).mpr same
      exact ⟨turns, ended, came⟩
    · intro turns overruns
      exact contained ((settles.exists_eq_some_iff _).mp ⟨turns, overruns⟩)

theorem of_ended {ended : Except Stop α}
    (settles : Settles (fun turns => (run turns).run) (some ended))
    (within : ended ≠ .error .overrun) (holds : condition) : RobustExactly run condition :=
  ⟨_, settles, iff_of_true
    ⟨Option.some_ne_none _, fun same => within (Option.some.inj same)⟩ holds⟩

theorem of_ok {value : α} (settles : Settles (fun turns => (run turns).run) (some (.ok value)))
    (holds : condition) : RobustExactly run condition := by
  apply of_ended settles _ holds
  intro same
  cases same

theorem of_failed
    (settles : Settles (fun turns => (run turns).run) (some (.error .failed)))
    (holds : condition) : RobustExactly run condition := by
  apply of_ended settles _ holds
  intro same
  cases same

theorem of_overrun
    (settles : Settles (fun turns => (run turns).run) (some (.error .overrun)))
    (fails : ¬ condition) : RobustExactly run condition :=
  ⟨_, settles, iff_of_false (fun fine => fine.2 rfl) fails⟩

theorem of_never (settles : Settles (fun turns => (run turns).run) none)
    (fails : ¬ condition) : RobustExactly run condition :=
  ⟨_, settles, iff_of_false (fun fine => fine.1 rfl) fails⟩

/-- What comes behind a value decides. -/
theorem bind {next : ℕ → α → Receiving β} {value : α}
    (settles : Settles (fun turns => (run turns).run) (some (.ok value)))
    (behind : RobustExactly (fun turns => next turns value) condition) :
    RobustExactly (fun turns => run turns >>= next turns) condition := by
  obtain ⟨result, settles', fine⟩ := behind
  exact ⟨result, settles.bind_ok settles', fine⟩

theorem congr {other : Prop} (exactly : RobustExactly run condition) (same : condition ↔ other) :
    RobustExactly run other := by
  obtain ⟨result, settles, fine⟩ := exactly
  exact ⟨result, settles, fine.trans same⟩

end RobustExactly

theorem allocation_settles (limit : ℕ) (refusal : Stop) (length : Word) :
    (0 ≤ length.toInt ∧ length.toInt ≤ limit ∧
      Settles (fun _ => (allocation limit refusal length).run)
        (some (.ok length.toInt.toNat))) ∨
      (¬ (0 ≤ length.toInt ∧ length.toInt ≤ limit) ∧
        Settles (fun _ => (allocation limit refusal length).run) (some (.error refusal))) := by
  unfold allocation
  split_ifs with fits
  · exact Or.inl ⟨fits.1, fits.2, .always _⟩
  · exact Or.inr ⟨fits, .always _⟩

theorem orRaises_settles {α : Type} (value : Option α) :
    (value = none ∧ Settles (fun _ => (orRaises value).run) (some (.error .failed))) ∨
      ∃ present, value = some present ∧
        Settles (fun _ => (orRaises value).run) (some (.ok present)) := by
  cases value with
  | none => exact Or.inl ⟨rfl, .always _⟩
  | some present => exact Or.inr ⟨present, rfl, .always _⟩

section

variable {chunks : List (List UInt8)} {stream : List UInt8} (cut : Cut chunks stream)

include cut

/-- `ReadAll` brings the bytes, or an error where the stream ends before. -/
theorem readAll_settles (count : ℕ) :
    (count ≤ stream.length ∧ ∃ left, Cut left (stream.drop count) ∧
      Settles (fun turns => (readAll turns count chunks).run)
        (some (.ok (stream.take count, left)))) ∨
      (stream.length < count ∧
        Settles (fun turns => (readAll turns count chunks).run) (some (.error .failed))) := by
  rcases receiveLoop_cases cut .returns count with
    ⟨enough, left, behind, settles⟩ | ⟨short, settles⟩
  · exact Or.inl ⟨enough, left, behind, settles.map orFailed⟩
  · exact Or.inr ⟨short, settles.map orFailed⟩

/-- `recvAllRewind` brings the bytes, or goes round for ever. -/
theorem recvAllRewind_settles (count : ℕ) :
    (count ≤ stream.length ∧ ∃ left, Cut left (stream.drop count) ∧
      Settles (fun turns => (recvAllRewind turns count chunks).run)
        (some (.ok (stream.take count, left)))) ∨
      (stream.length < count ∧
        Settles (fun turns => (recvAllRewind turns count chunks).run) none) := by
  rcases receiveLoop_cases cut .goesOn count with
    ⟨enough, left, behind, settles⟩ | ⟨short, settles⟩
  · exact Or.inl ⟨enough, left, behind, settles.map orFailed⟩
  · exact Or.inr ⟨short, settles.map orFailed⟩

/-- `recvall` returns. -/
theorem recvall_settles (count : Int) : ∃ data left rest, Cut left rest ∧
    Settles (fun turns => (recvall turns count chunks).run) (some (.ok (data, left))) := by
  rcases receiveLoop_cases cut .returns count.toNat with
    ⟨-, left, behind, settles⟩ | ⟨-, settles⟩
  · exact ⟨some _, left, _, behind, settles.map Except.ok⟩
  · exact ⟨none, [], [], cut_singletons [], settles.map Except.ok⟩

/-! ### The receivers -/

theorem readAuxillaryData_exactly (room : Room) (mh : MsgHeader) :
    RobustExactly (fun turns => readAuxillaryData room turns mh chunks)
      (0 ≤ mh.lengthData.toInt ∧ mh.lengthData.toInt ≤ room.heap) := by
  unfold readAuxillaryData
  by_cases announced : mh.lengthData.toNat > 0
  · simp only [if_pos announced]
    rcases allocation_settles room.heap .overrun mh.lengthData with
      ⟨natural, fits, first⟩ | ⟨beyond, first⟩
    · apply RobustExactly.bind first
      rcases readAll_settles cut mh.lengthData.toInt.toNat with
        ⟨whole, left, cut, second⟩ | ⟨short, second⟩
      · exact .of_ok (second.bind_ok (.always _)) ⟨natural, fits⟩
      · exact .of_failed second.bind_error ⟨natural, fits⟩
    · exact .of_overrun first.bind_error beyond
  · simp only [if_neg announced]
    apply RobustExactly.of_ok (.always _)
    have zero : mh.lengthData.toNat = 0 := by omega
    rw [BitVec.toInt_eq_toNat_cond, zero]
    simp

/-- **`ReadMessage`** is robust where it can afford the lengths. -/
theorem readMessage_exactly (parsers : HeaderParsers) (room : Room) :
    RobustExactly (fun turns => readMessage parsers room turns chunks)
      (Affordable parsers room stream) := by
  rcases readAll_settles cut 4 with ⟨four, left, cut, first⟩ | ⟨short, first⟩
  · apply RobustExactly.bind first
    rcases allocation_settles room.stack .overrun (wordOfBytes (stream.take 4)) with
      ⟨natural, fits, second⟩ | ⟨beyond, second⟩
    · apply RobustExactly.bind second
      rcases readAll_settles cut (headerLength stream).toNat with
        ⟨whole, left, cut, third⟩ | ⟨short, third⟩
      · apply RobustExactly.bind third
        apply (readAuxillaryData_exactly cut room _).congr
        rw [List.length_drop] at whole
        have positive : 0 ≤ headerLength stream := natural
        have there : 4 + headerLength stream ≤ stream.length := by omega
        constructor
        · exact fun data _ => ⟨natural, fits, fun _ => data⟩
        · exact fun affordable => (affordable four).2.2 there
      · apply RobustExactly.of_failed third.bind_error
        rw [List.length_drop] at short
        intro _
        refine ⟨natural, fits, ?_⟩
        intro whole
        omega
    · apply RobustExactly.of_overrun second.bind_error
      intro affordable
      have bounds := affordable four
      exact beyond ⟨bounds.1, bounds.2.1⟩
  · apply RobustExactly.of_failed first.bind_error
    intro four
    omega

theorem recvData_exactly (room : Room) (mHeader : MsgHeader) :
    RobustExactly (fun turns => recvData room turns mHeader chunks)
      (mHeader.lengthData.toInt ≤ room.heap → mHeader.lengthData.toInt ≤ stream.length) := by
  unfold recvData
  by_cases announced : mHeader.lengthData.toInt > 0
  · simp only [if_pos announced]
    rcases allocation_settles room.heap .failed mHeader.lengthData with
      ⟨natural, fits, first⟩ | ⟨refused, first⟩
    · apply RobustExactly.bind first
      rcases recvAllRewind_settles cut mHeader.lengthData.toInt.toNat with
        ⟨whole, left, cut, second⟩ | ⟨short, second⟩
      · apply RobustExactly.bind second
        apply RobustExactly.of_ok (.always _)
        intro _
        omega
      · apply RobustExactly.of_never second.bind_never
        intro complete
        have whole := complete fits
        omega
    · apply RobustExactly.of_failed first.bind_error
      intro fits
      exact absurd ⟨announced.le, fits⟩ refused
  · simp only [if_neg announced]
    apply RobustExactly.of_ok (.always _)
    intro _
    omega

/-- **`Msg.recv`** is robust where the stream is complete. -/
theorem recv_exactly (parsers : HeaderParsers) (room : Room) :
    RobustExactly (fun turns => recv parsers room turns chunks)
      (Complete parsers room stream) := by
  unfold recv recvHeader
  simp only [bind_assoc, pure_bind]
  rcases recvAllRewind_settles cut 4 with ⟨four, left, cut, first⟩ | ⟨short, first⟩
  · apply RobustExactly.bind first
    rcases allocation_settles room.heap .failed (wordOfBytes (stream.take 4)) with
      ⟨natural, fits, second⟩ | ⟨refused, second⟩
    · apply RobustExactly.bind second
      rcases recvAllRewind_settles cut (headerLength stream).toNat with
        ⟨whole, left, cut, third⟩ | ⟨short, third⟩
      · apply RobustExactly.bind third
        rw [List.length_drop] at whole
        have positive : 0 ≤ headerLength stream := natural
        have there : 4 + headerLength stream ≤ stream.length := by omega
        rcases orRaises_settles (parsers.parseFrom (headerBytes stream)) with
          ⟨unparsed, fourth⟩ | ⟨mHeader, parsed, fourth⟩
        · apply RobustExactly.of_failed fourth.bind_error
          refine ⟨four, fun _ _ => ⟨there, ?_⟩⟩
          intro mHeader same
          rw [unparsed] at same
          cases same
        · apply RobustExactly.bind fourth
          apply (recvData_exactly cut room mHeader).congr
          rw [List.length_drop, List.length_drop]
          constructor
          · intro data
            refine ⟨four, fun _ _ => ⟨there, ?_⟩⟩
            intro other same fits'
            cases parsed.symm.trans same
            have behind := data fits'
            omega
          · intro complete fits'
            have behind := (complete.2 natural fits).2 mHeader parsed fits'
            omega
      · apply RobustExactly.of_never third.bind_never
        rw [List.length_drop] at short
        intro complete
        have whole := (complete.2 natural fits).1
        omega
    · apply RobustExactly.of_failed second.bind_error
      refine ⟨four, ?_⟩
      intro natural fits
      exact absurd ⟨natural, fits⟩ refused
  · apply RobustExactly.of_never first.bind_never
    intro complete
    have four := complete.1
    omega

/-- **`recvMsg`** is robust. -/
theorem recvMsg_exactly (parsers : HeaderParsers) :
    RobustExactly (fun turns => recvMsg parsers turns chunks) True := by
  obtain ⟨length, left, rest, cut, first⟩ := recvall_settles cut 4
  apply RobustExactly.bind first
  rcases orRaises_settles length with ⟨-, second⟩ | ⟨lenMsgHdr, -, second⟩
  · exact .of_failed second.bind_error trivial
  · apply RobustExactly.bind second
    obtain ⟨raw, left, rest, cut, third⟩ := recvall_settles cut (wordOfBytes lenMsgHdr).toInt
    apply RobustExactly.bind third
    rcases orRaises_settles raw with ⟨-, fourth⟩ | ⟨mhRaw, -, fourth⟩
    · exact .of_failed fourth.bind_error trivial
    · apply RobustExactly.bind fourth
      rcases orRaises_settles (parsers.parseFromString mhRaw) with
        ⟨-, fifth⟩ | ⟨mh, -, fifth⟩
      · exact .of_failed fifth.bind_error trivial
      · apply RobustExactly.bind fifth
        by_cases announced : mh.lengthData.toNat > 0
        · simp only [if_pos announced]
          obtain ⟨protobuf, left, rest, cut, sixth⟩ :=
            recvall_settles cut mh.lengthData.toNat
          apply RobustExactly.bind sixth
          exact .of_ok (.always _) trivial
        · simp only [if_neg announced]
          exact .of_ok (.always _) trivial

/-- Each receiver is robust exactly where the stream is safe for it. -/
theorem receive_exactly (parsers : HeaderParsers) (room : Room) (receiver : Peer) :
    RobustExactly (fun turns => receive parsers room receiver turns chunks)
      (Safe parsers room stream receiver) := by
  cases receiver with
  | ctrlServer => exact readMessage_exactly cut parsers room
  | msgJava => exact recv_exactly cut parsers room
  | tcs => exact recvMsg_exactly cut parsers

end

/-- **On every stream that ends, cut in any way, each receiver ends with a message or an error
and stays within its memory, exactly where the stream is safe for it.** -/
theorem receivers_robust_iff (parsers : HeaderParsers) (room : Room) (receiver : Peer)
    (stream : List UInt8) (chunks : List (List UInt8)) (cut : Cut chunks stream) :
    Robust (fun turns => receive parsers room receiver turns chunks) ↔
      Safe parsers room stream receiver :=
  (receive_exactly cut parsers room receiver).robust_iff

/-- All three read the wire format. -/
def wireParsers : HeaderParsers where
  parseFromArray raw := (parseWireFormat raw).getD ⟨0, 0, 0, 0⟩
  parseFrom := parseWireFormat
  parseFromString := parseWireFormat

/-- A header of four bytes that ends behind two. -/
theorem receivers_robust_truncated :
    Robust (fun turns => receive wireParsers ⟨8192, 65536⟩ .ctrlServer turns
      ([4, 0, 0, 0, 8, 1].map fun byte => [byte])) ↔
      Safe wireParsers ⟨8192, 65536⟩ [4, 0, 0, 0, 8, 1] .ctrlServer :=
  receivers_robust_iff wireParsers ⟨8192, 65536⟩ .ctrlServer _ _ (cut_singletons _)

/-- `ReadMessage` overruns for the header length -1, and `Msg.recv` goes round for ever on an
empty stream. -/
theorem negativeLength_emptyStream :
    ¬ Robust (fun turns => receive wireParsers ⟨8192, 65536⟩ .ctrlServer turns
        [[255, 255, 255, 255]]) ∧
      ¬ Robust (fun turns => receive wireParsers ⟨8192, 65536⟩ .msgJava turns []) := by
  have negative : Cut [[255, 255, 255, 255]] ([255, 255, 255, 255] : List UInt8) := by
    constructor
    · simp
    · rfl
  have empty : Cut [] ([] : List UInt8) := cut_singletons []
  constructor
  · rw [(receive_exactly negative wireParsers ⟨8192, 65536⟩ .ctrlServer).robust_iff]
    intro safe
    exact absurd (safe (by decide)).1 (by decide)
  · rw [(receive_exactly empty wireParsers ⟨8192, 65536⟩ .msgJava).robust_iff]
    intro safe
    exact absurd safe.1 (by decide)

end RildHisi.MockRil.Receivers
