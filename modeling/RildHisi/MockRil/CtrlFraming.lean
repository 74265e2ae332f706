import RildHisi.Library.Chunks
import RildHisi.Libril.Parcel
import RildHisi.MockRil.MsgHeader

/-!
Owns the frames of the control channel: `ReadMessage` and `WriteMessage` of
ctrl_server.cpp, Msg.java on RilChannel.java, and tcs.py. A frame is the length of the
header in four bytes, the header, and as much data as the header says.

Each program hands its buffers to a write loop of its own and reads with a read loop of
its own; the loops are those of the library. A negative length that a program passes to
an allocation, or that makes it raise an exception, ends it.
-/

namespace RildHisi.MockRil

open RildHisi.Library
open RildHisi.Libril (Word wordBytes wordOfBytes wordOfBytes_wordBytes wordBytes_length)

/-- A message, whose data may be absent. -/
structure Msg where
  cmd : BitVec 32
  token : BitVec 64
  status : BitVec 32
  data : Option (List UInt8)
  deriving DecidableEq

/-- The number of bytes of data. -/
def Msg.length (msg : Msg) : ℕ := (msg.data.getD []).length

/-- A message that was read. -/
structure Received where
  header : MsgHeader
  data : Option (List UInt8)
  deriving DecidableEq

/-! ### Sending -/

/-- `htole32 (len_msg_header)`, `lenBuffer.putInt`, `struct.pack('<i', ..)`. -/
def lengthBytes (header : List UInt8) : List UInt8 := wordBytes (BitVec.ofNat 32 header.length)

/-- The buffers that `CtrlServerThread::WriteMessage` writes. -/
def writeMessage (serialize : MsgHeader → List UInt8) (msg : Msg) : List (List UInt8) :=
  let lengthData := BitVec.ofNat 32 msg.length
  let header := serialize ⟨msg.cmd, lengthData, msg.status, msg.token⟩
  -- `WriteAll` takes the length as an `int`
  lengthBytes header :: header ::
    if lengthData.toNat > 0 then [(msg.data.getD []).take lengthData.toInt.toNat] else []

/-- The buffers that `Msg.send` writes; the length of its data is an `int`. -/
def sendMsgJava (serialize : MsgHeader → List UInt8) (msg : Msg) : List (List UInt8) :=
  let lenData := BitVec.ofNat 32 msg.length
  let header := serialize ⟨msg.cmd, lenData, msg.status, msg.token⟩
  lengthBytes header :: header :: if lenData.toInt > 0 then [msg.data.getD []] else []

/-- The buffers that `sendMsg` of tcs.py writes. The status is zero, and a length that does
not fit into the field raises an exception before anything is written. -/
def sendMsg (serialize : MsgHeader → List UInt8) (msg : Msg) : List (List UInt8) :=
  if msg.length < 2 ^ 32 then
    let header := serialize ⟨msg.cmd, BitVec.ofNat 32 msg.length, 0, msg.token⟩
    lengthBytes header :: header :: if msg.length > 0 then [msg.data.getD []] else []
  else []

def send (codec : MsgHeaderCodec) (sender : Peer) (msg : Msg) : List (List UInt8) :=
  match sender with
  | .ctrlServer => writeMessage (codec.serialize .ctrlServer) msg
  | .msgJava => sendMsgJava (codec.serialize .msgJava) msg
  | .tcs => sendMsg (codec.serialize .tcs) msg

/-! ### Receiving -/

/-- The data that the header announces; `noData` if it announces none. A program may not get
past a length. -/
def readData (lenData : Word → Option ℕ) (noData : Option (List UInt8)) (header : MsgHeader)
    (chunks : List (List UInt8)) : Option (Received × List (List UInt8)) := do
  let length ← lenData header.lengthData
  if length > 0 then
    let (data, chunks) ← readAll length chunks
    some (⟨header, some data⟩, chunks)
  else some (⟨header, noData⟩, chunks)

/-- A length, a header of that length, and the data. -/
def readFrame (parse : List UInt8 → Option MsgHeader) (lenHeader lenData : Word → Option ℕ)
    (noData : Option (List UInt8)) (chunks : List (List UInt8)) :
    Option (Received × List (List UInt8)) := do
  let (raw, chunks) ← readAll 4 chunks
  let length ← lenHeader (wordOfBytes raw)
  let (raw, chunks) ← readAll length chunks
  let header ← parse raw
  readData lenData noData header chunks

/-- A length that must not be negative as an `int`. -/
def natural (word : Word) : Option ℕ := if word.toInt < 0 then none else some word.toInt.toNat

/-- A length that is an `int` and counts as zero where it is negative. -/
def clamped (word : Word) : Option ℕ := some word.toInt.toNat

/-- A length that is not signed. -/
def unsigned (word : Word) : Option ℕ := some word.toNat

/-- `CtrlServerThread::ReadMessage`; `ObtainBuffer` fails for a length that is no `int`. -/
def readMessage (parse : List UInt8 → Option MsgHeader) :
    List (List UInt8) → Option (Received × List (List UInt8)) :=
  readFrame parse natural natural none

/-- `Msg.recv`; `getLengthData` is an `int`, and the data is only read if it is positive. -/
def recv (parse : List UInt8 → Option MsgHeader) :
    List (List UInt8) → Option (Received × List (List UInt8)) :=
  readFrame parse natural clamped none

/-- `recvMsg` of tcs.py; `recvall` reads nothing for a negative count. -/
def recvMsg (parse : List UInt8 → Option MsgHeader) :
    List (List UInt8) → Option (Received × List (List UInt8)) :=
  readFrame parse clamped unsigned (some [])

def receive (codec : MsgHeaderCodec) (receiver : Peer) :
    List (List UInt8) → Option (Received × List (List UInt8)) :=
  match receiver with
  | .ctrlServer => readMessage (codec.parse .ctrlServer)
  | .msgJava => recv (codec.parse .msgJava)
  | .tcs => recvMsg (codec.parse .tcs)

/-- As many messages, one after the other. -/
def receiveAll (codec : MsgHeaderCodec) (receiver : Peer) :
    ℕ → List (List UInt8) → Option (List Received × List (List UInt8))
  | 0, chunks => some ([], chunks)
  | count + 1, chunks => do
      let (first, chunks) ← receive codec receiver chunks
      let (others, chunks) ← receiveAll codec receiver count chunks
      some (first :: others, chunks)

/-! ### What comes back -/

/-- Data has fewer bytes than this. -/
def Peer.limit : Peer → ℕ
  | .ctrlServer | .msgJava => 2 ^ 31
  | .tcs => 2 ^ 32

/-- What the program has for a message without data. -/
def Peer.noData : Peer → Option (List UInt8)
  | .ctrlServer | .msgJava => none
  | .tcs => some []

/-- The message as it comes back: the status of tcs.py is zero, and empty data is none. -/
def Msg.received (sender receiver : Peer) (msg : Msg) : Received where
  header :=
    { cmd := msg.cmd
      lengthData := BitVec.ofNat 32 msg.length
      status := if sender = .tcs then 0 else msg.status
      token := msg.token }
  data := if msg.length > 0 then msg.data else receiver.noData

/-! ### One message -/

theorem toInt_ofNat {n : ℕ} (small : n < 2 ^ 31) : (BitVec.ofNat 32 n).toInt = n := by
  rw [BitVec.toInt_eq_toNat_cond, BitVec.toNat_ofNat, Nat.mod_eq_of_lt (by omega)]
  rw [if_pos (by omega)]

theorem natural_ofNat {n : ℕ} (small : n < 2 ^ 31) : natural (BitVec.ofNat 32 n) = some n := by
  rw [natural, toInt_ofNat small, if_neg (by omega), Int.toNat_natCast]

theorem clamped_ofNat {n : ℕ} (small : n < 2 ^ 31) : clamped (BitVec.ofNat 32 n) = some n := by
  rw [clamped, toInt_ofNat small, Int.toNat_natCast]

theorem unsigned_ofNat {n : ℕ} (small : n < 2 ^ 32) : unsigned (BitVec.ofNat 32 n) = some n := by
  rw [unsigned, BitVec.toNat_ofNat, Nat.mod_eq_of_lt small]

/-- Every sender writes the same frame. -/
theorem flatten_send (codec : MsgHeaderCodec) {sender : Peer} (receiver : Peer) {msg : Msg}
    (fits : msg.length < sender.limit) :
    (send codec sender msg).flatten =
      lengthBytes (codec.serialize sender (msg.received sender receiver).header) ++
        (codec.serialize sender (msg.received sender receiver).header ++ msg.data.getD []) := by
  have third (condition : Prop) [Decidable condition] (same : condition ↔ msg.length > 0) :
      (if condition then [msg.data.getD []] else []).flatten = msg.data.getD [] := by
    split_ifs with some'
    · simp
    · have empty : msg.length = 0 := by
        by_contra positive
        exact some' (same.mpr (Nat.pos_of_ne_zero positive))
      rw [List.eq_nil_of_length_eq_zero empty, List.flatten_nil]
  cases sender with
  | ctrlServer =>
      have value : (BitVec.ofNat 32 msg.length).toNat = msg.length := by
        rw [BitVec.toNat_ofNat, Nat.mod_eq_of_lt (lt_trans fits (by decide))]
      have whole : (msg.data.getD []).take (BitVec.ofNat 32 msg.length).toInt.toNat =
          msg.data.getD [] := by
        rw [toInt_ofNat fits, Int.toNat_natCast]
        exact List.take_length
      simp only [send, writeMessage, whole, List.flatten_cons]
      rw [third _ (by rw [value])]
      rfl
  | msgJava =>
      simp only [send, sendMsgJava, List.flatten_cons]
      rw [third _ (by rw [toInt_ofNat fits]; omega)]
      rfl
  | tcs =>
      have fits : msg.length < 2 ^ 32 := fits
      simp only [send, sendMsg]
      rw [if_pos fits, List.flatten_cons, List.flatten_cons, third _ Iff.rfl]
      rfl

/-- A header is read as what it was. -/
theorem readFrame_of_cut {parse : List UInt8 → Option MsgHeader} {lenHeader : Word → Option ℕ}
    (lenData : Word → Option ℕ) (noData : Option (List UInt8)) {header : MsgHeader}
    {raw rest : List UInt8} {chunks : List (List UInt8)}
    (cut : Cut chunks (lengthBytes raw ++ (raw ++ rest)))
    (headerLength : lenHeader (BitVec.ofNat 32 raw.length) = some raw.length)
    (parsed : parse raw = some header) :
    ∃ left, readFrame parse lenHeader lenData noData chunks = readData lenData noData header left ∧
      Cut left rest := by
  obtain ⟨behindLength, readLength, cut⟩ := readAll_of_cut cut
  obtain ⟨left, readHeader, cut⟩ := readAll_of_cut cut
  have word : wordOfBytes (lengthBytes raw) = BitVec.ofNat 32 raw.length := by
    have same := wordOfBytes_wordBytes (BitVec.ofNat 32 raw.length) []
    rwa [List.append_nil] at same
  rw [lengthBytes, wordBytes_length] at readLength
  refine ⟨left, ?_, cut⟩
  simp only [readFrame, readLength, Option.bind_eq_bind, Option.bind_some]
  rw [← lengthBytes, word, headerLength]
  simp only [Option.bind_some, readHeader, parsed]

/-- Data is read as what the header says. -/
theorem readData_of_cut {lenData : Word → Option ℕ} (noData : Option (List UInt8))
    (header : MsgHeader) {data rest : List UInt8} {chunks : List (List UInt8)}
    (cut : Cut chunks (data ++ rest)) (dataLength : lenData header.lengthData = some data.length) :
    ∃ left, readData lenData noData header chunks =
        some (⟨header, if data.length > 0 then some data else noData⟩, left) ∧ Cut left rest := by
  simp only [readData, dataLength, Option.bind_eq_bind, Option.bind_some]
  split_ifs with some'
  · obtain ⟨left, read, cut⟩ := readAll_of_cut cut
    exact ⟨left, by rw [read]; rfl, cut⟩
  · have empty : data = [] := List.length_eq_zero_iff.mp (by omega)
    rw [empty] at cut
    exact ⟨chunks, rfl, cut⟩

/-- **One message** comes back, and the stream behind it is left. -/
theorem receive_of_cut (codec : MsgHeaderCodec) {sender receiver : Peer} {msg : Msg}
    {rest : List UInt8} {chunks : List (List UInt8)} (fitsSender : msg.length < sender.limit)
    (fitsReceiver : msg.length < receiver.limit)
    (cut : Cut chunks ((send codec sender msg).flatten ++ rest)) :
    ∃ left, receive codec receiver chunks = some (msg.received sender receiver, left) ∧
      Cut left rest := by
  rw [flatten_send codec receiver fitsSender, List.append_assoc, List.append_assoc] at cut
  have short := codec.short sender (msg.received sender receiver).header
  have parsed := fun reader => codec.parse_serialize reader sender (msg.received sender receiver).header
  have whole (noData : Option (List UInt8)) (same : noData = receiver.noData) :
      (if (msg.data.getD []).length > 0 then some (msg.data.getD []) else noData) =
        (msg.received sender receiver).data := by
    have length : (msg.data.getD []).length = msg.length := rfl
    simp only [length, same, Msg.received]
    by_cases some' : msg.length > 0
    · rw [if_pos some', if_pos some']
      cases data : msg.data with
      | none => simp [Msg.length, data] at some'
      | some data => rfl
    · rw [if_neg some', if_neg some']
  cases receiver with
  | ctrlServer =>
      obtain ⟨behind, frame, cut⟩ := readFrame_of_cut natural none cut (natural_ofNat short)
        (parsed .ctrlServer)
      obtain ⟨left, read, cut⟩ := readData_of_cut none (msg.received sender .ctrlServer).header cut
        (natural_ofNat fitsReceiver)
      rw [whole none rfl] at read
      exact ⟨left, frame.trans read, cut⟩
  | msgJava =>
      obtain ⟨behind, frame, cut⟩ := readFrame_of_cut clamped none cut (natural_ofNat short)
        (parsed .msgJava)
      obtain ⟨left, read, cut⟩ := readData_of_cut none (msg.received sender .msgJava).header cut
        (clamped_ofNat fitsReceiver)
      rw [whole none rfl] at read
      exact ⟨left, frame.trans read, cut⟩
  | tcs =>
      obtain ⟨behind, frame, cut⟩ := readFrame_of_cut unsigned (some []) cut (clamped_ofNat short)
        (parsed .tcs)
      obtain ⟨left, read, cut⟩ := readData_of_cut (some []) (msg.received sender .tcs).header cut
        (unsigned_ofNat fitsReceiver)
      rw [whole (some []) rfl] at read
      exact ⟨left, frame.trans read, cut⟩

/-- **Framing round trip.** Messages of any senders, written by loops that do not fail and cut
in any way, are read one after the other by any receiver, as they come back to it, with the
length of their data and nothing left over. -/
theorem framing_roundTrip (codec : MsgHeaderCodec) (receiver : Peer) (sent : List (Peer × Msg))
    (script : List WriteOutcome) (chunks : List (List UInt8)) (clean : NeverFails script)
    (fits : ∀ message ∈ sent, message.2.length < message.1.limit ∧
      message.2.length < receiver.limit)
    (cut : Cut chunks (sendAll script (sent.flatMap fun message => send codec message.1 message.2))) :
    receiveAll codec receiver sent.length chunks =
        some (sent.map fun message => message.2.received message.1 receiver, []) ∧
      ∀ message ∈ sent, (message.2.received message.1 receiver).header.lengthData.toNat =
        message.2.length := by
  rw [sendAll_eq_flatten clean] at cut
  constructor
  · induction sent generalizing chunks with
    | nil =>
        obtain rfl := cut.eq_nil
        rfl
    | cons message sent inductionHypothesis =>
        obtain ⟨fitsSender, fitsReceiver⟩ := fits message List.mem_cons_self
        rw [List.flatMap_cons, List.flatten_append] at cut
        obtain ⟨left, first, rest⟩ := receive_of_cut codec fitsSender fitsReceiver cut
        have others := inductionHypothesis left
          (fun other member => fits other (List.mem_cons_of_mem _ member)) rest
        simp [receiveAll, first, others]
  · intro message member
    have small : message.2.length < 2 ^ 32 := by
      apply lt_of_lt_of_le (fits message member).2
      cases receiver <;> decide
    rw [Msg.received, BitVec.toNat_ofNat, Nat.mod_eq_of_lt small]

/-- Two messages of two senders. -/
def twoMessages : List (Peer × Msg) :=
  [(.ctrlServer, ⟨1, 7, 0, some [65, 66, 67]⟩), (.tcs, ⟨2, 8, 0, none⟩)]

/-- They are sent in short writes and received byte by byte. -/
theorem twoMessages_roundTrip :
    receiveAll wireCodec .msgJava 2
        ((sendAll [.wrote 3, .wrote 1]
          (twoMessages.flatMap fun message => send wireCodec message.1 message.2)).map
            fun byte => [byte]) =
      some ([⟨⟨1, 3, 0, 7⟩, some [65, 66, 67]⟩, ⟨⟨2, 0, 0, 8⟩, none⟩], []) :=
  (framing_roundTrip wireCodec .msgJava twoMessages [.wrote 3, .wrote 1] _ (by decide) (by decide)
    (cut_singletons _)).1

/-! ### What does not come back -/

def Received.msg (received : Received) : Msg :=
  ⟨received.header.cmd, received.header.token, received.header.status, received.data⟩

/-- However the messages are cut, they are read as they were sent, with nothing left over. -/
def RoundTrips (codec : MsgHeaderCodec) (receiver : Peer) (sent : List (Peer × Msg)) : Prop :=
  ∀ chunks, Cut chunks (sent.flatMap fun message => send codec message.1 message.2).flatten →
    ∃ received, receiveAll codec receiver sent.length chunks = some (received, []) ∧
      received.map Received.msg = sent.map Prod.snd

/-- From tcs.py, a receiver gets as far as the data. -/
theorem receive_behind_header (codec : MsgHeaderCodec) {msg : Msg} {chunks : List (List UInt8)}
    (small : msg.length < 2 ^ 32) (cut : Cut chunks (send codec .tcs msg).flatten) :
    (∃ left, receive codec .msgJava chunks =
        readData clamped none (msg.received .tcs .msgJava).header left ∧
      Cut left (msg.data.getD [])) ∧
    ∃ left, receive codec .ctrlServer chunks =
        readData natural none (msg.received .tcs .ctrlServer).header left ∧
      Cut left (msg.data.getD []) := by
  have small : msg.length < Peer.tcs.limit := small
  constructor
  · rw [flatten_send codec .msgJava small] at cut
    exact readFrame_of_cut clamped none cut (natural_ofNat (codec.short .tcs _))
      (codec.parse_serialize .msgJava .tcs _)
  · rw [flatten_send codec .ctrlServer small] at cut
    exact readFrame_of_cut natural none cut (natural_ofNat (codec.short .tcs _))
      (codec.parse_serialize .ctrlServer .tcs _)

/-- A length that is negative as an `int`. -/
theorem toInt_ofNat_neg {n : ℕ} (large : 2 ^ 31 ≤ n) (small : n < 2 ^ 32) :
    (BitVec.ofNat 32 n).toInt < 0 := by
  rw [BitVec.toInt_eq_toNat_cond, BitVec.toNat_ofNat, Nat.mod_eq_of_lt small]
  rw [if_neg (by omega)]
  omega

/-- One message that is read in some way is read as it was sent. -/
theorem RoundTrips.single {codec : MsgHeaderCodec} {sender receiver : Peer} {msg : Msg}
    (trips : RoundTrips codec receiver [(sender, msg)]) {chunks : List (List UInt8)}
    (cut : Cut chunks (send codec sender msg).flatten) :
    ∃ received, receive codec receiver chunks = some (received, []) ∧ received.msg = msg := by
  obtain ⟨all, read, same⟩ := trips chunks (by rwa [List.flatMap_singleton])
  simp only [List.length_singleton, receiveAll, Option.bind_eq_bind] at read
  obtain ⟨⟨received, left⟩, first, rest⟩ := Option.bind_eq_some_iff.mp read
  obtain ⟨rfl, rfl⟩ := Prod.mk.inj (Option.some.inj rest)
  exact ⟨received, first, by simpa using same⟩

/-- `Msg.recv` takes none of the data that tcs.py sends, and leaves it in the stream. -/
theorem recv_leavesData (codec : MsgHeaderCodec) {msg : Msg} (large : 2 ^ 31 ≤ msg.length)
    (small : msg.length < 2 ^ 32) : ¬ RoundTrips codec .msgJava [(.tcs, msg)] := by
  intro trips
  obtain ⟨received, read, -⟩ := trips.single (cut_singletons _)
  obtain ⟨left, first, rest⟩ := (receive_behind_header codec small (cut_singletons _)).1
  have nothing : clamped (msg.received .tcs .msgJava).header.lengthData = some 0 := by
    rw [Msg.received, clamped, Int.toNat_of_nonpos (toInt_ofNat_neg large small).le]
  rw [first] at read
  simp only [readData, nothing, Option.bind_eq_bind, Option.bind_some, gt_iff_lt, lt_irrefl,
    if_false, Option.some.injEq, Prod.mk.injEq] at read
  obtain ⟨-, rfl⟩ := read
  have empty : msg.length = 0 := (congrArg List.length rest.2).symm
  omega

/-- `ReadMessage` does not get past the length. -/
theorem readMessage_stuck (codec : MsgHeaderCodec) {msg : Msg} (large : 2 ^ 31 ≤ msg.length)
    (small : msg.length < 2 ^ 32) : ¬ RoundTrips codec .ctrlServer [(.tcs, msg)] := by
  intro trips
  obtain ⟨received, read, -⟩ := trips.single (cut_singletons _)
  obtain ⟨left, first, -⟩ := (receive_behind_header codec small (cut_singletons _)).2
  have stuck : natural (msg.received .tcs .ctrlServer).header.lengthData = none := by
    rw [Msg.received, natural, if_pos (toInt_ofNat_neg large small)]
  have read := first.symm.trans read
  simp [readData, stuck] at read

/-- `WriteMessage` writes a header that announces the data, and none of it. -/
theorem writeMessage_dropsData (codec : MsgHeaderCodec) {msg : Msg} (large : 2 ^ 31 ≤ msg.length)
    (small : msg.length < 2 ^ 32) : ¬ RoundTrips codec .tcs [(.ctrlServer, msg)] := by
  intro trips
  have cut := cut_singletons (send codec .ctrlServer msg).flatten
  obtain ⟨received, read, -⟩ := trips.single cut
  have written : (send codec .ctrlServer msg).flatten =
      lengthBytes (codec.serialize .ctrlServer (msg.received .ctrlServer .tcs).header) ++
        (codec.serialize .ctrlServer (msg.received .ctrlServer .tcs).header ++ []) := by
    simp only [send, writeMessage, Int.toNat_of_nonpos (toInt_ofNat_neg large small).le,
      List.take_zero]
    split_ifs <;> rfl
  rw [written] at cut
  obtain ⟨left, first, rest⟩ := readFrame_of_cut unsigned (some []) cut
    (clamped_ofNat (codec.short .ctrlServer _)) (codec.parse_serialize .tcs .ctrlServer _)
  obtain rfl := rest.eq_nil
  obtain ⟨more, length⟩ : ∃ more, msg.length = more + 1 := ⟨msg.length - 1, by omega⟩
  have announced : unsigned (msg.received .ctrlServer .tcs).header.lengthData = some (more + 1) := by
    rw [Msg.received, unsigned_ofNat small, length]
  rw [← written] at first
  have read := first.symm.trans read
  simp [readData, announced, readAll] at read

/-- `sendMsg` of tcs.py sends nothing if the length does not fit into the header. -/
theorem sendMsg_sendsNothing (codec : MsgHeaderCodec) {msg : Msg} (giant : 2 ^ 32 ≤ msg.length) :
    ¬ RoundTrips codec .tcs [(.tcs, msg)] := by
  intro trips
  have nothing : send codec .tcs msg = [] := by
    rw [send, sendMsg, if_neg (not_lt.mpr giant)]
  have cut : Cut [] (send codec .tcs msg).flatten := by
    rw [nothing]
    exact cut_singletons []
  obtain ⟨received, read, -⟩ := trips.single cut
  cases read

/-- A message with empty data. -/
def emptyMsg : Msg := ⟨1, 7, 0, some []⟩

/-- A message with a status. -/
def statusMsg : Msg := ⟨1, 7, 1, none⟩

/-- A message with so many bytes of data. -/
def largeMsg (length : ℕ) : Msg := ⟨1, 7, 0, some (List.replicate length 0)⟩

theorem largeMsg_length (length : ℕ) : (largeMsg length).length = length :=
  List.length_replicate ..

/-- **Not read as they were sent**: data that is empty, the status that tcs.py sends, data of
2^31 bytes between two programs of which one is in C++ or Java, and data of 2^32 bytes. -/
theorem emptyMsg_largeMsg_roundTrip :
    ¬ RoundTrips wireCodec .ctrlServer [(.ctrlServer, emptyMsg)] ∧
      ¬ RoundTrips wireCodec .ctrlServer [(.tcs, statusMsg)] ∧
      ¬ RoundTrips wireCodec .msgJava [(.tcs, largeMsg (2 ^ 31))] ∧
      ¬ RoundTrips wireCodec .ctrlServer [(.tcs, largeMsg (2 ^ 31))] ∧
      ¬ RoundTrips wireCodec .tcs [(.ctrlServer, largeMsg (2 ^ 31))] ∧
      ¬ RoundTrips wireCodec .tcs [(.tcs, largeMsg (2 ^ 32))] := by
  have large : 2 ^ 31 ≤ (largeMsg (2 ^ 31)).length := (largeMsg_length _).ge
  have small : (largeMsg (2 ^ 31)).length < 2 ^ 32 := by
    rw [largeMsg_length]
    decide
  refine ⟨fun trips => ?_, fun trips => ?_, recv_leavesData wireCodec large small,
    readMessage_stuck wireCodec large small, writeMessage_dropsData wireCodec large small,
    sendMsg_sendsNothing wireCodec (largeMsg_length _).ge⟩
  · obtain ⟨received, read, same⟩ := trips.single (cut_singletons _)
    have lost : receive wireCodec .ctrlServer
        (((send wireCodec .ctrlServer emptyMsg).flatten).map fun byte => [byte]) =
          some (⟨⟨1, 0, 0, 7⟩, none⟩, []) := by decide
    obtain ⟨rfl, -⟩ := Prod.mk.inj (Option.some.inj (read.symm.trans lost))
    exact absurd same (by decide)
  · obtain ⟨received, read, same⟩ := trips.single (cut_singletons _)
    have lost : receive wireCodec .ctrlServer
        (((send wireCodec .tcs statusMsg).flatten).map fun byte => [byte]) =
          some (⟨⟨1, 0, 0, 7⟩, none⟩, []) := by decide
    obtain ⟨rfl, -⟩ := Prod.mk.inj (Option.some.inj (read.symm.trans lost))
    exact absurd same (by decide)

end RildHisi.MockRil
