import RildHisi.MockRil.DialMessages

/-!
Owns `ReqDial` of requests.cpp over sequences of requests. It writes the UUS information
through the accessor for reading, which in a new message returns the default instance of
`RilUusInfo` that all messages share: the request has none then.
-/

namespace RildHisi.MockRil.Dial

/-- `RIL_UUS_Info`, with the memory behind its `uusLength` bytes of data. -/
structure RilUusInfo where
  uusType : UusType
  uusDcs : UusDcs
  uusData : List UInt8
  beyond : List UInt8
  short : uusData.length < 2 ^ 31
  deriving DecidableEq

def RilUusInfo.uusLength (info : RilUusInfo) : BitVec 32 := BitVec.ofNat 32 info.uusData.length

/-- `RIL_Dial`. -/
structure RilDial where
  address : CString
  clir : BitVec 32
  uusInfo : Option RilUusInfo
  deriving DecidableEq

/-- The arguments of `ReqDial`. -/
structure DialRequest where
  data : RilDial
  datalen : ℕ
  deriving DecidableEq

/-- The message that says what the data says. -/
def RilDial.message (dial : RilDial) : ReqDialMessage where
  address := some dial.address
  clir := some dial.clir
  uusInfo := dial.uusInfo.map fun info =>
    ⟨some info.uusType, some info.uusDcs, some info.uusLength, some info.uusData⟩

/-! ### The generated class -/

/-- A message that is built, and the default instance of `RilUusInfo`. -/
structure Messages where
  req : ReqDialMessage
  defaultUusInfo : UusInfoMessage
  deriving DecidableEq

/-- A write through what `uus_info()` returns: the field, or the default instance where the
message has no such field yet. Only `mutable_uus_info()` makes one. -/
def Messages.throughUusInfo (messages : Messages) (set : UusInfoMessage → UusInfoMessage) :
    Messages :=
  match messages.req.uusInfo with
  | some own => { messages with req := { messages.req with uusInfo := some (set own) } }
  | none => { messages with defaultUusInfo := set messages.defaultUusInfo }

def UusInfoMessage.unset : UusInfoMessage := ⟨none, none, none, none⟩

def setUusType (uusType : UusType) (info : UusInfoMessage) : UusInfoMessage :=
  { info with uusType := some uusType }

def setUusDcs (uusDcs : UusDcs) (info : UusInfoMessage) : UusInfoMessage :=
  { info with uusDcs := some uusDcs }

def setUusLength (uusLength : BitVec 32) (info : UusInfoMessage) : UusInfoMessage :=
  { info with uusLength := some uusLength }

/-- `set_uus_data(const char *)` takes a C string. -/
def setUusData (memory : List UInt8) (info : UusInfoMessage) : UusInfoMessage :=
  { info with uusData := some (cString memory) }

/-! ### `ReqDial` -/

def sizeofInt : ℕ := 4

/-- The buffer, none for STATUS_BAD_DATA, and the default instance behind the call. -/
def reqDial (codec : ReqDialCodec) (defaultUusInfo : UusInfoMessage) (request : DialRequest) :
    Option (List UInt8) × UusInfoMessage :=
  if request.datalen < sizeofInt then
    (none, defaultUusInfo)
  else
    let rilDial := request.data
    let messages : Messages :=
      ⟨⟨some rilDial.address, some rilDial.clir, none⟩, defaultUusInfo⟩
    let messages :=
      match rilDial.uusInfo with
      | some info =>
          (((messages.throughUusInfo (setUusType info.uusType)).throughUusInfo
            (setUusDcs info.uusDcs)).throughUusInfo
            (setUusLength info.uusLength)).throughUusInfo
            (setUusData (info.uusData ++ info.beyond))
      | none => messages
    (some (codec.serialize messages.req), messages.defaultUusInfo)

/-- The default instance behind these requests. -/
def defaultUusInfoAfter (codec : ReqDialCodec) (requests : List DialRequest) : UusInfoMessage :=
  requests.foldl (fun shared request => (reqDial codec shared request).2) .unset

/-- The message without the UUS information. -/
def RilDial.plain (dial : RilDial) : ReqDialMessage :=
  ⟨some dial.address, some dial.clir, none⟩

/-- Whatever the default instance holds, address and clir alone are built. -/
theorem reqDial_built (codec : ReqDialCodec) (defaultUusInfo : UusInfoMessage)
    {request : DialRequest} (whole : sizeofInt ≤ request.datalen) :
    (reqDial codec defaultUusInfo request).1 = some (codec.serialize request.data.plain) := by
  rw [reqDial, if_neg (Nat.not_lt_of_le whole)]
  cases shape : request.data.uusInfo with
  | none => simp only [shape, RilDial.plain]
  | some info => simp only [shape, Messages.throughUusInfo, RilDial.plain]

/-- **Behind every sequence of requests, a dial request is built that parses back to its data,
exactly if the data has no UUS information.** -/
theorem reqDial_parsesBack_iff (codec : ReqDialCodec) (before : List DialRequest)
    (request : DialRequest) (small : (codec.serialize request.data.plain).length < 2 ^ 31) :
    (∀ buffer, (reqDial codec (defaultUusInfoAfter codec before) request).1 = some buffer →
      codec.parse buffer = some request.data.message) ↔
      request.datalen < sizeofInt ∨ request.data.uusInfo = none := by
  by_cases short : request.datalen < sizeofInt
  · apply iff_of_true _ (Or.inl short)
    intro buffer built
    rw [reqDial, if_pos short] at built
    cases built
  · rw [or_iff_right short, reqDial_built codec _ (Nat.le_of_not_lt short)]
    have parsed := codec.parse_serialize request.data.plain small
    constructor
    · intro parses
      have same := parsed.symm.trans (parses _ rfl)
      have uusInfo := congrArg ReqDialMessage.uusInfo (Option.some.inj same)
      exact Option.map_eq_none_iff.mp uusInfo.symm
    · intro nothing buffer built
      cases built
      rw [parsed, RilDial.plain, RilDial.message, nothing, Option.map_none]

/-- A request with UUS information that holds a NUL. -/
def dialWithUus : DialRequest where
  data :=
    { address := ascii "18005551212"
      clir := 0
      uusInfo := some ⟨.type1Implicit, .ia5c, [1, 0, 2], [0], by decide⟩ }
  datalen := 12

/-- A request without UUS information. -/
def dialWithoutUus : DialRequest where
  data :=
    { address := ascii "18005551213"
      clir := 2
      uusInfo := none }
  datalen := 12

theorem reqDial_parsesBack_behindUus :
    (∀ buffer, (reqDial dialWireCodec (defaultUusInfoAfter dialWireCodec [dialWithUus])
      dialWithoutUus).1 = some buffer →
      dialWireCodec.parse buffer = some dialWithoutUus.data.message) ↔
      dialWithoutUus.datalen < sizeofInt ∨ dialWithoutUus.data.uusInfo = none :=
  reqDial_parsesBack_iff dialWireCodec [dialWithUus] dialWithoutUus (by decide)

/-- The UUS information is lost. -/
theorem uusInfo_lost :
    ¬ ∀ buffer, (reqDial dialWireCodec (defaultUusInfoAfter dialWireCodec []) dialWithUus).1 =
      some buffer → dialWireCodec.parse buffer = some dialWithUus.data.message := by
  intro parses
  exact absurd (parses _ rfl) (by decide)

end RildHisi.MockRil.Dial
