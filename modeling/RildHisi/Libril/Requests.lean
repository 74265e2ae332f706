import RildHisi.Libril.Commands

/-!
Owns the dispatch functions of ril.cpp: what each of them reads from the parcel,
and the data it hands to the vendor RIL.

The arrays that they make on the stack are in `ArrayWrites` and `StackArrays`, which give these
functions once more with their allocations. The copies that are cleared behind the call are not
seen by it.
-/

namespace RildHisi.Libril

/-! ### Request data -/

structure RilUusInfo where
  uusType : Word
  uusDcs : Word
  uusLength : Word
  uusData : Option (List UInt8)
  deriving DecidableEq, Repr

structure RilDial where
  address : Option CString
  clir : Word
  uusInfo : Option RilUusInfo
  deriving DecidableEq, Repr

structure RilSmsWriteArgs where
  status : Word
  pdu : Option CString
  smsc : Option CString
  deriving DecidableEq, Repr

structure RilSimIo where
  command : Word
  fileid : Word
  path : Option CString
  p1 : Word
  p2 : Word
  p3 : Word
  data : Option CString
  pin2 : Option CString
  deriving DecidableEq, Repr

structure RilCallForwardInfo where
  status : Word
  reason : Word
  serviceClass : Word
  toa : Word
  number : Option CString
  timeSeconds : Word
  deriving DecidableEq, Repr, Inhabited

/-- The digits stored; the array behind them is zero. -/
structure RilCdmaSmsAddress where
  digitMode : Word
  numberMode : Word
  numberType : Word
  numberPlan : Word
  numberOfDigits : UInt8
  digits : List UInt8
  deriving DecidableEq, Repr

structure RilCdmaSmsSubaddress where
  subaddressType : Word
  odd : UInt8
  numberOfDigits : UInt8
  digits : List UInt8
  deriving DecidableEq, Repr

structure RilCdmaSmsMessage where
  uTeleserviceID : Word
  bIsServicePresent : UInt8
  uServicecategory : Word
  sAddress : RilCdmaSmsAddress
  sSubAddress : RilCdmaSmsSubaddress
  uBearerDataLen : Word
  aBearerData : List UInt8
  deriving DecidableEq, Repr

structure RilCdmaSmsAck where
  uErrorClass : Word
  uSMSCauseCode : Word
  deriving DecidableEq, Repr

structure RilGsmBroadcastSmsConfigInfo where
  fromServiceId : Word
  toServiceId : Word
  fromCodeScheme : Word
  toCodeScheme : Word
  selected : UInt8
  deriving DecidableEq, Repr, Inhabited

structure RilCdmaBroadcastSmsConfigInfo where
  serviceCategory : Word
  language : Word
  selected : UInt8
  deriving DecidableEq, Repr, Inhabited

structure RilCdmaSmsWriteArgs where
  status : Word
  message : RilCdmaSmsMessage
  deriving DecidableEq, Repr

/-- What the `data` of `onRequest` points to. -/
inductive RequestData
  | null
  | string (string8 : CString)
  | strings (pStrings : List (Option CString))
  | ints (pInts : List Word)
  | smsWrite (args : RilSmsWriteArgs)
  | dial (dial : RilDial)
  | simIo (simIo : RilSimIo)
  | callForward (cff : RilCallForwardInfo)
  | raw (data : List UInt8)
  | cdmaSms (rcsm : RilCdmaSmsMessage)
  | cdmaSmsAck (rcsa : RilCdmaSmsAck)
  | gsmBrSmsCnf (gsmBci : List RilGsmBroadcastSmsConfigInfo)
  | cdmaBrSmsCnf (cdmaBci : List RilCdmaBroadcastSmsConfigInfo)
  | cdmaSmsWrite (rcsw : RilCdmaSmsWriteArgs)
  deriving DecidableEq, Repr

/-- The arguments of `s_callbacks.onRequest`; `t` is the address of the `RequestInfo`. -/
structure OnRequest where
  request : RilRequest
  data : RequestData
  datalen : Nat
  t : Nat
  deriving DecidableEq, Repr

/-! ### Sizes -/

/-- `sizeof` of a struct whose scalars have these sizes: each is aligned to its size,
the whole to the largest. -/
def structSize (scalars : List Nat) : Nat :=
  let align (offset size : Nat) : Nat := (offset + size - 1) / size * size
  align (scalars.foldl (fun offset size => align offset size + size) 0) (scalars.foldl max 1)

namespace Abi

variable (abi : Abi)

def sizeofSmsWriteArgs : Nat := structSize [4, abi.ptrSize, abi.ptrSize]

def sizeofDial : Nat := structSize [abi.ptrSize, 4, abi.ptrSize]

def sizeofSimIo : Nat :=
  structSize [4, 4, abi.ptrSize, 4, 4, 4, abi.ptrSize, abi.ptrSize]

def sizeofCallForwardInfo : Nat := structSize [4, 4, 4, 4, abi.ptrSize, 4]

end Abi

def rilCdmaSmsAddressMax : Nat := 36
def rilCdmaSmsSubaddressMax : Nat := 36
def rilCdmaSmsBearerDataMax : Nat := 255

/-- The scalars of `RIL_CDMA_SMS_Message`, those of its structs included. -/
def cdmaSmsMessageScalars : List Nat :=
  [4, 1, 4] ++ [4, 4, 4, 4, 1] ++ List.replicate rilCdmaSmsAddressMax 1 ++ [4, 1, 1] ++
    List.replicate rilCdmaSmsSubaddressMax 1 ++ [4] ++ List.replicate rilCdmaSmsBearerDataMax 1

/-! ### The dispatch functions -/

open Reads

/-- `invalidCommandBlock` prints, and leaves the request where it is. -/
def invalidCommandBlock : Reads OnRequest Unit := pure ()

section Dispatch

variable (abi : Abi) (request : RilRequest) (pRI : Nat)

/-- Callee expects NULL. -/
def dispatchVoid : Reads OnRequest Unit := call ⟨request, .null, 0, pRI⟩

/-- Callee expects `const char *`. -/
def dispatchString : Reads OnRequest Unit := do
  let string8 ← strdupReadString
  call ⟨request, string8.elim .null .string, abi.ptrSize, pRI⟩

/-- `pStrings[i] = strdupReadString(p)` for each `i`. -/
def readStrings : Nat → Reads OnRequest (List (Option CString))
  | 0 => pure []
  | count + 1 => do
      let string8 ← strdupReadString
      let pStrings ← readStrings count
      pure (string8 :: pStrings)

/-- Callee expects `const char **`. -/
def dispatchStrings : Reads OnRequest Unit := do
  let (status, countStrings) ← readInt32 0
  if !status then invalidCommandBlock
  -- just some non-null pointer
  else if countStrings = 0 then call ⟨request, .strings [], 0, pRI⟩
  else if countStrings = -1 then call ⟨request, .null, 0, pRI⟩
  else
    let pStrings ← readStrings countStrings.toInt.toNat
    call ⟨request, .strings pStrings, abi.wrap (abi.ptrSize * abi.sizeT countStrings), pRI⟩

/-- The loop of `dispatchInts`: none where one of the ints is missing. -/
def readInts : Nat → Reads OnRequest (Option (List Word))
  | 0 => pure (some [])
  | count + 1 => do
      let (status, t) ← readInt32 0
      if !status then pure none
      else
        let pInts ← readInts count
        pure (pInts.map (t :: ·))

/-- Callee expects `const int *`. -/
def dispatchInts : Reads OnRequest Unit := do
  let (status, count) ← readInt32 0
  if !status || count = 0 then invalidCommandBlock
  else
    match ← readInts count.toInt.toNat with
    | none => invalidCommandBlock
    | some pInts => call ⟨request, .ints pInts, abi.wrap (4 * abi.sizeT count), pRI⟩

/-- Callee expects `const RIL_SMS_WriteArgs *`. -/
def dispatchSmsWrite : Reads OnRequest Unit := do
  let (status, t) ← readInt32 0
  let pdu ← strdupReadString
  if !status || pdu.isNone then invalidCommandBlock
  else
    let smsc ← strdupReadString
    call ⟨request, .smsWrite ⟨t, pdu, smsc⟩, abi.sizeofSmsWriteArgs, pRI⟩

/-- The UUS part of `dispatchDial`: none where it is invalid. Only the status of the
last of its ints is looked at. -/
def readUusInfo (t : Word) : Reads OnRequest (Option (Option RilUusInfo)) := do
  let (status, uusPresent) ← readInt32 0
  if !status then pure none
  else if uusPresent = 0 then pure (some none)
  else
    let (_, uusType) ← readInt32 t
    let (_, uusDcs) ← readInt32 uusType
    let (status, len) ← readInt32 0
    if !status then pure none
    -- The java code writes -1 for null arrays
    else if len = -1 then pure (some (some ⟨uusType, uusDcs, 0, none⟩))
    else
      let uusData ← readInplace (abi.sizeT len)
      pure (some (some ⟨uusType, uusDcs, len, uusData⟩))

/-- Callee expects `const RIL_Dial *`. -/
def dispatchDial (version : Nat) : Reads OnRequest Unit := do
  let address ← strdupReadString
  let (status, t) ← readInt32 0
  if !status || address.isNone then invalidCommandBlock
  else if version < 3 then
    call ⟨request, .dial ⟨address, t, none⟩, abi.sizeofDial - abi.ptrSize, pRI⟩
  else
    match ← readUusInfo abi t with
    | none => invalidCommandBlock
    | some uusInfo => call ⟨request, .dial ⟨address, t, uusInfo⟩, abi.sizeofDial, pRI⟩

/-- Callee expects `const RIL_SIM_IO *`. The status is only checked at the end. -/
def dispatchSimIo : Reads OnRequest Unit := do
  let (_, command) ← readInt32 0
  let (_, fileid) ← readInt32 command
  let path ← strdupReadString
  let (_, p1) ← readInt32 fileid
  let (_, p2) ← readInt32 p1
  let (status, p3) ← readInt32 p2
  let data ← strdupReadString
  let pin2 ← strdupReadString
  if !status then invalidCommandBlock
  else call ⟨request, .simIo ⟨command, fileid, path, p1, p2, p3, data, pin2⟩,
    abi.sizeofSimIo, pRI⟩

/-- Callee expects `const RIL_CallForwardInfo *`. The status is only checked at the end. -/
def dispatchCallForward : Reads OnRequest Unit := do
  let (_, status) ← readInt32 0
  let (_, reason) ← readInt32 status
  let (_, serviceClass) ← readInt32 reason
  let (_, toa) ← readInt32 serviceClass
  let number ← strdupReadString
  let (noError, timeSeconds) ← readInt32 toa
  if !noError then invalidCommandBlock
  else
    -- special case: number 0-length fields is null
    let number := if number = some [] then none else number
    call ⟨request, .callForward ⟨status, reason, serviceClass, toa, number, timeSeconds⟩,
      abi.sizeofCallForwardInfo, pRI⟩

/-- Callee expects raw bytes. A NULL array is read as an empty one. -/
def dispatchRaw : Reads OnRequest Unit := do
  let (status, len) ← readInt32 0
  if !status then invalidCommandBlock
  else
    let len := if len = -1 then 0 else len
    let data ← readInplace (abi.sizeT len)
    call ⟨request, data.elim .null .raw, abi.sizeT len, pRI⟩

/-- A loop of one-byte reads: the last status, the last byte, and the bytes stored. -/
def readDigits : Nat → Bool → UInt8 → Reads OnRequest (Bool × UInt8 × List UInt8)
  | 0, status, ut => pure (status, ut, [])
  | digitLimit + 1, _, ut => do
      let (status, ut) ← read ut
      let (lastStatus, lastUt, digits) ← readDigits digitLimit status ut
      pure (lastStatus, lastUt, ut :: digits)

/-- How often the loop over an array runs: `MIN(counted, max)` times where it is
`limited`, else as often as the array is long. -/
def digitLimit (limited : Bool) (counted max : Nat) : Nat := if limited then min counted max else max

/-- What `dispatchCdmaSms` and `dispatchRilCdmaSmsWriteArgs` both read, up to how many
digits and bytes they read: only the first stops at the numbers it has read. -/
def readCdmaSmsMessage (limited : Bool) (t : Word) (ut : UInt8) :
    Reads OnRequest (Bool × RilCdmaSmsMessage) := do
  let (_, uTeleserviceID) ← readInt32 t
  let (_, bIsServicePresent) ← read ut
  let (_, uServicecategory) ← readInt32 uTeleserviceID
  let (_, digitMode) ← readInt32 uServicecategory
  let (_, numberMode) ← readInt32 digitMode
  let (_, numberType) ← readInt32 numberMode
  let (_, numberPlan) ← readInt32 numberType
  let (status, addressDigits) ← read bIsServicePresent
  let (_, ut, digits) ← readDigits (digitLimit limited addressDigits.toNat rilCdmaSmsAddressMax)
    status addressDigits
  let sAddress := ⟨digitMode, numberMode, numberType, numberPlan, addressDigits, digits⟩
  let (_, subaddressType) ← readInt32 numberPlan
  let (_, odd) ← read ut
  let (status, subaddressDigits) ← read odd
  let (_, ut, digits) ← readDigits
    (digitLimit limited subaddressDigits.toNat rilCdmaSmsSubaddressMax) status subaddressDigits
  let sSubAddress := ⟨subaddressType, odd, subaddressDigits, digits⟩
  let (status, uBearerDataLen) ← readInt32 subaddressType
  -- with a negative length the loop does not run
  let (status, _, aBearerData) ← readDigits
    (digitLimit limited uBearerDataLen.toInt.toNat rilCdmaSmsBearerDataMax) status ut
  pure (status, ⟨uTeleserviceID, bIsServicePresent, uServicecategory, sAddress, sSubAddress,
    uBearerDataLen, aBearerData⟩)

/-- Callee expects `RIL_CDMA_SMS_Message *`. -/
def dispatchCdmaSms : Reads OnRequest Unit := do
  let (status, rcsm) ← readCdmaSmsMessage true 0 0
  if !status then invalidCommandBlock
  else call ⟨request, .cdmaSms rcsm, structSize cdmaSmsMessageScalars, pRI⟩

/-- Callee expects `RIL_CDMA_SMS_Ack *`. -/
def dispatchCdmaSmsAck : Reads OnRequest Unit := do
  let (_, uErrorClass) ← readInt32 0
  let (status, uSMSCauseCode) ← readInt32 uErrorClass
  if !status then invalidCommandBlock
  else call ⟨request, .cdmaSmsAck ⟨uErrorClass, uSMSCauseCode⟩, structSize [4, 4], pRI⟩

/-- The loop of `dispatchGsmBrSmsCnf`. -/
def readGsmBci : Nat → Bool → Word → Reads OnRequest (Bool × List RilGsmBroadcastSmsConfigInfo)
  | 0, status, _ => pure (status, [])
  | num + 1, _, t => do
      let (_, fromServiceId) ← readInt32 t
      let (_, toServiceId) ← readInt32 fromServiceId
      let (_, fromCodeScheme) ← readInt32 toServiceId
      let (_, toCodeScheme) ← readInt32 fromCodeScheme
      let (status, selected) ← readInt32 toCodeScheme
      let (status, gsmBci) ← readGsmBci num status selected
      pure (status, ⟨fromServiceId, toServiceId, fromCodeScheme, toCodeScheme,
        UInt8.ofNat selected.toNat⟩ :: gsmBci)

/-- Callee expects `RIL_GSM_BroadcastSmsConfigInfo **`. -/
def dispatchGsmBrSmsCnf : Reads OnRequest Unit := do
  let (status, num) ← readInt32 0
  if !status then invalidCommandBlock
  else
    let (status, gsmBci) ← readGsmBci num.toInt.toNat status 0
    if !status then invalidCommandBlock
    else call ⟨request, .gsmBrSmsCnf gsmBci, abi.wrap (abi.sizeT num * abi.ptrSize), pRI⟩

/-- The loop of `dispatchCdmaBrSmsCnf`. -/
def readCdmaBci : Nat → Bool → Word →
    Reads OnRequest (Bool × List RilCdmaBroadcastSmsConfigInfo)
  | 0, status, _ => pure (status, [])
  | num + 1, _, t => do
      let (_, serviceCategory) ← readInt32 t
      let (_, language) ← readInt32 serviceCategory
      let (status, selected) ← readInt32 language
      let (status, cdmaBci) ← readCdmaBci num status selected
      pure (status, ⟨serviceCategory, language, UInt8.ofNat selected.toNat⟩ :: cdmaBci)

/-- Callee expects `RIL_CDMA_BroadcastSmsConfigInfo **`. -/
def dispatchCdmaBrSmsCnf : Reads OnRequest Unit := do
  let (status, num) ← readInt32 0
  if !status then invalidCommandBlock
  else
    let (status, cdmaBci) ← readCdmaBci num.toInt.toNat status 0
    if !status then invalidCommandBlock
    else call ⟨request, .cdmaBrSmsCnf cdmaBci, abi.wrap (abi.sizeT num * abi.ptrSize), pRI⟩

/-- Callee expects `RIL_CDMA_SMS_WriteArgs *`. -/
def dispatchRilCdmaSmsWriteArgs : Reads OnRequest Unit := do
  let (_, writeStatus) ← readInt32 0
  let (status, message) ← readCdmaSmsMessage false writeStatus 0
  if !status then invalidCommandBlock
  else call ⟨request, .cdmaSmsWrite ⟨writeStatus, message⟩,
    structSize (4 :: cdmaSmsMessageScalars), pRI⟩

/-- `pRI->pCI->dispatchFunction(p, pRI)`. -/
def DispatchFunction.dispatch (version : Nat) : DispatchFunction → Reads OnRequest Unit
  | dispatchVoid => Libril.dispatchVoid request pRI
  | dispatchString => Libril.dispatchString abi request pRI
  | dispatchStrings => Libril.dispatchStrings abi request pRI
  | dispatchInts => Libril.dispatchInts abi request pRI
  | dispatchDial => Libril.dispatchDial abi request pRI version
  | dispatchSimIo => Libril.dispatchSimIo abi request pRI
  | dispatchCallForward => Libril.dispatchCallForward abi request pRI
  | dispatchRaw => Libril.dispatchRaw abi request pRI
  | dispatchSmsWrite => Libril.dispatchSmsWrite abi request pRI
  | dispatchCdmaSms => Libril.dispatchCdmaSms request pRI
  | dispatchCdmaSmsAck => Libril.dispatchCdmaSmsAck request pRI
  | dispatchGsmBrSmsCnf => Libril.dispatchGsmBrSmsCnf abi request pRI
  | dispatchCdmaBrSmsCnf => Libril.dispatchCdmaBrSmsCnf abi request pRI
  | dispatchRilCdmaSmsWriteArgs => Libril.dispatchRilCdmaSmsWriteArgs request pRI

end Dispatch

end RildHisi.Libril
