import RildHisi.Libril.Responses
import RildHisi.Library.LinkedList
import RildHisi.Library.WriteLoop
import RildHisi.Library.Runs

/-!
Owns libril's request life cycle as ril.cpp computes it: the linked list of
pending requests, `processCommandBuffer`, `RIL_onRequestComplete`, the command
socket and what is written to it. `step` takes one event at a time.

Not embedded: the printing, the wake-lock timer, the credentials of a client (the
check is commented out) and the version property.
-/

namespace RildHisi.Libril

open RildHisi.Library RildHisi.Library.LinkedList

/-- The `RequestInfo` objects. -/
structure RequestInfo where
  token : Word
  pCI : CommandInfo
  pNext : Nat
  cancelled : Bool
  /-- `local`: responses do not go back to the command process. -/
  isLocal : Bool
  deriving DecidableEq, Repr

def RequestInfo.setPNext (info : RequestInfo) (pNext : Nat) : RequestInfo :=
  { info with pNext := pNext }

/-- What one `sendResponseRaw` does to an open socket: the connection behind the
descriptor, the data, and the bytes the socket took, the length header included. -/
structure Frame where
  connection : Nat
  data : List UInt8
  taken : List UInt8
  deriving DecidableEq, Repr

/-- The statics of ril.cpp, and what the process does with its sockets and with the
vendor RIL. A socket is known by the connection it was accepted for: the first is 0. -/
structure State where
  /-- The `RequestInfo`s that are allocated. -/
  heap : Nat → Option RequestInfo
  /-- `s_pendingRequests`, 0 for NULL. -/
  pendingRequests : Nat
  /-- How many requests were put into the list so far. -/
  queued : Nat
  /-- `s_fdCommand`. -/
  fdCommand : Int
  /-- The client sockets that are open. -/
  sockets : Int → Option Nat
  /-- How many clients were accepted so far. -/
  connections : Nat
  frames : List Frame
  onRequests : List OnRequest
  /-- `s_lastNITZTimeData`. -/
  lastNitzTimeData : Option (List UInt8)

def State.initial : State where
  heap := fun _ => none
  pendingRequests := 0
  queued := 0
  fdCommand := -1
  sockets := fun _ => none
  connections := 0
  frames := []
  onRequests := []
  lastNitzTimeData := none

/-- `MAX_COMMAND_BYTES`. -/
def maxCommandBytes : Nat := 8 * 1024

/-- `RESPONSE_SOLICITED`. -/
def responseSolicited : Word := 0

/-- `RESPONSE_UNSOLICITED`. -/
def responseUnsolicited : Word := 1

/-- `RIL_UNSOL_RESPONSE_BASE`, also the code of `RADIO_STATE_CHANGED`. -/
def rilUnsolResponseBase : Nat := 1000

/-- `NUM_ELEMS(s_unsolResponses)`. -/
def numUnsolResponses : Nat := 32

def rilUnsolNitzTimeReceived : Nat := 1008

/-- `htonl`: the high byte first. -/
def htonl (size : Nat) : List UInt8 := (wordBytes (BitVec.ofNat 32 size)).reverse

namespace State

/-! ### The list of pending requests -/

/-- The requests in the list, from its head on. -/
def pending (s : State) : List Nat :=
  addresses RequestInfo.pNext s.heap s.queued s.pendingRequests

/-- A new `RequestInfo` at the head of the list. -/
def enqueue (s : State) (pRI : Nat) (info : RequestInfo) : State :=
  { s with
    heap := Function.update s.heap pRI (some (info.setPNext s.pendingRequests))
    pendingRequests := pRI
    queued := s.queued + 1 }

/-- `checkAndDequeueRequestInfo`. The walk ends: no more requests are in the list than
were put there. -/
def checkAndDequeueRequestInfo (s : State) (pRI : Nat) : Bool × State :=
  if pRI = 0 then (false, s)
  else match findSlot RequestInfo.pNext s.heap s.pendingRequests pRI (s.queued + 1) .head with
    | none => (false, s)
    | some ppCur =>
        let (heap, head) :=
          store RequestInfo.setPNext s.heap s.pendingRequests ppCur
            (load RequestInfo.pNext s.heap s.pendingRequests (.nextOf pRI))
        (true, { s with heap := heap, pendingRequests := head })

/-- `onCommandsSocketClosed`: mark pending requests as cancelled, so that their
responses are not reported. -/
def onCommandsSocketClosed (s : State) : State :=
  { s with
    heap := forEach RequestInfo.pNext (fun info => { info with cancelled := true }) (s.queued + 1)
      s.heap s.pendingRequests }

/-! ### The command socket -/

/-- `close(fd)` of a client socket. -/
def closeSocket (s : State) (fd : Int) : State :=
  { s with sockets := Function.update s.sockets fd none }

/-- `sendResponseRaw` behind its checks, with the descriptor it has read: the length,
then the data. A `write` on a closed descriptor fails, and a failing `write` closes the
descriptor. -/
def writeFrame (s : State) (fd : Int) (data : List UInt8) (script : List WriteOutcome) :
    Int × State :=
  match s.sockets fd with
  | none => (-1, s)
  | some connection =>
      let header := writeLoop script (htonl data.length)
      if !header.complete then
        (-1, { s.closeSocket fd with frames := s.frames ++ [⟨connection, data, header.bytes⟩] })
      else
        let body := writeLoop header.script data
        let frames := s.frames ++ [⟨connection, data, header.bytes ++ body.bytes⟩]
        if !body.complete then (-1, { s.closeSocket fd with frames := frames })
        else (0, { s with frames := frames })

/-- `sendResponseRaw`. -/
def sendResponseRaw (s : State) (data : List UInt8) (script : List WriteOutcome) : Int × State :=
  if s.fdCommand < 0 then (-1, s)
  else if maxCommandBytes < data.length then (-1, s)
  else s.writeFrame s.fdCommand data script

/-- `RIL_onUnsolicitedResponse`; `payload` is what the response function and the extra
fields put behind the code, none if the response function fails. -/
def rilOnUnsolicitedResponse (s : State) (unsolResponse : Nat) (payload : Option (List UInt8))
    (script : List WriteOutcome) : State :=
  if unsolResponse < rilUnsolResponseBase ∨
      rilUnsolResponseBase + numUnsolResponses ≤ unsolResponse then s
  else match payload with
    | none => s
    | some payload =>
        let data := wordBytes responseUnsolicited ++ wordBytes (BitVec.ofNat 32 unsolResponse) ++
          payload
        let (ret, s) := s.sendResponseRaw data script
        if ret ≠ 0 ∧ unsolResponse = rilUnsolNitzTimeReceived then
          { s with lastNitzTimeData := some data }
        else s

/-- `onNewCommandConnect`: the radio state, then the NITZ time that was missed. -/
def onNewCommandConnect (s : State) (radioState : Word) (script nitzScript : List WriteOutcome) :
    State :=
  let s := s.rilOnUnsolicitedResponse rilUnsolResponseBase (some (wordBytes radioState)) script
  match s.lastNitzTimeData with
  | none => s
  | some data => { (s.sendResponseRaw data nitzScript).2 with lastNitzTimeData := none }

/-- What `listenCallback` does with a descriptor `accept` returns. -/
def acceptClient (s : State) (fd : Int) : State :=
  { s with
    fdCommand := fd
    sockets := Function.update s.sockets fd (some s.connections)
    connections := s.connections + 1 }

/-- The end of `processCommandsCallback`: close the socket and forget it. -/
def closeCommand (s : State) : State := { s.closeSocket s.fdCommand with fdCommand := -1 }

end State

/-! ### Requests and their completion -/

/-- The header of a request record: the last status, the request, the token. -/
def readHeader : Reads OnRequest (Bool × Word × Word) := do
  let (_, request) ← Reads.readInt32 0
  let (status, token) ← Reads.readInt32 0
  pure (status, request, token)

section Parcel

variable (P : Type) [Platform P] (version : Nat)

/-- `processCommandBuffer`; `pRI` is the address `calloc` returns. -/
def State.processCommandBuffer (s : State) (buffer : List UInt8) (pRI : Nat) : State :=
  let (header, p, _) := readHeader.run (Platform.setData buffer : P)
  let (status, request, token) := header
  if !status then s
  else if request.toInt < 1 ∨ (numCommands : Int) ≤ request.toInt then s
  else match commandInfo request.toNat with
    | none => s
    | some pCI =>
        let s := s.enqueue pRI ⟨token, pCI, 0, false, false⟩
        let dispatch :=
          pCI.dispatchFunction.dispatch (Platform.abi P) pCI.requestNumber pRI version
        { s with onRequests := s.onRequests ++ (dispatch.run p).2.2 }

/-- `issueLocalRequest`. -/
def State.issueLocalRequest (s : State) (request : RilRequest) (data : RequestData)
    (len pRI : Nat) : State :=
  match commandInfo request.number with
  | none => s
  | some pCI =>
      let s := s.enqueue pRI ⟨-1, pCI, 0, false, true⟩
      { s with onRequests := s.onRequests ++ [⟨request, data, len, pRI⟩] }

/-- The parcel of `RIL_onRequestComplete`. A response function that fails has its
writes rewound to the error word. -/
def responseParcel (pRI : RequestInfo) (e : Word) (response : Option Pointee)
    (responselen : Nat) : P :=
  let p : P := Platform.new
  let p := Platform.writeInt32 p responseSolicited
  let p := Platform.writeInt32 p (BitVec.ofNat 32 pRI.pCI.requestNumber.number)
  let p := Platform.writeInt32 p pRI.token
  let errorOffset := Platform.dataPosition p
  let p := Platform.writeInt32 p e
  match response with
  | none => Platform.writeInt32 (Platform.writeInt32 p 0) 0
  | some _ =>
      match pRI.pCI.responseFunction.marshal (Platform.abi P) response responselen version with
      | none => p
      | some (writes, ret) =>
          let p := writes.foldl ParcelWrite.apply p
          if ret ≠ 0 then Platform.writeInt32 (Platform.setDataPosition p errorOffset) ret else p

/-- `RIL_onRequestComplete`. -/
def State.rilOnRequestComplete (s : State) (t : Nat) (e : Word) (response : Option Pointee)
    (responselen : Nat) (script : List WriteOutcome) : State :=
  let (found, s) := s.checkAndDequeueRequestInfo t
  if !found then s
  else match s.heap t with
    | none => s
    | some pRI =>
        -- the response to a local request does not go back up the command socket
        let s :=
          if pRI.isLocal || pRI.cancelled then s
          else
            let p := responseParcel P version pRI e response responselen
            (s.sendResponseRaw (Platform.data p) script).2
        { s with heap := Function.update s.heap t none }

/-! ### Runs -/

/-- What happens to libril, one thing at a time. -/
inductive Event
  /-- A record of the client. -/
  | processCommandBuffer (buffer : List UInt8) (pRI : Nat)
  | issueLocalRequest (request : RilRequest) (data : RequestData) (len pRI : Nat)
  | rilOnRequestComplete (t : Nat) (e : Word) (response : Option Pointee) (responselen : Nat)
      (script : List WriteOutcome)
  | rilOnUnsolicitedResponse (unsolResponse : Nat) (payload : Option (List UInt8))
      (script : List WriteOutcome)
  | clientDisconnect
  | clientConnect (fd : Int) (radioState : Word) (script nitzScript : List WriteOutcome)

/-- `calloc` returns an address that no live object has. -/
def State.Fresh (s : State) (pRI : Nat) : Prop := pRI ≠ 0 ∧ s.heap pRI = none

instance (s : State) (pRI : Nat) : Decidable (s.Fresh pRI) :=
  inferInstanceAs (Decidable (_ ∧ _))

/-- The command callback runs while there is a client, the listen callback while there
is none; `accept` returns a descriptor that is not in use. -/
def step (s : State) : Event → Option State
  | .processCommandBuffer buffer pRI =>
      if 0 ≤ s.fdCommand ∧ s.Fresh pRI then some (s.processCommandBuffer P version buffer pRI)
      else none
  | .issueLocalRequest request data len pRI =>
      if s.Fresh pRI then some (s.issueLocalRequest request data len pRI) else none
  | .rilOnRequestComplete t e response responselen script =>
      some (s.rilOnRequestComplete P version t e response responselen script)
  | .rilOnUnsolicitedResponse unsolResponse payload script =>
      some (s.rilOnUnsolicitedResponse unsolResponse payload script)
  | .clientDisconnect =>
      if 0 ≤ s.fdCommand then some s.closeCommand.onCommandsSocketClosed else none
  | .clientConnect fd radioState script nitzScript =>
      if s.fdCommand < 0 ∧ 0 ≤ fd ∧ s.sockets fd = none then
        some ((s.acceptClient fd).onNewCommandConnect radioState script nitzScript)
      else none

end Parcel

end RildHisi.Libril
