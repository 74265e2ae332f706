import Mathlib.Logic.Function.Basic
import RildHisi.Library.Rounding
import RildHisi.Library.Runs
import RildHisi.MockRil.WorkerThread

/-!
Owns the control server of ctrl_server.cpp and ctrl_server.js: the thread step by step,
any number of clients that connect, send and disconnect, the JavaScript workers that
finish requests, and `Stop`.

A message is one step for its sender, and `begin` is the arrival of a part of one. The
lock of V8 is held by the thread except in `select`; a worker finishes a request while
the lock is free, so in one step. What a request is answered with is up to the worker.
-/

namespace RildHisi.MockRil

open RildHisi.Library

/-- A message with the fields of `MsgHeader`. -/
structure CtrlMessage where
  cmd : BitVec 32
  token : BitVec 64
  status : Nat
  data : List UInt8
  deriving DecidableEq

/-- A response. A field is none if its value is undefined. -/
structure CtrlResponse where
  cmd : Option (BitVec 32)
  token : Option (BitVec 64)
  status : Nat
  data : List UInt8
  deriving DecidableEq

/-- A response frame, the message it answers and the connection it was written to. -/
structure Written where
  message : Nat
  connection : Nat
  response : CtrlResponse
  deriving DecidableEq

/-- `int (NumberValue ())` of a command that was made a number. -/
def numberCmd (cmd : BitVec 32) : Option (BitVec 32) :=
  if cmd.toNat < 2 ^ 31 then some cmd else none

/-- `int64_t (NumberValue ())` of a token that was made a number. -/
def numberToken (token : BitVec 64) : Option (BitVec 64) :=
  let number := roundToEven 53 token.toNat
  if number < 2 ^ 63 then some (BitVec.ofNat 64 number) else none

/-- What `onCtrlServerCmd` does with a command. -/
inductive Dispatch
  /-- `ctrlWorker.add`. -/
  | ctrlWorker
  /-- `simulatedRadioWorker.add`, the only component of the table. -/
  | simulatedRadioWorker
  /-- `RIL_E_REQUEST_NOT_SUPPORTED`. -/
  | unknown
  deriving DecidableEq

def CTRL_CMD_ECHO : Nat := 0
def CTRL_CMD_DISPATH_BASE : Nat := 1000
def CTRL_CMD_SET_MT_CALL : Nat := 1001
def CTRL_CMD_HANGUP_CONN_REMOTE : Nat := 1002
def CTRL_CMD_SET_CALL_TRANSITION_FLAG : Nat := 1003
def CTRL_CMD_SET_CALL_ALERT : Nat := 1004
def CTRL_CMD_SET_CALL_ACTIVE : Nat := 1005
def CTRL_CMD_ADD_DIALING_CALL : Nat := 1006

/-- The commands of `ctrlServerDispatchTable`. -/
def ctrlServerDispatchTable : List Nat :=
  [CTRL_CMD_SET_MT_CALL, CTRL_CMD_HANGUP_CONN_REMOTE, CTRL_CMD_SET_CALL_TRANSITION_FLAG,
    CTRL_CMD_SET_CALL_ALERT, CTRL_CMD_SET_CALL_ACTIVE, CTRL_CMD_ADD_DIALING_CALL]

def onCtrlServerCmd (cmd : BitVec 32) : Dispatch :=
  if ¬ CTRL_CMD_DISPATH_BASE < cmd.toNat then .ctrlWorker
  else if cmd.toNat ∈ ctrlServerDispatchTable then .simulatedRadioWorker
  else .unknown

def RIL_E_REQUEST_NOT_SUPPORTED : Nat := 6

/-- What `Stop` has still to do once it has changed `state_`. -/
inductive CtrlStopPhase
  /-- `done_ = true`. -/
  | setDone
  /-- The byte for the stop socket. -/
  | send
  /-- The loop of `WaitUntilStopped`. -/
  | poll
  | returned
  deriving DecidableEq

/-- Where `Work` and `CtrlServerThread::Worker` stand. -/
inductive CtrlPhase
  /-- In front of `state_ = STATE_RUNNING`. -/
  | started
  /-- `while (isRunning())`. -/
  | outerTest
  /-- In `select` for a client. -/
  | selectAccept
  /-- The test behind it; `select` may have found a client. -/
  | acceptTest (found : Bool)
  | accept
  /-- `while ((server_to_client_socket_ > 0) && isRunning())`. -/
  | innerTest
  /-- In `select` for a message. -/
  | selectClient
  | clientTest
  /-- In `ReadMessage`. -/
  | readMessage
  /-- With the message that was read. -/
  | handle (message : Nat)
  /-- `close(server_to_client_socket_)`. -/
  | closeClient
  /-- Behind the loops. -/
  | left
  | finished
  deriving DecidableEq

/-- The thread does not hold the lock of V8. -/
def CtrlPhase.unlocked : CtrlPhase → Bool
  | .started | .selectAccept | .selectClient | .left | .finished => true
  | _ => false

/-- The server with its clients. `incoming` are the messages that have arrived on each
connection and `begun` is set for a part of one behind them; `read` are the messages read
with their connections, `requests` those that were given to a worker, by their place in
`read`. -/
structure CtrlServer where
  state : ThreadState
  done : Bool
  stop : Option CtrlStopPhase
  stopByte : Bool
  phase : CtrlPhase
  connections : Nat
  backlog : List Nat
  incoming : Nat → List CtrlMessage
  begun : Nat → Bool
  disconnected : Nat → Bool
  client : Option Nat
  read : List (Nat × CtrlMessage)
  requests : List Nat
  written : List Written

def CtrlServer.initial : CtrlServer where
  state := .initialized
  done := false
  stop := none
  stopByte := false
  phase := .started
  connections := 0
  backlog := []
  incoming _ := []
  begun _ := false
  disconnected _ := false
  client := none
  read := []
  requests := []
  written := []

inductive CtrlEvent
  /-- A client connects. -/
  | connect
  /-- A part of a message arrives. -/
  | begin (connection : Nat)
  /-- A message has arrived. -/
  | send (connection : Nat) (message : CtrlMessage)
  | disconnect (connection : Nat)
  /-- `BeginStopping` on some thread. -/
  | stop
  /-- The next step of the `Stop` that has changed `state_`. -/
  | waitUntilStopped
  /-- The next step of the thread; `ok` if the call it makes succeeds. -/
  | server (ok : Bool)
  /-- A worker processes the request and may answer it, and the write may succeed. -/
  | finish (message : Nat) (sendResponse : Bool) (status : Nat) (data : List UInt8) (ok : Bool)
  deriving DecidableEq

namespace CtrlServer

/-- `CtrlServerThread::isRunning`. -/
def isRunning (s : CtrlServer) : Bool := s.done || s.state == .running

/-- A frame goes to `server_to_client_socket_`, if the write succeeds. -/
def writeMessage (s : CtrlServer) (ok : Bool) (message : Nat) (response : CtrlResponse) :
    CtrlServer :=
  match s.client with
  | none => s
  | some connection =>
      if ok then { s with written := s.written ++ [⟨message, connection, response⟩] } else s

/-- `sendCtrlRequestComplete` with the command and the token of the message. -/
def sendCtrlRequestComplete (s : CtrlServer) (ok : Bool) (index : Nat) (message : CtrlMessage)
    (status : Nat) (data : List UInt8) : CtrlServer :=
  s.writeMessage ok index ⟨numberCmd message.cmd, numberToken message.token, status, data⟩

/-- The answer to `CTRL_CMD_ECHO`. -/
def echo (message : CtrlMessage) : CtrlResponse :=
  ⟨some message.cmd, some message.token, message.status, message.data⟩

/-- A message that was read. -/
def handle (s : CtrlServer) (ok : Bool) (index : Nat) (message : CtrlMessage) : CtrlServer :=
  if message.cmd.toNat = CTRL_CMD_ECHO then
    { s.writeMessage ok index (echo message) with phase := if ok then .innerTest else .closeClient }
  else
    match onCtrlServerCmd message.cmd with
    | .ctrlWorker | .simulatedRadioWorker =>
        { s with requests := s.requests ++ [index], phase := .innerTest }
    | .unknown =>
        { s.sendCtrlRequestComplete ok index message RIL_E_REQUEST_NOT_SUPPORTED [] with
          phase := .innerTest }

/-- Something to read on the connection, be it its end. -/
def readable (s : CtrlServer) (connection : Nat) : Bool :=
  s.incoming connection ≠ [] || s.begun connection || s.disconnected connection

def server (s : CtrlServer) (ok : Bool) : Option CtrlServer :=
  match s.phase with
  | .started => some { s with state := .running, phase := .outerTest }
  | .outerTest => some { s with phase := if s.isRunning then .selectAccept else .left }
  | .selectAccept =>
      if s.stopByte || s.backlog ≠ [] then some { s with phase := .acceptTest (s.backlog ≠ []) }
      else none
  | .acceptTest found =>
      some { s with
        phase := if ¬ s.isRunning then .left else if found then .accept else .outerTest }
  | .accept =>
      match s.backlog with
      | [] => none
      | connection :: backlog =>
          if ok then
            some { s with client := some connection, backlog := backlog, phase := .innerTest }
          else some { s with client := none, phase := .innerTest }
  | .innerTest =>
      some { s with phase := if s.client.isSome && s.isRunning then .selectClient else .closeClient }
  | .selectClient =>
      if s.stopByte || s.client.any s.readable then some { s with phase := .clientTest } else none
  | .clientTest => some { s with phase := if s.isRunning then .readMessage else .closeClient }
  | .readMessage =>
      match s.client with
      | none => none
      | some connection =>
          match s.incoming connection with
          | message :: rest =>
              some { s with
                incoming := Function.update s.incoming connection rest
                read := s.read ++ [(connection, message)]
                phase := .handle s.read.length }
          | [] =>
              if s.disconnected connection then some { s with phase := .closeClient } else none
  | .handle index =>
      match s.read[index]? with
      | none => none
      | some (_, message) => some (s.handle ok index message)
  | .closeClient => some { s with client := none, phase := .outerTest }
  | .left => some { s with state := .stopped, phase := .finished }
  | .finished => none

def step (s : CtrlServer) : CtrlEvent → Option CtrlServer
  | .connect =>
      some { s with connections := s.connections + 1, backlog := s.backlog ++ [s.connections] }
  | .begin connection =>
      if connection < s.connections ∧ s.disconnected connection = false then
        some { s with begun := Function.update s.begun connection true }
      else none
  | .send connection message =>
      if connection < s.connections ∧ s.disconnected connection = false then
        some { s with
          begun := Function.update s.begun connection false
          incoming := Function.update s.incoming connection (s.incoming connection ++ [message]) }
      else none
  | .disconnect connection =>
      if connection < s.connections then
        some { s with disconnected := Function.update s.disconnected connection true }
      else none
  -- the other calls of `Stop` return at once
  | .stop =>
      if s.state = .running then some { s with state := .stopping, stop := some .setDone } else some s
  | .waitUntilStopped =>
      match s.stop with
      | some .setDone => some { s with done := true, stop := some .send }
      | some .send => some { s with stopByte := true, stop := some .poll }
      | some .poll => if s.state = .stopping then some s else some { s with stop := some .returned }
      | _ => none
  | .server ok => s.server ok
  | .finish index sendResponse status data ok =>
      if s.phase.unlocked ∧ index ∈ s.requests then
        match s.read[index]? with
        | none => none
        | some (_, message) =>
            if sendResponse then some (s.sendCtrlRequestComplete ok index message status data)
            else some s
      else none

/-- A frame is written if somebody is connected and the write succeeds. -/
theorem writeMessage_cases (s : CtrlServer) (ok : Bool) (index : Nat) (response : CtrlResponse) :
    (ok = false ∨ s.client = none) ∧ s.writeMessage ok index response = s ∨
      ∃ connection, ok = true ∧ s.client = some connection ∧
        s.writeMessage ok index response =
          { s with written := s.written ++ [⟨index, connection, response⟩] } := by
  rcases Option.eq_none_or_eq_some s.client with client | ⟨connection, client⟩
  · exact Or.inl ⟨Or.inr client, by simp [writeMessage, client]⟩
  · cases ok with
    | false => exact Or.inl ⟨Or.inl rfl, by simp [writeMessage, client]⟩
    | true => exact Or.inr ⟨connection, rfl, client, by simp [writeMessage, client]⟩

/-- A write only writes, and for the message. -/
theorem writeMessage_eq (s : CtrlServer) (ok : Bool) (index : Nat) (response : CtrlResponse) :
    ∃ written, s.writeMessage ok index response = { s with written := written } ∧
      ∀ frame ∈ written, frame ∈ s.written ∨ frame.message = index := by
  rcases s.writeMessage_cases ok index response with ⟨-, same⟩ | ⟨connection, -, -, same⟩
  · exact ⟨s.written, same, fun frame member => Or.inl member⟩
  · refine ⟨_, same, fun frame member => ?_⟩
    rcases List.mem_append.mp member with old | new
    · exact Or.inl old
    · exact Or.inr (by rw [List.mem_singleton.mp new])

theorem handle_eq (s : CtrlServer) (ok : Bool) (index : Nat) (message : CtrlMessage) :
    ∃ written requests phase,
      s.handle ok index message = { s with written := written, requests := requests, phase := phase } ∧
      (phase = .innerTest ∨ phase = .closeClient) ∧
      ∀ frame ∈ written, frame ∈ s.written ∨ frame.message = index := by
  have writes (response : CtrlResponse) := s.writeMessage_eq ok index response
  by_cases echoes : message.cmd.toNat = CTRL_CMD_ECHO
  · rw [handle, if_pos echoes]
    obtain ⟨written, same, own⟩ := writes (echo message)
    rw [same]
    refine ⟨written, s.requests, _, rfl, ?_, own⟩
    cases ok
    · exact Or.inr rfl
    · exact Or.inl rfl
  · rw [handle, if_neg echoes]
    cases onCtrlServerCmd message.cmd with
    | unknown =>
        obtain ⟨written, same, own⟩ :=
          writes ⟨numberCmd message.cmd, numberToken message.token, RIL_E_REQUEST_NOT_SUPPORTED, []⟩
        simp only [sendCtrlRequestComplete, same]
        exact ⟨written, s.requests, _, rfl, Or.inl rfl, own⟩
    | _ => exact ⟨s.written, _, _, rfl, Or.inl rfl, fun frame member => Or.inl member⟩

/-- So does a worker that finishes a request. -/
theorem finish_eq (s : CtrlServer) (sendResponse ok : Bool) (index : Nat) (message : CtrlMessage)
    (status : Nat) (data : List UInt8) :
    ∃ written, (if sendResponse then s.sendCtrlRequestComplete ok index message status data else s) =
        { s with written := written } ∧
      ∀ frame ∈ written, frame ∈ s.written ∨ frame.message = index := by
  cases sendResponse with
  | false => exact ⟨s.written, rfl, fun frame member => Or.inl member⟩
  | true =>
      rw [if_pos rfl]
      exact s.writeMessage_eq ok index ⟨numberCmd message.cmd, numberToken message.token, status, data⟩

/-- What a step is, with all it does. -/
inductive Stepped (s : CtrlServer) : CtrlEvent → CtrlServer → Prop
  | connect :
      Stepped s .connect
        { s with connections := s.connections + 1, backlog := s.backlog ++ [s.connections] }
  | arrives (event : CtrlEvent) (begun : Nat → Bool) (incoming : Nat → List CtrlMessage)
      (disconnected : Nat → Bool)
      (byClient : (∃ connection, event = .begin connection) ∨
        (∃ connection message, event = .send connection message) ∨
        ∃ connection, event = .disconnect connection) :
      Stepped s event
        { s with begun := begun, incoming := incoming, disconnected := disconnected }
  | stops (at' : s.state = .running) :
      Stepped s .stop { s with state := .stopping, stop := some .setDone }
  | stopFails (at' : s.state ≠ .running) : Stepped s .stop s
  | setsDone (at' : s.stop = some .setDone) :
      Stepped s .waitUntilStopped { s with done := true, stop := some .send }
  | sends (at' : s.stop = some .send) :
      Stepped s .waitUntilStopped { s with stopByte := true, stop := some .poll }
  | polls (at' : s.stop = some .poll) (stopping : s.state = .stopping) :
      Stepped s .waitUntilStopped s
  | stopReturns (at' : s.stop = some .poll) (done : s.state ≠ .stopping) :
      Stepped s .waitUntilStopped { s with stop := some .returned }
  | begins (ok : Bool) (at' : s.phase = .started) :
      Stepped s (.server ok) { s with state := .running, phase := .outerTest }
  | outerTest (ok : Bool) (at' : s.phase = .outerTest) :
      Stepped s (.server ok) { s with phase := if s.isRunning then .selectAccept else .left }
  | found (ok : Bool) (at' : s.phase = .selectAccept) :
      Stepped s (.server ok) { s with phase := .acceptTest (s.backlog ≠ []) }
  | acceptTest (ok found : Bool) (at' : s.phase = .acceptTest found) :
      Stepped s (.server ok) { s with
        phase := if ¬ s.isRunning then .left else if found then .accept else .outerTest }
  | accepts (connection : Nat) (backlog : List Nat) (at' : s.phase = .accept)
      (first : s.backlog = connection :: backlog) :
      Stepped s (.server true)
        { s with client := some connection, backlog := backlog, phase := .innerTest }
  | acceptFails (at' : s.phase = .accept) :
      Stepped s (.server false) { s with client := none, phase := .innerTest }
  | innerTest (ok : Bool) (at' : s.phase = .innerTest) :
      Stepped s (.server ok) { s with
        phase := if s.client.isSome && s.isRunning then .selectClient else .closeClient }
  | readies (ok : Bool) (at' : s.phase = .selectClient) :
      Stepped s (.server ok) { s with phase := .clientTest }
  | clientTest (ok : Bool) (at' : s.phase = .clientTest) :
      Stepped s (.server ok) { s with phase := if s.isRunning then .readMessage else .closeClient }
  | reads (ok : Bool) (connection : Nat) (message : CtrlMessage) (rest : List CtrlMessage)
      (at' : s.phase = .readMessage) (client : s.client = some connection)
      (arrived : s.incoming connection = message :: rest) :
      Stepped s (.server ok) { s with
        incoming := Function.update s.incoming connection rest
        read := s.read ++ [(connection, message)]
        phase := .handle s.read.length }
  | readFails (ok : Bool) (at' : s.phase = .readMessage) :
      Stepped s (.server ok) { s with phase := .closeClient }
  | handles (ok : Bool) (index connection : Nat) (message : CtrlMessage)
      (at' : s.phase = .handle index) (known : s.read[index]? = some (connection, message)) :
      Stepped s (.server ok) (s.handle ok index message)
  | closes (ok : Bool) (at' : s.phase = .closeClient) :
      Stepped s (.server ok) { s with client := none, phase := .outerTest }
  | leaves (ok : Bool) (at' : s.phase = .left) :
      Stepped s (.server ok) { s with state := .stopped, phase := .finished }
  | finishes (index : Nat) (sendResponse : Bool) (status : Nat) (data : List UInt8) (ok : Bool)
      (connection : Nat) (message : CtrlMessage) (requested : index ∈ s.requests)
      (free : s.phase.unlocked = true) (known : s.read[index]? = some (connection, message)) :
      Stepped s (.finish index sendResponse status data ok)
        (if sendResponse then s.sendCtrlRequestComplete ok index message status data else s)

theorem stepped_of_server {s s' : CtrlServer} {ok : Bool} (stepped : s.server ok = some s') :
    s.Stepped (.server ok) s' := by
  simp only [server] at stepped
  cases phase : s.phase with
  | started => exact Option.some.inj (by simpa only [phase] using stepped) ▸ .begins ok phase
  | outerTest => exact Option.some.inj (by simpa only [phase] using stepped) ▸ .outerTest ok phase
  | selectAccept =>
      simp only [phase] at stepped
      obtain ⟨-, shape⟩ := Option.ite_none_right_eq_some.mp stepped
      exact Option.some.inj shape ▸ .found ok phase
  | acceptTest found =>
      exact Option.some.inj (by simpa only [phase] using stepped) ▸ .acceptTest ok found phase
  | accept =>
      simp only [phase] at stepped
      cases first : s.backlog with
      | nil => simp [first] at stepped
      | cons connection backlog =>
          simp only [first] at stepped
          cases ok with
          | true => exact Option.some.inj stepped ▸ .accepts connection backlog phase first
          | false =>
              rw [← first] at stepped
              exact Option.some.inj stepped ▸ .acceptFails phase
  | innerTest => exact Option.some.inj (by simpa only [phase] using stepped) ▸ .innerTest ok phase
  | selectClient =>
      simp only [phase] at stepped
      obtain ⟨-, shape⟩ := Option.ite_none_right_eq_some.mp stepped
      exact Option.some.inj shape ▸ .readies ok phase
  | clientTest => exact Option.some.inj (by simpa only [phase] using stepped) ▸ .clientTest ok phase
  | readMessage =>
      simp only [phase] at stepped
      cases client : s.client with
      | none => simp [client] at stepped
      | some connection =>
          simp only [client] at stepped
          cases arrived : s.incoming connection with
          | nil =>
              simp only [arrived] at stepped
              obtain ⟨-, shape⟩ := Option.ite_none_right_eq_some.mp stepped
              rw [← client] at shape
              exact Option.some.inj shape ▸ .readFails ok phase
          | cons message rest =>
              simp only [arrived, Option.some.injEq] at stepped
              rw [← client] at stepped
              exact stepped ▸ .reads ok connection message rest phase client arrived
  | handle index =>
      simp only [phase] at stepped
      cases known : s.read[index]? with
      | none => simp [known] at stepped
      | some pair =>
          obtain ⟨connection, message⟩ := pair
          simp only [known, Option.some.injEq] at stepped
          exact stepped ▸ .handles ok index connection message phase known
  | closeClient => exact Option.some.inj (by simpa only [phase] using stepped) ▸ .closes ok phase
  | left => exact Option.some.inj (by simpa only [phase] using stepped) ▸ .leaves ok phase
  | finished => simp [phase] at stepped

theorem stepped_of_step {s s' : CtrlServer} {event : CtrlEvent} (stepped : s.step event = some s') :
    s.Stepped event s' := by
  cases event with
  | connect => exact Option.some.inj stepped ▸ .connect
  | begin connection =>
      obtain ⟨-, shape⟩ := Option.ite_none_right_eq_some.mp stepped
      exact Option.some.inj shape ▸
        .arrives _ (Function.update s.begun connection true) s.incoming s.disconnected
          (Or.inl ⟨connection, rfl⟩)
  | send connection message =>
      obtain ⟨-, shape⟩ := Option.ite_none_right_eq_some.mp stepped
      exact Option.some.inj shape ▸
        .arrives _ (Function.update s.begun connection false)
          (Function.update s.incoming connection (s.incoming connection ++ [message]))
          s.disconnected (Or.inr (Or.inl ⟨connection, message, rfl⟩))
  | disconnect connection =>
      obtain ⟨-, shape⟩ := Option.ite_none_right_eq_some.mp stepped
      exact Option.some.inj shape ▸
        .arrives _ s.begun s.incoming (Function.update s.disconnected connection true)
          (Or.inr (Or.inr ⟨connection, rfl⟩))
  | stop =>
      simp only [step] at stepped
      split_ifs at stepped with running
      · exact Option.some.inj stepped ▸ .stops running
      · exact Option.some.inj stepped ▸ .stopFails running
  | waitUntilStopped =>
      simp only [step] at stepped
      cases stop : s.stop with
      | none => simp [stop] at stepped
      | some phase =>
          cases phase with
          | setDone =>
              simp only [stop, Option.some.injEq] at stepped
              exact stepped ▸ .setsDone stop
          | send =>
              simp only [stop, Option.some.injEq] at stepped
              exact stepped ▸ .sends stop
          | poll =>
              simp only [stop] at stepped
              split_ifs at stepped with stopping
              · exact Option.some.inj stepped ▸ .polls stop stopping
              · exact Option.some.inj stepped ▸ .stopReturns stop stopping
          | returned => simp [stop] at stepped
  | server ok => exact stepped_of_server stepped
  | finish index sendResponse status data ok =>
      obtain ⟨⟨free, requested⟩, shape⟩ := Option.ite_none_right_eq_some.mp stepped
      cases known : s.read[index]? with
      | none => simp [known] at shape
      | some pair =>
          obtain ⟨connection, message⟩ := pair
          simp only [known] at shape
          have finished : (if sendResponse then
              s.sendCtrlRequestComplete ok index message status data else s) = s' := by
            split_ifs at shape ⊢
            · exact Option.some.inj shape
            · exact Option.some.inj shape
          exact finished ▸
            .finishes index sendResponse status data ok connection message requested free known

end CtrlServer

end RildHisi.MockRil
