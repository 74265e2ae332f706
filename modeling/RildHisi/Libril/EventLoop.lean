import RildHisi.Libril.RilEvent
import RildHisi.Libril.Operations

/-!
Owns libril as threads that share its statics: the event loop of ril_event.cpp with
the callbacks of ril.cpp, and any number of threads that complete requests or send
unsolicited messages. `step` is one action of one of them; between two actions of a
thread every other may act.

The writes of a frame are one action, the `close` behind one that fails is another, and so are
the critical sections. The wake-up pipe is only a
descriptor here: what is written to it changes nothing that is embedded. Threads may
start to send at any time, the event loop itself included; timers, whose callbacks can
only do that, are left out.
-/

namespace RildHisi.Libril

open RildHisi.Library

/-- `s_wakeupfd_event`, `s_listen_event` and `s_commands_event`. -/
inductive EventName
  | wakeupfd | listen | commands
  deriving DecidableEq, Repr

instance : Fintype EventName where
  elems := {.wakeupfd, .listen, .commands}
  complete := fun ev => by cases ev <;> decide

/-- Where the event loop stands. -/
inductive Phase
  /-- `eventLoop` before `ril_event_loop`. -/
  | starting
  /-- At the call of `select`. -/
  | calling
  /-- Inside `select`, with the copy of `readFds` it was given. -/
  | blocked (rfds : Finset Int)
  /-- In `firePending`, between two callbacks. -/
  | firing
  /-- In the loop of `processCommandsCallback`. -/
  | reading
  /-- Behind that loop: the client is closed and its event deleted. -/
  | closed
  /-- The listener is watched again. -/
  | rearmed
  /-- `listenCallback` has a client, and its event is watched. -/
  | connected
  /-- The client has been told the radio state. -/
  | greeted
  /-- `ril_event_loop` has returned. -/
  | returned
  /-- An assertion has failed. -/
  | aborted
  deriving DecidableEq

/-- What is done once `sendResponseRaw` has returned. -/
inductive Purpose
  | response (t : Nat)
  | unsolicited (unsolResponse : Nat)
  | missedNitz
  deriving DecidableEq

/-- Where a thread stands in `RIL_onRequestComplete` or `sendResponseRaw`. -/
inductive Sender
  /-- The request is out of the list. -/
  | dequeued (t : Nat) (e : Word) (response : Option Pointee) (responselen : Nat)
  /-- `local` and `cancelled` were read and are clear. -/
  | building (t : Nat) (e : Word) (response : Option Pointee) (responselen : Nat)
  /-- In `sendResponseRaw`, before `fd = s_fdCommand`. -/
  | sending (purpose : Purpose) (data : List UInt8)
  /-- Behind it, before `s_fdCommand < 0`. -/
  | checking (purpose : Purpose) (data : List UInt8) (fd : Int)
  /-- Behind the checks. -/
  | writing (purpose : Purpose) (data : List UInt8) (fd : Int)
  /-- In `blockingWrite` behind a `write` that failed, before `close(fd)`. -/
  | closing (purpose : Purpose) (data : List UInt8) (fd : Int)

structure LoopState where
  libril : State
  watches : Watches EventName
  phase : Phase
  /-- `s_fdWakeupRead`. -/
  fdWakeupRead : Int
  /-- `s_fdListen`. -/
  fdListen : Int
  /-- `RIL_register` has returned. -/
  registered : Bool
  senders : Nat → Option Sender
  /-- `s_writeMutex` is held by a thread that is about to close the descriptor. -/
  writeMutex : Bool
  /-- History: the connection each request was read from. -/
  origin : Nat → Option Nat
  /-- History: for each response written, the connection its request was read from and
  the one it was written to. -/
  answers : List (Nat × Nat)

namespace LoopState

def initial : LoopState where
  libril := .initial
  watches := .rilEventInit
  phase := .starting
  fdWakeupRead := 0
  fdListen := -1
  registered := false
  senders := fun _ => none
  writeMutex := false
  origin := fun _ => none
  answers := []

/-- The thread of the event loop. -/
def eventThread : Nat := 0

/-- The event loop is not inside a call that sends. -/
def Idle (s : LoopState) : Prop := (s.senders eventThread).isNone

instance (s : LoopState) : Decidable s.Idle := inferInstanceAs (Decidable (_ = true))

/-- The descriptor is open. -/
def Open (s : LoopState) (fd : Int) : Prop :=
  (s.libril.sockets fd).isSome ∨ fd = s.fdWakeupRead ∨ fd = s.fdListen

instance (s : LoopState) (fd : Int) : Decidable (s.Open fd) :=
  inferInstanceAs (Decidable (_ ∨ _))

/-- The system may give out this descriptor. -/
def Unused (s : LoopState) (fd : Int) : Prop := 0 ≤ fd ∧ ¬ s.Open fd

instance (s : LoopState) (fd : Int) : Decidable (s.Unused fd) :=
  inferInstanceAs (Decidable (_ ∧ _))

/-! ### Callbacks -/

/-- `rilEventAddWakeup`. -/
def rilEventAddWakeup (s : LoopState) (ev : EventName) : LoopState :=
  { s with watches := s.watches.rilEventAdd ev }

/-- The start of `processCommandsCallback`. -/
def processCommandsCallback (s : LoopState) : LoopState :=
  if (s.watches.events .commands).fd = s.libril.fdCommand then { s with phase := .reading }
  else { s with phase := .aborted }

/-- `listenCallback` up to `onNewCommandConnect`; `accepted` is what `accept` returns, none
for an error. -/
def listenCallback (s : LoopState) (accepted : Option Int) : LoopState :=
  if ¬ s.libril.fdCommand < 0 ∨ (s.watches.events .listen).fd ≠ s.fdListen then
    { s with phase := .aborted }
  else match accepted with
    | none =>
        { s with libril := { s.libril with fdCommand := -1 } }.rilEventAddWakeup .listen
    | some fd =>
        let s := { s with
          libril := s.libril.acceptClient fd
          watches := s.watches.rilEventSet .commands fd true
          phase := .connected }
        s.rilEventAddWakeup .commands

/-- One turn of `firePending`. -/
def firePending (s : LoopState) (accepted : Option Int) : LoopState :=
  match s.watches.pendingList with
  | [] => { s with phase := .calling }
  | ev :: rest =>
      let s := { s with watches := { s.watches with pendingList := rest } }
      match ev with
      -- `processWakeupCallback` empties the pipe
      | .wakeupfd => s
      | .listen => s.listenCallback accepted
      | .commands => s.processCommandsCallback

/-- The end of `processCommandsCallback`, up to `rilEventAddWakeup`. -/
def closeCommand (s : LoopState) : LoopState :=
  { s with
    libril := s.libril.closeCommand
    watches := s.watches.rilEventDel .commands
    phase := .closed }

end LoopState

/-! ### Sending threads -/

/-- What follows the return of `sendResponseRaw`. -/
def State.finish (s : State) (purpose : Purpose) (data : List UInt8) (ret : Int) : State :=
  match purpose with
  | .response t => { s with heap := Function.update s.heap t none }
  | .unsolicited unsolResponse =>
      if ret ≠ 0 ∧ unsolResponse = rilUnsolNitzTimeReceived then
        { s with lastNitzTimeData := some data }
      else s
  | .missedNitz => { s with lastNitzTimeData := none }

section Parcel

variable (P : Type) [Platform P] (version : Nat)

/-- The next thing a sending thread does. -/
def Sender.advance (s : State) (script : List WriteOutcome) : Sender → State × Option Sender
  | dequeued t e response responselen =>
      match s.heap t with
      | none => (s, none)
      | some pRI =>
          if pRI.isLocal || pRI.cancelled then
            ({ s with heap := Function.update s.heap t none }, none)
          else (s, some (building t e response responselen))
  | building t e response responselen =>
      match s.heap t with
      | none => (s, none)
      | some pRI =>
          let p := responseParcel P version pRI e response responselen
          (s, some (sending (.response t) (Platform.data p)))
  | sending purpose data => (s, some (checking purpose data s.fdCommand))
  | checking purpose data fd =>
      if s.fdCommand < 0 ∨ maxCommandBytes < data.length then
        (s.finish purpose data (-1), none)
      else (s, some (writing purpose data fd))
  | writing purpose data fd =>
      let (ret, written) := s.writeFrame fd data script
      let s := { written with sockets := s.sockets }
      if ret = 0 then (s.finish purpose data ret, none) else (s, some (closing purpose data fd))
  | closing purpose data fd => ((s.closeSocket fd).finish purpose data (-1), none)

/-- The thread has to wait for `s_writeMutex`. -/
def Sender.Waits (writeMutex : Bool) : Sender → Prop
  | writing .. => writeMutex = true
  | _ => False

instance (writeMutex : Bool) (sender : Sender) : Decidable (sender.Waits writeMutex) := by
  cases sender <;> unfold Sender.Waits <;> infer_instance

/-- `s_writeMutex` behind what a thread does. Between its actions a thread holds it only before
`close(fd)`. -/
def Sender.writeMutex (held : Bool) (next : Option Sender) : Sender → Bool
  | writing .. => next.isSome
  | closing .. => false
  | _ => held

/-- The response a thread is about to write, if there is a client behind its descriptor. -/
def LoopState.answering (s : LoopState) : Sender → List (Nat × Nat)
  | .writing (.response t) _ fd =>
      match s.origin t, s.libril.sockets fd with
      | some origin, some connection => [(origin, connection)]
      | _, _ => []
  | _ => []

def LoopState.setSender (s : LoopState) (thread : Nat) (sender : Option Sender) : LoopState :=
  { s with senders := Function.update s.senders thread sender }

/-- An action of one of the threads. -/
inductive Action
  /-- The event loop enters `ril_event_loop`. -/
  | start (fdWakeupRead : Int)
  /-- Another thread makes the listener in `RIL_register`. -/
  | register (fdListen : Int)
  | select
  /-- `select` returns `-1` with `EINTR`. -/
  | interrupted
  /-- `select` returns with these descriptors ready. -/
  | selected (ready : Finset Int)
  | firePending (accepted : Option Int)
  /-- `record_stream_get_next` has a record. -/
  | processCommandBuffer (buffer : List UInt8) (pRI : Nat)
  /-- `record_stream_get_next` fails with `EAGAIN` or `EINTR`. -/
  | again
  /-- `record_stream_get_next` finds the end of the stream or another error. -/
  | endOfStream
  | rearm
  | onCommandsSocketClosed
  /-- `onNewCommandConnect` sends the radio state. -/
  | radioStateChanged (radioState : Word)
  /-- `onNewCommandConnect` sends the NITZ time that was missed. -/
  | resendNitz
  | rilOnRequestComplete (thread t : Nat) (e : Word) (response : Option Pointee)
      (responselen : Nat)
  | rilOnUnsolicitedResponse (thread unsolResponse : Nat) (payload : List UInt8)
  | advance (thread : Nat) (script : List WriteOutcome)

/-- One action, where it can happen. What needs `listMutex` waits for it. -/
def LoopState.step (s : LoopState) : Action → Option LoopState
  | .start fd =>
      if s.phase = .starting ∧ s.watches.listMutex = false ∧ s.Unused fd then
        let s := { s with
          fdWakeupRead := fd
          watches := s.watches.rilEventSet .wakeupfd fd true
          phase := .calling }
        some (s.rilEventAddWakeup .wakeupfd)
      else none
  | .register fd =>
      if s.registered = false ∧ s.watches.listMutex = false ∧ s.Unused fd then
        let s := { s with
          fdListen := fd
          watches := s.watches.rilEventSet .listen fd false
          registered := true }
        some (s.rilEventAddWakeup .listen)
      else none
  | .select =>
      if s.phase = .calling then
        if ∀ fd ∈ s.watches.readFds, fd < s.watches.nfds → s.Open fd then
          some { s with phase := .blocked s.watches.readFds }
        -- `EBADF`
        else some { s with phase := .returned }
      else none
  | .interrupted =>
      match s.phase with
      | .blocked _ => some { s with phase := .calling }
      | _ => none
  | .selected ready =>
      match s.phase with
      | .blocked rfds =>
          if ready ⊆ rfds ∧ s.watches.listMutex = false then
            some { s with
              watches := s.watches.processReadReadies ready ready.card
              phase := .firing }
          else none
      | _ => none
  | .firePending accepted =>
      if s.phase = .firing ∧ s.Idle ∧ s.watches.listMutex = false ∧
          ∀ fd, accepted = some fd → s.Unused fd then
        some (s.firePending accepted)
      else none
  | .processCommandBuffer buffer pRI =>
      if s.phase = .reading ∧ s.Idle ∧ s.libril.Fresh pRI then
        some { s with
          libril := s.libril.processCommandBuffer P version buffer pRI
          origin := Function.update s.origin pRI (some (s.libril.connections - 1)) }
      else none
  | .again =>
      -- on a closed descriptor the error is `EBADF`
      if s.phase = .reading ∧ s.Idle ∧ (s.libril.sockets s.libril.fdCommand).isSome then
        some { s with phase := .firing }
      else none
  | .endOfStream =>
      if s.phase = .reading ∧ s.Idle ∧ s.watches.listMutex = false then some s.closeCommand
      else none
  | .rearm =>
      if s.phase = .closed ∧ s.watches.listMutex = false then
        some ({ s with phase := .rearmed }.rilEventAddWakeup .listen)
      else none
  | .onCommandsSocketClosed =>
      if s.phase = .rearmed then
        some { s with libril := s.libril.onCommandsSocketClosed, phase := .firing }
      else none
  | .radioStateChanged radioState =>
      if s.phase = .connected ∧ s.Idle then
        let data := wordBytes responseUnsolicited ++
          wordBytes (BitVec.ofNat 32 rilUnsolResponseBase) ++ wordBytes radioState
        let s := { s with phase := .greeted }
        some (s.setSender eventThread (some (.sending (.unsolicited rilUnsolResponseBase) data)))
      else none
  | .resendNitz =>
      if s.phase = .greeted ∧ s.Idle then
        let sender := s.libril.lastNitzTimeData.map fun data => .sending .missedNitz data
        some ({ s with phase := .firing }.setSender eventThread sender)
      else none
  | .rilOnRequestComplete thread t e response responselen =>
      if (s.senders thread).isNone then
        let (found, libril) := s.libril.checkAndDequeueRequestInfo t
        let sender := if found then some (.dequeued t e response responselen) else none
        some ({ s with libril := libril }.setSender thread sender)
      else none
  | .rilOnUnsolicitedResponse thread unsolResponse payload =>
      if (s.senders thread).isNone ∧ rilUnsolResponseBase ≤ unsolResponse ∧
          unsolResponse < rilUnsolResponseBase + numUnsolResponses then
        let data := wordBytes responseUnsolicited ++ wordBytes (BitVec.ofNat 32 unsolResponse) ++
          payload
        some (s.setSender thread (some (.sending (.unsolicited unsolResponse) data)))
      else none
  | .advance thread script =>
      match s.senders thread with
      | none => none
      | some sender =>
          if sender.Waits s.writeMutex then none
          else
            let (libril, next) := sender.advance P version s.libril script
            some ({ s with
              libril := libril
              writeMutex := sender.writeMutex s.writeMutex next
              answers := s.answers ++ s.answering sender }.setSender thread next)

/-- What an action is, with all it does. -/
inductive LoopState.Stepped (s : LoopState) : Action → LoopState → Prop
  | start (fd : Int) (begins : s.phase = .starting) (unused : s.Unused fd) :
      Stepped s (.start fd)
        ({ s with
          fdWakeupRead := fd
          watches := s.watches.rilEventSet .wakeupfd fd true
          phase := .calling }.rilEventAddWakeup .wakeupfd)
  | register (fd : Int) (first : s.registered = false) (unused : s.Unused fd) :
      Stepped s (.register fd)
        ({ s with
          fdListen := fd
          watches := s.watches.rilEventSet .listen fd false
          registered := true }.rilEventAddWakeup .listen)
  | select (calls : s.phase = .calling)
      (opened : ∀ fd ∈ s.watches.readFds, fd < s.watches.nfds → s.Open fd) :
      Stepped s .select { s with phase := .blocked s.watches.readFds }
  | badFd (calls : s.phase = .calling)
      (stale : ¬ ∀ fd ∈ s.watches.readFds, fd < s.watches.nfds → s.Open fd) :
      Stepped s .select { s with phase := .returned }
  | interrupted (rfds : Finset Int) (waits : s.phase = .blocked rfds) :
      Stepped s .interrupted { s with phase := .calling }
  | selected (ready rfds : Finset Int) (waits : s.phase = .blocked rfds) :
      Stepped s (.selected ready) { s with
        watches := s.watches.processReadReadies ready ready.card
        phase := .firing }
  | firePending (accepted : Option Int) (fires : s.phase = .firing)
      (unused : ∀ fd, accepted = some fd → s.Unused fd) :
      Stepped s (.firePending accepted) (s.firePending accepted)
  | processCommandBuffer (buffer : List UInt8) (pRI : Nat) (reads : s.phase = .reading)
      (fresh : s.libril.Fresh pRI) :
      Stepped s (.processCommandBuffer buffer pRI) { s with
        libril := s.libril.processCommandBuffer P version buffer pRI
        origin := Function.update s.origin pRI (some (s.libril.connections - 1)) }
  | again (reads : s.phase = .reading) : Stepped s .again { s with phase := .firing }
  | endOfStream (reads : s.phase = .reading) : Stepped s .endOfStream s.closeCommand
  | rearm (begins : s.phase = .closed) :
      Stepped s .rearm ({ s with phase := .rearmed }.rilEventAddWakeup .listen)
  | onCommandsSocketClosed (begins : s.phase = .rearmed) :
      Stepped s .onCommandsSocketClosed
        { s with libril := s.libril.onCommandsSocketClosed, phase := .firing }
  | radioStateChanged (radioState : Word) (data : List UInt8) (begins : s.phase = .connected) :
      Stepped s (.radioStateChanged radioState)
        ({ s with phase := .greeted }.setSender eventThread
          (some (.sending (.unsolicited rilUnsolResponseBase) data)))
  | resendNitz (begins : s.phase = .greeted) :
      Stepped s .resendNitz
        ({ s with phase := .firing }.setSender eventThread
          (s.libril.lastNitzTimeData.map fun data => .sending .missedNitz data))
  | rilOnRequestComplete (thread t : Nat) (e : Word) (response : Option Pointee)
      (responselen : Nat) (idle : s.senders thread = none) :
      Stepped s (.rilOnRequestComplete thread t e response responselen)
        ({ s with libril := (s.libril.checkAndDequeueRequestInfo t).2 }.setSender thread
          (if (s.libril.checkAndDequeueRequestInfo t).1 then
            some (.dequeued t e response responselen) else none))
  | rilOnUnsolicitedResponse (thread unsolResponse : Nat) (payload data : List UInt8)
      (idle : s.senders thread = none) :
      Stepped s (.rilOnUnsolicitedResponse thread unsolResponse payload)
        (s.setSender thread (some (.sending (.unsolicited unsolResponse) data)))
  | advance (thread : Nat) (script : List WriteOutcome) (sender : Sender)
      (present : s.senders thread = some sender) :
      Stepped s (.advance thread script)
        ({ s with
          libril := (sender.advance P version s.libril script).1
          writeMutex := sender.writeMutex s.writeMutex (sender.advance P version s.libril script).2
          answers := s.answers ++ s.answering sender }.setSender thread
            (sender.advance P version s.libril script).2)

theorem LoopState.stepped_of_step {s s' : LoopState} {action : Action}
    (stepped : s.step P version action = some s') : s.Stepped P version action s' := by
  cases action with
  | start fd =>
      obtain ⟨⟨begins, -, unused⟩, shape⟩ := Option.ite_none_right_eq_some.mp stepped
      exact Option.some.inj shape ▸ .start fd begins unused
  | register fd =>
      obtain ⟨⟨first, -, unused⟩, shape⟩ := Option.ite_none_right_eq_some.mp stepped
      exact Option.some.inj shape ▸ .register fd first unused
  | select =>
      obtain ⟨calls, shape⟩ := Option.ite_none_right_eq_some.mp stepped
      split_ifs at shape with opened
      · exact Option.some.inj shape ▸ .select calls opened
      · exact Option.some.inj shape ▸ .badFd calls opened
  | interrupted =>
      cases waits : s.phase with
      | blocked rfds =>
          simp only [LoopState.step, waits, Option.some.injEq] at stepped
          exact stepped ▸ .interrupted rfds waits
      | _ => simp [LoopState.step, waits] at stepped
  | selected ready =>
      cases waits : s.phase with
      | blocked rfds =>
          simp only [LoopState.step, waits] at stepped
          obtain ⟨-, shape⟩ := Option.ite_none_right_eq_some.mp stepped
          exact Option.some.inj shape ▸ .selected ready rfds waits
      | _ => simp [LoopState.step, waits] at stepped
  | firePending accepted =>
      obtain ⟨⟨fires, -, -, unused⟩, shape⟩ := Option.ite_none_right_eq_some.mp stepped
      exact Option.some.inj shape ▸ .firePending accepted fires unused
  | processCommandBuffer buffer pRI =>
      obtain ⟨⟨reads, -, fresh⟩, shape⟩ := Option.ite_none_right_eq_some.mp stepped
      exact Option.some.inj shape ▸ .processCommandBuffer buffer pRI reads fresh
  | again =>
      obtain ⟨⟨reads, -⟩, shape⟩ := Option.ite_none_right_eq_some.mp stepped
      exact Option.some.inj shape ▸ .again reads
  | endOfStream =>
      obtain ⟨⟨reads, -⟩, shape⟩ := Option.ite_none_right_eq_some.mp stepped
      exact Option.some.inj shape ▸ .endOfStream reads
  | rearm =>
      obtain ⟨⟨begins, -⟩, shape⟩ := Option.ite_none_right_eq_some.mp stepped
      exact Option.some.inj shape ▸ .rearm begins
  | onCommandsSocketClosed =>
      obtain ⟨begins, shape⟩ := Option.ite_none_right_eq_some.mp stepped
      exact Option.some.inj shape ▸ .onCommandsSocketClosed begins
  | radioStateChanged radioState =>
      obtain ⟨⟨begins, -⟩, shape⟩ := Option.ite_none_right_eq_some.mp stepped
      exact Option.some.inj shape ▸ .radioStateChanged radioState _ begins
  | resendNitz =>
      obtain ⟨⟨begins, -⟩, shape⟩ := Option.ite_none_right_eq_some.mp stepped
      exact Option.some.inj shape ▸ .resendNitz begins
  | rilOnRequestComplete thread t e response responselen =>
      obtain ⟨idle, shape⟩ := Option.ite_none_right_eq_some.mp stepped
      exact Option.some.inj shape ▸
        .rilOnRequestComplete thread t e response responselen (Option.isNone_iff_eq_none.mp idle)
  | rilOnUnsolicitedResponse thread unsolResponse payload =>
      obtain ⟨⟨idle, -⟩, shape⟩ := Option.ite_none_right_eq_some.mp stepped
      exact Option.some.inj shape ▸
        .rilOnUnsolicitedResponse thread unsolResponse payload _
          (Option.isNone_iff_eq_none.mp idle)
  | advance thread script =>
      cases present : s.senders thread with
      | none => simp [LoopState.step, present] at stepped
      | some sender =>
          simp only [LoopState.step, present] at stepped
          obtain ⟨-, shape⟩ := Option.ite_none_left_eq_some.mp stepped
          exact Option.some.inj shape ▸ .advance thread script sender present

end Parcel

end RildHisi.Libril
