import RildHisi.Libril.EventLoop

/-!
Owns who owns the command descriptor: in every run `s_fdCommand`, the watch table and
the open sockets agree whenever the event loop calls `select`, unless a thread behind a
failed write has closed the socket of the client behind their back. The write may have been
for an earlier client whose descriptor the client has got.
-/

namespace RildHisi.Libril

open RildHisi.Library

/-! ### What the descriptors depend on -/

/-- The part of the state that owns descriptors. -/
structure Descriptors where
  watches : Watches EventName
  phase : Phase
  fdWakeupRead : Int
  fdListen : Int
  registered : Bool
  fdCommand : Int
  /-- The client sockets that are open. -/
  live : Int → Bool

def LoopState.descriptors (s : LoopState) : Descriptors :=
  ⟨s.watches, s.phase, s.fdWakeupRead, s.fdListen, s.registered, s.libril.fdCommand,
    fun fd => (s.libril.sockets fd).isSome⟩

/-- The owners agree but for what is `lost`: a client whose socket is closed. -/
structure Owned (d : Descriptors) (lost : Prop) : Prop where
  wf : d.watches.Wf
  listMutex : d.watches.listMutex = false
  pending : d.watches.pendingList.Nodup
  quiet : d.watches.pendingList ≠ [] → d.phase ≠ .starting ∧ d.phase ≠ .calling ∧
    (∀ rfds, d.phase ≠ .blocked rfds) ∧ d.phase ≠ .returned
  running : d.phase ≠ .aborted
  wakeup : d.watches.Watched .wakeupfd →
    d.phase ≠ .starting ∧ (d.watches.events .wakeupfd).fd = d.fdWakeupRead
  listen : d.watches.Watched .listen ∨ .listen ∈ d.watches.pendingList → d.registered = true
  listenEvent : d.registered = true → (d.watches.events .listen).fd = d.fdListen ∧
    (d.watches.events .listen).persist = false ∧ 0 ≤ d.fdListen ∧ d.fdListen ≠ d.fdWakeupRead
  /-- With a client its event is watched, and the listener rests. -/
  client : 0 ≤ d.fdCommand → d.watches.Watched .commands ∧
    (d.watches.events .commands).fd = d.fdCommand ∧
    (d.watches.events .commands).persist = true ∧ ¬ d.watches.Watched .listen ∧
    .listen ∉ d.watches.pendingList ∧ d.registered = true ∧ d.phase ≠ .starting ∧
    d.phase ≠ .closed ∧ d.phase ≠ .rearmed ∧
    d.fdCommand ≠ d.fdWakeupRead ∧ d.fdCommand ≠ d.fdListen
  /-- Without a client its event is neither watched nor pending. -/
  alone : d.fdCommand < 0 → ¬ d.watches.Watched .commands ∧
    .commands ∉ d.watches.pendingList ∧ d.phase ≠ .reading ∧ d.phase ≠ .connected ∧
    d.phase ≠ .greeted
  /-- The listener is then watched or about to fire, once it is there. -/
  armed : d.fdCommand < 0 → d.registered = true → d.phase ≠ .closed →
    (d.watches.Watched .listen ↔ .listen ∉ d.watches.pendingList)
  reading : d.phase = .reading → .commands ∉ d.watches.pendingList
  closed : d.phase = .closed → d.registered = true ∧ ¬ d.watches.Watched .listen ∧
    .listen ∉ d.watches.pendingList
  live : ∀ fd, d.live fd = true → 0 ≤ fd ∧ fd = d.fdCommand
  loses : lost ↔ 0 ≤ d.fdCommand ∧ d.live d.fdCommand = false
  returned : d.phase = .returned → lost

theorem owned_initial : Owned LoopState.initial.descriptors False := by
  have unwatched (ev : EventName) : ¬ (Watches.rilEventInit : Watches EventName).Watched ev :=
    fun watched => by cases List.eq_of_mem_replicate watched
  have idle : (Watches.rilEventInit : Watches EventName).pendingList = [] := rfl
  constructor
  case wf => exact Watches.wf_rilEventInit
  case listMutex => rfl
  all_goals
    simp only [LoopState.descriptors, LoopState.initial, State.initial, idle, unwatched]
    grind

/-! ### What an action does to the owners -/

section Actions

variable {s : LoopState} {lost : Prop}

theorem few : Fintype.card EventName < maxFdEvents := by decide

/-- No event is watched for a descriptor that is not open, a lost client's apart. -/
theorem Owned.unshared (owned : Owned s.descriptors lost) (noClient : s.libril.fdCommand < 0)
    {fd : Int} (unused : s.Unused fd) : fd ∉ s.watches.readFds := by
  intro shared
  obtain ⟨ev, watched, same⟩ := (owned.wf.readFds fd).mp shared
  apply unused.2
  cases ev with
  | wakeupfd => exact Or.inr (Or.inl (same.symm.trans (owned.wakeup watched).2))
  | listen =>
      exact Or.inr (Or.inr (same.symm.trans (owned.listenEvent (owned.listen (Or.inl watched))).1))
  | commands => exact absurd watched (owned.alone noClient).1

theorem Owned.client_phase (owned : Owned s.descriptors lost) (client : 0 ≤ s.libril.fdCommand) :
    s.registered = true ∧ s.phase ≠ .starting := by
  obtain ⟨-, -, -, -, -, registered, started, -⟩ := owned.client client
  exact ⟨registered, started⟩

theorem Owned.watches (owned : Owned s.descriptors lost) : s.watches.Wf := owned.wf

/-- The pipe of the event loop. -/
theorem Owned.start (owned : Owned s.descriptors lost) {fd : Int} (begins : s.phase = .starting)
    (unused : s.Unused fd) :
    Owned ({ s with fdWakeupRead := fd
                    watches := s.watches.rilEventSet .wakeupfd fd true
                    phase := .calling }.rilEventAddWakeup .wakeupfd).descriptors lost := by
  have unwatched : ¬ s.watches.Watched .wakeupfd := fun watched => (owned.wakeup watched).1 begins
  have noClient : s.libril.fdCommand < 0 := by
    by_contra client
    exact (owned.client_phase (not_lt.mp client)).2 begins
  obtain ⟨w', same, wf, watched, here, others, pending, mutex⟩ :=
    owned.watches.watch (owned.watches.free few).choose_spec unwatched unused.1
      (owned.unshared noClient unused) true
  simp only [LoopState.rilEventAddWakeup, LoopState.descriptors, same]
  obtain ⟨-, mutex', pending', quiet, running, wakeup, listen, listenEvent, client, alone, armed,
    reading, closed, live, loses, returned⟩ := owned
  simp only [LoopState.descriptors] at *
  constructor
  case wf => exact wf
  all_goals
    simp only [watched, pending, mutex]
    grind [LoopState.Unused, LoopState.Open]

/-- The listener of `RIL_register`. -/
theorem Owned.register (owned : Owned s.descriptors lost) {fd : Int}
    (begins : s.registered = false) (unused : s.Unused fd) :
    Owned ({ s with fdListen := fd
                    watches := s.watches.rilEventSet .listen fd false
                    registered := true }.rilEventAddWakeup .listen).descriptors lost := by
  have unwatched : ¬ s.watches.Watched .listen := by
    intro watched
    have after := owned.listen (Or.inl watched)
    exact Bool.noConfusion (begins.symm.trans after)
  have noClient : s.libril.fdCommand < 0 := by
    by_contra client
    have after := (owned.client_phase (not_lt.mp client)).1
    exact Bool.noConfusion (begins.symm.trans after)
  obtain ⟨w', same, wf, watched, here, others, pending, mutex⟩ :=
    owned.watches.watch (owned.watches.free few).choose_spec unwatched unused.1
      (owned.unshared noClient unused) false
  simp only [LoopState.rilEventAddWakeup, LoopState.descriptors, same]
  obtain ⟨-, mutex', pending', quiet, running, wakeup, listen, listenEvent, client, alone, armed,
    reading, closed, live, loses, returned⟩ := owned
  simp only [LoopState.descriptors] at *
  constructor
  case wf => exact wf
  all_goals
    simp only [watched, pending, mutex]
    grind [LoopState.Unused, LoopState.Open]

/-- Without a loss every descriptor in `readFds` is open, with one the client's is not. -/
theorem Owned.readFds_open (owned : Owned s.descriptors lost) :
    (∀ fd ∈ s.watches.readFds, s.Open fd) ↔ ¬ lost := by
  obtain ⟨wf, mutex, pending, quiet, running, wakeup, listen, listenEvent, client, alone, armed,
    reading, closed, live, loses, returned⟩ := owned
  simp only [LoopState.descriptors] at *
  constructor
  · intro allOpen gone
    obtain ⟨connected, dead⟩ := loses.mp gone
    obtain ⟨watched, same, -, -, -, -, -, -, -, notWakeup, notListen⟩ := client connected
    rcases allOpen _ ((wf.readFds _).mpr ⟨_, watched, same⟩) with open_ | open_ | open_
    · rw [dead] at open_
      cases open_
    · exact notWakeup open_
    · exact notListen open_
  · intro kept fd member
    obtain ⟨ev, watched, same⟩ := (wf.readFds fd).mp member
    cases ev with
    | wakeupfd => exact Or.inr (Or.inl (same.symm.trans (wakeup watched).2))
    | listen => exact Or.inr (Or.inr (same.symm.trans (listenEvent (listen (Or.inl watched))).1))
    | commands =>
        have connected : 0 ≤ s.libril.fdCommand := by
          by_contra alone'
          exact (alone (not_le.mp alone')).1 watched
        apply Or.inl
        rw [← same, (client connected).2.1]
        by_contra dead
        exact kept (loses.mpr ⟨connected, by simpa using dead⟩)

/-- A change of phase that leaves the owners alone. -/
theorem Owned.phase (owned : Owned s.descriptors lost) (phase : Phase)
    (running : phase ≠ .starting ∧ phase ≠ .closed ∧ phase ≠ .rearmed ∧ phase ≠ .aborted)
    (before : s.phase ≠ .starting ∧ s.phase ≠ .closed)
    (quiet : s.watches.pendingList ≠ [] →
      phase ≠ .calling ∧ (∀ rfds, phase ≠ .blocked rfds) ∧ phase ≠ .returned)
    (client : phase = .reading ∨ phase = .connected ∨ phase = .greeted →
      0 ≤ s.libril.fdCommand)
    (reading : phase = .reading → .commands ∉ s.watches.pendingList)
    (returned : phase = .returned → lost) : Owned { s with phase := phase }.descriptors lost := by
  obtain ⟨wf, mutex, pending, quiet', -, wakeup, listen, listenEvent, client', alone, armed,
    -, closed, live, loses, -⟩ := owned
  simp only [LoopState.descriptors] at *
  constructor
  case wf => exact wf
  all_goals grind

theorem Owned.select (owned : Owned s.descriptors lost) (calls : s.phase = .calling) :
    if ∀ fd ∈ s.watches.readFds, fd < s.watches.nfds → s.Open fd then
      Owned { s with phase := .blocked s.watches.readFds }.descriptors lost
    else Owned { s with phase := .returned }.descriptors lost := by
  have none_ : s.watches.pendingList = [] := by
    by_contra some_
    exact (owned.quiet some_).2.1 calls
  split_ifs with allOpen
  · apply owned.phase <;> simp [calls, none_]
  · have gone : lost := by
      by_contra kept
      exact allOpen fun fd member _ => owned.readFds_open.mpr kept fd member
    apply owned.phase <;> simp [calls, none_, gone]

/-- What `select` found goes into the pending list. -/
theorem Owned.selected (owned : Owned s.descriptors lost) {rfds : Finset Int}
    (waits : s.phase = .blocked rfds) (ready : Finset Int) (n : Nat) :
    Owned { s with watches := s.watches.processReadReadies ready n
                   phase := .firing }.descriptors lost := by
  obtain ⟨fired, each, distinct, pending, becomes, -⟩ := owned.watches.processReadReadies ready n
  obtain ⟨wf, watched, events, mutex⟩ := becomes
  have watching {ev : EventName} (member : ev ∈ fired) : s.watches.Watched ev := by
    obtain ⟨-, i, -, slot⟩ := each ev member
    exact Watches.watched_iff.mpr ⟨i, slot⟩
  clear each
  simp only [LoopState.descriptors]
  generalize s.watches.processReadReadies ready n = w' at *
  obtain ⟨-, mutex', pending', quiet, running, wakeup, listen, listenEvent, client, alone, armed,
    reading, closed, live, loses, returned⟩ := owned
  simp only [LoopState.descriptors, waits] at *
  have none_ : s.watches.pendingList = [] := by
    by_contra some_
    exact (quiet some_).2.2.1 rfds rfl
  simp only [none_, List.nil_append] at *
  constructor
  case wf => exact wf
  all_goals
    simp only [watched, pending, mutex, (events _).1, (events _).2]
    grind

/-! #### Callbacks -/

/-- The first event of the pending list is taken off, to be called back. -/
def LoopState.popped (s : LoopState) (rest : List EventName) : LoopState :=
  { s with watches := { s.watches with pendingList := rest } }

theorem Watches.Wf.popped {w : Watches EventName} (wf : w.Wf) (rest : List EventName) :
    ({ w with pendingList := rest } : Watches EventName).Wf :=
  ⟨wf.length, wf.placed, wf.readFds, wf.distinct, wf.below⟩

theorem Owned.wakeupCallback (owned : Owned s.descriptors lost) {rest : List EventName}
    (pending : s.watches.pendingList = .wakeupfd :: rest) (fires : s.phase = .firing) :
    Owned (s.popped rest).descriptors lost := by
  obtain ⟨wf, mutex, distinct, quiet, running, wakeup, listen, listenEvent, client, alone, armed,
    reading, closed, live, loses, returned⟩ := owned
  simp only [LoopState.descriptors, LoopState.popped, pending, fires] at *
  constructor
  case wf => exact wf.popped rest
  all_goals
    simp only [Watches.Watched] at *
    grind

/-- The client's callback finds its descriptor. -/
theorem Owned.processCommandsCallback (owned : Owned s.descriptors lost) {rest : List EventName}
    (pending : s.watches.pendingList = .commands :: rest) (fires : s.phase = .firing) :
    Owned (s.popped rest).processCommandsCallback.descriptors lost := by
  have connected : 0 ≤ s.libril.fdCommand := by
    by_contra alone
    exact (owned.alone (not_le.mp alone)).2.1 (pending ▸ List.mem_cons_self)
  have same : ((s.popped rest).watches.events .commands).fd = (s.popped rest).libril.fdCommand :=
    (owned.client connected).2.1
  unfold LoopState.processCommandsCallback
  rw [if_pos same]
  obtain ⟨wf, mutex, distinct, quiet, running, wakeup, listen, listenEvent, client, alone, armed,
    reading, closed, live, loses, returned⟩ := owned
  simp only [LoopState.descriptors, LoopState.popped, pending, fires] at *
  constructor
  case wf => exact wf.popped rest
  all_goals
    simp only [Watches.Watched] at *
    grind

/-- The listener is watched again while there is no client. -/
theorem Owned.rearms (owned : Owned s.descriptors lost) (noClient : s.libril.fdCommand < 0)
    (registered : s.registered = true) (unwatched : ¬ s.watches.Watched .listen)
    (rest : List EventName) :
    ∃ w', ({ s.watches with pendingList := rest } : Watches EventName).rilEventAdd .listen = w' ∧
      w'.Wf ∧ (∀ ev, w'.Watched ev ↔ ev = .listen ∨ s.watches.Watched ev) ∧
      s.watches.SameEvents w' ∧ w'.pendingList = rest ∧
      w'.listMutex = s.watches.listMutex := by
  obtain ⟨same, -, valid, notWakeup⟩ := owned.listenEvent registered
  have unshared : ∀ ev, s.watches.Watched ev →
      (s.watches.events ev).fd ≠ (s.watches.events .listen).fd := by
    intro ev watched shared
    cases ev with
    | wakeupfd => exact notWakeup (same.symm.trans (shared.symm.trans (owned.wakeup watched).2))
    | listen => exact unwatched watched
    | commands => exact (owned.alone noClient).1 watched
  obtain ⟨slot, free⟩ := (owned.watches.popped rest).free few
  obtain ⟨⟨wf, watched, events, mutex⟩, pending⟩ :=
    (owned.watches.popped rest).rilEventAdd free unwatched (same.symm ▸ valid) unshared
  exact ⟨_, rfl, wf, watched, events, pending, mutex⟩

/-- The listener finds no client. It accepts one and watches it, or is watched again. -/
theorem Owned.listenCallback (owned : Owned s.descriptors lost) {rest : List EventName}
    (pending : s.watches.pendingList = .listen :: rest) (fires : s.phase = .firing)
    (accepted : Option Int) (unused : ∀ fd, accepted = some fd → s.Unused fd) :
    Owned ((s.popped rest).listenCallback accepted).descriptors lost := by
  have fired : .listen ∈ s.watches.pendingList := pending ▸ List.mem_cons_self
  have noClient : s.libril.fdCommand < 0 := by
    by_contra connected
    obtain ⟨-, -, -, -, unfired, -⟩ := owned.client (not_lt.mp connected)
    exact unfired fired
  have registered : s.registered = true := owned.listen (Or.inr fired)
  have same : (s.watches.events .listen).fd = s.fdListen := (owned.listenEvent registered).1
  have passes : ¬ (¬ (s.popped rest).libril.fdCommand < 0 ∨
      ((s.popped rest).watches.events .listen).fd ≠ (s.popped rest).fdListen) := by
    rintro (connected | other)
    · exact connected noClient
    · exact other same
  have unwatched : ¬ s.watches.Watched .listen := by
    intro watched
    have unarmed : s.phase ≠ .closed := by simp [fires]
    exact (owned.armed noClient registered unarmed).mp watched fired
  unfold LoopState.listenCallback
  rw [if_neg passes]
  cases accepted with
  | none =>
      obtain ⟨w', becomes, wf', watched, events, pending', mutex⟩ :=
        owned.rearms noClient registered unwatched rest
      simp only [LoopState.rilEventAddWakeup, LoopState.descriptors, LoopState.popped, becomes]
      obtain ⟨-, mutex', distinct, quiet, running, wakeup, listen, listenEvent, client, alone,
        armed, reading, closed, live, loses, returned⟩ := owned
      simp only [LoopState.descriptors, pending, fires] at *
      constructor
      case wf => exact wf'
      all_goals
        simp only [watched, pending', mutex, (events _).1, (events _).2]
        grind
  | some fd =>
      obtain ⟨w', becomes, wf', watched, here, others, pending', mutex⟩ :=
        (owned.watches.popped rest).watch ((owned.watches.popped rest).free few).choose_spec
          (owned.alone noClient).1 (unused fd rfl).1 (owned.unshared noClient (unused fd rfl)) true
      have away := (unused fd rfl).2
      simp only [LoopState.rilEventAddWakeup, LoopState.descriptors, LoopState.popped,
        State.acceptClient, becomes]
      obtain ⟨-, mutex', distinct, quiet, running, wakeup, listen, listenEvent, client, alone,
        armed, reading, closed, live, loses, returned⟩ := owned
      simp only [LoopState.descriptors, pending, fires, Watches.Watched, Function.update_apply] at *
      constructor
      case wf => exact wf'
      all_goals
        simp only [Watches.Watched, watched, pending', mutex]
        grind [LoopState.Unused, LoopState.Open]

theorem Owned.firePending (owned : Owned s.descriptors lost) (fires : s.phase = .firing)
    (accepted : Option Int) (unused : ∀ fd, accepted = some fd → s.Unused fd) :
    Owned (s.firePending accepted).descriptors lost := by
  unfold LoopState.firePending
  cases pending : s.watches.pendingList with
  | nil =>
      exact owned.phase .calling (by simp) (by simp [fires]) (by simp [pending]) (by simp)
        (by simp) (by simp)
  | cons ev rest =>
      cases ev with
      | wakeupfd => exact owned.wakeupCallback pending fires
      | listen => exact owned.listenCallback pending fires accepted unused
      | commands => exact owned.processCommandsCallback pending fires

/-- Behind the end of the stream nobody owns a client, and nothing is lost. -/
theorem Owned.closeCommand (owned : Owned s.descriptors lost) (reads : s.phase = .reading) :
    Owned s.closeCommand.descriptors False := by
  have connected : 0 ≤ s.libril.fdCommand := by
    by_contra noClient
    obtain ⟨-, -, notReading, -⟩ := owned.alone (not_le.mp noClient)
    exact notReading reads
  obtain ⟨⟨wf, watched, events, mutex⟩, pending⟩ :=
    owned.watches.rilEventDel (owned.client connected).1
  simp only [LoopState.closeCommand, State.closeCommand, State.closeSocket, LoopState.descriptors]
  generalize s.watches.rilEventDel .commands = w' at *
  obtain ⟨-, mutex', distinct, quiet, running, wakeup, listen, listenEvent, client, alone, armed,
    reading, closed, live, loses, returned⟩ := owned
  simp only [LoopState.descriptors, reads, Function.update_apply] at *
  constructor
  case wf => exact wf
  all_goals
    simp only [watched, pending, mutex, (events _).1, (events _).2]
    grind

theorem Owned.rearm (owned : Owned s.descriptors lost) (begins : s.phase = .closed) :
    Owned ({ s with phase := .rearmed }.rilEventAddWakeup .listen).descriptors lost := by
  have noClient : s.libril.fdCommand < 0 := by
    by_contra connected
    obtain ⟨-, -, -, -, -, -, -, notClosed, -⟩ := owned.client (not_lt.mp connected)
    exact notClosed begins
  obtain ⟨registered, unwatched, unfired⟩ := owned.closed begins
  obtain ⟨w', becomes, wf, watched, events, pending, mutex⟩ :=
    owned.rearms noClient registered unwatched s.watches.pendingList
  change s.watches.rilEventAdd .listen = w' at becomes
  simp only [LoopState.rilEventAddWakeup, LoopState.descriptors, becomes]
  obtain ⟨-, mutex', distinct, quiet, running, wakeup, listen, listenEvent, client, alone, armed,
    reading, closed, live, loses, returned⟩ := owned
  simp only [LoopState.descriptors, begins] at *
  constructor
  case wf => exact wf
  all_goals
    simp only [watched, pending, mutex, (events _).1, (events _).2]
    grind

end Actions

/-! ### What a write does to the owners -/

/-- A thread behind a failed write closes the descriptor while a client has it. -/
def ClosesClient (s : LoopState) : Action → Prop
  | .advance thread _ => ∃ purpose data fd,
      s.senders thread = some (.closing purpose data fd) ∧ (s.libril.sockets fd).isSome
  | _ => False

theorem writeFrame_fdCommand (s : State) (fd : Int) (data : List UInt8)
    (script : List WriteOutcome) : (s.writeFrame fd data script).2.fdCommand = s.fdCommand := by
  unfold State.writeFrame
  cases s.sockets fd with
  | none => rfl
  | some connection =>
      dsimp only
      split_ifs <;> rfl

theorem finish_effect (s : State) (purpose : Purpose) (data : List UInt8) (ret : Int) :
    (s.finish purpose data ret).fdCommand = s.fdCommand ∧
      (s.finish purpose data ret).sockets = s.sockets := by
  cases purpose with
  | response t => exact ⟨rfl, rfl⟩
  | unsolicited unsolResponse =>
      unfold State.finish
      simp only
      split_ifs <;> exact ⟨rfl, rfl⟩
  | missedNitz => exact ⟨rfl, rfl⟩

section Steps

variable {s s' : LoopState} {lost : Prop}

/-- The owners are those of a state in which they have not changed. -/
theorem Owned.unchanged (owned : Owned s.descriptors lost)
    (same : s'.descriptors = s.descriptors) : Owned s'.descriptors lost := by
  rw [same]
  exact owned

/-- A socket that a thread closes is the client's, which is lost. -/
theorem Owned.socketClosed (owned : Owned s.descriptors lost) {fd : Int}
    (live : (s.libril.sockets fd).isSome)
    (closes : s'.descriptors = { s.descriptors with
      live := Function.update s.descriptors.live fd false }) : Owned s'.descriptors True := by
  obtain ⟨wf, mutex, pending, quiet, running, wakeup, listen, listenEvent, client, alone, armed,
    reading, closed, isLive, loses, returned⟩ := owned
  obtain ⟨valid, rfl⟩ := isLive fd live
  rw [closes]
  constructor
  case wf => exact wf
  all_goals
    simp only [Function.update_apply] at *
    grind

variable (P : Type) [Platform P] (version : Nat)

/-- A thread leaves the sockets alone up to the `close` behind a failed write. -/
theorem Sender.advance_effect (s : State) (script : List WriteOutcome) (sender : Sender) :
    (sender.advance P version s script).1.fdCommand = s.fdCommand ∧
      ((sender.advance P version s script).1.sockets = s.sockets ∧
          (∀ purpose data fd, sender = .closing purpose data fd → ¬ (s.sockets fd).isSome) ∨
        ∃ purpose data fd, sender = .closing purpose data fd ∧ (s.sockets fd).isSome ∧
          (sender.advance P version s script).1.sockets = Function.update s.sockets fd none) := by
  cases sender with
  | dequeued t e response responselen =>
      simp only [Sender.advance]
      cases s.heap t with
      | none => simp
      | some pRI =>
          simp only
          split_ifs <;> simp
  | building t e response responselen =>
      simp only [Sender.advance]
      cases s.heap t <;> simp
  | sending purpose data => simp [Sender.advance]
  | checking purpose data fd =>
      simp only [Sender.advance]
      split_ifs
      · simp [finish_effect]
      · simp
  | writing purpose data fd =>
      have fdCommand := writeFrame_fdCommand s fd data script
      simp only [Sender.advance]
      split_ifs
      · rw [(finish_effect ..).1, (finish_effect ..).2]
        exact ⟨fdCommand, Or.inl ⟨rfl, nofun⟩⟩
      · exact ⟨fdCommand, Or.inl ⟨rfl, nofun⟩⟩
  | closing purpose data fd =>
      simp only [Sender.advance]
      rw [(finish_effect ..).1, (finish_effect ..).2]
      refine ⟨rfl, ?_⟩
      cases socket : s.sockets fd with
      | some connection => exact Or.inr ⟨purpose, data, fd, rfl, by simp [socket], rfl⟩
      | none =>
          refine Or.inl ⟨?_, ?_⟩
          · change Function.update s.sockets fd none = s.sockets
            rw [← socket, Function.update_eq_self]
          · rintro _ _ _ ⟨rfl, rfl, rfl⟩
            simp [socket]

theorem checkAndDequeue_effect (s : State) (t : Nat) :
    (s.checkAndDequeueRequestInfo t).2.fdCommand = s.fdCommand ∧
      (s.checkAndDequeueRequestInfo t).2.sockets = s.sockets := by
  unfold State.checkAndDequeueRequestInfo
  split_ifs
  · exact ⟨rfl, rfl⟩
  · split <;> exact ⟨rfl, rfl⟩

theorem processCommandBuffer_effect [LawfulPlatform P] (s : State) (buffer : List UInt8)
    (pRI : Nat) :
    (s.processCommandBuffer P version buffer pRI).fdCommand = s.fdCommand ∧
      (s.processCommandBuffer P version buffer pRI).sockets = s.sockets := by
  cases found : requestOf buffer with
  | none =>
      rw [processCommandBuffer_rejected version pRI found]
      exact ⟨rfl, rfl⟩
  | some accepted =>
      rw [processCommandBuffer_accepted version pRI found]
      exact ⟨rfl, rfl⟩

/-- An action that neither closes the client nor is the end of the stream. -/
theorem Owned.harmless {d : Descriptors} {action : Action} (owned : Owned d lost)
    (succeeds : ¬ ClosesClient s action) (open_ : action ≠ .endOfStream) :
    Owned d (ClosesClient s action ∨ lost ∧ ¬ action = .endOfStream) := by
  have same : lost ↔ ClosesClient s action ∨ lost ∧ ¬ action = .endOfStream := by tauto
  rwa [← propext same]

/-- **One action.** The owners go on to agree; the `close` behind a failed write loses the
client that has the descriptor, and the end of its stream makes up for that. -/
theorem Owned.step [LawfulPlatform P] (owned : Owned s.descriptors lost) {action : Action}
    (stepped : s.step P version action = some s') :
    Owned s'.descriptors (ClosesClient s action ∨ lost ∧ ¬ action = .endOfStream) := by
  cases LoopState.stepped_of_step P version stepped with
  | start fd begins unused => exact Owned.harmless (owned.start begins unused) id nofun
  | register fd first unused => exact Owned.harmless (owned.register first unused) id nofun
  | select calls opened =>
      have selects := owned.select calls
      rw [if_pos opened] at selects
      exact Owned.harmless selects id nofun
  | badFd calls stale =>
      have selects := owned.select calls
      rw [if_neg stale] at selects
      exact Owned.harmless selects id nofun
  | interrupted rfds waits =>
      have none_ : s.watches.pendingList = [] := by
        by_contra some_
        exact (owned.quiet some_).2.2.1 rfds waits
      refine Owned.harmless (owned.phase .calling ?_ ?_ ?_ ?_ ?_ ?_) id nofun <;>
        simp [waits, none_]
  | selected ready rfds waits =>
      exact Owned.harmless (owned.selected waits ready ready.card) id nofun
  | firePending accepted fires unused =>
      exact Owned.harmless (owned.firePending fires accepted unused) id nofun
  | processCommandBuffer buffer pRI reads fresh =>
      obtain ⟨fdCommand, sockets⟩ := processCommandBuffer_effect P version s.libril buffer pRI
      refine Owned.harmless (owned.unchanged ?_) id nofun
      simp only [LoopState.descriptors, fdCommand, sockets]
  | again reads =>
      refine Owned.harmless (owned.phase .firing ?_ ?_ ?_ ?_ ?_ ?_) id nofun <;> simp [reads]
  | endOfStream reads => simpa [ClosesClient] using owned.closeCommand reads
  | rearm begins => exact Owned.harmless (owned.rearm begins) id nofun
  | onCommandsSocketClosed begins =>
      have marked : Owned { s with phase := .firing }.descriptors lost := by
        apply owned.phase <;> simp [begins]
      exact Owned.harmless (marked.unchanged rfl) id nofun
  | radioStateChanged radioState data begins =>
      have connected : 0 ≤ s.libril.fdCommand := by
        by_contra noClient
        obtain ⟨-, -, -, notConnected, -⟩ := owned.alone (not_le.mp noClient)
        exact notConnected begins
      have greeted : Owned { s with phase := .greeted }.descriptors lost := by
        apply owned.phase <;> simp [begins, connected]
      exact Owned.harmless (greeted.unchanged rfl) id nofun
  | resendNitz begins =>
      have sent : Owned { s with phase := .firing }.descriptors lost := by
        apply owned.phase <;> simp [begins]
      exact Owned.harmless (sent.unchanged rfl) id nofun
  | rilOnRequestComplete thread t e response responselen idle =>
      obtain ⟨fdCommand, sockets⟩ := checkAndDequeue_effect s.libril t
      refine Owned.harmless (owned.unchanged ?_) id nofun
      simp only [LoopState.descriptors, LoopState.setSender, fdCommand, sockets]
  | rilOnUnsolicitedResponse thread unsolResponse payload data idle =>
      exact Owned.harmless (owned.unchanged rfl) id nofun
  | advance thread script sender present =>
      obtain ⟨fdCommand, ⟨sockets, passes⟩ | ⟨purpose, data, fd, rfl, open_, sockets⟩⟩ :=
        sender.advance_effect P version s.libril script
      · refine Owned.harmless (owned.unchanged ?_) ?_ nofun
        · simp only [LoopState.descriptors, LoopState.setSender, fdCommand, sockets]
        · rintro ⟨purpose, data, fd, closes, open_⟩
          rw [present, Option.some.injEq] at closes
          exact passes purpose data fd closes open_
      · have closed : ClosesClient s (.advance thread script) :=
          ⟨purpose, data, fd, present, open_⟩
        rw [eq_true closed, true_or]
        apply owned.socketClosed open_
        simp only [LoopState.descriptors, LoopState.setSender, fdCommand, sockets,
          Descriptors.mk.injEq, true_and]
        funext other
        simp only [Function.update_apply]
        split_ifs <;> rfl

end Steps

/-! ### At the call of `select` -/

/-- What `select` relies on: every descriptor in `readFds` is open, `s_fdCommand` is set
exactly where it is open and its event watched, and one of the two events is watched. -/
structure Consistent (s : LoopState) : Prop where
  readFds : ∀ fd ∈ s.watches.readFds, s.Open fd
  fdCommand : 0 ≤ s.libril.fdCommand ↔
    s.Open s.libril.fdCommand ∧ s.watches.Watched .commands
  one : s.registered = true → (s.watches.Watched .commands ↔ ¬ s.watches.Watched .listen)

theorem Owned.consistent_iff {s : LoopState} {lost : Prop} (owned : Owned s.descriptors lost)
    (calls : s.phase = .calling) : Consistent s ↔ ¬ lost := by
  constructor
  · intro consistent
    exact owned.readFds_open.mp consistent.readFds
  · intro kept
    refine ⟨owned.readFds_open.mpr kept, ?_, ?_⟩
    · constructor
      · intro connected
        obtain ⟨watched, same, -⟩ := owned.client connected
        have member : s.libril.fdCommand ∈ s.watches.readFds :=
          (owned.watches.readFds _).mpr ⟨.commands, watched, same⟩
        exact ⟨owned.readFds_open.mpr kept _ member, watched⟩
      · rintro ⟨-, watched⟩
        by_contra noClient
        exact (owned.alone (not_le.mp noClient)).1 watched
    · intro registered
      by_cases connected : 0 ≤ s.libril.fdCommand
      · obtain ⟨watched, -, -, unwatched, -⟩ := owned.client connected
        exact iff_of_true watched unwatched
      · obtain ⟨unwatched, -⟩ := owned.alone (not_le.mp connected)
        have unfired : .listen ∉ s.watches.pendingList := by
          intro fired
          exact (owned.quiet (List.ne_nil_of_mem fired)).2.1 calls
        have open_ : s.phase ≠ .closed := by simp [calls]
        have watched := (owned.armed (not_le.mp connected) registered open_).mpr unfired
        exact iff_of_false unwatched (not_not_intro watched)

section Runs

variable (P : Type) [Platform P] (version : Nat)

/-- Since the event loop last came to the end of a client's stream, a thread behind a failed
write has closed a descriptor that a client had. -/
def ClientLost (actions : List Action) : Prop :=
  HappenedSince (LoopState.step P version) ClosesClient (· = .endOfStream) .initial actions

/-- **The owners of the command descriptor agree** at every call of `select` but those
behind the `close` of a client's descriptor by a thread. The event loop returns only there, and no assertion fails. -/
theorem consistent_of_run [LawfulPlatform P] {actions : List Action} {s : LoopState}
    (ran : run (LoopState.step P version) .initial actions = some s) :
    (s.phase = .calling → (Consistent s ↔ ¬ ClientLost P version actions)) ∧
      (s.phase = .returned → ClientLost P version actions) ∧ s.phase ≠ .aborted := by
  have owned : Owned s.descriptors (ClientLost P version actions) :=
    run_invariant_happenedSince (fun s lost => Owned s.descriptors lost)
      (fun _ _ _ _ owned stepped => owned.step P version stepped) owned_initial ran
  exact ⟨owned.consistent_iff, owned.returned, owned.running⟩

/-- A client connects and is greeted; then the event loop waits. -/
def connectActions : List Action :=
  [.start 3, .register 5, .select, .selected {5}, .firePending (some 7), .radioStateChanged 4,
    .advance 0 [], .advance 0 [], .advance 0 [], .resendNitz, .firePending none]

theorem consistent_connectActions :
    ∃ s, run (LoopState.step ByteParcel 3) .initial connectActions = some s ∧
      s.phase = .calling ∧ (Consistent s ↔ ¬ ClientLost ByteParcel 3 connectActions) := by
  have reached : (run (LoopState.step ByteParcel 3) .initial connectActions).map
      LoopState.phase = some .calling := by decide +kernel
  obtain ⟨s, ran, calls⟩ := Option.map_eq_some_iff.mp reached
  exact ⟨s, ran, calls, (consistent_of_run ByteParcel 3 ran).1 calls⟩

/-- Another thread tells the client of a call, and its socket is full. -/
def fullSocketActions : List Action :=
  connectActions ++ [.rilOnUnsolicitedResponse 1 1001 [], .advance 1 [], .advance 1 [],
    .advance 1 [.failed], .advance 1 []]

/-- **A full socket ends the event loop.** Its descriptor is closed and still watched. -/
theorem fullSocket_inconsistent :
    ∃ s, run (LoopState.step ByteParcel 3) .initial fullSocketActions = some s ∧
      s.phase = .calling ∧ ¬ Consistent s ∧
      (s.step ByteParcel 3 .select).map LoopState.phase = some .returned := by
  have reached : (run (LoopState.step ByteParcel 3) .initial fullSocketActions).map
      (fun s => (s.phase, decide (7 ∈ s.watches.readFds), decide (s.Open 7),
        (s.step ByteParcel 3 .select).map LoopState.phase)) =
      some (.calling, true, false, some .returned) := by decide +kernel
  obtain ⟨s, ran, facts⟩ := Option.map_eq_some_iff.mp reached
  obtain ⟨calls, member, closed, returns⟩ := by
    simpa only [Prod.mk.injEq, decide_eq_true_eq, decide_eq_false_iff_not] using facts
  exact ⟨s, ran, calls, fun consistent => closed (consistent.readFds 7 member), returns⟩

/-- The client leaves between a failed write and its `close`, which hits the next one. -/
def lateCloseActions : List Action :=
  connectActions ++ [.rilOnUnsolicitedResponse 1 1001 [], .advance 1 [], .advance 1 [],
    .advance 1 [.failed], .select, .selected {7}, .firePending none, .endOfStream, .rearm,
    .onCommandsSocketClosed, .firePending none, .select, .selected {5}, .firePending (some 7),
    .radioStateChanged 4, .advance 0 [], .advance 0 [], .advance 1 [], .advance 0 [],
    .advance 0 [], .resendNitz, .firePending none]

example : (run (LoopState.step ByteParcel 3) .initial lateCloseActions).map
    (fun s => (s.phase, decide (7 ∈ s.watches.readFds), decide (s.Open 7))) =
      some (.calling, true, false) := by decide +kernel

end Runs

end RildHisi.Libril
