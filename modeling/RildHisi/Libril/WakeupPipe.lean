import RildHisi.Libril.TimerRuns
import RildHisi.Libril.WatchRuns

/-!
Owns the wake-up pipe: the event loop of ril_event.cpp in its separate steps, and
any number of threads that add an event or a timer first and write to the pipe
after. Everything the loop sleeps on was in its copy of `readFds` or in its
time-out, or is announced by a byte in the pipe or by a thread that has still to
write one (`no_lost_wakeup`).

A critical section of `listMutex` is one step, and so are the copy of `readFds` and
`calcNextTimeout`, which do not take it.
-/

namespace RildHisi.Libril

open RildHisi.Library

/-- What was added before a `triggerEvLoop`. -/
inductive Added (ε τ : Type)
  | event (ev : ε)
  | timer (ev : τ)
  deriving DecidableEq

/-- The result of `calcNextTimeout`, and the time it was reckoned from. -/
structure NextTimeout where
  now : Timeval
  ptv : Option Timeval
  deriving DecidableEq

/-- `select` returns no later than at this deadline, or at once. -/
def NextTimeout.Accounts (timeout : NextTimeout) (due : Int) : Prop :=
  ∃ tv, timeout.ptv = some tv ∧ timeout.now.micros + tv.micros ≤ max timeout.now.micros due

/-- Where `eventLoop` stands. -/
inductive LoopPoint
  /-- `s_started` is set, and the pipe is not made. -/
  | started
  /-- `s_fdWakeupRead` and `s_fdWakeupWrite` are set. -/
  | piped
  /-- At the `memcpy` of `readFds`. -/
  | copying
  /-- At the call of `calcNextTimeout`. -/
  | timing (rfds : Finset Int)
  /-- At the call of `select`. -/
  | calling (rfds : Finset Int) (timeout : NextTimeout)
  /-- In `select`. -/
  | blocked (rfds : Finset Int) (nfds : Int) (timeout : NextTimeout)
  /-- At the call of `processTimeouts`; `select` has left these descriptors. -/
  | timeouts (rfds : Finset Int)
  /-- At the call of `processReadReadies`. -/
  | readies (rfds : Finset Int)
  /-- At the call of `firePending`. -/
  | readied
  /-- In `firePending`, or in a function it calls. -/
  | firing
  /-- In `processWakeupCallback`. -/
  | draining
  /-- `ril_event_loop` has returned. -/
  | returned
  deriving DecidableEq

/-- The copy of `readFds` that is in use. -/
def LoopPoint.rfds : LoopPoint → Option (Finset Int)
  | timing rfds | calling rfds _ | blocked rfds _ _ => some rfds
  | _ => none

def LoopPoint.timeout : LoopPoint → Option NextTimeout
  | calling _ timeout | blocked _ _ timeout => some timeout
  | _ => none

theorem LoopPoint.rfds_of_timeout {point : LoopPoint} {timeout : NextTimeout}
    (here : point.timeout = some timeout) : ∃ rfds, point.rfds = some rfds := by
  cases point with
  | calling rfds _ | blocked rfds _ _ => exact ⟨rfds, rfl⟩
  | _ => cases here

/-- `s_wakeupfd_event` has been added. -/
def LoopPoint.entered : LoopPoint → Bool
  | started | piped => false
  | _ => true

/-- The event loop and the threads `θ` around it. -/
structure WakeupLoop (θ ε τ : Type) where
  watches : Watches ε
  timers : Timers τ
  fdWakeupRead : Int
  /-- The number of bytes in the pipe. -/
  pipe : Nat
  point : LoopPoint
  /-- What a thread has added, and not yet written for. -/
  adding : θ → Option (Added ε τ)

/-- The capacity of a pipe: a `write` waits while it is full. -/
def pipeCapacity : Nat := 65536

inductive WakeupEvent (θ ε τ : Type)
  | rilEventSet (thread : θ) (ev : ε) (fd : Int) (persist : Bool)
  /-- The first step of `rilEventAddWakeup`. -/
  | rilEventAdd (thread : θ) (ev : ε)
  /-- `internalRequestTimedCallback` up to `triggerEvLoop`, for a new event. -/
  | rilTimerAdd (thread : θ) (ev : τ) (relativeTime : Option Timeval) (now : Timeval)
  /-- A turn of the loop in `triggerEvLoop`. -/
  | write (thread : θ) (eintr : Bool)
  /-- `eventLoop` makes the pipe. -/
  | pipe (fdWakeupRead : Int)
  /-- `eventLoop` adds `s_wakeupfd_event` and calls `ril_event_loop`. -/
  | rilEventLoop
  | copy
  | calcNextTimeout (now : Timeval)
  | select
  /-- `select` returns `-1`. -/
  | failed (eintr : Bool)
  /-- `select` returns with these descriptors ready, none at the time-out. -/
  | selected (ready : Finset Int)
  | processTimeouts (now : Timeval)
  | processReadReadies
  | firePending
  /-- A turn of `firePending` for a timer, which are in front in `pending_list`. -/
  | fireTimer
  /-- A turn of `firePending` behind them. -/
  | fireWatch
  /-- A function called by `firePending` deletes an event. -/
  | rilEventDel (ev : ε)
  /-- A `read` of up to 16 bytes in `processWakeupCallback`. -/
  | read (count : Nat)

namespace WakeupLoop

variable {θ ε τ : Type}

/-- Behind `ril_event_init`, and before the pipe. -/
def initial : WakeupLoop θ ε τ where
  watches := .rilEventInit
  timers := .initial
  fdWakeupRead := 0
  pipe := 0
  point := .started
  adding := fun _ => none

section Steps

-- `s_tid_dispatch` and `s_wakeupfd_event`; fuel for the loops over the timers
variable [DecidableEq θ] [DecidableEq ε] [DecidableEq τ]
  (tidDispatch : θ) (wakeupfdEvent : ε) (fuel : Nat)

/-- The thread may call something. The event loop does so in the functions it fires. -/
def MayCall (s : WakeupLoop θ ε τ) (thread : θ) : Prop :=
  s.adding thread = none ∧ (thread = tidDispatch → s.point = .firing)

/-- `triggerEvLoop` up to its write, which the event loop's own thread leaves out. -/
def triggerEvLoop (s : WakeupLoop θ ε τ) (thread : θ) (added : Added ε τ) : WakeupLoop θ ε τ :=
  if thread = tidDispatch then s
  else { s with adding := Function.update s.adding thread (some added) }

instance (s : WakeupLoop θ ε τ) (thread : θ) [DecidableEq (Option (Added ε τ))] :
    Decidable (s.MayCall tidDispatch thread) := inferInstanceAs (Decidable (_ ∧ _))

/-- The event is not watched, and its descriptor is valid and not shared. -/
def MayWatch (w : Watches ε) (ev : ε) : Prop :=
  ¬ w.Watched ev ∧ 0 ≤ (w.events ev).fd ∧ (w.events ev).fd ∉ w.readFds

instance (w : Watches ε) (ev : ε) : Decidable (MayWatch w ev) :=
  inferInstanceAs (Decidable (_ ∧ _ ∧ _))

/-- `eventLoop` behind the pipe: `ril_event_set` and `ril_event_add` of
`s_wakeupfd_event`. -/
def watchWakeup (s : WakeupLoop θ ε τ) : Watches ε :=
  (s.watches.rilEventSet wakeupfdEvent s.fdWakeupRead true).rilEventAdd wakeupfdEvent

/-- One step, where it can happen. -/
def step (s : WakeupLoop θ ε τ) : WakeupEvent θ ε τ → Option (WakeupLoop θ ε τ)
  | .rilEventSet thread ev fd persist =>
      if s.MayCall tidDispatch thread ∧ ev ≠ wakeupfdEvent ∧ ¬ s.watches.Watched ev then
        some { s with watches := s.watches.rilEventSet ev fd persist }
      else none
  | .rilEventAdd thread ev =>
      if s.MayCall tidDispatch thread ∧ ev ≠ wakeupfdEvent ∧ MayWatch s.watches ev then
        some ({ s with watches := s.watches.rilEventAdd ev }.triggerEvLoop tidDispatch thread
          (.event ev))
      else none
  | .rilTimerAdd thread ev relativeTime now =>
      if s.MayCall tidDispatch thread then
        (s.timers.step fuel (.add ev (some (relativeTime.getD ⟨0, 0⟩)) now)).map fun timers =>
          { s with timers := timers }.triggerEvLoop tidDispatch thread (.timer ev)
      else none
  | .write thread eintr =>
      if (s.adding thread).isSome ∧ s.pipe < pipeCapacity then
        if eintr then some s
        else some { s with
          -- before the pipe is made the byte goes to descriptor 0
          pipe := if s.point = .started then s.pipe else s.pipe + 1
          adding := Function.update s.adding thread none }
      else none
  | .pipe fdWakeupRead =>
      if s.point = .started ∧ 0 ≤ fdWakeupRead then
        some { s with fdWakeupRead := fdWakeupRead, point := .piped }
      else none
  | .rilEventLoop =>
      if s.point = .piped ∧ s.fdWakeupRead ∉ s.watches.readFds ∧
          (s.watches.watchTable.findIdx? Option.isNone).isSome then
        some { s with watches := s.watchWakeup wakeupfdEvent, point := .copying }
      else none
  | .copy =>
      if s.point = .copying then some { s with point := .timing s.watches.readFds } else none
  | .calcNextTimeout now =>
      match s.point with
      | .timing rfds =>
          if now.Normalised then
            some { s with point := .calling rfds ⟨now, s.timers.calcNextTimeout now⟩ }
          else none
      | _ => none
  | .select =>
      match s.point with
      | .calling rfds timeout => some { s with point := .blocked rfds s.watches.nfds timeout }
      | _ => none
  | .failed eintr =>
      match s.point with
      | .blocked _ _ _ => some { s with point := if eintr then .copying else .returned }
      | _ => none
  | .selected ready =>
      match s.point with
      | .blocked rfds nfds _ =>
          if ready ⊆ rfds.filter (· < nfds) ∧
              (s.fdWakeupRead ∈ rfds → s.fdWakeupRead < nfds →
                (s.fdWakeupRead ∈ ready ↔ s.pipe ≠ 0)) then
            some { s with point := .timeouts ready }
          else none
      | _ => none
  | .processTimeouts now =>
      match s.point with
      | .timeouts rfds =>
          (s.timers.step fuel (.processTimeouts now)).map fun timers =>
            { s with timers := timers, point := .readies rfds }
      | _ => none
  | .processReadReadies =>
      match s.point with
      | .readies rfds =>
          some { s with
            watches := s.watches.processReadReadies rfds rfds.card
            point := .readied }
      | _ => none
  | .firePending =>
      if s.point = .readied then
        (s.timers.step fuel .firePending).map fun timers =>
          { s with timers := timers, point := .firing }
      else none
  | .fireTimer =>
      if s.point = .firing then
        (s.timers.step fuel .fireNext).map fun timers => { s with timers := timers }
      else none
  | .fireWatch =>
      if s.point = .firing ∧ s.timers.firing = none then
        match s.watches.pendingList with
        | [] => some { s with point := .copying }
        | ev :: rest =>
            some { s with
              watches := { s.watches with pendingList := rest }
              point := if ev = wakeupfdEvent then .draining else .firing }
      else none
  | .rilEventDel ev =>
      if s.point = .firing ∧ ev ≠ wakeupfdEvent ∧ s.watches.Watched ev then
        some { s with watches := s.watches.rilEventDel ev }
      else none
  | .read count =>
      if s.point = .draining then
        -- the loop ends at `EAGAIN`
        if s.pipe = 0 then some { s with point := .firing }
        else if 0 < count ∧ count ≤ min 16 s.pipe then some { s with pipe := s.pipe - count }
        else none
      else none

end Steps

/-! ### What the loop sleeps on -/

/-- A byte is in the pipe, or the thread that added this has still to write it. -/
def Announced (s : WakeupLoop θ ε τ) (added : Added ε τ) : Prop :=
  s.pipe ≠ 0 ∨ ∃ thread, s.adding thread = some added

/-- What every run keeps. The last three say what the loop is about to sleep on, or
sleeps on: a descriptor or a deadline it does not know of is announced. -/
structure Sound (wakeupfdEvent : ε) (s : WakeupLoop θ ε τ) (timers pending : List τ) : Prop where
  wf : s.watches.Wf
  scheduled : s.timers.Scheduled timers pending
  fdWakeupRead : s.point ≠ .started → 0 ≤ s.fdWakeupRead
  unentered : s.point.entered = false → ¬ s.watches.Watched wakeupfdEvent
  entered : s.point.entered = true → s.watches.Watched wakeupfdEvent ∧
    (s.watches.events wakeupfdEvent).fd = s.fdWakeupRead ∧
    (s.watches.events wakeupfdEvent).persist = true
  copied : ∀ rfds, s.point.rfds = some rfds → rfds ⊆ s.watches.readFds ∧ s.fdWakeupRead ∈ rfds ∧
    ∀ ev, s.watches.Watched ev → (s.watches.events ev).fd ∈ rfds ∨ s.Announced (.event ev)
  timed : ∀ timeout, s.point.timeout = some timeout → ∀ ev ∈ timers,
    timeout.Accounts (s.timers.due ev) ∨ s.Announced (.timer ev)
  below : ∀ rfds nfds timeout, s.point = .blocked rfds nfds timeout → ∀ fd ∈ rfds, fd < nfds

variable {tidDispatch : θ} {wakeupfdEvent : ε} {fuel : Nat} {s s' : WakeupLoop θ ε τ}
  {timers pending : List τ}

theorem initial_sound : (initial : WakeupLoop θ ε τ).Sound wakeupfdEvent [] [] where
  wf := Watches.wf_rilEventInit
  scheduled := ⟨Timers.initial_lists, Timers.initial_accounted⟩
  fdWakeupRead := fun started => absurd rfl started
  unentered := fun _ listed => by cases List.eq_of_mem_replicate listed
  entered := nofun
  copied := nofun
  timed := nofun
  below := nofun

/-- At a point where the loop sleeps on nothing, the tables are all there is to keep. -/
theorem Sound.awake {timers' pending' : List τ} (wf : s'.watches.Wf)
    (scheduled : s'.timers.Scheduled timers' pending')
    (entered : s'.watches.Watched wakeupfdEvent ∧
      (s'.watches.events wakeupfdEvent).fd = s'.fdWakeupRead ∧
      (s'.watches.events wakeupfdEvent).persist = true)
    (inLoop : s'.point.entered = true) (noCopy : s'.point.rfds = none)
    (noTimeout : s'.point.timeout = none) : s'.Sound wakeupfdEvent timers' pending' where
  wf := wf
  scheduled := scheduled
  fdWakeupRead := fun _ => entered.2.1 ▸ (wf.below wakeupfdEvent entered.1).1
  unentered := fun before => absurd inLoop (by simp [before])
  entered := fun _ => entered
  copied := fun rfds here => by rw [noCopy] at here; cases here
  timed := fun timeout here => by rw [noTimeout] at here; cases here
  below := fun rfds nfds timeout here => by rw [here] at noCopy; cases noCopy

/-! ### Threads -/

variable [DecidableEq θ]

section Threads

variable (s) (thread : θ) (added : Added ε τ)

@[simp] theorem triggerEvLoop_watches :
    (s.triggerEvLoop tidDispatch thread added).watches = s.watches := by
  unfold triggerEvLoop
  split_ifs <;> rfl

@[simp] theorem triggerEvLoop_timers :
    (s.triggerEvLoop tidDispatch thread added).timers = s.timers := by
  unfold triggerEvLoop
  split_ifs <;> rfl

@[simp] theorem triggerEvLoop_fdWakeupRead :
    (s.triggerEvLoop tidDispatch thread added).fdWakeupRead = s.fdWakeupRead := by
  unfold triggerEvLoop
  split_ifs <;> rfl

@[simp] theorem triggerEvLoop_point :
    (s.triggerEvLoop tidDispatch thread added).point = s.point := by
  unfold triggerEvLoop
  split_ifs <;> rfl

end Threads

/-- A thread that has added something announces it, and takes back nothing else. -/
theorem announced_triggerEvLoop {thread : θ} (mayCall : s.MayCall tidDispatch thread)
    (watches : Watches ε) (timers' : Timers τ) {added other : Added ε τ}
    (announced : other = added ∨ s.Announced other) (asleep : s.point ≠ .firing) :
    ({ s with watches := watches, timers := timers' }.triggerEvLoop tidDispatch thread
      added).Announced other := by
  obtain ⟨idle, outside⟩ := mayCall
  have apart : thread ≠ tidDispatch := fun same => asleep (outside same)
  unfold Announced triggerEvLoop
  rw [if_neg apart]
  rcases announced with rfl | nonempty | ⟨owner, owes⟩
  · exact Or.inr ⟨thread, Function.update_self ..⟩
  · exact Or.inl nonempty
  · refine Or.inr ⟨owner, ?_⟩
    have different : owner ≠ thread := by
      rintro rfl
      rw [idle] at owes
      cases owes
    dsimp only
    rw [Function.update_of_ne different, owes]

variable [DecidableEq ε]

omit [DecidableEq θ] in
theorem Sound.rilEventSet (sound : s.Sound wakeupfdEvent timers pending) {ev : ε}
    (other : ev ≠ wakeupfdEvent) (unwatched : ¬ s.watches.Watched ev) (fd : Int)
    (persist : Bool) :
    ({ s with watches := s.watches.rilEventSet ev fd persist } : WakeupLoop θ ε τ).Sound
      wakeupfdEvent timers pending := by
  have kept {other : ε} (apart : other ≠ ev) :
      (s.watches.rilEventSet ev fd persist).events other = s.watches.events other :=
    Function.update_of_ne apart ..
  refine ⟨sound.wf.rilEventSet unwatched fd persist, sound.scheduled, sound.fdWakeupRead,
    sound.unentered, ?_, ?_, sound.timed, sound.below⟩
  · dsimp only
    rw [kept other.symm]
    exact sound.entered
  · intro rfds here
    obtain ⟨inside, wakeup, watched⟩ := sound.copied rfds here
    refine ⟨inside, wakeup, fun ev' listed => ?_⟩
    dsimp only
    rw [kept fun same => unwatched (same ▸ listed)]
    exact watched ev' listed

theorem Sound.rilEventAdd (sound : s.Sound wakeupfdEvent timers pending) {thread : θ} {ev : ε}
    (mayCall : s.MayCall tidDispatch thread) (other : ev ≠ wakeupfdEvent)
    (mayWatch : MayWatch s.watches ev) :
    ({ s with watches := s.watches.rilEventAdd ev }.triggerEvLoop tidDispatch thread
      (.event ev)).Sound wakeupfdEvent timers pending := by
  obtain ⟨unwatched, valid, unshared⟩ := mayWatch
  -- where there is no free slot the event is dropped
  obtain ⟨wf, watched, kept, events, readFds⟩ : (s.watches.rilEventAdd ev).Wf ∧
      (∀ other, (s.watches.rilEventAdd ev).Watched other → other = ev ∨ s.watches.Watched other) ∧
      (∀ other, s.watches.Watched other → (s.watches.rilEventAdd ev).Watched other) ∧
      Watches.SameEvents s.watches (s.watches.rilEventAdd ev) ∧
      s.watches.readFds ⊆ (s.watches.rilEventAdd ev).readFds := by
    cases free : s.watches.watchTable.findIdx? Option.isNone with
    | none =>
        have same : s.watches.rilEventAdd ev = s.watches := by simp [Watches.rilEventAdd, free]
        rw [same]
        exact ⟨sound.wf, fun _ => Or.inr, fun _ listed => listed, Watches.SameEvents.refl _,
          Finset.Subset.refl _⟩
    | some i =>
        obtain ⟨after, -⟩ := sound.wf.rilEventAdd free unwatched valid fun other listed same =>
          unshared ((sound.wf.readFds _).mpr ⟨other, listed, same⟩)
        refine ⟨after.wf, fun other => (after.watched other).mp,
          fun other listed => (after.watched other).mpr (Or.inr listed), after.events, ?_⟩
        simp only [Watches.rilEventAdd, free]
        exact Finset.subset_insert _ _
  generalize s.watches.rilEventAdd ev = watches at *
  have announced {added : Added ε τ} (rfds : Finset Int) (here : s.point.rfds = some rfds)
      (announced : added = .event ev ∨ s.Announced added) :=
    announced_triggerEvLoop mayCall watches s.timers announced
      fun firing => by rw [firing] at here; cases here
  constructor
  case wf => simpa using wf
  case scheduled => simpa using sound.scheduled
  case fdWakeupRead => simpa using sound.fdWakeupRead
  case unentered =>
    simp only [triggerEvLoop_point, triggerEvLoop_watches]
    intro before listed
    rcases watched _ listed with same | old
    · exact other same.symm
    · exact sound.unentered before old
  case entered =>
    simp only [triggerEvLoop_point, triggerEvLoop_watches, triggerEvLoop_fdWakeupRead]
    intro inLoop
    obtain ⟨listed, fd, persist⟩ := sound.entered inLoop
    exact ⟨kept _ listed, (events _).1.trans fd, (events _).2.trans persist⟩
  case copied =>
    simp only [triggerEvLoop_point, triggerEvLoop_watches, triggerEvLoop_fdWakeupRead]
    intro rfds here
    obtain ⟨inside, wakeup, known⟩ := sound.copied rfds here
    refine ⟨inside.trans readFds, wakeup, fun ev' listed => ?_⟩
    rw [(events ev').1]
    rcases watched ev' listed with rfl | old
    · exact Or.inr (announced rfds here (Or.inl rfl))
    · exact (known ev' old).imp_right fun before => announced rfds here (Or.inr before)
  case timed =>
    simp only [triggerEvLoop_point, triggerEvLoop_timers]
    intro timeout here ev' listed
    refine (sound.timed timeout here ev' listed).imp_right fun before => ?_
    obtain ⟨rfds, copied⟩ := LoopPoint.rfds_of_timeout here
    exact announced rfds copied (Or.inr before)
  case below =>
    simp only [triggerEvLoop_point]
    exact sound.below

omit [DecidableEq ε] in
theorem Sound.rilTimerAdd [DecidableEq τ] (sound : s.Sound wakeupfdEvent timers pending)
    {thread : θ} {ev : τ} {tv : Option Timeval} {now : Timeval}
    (mayCall : s.MayCall tidDispatch thread) {timers' : Timers τ}
    (added : s.timers.step fuel (.add ev tv now) = some timers') :
    ∃ list pending, ({ s with timers := timers' }.triggerEvLoop tidDispatch thread
      (.timer ev)).Sound wakeupfdEvent list pending := by
  obtain ⟨list, pending', scheduled, kept⟩ := sound.scheduled.of_step added
  have announced {added : Added ε τ} (rfds : Finset Int) (here : s.point.rfds = some rfds)
      (announced : added = .timer ev ∨ s.Announced added) :=
    announced_triggerEvLoop mayCall s.watches timers' announced
      fun firing => by rw [firing] at here; cases here
  refine ⟨list, pending', ?_⟩
  constructor
  case wf => simpa using sound.wf
  case scheduled => simpa using scheduled
  case fdWakeupRead => simpa using sound.fdWakeupRead
  case unentered => simpa using sound.unentered
  case entered => simpa using sound.entered
  case copied =>
    simp only [triggerEvLoop_point, triggerEvLoop_watches, triggerEvLoop_fdWakeupRead]
    intro rfds here
    obtain ⟨inside, wakeup, known⟩ := sound.copied rfds here
    exact ⟨inside, wakeup, fun ev' listed =>
      (known ev' listed).imp_right fun before => announced rfds here (Or.inr before)⟩
  case timed =>
    simp only [triggerEvLoop_point, triggerEvLoop_timers]
    intro timeout here ev' listed
    obtain ⟨rfds, copied⟩ := LoopPoint.rfds_of_timeout here
    rcases kept ev' listed with same | ⟨old, due⟩
    · obtain rfl : ev = ev' := same
      exact Or.inr (announced rfds copied (Or.inl rfl))
    · rw [due]
      exact (sound.timed timeout here ev' old).imp_right fun before =>
        announced rfds copied (Or.inr before)
  case below =>
    simp only [triggerEvLoop_point]
    exact sound.below

omit [DecidableEq ε] in
/-- A byte in the pipe announces everything. -/
theorem Sound.write (sound : s.Sound wakeupfdEvent timers pending) (thread : θ) :
    ({ s with
      pipe := if s.point = .started then s.pipe else s.pipe + 1
      adding := Function.update s.adding thread none } : WakeupLoop θ ε τ).Sound wakeupfdEvent
        timers pending := by
  have announced (rfds : Finset Int) (here : s.point.rfds = some rfds) :
      (if s.point = .started then s.pipe else s.pipe + 1) ≠ 0 := by
    have later : s.point ≠ .started := fun before => by rw [before] at here; cases here
    rw [if_neg later]
    exact Nat.succ_ne_zero _
  refine ⟨sound.wf, sound.scheduled, sound.fdWakeupRead, sound.unentered, sound.entered, ?_, ?_,
    sound.below⟩
  · intro rfds here
    obtain ⟨inside, wakeup, -⟩ := sound.copied rfds here
    exact ⟨inside, wakeup, fun _ _ => Or.inr (Or.inl (announced rfds here))⟩
  · intro timeout here _ _
    obtain ⟨rfds, copied⟩ := LoopPoint.rfds_of_timeout here
    exact Or.inr (Or.inl (announced rfds copied))

/-! ### The event loop -/

omit [DecidableEq θ] in
theorem Sound.rilEventLoop (sound : s.Sound wakeupfdEvent timers pending)
    (begins : s.point = .piped) (unshared : s.fdWakeupRead ∉ s.watches.readFds) {i : Nat}
    (free : s.watches.watchTable.findIdx? Option.isNone = some i) :
    ({ s with watches := s.watchWakeup wakeupfdEvent, point := .copying } :
      WakeupLoop θ ε τ).Sound wakeupfdEvent timers pending := by
  have valid : 0 ≤ s.fdWakeupRead := sound.fdWakeupRead (by simp [begins])
  have unwatched := sound.unentered (by rw [begins]; rfl)
  obtain ⟨w', same, wf, watched, here, -⟩ :=
    sound.wf.watch free unwatched valid unshared true
  unfold watchWakeup
  rw [same]
  exact .awake wf sound.scheduled ⟨(watched _).mpr (Or.inl rfl), here⟩ rfl rfl rfl

omit [DecidableEq θ] [DecidableEq ε] in
/-- A copy has all descriptors there are. -/
theorem Sound.copy (sound : s.Sound wakeupfdEvent timers pending) (begins : s.point = .copying) :
    ({ s with point := .timing s.watches.readFds } : WakeupLoop θ ε τ).Sound wakeupfdEvent timers
      pending := by
  have entered := sound.entered (by rw [begins]; rfl)
  refine ⟨sound.wf, sound.scheduled, fun _ => sound.fdWakeupRead (by simp [begins]), nofun,
    fun _ => entered, ?_, nofun, nofun⟩
  rintro rfds here
  obtain rfl := Option.some.inj here
  exact ⟨Finset.Subset.refl _, (sound.wf.readFds _).mpr ⟨wakeupfdEvent, entered.1, entered.2.1⟩,
    fun ev listed => Or.inl ((sound.wf.readFds _).mpr ⟨ev, listed, rfl⟩)⟩

omit [DecidableEq θ] [DecidableEq ε] in
/-- The time-out does for every timer there is. -/
theorem Sound.calcNextTimeout [DecidableEq τ] (sound : s.Sound wakeupfdEvent timers pending)
    {rfds : Finset Int} (here : s.point = .timing rfds) {now : Timeval} (clock : now.Normalised) :
    ({ s with point := .calling rfds ⟨now, s.timers.calcNextTimeout now⟩ } :
      WakeupLoop θ ε τ).Sound wakeupfdEvent timers pending := by
  obtain ⟨noTimer, interval⟩ := sound.scheduled.lists.waits
  refine ⟨sound.wf, sound.scheduled, fun _ => sound.fdWakeupRead (by simp [here]), nofun,
    fun _ => sound.entered (by rw [here]; rfl), ?_, ?_, nofun⟩
  · exact fun rfds' same => sound.copied rfds' (by rw [here]; exact same)
  · rintro timeout same ev listed
    obtain rfl := Option.some.inj same
    cases wait : s.timers.calcNextTimeout now with
    | none =>
        rw [noTimer] at wait
        rw [wait] at listed
        cases listed
    | some tv =>
        obtain ⟨-, first, -, earliest, length⟩ := interval now tv clock wait
        have order := earliest ev listed
        exact Or.inl ⟨tv, rfl, by dsimp only; omega⟩

omit [DecidableEq θ] [DecidableEq ε] in
/-- `nfds` is read behind the copy, and takes in all of it. -/
theorem Sound.select (sound : s.Sound wakeupfdEvent timers pending) {rfds : Finset Int}
    {timeout : NextTimeout} (here : s.point = .calling rfds timeout) :
    ({ s with point := .blocked rfds s.watches.nfds timeout } : WakeupLoop θ ε τ).Sound
      wakeupfdEvent timers pending := by
  refine ⟨sound.wf, sound.scheduled, fun _ => sound.fdWakeupRead (by simp [here]), nofun,
    fun _ => sound.entered (by rw [here]; rfl), ?_, ?_, ?_⟩
  · exact fun rfds' same => sound.copied rfds' (by rw [here]; exact same)
  · exact fun timeout' same => sound.timed timeout' (by rw [here]; exact same)
  · rintro rfds' nfds timeout' same fd member
    obtain ⟨rfl, rfl, rfl⟩ := LoopPoint.blocked.inj same
    obtain ⟨ev, listed, rfl⟩ :=
      (sound.wf.readFds fd).mp ((sound.copied rfds (by rw [here]; rfl)).1 member)
    exact (sound.wf.below ev listed).2

omit [DecidableEq θ] in
theorem Sound.processReadReadies (sound : s.Sound wakeupfdEvent timers pending)
    {rfds : Finset Int} (here : s.point = .readies rfds) (n : Nat) :
    ({ s with watches := s.watches.processReadReadies rfds n, point := .readied } :
      WakeupLoop θ ε τ).Sound wakeupfdEvent timers pending := by
  obtain ⟨listed, fd, persist⟩ := sound.entered (by rw [here]; rfl)
  obtain ⟨fired, readied⟩ := sound.wf.processReadReadies rfds n
  generalize s.watches.processReadReadies rfds n = watches at *
  have events := readied.becomes.events wakeupfdEvent
  exact .awake readied.becomes.wf sound.scheduled
    ⟨(readied.becomes.watched _).mpr ⟨listed, fun _ => persist⟩, events.1.trans fd,
      events.2.trans persist⟩ rfl rfl rfl

omit [DecidableEq θ] in
theorem Sound.rilEventDel (sound : s.Sound wakeupfdEvent timers pending)
    (here : s.point = .firing) {ev : ε} (other : ev ≠ wakeupfdEvent)
    (listed : s.watches.Watched ev) :
    ({ s with watches := s.watches.rilEventDel ev } : WakeupLoop θ ε τ).Sound wakeupfdEvent timers
      pending := by
  obtain ⟨watched, fd, persist⟩ := sound.entered (by rw [here]; rfl)
  obtain ⟨becomes, -⟩ := sound.wf.rilEventDel listed
  have events := becomes.events wakeupfdEvent
  exact .awake becomes.wf sound.scheduled
    ⟨(becomes.watched _).mpr ⟨other.symm, watched⟩, events.1.trans fd, events.2.trans persist⟩
    (by rw [here]; rfl) (by rw [here]; rfl) (by rw [here]; rfl)

/-- **One step** of any thread keeps the announcements. -/
theorem Sound.step [DecidableEq τ] (sound : s.Sound wakeupfdEvent timers pending)
    {event : WakeupEvent θ ε τ}
    (stepped : s.step tidDispatch wakeupfdEvent fuel event = some s') :
    ∃ timers' pending', s'.Sound wakeupfdEvent timers' pending' := by
  -- where the loop goes to a point at which it sleeps on nothing
  have awake {point : LoopPoint} (inLoop : s.point.entered = true)
      (shape : s' = { s with point := point })
      (stays : point.entered = true ∧ point.rfds = none ∧ point.timeout = none) :
      ∃ timers' pending', s'.Sound wakeupfdEvent timers' pending' := by
    subst shape
    exact ⟨timers, pending, .awake sound.wf sound.scheduled (sound.entered inLoop) stays.1
      stays.2.1 stays.2.2⟩
  have timersStep {op : TimerOp τ} {next : Timers τ} {point : LoopPoint}
      (inLoop : s.point.entered = true) (ran : s.timers.step fuel op = some next)
      (shape : s' = { s with timers := next, point := point })
      (stays : point.entered = true ∧ point.rfds = none ∧ point.timeout = none) :
      ∃ timers' pending', s'.Sound wakeupfdEvent timers' pending' := by
    subst shape
    obtain ⟨timers', pending', scheduled, -⟩ := sound.scheduled.of_step ran
    exact ⟨timers', pending', .awake sound.wf scheduled (sound.entered inLoop) stays.1
      stays.2.1 stays.2.2⟩
  cases event with
  | rilEventSet thread ev fd persist =>
      obtain ⟨⟨-, other, unwatched⟩, rfl⟩ := Option.ite_some_none_eq_some.mp stepped
      exact ⟨timers, pending, sound.rilEventSet other unwatched fd persist⟩
  | rilEventAdd thread ev =>
      obtain ⟨⟨mayCall, other, mayWatch⟩, rfl⟩ := Option.ite_some_none_eq_some.mp stepped
      exact ⟨timers, pending, sound.rilEventAdd mayCall other mayWatch⟩
  | rilTimerAdd thread ev relativeTime now =>
      obtain ⟨mayCall, ran⟩ := Option.ite_none_right_eq_some.mp stepped
      obtain ⟨next, added, rfl⟩ := Option.map_eq_some_iff.mp ran
      exact sound.rilTimerAdd mayCall added
  | write thread eintr =>
      obtain ⟨-, wrote⟩ := Option.ite_none_right_eq_some.mp stepped
      cases eintr with
      | true =>
          obtain rfl := Option.some.inj wrote
          exact ⟨timers, pending, sound⟩
      | false =>
          obtain rfl := Option.some.inj wrote
          exact ⟨timers, pending, sound.write thread⟩
  | pipe fdWakeupRead =>
      obtain ⟨⟨begins, valid⟩, rfl⟩ := Option.ite_some_none_eq_some.mp stepped
      exact ⟨timers, pending, sound.wf, sound.scheduled, fun _ => valid,
        fun _ => sound.unentered (by rw [begins]; rfl), nofun, nofun, nofun, nofun⟩
  | rilEventLoop =>
      obtain ⟨⟨begins, unshared, room⟩, rfl⟩ := Option.ite_some_none_eq_some.mp stepped
      obtain ⟨i, free⟩ := Option.isSome_iff_exists.mp room
      exact ⟨timers, pending, sound.rilEventLoop begins unshared free⟩
  | copy =>
      obtain ⟨begins, rfl⟩ := Option.ite_some_none_eq_some.mp stepped
      exact ⟨timers, pending, sound.copy begins⟩
  | calcNextTimeout now =>
      cases here : s.point with
      | timing rfds =>
          simp only [WakeupLoop.step, here] at stepped
          obtain ⟨clock, rfl⟩ := Option.ite_some_none_eq_some.mp stepped
          exact ⟨timers, pending, sound.calcNextTimeout here clock⟩
      | _ => simp [WakeupLoop.step, here] at stepped
  | select =>
      cases here : s.point with
      | calling rfds timeout =>
          simp only [WakeupLoop.step, here, Option.some.injEq] at stepped
          subst stepped
          exact ⟨timers, pending, sound.select here⟩
      | _ => simp [WakeupLoop.step, here] at stepped
  | failed eintr =>
      cases here : s.point with
      | blocked rfds nfds timeout =>
          simp only [WakeupLoop.step, here, Option.some.injEq] at stepped
          exact awake (by rw [here]; rfl) stepped.symm (by cases eintr <;> exact ⟨rfl, rfl, rfl⟩)
      | _ => simp [WakeupLoop.step, here] at stepped
  | selected ready =>
      cases here : s.point with
      | blocked rfds nfds timeout =>
          simp only [WakeupLoop.step, here] at stepped
          obtain ⟨-, shape⟩ := Option.ite_some_none_eq_some.mp stepped
          exact awake (by rw [here]; rfl) shape.symm ⟨rfl, rfl, rfl⟩
      | _ => simp [WakeupLoop.step, here] at stepped
  | processTimeouts now =>
      cases here : s.point with
      | timeouts rfds =>
          simp only [WakeupLoop.step, here] at stepped
          obtain ⟨next, ran, shape⟩ := Option.map_eq_some_iff.mp stepped
          exact timersStep (by rw [here]; rfl) ran shape.symm ⟨rfl, rfl, rfl⟩
      | _ => simp [WakeupLoop.step, here] at stepped
  | processReadReadies =>
      cases here : s.point with
      | readies rfds =>
          simp only [WakeupLoop.step, here, Option.some.injEq] at stepped
          subst stepped
          exact ⟨timers, pending, sound.processReadReadies here rfds.card⟩
      | _ => simp [WakeupLoop.step, here] at stepped
  | firePending =>
      obtain ⟨here, ran⟩ := Option.ite_none_right_eq_some.mp stepped
      obtain ⟨next, fired, shape⟩ := Option.map_eq_some_iff.mp ran
      exact timersStep (by rw [here]; rfl) fired shape.symm ⟨rfl, rfl, rfl⟩
  | fireTimer =>
      obtain ⟨here, ran⟩ := Option.ite_none_right_eq_some.mp stepped
      obtain ⟨next, fired, shape⟩ := Option.map_eq_some_iff.mp ran
      have stays : s' = { s with timers := next, point := s.point } := shape.symm
      exact timersStep (by rw [here]; rfl) fired stays (by rw [here]; exact ⟨rfl, rfl, rfl⟩)
  | fireWatch =>
      obtain ⟨⟨here, -⟩, ran⟩ := Option.ite_none_right_eq_some.mp stepped
      have entered := sound.entered (by rw [here]; rfl)
      cases list : s.watches.pendingList with
      | nil =>
          simp only [list, Option.some.injEq] at ran
          exact awake (by rw [here]; rfl) ran.symm ⟨rfl, rfl, rfl⟩
      | cons ev rest =>
          simp only [list, Option.some.injEq] at ran
          subst ran
          have wf : ({ s.watches with pendingList := rest } : Watches ε).Wf :=
            ⟨sound.wf.length, sound.wf.placed, sound.wf.readFds, sound.wf.distinct,
              sound.wf.below⟩
          refine ⟨timers, pending, .awake wf sound.scheduled entered ?_ ?_ ?_⟩ <;>
            dsimp only <;> split_ifs <;> rfl
  | rilEventDel ev =>
      obtain ⟨⟨here, other, listed⟩, rfl⟩ := Option.ite_some_none_eq_some.mp stepped
      exact ⟨timers, pending, sound.rilEventDel here other listed⟩
  | read count =>
      obtain ⟨here, ran⟩ := Option.ite_none_right_eq_some.mp stepped
      by_cases empty : s.pipe = 0
      · rw [if_pos empty, Option.some.injEq] at ran
        exact awake (by rw [here]; rfl) ran.symm ⟨rfl, rfl, rfl⟩
      · rw [if_neg empty] at ran
        obtain ⟨-, rfl⟩ := Option.ite_some_none_eq_some.mp ran
        exact ⟨timers, pending, .awake sound.wf sound.scheduled
          (sound.entered (by rw [here]; rfl)) (by rw [here]; rfl) (by rw [here]; rfl)
          (by rw [here]; rfl)⟩

/-- **No wake-up is lost**: whenever the loop is in `select`, every watched event that
`select` was not given and every timer that is due before its time-out is announced by
a byte in the pipe, or by a thread that has added it and has still to write. The pipe
itself is among the descriptors, so that a byte ends the wait. -/
theorem no_lost_wakeup [DecidableEq τ] {events : List (WakeupEvent θ ε τ)}
    (ran : run (step tidDispatch wakeupfdEvent fuel) initial events = some s) :
    ∃ timers pending, s.timers.Lists timers pending ∧
      ∀ rfds nfds timeout, s.point = .blocked rfds nfds timeout →
        (∀ ev, s.watches.Watched ev →
          ¬ ((s.watches.events ev).fd ∈ rfds ∧ (s.watches.events ev).fd < nfds) →
          s.pipe ≠ 0 ∨ ∃ thread, s.adding thread = some (.event ev)) ∧
        (∀ ev ∈ timers, ¬ timeout.Accounts (s.timers.due ev) →
          s.pipe ≠ 0 ∨ ∃ thread, s.adding thread = some (.timer ev)) ∧
        s.fdWakeupRead ∈ rfds ∧ s.fdWakeupRead < nfds ∧
        (s.pipe ≠ 0 → (s.step tidDispatch wakeupfdEvent fuel
          (.selected {s.fdWakeupRead})).isSome) := by
  have kept : ∀ (s : WakeupLoop θ ε τ) event s', (∃ timers pending,
      s.Sound wakeupfdEvent timers pending) →
      s.step tidDispatch wakeupfdEvent fuel event = some s' →
      ∃ timers pending, s'.Sound wakeupfdEvent timers pending := by
    rintro s event s' ⟨timers, pending, sound⟩ stepped
    exact sound.step stepped
  obtain ⟨timers, pending, sound⟩ := run_invariant kept ⟨[], [], initial_sound⟩ ran
  refine ⟨timers, pending, sound.scheduled.lists, fun rfds nfds timeout here => ?_⟩
  obtain ⟨-, wakeup, known⟩ := sound.copied rfds (by rw [here]; rfl)
  have below := sound.below rfds nfds timeout here
  refine ⟨fun ev listed unknown => ?_, fun ev listed late => ?_, wakeup, below _ wakeup,
    fun nonempty => ?_⟩
  · exact (known ev listed).resolve_left fun inside => unknown ⟨inside, below _ inside⟩
  · exact (sound.timed timeout (by rw [here]; rfl) ev listed).resolve_left late
  · simp only [WakeupLoop.step, here]
    rw [if_pos]
    · rfl
    · refine ⟨?_, fun _ _ => by simp [nonempty]⟩
      exact Finset.singleton_subset_iff.mpr (Finset.mem_filter.mpr ⟨wakeup, below _ wakeup⟩)

/-- One wake-up drains the pipe; then the loop sleeps on a time-out that is too long and
without a descriptor that two threads have still to write for. -/
def sampleWakeups : List (WakeupEvent Nat Nat Nat) :=
  [.pipe 3, .rilEventSet 1 5 7 false, .rilEventAdd 1 5, .rilEventLoop, .copy,
    .rilTimerAdd 2 0 (some ⟨9, 0⟩) ⟨10, 0⟩, .calcNextTimeout ⟨10, 5⟩, .write 1 false, .select,
    .selected {3}, .write 2 false, .processTimeouts ⟨10, 6⟩, .processReadReadies, .firePending,
    .fireTimer, .fireWatch, .read 2, .read 0, .rilTimerAdd 0 1 none ⟨10, 7⟩, .fireWatch, .copy,
    .calcNextTimeout ⟨10, 8⟩, .select, .selected ∅, .processTimeouts ⟨10, 8⟩,
    .processReadReadies, .firePending, .fireTimer, .fireTimer, .fireWatch, .copy,
    .calcNextTimeout ⟨11, 0⟩, .select, .rilEventSet 3 6 8 true, .rilEventAdd 3 6,
    .rilTimerAdd 1 2 (some ⟨0, 500⟩) ⟨11, 0⟩, .write 3 true]

theorem no_lost_wakeup_sampleWakeups : ∃ s : WakeupLoop Nat Nat Nat,
    run (step 0 0 8) initial sampleWakeups = some s ∧
    ∃ timers pending, s.timers.Lists timers pending ∧
      ∀ rfds nfds timeout, s.point = .blocked rfds nfds timeout →
        (∀ ev, s.watches.Watched ev →
          ¬ ((s.watches.events ev).fd ∈ rfds ∧ (s.watches.events ev).fd < nfds) →
          s.pipe ≠ 0 ∨ ∃ thread, s.adding thread = some (.event ev)) ∧
        (∀ ev ∈ timers, ¬ timeout.Accounts (s.timers.due ev) →
          s.pipe ≠ 0 ∨ ∃ thread, s.adding thread = some (.timer ev)) ∧
        s.fdWakeupRead ∈ rfds ∧ s.fdWakeupRead < nfds ∧
        (s.pipe ≠ 0 → (s.step 0 0 8 (.selected {s.fdWakeupRead})).isSome) := by
  have ends : (run (step 0 0 8) (initial : WakeupLoop Nat Nat Nat) sampleWakeups).isSome = true := by
    decide +kernel
  obtain ⟨s, ran⟩ := Option.isSome_iff_exists.mp ends
  exact ⟨s, ran, no_lost_wakeup ran⟩

end WakeupLoop

end RildHisi.Libril
