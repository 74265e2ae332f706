import Mathlib.Algebra.Ring.Int.Defs
import RildHisi.AtChannel.Handshake
import RildHisi.Libril.Parcel

/-!
Owns the deadlines of timed waits: the `timespec` that `setTimespecRelative` and the worker
of the mock RIL compute without `USE_NP`, and what `at_send_command_full_nolock` does with
one that is not valid.

The nanoseconds do not carry into the seconds. `pthread_cond_timedwait` returns `EINVAL` for
such a deadline and does not free the mutex, and the loop around it only leaves for
`ETIMEDOUT`.
-/

namespace RildHisi.AtChannel

open RildHisi.Library RildHisi.Libril

/-! ### Points in time -/

/-- A `struct timeval`. -/
structure Timeval where
  tvSec : Int
  tvUsec : Int
  deriving DecidableEq, Repr

/-- A `struct timespec`. -/
structure Timespec where
  tvSec : Int
  tvNsec : Int
  deriving DecidableEq, Repr

/-- The values of a `long`, which are those of a `time_t`. -/
def LongRange (abi : Abi) (value : Int) : Prop :=
  -2 ^ (8 * abi.ptrSize - 1) ≤ value ∧ value < 2 ^ (8 * abi.ptrSize - 1)

/-- A value stored in a `long`. -/
def toLong (abi : Abi) (value : Int) : Int := (BitVec.ofInt (8 * abi.ptrSize) value).toInt

/-- What `gettimeofday` gives. -/
structure CurrentTime (abi : Abi) extends Timeval where
  sec_range : LongRange abi tvSec
  usec_nonneg : 0 ≤ tvUsec
  usec_lt : tvUsec < 1000000

/-- What `pthread_cond_timedwait` takes for a point in time. -/
def Timespec.Valid (ts : Timespec) : Prop := 0 ≤ ts.tvNsec ∧ ts.tvNsec ≤ 999999999

instance (ts : Timespec) : Decidable ts.Valid := inferInstanceAs (Decidable (_ ∧ _))

/-- The point in time so many milliseconds behind another one, in nanoseconds. -/
def Timespec.Denotes (ts : Timespec) (tv : Timeval) (msec : Int) : Prop :=
  ts.tvSec * 1000000000 + ts.tvNsec =
    tv.tvSec * 1000000000 + tv.tvUsec * 1000 + msec * 1000000

/-! ### Deadlines -/

section Deadlines

variable (abi : Abi)

/-- The seconds and the rest of the milliseconds are added apart. -/
def relativeTimespec (tv : Timeval) (msec : Int) : Timespec where
  tvSec := toLong abi (tv.tvSec + msec.tdiv 1000)
  tvNsec := toLong abi ((tv.tvUsec + msec.tmod 1000 * 1000) * 1000)

/-- `setTimespecRelative`. -/
def setTimespecRelative (tv : Timeval) (msec : Int) : Timespec := relativeTimespec abi tv msec

/-- The `ts` of `WorkerQueueThread::Worker`. -/
def workerTimespec (tv : Timeval) (delayMs : Int) : Timespec := relativeTimespec abi tv delayMs

/-- The fraction of the second and that of the delay make less than a second. -/
def NoCarry (tv : Timeval) (msec : Int) : Prop := tv.tvUsec + msec % 1000 * 1000 < 1000000

instance (tv : Timeval) (msec : Int) : Decidable (NoCarry tv msec) :=
  inferInstanceAs (Decidable (_ < _))

/-- The seconds of the sum fit into a `time_t`. -/
def SecondsFit (tv : Timeval) (msec : Int) : Prop :=
  tv.tvSec + msec / 1000 < 2 ^ (8 * abi.ptrSize - 1)

theorem toLong_of_range {value : Int} (range : LongRange abi value) : toLong abi value = value := by
  obtain ⟨low, high⟩ := range
  cases abi <;> exact BitVec.toInt_ofInt_eq_self (by decide) low high

theorem toLong_lt (value : Int) : toLong abi value < 2 ^ (8 * abi.ptrSize - 1) := by
  cases abi <;> exact BitVec.toInt_lt

variable {abi} (now : CurrentTime abi) {msec : Int}

/-- The nanoseconds fit into a `long`, carried or not. -/
theorem tvNsec_relativeTimespec (nonneg : 0 ≤ msec) :
    (relativeTimespec abi now.toTimeval msec).tvNsec =
      (now.tvUsec + msec % 1000 * 1000) * 1000 := by
  have low := now.usec_nonneg
  have high := now.usec_lt
  show toLong abi ((now.tvUsec + msec.tmod 1000 * 1000) * 1000) = _
  rw [Int.tmod_eq_emod_of_nonneg nonneg]
  apply toLong_of_range
  cases abi <;> (simp only [LongRange, Abi.ptrSize]; omega)

theorem tvSec_relativeTimespec (nonneg : 0 ≤ msec) :
    (relativeTimespec abi now.toTimeval msec).tvSec = now.tvSec + msec / 1000 ↔
      SecondsFit abi now.toTimeval msec := by
  show toLong abi (now.tvSec + msec.tdiv 1000) = _ ↔ _
  rw [Int.tdiv_eq_ediv_of_nonneg nonneg]
  constructor
  · intro same
    rw [SecondsFit, ← same]
    exact toLong_lt abi _
  · intro fits
    apply toLong_of_range
    have low := now.sec_range.1
    exact ⟨by omega, fits⟩

theorem valid_relativeTimespec_iff (nonneg : 0 ≤ msec) :
    (relativeTimespec abi now.toTimeval msec).Valid ↔ NoCarry now.toTimeval msec := by
  have low := now.usec_nonneg
  rw [Timespec.Valid, tvNsec_relativeTimespec now nonneg, NoCarry]
  omega

theorem denotes_relativeTimespec_iff (nonneg : 0 ≤ msec) :
    (relativeTimespec abi now.toTimeval msec).Denotes now.toTimeval msec ↔
      SecondsFit abi now.toTimeval msec := by
  rw [Timespec.Denotes, tvNsec_relativeTimespec now nonneg, ← tvSec_relativeTimespec now nonneg]
  omega

end Deadlines

/-! ### Timed waits -/

namespace Channel

variable (deadline : Timespec) (timeoutMsec : Int) (wantsResponse : Bool)

/-- The loop of `at_send_command_full_nolock` on what it would meet in each wait: what it
comes to, and of each wait whether it freed `s_commandmutex`. -/
def waitUntilDeadline : Channel → List Wait → SendResult × List Bool
  | chan, waits =>
      match chan.spResponse with
      | none => (.crashed, [])
      | some response =>
          if response.finalResponse.isNone && !chan.sReaderClosed then
            match waits with
            | [] => (.waiting chan, [])
            | wait :: waits =>
                if timeoutMsec ≠ 0 ∧ ¬ deadline.Valid then
                  -- `EINVAL` is no `ETIMEDOUT`, and nobody else has had the mutex
                  let (result, freed) := waitUntilDeadline chan waits
                  (result, false :: freed)
                else match wait.events.foldlM handleEvent chan with
                  | none => (.crashed, [true])
                  | some chan =>
                      if timeoutMsec ≠ 0 && wait.timedOut then
                        (.returned atErrorTimeout none chan.clearPendingCommand, [true])
                      else
                        let (result, freed) := waitUntilDeadline chan waits
                        (result, true :: freed)
          else (chan.finishCommand response wantsResponse, [])

/-- `at_send_command_full_nolock` without `USE_NP`, at this time. -/
def atSendCommandFullNolockAt (abi : Abi) (now : Timeval) (chan : Channel) (command : Command)
    (waits : List Wait) : SendResult × List Bool :=
  if chan.spResponse.isSome then
    (.returned atErrorCommandPending none chan.clearPendingCommand, [])
  else
    let (err, chan) := chan.writeline command.command
    if err < 0 then (.returned err none chan.clearPendingCommand, [])
    else waitUntilDeadline (setTimespecRelative abi now command.timeoutMsec) command.timeoutMsec
      command.wantsResponse (chan.startCommand command) waits

variable {deadline timeoutMsec}

/-- With a valid deadline the loop is the one of `at_send_command_full_nolock` on waits that
each free the mutex. -/
theorem waitUntilDeadline_valid (valid : timeoutMsec ≠ 0 → deadline.Valid) (chan : Channel)
    (waits : List Wait) :
    (waitUntilDeadline deadline timeoutMsec wantsResponse chan waits).1 =
        waitForFinalResponse timeoutMsec wantsResponse chan waits ∧
      ∀ freed ∈ (waitUntilDeadline deadline timeoutMsec wantsResponse chan waits).2,
        freed = true := by
  have never : ¬ (timeoutMsec ≠ 0 ∧ ¬ deadline.Valid) := fun invalid => invalid.2 (valid invalid.1)
  induction waits generalizing chan with
  | nil =>
      rw [waitUntilDeadline, waitForFinalResponse]
      cases chan.spResponse with
      | none => simp
      | some response =>
          dsimp only
          split <;> simp
  | cons wait waits inductionHypothesis =>
      rw [waitUntilDeadline, waitForFinalResponse]
      cases chan.spResponse with
      | none => simp
      | some response =>
          dsimp only
          rw [if_neg never]
          split
          · cases wait.events.foldlM handleEvent chan with
            | none => simp
            | some chan =>
                dsimp only
                split
                · simp
                · have rest := inductionHypothesis chan
                  simpa using rest
          · simp

/-- With any other deadline the loop turns for ever, with the mutex held. -/
theorem waitUntilDeadline_invalid (timed : timeoutMsec ≠ 0) (invalid : ¬ deadline.Valid)
    {chan : Channel} {response : AtResponse} (pending : chan.spResponse = some response)
    (unfinished : response.finalResponse = none) (opened : chan.sReaderClosed = false)
    (waits : List Wait) :
    waitUntilDeadline deadline timeoutMsec wantsResponse chan waits =
      (.waiting chan, List.replicate waits.length false) := by
  induction waits with
  | nil =>
      rw [waitUntilDeadline]
      simp [pending, unfinished, opened]
  | cons wait waits inductionHypothesis =>
      rw [waitUntilDeadline]
      simp [pending, unfinished, opened, timed, invalid, inductionHypothesis, List.replicate_succ]

/-- The command is written and comes to its first wait. -/
def ComesToWait (chan : Channel) (command : Command) : Prop :=
  ∃ next, chan.atSendCommandFullNolock command [] = .waiting next

/-- Every wait of the command frees the mutex, and the command comes to what it comes to in
`at_send_command_full_nolock`. -/
def FreesMutex (abi : Abi) (now : Timeval) (chan : Channel) (command : Command) : Prop :=
  ∀ waits, (chan.atSendCommandFullNolockAt abi now command waits).1 =
      chan.atSendCommandFullNolock command waits ∧
    ∀ freed ∈ (chan.atSendCommandFullNolockAt abi now command waits).2, freed = true

/-- A command fails before it waits, or it starts to wait with no answer there. -/
theorem atSendCommandFullNolockAt_cases (chan : Channel) (command : Command) :
    (¬ chan.ComesToWait command ∧ ∀ abi now waits,
        chan.atSendCommandFullNolockAt abi now command waits =
          (chan.atSendCommandFullNolock command waits, [])) ∨
      ∃ next, next.spResponse = some atResponseNew ∧ next.sReaderClosed = false ∧
        ∀ waits, chan.atSendCommandFullNolock command waits =
            waitForFinalResponse command.timeoutMsec command.wantsResponse next waits ∧
          ∀ abi now, chan.atSendCommandFullNolockAt abi now command waits =
            waitUntilDeadline (setTimespecRelative abi now command.timeoutMsec)
              command.timeoutMsec command.wantsResponse next waits := by
  by_cases pending : chan.spResponse.isSome = true
  · apply Or.inl
    unfold ComesToWait atSendCommandFullNolock atSendCommandFullNolockAt
    simp [pending]
  · by_cases refused : (chan.writeline command.command).1 < 0
    · apply Or.inl
      unfold ComesToWait atSendCommandFullNolock atSendCommandFullNolockAt
      simp [pending, refused]
    · apply Or.inr
      have opened := (writeTerminated_open refused).2
      refine ⟨(chan.writeline command.command).2.startCommand command, rfl, opened, ?_⟩
      intro waits
      unfold atSendCommandFullNolock atSendCommandFullNolockAt
      simp [pending, refused]

/-- **A timed command frees the mutex in its waits exactly if it comes to none or the
nanoseconds of its deadline are those of a second.** -/
theorem freesMutex_iff {abi : Abi} {now : Timeval} {chan : Channel} {command : Command}
    (timed : command.timeoutMsec ≠ 0) :
    chan.FreesMutex abi now command ↔
      (chan.ComesToWait command → (setTimespecRelative abi now command.timeoutMsec).Valid) := by
  obtain ⟨fails, same⟩ | ⟨next, pending, opened, same⟩ :=
    chan.atSendCommandFullNolockAt_cases command
  · unfold FreesMutex
    simp [same, fails]
  · have comes : chan.ComesToWait command := by
      refine ⟨next, ?_⟩
      rw [(same []).1, waitForFinalResponse]
      simp [pending, opened, atResponseNew]
    constructor
    · intro frees _
      by_contra invalid
      have held := (frees [⟨[], false⟩]).2 false
      rw [(same _).2 abi now,
        waitUntilDeadline_invalid _ timed invalid pending rfl opened] at held
      exact Bool.false_ne_true (held (by simp))
    · intro valid waits
      rw [(same waits).1, (same waits).2 abi now]
      exact waitUntilDeadline_valid _ (fun _ => valid comes) next waits

end Channel

/-- **Deadlines.** The two deadlines are valid and denote the time they should exactly if the
fractions of a second do not carry and the seconds fit into a `time_t`, and a command with
this time-out frees the mutex in its waits exactly if it comes to none or the fractions do
not carry. -/
theorem deadlines_iff (abi : Abi) (now : CurrentTime abi) (msec : Int) (nonneg : 0 ≤ msec) :
    ((setTimespecRelative abi now.toTimeval msec).Valid ∧
        (setTimespecRelative abi now.toTimeval msec).Denotes now.toTimeval msec ↔
      NoCarry now.toTimeval msec ∧ SecondsFit abi now.toTimeval msec) ∧
    ((workerTimespec abi now.toTimeval msec).Valid ∧
        (workerTimespec abi now.toTimeval msec).Denotes now.toTimeval msec ↔
      NoCarry now.toTimeval msec ∧ SecondsFit abi now.toTimeval msec) ∧
    ∀ (chan : Channel) (command : Command), command.timeoutMsec = msec → msec ≠ 0 →
      (chan.FreesMutex abi now.toTimeval command ↔
        (chan.ComesToWait command → NoCarry now.toTimeval msec)) := by
  have valid := valid_relativeTimespec_iff now nonneg
  have denotes := denotes_relativeTimespec_iff now nonneg
  refine ⟨and_congr valid denotes, and_congr valid denotes, ?_⟩
  rintro chan command rfl timed
  rw [Channel.freesMutex_iff timed, setTimespecRelative, valid]

/-- Nine tenths of a second behind a full one. -/
def nineTenths : CurrentTime .ilp32 where
  tvSec := 1000000000
  tvUsec := 900000
  sec_range := ⟨by decide, by decide⟩
  usec_nonneg := by decide
  usec_lt := by decide

theorem deadlines_nineTenths :
    0 ≤ handshakeTimeoutMsec ∧
      ((setTimespecRelative .ilp32 nineTenths.toTimeval 250).Valid ∧
          (setTimespecRelative .ilp32 nineTenths.toTimeval 250).Denotes
            nineTenths.toTimeval 250 ↔
        NoCarry nineTenths.toTimeval 250 ∧
          SecondsFit .ilp32 nineTenths.toTimeval 250) :=
  ⟨by decide, (deadlines_iff .ilp32 nineTenths 250 (by decide)).1⟩

/-- The channel on its descriptor, behind the first line of `at_handshake`. -/
def handshakeSent : Channel :=
  { Channel.initial with
    sFd := 3
    spResponse := some atResponseNew
    written := ascii "ATE0Q0V1\r" }

/-- **At nine tenths of a second** the first attempt of `at_handshake` turns for ever, with
the mutex held. -/
theorem handshake_spins :
    setTimespecRelative .ilp32 nineTenths.toTimeval handshakeTimeoutMsec =
        ⟨1000000000, 1150000000⟩ ∧
      ¬ (setTimespecRelative .ilp32 nineTenths.toTimeval handshakeTimeoutMsec).Valid ∧
      ∀ waits, Channel.atSendCommandFullNolockAt .ilp32 nineTenths.toTimeval
          { Channel.initial with sFd := 3 } handshakeCommand waits =
        (.waiting handshakeSent, List.replicate waits.length false) := by
  have invalid : ¬ (setTimespecRelative .ilp32 nineTenths.toTimeval
      handshakeTimeoutMsec).Valid := by decide
  refine ⟨by decide, invalid, ?_⟩
  intro waits
  have written : ({ Channel.initial with sFd := 3 } : Channel).writeline
      handshakeCommand.command = (0, { Channel.initial with
        sFd := 3, written := ascii "ATE0Q0V1\r" }) := rfl
  unfold Channel.atSendCommandFullNolockAt
  rw [written]
  exact Channel.waitUntilDeadline_invalid false (by decide) invalid rfl rfl rfl waits

end RildHisi.AtChannel
