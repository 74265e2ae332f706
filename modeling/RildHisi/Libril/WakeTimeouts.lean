import RildHisi.Libril.State
import RildHisi.Library.Runs

/-!
Owns the timed callbacks of ril.cpp: the `UserCallbackInfo` blocks that
`internalRequestTimedCallback` allocates and `userTimerCallback` frees, and
`s_last_wake_timeout_info`, which points to one of them.

A block lives exactly as long as its timer is pending, and the pointer is given up
before its block is (`wakeTimeout_of_run`). Timers fire in any order here; that of
`timer_list` is one of them. The wake lock itself is not embedded: both of its
functions are empty.
-/

namespace RildHisi.Libril

open RildHisi.Library

/-- `p_callback`: `wakeTimeoutCallback` is static in ril.cpp, the others come from the
callers of `RIL_requestTimedCallback`. -/
inductive TimedCallback (κ : Type)
  | wakeTimeoutCallback
  | requested (callback : κ)
  deriving DecidableEq

/-- `UserCallbackInfo`. Its event goes by the name of the block; a `void *` is a number,
0 for NULL. -/
structure UserCallbackInfo (κ : Type) where
  pCallback : TimedCallback κ
  userParam : Nat
  deriving DecidableEq

inductive WakeType
  | dontWake | wakePartial
  deriving DecidableEq

def rilUnsolOnUssdRequest : Int := 1007

def rilUnsolSignalStrength : Int := 1009

def rilUnsolNdisDial : Int := 1031

/-- The `wakeType` of a row of `s_unsolResponses`. -/
def wakeType (unsolResponse : Int) : WakeType :=
  if unsolResponse = rilUnsolOnUssdRequest ∨ unsolResponse = rilUnsolSignalStrength ∨
      unsolResponse = rilUnsolNdisDial then .dontWake
  else .wakePartial

/-- libril with the blocks in its heap, `α` being addresses other than NULL. -/
structure TimedCallbacks (α κ : Type) where
  libril : State
  heap : α → Option (UserCallbackInfo κ)
  /-- The blocks whose event is in `timer_list` or `pending_list`. -/
  timers : List α
  lastWakeTimeoutInfo : Option α
  registerCalled : Bool
  /-- What `userTimerCallback` has called. -/
  called : List (UserCallbackInfo κ)
  /-- A block that is not allocated was read, written or freed. -/
  useAfterFree : Bool

inductive TimedOp (α κ : Type)
  | rilRegister
  /-- With what the response function writes, none if it fails, and the address `malloc`
  returns if it is called. -/
  | rilOnUnsolicitedResponse (unsolResponse : Int) (payload : Option (List UInt8))
      (script : List WriteOutcome) (pInfo : α)
  | rilRequestTimedCallback (callback : κ) (param : Nat) (pInfo : α)
  /-- The timer of a block fires. What its callback calls is a step before this one. -/
  | userTimerCallback (pInfo : α)

namespace TimedCallbacks

variable {α κ : Type}

def initial : TimedCallbacks α κ where
  libril := .initial
  heap := fun _ => none
  timers := []
  lastWakeTimeoutInfo := none
  registerCalled := false
  called := []
  useAfterFree := false

section Calls

variable [DecidableEq α]

/-- `internalRequestTimedCallback`, where `malloc` returns `pInfo`. -/
def internalRequestTimedCallback (s : TimedCallbacks α κ) (callback : TimedCallback κ)
    (param : Nat) (pInfo : α) : Option (TimedCallbacks α κ) :=
  if s.heap pInfo = none then
    some { s with
      heap := Function.update s.heap pInfo (some ⟨callback, param⟩)
      timers := s.timers ++ [pInfo] }
  else none

/-- `s_last_wake_timeout_info->userParam = (void *)1`, unless it is NULL. -/
def cancelLastWakeTimeout (s : TimedCallbacks α κ) : TimedCallbacks α κ :=
  match s.lastWakeTimeoutInfo with
  | none => s
  | some last =>
      match s.heap last with
      | none => { s with useAfterFree := true }
      | some info =>
          { s with heap := Function.update s.heap last (some { info with userParam := 1 }) }

/-- `RIL_onUnsolicitedResponse`. -/
def rilOnUnsolicitedResponse (s : TimedCallbacks α κ) (unsolResponse : Int)
    (payload : Option (List UInt8)) (script : List WriteOutcome) (pInfo : α) :
    Option (TimedCallbacks α κ) :=
  if s.registerCalled = false then some s
  else
    let unsolResponseIndex := unsolResponse - rilUnsolResponseBase
    if unsolResponseIndex < 0 ∨ (numUnsolResponses : Int) ≤ unsolResponseIndex then some s
    else
      let s := { s with
        libril := s.libril.rilOnUnsolicitedResponse unsolResponse.toNat payload script }
      -- a response function that fails leaves through `error_exit`
      if payload.isSome ∧ wakeType unsolResponse = .wakePartial then
        (s.cancelLastWakeTimeout.internalRequestTimedCallback .wakeTimeoutCallback 0 pInfo).map
          fun s => { s with lastWakeTimeoutInfo := some pInfo }
      else some s

/-- `userTimerCallback`. -/
def userTimerCallback (s : TimedCallbacks α κ) (pInfo : α) : TimedCallbacks α κ :=
  match s.heap pInfo with
  | none => { s with useAfterFree := true }
  | some info =>
      { s with
        called := s.called ++ [info]
        lastWakeTimeoutInfo :=
          if s.lastWakeTimeoutInfo = some pInfo then none else s.lastWakeTimeoutInfo
        heap := Function.update s.heap pInfo none }

/-- One call. `malloc` returns no block that is allocated, and a timer fires once. -/
def step (s : TimedCallbacks α κ) : TimedOp α κ → Option (TimedCallbacks α κ)
  | .rilRegister => some { s with registerCalled := true }
  | .rilOnUnsolicitedResponse unsolResponse payload script pInfo =>
      s.rilOnUnsolicitedResponse unsolResponse payload script pInfo
  | .rilRequestTimedCallback callback param pInfo =>
      s.internalRequestTimedCallback (.requested callback) param pInfo
  | .userTimerCallback pInfo =>
      if pInfo ∈ s.timers then
        some ({ s with timers := s.timers.erase pInfo }.userTimerCallback pInfo)
      else none

end Calls

/-! ### Who owns a block -/

/-- A block is allocated exactly as long as its timer is pending. -/
structure Blocks (s : TimedCallbacks α κ) : Prop where
  allocated : ∀ pInfo, pInfo ∈ s.timers ↔ (s.heap pInfo).isSome
  nodup : s.timers.Nodup
  useAfterFree : s.useAfterFree = false

/-- `s_last_wake_timeout_info` has the wake-up timeout that is not cancelled. -/
structure Owned (s : TimedCallbacks α κ) : Prop extends Blocks s where
  last : ∀ pInfo, s.lastWakeTimeoutInfo = some pInfo ↔
    s.heap pInfo = some ⟨.wakeTimeoutCallback, 0⟩

theorem owned_initial : (initial : TimedCallbacks α κ).Owned where
  allocated := fun pInfo => by simp [initial]
  nodup := List.nodup_nil
  useAfterFree := rfl
  last := fun pInfo => by simp [initial]

variable {s s' : TimedCallbacks α κ}

/-- What libril does besides leaves the blocks alone. -/
theorem Owned.of_eq (owned : s.Owned) (heap : s'.heap = s.heap) (timers : s'.timers = s.timers)
    (last : s'.lastWakeTimeoutInfo = s.lastWakeTimeoutInfo)
    (useAfterFree : s'.useAfterFree = s.useAfterFree) : s'.Owned where
  allocated := fun pInfo => by rw [timers, heap]; exact owned.allocated pInfo
  nodup := by rw [timers]; exact owned.nodup
  useAfterFree := useAfterFree.trans owned.useAfterFree
  last := fun pInfo => by rw [last, heap]; exact owned.last pInfo

variable [DecidableEq α]

/-- A new block gets a timer of its own. -/
theorem Blocks.internalRequestTimedCallback (blocks : s.Blocks) {callback : TimedCallback κ}
    {param : Nat} {pInfo : α}
    (requested : s.internalRequestTimedCallback callback param pInfo = some s') :
    s'.Blocks ∧ s.heap pInfo = none ∧
      s'.heap = Function.update s.heap pInfo (some ⟨callback, param⟩) ∧
      s'.lastWakeTimeoutInfo = s.lastWakeTimeoutInfo := by
  unfold TimedCallbacks.internalRequestTimedCallback at requested
  by_cases fresh : s.heap pInfo = none
  case neg => rw [if_neg fresh] at requested; cases requested
  rw [if_pos fresh] at requested
  obtain rfl := Option.some.inj requested
  have unlisted : pInfo ∉ s.timers := by
    rw [blocks.allocated, fresh]
    exact Bool.false_ne_true
  refine ⟨⟨fun other => ?_, ?_, blocks.useAfterFree⟩, fresh, rfl, rfl⟩
  · by_cases same : other = pInfo
    · subst same
      simp
    · simp [same, blocks.allocated]
  · apply List.nodup_append.mpr
    refine ⟨blocks.nodup, List.nodup_singleton pInfo, ?_⟩
    intro other listed only member same
    rw [List.mem_singleton.mp member] at same
    exact unlisted (same ▸ listed)

/-- The pointer is good when it is written through, and no timeout is left that would
release the wake lock. -/
theorem Owned.cancelLastWakeTimeout (owned : s.Owned) :
    s.cancelLastWakeTimeout.Blocks ∧
      ∀ pInfo, s.cancelLastWakeTimeout.heap pInfo ≠ some ⟨.wakeTimeoutCallback, 0⟩ := by
  unfold TimedCallbacks.cancelLastWakeTimeout
  cases pointer : s.lastWakeTimeoutInfo with
  | none =>
      refine ⟨owned.toBlocks, fun pInfo shape => ?_⟩
      rw [(owned.last pInfo).mpr shape] at pointer
      cases pointer
  | some last =>
      have info : s.heap last = some ⟨.wakeTimeoutCallback, 0⟩ := (owned.last last).mp pointer
      simp only [info]
      refine ⟨⟨fun other => ?_, owned.nodup, owned.useAfterFree⟩, fun other shape => ?_⟩
      · by_cases same : other = last
        · subst same
          simp [owned.allocated, info]
        · simp [same, owned.allocated]
      · by_cases same : other = last
        · subst same
          simp at shape
        · rw [Function.update_of_ne same, ← owned.last other, pointer, Option.some.injEq] at shape
          exact same shape.symm

/-- The timeout before is cancelled, and the new one has the pointer. -/
theorem Owned.scheduleWakeTimeout (owned : s.Owned) {pInfo : α}
    (requested : s.cancelLastWakeTimeout.internalRequestTimedCallback .wakeTimeoutCallback 0
      pInfo = some s') : Owned { s' with lastWakeTimeoutInfo := some pInfo } := by
  obtain ⟨cancelled, noneLeft⟩ := owned.cancelLastWakeTimeout
  obtain ⟨blocks, -, heap, -⟩ := cancelled.internalRequestTimedCallback requested
  refine ⟨⟨blocks.allocated, blocks.nodup, blocks.useAfterFree⟩, fun other => ?_⟩
  show some pInfo = some other ↔ s'.heap other = _
  rw [heap, Option.some.injEq]
  by_cases same : other = pInfo
  · subst same
    simp
  · rw [Function.update_of_ne same]
    exact iff_of_false (fun here => same here.symm) (noneLeft other)

/-- A callback that was asked for does not concern the wake lock. -/
theorem Owned.rilRequestTimedCallback (owned : s.Owned) {callback : κ} {param : Nat} {pInfo : α}
    (requested : s.internalRequestTimedCallback (.requested callback) param pInfo = some s') :
    s'.Owned := by
  obtain ⟨blocks, fresh, heap, last⟩ := owned.toBlocks.internalRequestTimedCallback requested
  refine ⟨blocks, fun other => ?_⟩
  rw [last, heap, owned.last]
  by_cases same : other = pInfo
  · subst same
    simp [fresh]
  · rw [Function.update_of_ne same]

theorem Owned.rilOnUnsolicitedResponse (owned : s.Owned) {unsolResponse : Int}
    {payload : Option (List UInt8)} {script : List WriteOutcome} {pInfo : α}
    (returned : s.rilOnUnsolicitedResponse unsolResponse payload script pInfo = some s') :
    s'.Owned := by
  unfold TimedCallbacks.rilOnUnsolicitedResponse at returned
  simp only at returned
  split_ifs at returned with unregistered unsupported scheduled
  · exact Option.some.inj returned ▸ owned
  · exact Option.some.inj returned ▸ owned
  · obtain ⟨requested, done, rfl⟩ := Option.map_eq_some_iff.mp returned
    refine Owned.scheduleWakeTimeout ?_ done
    exact owned.of_eq rfl rfl rfl rfl
  · obtain rfl := Option.some.inj returned
    exact owned.of_eq rfl rfl rfl rfl

/-- The pointer is given up before the block it points to is freed. -/
theorem Owned.userTimerCallback (owned : s.Owned) {pInfo : α} (pending : pInfo ∈ s.timers) :
    Owned ({ s with timers := s.timers.erase pInfo }.userTimerCallback pInfo) := by
  obtain ⟨info, here⟩ := Option.isSome_iff_exists.mp ((owned.allocated pInfo).mp pending)
  unfold TimedCallbacks.userTimerCallback
  simp only [here]
  refine ⟨⟨fun other => ?_, owned.nodup.erase pInfo, owned.useAfterFree⟩, fun other => ?_⟩
  · show other ∈ s.timers.erase pInfo ↔ _
    rw [owned.nodup.mem_erase_iff]
    by_cases same : other = pInfo
    · subst same
      simp
    · simp [same, owned.allocated]
  · dsimp only
    by_cases same : other = pInfo
    · subst same
      rw [Function.update_self]
      refine iff_of_false ?_ (fun none' => by cases none')
      split_ifs with own
      · exact fun none' => by cases none'
      · exact own
    · rw [Function.update_of_ne same, ← owned.last]
      split_ifs with own
      · rw [own, Option.some.injEq]
        exact iff_of_false (fun none' => by cases none') fun here => same here.symm
      · exact Iff.rfl

theorem Owned.step (owned : s.Owned) {op : TimedOp α κ} (stepped : s.step op = some s') :
    s'.Owned := by
  cases op with
  | rilRegister =>
      obtain rfl := Option.some.inj stepped
      exact owned.of_eq rfl rfl rfl rfl
  | rilOnUnsolicitedResponse unsolResponse payload script pInfo =>
      exact owned.rilOnUnsolicitedResponse stepped
  | rilRequestTimedCallback callback param pInfo => exact owned.rilRequestTimedCallback stepped
  | userTimerCallback pInfo =>
      simp only [TimedCallbacks.step] at stepped
      split_ifs at stepped with pending
      obtain rfl := Option.some.inj stepped
      exact owned.userTimerCallback pending

/-- **The wake-up timeout in every run**: `s_last_wake_timeout_info` is NULL or points to
a block that is allocated and whose timer is pending, that block has the one pending
wake-up timeout that is not cancelled, and no block is used once it is freed. -/
theorem wakeTimeout_of_run {ops : List (TimedOp α κ)} (ran : run step initial ops = some s) :
    (∀ pInfo, s.lastWakeTimeoutInfo = some pInfo → pInfo ∈ s.timers ∧
      s.heap pInfo = some ⟨.wakeTimeoutCallback, 0⟩) ∧
    (∀ pInfo ∈ s.timers, s.heap pInfo = some ⟨.wakeTimeoutCallback, 0⟩ →
      s.lastWakeTimeoutInfo = some pInfo) ∧
    s.timers.Nodup ∧ s.useAfterFree = false := by
  have owned : s.Owned := run_invariant (fun _ _ _ owned stepped => owned.step stepped)
    owned_initial ran
  refine ⟨fun pInfo pointer => ?_, fun pInfo _ shape => (owned.last pInfo).mpr shape,
    owned.nodup, owned.useAfterFree⟩
  have info := (owned.last pInfo).mp pointer
  exact ⟨(owned.allocated pInfo).mpr (by rw [info]; rfl), info⟩

/-- The second message cancels the timeout of the first, whose timer fires late; its
address is allocated again at once. -/
def sampleTimedOps : List (TimedOp Nat Nat) :=
  [.rilOnUnsolicitedResponse 1001 (some []) [] 8, .rilRegister,
    .rilOnUnsolicitedResponse 1001 (some []) [] 8, .rilRequestTimedCallback 5 0 16,
    .rilOnUnsolicitedResponse 1009 (some []) [] 24, .rilOnUnsolicitedResponse 1002 (some []) [] 24,
    .userTimerCallback 8, .rilOnUnsolicitedResponse 1003 none [] 8,
    .rilOnUnsolicitedResponse 1003 (some []) [] 8, .userTimerCallback 16, .userTimerCallback 8]

theorem wakeTimeout_sampleTimedOps : ∃ s : TimedCallbacks Nat Nat,
    run step initial sampleTimedOps = some s ∧
    (∀ pInfo, s.lastWakeTimeoutInfo = some pInfo → pInfo ∈ s.timers ∧
      s.heap pInfo = some ⟨.wakeTimeoutCallback, 0⟩) ∧
    (∀ pInfo ∈ s.timers, s.heap pInfo = some ⟨.wakeTimeoutCallback, 0⟩ →
      s.lastWakeTimeoutInfo = some pInfo) ∧
    s.timers.Nodup ∧ s.useAfterFree = false := by
  have ends : (run step (initial : TimedCallbacks Nat Nat) sampleTimedOps).isSome = true := by
    decide +kernel
  obtain ⟨s, ran⟩ := Option.isSome_iff_exists.mp ends
  exact ⟨s, ran, wakeTimeout_of_run ran⟩

end TimedCallbacks

end RildHisi.Libril
