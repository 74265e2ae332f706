import RildHisi.Libril.ArrayWrites

/-!
Owns the stack behind the dispatch functions: an array that `alloca` makes has to fit what is
left of the stack, and its stores have to be inside. A record is settled exactly where its
request is unsupported, or its payload is accepted and the arrays of its dispatch function
are all right.

The frames of the functions themselves are not counted.
-/

namespace RildHisi.Libril

open ArrayStep ArrayFunction

/-! ### Arrays on a stack -/

/-- The stack of a thread: what is left of it, and what `alloca` of so many bytes takes. -/
structure ThreadStack where
  room : Nat
  alloca : Nat → Nat

/-- The array is made, with at least so many bytes. -/
def ArrayStep.Makes (array : StackArray) (bytes : Nat) : ArrayStep → Prop
  | alloca made size => made = array ∧ bytes ≤ size
  | store _ _ _ | onRequest _ => False

instance (array : StackArray) (bytes : Nat) (step : ArrayStep) :
    Decidable (step.Makes array bytes) := by
  cases step <;> unfold ArrayStep.Makes <;> infer_instance

/-- A store is inside an array that the steps make. Other steps store nothing. -/
def ArrayStep.InsideOf (steps : List ArrayStep) : ArrayStep → Prop
  | store array offset size => ∃ step ∈ steps, step.Makes array (offset + size)
  | alloca _ _ | onRequest _ => True

instance (steps : List ArrayStep) (step : ArrayStep) : Decidable (step.InsideOf steps) := by
  cases step <;> unfold ArrayStep.InsideOf <;> infer_instance

theorem storesInside_iff_insideOf (steps : List ArrayStep) :
    StoresInside steps ↔ ∀ step ∈ steps, step.InsideOf steps := by
  constructor
  · intro inside step member
    cases step with
    | store array offset size =>
        obtain ⟨bytes, made, fits⟩ := inside array offset size member
        exact ⟨_, made, rfl, fits⟩
    | alloca | onRequest => trivial
  · intro inside array offset size member
    obtain ⟨step, made, fits⟩ := inside _ member
    cases step with
    | alloca other bytes =>
        obtain ⟨rfl, fits⟩ := fits
        exact ⟨bytes, made, fits⟩
    | store | onRequest => exact absurd fits id

instance (steps : List ArrayStep) : Decidable (StoresInside steps) :=
  decidable_of_iff _ (storesInside_iff_insideOf steps).symm

namespace ThreadStack

variable (stack : ThreadStack)

/-- What the steps take from the stack. -/
def taken : List ArrayStep → Nat
  | [] => 0
  | .alloca _ bytes :: steps => stack.alloca bytes + taken steps
  | .store _ _ _ :: steps | .onRequest _ :: steps => taken steps

/-- The steps go through: the arrays are on the stack, and every store is in its array. -/
def Holds (steps : List ArrayStep) : Prop :=
  stack.taken steps ≤ stack.room ∧ StoresInside steps

instance (steps : List ArrayStep) : Decidable (stack.Holds steps) :=
  inferInstanceAs (Decidable (_ ∧ _))

theorem taken_append (first second : List ArrayStep) :
    stack.taken (first ++ second) = stack.taken first + stack.taken second := by
  induction first with
  | nil => exact (Nat.zero_add _).symm
  | cons step first inductionHypothesis =>
      cases step with
      | alloca array bytes =>
          simp only [List.cons_append, taken, inductionHypothesis, Nat.add_assoc]
      | store | onRequest => exact inductionHypothesis

/-- Only an `alloca` takes anything. -/
theorem taken_eq_zero {steps : List ArrayStep}
    (others : ∀ array bytes, .alloca array bytes ∉ steps) : stack.taken steps = 0 := by
  induction steps with
  | nil => rfl
  | cons step steps inductionHypothesis =>
      have rest := inductionHypothesis fun array bytes member =>
        others array bytes (List.mem_cons_of_mem _ member)
      cases step with
      | alloca array bytes => exact absurd List.mem_cons_self (others array bytes)
      | store | onRequest => exact rest

/-- Calls alone. -/
theorem holds_calls (calls : List OnRequest) : stack.Holds (calls.map onRequest) := by
  refine ⟨?_, fun array offset size stored => ?_⟩
  · rw [taken_eq_zero stack (by simp)]
    exact Nat.zero_le _
  · simp at stored

end ThreadStack

/-! ### Which payloads have room -/

/-- The arrays for a count are on the stack, and no size wraps. -/
def ArrayFunction.RoomFor (abi : Abi) (stack : ThreadStack) (count : Word)
    (function : ArrayFunction) : Prop :=
  stack.taken (function.allocas abi count) ≤ stack.room ∧
    (0 ≤ count.toInt → function.storedSize abi * count.toNat < 2 ^ (8 * abi.ptrSize))

/-- The arrays for a payload. The count 0 of `dispatchStrings` has an array of one pointer, and
-1 none. -/
def ArrayFunction.HasRoom (abi : Abi) (stack : ThreadStack) (payload : List UInt8)
    (function : ArrayFunction) : Prop :=
  if function = strings ∧ wordOfBytes payload = 0 then stack.alloca abi.ptrSize ≤ stack.room
  else if function = strings ∧ wordOfBytes payload = -1 then True
  else function.RoomFor abi stack (wordOfBytes payload)

namespace DispatchFunction

/-- Four of the functions make arrays. -/
def arrayFunction : DispatchFunction → Option ArrayFunction
  | dispatchStrings => some strings
  | dispatchInts => some ints
  | dispatchGsmBrSmsCnf => some gsmBrSmsCnf
  | dispatchCdmaBrSmsCnf => some cdmaBrSmsCnf
  | _ => none

theorem eq_of_arrayFunction {dispatch : DispatchFunction} {function : ArrayFunction}
    (found : dispatch.arrayFunction = some function) : dispatch = function.dispatchFunction := by
  cases dispatch <;> cases found <;> rfl

/-- The functions with their allocations and stores. -/
def steps (abi : Abi) (request : RilRequest) (pRI version : Nat) (dispatch : DispatchFunction) :
    Reads ArrayStep Unit :=
  match dispatch.arrayFunction with
  | some function => function.steps abi request pRI
  | none => (dispatch.dispatch abi request pRI version).onlyCalls fun handed =>
      some (onRequest handed)

def HasRoom (abi : Abi) (stack : ThreadStack) (payload : List UInt8)
    (dispatch : DispatchFunction) : Prop :=
  ∀ function ∈ dispatch.arrayFunction, function.HasRoom abi stack payload

end DispatchFunction

section Steps

variable (strndup16to8 : List Char16 → CString) (abi : Abi) (stack : ThreadStack)
  (request : RilRequest) (pRI : Nat) {payload : List UInt8}

/-- A run with a count that is not special. -/
theorem holds_stored_iff {function : ArrayFunction} {count : Word} {handed : OnRequest}
    {steps : List ArrayStep} (stored : Stored abi count function handed steps) :
    stack.Holds steps ↔ function.RoomFor abi stack count := by
  have stores : stack.taken ((List.range count.toInt.toNat).flatMap (function.storesAt abi)) = 0 :=
    stack.taken_eq_zero fun array bytes member => by
      obtain ⟨i, -, inside⟩ := List.mem_flatMap.mp member
      cases function <;> simp [storesAt] at inside
  have call : stack.taken [onRequest handed] = 0 := rfl
  unfold ThreadStack.Holds RoomFor
  rw [stored.same]
  simp only [ThreadStack.taken_append, stores, call, Nat.add_zero]
  refine and_congr_right fun _ => ?_
  by_cases positive : 0 ≤ count.toInt
  · rw [function.storesInside_iff abi positive handed]
    exact ⟨fun below _ => below, fun below => below positive⟩
  · -- the loop makes no turn
    refine iff_of_true (fun array offset size member => ?_) fun other => absurd other positive
    have none' : count.toInt.toNat = 0 := by omega
    rw [none'] at member
    cases function <;> simp [allocas] at member

/-- The array functions, for the payloads they accept. -/
theorem ArrayFunction.holds_steps_iff (function : ArrayFunction)
    (accepts : function.dispatchFunction.Accepts 0 payload) :
    stack.Holds ((function.steps abi request pRI).runBytes strndup16to8 payload).2.2 ↔
      function.HasRoom abi stack payload := by
  have enough := enough_of_accepts accepts
  unfold ArrayFunction.HasRoom
  split_ifs with zero null
  · obtain ⟨rfl, zero⟩ := zero
    rw [dispatchStringsSteps_zero abi enough zero]
    simp [ThreadStack.Holds, ThreadStack.taken, StoresInside]
  · obtain ⟨rfl, null⟩ := null
    rw [dispatchStringsSteps_null abi enough null]
    exact iff_of_true (stack.holds_calls [_]) trivial
  · obtain ⟨handed, called⟩ := exists_onRequest_of_accepts abi strndup16to8 request pRI accepts
    refine holds_stored_iff abi stack (stored_of_onRequest strndup16to8 enough ?_ called)
    exact fun same => ⟨fun is0 => zero ⟨same, is0⟩, fun is1 => null ⟨same, is1⟩⟩

/-- **The arrays of a dispatch function** are all right for an accepted payload exactly where
it has room. -/
theorem DispatchFunction.holds_steps_iff {version : Nat} {dispatch : DispatchFunction}
    (accepts : dispatch.Accepts version payload) :
    stack.Holds ((dispatch.steps abi request pRI version).runBytes strndup16to8 payload).2.2 ↔
      dispatch.HasRoom abi stack payload := by
  unfold DispatchFunction.steps DispatchFunction.HasRoom
  cases found : dispatch.arrayFunction with
  | none =>
      refine iff_of_true ?_ nofun
      dsimp only
      rw [Reads.runBytes_onlyCalls, List.filterMap_eq_map']
      exact stack.holds_calls _
  | some function =>
      obtain rfl := eq_of_arrayFunction found
      have accepts' : function.dispatchFunction.Accepts 0 payload := by
        cases function <;> exact accepts
      simpa using function.holds_steps_iff strndup16to8 abi stack request pRI accepts'

/-- Without their allocations and stores these are the dispatch functions. -/
theorem DispatchFunction.calls_steps (version : Nat) (dispatch : DispatchFunction) :
    ((dispatch.steps abi request pRI version).runBytes strndup16to8 payload).2.2.filterMap
        ArrayStep.argument =
      ((dispatch.dispatch abi request pRI version).runBytes strndup16to8 payload).2.2 := by
  unfold DispatchFunction.steps
  cases found : dispatch.arrayFunction with
  | none =>
      dsimp only
      rw [Reads.runBytes_onlyCalls, List.filterMap_filterMap]
      exact List.filterMap_some
  | some function =>
      obtain rfl := eq_of_arrayFunction found
      dsimp only
      rw [← function.onlyCalls_steps, Reads.runBytes_onlyCalls]

end Steps

/-! ### A record on a stack -/

section Records

variable (P : Type) [Platform P] (version : Nat) (stack : ThreadStack)

/-- What the dispatch function of a request does with the payload of a record. -/
def dispatchSteps (pRI : Nat) (pCI : CommandInfo) (payload : List UInt8) : List ArrayStep :=
  ((pCI.dispatchFunction.steps (Platform.abi P) pCI.requestNumber pRI version).runBytes
    (Platform.strndup16to8 P) payload).2.2

/-- `processCommandBuffer` on this stack. None: an array does not fit it, or a store is outside
of its array. -/
def State.processCommandBufferOn (s : State) (buffer : List UInt8) (pRI : Nat) : Option State :=
  match requestOf buffer with
  | none => some (s.processCommandBuffer P version buffer pRI)
  | some (pCI, _) =>
      if stack.Holds (dispatchSteps P version pRI pCI (buffer.drop 8)) then
        some (s.processCommandBuffer P version buffer pRI)
      else none

/-- The arrays that the record leads to are all right. -/
def ArraysFit (buffer : List UInt8) : Prop :=
  ∀ pCI token, requestOf buffer = some (pCI, token) →
    pCI.dispatchFunction.HasRoom (Platform.abi P) stack (buffer.drop 8)

variable [LawfulPlatform P]

/-- **A record is settled** exactly where its request is unsupported, or its payload is accepted
and the arrays it leads to fit. Any other record is queued, and no call is made that could
complete it. -/
theorem settled_iff {events : List Event} {s : State} {buffer : List UInt8} {pRI : Nat}
    (ran : Library.run (step P version) .initial events = some s)
    (stepped : (step P version s (.processCommandBuffer buffer pRI)).isSome) :
    (∃ s', s.processCommandBufferOn P version stack buffer pRI = some s' ∧ Settled s s' pRI) ↔
      PayloadAccepted version buffer ∧ ArraysFit P stack buffer := by
  obtain ⟨s', stepped⟩ := Option.isSome_iff_exists.mp stepped
  have settled := settled_processCommandBuffer_iff P version ran stepped
  obtain rfl : s.processCommandBuffer P version buffer pRI = s' := by
    simp only [step, Option.ite_none_right_eq_some, Option.some.injEq] at stepped
    exact stepped.2
  unfold State.processCommandBufferOn ArraysFit
  rw [← settled]
  cases found : requestOf buffer with
  | none => simp
  | some accepted =>
      obtain ⟨pCI, token⟩ := accepted
      simp only [Option.ite_none_right_eq_some, Option.some.injEq, Prod.mk.injEq]
      have room (accepts : PayloadAccepted version buffer) :=
        DispatchFunction.holds_steps_iff (Platform.strndup16to8 P) (Platform.abi P) stack
          pCI.requestNumber pRI (accepts pCI token found)
      constructor
      · rintro ⟨s', ⟨holds, rfl⟩, done⟩
        refine ⟨done, ?_⟩
        rintro pCI' token' ⟨rfl, rfl⟩
        exact (room (settled.mp done)).mp holds
      · rintro ⟨done, fits⟩
        refine ⟨_, ⟨(room (settled.mp done)).mpr (fits pCI token ⟨rfl, rfl⟩), rfl⟩, done⟩

/-- A stack of 1 KiB, which `alloca` keeps aligned. -/
def alignedStack : ThreadStack := ⟨1024, fun size => (size + 15) / 16 * 16⟩

theorem settled_radioPower :
    ∃ s', connectedState.processCommandBufferOn ByteParcel 3 alignedStack radioPowerRecord 16 =
        some s' ∧ Settled connectedState s' 16 := by
  have found : requestOf radioPowerRecord =
      some (⟨.radioPower, .dispatchInts, .responseVoid⟩, 7) := by decide
  refine (settled_iff ByteParcel 3 alignedStack connectedState_run rfl).mpr ⟨?_, ?_⟩
  · intro pCI token same
    obtain ⟨rfl, rfl⟩ := by simpa [found] using same
    decide
  · intro pCI token same function given
    obtain ⟨rfl, rfl⟩ := by simpa [found] using same
    obtain rfl := Option.some.inj given
    exact ⟨by decide, fun _ => by decide⟩

/-- **A count without its int.** The record is queued and never handed over. -/
theorem truncatedRecord_unsettled :
    ∃ s', connectedState.processCommandBufferOn ByteParcel 3 alignedStack
        (wordBytes 23 ++ wordBytes 7 ++ wordBytes 1) 16 = some s' ∧
      ¬ Settled connectedState s' 16 := by
  refine ⟨_, rfl, ?_⟩
  rintro (⟨argument, -, appended, -⟩ | ⟨same, -⟩)
  · have longer : 0 = connectedState.onRequests.length + 1 :=
      (congrArg List.length appended).trans List.length_append
    cases longer
  · revert same
    decide

/-- A negative count asks for nearly all of the memory. -/
example : connectedState.processCommandBufferOn ByteParcel 3 alignedStack
    (wordBytes 23 ++ wordBytes 7 ++ wordBytes (-10)) 16 = none := rfl

end Records

end RildHisi.Libril
