import RildHisi.Libril.Grammar

/-!
Owns the memory behind the four dispatch functions that hand over an array whose count
stands on the wire: what is allocated, what is stored where, and exactly which payloads are
handed over with the size of the elements they hold and without a store outside.

Each function is given once more with its allocations and stores, and is the function of
`Requests` when these are left out.
-/

namespace RildHisi.Libril

/-! ### Programs that do more than call -/

namespace Reads

variable {γ δ α β : Type} (keep : γ → Option δ)

/-- The program with only the calls that are kept. -/
def onlyCalls : Reads γ α → Reads δ α
  | done value => done value
  | takeInt32 next => takeInt32 fun result => (next result).onlyCalls
  | takeBytes len next => takeBytes len fun result => (next result).onlyCalls
  | takeInplace len next => takeInplace len fun result => (next result).onlyCalls
  | takeString next => takeString fun result => (next result).onlyCalls
  | makeCall argument next =>
      match keep argument with
      | some kept => makeCall kept next.onlyCalls
      | none => next.onlyCalls

@[simp] theorem onlyCalls_pure (value : α) :
    (pure value : Reads γ α).onlyCalls keep = pure value := rfl

@[simp] theorem onlyCalls_readInt32 (t : Word) :
    (readInt32 t : Reads γ _).onlyCalls keep = readInt32 t := rfl

@[simp] theorem onlyCalls_strdupReadString :
    (strdupReadString : Reads γ _).onlyCalls keep = strdupReadString := rfl

@[simp] theorem onlyCalls_bind (program : Reads γ α) (following : α → Reads γ β) :
    (program >>= following).onlyCalls keep =
      program.onlyCalls keep >>= fun value => (following value).onlyCalls keep := by
  induction program with
  | done value => rfl
  | takeInt32 next inductionHypothesis =>
      exact congrArg takeInt32 (funext inductionHypothesis)
  | takeBytes len next inductionHypothesis =>
      exact congrArg (takeBytes len) (funext inductionHypothesis)
  | takeInplace len next inductionHypothesis =>
      exact congrArg (takeInplace len) (funext inductionHypothesis)
  | takeString next inductionHypothesis =>
      exact congrArg takeString (funext inductionHypothesis)
  | makeCall argument next inductionHypothesis =>
      change onlyCalls keep (makeCall argument (next >>= following)) =
        onlyCalls keep (makeCall argument next) >>= _
      rw [onlyCalls, onlyCalls, inductionHypothesis]
      cases keep argument <;> rfl

section RunBytes

variable (strndup16to8 : List Char16 → CString) (unread : List UInt8)

/-- The calls that are kept are made in the same order, and the same is read. -/
theorem runBytes_onlyCalls (program : Reads γ α) :
    (program.onlyCalls keep).runBytes strndup16to8 unread =
      ((program.runBytes strndup16to8 unread).1, (program.runBytes strndup16to8 unread).2.1,
        (program.runBytes strndup16to8 unread).2.2.filterMap keep) := by
  induction program generalizing unread with
  | done value => rfl
  | takeInt32 next inductionHypothesis => exact inductionHypothesis _ _
  | takeBytes len next inductionHypothesis => exact inductionHypothesis _ _
  | takeInplace len next inductionHypothesis => exact inductionHypothesis _ _
  | takeString next inductionHypothesis => exact inductionHypothesis _ _
  | makeCall argument next inductionHypothesis =>
      rw [onlyCalls]
      simp only [runBytes, List.filterMap_cons]
      cases keep argument with
      | none => exact inductionHypothesis unread
      | some kept => simp only [runBytes, inductionHypothesis]

theorem runBytes_bind (program : Reads γ α) (following : α → Reads γ β) :
    (program >>= following).runBytes strndup16to8 unread =
      (((following (program.runBytes strndup16to8 unread).1).runBytes strndup16to8
          (program.runBytes strndup16to8 unread).2.1).1,
        ((following (program.runBytes strndup16to8 unread).1).runBytes strndup16to8
          (program.runBytes strndup16to8 unread).2.1).2.1,
        (program.runBytes strndup16to8 unread).2.2 ++
          ((following (program.runBytes strndup16to8 unread).1).runBytes strndup16to8
            (program.runBytes strndup16to8 unread).2.1).2.2) := by
  induction program generalizing unread with
  | done value => rfl
  | takeInt32 next inductionHypothesis => exact inductionHypothesis _ _
  | takeBytes len next inductionHypothesis => exact inductionHypothesis _ _
  | takeInplace len next inductionHypothesis => exact inductionHypothesis _ _
  | takeString next inductionHypothesis => exact inductionHypothesis _ _
  | makeCall argument next inductionHypothesis =>
      change (makeCall argument (next >>= following)).runBytes strndup16to8 unread = _
      simp only [runBytes, inductionHypothesis, List.cons_append]

theorem runBytes_call_bind (argument : γ) (following : Unit → Reads γ α) :
    (call argument >>= following).runBytes strndup16to8 unread =
      (((following ()).runBytes strndup16to8 unread).1,
        ((following ()).runBytes strndup16to8 unread).2.1,
        argument :: ((following ()).runBytes strndup16to8 unread).2.2) := rfl

end RunBytes

end Reads

/-! ### Allocations and stores -/

/-- The arrays that the four functions put on their stack. -/
inductive StackArray
  | pStrings
  | pInts
  | gsmBci
  | gsmBciPtrs
  | cdmaBci
  | cdmaBciPtrs
  deriving DecidableEq, Repr

inductive ArrayStep
  /-- The array gets this many bytes. -/
  | alloca (array : StackArray) (bytes : Nat)
  /-- `size` bytes are stored at `offset`. -/
  | store (array : StackArray) (offset size : Nat)
  | onRequest (argument : OnRequest)
  deriving DecidableEq, Repr

def ArrayStep.argument : ArrayStep → Option OnRequest
  | onRequest argument => some argument
  | _ => none

/-- Every store is inside the array that was allocated. -/
def StoresInside (steps : List ArrayStep) : Prop :=
  ∀ array offset size, .store array offset size ∈ steps →
    ∃ bytes, .alloca array bytes ∈ steps ∧ offset + size ≤ bytes

/-- `sizeof (RIL_GSM_BroadcastSmsConfigInfo)` and of its CDMA sibling. -/
def sizeofGsmBci : Nat := structSize [4, 4, 4, 4, 1]

def sizeofCdmaBci : Nat := structSize [4, 4, 1]

open Reads ArrayStep

section Dispatch

variable (abi : Abi) (request : RilRequest) (pRI : Nat)

/-- The loop of `dispatchStrings` from `i` on. -/
def storeStrings : Nat → Nat → Reads ArrayStep (List (Option CString))
  | _, 0 => pure []
  | i, count + 1 => do
      let string8 ← strdupReadString
      call (store .pStrings (abi.ptrSize * i) abi.ptrSize)
      let pStrings ← storeStrings (i + 1) count
      pure (string8 :: pStrings)

def dispatchStringsSteps : Reads ArrayStep Unit := do
  let (status, countStrings) ← readInt32 0
  if !status then pure ()
  else if countStrings = 0 then
    call (alloca .pStrings abi.ptrSize)
    call (onRequest ⟨request, .strings [], 0, pRI⟩)
  else if countStrings = -1 then call (onRequest ⟨request, .null, 0, pRI⟩)
  else
    call (alloca .pStrings (abi.wrap (abi.ptrSize * abi.sizeT countStrings)))
    let pStrings ← storeStrings abi 0 countStrings.toInt.toNat
    call (onRequest ⟨request, .strings pStrings, abi.wrap (abi.ptrSize * abi.sizeT countStrings),
      pRI⟩)

/-- The loop of `dispatchInts` from `i` on. The store is made before the status is checked. -/
def storeInts : Nat → Nat → Reads ArrayStep (Option (List Word))
  | _, 0 => pure (some [])
  | i, count + 1 => do
      let (status, t) ← readInt32 0
      call (store .pInts (4 * i) 4)
      if !status then pure none
      else
        let pInts ← storeInts (i + 1) count
        pure (pInts.map (t :: ·))

def dispatchIntsSteps : Reads ArrayStep Unit := do
  let (status, count) ← readInt32 0
  if !status || count = 0 then pure ()
  else
    call (alloca .pInts (abi.wrap (4 * abi.sizeT count)))
    match ← storeInts 0 count.toInt.toNat with
    | none => pure ()
    | some pInts => call (onRequest ⟨request, .ints pInts, abi.wrap (4 * abi.sizeT count), pRI⟩)

/-- The loop of `dispatchGsmBrSmsCnf` from `i` on. -/
def storeGsmBci : Nat → Nat → Bool → Word →
    Reads ArrayStep (Bool × List RilGsmBroadcastSmsConfigInfo)
  | _, 0, status, _ => pure (status, [])
  | i, num + 1, _, t => do
      call (store .gsmBciPtrs (abi.ptrSize * i) abi.ptrSize)
      let (_, fromServiceId) ← readInt32 t
      call (store .gsmBci (sizeofGsmBci * i) 4)
      let (_, toServiceId) ← readInt32 fromServiceId
      call (store .gsmBci (sizeofGsmBci * i + 4) 4)
      let (_, fromCodeScheme) ← readInt32 toServiceId
      call (store .gsmBci (sizeofGsmBci * i + 8) 4)
      let (_, toCodeScheme) ← readInt32 fromCodeScheme
      call (store .gsmBci (sizeofGsmBci * i + 12) 4)
      let (status, selected) ← readInt32 toCodeScheme
      call (store .gsmBci (sizeofGsmBci * i + 16) 1)
      let (status, gsmBci) ← storeGsmBci (i + 1) num status selected
      pure (status, ⟨fromServiceId, toServiceId, fromCodeScheme, toCodeScheme,
        UInt8.ofNat selected.toNat⟩ :: gsmBci)

def dispatchGsmBrSmsCnfSteps : Reads ArrayStep Unit := do
  let (status, num) ← readInt32 0
  if !status then pure ()
  else
    call (alloca .gsmBci (abi.wrap (sizeofGsmBci * abi.sizeT num)))
    call (alloca .gsmBciPtrs (abi.wrap (abi.ptrSize * abi.sizeT num)))
    let (status, gsmBci) ← storeGsmBci abi 0 num.toInt.toNat status 0
    if !status then pure ()
    else call (onRequest ⟨request, .gsmBrSmsCnf gsmBci, abi.wrap (abi.sizeT num * abi.ptrSize),
      pRI⟩)

/-- The loop of `dispatchCdmaBrSmsCnf` from `i` on. -/
def storeCdmaBci : Nat → Nat → Bool → Word →
    Reads ArrayStep (Bool × List RilCdmaBroadcastSmsConfigInfo)
  | _, 0, status, _ => pure (status, [])
  | i, num + 1, _, t => do
      call (store .cdmaBciPtrs (abi.ptrSize * i) abi.ptrSize)
      let (_, serviceCategory) ← readInt32 t
      call (store .cdmaBci (sizeofCdmaBci * i) 4)
      let (_, language) ← readInt32 serviceCategory
      call (store .cdmaBci (sizeofCdmaBci * i + 4) 4)
      let (status, selected) ← readInt32 language
      call (store .cdmaBci (sizeofCdmaBci * i + 8) 1)
      let (status, cdmaBci) ← storeCdmaBci (i + 1) num status selected
      pure (status, ⟨serviceCategory, language, UInt8.ofNat selected.toNat⟩ :: cdmaBci)

def dispatchCdmaBrSmsCnfSteps : Reads ArrayStep Unit := do
  let (status, num) ← readInt32 0
  if !status then pure ()
  else
    call (alloca .cdmaBci (abi.wrap (sizeofCdmaBci * abi.sizeT num)))
    call (alloca .cdmaBciPtrs (abi.wrap (abi.ptrSize * abi.sizeT num)))
    let (status, cdmaBci) ← storeCdmaBci abi 0 num.toInt.toNat status 0
    if !status then pure ()
    else call (onRequest ⟨request, .cdmaBrSmsCnf cdmaBci,
      abi.wrap (abi.sizeT num * abi.ptrSize), pRI⟩)

/-! ### Without the steps these are the dispatch functions -/

@[simp] theorem onlyCalls_alloca (array : StackArray) (bytes : Nat) :
    (call (alloca array bytes)).onlyCalls argument = pure () := rfl

@[simp] theorem onlyCalls_store (array : StackArray) (offset size : Nat) :
    (call (store array offset size)).onlyCalls argument = pure () := rfl

@[simp] theorem onlyCalls_onRequest (handed : OnRequest) :
    (call (onRequest handed)).onlyCalls argument = call handed := rfl

theorem onlyCalls_ite {α : Type} {condition : Prop} [Decidable condition]
    (first second : Reads ArrayStep α) :
    (if condition then first else second).onlyCalls argument =
      if condition then first.onlyCalls argument else second.onlyCalls argument :=
  apply_ite (onlyCalls argument) condition first second

theorem onlyCalls_storeStrings (i count : Nat) :
    (storeStrings abi i count).onlyCalls argument = readStrings count := by
  induction count generalizing i with
  | zero => rfl
  | succ count inductionHypothesis =>
      simp [storeStrings, readStrings, inductionHypothesis]

theorem onlyCalls_storeInts (i count : Nat) :
    (storeInts i count).onlyCalls argument = readInts count := by
  induction count generalizing i with
  | zero => rfl
  | succ count inductionHypothesis =>
      simp [storeInts, readInts, inductionHypothesis, onlyCalls_ite]

theorem onlyCalls_storeGsmBci (i num : Nat) (status : Bool) (t : Word) :
    (storeGsmBci abi i num status t).onlyCalls argument = readGsmBci num status t := by
  induction num generalizing i status t with
  | zero => rfl
  | succ num inductionHypothesis =>
      simp [storeGsmBci, readGsmBci, inductionHypothesis]

theorem onlyCalls_storeCdmaBci (i num : Nat) (status : Bool) (t : Word) :
    (storeCdmaBci abi i num status t).onlyCalls argument = readCdmaBci num status t := by
  induction num generalizing i status t with
  | zero => rfl
  | succ num inductionHypothesis =>
      simp [storeCdmaBci, readCdmaBci, inductionHypothesis]

end Dispatch

/-! ### The four functions -/

/-- The dispatch functions that hand over an array whose count stands on the wire. -/
inductive ArrayFunction
  | strings
  | ints
  | gsmBrSmsCnf
  | cdmaBrSmsCnf
  deriving DecidableEq, Repr

namespace ArrayFunction

def dispatchFunction : ArrayFunction → DispatchFunction
  | strings => .dispatchStrings
  | ints => .dispatchInts
  | gsmBrSmsCnf => .dispatchGsmBrSmsCnf
  | cdmaBrSmsCnf => .dispatchCdmaBrSmsCnf

def steps (abi : Abi) (request : RilRequest) (pRI : Nat) : ArrayFunction → Reads ArrayStep Unit
  | strings => dispatchStringsSteps abi request pRI
  | ints => dispatchIntsSteps abi request pRI
  | gsmBrSmsCnf => dispatchGsmBrSmsCnfSteps abi request pRI
  | cdmaBrSmsCnf => dispatchCdmaBrSmsCnfSteps abi request pRI

/-- The function without its allocations and stores. -/
theorem onlyCalls_steps (abi : Abi) (request : RilRequest) (pRI version : Nat)
    (function : ArrayFunction) :
    (function.steps abi request pRI).onlyCalls argument =
      function.dispatchFunction.dispatch abi request pRI version := by
  cases function with
  | strings =>
      simp [steps, dispatchFunction, DispatchFunction.dispatch, dispatchStringsSteps,
        dispatchStrings, onlyCalls_ite, onlyCalls_storeStrings, invalidCommandBlock]
  | ints =>
      simp only [steps, dispatchFunction, DispatchFunction.dispatch, dispatchIntsSteps,
        dispatchInts, onlyCalls_ite, onlyCalls_bind, onlyCalls_readInt32, onlyCalls_pure,
        onlyCalls_alloca, Reads.pure_then, onlyCalls_storeInts, invalidCommandBlock]
      refine congrArg (readInt32 0 >>= ·) (funext fun read => ?_)
      refine if_congr Iff.rfl rfl (congrArg (readInts _ >>= ·) (funext fun pInts => ?_))
      cases pInts <;> rfl
  | gsmBrSmsCnf =>
      simp [steps, dispatchFunction, DispatchFunction.dispatch, dispatchGsmBrSmsCnfSteps,
        dispatchGsmBrSmsCnf, onlyCalls_ite, onlyCalls_storeGsmBci, invalidCommandBlock]
  | cdmaBrSmsCnf =>
      simp [steps, dispatchFunction, DispatchFunction.dispatch, dispatchCdmaBrSmsCnfSteps,
        dispatchCdmaBrSmsCnf, onlyCalls_ite, onlyCalls_storeCdmaBci, invalidCommandBlock]

/-- The size of an element of the array that is handed over. -/
def elementSize (abi : Abi) : ArrayFunction → Nat
  | strings | gsmBrSmsCnf | cdmaBrSmsCnf => abi.ptrSize
  | ints => 4

/-- The size of an element of the largest array that is stored to. -/
def storedSize (abi : Abi) : ArrayFunction → Nat
  | strings => abi.ptrSize
  | ints => 4
  | gsmBrSmsCnf => sizeofGsmBci
  | cdmaBrSmsCnf => sizeofCdmaBci

/-- The stores of the `i`th run of the loop. -/
def storesAt (abi : Abi) (i : Nat) : ArrayFunction → List ArrayStep
  | strings => [store .pStrings (abi.ptrSize * i) abi.ptrSize]
  | ints => [store .pInts (4 * i) 4]
  | gsmBrSmsCnf =>
      [store .gsmBciPtrs (abi.ptrSize * i) abi.ptrSize, store .gsmBci (sizeofGsmBci * i) 4,
        store .gsmBci (sizeofGsmBci * i + 4) 4, store .gsmBci (sizeofGsmBci * i + 8) 4,
        store .gsmBci (sizeofGsmBci * i + 12) 4, store .gsmBci (sizeofGsmBci * i + 16) 1]
  | cdmaBrSmsCnf =>
      [store .cdmaBciPtrs (abi.ptrSize * i) abi.ptrSize, store .cdmaBci (sizeofCdmaBci * i) 4,
        store .cdmaBci (sizeofCdmaBci * i + 4) 4, store .cdmaBci (sizeofCdmaBci * i + 8) 1]

/-- The allocations for a count that is not special. -/
def allocas (abi : Abi) (count : Word) : ArrayFunction → List ArrayStep
  | strings => [alloca .pStrings (abi.wrap (abi.ptrSize * abi.sizeT count))]
  | ints => [alloca .pInts (abi.wrap (4 * abi.sizeT count))]
  | gsmBrSmsCnf =>
      [alloca .gsmBci (abi.wrap (sizeofGsmBci * abi.sizeT count)),
        alloca .gsmBciPtrs (abi.wrap (abi.ptrSize * abi.sizeT count))]
  | cdmaBrSmsCnf =>
      [alloca .cdmaBci (abi.wrap (sizeofCdmaBci * abi.sizeT count)),
        alloca .cdmaBciPtrs (abi.wrap (abi.ptrSize * abi.sizeT count))]

end ArrayFunction

/-! ### What a run stores -/

section Runs

open ArrayFunction

variable (strndup16to8 : List Char16 → CString) (abi : Abi)

theorem storeStrings_calls (i count : Nat) (unread : List UInt8) :
    ((storeStrings abi i count).runBytes strndup16to8 unread).2.2 =
      (List.range' i count).flatMap fun i => strings.storesAt abi i := by
  induction count generalizing i unread with
  | zero => rfl
  | succ count inductionHypothesis =>
      simp only [storeStrings, runBytes_strdupReadString_bind, runBytes_call_bind]
      rw [runBytes_bind, inductionHypothesis, List.range'_succ, List.flatMap_cons]
      simp [storesAt]

theorem storeInts_calls (i count : Nat) (unread : List UInt8)
    (whole : ((storeInts i count).runBytes strndup16to8 unread).1.isSome) :
    ((storeInts i count).runBytes strndup16to8 unread).2.2 =
      (List.range' i count).flatMap fun i => ints.storesAt abi i := by
  induction count generalizing i unread with
  | zero => rfl
  | succ count inductionHypothesis =>
      cases found : (Unread.readInt32 unread).1 with
      | none => simp [storeInts, runBytes_call_bind, found] at whole
      | some word =>
          simp only [storeInts, runBytes_readInt32_bind, runBytes_call_bind, found,
            Option.isSome_some, Bool.not_true, Bool.false_eq_true, if_false] at whole ⊢
          rw [runBytes_bind] at whole ⊢
          simp only [runBytes_pure, Option.isSome_map] at whole ⊢
          rw [inductionHypothesis _ _ whole, List.range'_succ, List.flatMap_cons]
          simp [storesAt]

theorem storeInts_silent (i count : Nat) (unread : List UInt8) (handed : OnRequest) :
    onRequest handed ∉ ((storeInts i count).runBytes strndup16to8 unread).2.2 := by
  induction count generalizing i unread with
  | zero => exact List.not_mem_nil
  | succ count inductionHypothesis =>
      simp only [storeInts, runBytes_readInt32_bind, runBytes_call_bind]
      split_ifs
      · simp
      · rw [runBytes_bind]
        simpa using inductionHypothesis (i + 1) _

theorem storeGsmBci_calls (i num : Nat) (status : Bool) (t : Word) (unread : List UInt8) :
    ((storeGsmBci abi i num status t).runBytes strndup16to8 unread).2.2 =
      (List.range' i num).flatMap fun i => gsmBrSmsCnf.storesAt abi i := by
  induction num generalizing i status t unread with
  | zero => rfl
  | succ num inductionHypothesis =>
      simp only [storeGsmBci, runBytes_readInt32_bind, runBytes_call_bind]
      rw [runBytes_bind, inductionHypothesis, List.range'_succ, List.flatMap_cons]
      simp [storesAt]

theorem storeCdmaBci_calls (i num : Nat) (status : Bool) (t : Word) (unread : List UInt8) :
    ((storeCdmaBci abi i num status t).runBytes strndup16to8 unread).2.2 =
      (List.range' i num).flatMap fun i => cdmaBrSmsCnf.storesAt abi i := by
  induction num generalizing i status t unread with
  | zero => rfl
  | succ num inductionHypothesis =>
      simp only [storeCdmaBci, runBytes_readInt32_bind, runBytes_call_bind]
      rw [runBytes_bind, inductionHypothesis, List.range'_succ, List.flatMap_cons]
      simp [storesAt]

/-- A run that calls the vendor RIL: everything is stored before the call. -/
structure Stored (count : Word) (function : ArrayFunction) (handed : OnRequest)
    (steps : List ArrayStep) : Prop where
  same : steps = function.allocas abi count ++
    (List.range count.toInt.toNat).flatMap (function.storesAt abi) ++ [onRequest handed]
  datalen : handed.datalen = abi.wrap (function.elementSize abi * abi.sizeT count)

variable {abi}

theorem onRequest_not_mem {function : ArrayFunction} (count : Word) {loop : List ArrayStep}
    {n : Nat} (same : loop = (List.range' 0 n).flatMap (function.storesAt abi))
    (handed : OnRequest) : onRequest handed ∉ function.allocas abi count ++ loop := by
  rw [same]
  cases function <;> simp [allocas, storesAt]

/-- What a run comes to that makes these stores and then this call. -/
theorem Stored.of_call {function : ArrayFunction} {count : Word} {loop : List ArrayStep}
    {made handed : OnRequest}
    (same : loop = (List.range' 0 count.toInt.toNat).flatMap (function.storesAt abi))
    (datalen : made.datalen = abi.wrap (function.elementSize abi * abi.sizeT count))
    (called : onRequest handed ∈ function.allocas abi count ++ loop ++ [onRequest made]) :
    Stored abi count function handed (function.allocas abi count ++ loop ++ [onRequest made]) := by
  obtain rfl : handed = made := by
    rcases List.mem_append.mp called with before | last
    · exact absurd before (onRequest_not_mem count same handed)
    · simpa using last
  refine ⟨?_, datalen⟩
  rw [same, List.range_eq_range']

/-- The same where the call depends on the status behind the loop. -/
theorem Stored.of_loop {function : ArrayFunction} {count : Word} {α : Type}
    (loop : Reads ArrayStep (Bool × α)) {unread : List UInt8} (made : α → OnRequest)
    {handed : OnRequest}
    (same : (loop.runBytes strndup16to8 unread).2.2 =
      (List.range' 0 count.toInt.toNat).flatMap (function.storesAt abi))
    (datalen : ∀ items, (made items).datalen = abi.wrap (function.elementSize abi * abi.sizeT count))
    (called : onRequest handed ∈ function.allocas abi count ++
      ((loop >>= fun read => if !read.1 then pure () else call (onRequest (made read.2))).runBytes
        strndup16to8 unread).2.2) :
    Stored abi count function handed (function.allocas abi count ++
      ((loop >>= fun read => if !read.1 then pure () else call (onRequest (made read.2))).runBytes
        strndup16to8 unread).2.2) := by
  rw [runBytes_bind] at called ⊢
  generalize loop.runBytes strndup16to8 unread = ran at *
  obtain ⟨⟨status, items⟩, rest, stores⟩ := ran
  rw [← List.append_assoc] at called ⊢
  cases status with
  | false =>
      have absent := onRequest_not_mem count same handed
      exact absurd (by simpa using called) absent
  | true => exact Stored.of_call same (datalen items) called

variable {request : RilRequest} {pRI : Nat} {payload : List UInt8} {handed : OnRequest}

/-- A run of one of the functions that calls the vendor RIL has made all of its stores.
The counts 0 and -1 are special to `dispatchStrings`. -/
theorem stored_of_onRequest {function : ArrayFunction} (enough : 4 ≤ payload.length)
    (usual : function = .strings → wordOfBytes payload ≠ 0 ∧ wordOfBytes payload ≠ -1)
    (called : onRequest handed ∈
      ((function.steps abi request pRI).runBytes strndup16to8 payload).2.2) :
    Stored abi (wordOfBytes payload) function handed
      ((function.steps abi request pRI).runBytes strndup16to8 payload).2.2 := by
  have count := Unread.readInt32_enough enough
  cases function with
  | strings =>
      obtain ⟨notZero, notNull⟩ := usual rfl
      simp only [steps, dispatchStringsSteps, runBytes_readInt32_bind, count, Option.isSome_some,
        Option.getD_some, Bool.not_true, Bool.false_eq_true, if_false, if_neg notZero,
        if_neg notNull, runBytes_call_bind] at called ⊢
      rw [runBytes_bind] at called ⊢
      exact Stored.of_call (storeStrings_calls strndup16to8 abi _ _ _) rfl called
  | ints =>
      by_cases zero : wordOfBytes payload = 0
      · simp [steps, dispatchIntsSteps, count, zero] at called
      simp only [steps, dispatchIntsSteps, runBytes_readInt32_bind, count, Option.isSome_some,
        Option.getD_some, Bool.not_true, Bool.false_or, decide_eq_true_eq, if_neg zero,
        runBytes_call_bind] at called ⊢
      rw [runBytes_bind] at called ⊢
      have stores := storeInts_calls strndup16to8 abi 0 (wordOfBytes payload).toInt.toNat
        (payload.drop 4)
      have silent := storeInts_silent strndup16to8 0 (wordOfBytes payload).toInt.toNat
        (payload.drop 4) handed
      generalize (storeInts 0 (wordOfBytes payload).toInt.toNat).runBytes strndup16to8
        (payload.drop 4) = loop at *
      obtain ⟨pInts, rest, made⟩ := loop
      cases pInts with
      | none => exact absurd (by simpa using called) silent
      | some pInts => exact Stored.of_call (stores rfl) rfl called
  | gsmBrSmsCnf =>
      simp only [steps, dispatchGsmBrSmsCnfSteps, runBytes_readInt32_bind, count,
        Option.isSome_some, Option.getD_some, Bool.not_true, Bool.false_eq_true, if_false,
        runBytes_call_bind] at called ⊢
      exact Stored.of_loop strndup16to8 _ (fun gsmBci => ⟨request, .gsmBrSmsCnf gsmBci, _, pRI⟩)
        (storeGsmBci_calls strndup16to8 abi 0 _ true 0 _)
        (fun _ => by simp only [elementSize, Nat.mul_comm]) called
  | cdmaBrSmsCnf =>
      simp only [steps, dispatchCdmaBrSmsCnfSteps, runBytes_readInt32_bind, count,
        Option.isSome_some, Option.getD_some, Bool.not_true, Bool.false_eq_true, if_false,
        runBytes_call_bind] at called ⊢
      exact Stored.of_loop strndup16to8 _ (fun cdmaBci => ⟨request, .cdmaBrSmsCnf cdmaBci, _, pRI⟩)
        (storeCdmaBci_calls strndup16to8 abi 0 _ true 0 _)
        (fun _ => by simp only [elementSize, Nat.mul_comm]) called

end Runs

/-! ### Elements -/

/-- How many of `count` elements stand one behind the other. -/
def decodedCount {α : Type} (element : Grammar α) : Nat → List UInt8 → Nat
  | 0, _ => 0
  | count + 1, unread =>
      match element unread with
      | none => 0
      | some (_, rest) => decodedCount element count rest + 1

theorem decodedCount_eq_iff {α : Type} {element : Grammar α} {count : Nat}
    {unread : List UInt8} :
    decodedCount element count unread = count ↔
      (Grammar.times element count unread).isSome := by
  induction count generalizing unread with
  | zero => exact iff_of_true rfl rfl
  | succ count inductionHypothesis =>
      rw [decodedCount, Grammar.times]
      cases read : element unread with
      | none =>
          apply iff_of_false (Nat.succ_ne_zero _).symm
          change ¬ ((element unread).bind _).isSome
          rw [read]
          intro impossible
          cases impossible
      | some value =>
          obtain ⟨first, rest⟩ := value
          change decodedCount element count rest + 1 = count + 1 ↔
            ((element unread).bind fun read => ((Grammar.times element count) read.2).bind
              fun more => some (read.1 :: more.1, more.2)).isSome
          rw [read, Option.bind_some, Nat.add_right_cancel_iff, inductionHypothesis]
          cases Grammar.times element count rest <;> simp

/-! ### Stores inside what was allocated -/

theorem storesInside_iff {allocas : List ArrayStep} {storesAt : Nat → List ArrayStep}
    {count size bytes : Nat} {handed : OnRequest} (array : StackArray) (lastOffset lastSize : Nat)
    (noStore : ∀ array offset size, store array offset size ∉ allocas)
    (noAlloca : ∀ i array bytes, alloca array bytes ∉ storesAt i)
    (allocated : ∀ other, alloca array other ∈ allocas ↔ other = bytes)
    (last : ∀ i, store array (size * i + lastOffset) lastSize ∈ storesAt i)
    (inside : size * count ≤ bytes → ∀ i < count, ∀ array offset size,
      store array offset size ∈ storesAt i →
        ∃ bytes, alloca array bytes ∈ allocas ∧ offset + size ≤ bytes)
    (tight : bytes < size * count → bytes + size < size * count + lastOffset + lastSize) :
    StoresInside (allocas ++ (List.range count).flatMap storesAt ++ [onRequest handed]) ↔
      size * count ≤ bytes := by
  have allocas' (array : StackArray) (bytes : Nat) :
      alloca array bytes ∈ allocas ++ (List.range count).flatMap storesAt ++ [onRequest handed] ↔
        alloca array bytes ∈ allocas := by
    simp [noAlloca]
  have stores (array : StackArray) (offset size : Nat) :
      store array offset size ∈
          allocas ++ (List.range count).flatMap storesAt ++ [onRequest handed] ↔
        ∃ i < count, store array offset size ∈ storesAt i := by
    simp [noStore]
  simp only [StoresInside, allocas', stores]
  constructor
  · intro all
    by_contra short
    have some' : 0 < count := by
      by_contra none'
      obtain rfl : count = 0 := by omega
      omega
    obtain ⟨other, there, fits⟩ := all array _ lastSize ⟨count - 1, by omega, last (count - 1)⟩
    rw [allocated] at there
    have previous : size * (count - 1) + size = size * count := by
      rw [← Nat.mul_succ]
      congr 1
      omega
    have := tight (Nat.lt_of_not_le short)
    omega
  · rintro enough array offset size ⟨i, below, stored⟩
    exact inside enough i below array offset size stored

theorem le_mod_iff {total modulus : Nat} (positive : 0 < modulus) :
    total ≤ total % modulus ↔ total < modulus := by
  constructor
  · intro same
    exact lt_of_le_of_lt same (Nat.mod_lt _ positive)
  · intro below
    rw [Nat.mod_eq_of_lt below]

theorem mod_add_le {total modulus : Nat} (wrapped : total % modulus < total) :
    total % modulus + modulus ≤ total := by
  have large : modulus ≤ total := by
    by_contra small
    rw [Nat.mod_eq_of_lt (Nat.lt_of_not_le small)] at wrapped
    omega
  rw [Nat.mod_eq_sub_mod large]
  have := Nat.mod_le (total - modulus) modulus
  omega

/-- The arrays of the broadcast functions: structures of this width, and the pointers to
them. -/
theorem storesInside_broadcast (lastOffset : Nat) {abi : Abi} {array pointers : StackArray}
    {width count : Nat} {fields : Nat → List ArrayStep} {handed : OnRequest} (apart : array ≠ pointers)
    (larger : abi.ptrSize ≤ width) (narrow : width ≤ 2 ^ (8 * abi.ptrSize))
    (last : ∀ i, store array (width * i + lastOffset) 1 ∈ fields i)
    (within : ∀ i, ∀ step ∈ fields i,
      ∃ offset size, step = store array (width * i + offset) size ∧ offset + size ≤ width) :
    StoresInside ([alloca array (abi.wrap (width * count)),
          alloca pointers (abi.wrap (abi.ptrSize * count))] ++
        (List.range count).flatMap
          (fun i => store pointers (abi.ptrSize * i) abi.ptrSize :: fields i) ++
        [onRequest handed]) ↔
      width * count ≤ abi.wrap (width * count) := by
  apply storesInside_iff array lastOffset 1
  · simp
  · intro i other bytes made
    rcases List.mem_cons.mp made with same | inside
    · cases same
    · obtain ⟨offset, size, same, -⟩ := within i _ inside
      cases same
  · simp [apart]
  · exact fun i => List.mem_cons_of_mem _ (last i)
  · intro fits i below other offset size stored
    rcases List.mem_cons.mp stored with same | inside
    · cases same
      have whole : width * count < 2 ^ (8 * abi.ptrSize) :=
        (le_mod_iff (Nat.two_pow_pos _)).mp fits
      have smaller : abi.ptrSize * count ≤ width * count := Nat.mul_le_mul_right count larger
      have exact' : abi.wrap (abi.ptrSize * count) = abi.ptrSize * count :=
        Nat.mod_eq_of_lt (lt_of_le_of_lt smaller whole)
      refine ⟨abi.wrap (abi.ptrSize * count), by simp, ?_⟩
      rw [exact', ← Nat.mul_succ]
      exact Nat.mul_le_mul_left abi.ptrSize (Nat.succ_le_of_lt below)
    · obtain ⟨start, length, same, short⟩ := within i _ inside
      cases same
      refine ⟨abi.wrap (width * count), by simp, ?_⟩
      have before := Nat.mul_le_mul_left width (Nat.succ_le_of_lt below)
      rw [Nat.mul_succ] at before
      omega
  · intro wrapped
    have lost : abi.wrap (width * count) + 2 ^ (8 * abi.ptrSize) ≤ width * count :=
      mod_add_le wrapped
    omega

namespace ArrayFunction

variable (abi : Abi)

/-- The elements that are actually decoded from a payload. -/
def decoded (strndup16to8 : List Char16 → CString) (payload : List UInt8) : ArrayFunction → Nat
  | strings => decodedCount (Grammar.string strndup16to8) (wordOfBytes payload).toInt.toNat
      (payload.drop 4)
  | ints => decodedCount Grammar.int32 (wordOfBytes payload).toInt.toNat (payload.drop 4)
  | gsmBrSmsCnf => decodedCount Grammar.gsmBci (wordOfBytes payload).toInt.toNat (payload.drop 4)
  | cdmaBrSmsCnf => decodedCount Grammar.cdmaBci (wordOfBytes payload).toInt.toNat
      (payload.drop 4)

/-- The stores for a count that is not special are inside exactly where the size of the
largest array does not wrap. -/
theorem storesInside_iff (function : ArrayFunction) {count : Word} (positive : 0 ≤ count.toInt)
    (handed : OnRequest) :
    StoresInside (function.allocas abi count ++
        (List.range count.toInt.toNat).flatMap (function.storesAt abi) ++ [onRequest handed]) ↔
      function.storedSize abi * count.toNat < 2 ^ (8 * abi.ptrSize) := by
  have size : abi.sizeT count = count.toNat := abi.sizeT_of_nonneg positive
  have length : count.toInt.toNat = count.toNat := by
    rw [toInt_eq_toNat positive, Int.toNat_natCast]
  have wide : 2 ^ 32 ≤ 2 ^ (8 * abi.ptrSize) := by cases abi <;> decide
  have small : abi.ptrSize ≤ 8 := by cases abi <;> decide
  have lost (wrapped : abi.wrap (function.storedSize abi * abi.sizeT count) <
        function.storedSize abi * abi.sizeT count) :
      abi.wrap (function.storedSize abi * abi.sizeT count) + 2 ^ (8 * abi.ptrSize) ≤
        function.storedSize abi * abi.sizeT count := mod_add_le wrapped
  rw [← le_mod_iff (by omega), length, ← size]
  change _ ↔ _ ≤ abi.wrap _
  cases function with
  | strings =>
      simp only [storedSize] at lost ⊢
      refine Libril.storesInside_iff .pStrings 0 abi.ptrSize (by simp [allocas])
        (by simp [storesAt]) (by simp [allocas]) (by simp [storesAt]) ?_ ?_
      · intro fits i below array offset size stored
        have inside := Nat.mul_le_mul_left abi.ptrSize (Nat.succ_le_of_lt below)
        rw [Nat.mul_succ] at inside
        simp only [storesAt, List.mem_singleton, store.injEq] at stored
        obtain ⟨rfl, rfl, rfl⟩ := stored
        exact ⟨_, by simp [allocas], inside.trans fits⟩
      · intro wrapped
        have := lost wrapped
        omega
  | ints =>
      simp only [storedSize] at lost ⊢
      refine Libril.storesInside_iff .pInts 0 4 (by simp [allocas])
        (by simp [storesAt]) (by simp [allocas]) (by simp [storesAt]) ?_ ?_
      · intro fits i below array offset size stored
        simp only [storesAt, List.mem_singleton, store.injEq] at stored
        obtain ⟨rfl, rfl, rfl⟩ := stored
        exact ⟨abi.wrap (4 * abi.sizeT count), by simp [allocas], by omega⟩
      · intro wrapped
        have := lost wrapped
        omega
  | gsmBrSmsCnf =>
      apply storesInside_broadcast 16 (by decide)
      · exact small.trans (by decide)
      · exact le_trans (by decide) wide
      · simp
      · intro i step stored
        simp only [List.mem_cons, List.not_mem_nil, or_false] at stored
        rcases stored with rfl | rfl | rfl | rfl | rfl
        · exact ⟨0, 4, rfl, by decide⟩
        · exact ⟨4, 4, rfl, by decide⟩
        · exact ⟨8, 4, rfl, by decide⟩
        · exact ⟨12, 4, rfl, by decide⟩
        · exact ⟨16, 1, rfl, by decide⟩
  | cdmaBrSmsCnf =>
      apply storesInside_broadcast 8 (by decide)
      · exact small.trans (by decide)
      · exact le_trans (by decide) wide
      · simp
      · intro i step stored
        simp only [List.mem_cons, List.not_mem_nil, or_false] at stored
        rcases stored with rfl | rfl | rfl
        · exact ⟨0, 4, rfl, by decide⟩
        · exact ⟨4, 4, rfl, by decide⟩
        · exact ⟨8, 1, rfl, by decide⟩

/-- What has to be true of an accepted payload: the count is not negative (or the -1 of a
null string array), no size wraps, and all strings are there. -/
def Fits (payload : List UInt8) (function : ArrayFunction) : Prop :=
  function.dispatchFunction.Accepts 0 payload →
    (function = strings ∧ wordOfBytes payload = -1) ∨
      (0 ≤ (wordOfBytes payload).toInt ∧
        function.storedSize abi * (wordOfBytes payload).toNat < 2 ^ (8 * abi.ptrSize) ∧
        (function = strings →
          CompleteStrings (wordOfBytes payload).toInt.toNat (payload.drop 4)))

theorem enough_of_accepts {function : ArrayFunction} {payload : List UInt8}
    (accepts : function.dispatchFunction.Accepts 0 payload) : 4 ≤ payload.length := by
  cases function with
  | strings => exact accepts
  | ints => exact accepts.1
  | gsmBrSmsCnf => exact accepts.1
  | cdmaBrSmsCnf => exact accepts.1

/-- All elements are decoded, if strings are complete. -/
theorem decoded_eq_iff (strndup16to8 : List Char16 → CString) {function : ArrayFunction}
    {payload : List UInt8} (accepts : function.dispatchFunction.Accepts 0 payload) :
    function.decoded strndup16to8 payload = (wordOfBytes payload).toInt.toNat ↔
      (function = strings →
        CompleteStrings (wordOfBytes payload).toInt.toNat (payload.drop 4)) := by
  have drop := List.length_drop (i := 4) (l := payload)
  cases function with
  | strings => simp only [decoded, decodedCount_eq_iff, isSome_strings, true_implies]
  | ints =>
      refine iff_of_true (decodedCount_eq_iff.mpr ?_) nofun
      rw [(fixed_int32.times _).isSome]
      have := accepts.2.2
      omega
  | gsmBrSmsCnf =>
      refine iff_of_true (decodedCount_eq_iff.mpr ?_) nofun
      rw [(fixed_gsmBci.times _).isSome]
      have := accepts.2
      omega
  | cdmaBrSmsCnf =>
      refine iff_of_true (decodedCount_eq_iff.mpr ?_) nofun
      rw [(fixed_cdmaBci.times _).isSome]
      have := accepts.2
      omega

theorem elementSize_le (function : ArrayFunction) :
    function.elementSize abi ≤ function.storedSize abi := by
  cases function <;> cases abi <;> decide

theorem elementSize_pos (function : ArrayFunction) : 0 < function.elementSize abi := by
  cases function <;> cases abi <;> decide

/-- The steps of a run that calls the vendor RIL are as the claimed sizes say. -/
def SizedSteps (strndup16to8 : List Char16 → CString) (payload : List UInt8)
    (function : ArrayFunction) (steps : List ArrayStep) : Prop :=
  ∀ handed, onRequest handed ∈ steps →
    (0 ≤ (wordOfBytes payload).toInt ∨ function = strings ∧ wordOfBytes payload = -1) ∧
      handed.datalen = function.elementSize abi * function.decoded strndup16to8 payload ∧
      StoresInside steps

section Sized

variable {strndup16to8 : List Char16 → CString} {request : RilRequest} {pRI : Nat}
  {payload : List UInt8} {function : ArrayFunction}

/-- A count that is not special. -/
theorem sizedSteps_stored_iff {handed : OnRequest} {steps : List ArrayStep}
    (accepts : function.dispatchFunction.Accepts 0 payload)
    (usual : function = .strings → wordOfBytes payload ≠ 0 ∧ wordOfBytes payload ≠ -1)
    (called : onRequest handed ∈ steps)
    (stored : ∀ handed, onRequest handed ∈ steps →
      Stored abi (wordOfBytes payload) function handed steps) :
    SizedSteps abi strndup16to8 payload function steps ↔ function.Fits abi payload := by
  have special : ¬ (function = strings ∧ wordOfBytes payload = -1) :=
    fun null => (usual null.1).2 null.2
  simp only [SizedSteps, Fits, accepts, true_implies, or_iff_left special, or_iff_right special]
  by_cases positive : 0 ≤ (wordOfBytes payload).toInt
  case neg =>
    exact iff_of_false (fun all => positive (all handed called).1) fun fits => positive fits.1
  have size := abi.sizeT_of_nonneg positive
  have inside (handed : OnRequest) (called : onRequest handed ∈ steps) :
      StoresInside steps ↔
        function.storedSize abi * (wordOfBytes payload).toNat < 2 ^ (8 * abi.ptrSize) := by
    rw [(stored handed called).same]
    exact function.storesInside_iff abi positive handed
  have datalen (handed : OnRequest) (called : onRequest handed ∈ steps)
      (below : function.storedSize abi * (wordOfBytes payload).toNat < 2 ^ (8 * abi.ptrSize)) :
      handed.datalen = function.elementSize abi * function.decoded strndup16to8 payload ↔
        function.decoded strndup16to8 payload = (wordOfBytes payload).toInt.toNat := by
    have smaller := Nat.mul_le_mul_right (wordOfBytes payload).toNat (function.elementSize_le abi)
    have length : (wordOfBytes payload).toInt.toNat = (wordOfBytes payload).toNat := by
      rw [toInt_eq_toNat positive, Int.toNat_natCast]
    rw [(stored handed called).datalen, size, Abi.wrap, Nat.mod_eq_of_lt (by omega), length,
      Nat.mul_right_inj (function.elementSize_pos abi).ne', eq_comm]
  simp only [positive, true_and]
  rw [← decoded_eq_iff strndup16to8 accepts]
  constructor
  · intro all
    obtain ⟨same, fits⟩ := all handed called
    have below := (inside handed called).mp fits
    exact ⟨below, (datalen handed called below).mp same⟩
  · rintro ⟨below, decoded⟩ handed called
    exact ⟨(datalen handed called below).mpr decoded, (inside handed called).mpr below⟩

variable (strndup16to8 request pRI) in
/-- An accepted payload is handed over. -/
theorem exists_onRequest_of_accepts (accepts : function.dispatchFunction.Accepts 0 payload) :
    ∃ handed, onRequest handed ∈
      ((function.steps abi request pRI).runBytes strndup16to8 payload).2.2 := by
  obtain ⟨calls, -⟩ := function.dispatchFunction.decides abi request pRI 0 strndup16to8 payload
  rw [← function.onlyCalls_steps, Reads.runBytes_onlyCalls] at calls
  obtain ⟨handed, -, only⟩ := calls accepts
  obtain ⟨step, member, same⟩ := List.mem_filterMap.mp (only ▸ List.mem_singleton_self handed)
  cases step with
  | onRequest argument => exact ⟨argument, member⟩
  | alloca => cases same
  | store => cases same

/-- No strings. -/
theorem dispatchStringsSteps_zero (enough : 4 ≤ payload.length) (zero : wordOfBytes payload = 0) :
    ((strings.steps abi request pRI).runBytes strndup16to8 payload).2.2 =
      [alloca .pStrings abi.ptrSize, onRequest ⟨request, .strings [], 0, pRI⟩] := by
  simp [steps, dispatchStringsSteps, Unread.readInt32_enough enough, zero, runBytes_call_bind]

/-- No array. -/
theorem dispatchStringsSteps_null (enough : 4 ≤ payload.length) (null : wordOfBytes payload = -1) :
    ((strings.steps abi request pRI).runBytes strndup16to8 payload).2.2 =
      [onRequest ⟨request, .null, 0, pRI⟩] := by
  simp [steps, dispatchStringsSteps, Unread.readInt32_enough enough, null]

theorem sizedSteps_iff :
    SizedSteps abi strndup16to8 payload function
        ((function.steps abi request pRI).runBytes strndup16to8 payload).2.2 ↔
      function.Fits abi payload := by
  by_cases accepts : function.dispatchFunction.Accepts 0 payload
  case neg =>
    obtain ⟨-, silent⟩ := function.dispatchFunction.decides abi request pRI 0 strndup16to8 payload
    rw [← function.onlyCalls_steps, Reads.runBytes_onlyCalls] at silent
    refine iff_of_true (fun handed called => ?_) fun holds => absurd holds accepts
    have kept := List.mem_filterMap.mpr ⟨onRequest handed, called, show argument _ = _ from rfl⟩
    have none' := silent accepts
    dsimp only at none'
    rw [none'] at kept
    cases kept
  obtain ⟨handed, called⟩ := exists_onRequest_of_accepts abi strndup16to8 request pRI accepts
  have enough := enough_of_accepts accepts
  by_cases usual : function = .strings → wordOfBytes payload ≠ 0 ∧ wordOfBytes payload ≠ -1
  · exact sizedSteps_stored_iff abi accepts usual called
      fun _ made => stored_of_onRequest strndup16to8 enough usual made
  obtain ⟨rfl, special⟩ := Classical.not_imp.mp usual
  by_cases zero : wordOfBytes payload = 0
  · have none' : strings.decoded strndup16to8 payload = 0 := by
      simp [decoded, zero, decodedCount]
    rw [dispatchStringsSteps_zero abi enough zero]
    refine iff_of_true (fun handed made => ?_) fun _ => Or.inr ?_
    · obtain rfl : handed = ⟨request, .strings [], 0, pRI⟩ := by simpa using made
      exact ⟨Or.inl (by simp [zero]), by simp [none'], by simp [StoresInside]⟩
    · rw [zero]
      exact ⟨by decide, Nat.two_pow_pos _, fun _ => trivial⟩
  · have null : wordOfBytes payload = -1 := by
      by_contra other
      exact special ⟨zero, other⟩
    have none' : strings.decoded strndup16to8 payload = 0 := by
      rw [decoded, null]
      rfl
    rw [dispatchStringsSteps_null abi enough null]
    refine iff_of_true (fun handed made => ?_) fun _ => Or.inl ⟨rfl, null⟩
    obtain rfl : handed = ⟨request, .null, 0, pRI⟩ := by simpa using made
    exact ⟨Or.inr ⟨rfl, null⟩, by simp [none'], by simp [StoresInside]⟩

end Sized

/-- Whenever the function calls the vendor RIL, the count is not negative (or the -1 of a
null string array), the length is that of the elements that were decoded, and every store
is inside the array that was allocated. -/
def Sized (P : Type) [Platform P] (request : RilRequest) (pRI : Nat) (function : ArrayFunction)
    (p : P) : Prop :=
  function.SizedSteps abi (Platform.strndup16to8 P) (unread p)
    ((function.steps abi request pRI).run p).2.2

/-- **Counts on the wire.** The four functions size what they hand over exactly on the
payloads that fit: a negative count and a string that is not there are accepted, and a count
whose size wraps makes them store outside of the array. -/
theorem sized_iff (P : Type) [Platform P] [LawfulPlatform P] (request : RilRequest) (pRI : Nat)
    (function : ArrayFunction) (p : P) :
    function.Sized abi P request pRI p ↔ function.Fits abi (unread p) := by
  unfold Sized
  rw [Reads.run_calls]
  exact sizedSteps_iff abi

theorem sized_twoInts :
    ints.Sized .ilp32 ByteParcel .radioPower 16
      ⟨wordBytes 2 ++ wordBytes 7 ++ wordBytes 8, 0⟩ :=
  (sized_iff .ilp32 ByteParcel .radioPower 16 ints _).mpr fun _ =>
    Or.inr ⟨by decide, by decide, nofun⟩

/-- **A negative count.** `dispatchInts` with a count of -2 hands over 2^64 - 8 bytes. -/
theorem negativeCount_unsized :
    ¬ ints.Sized .lp64 ByteParcel .radioPower 16 ⟨wordBytes (-2), 0⟩ := by
  intro sized
  obtain ⟨positive | null, -⟩ := sized ⟨.radioPower, .ints [], 2 ^ 64 - 8, 16⟩ (by decide)
  · exact absurd positive (by decide)
  · cases null.1

end ArrayFunction

end RildHisi.Libril
