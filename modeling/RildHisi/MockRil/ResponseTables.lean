import RildHisi.MockRil.StringAnswers

/-!
Owns the agreement of the conversions of responses.cpp with the response functions of
`s_commands`: libril takes what a conversion hands over, and reads nothing that the conversion
has not written, save one index of the card status.
-/

namespace RildHisi.MockRil.Generated

open RildHisi.Daemon
open RildHisi.Libril (Abi CommandInfo Marshalled ParcelWrite Platform Pointee RequestInfo
  ResponseFunction TextPlatform Word commandInfo counted countedArray frameHeader invalidArray
  marshalled responseParcel)

/-! ### The two tables -/

/-- The response function for what a conversion hands over. -/
def RspConversion.responseFunction : RspConversion → ResponseFunction
  | .withNoData => .responseVoid
  | .getSimStatus => .responseSimStatus
  | .enterSimPinData => .responseInts
  | .getCurrentCalls => .responseCallList
  | .string => .responseString
  | .strings => .responseStrings
  | .integers => .responseInts
  | .signalStrength => .responseRilSignalStrength
  | .operator => .responseStrings

/-- Each request has the conversion that its response function expects. -/
theorem commandInfo_of_conversion {request : Int} {conversion : RspConversion}
    (known : rilRspConversionMap.lookup request = some conversion) :
    ∃ pCI, commandInfo request.toNat = some pCI ∧
      pCI.responseFunction = RspConversion.responseFunction conversion := by
  have all : ∀ entry ∈ rilRspConversionMap,
      (commandInfo entry.1.toNat).map CommandInfo.responseFunction =
        some (RspConversion.responseFunction entry.2) := by decide +kernel
  obtain ⟨front, back, shape, -⟩ := List.lookup_eq_some_iff.mp known
  have here := all (request, conversion) (by rw [shape]; simp)
  exact Option.map_eq_some_iff.mp here

/-! ### Reading inside an array -/

theorem range_flatMap_arrayOf {α β : Type} {entries : List α} (first second : ℕ → α) {n : ℕ}
    (inside : n ≤ entries.length) (each : α → List β) :
    (List.range n).flatMap (fun i => each (arrayOf entries first i)) =
      (List.range n).flatMap fun i => each (arrayOf entries second i) := by
  apply List.flatMap_congr
  intro i member
  have below : i < entries.length := lt_of_lt_of_le (List.mem_range.mp member) inside
  simp [arrayOf, below]

theorem range_flatMap_each {α β : Type} {entries : List α} (beyond : ℕ → α) {n : ℕ}
    (count : entries.length = n) (each : α → List β) :
    (List.range n).flatMap (fun i => each (arrayOf entries beyond i)) = entries.flatMap each := by
  subst count
  rw [← List.flatMap_map, range_map_arrayOf]

theorem counted_arrayOf {α : Type} {entries : List α} (first second : ℕ → α) {n : ℕ}
    (inside : n ≤ entries.length) (few : entries.length < 2 ^ 28) (each : α → List ParcelWrite) :
    counted n (fun i => each (arrayOf entries first i)) =
      counted n fun i => each (arrayOf entries second i) := by
  rw [Libril.counted_few (by omega), Libril.counted_few (by omega),
    range_flatMap_arrayOf first second inside each]

/-! ### What libril makes of a response -/

section

variable {υ : Type} (abi : Abi) (signedChar : Bool) (version : ℕ)

/-- The UUS data of the calls is as long as they say. It is measured as the text up to the first
NUL, and that NUL; data with a NUL inside is left out. -/
def UusFits (rsp : Contents υ) : Prop :=
  ∀ call ∈ rsp.elements 0, hasField (Contents.ofProto call) 12 = true →
    let uusInfo := messageField (Contents.ofProto call) 12
    abi.sizeT (numberField uusInfo 2) ≤ (stringField uusInfo 3).length + 1

/-- The stack holds the same where a conversion leaves it as it is. -/
def SameLeftOver (conversion : RspConversion) (memory memory' : Pointee) : Prop :=
  conversion = .getSimStatus →
    memory'.cardStatus.cdmaSubscriptionAppIndex = memory.cardStatus.cdmaSubscriptionAppIndex

/-- libril accepts the response, and writes the same for that of another memory. -/
def Told (conversion : RspConversion) (rsp : Contents υ) (memory' : Pointee)
    (response : RilResponse) : Prop :=
  ∃ pointee pointee' responselen writes, response = ⟨some pointee, responselen⟩ ∧
    RspConversion.ofContents abi signedChar memory' rsp conversion =
      some ⟨some pointee', responselen⟩ ∧
    (RspConversion.responseFunction conversion).marshal abi (some pointee) responselen version =
      some (writes, 0) ∧
    (RspConversion.responseFunction conversion).marshal abi (some pointee') responselen version =
      some (writes, 0)

variable {abi signedChar version} {rsp : Contents υ} {memory memory' : Pointee}

theorem invalidArray_some (pointee : Pointee) (n : ℕ) {unit : ℕ} :
    invalidArray (some pointee) (n * unit) unit = false := by
  simp [invalidArray]

theorem told_ints {conversion : RspConversion}
    (function : RspConversion.responseFunction conversion = .responseInts) (memory : Pointee)
    (integers : List Word)
    (few : integers.length < 2 ^ 28) {response : RilResponse}
    (same : response = ⟨some { memory with ints := arrayOf integers memory.ints },
      integers.length * 4⟩)
    (same' : RspConversion.ofContents abi signedChar memory' rsp conversion =
      some ⟨some { memory' with ints := arrayOf integers memory'.ints }, integers.length * 4⟩) :
    Told abi signedChar version conversion rsp memory' response := by
  have inside : integers.length * 4 / abi.ptrSize ≤ integers.length := by
    cases abi <;> simp only [Abi.ptrSize] <;> omega
  have writes (pointee : Pointee) :
      (RspConversion.responseFunction conversion).marshal abi
          (some { pointee with ints := arrayOf integers pointee.ints }) (integers.length * 4)
          version =
        some (counted (integers.length * 4 / abi.ptrSize) fun i =>
          [.int32 (arrayOf integers memory.ints i)], 0) := by
    rw [function]
    show Libril.responseInts _ _ _ = _
    unfold Libril.responseInts
    rw [invalidArray_some, if_neg (by decide)]
    show marshalled (counted _ fun i => [.int32 (arrayOf integers pointee.ints i)]) = _
    rw [counted_arrayOf pointee.ints memory.ints inside few fun word => [.int32 word]]
    rfl
  exact ⟨_, _, _, _, same, same', writes memory, writes memory'⟩

theorem told_strings {conversion : RspConversion}
    (function : RspConversion.responseFunction conversion = .responseStrings) (memory : Pointee)
    (strings : List (Option CString)) (few : strings.length < 2 ^ 28) {response : RilResponse}
    (same : response = ⟨some { memory with strings := arrayOf strings memory.strings },
      strings.length * abi.ptrSize⟩)
    (same' : RspConversion.ofContents abi signedChar memory' rsp conversion =
      some ⟨some { memory' with strings := arrayOf strings memory'.strings },
        strings.length * abi.ptrSize⟩) :
    Told abi signedChar version conversion rsp memory' response := by
  have writes (pointee : Pointee) :
      (RspConversion.responseFunction conversion).marshal abi
          (some { pointee with strings := arrayOf strings pointee.strings })
          (strings.length * abi.ptrSize) version =
        some (counted strings.length fun i => [.string (arrayOf strings memory.strings i)], 0) := by
    rw [function]
    show Libril.responseStrings _ _ _ = _
    rw [Libril.responseStrings_some]
    rw [counted_arrayOf pointee.strings memory.strings (Nat.le_refl _) few
      fun string => [.string string]]
    rfl
  exact ⟨_, _, _, _, same, same', writes memory, writes memory'⟩

/-! ### Calls -/

/-- The data of a call is read as far as it goes. -/
theorem callWrites_memory {call : Proto υ}
    (fits : hasField (Contents.ofProto call) 12 = true →
      abi.sizeT (numberField (messageField (Contents.ofProto call) 12) 2) ≤
        (stringField (messageField (Contents.ofProto call) 12) 3).length + 1) :
    callWrites abi version (rilCallOf signedChar memory (.ofProto call)) =
      callWrites abi version (rilCallOf signedChar memory' (.ofProto call)) := by
  unfold callWrites
  congr 1
  unfold rilCallOf
  by_cases present : hasField (Contents.ofProto call) 12 = true
  · simp only [present, if_true, Libril.uusWrites, callUusInfo]
    split_ifs
    · rfl
    · have read : ∀ i < abi.sizeT (numberField (messageField (Contents.ofProto call) 12) 2),
          arrayOf (stringField (messageField (Contents.ofProto call) 12) 3 ++ [0]) memory.bytes i =
            arrayOf (stringField (messageField (Contents.ofProto call) 12) 3 ++ [0])
              memory'.bytes i := by
        intro i inside
        have below : i < (stringField (messageField (Contents.ofProto call) 12) 3 ++ [0]).length := by
          have := fits present
          rw [List.length_append, List.length_singleton]
          omega
        simp only [arrayOf, List.getElem?_eq_getElem below, Option.getD_some]
      have data := List.map_congr_left fun i member => read i (List.mem_range.mp member)
      rw [data]
  · simp only [present, Libril.uusWrites]
    rfl

theorem responseCallList_some (pointee : Pointee) (n : ℕ) :
    Libril.responseCallList abi (some pointee) (n * abi.ptrSize) version =
      marshalled (counted n fun i => callWrites abi version (pointee.calls i)) := by
  have size : 0 < abi.ptrSize := by cases abi <;> decide
  unfold Libril.responseCallList
  rw [invalidArray_some, if_neg (by decide), Nat.mul_div_cancel n size]
  rfl

theorem told_calls (few : (rsp.elements 0).length < 2 ^ 28) (fits : UusFits abi rsp)
    {response : RilResponse}
    (converted : rspGetCurrentCalls abi signedChar memory rsp = response) :
    Told abi signedChar version .getCurrentCalls rsp memory' response := by
  have length : (rsp.elements 0).length * abi.ptrSize < 2 ^ 31 := by
    cases abi <;> simp only [Abi.ptrSize] <;> omega
  have shape (pointee : Pointee) : rspGetCurrentCalls abi signedChar pointee rsp =
      ⟨some { pointee with calls := arrayOf ((rsp.elements 0).map fun call =>
        rilCallOf signedChar pointee (.ofProto call)) pointee.calls },
        (rsp.elements 0).length * abi.ptrSize⟩ := by
    simp only [rspGetCurrentCalls, List.length_map, resultLen_eq abi length]
  have writes (pointee : Pointee) :
      Libril.responseCallList abi (some { pointee with calls := arrayOf ((rsp.elements 0).map
          fun call => rilCallOf signedChar pointee (.ofProto call)) pointee.calls })
          ((rsp.elements 0).length * abi.ptrSize) version =
        some (.int32 (BitVec.ofNat 32 (rsp.elements 0).length) :: (rsp.elements 0).flatMap
          fun call => callWrites abi version (rilCallOf signedChar memory (.ofProto call)), 0) := by
    rw [responseCallList_some, Libril.counted_few (by omega)]
    have count : ((rsp.elements 0).map fun call =>
        rilCallOf signedChar pointee (.ofProto call)).length = (rsp.elements 0).length :=
      List.length_map _
    have calls := range_flatMap_each pointee.calls count (callWrites abi version)
    rw [List.flatMap_map] at calls
    rw [calls]
    unfold marshalled
    congr 3
    exact List.flatMap_congr fun call member => callWrites_memory (fits call member)
  refine ⟨_, _, _, _, (converted.symm.trans (shape memory)), ?_, writes memory, writes memory'⟩
  exact congrArg some (shape memory')

/-! ### The card -/

/-- The writes of `responseSimStatus` for one application. -/
def applicationWrites (application : Libril.RilAppStatus) : List ParcelWrite :=
  [.int32 application.appType, .int32 application.appState, .int32 application.persoSubstate,
    .string application.aidPtr, .string application.appLabelPtr, .int32 application.pin1Replaced,
    .int32 application.pin1, .int32 application.pin2]

/-- What is written of a card: its CDMA index is what the stack held. -/
def cardWrites (memory : Pointee) (rsp : Contents υ) : List ParcelWrite :=
  let r := messageField rsp 0
  [.int32 (numberField r 0), .int32 (numberField r 1), .int32 (numberField r 2),
    .int32 memory.cardStatus.cdmaSubscriptionAppIndex, .int32 (numberField r 4)] ++
    ((r.elements 5).take (numberField r 4).toInt.toNat).flatMap fun application =>
      applicationWrites (appStatus (.ofProto application))

theorem responseSimStatus_card {response : RilResponse}
    (converted : rspGetSimStatus abi memory rsp = some response) :
    Libril.responseSimStatus abi response.response response.responselen =
      some (cardWrites memory rsp, 0) := by
  unfold rspGetSimStatus at converted
  simp only at converted
  split_ifs at converted with room
  obtain rfl := Option.some.inj converted
  rw [List.length_map] at room
  have count : (((messageField rsp 0).elements 5).map fun application =>
      appStatus (.ofProto application)).take (numberField (messageField rsp 0) 4).toInt.toNat =
    (((messageField rsp 0).elements 5).take (numberField (messageField rsp 0) 4).toInt.toNat).map
      fun application => appStatus (.ofProto application) := List.map_take.symm
  have length : ((((messageField rsp 0).elements 5).take
      (numberField (messageField rsp 0) 4).toInt.toNat).map fun application =>
        appStatus (.ofProto application)).length =
      (numberField (messageField rsp 0) 4).toInt.toNat := by
    rw [List.length_map, List.length_take]
    omega
  have sized : invalidArray (some { memory with cardStatus := memory.cardStatus })
      (sizeofCardStatus abi) abi.ptrSize = false := by cases abi <;> rfl
  unfold Libril.responseSimStatus
  show (if invalidArray (some { memory with cardStatus := memory.cardStatus })
      (sizeofCardStatus abi) abi.ptrSize = true then _ else _) = _
  have applications := range_flatMap_each memory.cardStatus.applications length applicationWrites
  rw [List.flatMap_map] at applications
  rw [sized, if_neg (by decide), Option.map_some, cardWrites, ← applications, count]
  rfl

theorem rspGetSimStatus_other {response : RilResponse}
    (converted : rspGetSimStatus abi memory rsp = some response) (memory' : Pointee) :
    ∃ pointee pointee' responselen, response = ⟨some pointee, responselen⟩ ∧
      rspGetSimStatus abi memory' rsp = some ⟨some pointee', responselen⟩ := by
  unfold rspGetSimStatus at converted ⊢
  simp only at converted ⊢
  split_ifs at converted ⊢ with room
  obtain rfl := Option.some.inj converted
  exact ⟨_, _, _, rfl, rfl⟩

theorem told_card {response : RilResponse}
    (converted : rspGetSimStatus abi memory rsp = some response)
    (index : memory'.cardStatus.cdmaSubscriptionAppIndex =
      memory.cardStatus.cdmaSubscriptionAppIndex) :
    Told abi signedChar version .getSimStatus rsp memory' response := by
  obtain ⟨pointee, pointee', responselen, rfl, converted'⟩ :=
    rspGetSimStatus_other converted memory'
  have same : cardWrites memory' rsp = cardWrites memory rsp := by unfold cardWrites; rw [index]
  exact ⟨pointee, pointee', responselen, cardWrites memory rsp, rfl, converted',
    responseSimStatus_card converted, same ▸ responseSimStatus_card converted'⟩

/-! ### Every conversion -/

/-- The message of a conversion is one whose arrays libril can count, and whose UUS data is
there. -/
structure Sound (abi : Abi) (conversion : RspConversion) (rsp : Contents υ) : Prop where
  few : (rsp.elements 0).length < 2 ^ 28
  uus : conversion = .getCurrentCalls → UusFits abi rsp

theorem told_of_converted {conversion : RspConversion} (data : conversion ≠ .withNoData)
    (sound : Sound abi conversion rsp) (left : SameLeftOver conversion memory memory')
    {response : RilResponse}
    (converted : RspConversion.ofContents abi signedChar memory rsp conversion = some response) :
    Told abi signedChar version conversion rsp memory' response := by
  have few := sound.few
  have length : (rsp.elements 0).length * abi.ptrSize < 2 ^ 31 := by
    cases abi <;> simp only [Abi.ptrSize] <;> omega
  cases conversion with
  | withNoData => exact absurd rfl data
  | getSimStatus => exact told_card converted (left rfl)
  | enterSimPinData =>
      exact told_ints rfl memory [numberField rsp 0] (by show 1 < 2 ^ 28; decide)
        (Option.some.inj converted).symm rfl
  | getCurrentCalls => exact told_calls few (sound.uus rfl) (Option.some.inj converted)
  | string =>
      obtain ⟨value, first, rfl⟩ := Option.map_eq_some_iff.mp converted
      refine ⟨_, { memory' with string := cStr value }, _, _, rfl, ?_, rfl, rfl⟩
      show rspString memory' rsp = _
      rw [rspString, first, Option.map_some]
  | strings =>
      refine told_strings rfl memory ((rsp.elements 0).map fun value => unlessMagicNull (cStr value))
        (by rw [List.length_map]; exact few) ?_ ?_
      · rw [List.length_map, ← resultLen_eq abi length]
        exact (Option.some.inj converted).symm.trans (by rw [rspStrings, List.length_map])
      · show some (rspStrings abi memory' rsp) = _
        rw [rspStrings, List.length_map, resultLen_eq abi length]
  | integers =>
      have length : (rsp.elements 0).length * 4 < 2 ^ 31 := by omega
      refine told_ints rfl memory
        ((rsp.elements 0).map fun value => BitVec.ofInt 32 (numberOr0 [value]))
        (by rw [List.length_map]; exact few) ?_ ?_
      · rw [List.length_map, ← resultLen_eq abi length]
        exact (Option.some.inj converted).symm.trans (by rw [rspIntegers, List.length_map])
      · show some (rspIntegers abi memory' rsp) = _
        rw [rspIntegers, List.length_map, resultLen_eq abi length]
  | signalStrength =>
      obtain rfl := Option.some.inj converted
      exact ⟨_, _, _, _, rfl, rfl, rfl, rfl⟩
  | operator =>
      exact told_strings rfl memory ((List.range 3).map fun position =>
        (rsp.elements position).head?.map cStr) (by show 3 < 2 ^ 28; decide)
        (Option.some.inj converted).symm rfl

/-- **What mock-ril hands over is what libril takes.** For every request that has a conversion,
and every message that the conversion can read, libril's response function accepts the
response, so the status in the frame is the one that was given; and the frame is the same
whatever else the memory around the response holds, save the CDMA index of a card. -/
theorem answer_frame {P : Type} [Platform P] [TextPlatform P] {request : Int}
    {conversion : RspConversion} (known : rilRspConversionMap.lookup request = some conversion)
    (rsp : Contents υ) (sound : Sound (Platform.abi P) conversion rsp)
    (memory memory' : Pointee) (left : SameLeftOver conversion memory memory')
    {response : RilResponse} (converted : RspConversion.ofContents (Platform.abi P) signedChar
      memory rsp conversion = some response) :
    ∃ pCI response', commandInfo request.toNat = some pCI ∧
      RspConversion.ofContents (Platform.abi P) signedChar memory' rsp conversion =
        some response' ∧
      ∀ (pRI : RequestInfo) (e : Word), pRI.pCI = pCI → ∃ payload,
        Platform.data (responseParcel P version pRI e response.response response.responselen) =
          frameHeader pCI.requestNumber pRI.token e ++ payload ∧
        Platform.data (responseParcel P version pRI e response'.response response'.responselen) =
          frameHeader pCI.requestNumber pRI.token e ++ payload := by
  obtain ⟨pCI, command, function⟩ := commandInfo_of_conversion known
  by_cases data : conversion = .withNoData
  · subst data
    obtain rfl := Option.some.inj converted
    refine ⟨pCI, _, command, rfl, ?_⟩
    rintro pRI e rfl
    exact ⟨_, Libril.responseParcel_none version pRI e 0,
      Libril.responseParcel_none version pRI e 0⟩
  · have told : Told (Platform.abi P) signedChar version conversion rsp memory' response :=
      told_of_converted data sound left converted
    obtain ⟨pointee, pointee', responselen, writes, rfl, converted', marshals, marshals'⟩ := told
    refine ⟨pCI, _, command, converted', ?_⟩
    rintro pRI e rfl
    rw [← function] at marshals marshals'
    exact ⟨_, Libril.responseParcel_success marshals, Libril.responseParcel_success marshals'⟩

end

/-- One call that says nothing but three bytes of UUS data. -/
def uusRsp : Contents Empty :=
  ⟨[[.message (List.replicate 12 [] ++
    [[.message [[], [], [.number 3], [.string (ascii "abc")]] []]]) []]], []⟩

theorem uusRsp_sound : Sound .lp64 .getCurrentCalls uusRsp where
  few := by decide
  uus _ := by
    unfold UusFits
    decide

/-- A stack full of ones. -/
def littered : Pointee := { (default : Pointee) with bytes := fun _ => 1, ints := fun _ => 1 }

theorem answer_frame_uus :
    ∃ pCI response', commandInfo 9 = some pCI ∧
      RspConversion.ofContents .lp64 true littered uusRsp .getCurrentCalls = some response' ∧
      ∀ (pRI : RequestInfo) (e : Word), pRI.pCI = pCI → ∃ payload,
        Platform.data (responseParcel Libril.ByteParcel 3 pRI e
          (rspGetCurrentCalls .lp64 true default uusRsp).response
          (rspGetCurrentCalls .lp64 true default uusRsp).responselen) =
            frameHeader pCI.requestNumber pRI.token e ++ payload ∧
        Platform.data (responseParcel Libril.ByteParcel 3 pRI e response'.response
          response'.responselen) = frameHeader pCI.requestNumber pRI.token e ++ payload :=
  answer_frame (P := Libril.ByteParcel) (show rilRspConversionMap.lookup 9 = _ from rfl) uusRsp
    uusRsp_sound default littered (by simp [SameLeftOver]) rfl

end RildHisi.MockRil.Generated
