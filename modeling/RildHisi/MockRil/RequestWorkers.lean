import RildHisi.MockRil.PooledQueue
import RildHisi.MockRil.RequestAnswers

/-!
Owns the way of the RIL requests through the queues of mock-ril: `AddRequest` on any thread,
the worker of `RilRequestWorkerQueue`, which runs `onRilRequest`, and the workers of the two
components, which run `process`. The control server and the handlers add to the radio's queue
as well; what they add is never completed to libril.

All steps interleave. Not modelled is the garbage collector of JavaScript.
-/

namespace RildHisi.MockRil

open RildHisi.Library

/-- A `Request`. `serial` is the call of `AddRequest` it is from; no code reads it. -/
structure Request where
  serial : Nat
  request : Int
  message : RequestMessage
  token : BitVec 64
  deriving DecidableEq

/-- What the queue of a component holds. -/
inductive WorkerValue
  | request (serial : Nat) (reqNum tokenNumber : Int) (message : RequestMessage)
  /-- A request of the control server, or what a handler or `startMockRil` has added. -/
  | other
  deriving DecidableEq

def WorkerValue.serial : WorkerValue → Option Nat
  | request serial _ _ _ => some serial
  | other => none

/-- What came of a call of `AddRequest`: the code that was chosen, and the completion, none
where none was made. -/
structure Answer where
  serial : Nat
  rilErrCode : Int
  completion : Option Completion
  deriving DecidableEq

/-- The queues, the tokens of all calls of `AddRequest`, and what came of them so far. -/
structure RequestWorkers where
  requestQueue : PooledQueue Request
  components : Component → PooledQueue WorkerValue
  tokens : List (BitVec 64)
  answers : List Answer

inductive WorkersEvent
  | addRequest (request : Int) (token : BitVec 64) (data : RequestData)
  /-- A step of the request queue up to the call of `Process`. -/
  | requestQueue (event : QueueEvent)
  /-- `Process` of the request queue. -/
  | onRilRequest
  /-- Something that is no RIL request is added to the radio's queue. -/
  | add (adding : Adding)
  /-- A step of the queue of a component up to the call of `Process`. -/
  | component (component : Component) (event : QueueEvent)
  /-- `process` of a component, with what its handlers do this time. -/
  | process (component : Component) (handlers : Handlers)

namespace RequestWorkers

def initial : RequestWorkers where
  requestQueue := .initial
  components _ := .initial
  tokens := []
  answers := []

def answer (s : RequestWorkers) (answer : Answer) : RequestWorkers :=
  { s with answers := s.answers ++ [answer] }

def setComponent (s : RequestWorkers) (component : Component) (queue : PooledQueue WorkerValue) :
    RequestWorkers :=
  { s with components := Function.update s.components component queue }

/-- `add` and `addDelayed` of the worker of a component. -/
def add (s : RequestWorkers) (component : Component) (value : WorkerValue) (adding : Adding) :
    Option RequestWorkers :=
  ((s.components component).put value adding).map (s.setComponent component)

/-- `AddRequest`. Where the conversion reads a string that is not there, nothing is completed. -/
def addRequest (s : RequestWorkers) (request : Int) (token : BitVec 64) (data : RequestData) :
    Option RequestWorkers :=
  let called := { s with tokens := s.tokens ++ [token] }
  match convertRequest request data with
  | none => some (called.answer ⟨s.tokens.length, rilEGenericFailure, none⟩)
  | some (.error error) =>
      some (called.answer ⟨s.tokens.length, error.rilErrCode, some ⟨token, error.rilErrCode⟩⟩)
  | some (.ok message) =>
      (s.requestQueue.put ⟨s.tokens.length, request, message, token⟩ .add).map fun queue =>
        { called with requestQueue := queue }

/-- `onRilRequest`, which is always given two numbers and a buffer. -/
def onRilRequest (parser : ResponseParser) (s : RequestWorkers) (request : Request) :
    Option RequestWorkers :=
  let token := numberOfToken request.token
  match dispatchTable.lookup request.request with
  | none =>
      some (s.answer ⟨request.serial, rilERequestNotSupported,
        sendRilRequestComplete parser rilERequestNotSupported request.request token .absent⟩)
  | some components =>
      components.foldlM (fun s component =>
        s.add component (.request request.serial request.request token request.message) .add) s

/-- `process` of a component. What is no RIL request is not completed to libril. -/
def process (parser : ResponseParser) (handlers : Handlers) (s : RequestWorkers)
    (component : Component) : WorkerValue → RequestWorkers
  | .request serial reqNum token message =>
      let result := component.process handlers reqNum message
      s.answer ⟨serial, result.rilErrCode, result.complete parser reqNum token⟩
  | .other => s

def step (parser : ResponseParser) (s : RequestWorkers) : WorkersEvent → Option RequestWorkers
  | .addRequest request token data => s.addRequest request token data
  | .requestQueue event =>
      (s.requestQueue.turn event).map fun queue => { s with requestQueue := queue }
  | .onRilRequest => do
      let (request, queue) ← s.requestQueue.finish
      onRilRequest parser { s with requestQueue := queue } request
  | .add adding => s.add .simulatedRadio .other adding
  | .component component event => ((s.components component).turn event).map (s.setComponent component)
  | .process component handlers => do
      let (value, queue) ← (s.components component).finish
      return process parser handlers (s.setComponent component queue) component value

/-! ### What is on its way -/

/-- The calls of `AddRequest` whose requests are in the queue of a component. -/
def serialsOf (s : RequestWorkers) (component : Component) : List Nat :=
  (s.components component).values.filterMap WorkerValue.serial

/-- The calls of `AddRequest` whose requests are on their way. -/
def underWay (s : RequestWorkers) : List Nat :=
  s.requestQueue.values.map Request.serial ++
    (s.serialsOf .simulatedIcc ++ s.serialsOf .simulatedRadio)

/-- The request is of a call of `AddRequest`, which has converted it. -/
def Converted (s : RequestWorkers) (request : Request) : Prop :=
  request.token ∈ s.tokens[request.serial]? ∧
    ∃ conversion, rilReqConversionMap.lookup request.request = some conversion

/-- A RIL request carries the number of its token. -/
def Tokened (s : RequestWorkers) : WorkerValue → Prop
  | .request serial _ tokenNumber _ =>
      ∃ token ∈ s.tokens[serial]?, tokenNumber = numberOfToken token
  | .other => True

/-- What undisturbed steps keep. -/
structure Placed (s : RequestWorkers) : Prop where
  requestQueue : s.requestQueue.Sound
  components : ∀ component, (s.components component).Sound
  converted : ∀ request ∈ s.requestQueue.values, s.Converted request
  tokened : ∀ component, ∀ value ∈ (s.components component).values, s.Tokened value

variable {parser : ResponseParser} {s s' : RequestWorkers}

theorem placed_initial : initial.Placed where
  requestQueue := PooledQueue.sound_initial
  components _ := PooledQueue.sound_initial
  converted _ member := absurd member List.not_mem_nil
  tokened _ _ member := absurd member List.not_mem_nil

/-! ### What a change of a queue does to it -/

@[simp] theorem requestQueue_setComponent (component : Component)
    (queue : PooledQueue WorkerValue) :
    (s.setComponent component queue).requestQueue = s.requestQueue := rfl

@[simp] theorem components_setComponent_self (component : Component)
    (queue : PooledQueue WorkerValue) :
    (s.setComponent component queue).components component = queue :=
  Function.update_self ..

theorem components_setComponent_of_ne {component other : Component} (apart : other ≠ component)
    (queue : PooledQueue WorkerValue) :
    (s.setComponent component queue).components other = s.components other :=
  Function.update_of_ne apart ..

theorem count_setRequestQueue (s : RequestWorkers) (queue : PooledQueue Request) (n : Nat) :
    ({ s with requestQueue := queue } : RequestWorkers).underWay.count n +
        (s.requestQueue.values.map Request.serial).count n =
      s.underWay.count n + (queue.values.map Request.serial).count n := by
  simp only [underWay, serialsOf, List.count_append]
  omega

theorem count_setComponent (s : RequestWorkers) (component : Component)
    (queue : PooledQueue WorkerValue) (n : Nat) :
    (s.setComponent component queue).underWay.count n + (s.serialsOf component).count n =
      s.underWay.count n + (queue.values.filterMap WorkerValue.serial).count n := by
  cases component with
  | simulatedIcc =>
      simp only [underWay, serialsOf, List.count_append, requestQueue_setComponent,
        components_setComponent_self,
        components_setComponent_of_ne (show Component.simulatedRadio ≠ .simulatedIcc by decide)]
      omega
  | simulatedRadio =>
      simp only [underWay, serialsOf, List.count_append, requestQueue_setComponent,
        components_setComponent_self,
        components_setComponent_of_ne (show Component.simulatedIcc ≠ .simulatedRadio by decide)]
      omega

/-! ### The queues -/

section Queues

variable {component : Component} {value : WorkerValue} {adding : Adding} {request : Request}

theorem count_serials_cons (values : List WorkerValue) (n : Nat) :
    ((value :: values).filterMap WorkerValue.serial).count n =
      value.serial.toList.count n + (values.filterMap WorkerValue.serial).count n := by
  cases value with
  | request serial reqNum tokenNumber message =>
      change (serial :: values.filterMap WorkerValue.serial).count n = [serial].count n + _
      rw [← List.singleton_append, List.count_append]
  | other => exact (Nat.zero_add _).symm

theorem placed_setComponent (placed : s.Placed) {queue : PooledQueue WorkerValue}
    (sound : queue.Sound) (tokened : ∀ value ∈ queue.values, s.Tokened value) :
    (s.setComponent component queue).Placed where
  requestQueue := placed.requestQueue
  components other := by
    by_cases same : other = component
    · rw [same, components_setComponent_self]
      exact sound
    · rw [components_setComponent_of_ne same]
      exact placed.components other
  converted := placed.converted
  tokened other := by
    by_cases same : other = component
    · rw [same, components_setComponent_self]
      exact tokened
    · rw [components_setComponent_of_ne same]
      exact placed.tokened other

/-- An `Add` to a component that leaves the record in hand alone. -/
theorem add_calm (placed : s.Placed) (tokened : s.Tokened value)
    (calm : (s.components component).queue.exposed = false)
    (added : s.add component value adding = some s') :
    s'.Placed ∧ s'.tokens = s.tokens ∧ s'.answers = s.answers ∧
      ∀ n, s'.underWay.count n = s.underWay.count n + value.serial.toList.count n := by
  obtain ⟨queue, put, rfl⟩ := Option.map_eq_some_iff.mp added
  obtain ⟨sound, values⟩ := PooledQueue.put_calm (placed.components component) calm put
  refine ⟨placed_setComponent placed sound fun kept member => ?_, rfl, rfl, fun n => ?_⟩
  · rcases List.mem_cons.mp (values.mem_iff.mp member) with rfl | old
    · exact tokened
    · exact placed.tokened component kept old
  · have counted := count_setComponent s component queue n
    rw [(values.filterMap WorkerValue.serial).count_eq, count_serials_cons] at counted
    unfold serialsOf at counted
    omega

theorem count_serialsOf_le (s : RequestWorkers) (component : Component) (n : Nat) :
    (s.serialsOf component).count n ≤ s.underWay.count n := by
  cases component <;> (simp only [underWay, List.count_append]; omega)

/-- An `Add` that obtains the record in hand: its value is lost, and the new one is there twice. -/
theorem add_exposed (placed : s.Placed)
    (exposed : (s.components component).queue.exposed = true)
    (added : s.add component value adding = some s') :
    ∃ lost, (s.components component).queue.handed.filterMap (s.components component).objects =
        [lost] ∧ s'.tokens = s.tokens ∧ s'.answers = s.answers ∧ ∃ rest : Nat → Nat, ∀ n,
      s.underWay.count n = rest n + lost.serial.toList.count n ∧
        s'.underWay.count n = rest n + 2 * value.serial.toList.count n := by
  obtain ⟨queue, put, rfl⟩ := Option.map_eq_some_iff.mp added
  obtain ⟨lost, rest, handed, before, after⟩ :=
    PooledQueue.put_exposed (placed.components component) exposed put
  refine ⟨lost, handed, rfl, rfl,
    fun n => s.underWay.count n - lost.serial.toList.count n, fun n => ?_⟩
  have inside := count_serialsOf_le s component n
  have counted := count_setComponent s component queue n
  unfold serialsOf at counted inside
  rw [(before.filterMap WorkerValue.serial).count_eq, count_serials_cons] at counted inside
  rw [(after.filterMap WorkerValue.serial).count_eq, count_serials_cons, count_serials_cons]
    at counted
  dsimp only
  omega

/-- A component takes a value into `process`. -/
theorem finish_component (placed : s.Placed) {queue : PooledQueue WorkerValue}
    (finished : (s.components component).finish = some (value, queue)) :
    (s.components component).processing = some value ∧ s.Tokened value ∧
      (s.setComponent component queue).Placed ∧
      ∀ n, s.underWay.count n =
        (s.setComponent component queue).underWay.count n + value.serial.toList.count n := by
  obtain ⟨processing, sound, values⟩ :=
    PooledQueue.finish_spec (placed.components component) finished
  have all := placed.tokened component
  rw [values] at all
  refine ⟨processing, all value List.mem_cons_self, placed_setComponent placed sound
    fun kept member => all kept (List.mem_cons_of_mem _ member), fun n => ?_⟩
  have counted := count_setComponent s component queue n
  unfold serialsOf at counted
  rw [values, count_serials_cons] at counted
  omega

/-- `Add` of the request queue. -/
theorem put_calm (placed : s.Placed) (converted : s.Converted request)
    (calm : s.requestQueue.queue.exposed = false) {queue : PooledQueue Request}
    (put : s.requestQueue.put request adding = some queue) :
    ({ s with requestQueue := queue } : RequestWorkers).Placed ∧
      ∀ n, ({ s with requestQueue := queue } : RequestWorkers).underWay.count n =
        s.underWay.count n + [request.serial].count n := by
  obtain ⟨sound, values⟩ := PooledQueue.put_calm placed.requestQueue calm put
  refine ⟨⟨sound, placed.components, fun kept member => ?_, placed.tokened⟩, fun n => ?_⟩
  · rcases List.mem_cons.mp (values.mem_iff.mp member) with rfl | old
    · exact converted
    · exact placed.converted kept old
  · have counted := count_setRequestQueue s queue n
    rw [(values.map Request.serial).count_eq, List.map_cons, List.count_cons] at counted
    rw [List.count_singleton]
    omega

theorem put_exposed (placed : s.Placed) (exposed : s.requestQueue.queue.exposed = true)
    {queue : PooledQueue Request} (put : s.requestQueue.put request adding = some queue) :
    ∃ lost, s.Converted lost ∧ ∃ rest : Nat → Nat, ∀ n,
      s.underWay.count n = rest n + [lost.serial].count n ∧
        ({ s with requestQueue := queue } : RequestWorkers).underWay.count n =
          rest n + 2 * [request.serial].count n := by
  obtain ⟨lost, rest, -, before, after⟩ :=
    PooledQueue.put_exposed placed.requestQueue exposed put
  refine ⟨lost, placed.converted lost (before.mem_iff.mpr List.mem_cons_self),
    fun n => s.underWay.count n - [lost.serial].count n, fun n => ?_⟩
  have inside : (s.requestQueue.values.map Request.serial).count n ≤ s.underWay.count n := by
    rw [underWay, List.count_append]
    exact Nat.le_add_right ..
  have counted := count_setRequestQueue s queue n
  rw [(before.map Request.serial).count_eq, List.map_cons, List.count_cons] at counted inside
  rw [(after.map Request.serial).count_eq, List.map_cons, List.map_cons, List.count_cons,
    List.count_cons] at counted
  dsimp only
  rw [List.count_singleton, List.count_singleton]
  omega

/-- The request queue gives a request to `onRilRequest`. -/
theorem finish_requestQueue (placed : s.Placed) {queue : PooledQueue Request}
    (finished : s.requestQueue.finish = some (request, queue)) :
    s.requestQueue.processing = some request ∧ s.Converted request ∧
      ({ s with requestQueue := queue } : RequestWorkers).Placed ∧
      ∀ n, s.underWay.count n = ({ s with requestQueue := queue } : RequestWorkers).underWay.count n +
        [request.serial].count n := by
  obtain ⟨processing, sound, values⟩ := PooledQueue.finish_spec placed.requestQueue finished
  have all := placed.converted
  rw [values] at all
  refine ⟨processing, all request List.mem_cons_self, ⟨sound, placed.components,
    fun other member => all other (List.mem_cons_of_mem _ member), placed.tokened⟩, fun n => ?_⟩
  have counted := count_setRequestQueue s queue n
  rw [values, List.map_cons, List.count_cons] at counted
  rw [List.count_singleton]
  omega

end Queues

/-- A converted request has one component. -/
theorem onRilRequest_eq (parser : ResponseParser) (s : RequestWorkers) {request : Request}
    {conversion : ReqConversion}
    (known : rilReqConversionMap.lookup request.request = some conversion) :
    onRilRequest parser s request =
      s.add (componentOf request.request) (.request request.serial request.request
        (numberOfToken request.token) request.message) .add := by
  simp only [onRilRequest, dispatchTable_lookup known, List.foldlM_cons, List.foldlM_nil]
  exact bind_pure _

theorem placed_process {handlers : Handlers} {component : Component} {value : WorkerValue}
    (placed : s.Placed) :
    (process parser handlers s component value).Placed := by
  cases value with
  | request serial reqNum tokenNumber message =>
      exact ⟨placed.requestQueue, placed.components, placed.converted, placed.tokened⟩
  | other => exact placed

end RequestWorkers

end RildHisi.MockRil
