import RildHisi.MockRil.QueueService
import RildHisi.MockRil.RequestWorkers

/-!
Owns that the requests are served: as long as no queue has been stopped, the workers alone can
bring every request that is on its way to its completion, whatever the handlers answer.
-/

namespace RildHisi.MockRil

open RildHisi.Library

/-- A step of one of the three workers, whose handlers do what is given. -/
def WorkersEvent.OfWorkers (handlers : Handlers) : WorkersEvent → Prop
  | .requestQueue event | .component _ event => event.ofWorker = true
  | .onRilRequest => True
  | .process _ own => own = handlers
  | .addRequest _ _ _ | .add _ => False

/-- `Stop` of one of the three queues. -/
def WorkersEvent.Stops : WorkersEvent → Prop
  | .requestQueue event | .component _ event => event = .stop
  | _ => False

namespace RequestWorkers

/-- No queue has been stopped. -/
structure Serving (s : RequestWorkers) : Prop where
  requestQueue : s.requestQueue.queue.Serving
  components : ∀ component, (s.components component).queue.Serving

/-- The workers alone can come from one state to the other. -/
def Serves (parser : ResponseParser) (handlers : Handlers) (s s' : RequestWorkers) : Prop :=
  ∃ events, (∀ event ∈ events, event.OfWorkers handlers) ∧ run (step parser) s events = some s'

/-- Nothing is in the queue, and an `Add` neither waits nor takes a record that is not read. -/
structure Idle (queue : PooledQueue WorkerValue) : Prop where
  values : queue.values = []
  free : queue.queue.phase.holds = false
  calm : queue.queue.exposed = false

variable {parser : ResponseParser} {handlers : Handlers} {s s' s'' : RequestWorkers}

theorem Serves.refl (s : RequestWorkers) : Serves parser handlers s s := ⟨[], by simp, rfl⟩

theorem Serves.trans (first : Serves parser handlers s s') (second : Serves parser handlers s' s'') :
    Serves parser handlers s s'' := by
  obtain ⟨front, frontWorks, before⟩ := first
  obtain ⟨back, backWorks, after⟩ := second
  refine ⟨front ++ back, fun event member => ?_, by rw [run_append, before]; exact after⟩
  exact (List.mem_append.mp member).elim (frontWorks event) (backWorks event)

theorem Serves.single {event : WorkersEvent} (works : event.OfWorkers handlers)
    (stepped : step parser s event = some s') : Serves parser handlers s s' :=
  ⟨[event], by simpa using works, by rw [run_cons, stepped]; rfl⟩

theorem serving_initial : initial.Serving where
  requestQueue := WorkerQueue.serving_initial
  components _ := WorkerQueue.serving_initial

theorem serving_setComponent (serving : s.Serving) {component : Component}
    {queue : PooledQueue WorkerValue} (own : queue.queue.Serving) :
    (s.setComponent component queue).Serving where
  requestQueue := serving.requestQueue
  components other := by
    by_cases same : other = component
    · rw [same, components_setComponent_self]
      exact own
    · rw [components_setComponent_of_ne same]
      exact serving.components other

theorem serving_add (serving : s.Serving) {component : Component} {value : WorkerValue}
    {adding : Adding} (added : s.add component value adding = some s') : s'.Serving := by
  obtain ⟨queue, put, rfl⟩ := Option.map_eq_some_iff.mp added
  exact serving_setComponent serving (PooledQueue.serving_put (serving.components component) put)

@[simp] theorem components_process (s : RequestWorkers) (component : Component)
    (value : WorkerValue) :
    (process parser handlers s component value).components = s.components := by
  cases value <;> rfl

@[simp] theorem requestQueue_process (s : RequestWorkers) (component : Component)
    (value : WorkerValue) :
    (process parser handlers s component value).requestQueue = s.requestQueue := by
  cases value <;> rfl

theorem serving_process (serving : s.Serving) (component : Component) (value : WorkerValue) :
    (process parser handlers s component value).Serving where
  requestQueue := by
    rw [requestQueue_process]
    exact serving.requestQueue
  components := by
    rw [components_process]
    exact serving.components

theorem serving_addRequest (serving : s.Serving) {request : Int} {token : BitVec 64}
    {data : RequestData} (stepped : s.addRequest request token data = some s') : s'.Serving := by
  simp only [addRequest] at stepped
  cases converted : convertRequest request data with
  | none =>
      simp only [converted, Option.some.injEq] at stepped
      subst stepped
      exact ⟨serving.requestQueue, serving.components⟩
  | some outcome =>
      cases outcome with
      | error error =>
          simp only [converted, Option.some.injEq] at stepped
          subst stepped
          exact ⟨serving.requestQueue, serving.components⟩
      | ok message =>
          simp only [converted] at stepped
          obtain ⟨queue, put, rfl⟩ := Option.map_eq_some_iff.mp stepped
          exact ⟨PooledQueue.serving_put serving.requestQueue put, serving.components⟩

theorem serving_step (placed : s.Placed) (serving : s.Serving) {event : WorkersEvent}
    (stays : ¬ event.Stops) (stepped : step parser s event = some s') : s'.Serving := by
  cases event with
  | addRequest request token data => exact serving_addRequest serving stepped
  | requestQueue event =>
      obtain ⟨queue, turned, rfl⟩ := Option.map_eq_some_iff.mp stepped
      exact ⟨PooledQueue.serving_turn serving.requestQueue stays turned, serving.components⟩
  | onRilRequest =>
      obtain ⟨⟨request, queue⟩, finished, rest⟩ := Option.bind_eq_some_iff.mp stepped
      obtain ⟨-, ⟨-, conversion, known⟩, -⟩ := finish_requestQueue placed finished
      have serving' : ({ s with requestQueue := queue } : RequestWorkers).Serving :=
        ⟨PooledQueue.serving_finish serving.requestQueue finished, serving.components⟩
      exact serving_add serving' ((onRilRequest_eq parser _ known).symm.trans rest)
  | add adding => exact serving_add serving stepped
  | component component event =>
      obtain ⟨queue, turned, rfl⟩ := Option.map_eq_some_iff.mp stepped
      exact serving_setComponent serving
        (PooledQueue.serving_turn (serving.components component) stays turned)
  | process component handlers =>
      obtain ⟨⟨value, queue⟩, finished, rest⟩ := Option.bind_eq_some_iff.mp stepped
      obtain rfl := Option.some.inj rest
      exact serving_process (serving_setComponent serving
        (PooledQueue.serving_finish (serving.components component) finished)) component value

/-! ### The steps of one queue -/

theorem serves_component {component : Component} {events : List QueueEvent}
    {queue : PooledQueue WorkerValue} (works : ∀ event ∈ events, event.ofWorker = true)
    (ran : run PooledQueue.turn (s.components component) events = some queue) :
    Serves parser handlers s (s.setComponent component queue) := by
  induction events generalizing s with
  | nil =>
      obtain rfl : s.components component = queue := by simpa using ran
      have same : s.setComponent component (s.components component) = s := by
        rw [setComponent, Function.update_eq_self]
      rw [same]
      exact .refl s
  | cons event events inductionHypothesis =>
      obtain ⟨middle, turned, rest⟩ := Option.bind_eq_some_iff.mp ran
      have stepped : step parser s (.component component event) =
          some (s.setComponent component middle) := by
        rw [step, turned]
        rfl
      have later := inductionHypothesis (s := s.setComponent component middle)
        (fun event member => works event (List.mem_cons_of_mem _ member))
        (by rw [components_setComponent_self]; exact rest)
      have same : (s.setComponent component middle).setComponent component queue =
          s.setComponent component queue := by
        simp only [setComponent, Function.update_idem]
      rw [same] at later
      have own : (WorkersEvent.component component event).OfWorkers handlers :=
        works event List.mem_cons_self
      exact (Serves.single own stepped).trans later

theorem serves_requestQueue {events : List QueueEvent} {queue : PooledQueue Request}
    (works : ∀ event ∈ events, event.ofWorker = true)
    (ran : run PooledQueue.turn s.requestQueue events = some queue) :
    Serves parser handlers s { s with requestQueue := queue } := by
  induction events generalizing s with
  | nil =>
      obtain rfl : s.requestQueue = queue := by simpa using ran
      exact .refl s
  | cons event events inductionHypothesis =>
      obtain ⟨middle, turned, rest⟩ := Option.bind_eq_some_iff.mp ran
      have stepped : step parser s (.requestQueue event) =
          some { s with requestQueue := middle } := by
        rw [step, turned]
        rfl
      have later := inductionHypothesis (s := { s with requestQueue := middle })
        (fun event member => works event (List.mem_cons_of_mem _ member)) rest
      have own : (WorkersEvent.requestQueue event).OfWorkers handlers :=
        works event List.mem_cons_self
      exact (Serves.single own stepped).trans later

/-! ### Until nothing is left -/

/-- What a component's worker does up to the call of `Process`. -/
theorem placed_run (placed : s.Placed) (serving : s.Serving) {component : Component}
    {events : List QueueEvent} {queue : PooledQueue WorkerValue}
    (works : ∀ event ∈ events, event.ofWorker = true)
    (ran : run PooledQueue.turn (s.components component) events = some queue) :
    (s.setComponent component queue).Placed ∧ (s.setComponent component queue).Serving ∧
      queue.values.Perm (s.components component).values := by
  obtain ⟨sound, own, values⟩ := PooledQueue.run_spec (placed.components component)
    (serving.components component) works ran
  exact ⟨placed_setComponent placed sound fun value member =>
    placed.tokened component value (values.mem_iff.mp member),
    serving_setComponent serving own, values⟩

/-- A component comes to `process` with one of the values in its queue. -/
theorem exists_process (placed : s.Placed) (serving : s.Serving) (component : Component)
    (used : (s.components component).values ≠ []) :
    ∃ s', Serves parser handlers s s' ∧ s'.Placed ∧ s'.Serving ∧
      s'.requestQueue = s.requestQueue ∧
      (s'.components component).values.length + 1 = (s.components component).values.length ∧
      ∀ other, other ≠ component → s'.components other = s.components other := by
  have inUse : (s.components component).queue.inUse ≠ [] := fun empty =>
    used (by rw [PooledQueue.values, empty]; rfl)
  obtain ⟨events, queue, works, ran, busy⟩ :=
    PooledQueue.exists_processing (serving.components component) inUse
  obtain ⟨placed', serving', values⟩ := placed_run placed serving works ran
  have sound := placed'.components component
  have own := serving'.components component
  rw [components_setComponent_self] at sound own
  obtain ⟨value, behind, finished⟩ := PooledQueue.exists_finish sound own busy
  have own' := PooledQueue.serving_finish own finished
  obtain ⟨-, -, shorter⟩ := PooledQueue.finish_spec sound finished
  have finished' : ((s.setComponent component queue).components component).finish =
      some (value, behind) := by rw [components_setComponent_self]; exact finished
  obtain ⟨-, -, placed'', -⟩ := finish_component placed' finished'
  have stepped : step parser (s.setComponent component queue) (.process component handlers) =
      some (process parser handlers
        ((s.setComponent component queue).setComponent component behind) component value) := by
    rw [step, finished']
    rfl
  have processes : (WorkersEvent.process component handlers).OfWorkers handlers := rfl
  refine ⟨_, (serves_component works ran).trans (.single processes stepped),
    placed_process placed'', serving_process (serving_setComponent serving' own') component value,
    ?_, ?_, fun other apart => ?_⟩
  · rw [requestQueue_process]
    rfl
  · rw [components_process, components_setComponent_self, ← values.length_eq, shorter,
      List.length_cons]
  · rw [components_process, components_setComponent_of_ne apart,
      components_setComponent_of_ne apart]

/-- A component processes all that is in its queue. -/
theorem exists_idle (placed : s.Placed) (serving : s.Serving) (component : Component) :
    ∃ s', Serves parser handlers s s' ∧ s'.Placed ∧ s'.Serving ∧
      s'.requestQueue = s.requestQueue ∧ Idle (s'.components component) ∧
      ∀ other, other ≠ component → s'.components other = s.components other := by
  induction size : (s.components component).values.length generalizing s with
  | zero =>
      have empty := List.length_eq_zero_iff.mp size
      obtain ⟨events, queue, works, ran, free, calm⟩ :=
        PooledQueue.exists_free (serving.components component)
          (PooledQueue.inUse_eq_nil (placed.components component) empty)
      obtain ⟨placed', serving', values⟩ := placed_run placed serving works ran
      rw [empty] at values
      refine ⟨_, serves_component works ran, placed', serving', rfl, ?_,
        fun other apart => components_setComponent_of_ne apart queue⟩
      rw [components_setComponent_self]
      exact ⟨List.perm_nil.mp values, free, calm⟩
  | succ n inductionHypothesis =>
      obtain ⟨s', first, placed', serving', requests, shorter, apart⟩ :=
        exists_process placed serving component (fun empty => by rw [empty] at size; cases size)
      obtain ⟨s'', rest, placed'', serving'', requests', idle, apart'⟩ :=
        inductionHypothesis placed' serving' (by omega)
      exact ⟨s'', first.trans rest, placed'', serving'', requests'.trans requests, idle,
        fun other same => (apart' other same).trans (apart other same)⟩

theorem exists_allIdle (placed : s.Placed) (serving : s.Serving) :
    ∃ s', Serves parser handlers s s' ∧ s'.Placed ∧ s'.Serving ∧
      s'.requestQueue = s.requestQueue ∧ ∀ component, Idle (s'.components component) := by
  obtain ⟨s', first, placed', serving', requests, icc, -⟩ :=
    exists_idle placed serving .simulatedIcc
  obtain ⟨s'', second, placed'', serving'', requests', radio, apart⟩ :=
    exists_idle placed' serving' .simulatedRadio
  refine ⟨s'', first.trans second, placed'', serving'', requests'.trans requests, fun component => ?_⟩
  cases component with
  | simulatedIcc =>
      rw [apart .simulatedIcc (by decide)]
      exact icc
  | simulatedRadio => exact radio

/-- The request queue hands a request over to a component that is idle. -/
theorem exists_onRilRequest (placed : s.Placed) (serving : s.Serving)
    (idle : ∀ component, Idle (s.components component)) (used : s.requestQueue.values ≠ []) :
    ∃ s', Serves parser handlers s s' ∧ s'.Placed ∧ s'.Serving ∧
      s'.requestQueue.values.length + 1 = s.requestQueue.values.length := by
  have inUse : s.requestQueue.queue.inUse ≠ [] := fun empty =>
    used (by rw [PooledQueue.values, empty]; rfl)
  obtain ⟨events, queue, works, ran, busy⟩ :=
    PooledQueue.exists_processing serving.requestQueue inUse
  obtain ⟨sound, own, values⟩ :=
    PooledQueue.run_spec placed.requestQueue serving.requestQueue works ran
  have placed' : ({ s with requestQueue := queue } : RequestWorkers).Placed :=
    ⟨sound, placed.components, fun request member =>
      placed.converted request (values.mem_iff.mp member), placed.tokened⟩
  obtain ⟨request, behind, finished⟩ := PooledQueue.exists_finish sound own busy
  have own' := PooledQueue.serving_finish own finished
  obtain ⟨-, -, shorter⟩ := PooledQueue.finish_spec sound finished
  obtain ⟨-, ⟨there, conversion, known⟩, placed'', -⟩ := finish_requestQueue placed' finished
  -- the `Add` to the component
  have target := idle (componentOf request.request)
  obtain ⟨added, put⟩ : ∃ added, (s.components (componentOf request.request)).put
      (.request request.serial request.request (numberOfToken request.token) request.message)
      .add = some added := by
    rw [PooledQueue.put, Adding.event, WorkerQueue.step, target.free]
    exact ⟨_, rfl⟩
  have tokened : ({ s with requestQueue := behind } : RequestWorkers).Tokened
      (.request request.serial request.request (numberOfToken request.token) request.message) :=
    ⟨request.token, there, rfl⟩
  have adds : ({ s with requestQueue := behind } : RequestWorkers).add
      (componentOf request.request)
      (.request request.serial request.request (numberOfToken request.token) request.message)
      .add = some (({ s with requestQueue := behind } : RequestWorkers).setComponent
        (componentOf request.request) added) := by
    rw [add, put]
    rfl
  obtain ⟨placed3, -⟩ := add_calm placed'' tokened target.calm adds
  have stepped : step parser { s with requestQueue := queue } .onRilRequest =
      some (({ s with requestQueue := behind } : RequestWorkers).setComponent
        (componentOf request.request) added) := by
    rw [step, finished]
    exact (onRilRequest_eq parser _ known).trans adds
  have works' : WorkersEvent.onRilRequest.OfWorkers handlers := trivial
  have serving' : ({ s with requestQueue := behind } : RequestWorkers).Serving :=
    ⟨own', serving.components⟩
  refine ⟨_, (serves_requestQueue works ran).trans (.single works' stepped), placed3,
    serving_setComponent serving' (PooledQueue.serving_put (serving.components _) put), ?_⟩
  rw [requestQueue_setComponent, ← values.length_eq, shorter, List.length_cons]

/-- **The workers bring all requests to their completion.** -/
theorem exists_settled (placed : s.Placed) (serving : s.Serving) :
    ∃ s', Serves parser handlers s s' ∧ s'.underWay = [] := by
  induction size : s.requestQueue.values.length generalizing s with
  | zero =>
      obtain ⟨s', first, -, -, requests, idle⟩ := exists_allIdle placed serving
      refine ⟨s', first, ?_⟩
      rw [underWay, serialsOf, serialsOf, requests, List.length_eq_zero_iff.mp size,
        (idle .simulatedIcc).values, (idle .simulatedRadio).values]
      rfl
  | succ n inductionHypothesis =>
      obtain ⟨s', first, placed', serving', requests, idle⟩ := exists_allIdle placed serving
      have used : s'.requestQueue.values ≠ [] := by
        rw [requests]
        intro empty
        rw [empty] at size
        cases size
      obtain ⟨s'', second, placed'', serving'', shorter⟩ :=
        exists_onRilRequest placed' serving' idle used
      rw [requests] at shorter
      obtain ⟨settled, third, empty⟩ := inductionHypothesis placed'' serving'' (by omega)
      exact ⟨settled, first.trans (second.trans third), empty⟩

end RequestWorkers

end RildHisi.MockRil
