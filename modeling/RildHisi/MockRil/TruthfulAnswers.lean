import RildHisi.MockRil.RequestService

/-!
Owns what becomes of the calls of `AddRequest`: whether each one is completed once, with its
token and the code that was chosen for it. Three things get in the way: a response that the
conversions do not carry, a token that is no number of JavaScript, and a queue that loses its
pointer (`answeredTruthfully_iff`).
-/

namespace RildHisi.MockRil

open RildHisi.Library

namespace RequestWorkers

/-- Each call of `AddRequest` is answered once or its request is on its way, and each answer is
a completion for the token of the call with the code that was chosen. -/
structure Truthful (s : RequestWorkers) : Prop where
  once : (s.answers.map Answer.serial ++ s.underWay).Perm (List.range s.tokens.length)
  truthful : ∀ answer ∈ s.answers, ∃ token ∈ s.tokens[answer.serial]?,
    answer.completion = some ⟨token, answer.rilErrCode⟩

/-- The handlers answer this value so that its completion says what they chose. -/
def Answerable (parser : ResponseParser) (s : RequestWorkers) (component : Component)
    (handlers : Handlers) : WorkerValue → Prop
  | .request serial reqNum _ message => ∀ token ∈ s.tokens[serial]?,
      ExactToken token ∧ (component.process handlers reqNum message).Fits parser reqNum
  | .other => True

/-- No string that a conversion copies is NULL, a request is answerable where it is processed,
and no `Add` obtains a record that a worker has released and not read. -/
def Undisturbed (parser : ResponseParser) (s : RequestWorkers) : WorkersEvent → Prop
  | .addRequest request _ data =>
      match convertRequest request data with
      | none => False
      | some (.error _) => True
      | some (.ok _) => s.requestQueue.queue.exposed = false
  | .onRilRequest => ∀ request ∈ s.requestQueue.processing,
      (s.components (componentOf request.request)).queue.exposed = false
  | .add _ => (s.components .simulatedRadio).queue.exposed = false
  | .process component handlers => ∀ value ∈ (s.components component).processing,
      Answerable parser s component handlers value
  | .requestQueue _ | .component _ _ => True

/-- Where something that is no RIL request obtains a record that has not been read, that record
is of a RIL request. -/
def OverwritesRequest (s : RequestWorkers) : WorkersEvent → Prop
  | .add _ => (s.components .simulatedRadio).queue.exposed = true →
      WorkerValue.other ∉ (s.components .simulatedRadio).queue.handed.filterMap
        (s.components .simulatedRadio).objects
  | _ => True

variable {parser : ResponseParser} {s s' : RequestWorkers}

theorem truthful_initial : initial.Truthful where
  once := .refl _
  truthful _ member := absurd member List.not_mem_nil

/-! ### The answers -/

theorem once_iff (s : RequestWorkers) :
    (s.answers.map Answer.serial ++ s.underWay).Perm (List.range s.tokens.length) ↔
      ∀ n, (s.answers.map Answer.serial).count n + s.underWay.count n =
        (List.range s.tokens.length).count n := by
  simp only [List.perm_iff_count, List.count_append]

/-- A token stays where it is when others follow. -/
theorem mem_tokens_append {tokens : List (BitVec 64)} {serial : Nat} {token : BitVec 64}
    (there : token ∈ tokens[serial]?) (more : BitVec 64) :
    token ∈ (tokens ++ [more])[serial]? := by
  obtain ⟨below, -⟩ := List.getElem?_eq_some_iff.mp there
  rw [List.getElem?_append_left below]
  exact there

/-- The position of the next call of `AddRequest`. -/
theorem getElem?_tokens_append (tokens : List (BitVec 64)) (token : BitVec 64) :
    (tokens ++ [token])[tokens.length]? = some token := by
  rw [List.getElem?_append_right (Nat.le_refl _), Nat.sub_self]
  rfl

theorem placed_call (placed : s.Placed) (token : BitVec 64) :
    ({ s with tokens := s.tokens ++ [token] } : RequestWorkers).Placed where
  requestQueue := placed.requestQueue
  components := placed.components
  converted request member :=
    ⟨mem_tokens_append (placed.converted request member).1 token,
      (placed.converted request member).2⟩
  tokened component value member := by
    have before := placed.tokened component value member
    cases value with
    | request serial reqNum tokenNumber message =>
        obtain ⟨own, there, same⟩ := before
        exact ⟨own, mem_tokens_append there token, same⟩
    | other => trivial

/-- A step that answers nothing. -/
theorem truthful_of_same (truthful : s.Truthful) (tokens : s'.tokens = s.tokens)
    (answers : s'.answers = s.answers) (same : ∀ n, s'.underWay.count n = s.underWay.count n) :
    s'.Truthful where
  once := by
    refine (once_iff s').mpr fun n => ?_
    rw [tokens, answers, same]
    exact (once_iff s).mp truthful.once n
  truthful := by
    rw [tokens, answers]
    exact truthful.truthful

/-- A request that was on its way is answered. -/
theorem truthful_answer_iff (truthful : s.Truthful) {answer : Answer}
    (tokens : s'.tokens = s.tokens) (answers : s'.answers = s.answers)
    (counted : ∀ n, s.underWay.count n = s'.underWay.count n + [answer.serial].count n) :
    (s'.answer answer).Truthful ↔
      ∃ token ∈ s.tokens[answer.serial]?, answer.completion = some ⟨token, answer.rilErrCode⟩ := by
  constructor
  · intro after
    have answered := after.truthful answer (List.mem_append_right _ List.mem_cons_self)
    exact tokens ▸ answered
  · intro completed
    refine ⟨(once_iff _).mpr fun n => ?_, fun other member => ?_⟩
    · have once := (once_iff s).mp truthful.once n
      change ((s'.answers ++ [answer]).map Answer.serial).count n + s'.underWay.count n =
        (List.range s'.tokens.length).count n
      rw [tokens, answers, List.map_append, List.count_append, List.map_singleton]
      have here := counted n
      omega
    · change other ∈ s'.answers ++ [answer] at member
      change ∃ token ∈ s'.tokens[other.serial]?, _
      rw [tokens]
      rw [answers] at member
      rcases List.mem_append.mp member with old | new
      · exact truthful.truthful other old
      · exact List.mem_singleton.mp new ▸ completed

theorem count_range_succ (length n : Nat) :
    (List.range (length + 1)).count n = (List.range length).count n + [length].count n := by
  rw [List.range_succ, List.count_append]

/-- A call of `AddRequest` that is answered at once. -/
theorem truthful_call_iff (truthful : s.Truthful) (token : BitVec 64) (rilErrCode : Int)
    (completion : Option Completion) :
    (({ s with tokens := s.tokens ++ [token] } : RequestWorkers).answer
        ⟨s.tokens.length, rilErrCode, completion⟩).Truthful ↔
      completion = some ⟨token, rilErrCode⟩ := by
  constructor
  · intro after
    obtain ⟨own, there, same⟩ := after.truthful ⟨s.tokens.length, rilErrCode, completion⟩
      (List.mem_append_right _ List.mem_cons_self)
    change own ∈ (s.tokens ++ [token])[s.tokens.length]? at there
    rw [getElem?_tokens_append] at there
    exact Option.some.inj there ▸ same
  · intro completed
    refine ⟨(once_iff _).mpr fun n => ?_, fun other member => ?_⟩
    · have once := (once_iff s).mp truthful.once n
      change ((s.answers ++ [_]).map Answer.serial).count n + s.underWay.count n =
        (List.range (s.tokens ++ [token]).length).count n
      rw [List.map_append, List.count_append, List.map_singleton, List.length_append,
        List.length_singleton, count_range_succ]
      dsimp only
      omega
    · change ∃ token' ∈ (s.tokens ++ [token])[other.serial]?, _
      rcases List.mem_append.mp member with old | new
      · obtain ⟨own, there, same⟩ := truthful.truthful other old
        exact ⟨own, mem_tokens_append there token, same⟩
      · rw [List.mem_singleton.mp new]
        exact ⟨token, getElem?_tokens_append s.tokens token, completed⟩

/-- A request of a new call of `AddRequest` is on its way. -/
theorem truthful_queued (truthful : s.Truthful) {token : BitVec 64}
    (tokens : s'.tokens = s.tokens ++ [token]) (answers : s'.answers = s.answers)
    (counted : ∀ n, s'.underWay.count n = s.underWay.count n + [s.tokens.length].count n) :
    s'.Truthful where
  once := by
    refine (once_iff s').mpr fun n => ?_
    have once := (once_iff s).mp truthful.once n
    rw [tokens, answers, counted, List.length_append, List.length_singleton, count_range_succ]
    omega
  truthful answer member := by
    rw [answers] at member
    obtain ⟨own, there, same⟩ := truthful.truthful answer member
    exact ⟨own, tokens ▸ mem_tokens_append there token, same⟩

/-! ### The steps -/

section Steps

variable {request : Int} {token : BitVec 64} {data : RequestData} {component : Component}
  {handlers : Handlers} {value : WorkerValue}

theorem lookup_of_convertRequest {message : RequestMessage}
    (converted : convertRequest request data = some (.ok message)) :
    ∃ conversion, rilReqConversionMap.lookup request = some conversion := by
  unfold convertRequest at converted
  cases known : rilReqConversionMap.lookup request with
  | some conversion => exact ⟨conversion, rfl⟩
  | none =>
      rw [known] at converted
      cases converted

theorem addRequest_step (placed : s.Placed) (truthful : s.Truthful)
    (undisturbed : Undisturbed parser s (.addRequest request token data))
    (stepped : s.addRequest request token data = some s') : s'.Placed ∧ s'.Truthful := by
  have called := placed_call placed token
  simp only [Undisturbed] at undisturbed
  simp only [addRequest] at stepped
  cases converted : convertRequest request data with
  | none => simp [converted] at undisturbed
  | some outcome =>
      cases outcome with
      | error error =>
          simp only [converted, Option.some.injEq] at stepped
          subst stepped
          exact ⟨⟨called.requestQueue, called.components, called.converted, called.tokened⟩,
            (truthful_call_iff truthful token _ _).mpr rfl⟩
      | ok message =>
          simp only [converted] at stepped undisturbed
          obtain ⟨queue, put, rfl⟩ := Option.map_eq_some_iff.mp stepped
          obtain ⟨placed', counted⟩ := put_calm called
            ⟨getElem?_tokens_append s.tokens token, lookup_of_convertRequest converted⟩
            undisturbed put
          exact ⟨placed', truthful_queued truthful rfl rfl counted⟩

theorem undisturbed_addRequest (placed : s.Placed) (truthful : s.Truthful)
    (stepped : s.addRequest request token data = some s') (after : s'.Truthful) :
    Undisturbed parser s (.addRequest request token data) := by
  simp only [Undisturbed]
  simp only [addRequest] at stepped
  cases converted : convertRequest request data with
  | none =>
      simp only [converted, Option.some.injEq] at stepped
      subst stepped
      cases (truthful_call_iff truthful token _ _).mp after
  | some outcome =>
      cases outcome with
      | error error => trivial
      | ok message =>
          simp only [converted] at stepped
          obtain ⟨queue, put, rfl⟩ := Option.map_eq_some_iff.mp stepped
          by_contra exposed
          obtain ⟨lost, converted', rest, counted⟩ :=
            put_exposed placed (Bool.not_eq_false _ ▸ exposed) put
          obtain ⟨below, -⟩ := List.getElem?_eq_some_iff.mp converted'.1
          -- the new request is on its way twice
          have before := (once_iff s).mp truthful.once s.tokens.length
          have twice := (once_iff _).mp after.once s.tokens.length
          obtain ⟨lost', there⟩ := counted s.tokens.length
          change _ + ({ s with requestQueue := queue } : RequestWorkers).underWay.count _ =
            (List.range (s.tokens ++ [token]).length).count _ at twice
          rw [List.length_append, List.length_singleton, count_range_succ, there] at twice
          rw [lost', List.count_singleton, if_neg (by simpa using Nat.ne_of_lt below)] at before
          have own : [s.tokens.length].count s.tokens.length = 1 := by simp
          simp only [own] at twice
          change (s.answers.map Answer.serial).count _ + _ = _ at twice
          omega

theorem onRilRequest_step (placed : s.Placed) (truthful : s.Truthful)
    (undisturbed : Undisturbed parser s .onRilRequest)
    (stepped : step parser s .onRilRequest = some s') : s'.Placed ∧ s'.Truthful := by
  obtain ⟨⟨request, queue⟩, finished, rest⟩ := Option.bind_eq_some_iff.mp stepped
  obtain ⟨processing, converted, placed', before⟩ := finish_requestQueue placed finished
  obtain ⟨there, conversion, known⟩ := converted
  have added := (onRilRequest_eq parser _ known).symm.trans rest
  have tokened : ({ s with requestQueue := queue } : RequestWorkers).Tokened
      (.request request.serial request.request (numberOfToken request.token) request.message) :=
    ⟨request.token, there, rfl⟩
  obtain ⟨placed'', tokens, answers, after⟩ :=
    add_calm placed' tokened (undisturbed request processing) added
  refine ⟨placed'', truthful_of_same truthful tokens answers fun n => ?_⟩
  rw [after, before]
  rfl

theorem undisturbed_onRilRequest (placed : s.Placed) (truthful : s.Truthful)
    (stepped : step parser s .onRilRequest = some s') (after : s'.Truthful) :
    Undisturbed parser s .onRilRequest := by
  obtain ⟨⟨request, queue⟩, finished, rest⟩ := Option.bind_eq_some_iff.mp stepped
  obtain ⟨processing, converted, placed', before⟩ := finish_requestQueue placed finished
  obtain ⟨there, conversion, known⟩ := converted
  have added := (onRilRequest_eq parser _ known).symm.trans rest
  intro other processing'
  obtain rfl := Option.some.inj (processing.symm.trans processing')
  by_contra exposed
  obtain ⟨lost, -, tokens, answers, others, counted⟩ :=
    add_exposed placed' (Bool.not_eq_false _ ▸ exposed) added
  -- the request is on its way twice
  obtain ⟨lost', twice⟩ := counted request.serial
  have first := (once_iff s).mp truthful.once request.serial
  have second := (once_iff s').mp after.once request.serial
  rw [tokens, answers, twice] at second
  rw [before, lost'] at first
  have single := List.nodup_iff_count_le_one.mp (List.nodup_range (n := s.tokens.length))
    request.serial
  have own : [request.serial].count request.serial = 1 := by simp
  simp only [WorkerValue.serial, Option.toList_some, own] at first second
  change (s.answers.map Answer.serial).count _ + _ =
    (List.range s.tokens.length).count _ at second
  omega

/-- What the completion of a component says. -/
theorem complete_iff_answerable {serial : Nat} {reqNum tokenNumber : Int}
    {message : RequestMessage} (tokened : s.Tokened (.request serial reqNum tokenNumber message)) :
    (∃ token ∈ s.tokens[serial]?,
        (component.process handlers reqNum message).complete parser reqNum tokenNumber =
          some ⟨token, (component.process handlers reqNum message).rilErrCode⟩) ↔
      Answerable parser s component handlers (.request serial reqNum tokenNumber message) := by
  obtain ⟨token, there, rfl⟩ := tokened
  constructor
  · rintro ⟨own, own', same⟩ other other'
    obtain rfl := Option.some.inj (there.symm.trans own')
    obtain rfl := Option.some.inj (there.symm.trans other')
    exact (complete_eq_some_iff parser reqNum token _).mp same
  · intro answerable
    exact ⟨token, there, (complete_eq_some_iff parser reqNum token _).mpr (answerable token there)⟩

/-- A value that has come to `process`. -/
theorem process_truthful_iff (truthful : s.Truthful) (tokened : s.Tokened value)
    (tokens : s'.tokens = s.tokens) (answers : s'.answers = s.answers)
    (counted : ∀ n, s.underWay.count n =
      s'.underWay.count n + value.serial.toList.count n) :
    (process parser handlers s' component value).Truthful ↔
      Answerable parser s component handlers value := by
  cases value with
  | request serial reqNum tokenNumber message =>
      rw [← complete_iff_answerable tokened]
      exact truthful_answer_iff truthful tokens answers counted
  | other =>
      exact iff_of_true (truthful_of_same truthful tokens answers fun n => (counted n).symm) trivial

theorem process_step (placed : s.Placed) (truthful : s.Truthful)
    (stepped : step parser s (.process component handlers) = some s') :
    s'.Placed ∧ (s'.Truthful ↔ Undisturbed parser s (.process component handlers)) := by
  obtain ⟨⟨value, queue⟩, finished, rest⟩ := Option.bind_eq_some_iff.mp stepped
  obtain rfl := Option.some.inj rest
  obtain ⟨processing, tokened, placed', counted⟩ := finish_component placed finished
  have exactly : (process parser handlers (s.setComponent component queue) component
      value).Truthful ↔ Answerable parser s component handlers value :=
    process_truthful_iff truthful tokened rfl rfl counted
  refine ⟨placed_process placed', exactly.trans ?_⟩
  constructor
  · intro answerable value' processing'
    exact Option.some.inj (processing.symm.trans processing') ▸ answerable
  · intro undisturbed
    exact undisturbed value processing

/-- What a component's queue does up to the call of `Process`. -/
theorem component_step (placed : s.Placed) (truthful : s.Truthful) {event : QueueEvent}
    (stepped : step parser s (.component component event) = some s') :
    s'.Placed ∧ s'.Truthful := by
  obtain ⟨queue, turned, rfl⟩ := Option.map_eq_some_iff.mp stepped
  obtain ⟨sound, values⟩ := PooledQueue.turn_spec (placed.components component) turned
  refine ⟨placed_setComponent placed sound fun value member =>
    placed.tokened component value (values.mem_iff.mp member), ?_⟩
  refine truthful_of_same truthful rfl rfl fun n => ?_
  have counted := count_setComponent s component queue n
  rw [(values.filterMap WorkerValue.serial).count_eq] at counted
  unfold serialsOf at counted
  omega

theorem requestQueue_step (placed : s.Placed) (truthful : s.Truthful) {event : QueueEvent}
    (stepped : step parser s (.requestQueue event) = some s') : s'.Placed ∧ s'.Truthful := by
  obtain ⟨queue, turned, rfl⟩ := Option.map_eq_some_iff.mp stepped
  obtain ⟨sound, values⟩ := PooledQueue.turn_spec placed.requestQueue turned
  refine ⟨⟨sound, placed.components, fun request member =>
    placed.converted request (values.mem_iff.mp member), placed.tokened⟩, ?_⟩
  refine truthful_of_same truthful rfl rfl fun n => ?_
  have counted := count_setRequestQueue s queue n
  rw [(values.map Request.serial).count_eq] at counted
  omega

theorem add_step (placed : s.Placed) (truthful : s.Truthful) {adding : Adding}
    (undisturbed : Undisturbed parser s (.add adding))
    (stepped : step parser s (.add adding) = some s') : s'.Placed ∧ s'.Truthful := by
  have tokened : s.Tokened .other := trivial
  obtain ⟨placed', tokens, answers, counted⟩ := add_calm placed tokened undisturbed stepped
  exact ⟨placed', truthful_of_same truthful tokens answers counted⟩

theorem undisturbed_add (placed : s.Placed) (truthful : s.Truthful) {adding : Adding}
    (overwrites : s.OverwritesRequest (.add adding))
    (stepped : step parser s (.add adding) = some s') (after : s'.Truthful) :
    Undisturbed parser s (.add adding) := by
  by_contra exposed
  have exposed : (s.components .simulatedRadio).queue.exposed = true := Bool.not_eq_false _ ▸ exposed
  obtain ⟨lost, handed, tokens, answers, others, counted⟩ := add_exposed placed exposed stepped
  have request := overwrites exposed
  rw [handed] at request
  cases lost with
  | other => exact request List.mem_cons_self
  | request serial reqNum tokenNumber message =>
      -- the request that was overwritten is on its way no more
      obtain ⟨lost, gone⟩ := counted serial
      have first := (once_iff s).mp truthful.once serial
      have second := (once_iff s').mp after.once serial
      rw [tokens, answers, gone] at second
      rw [lost] at first
      have own : [serial].count serial = 1 := by simp
      simp only [WorkerValue.serial, Option.toList_some, Option.toList_none, own,
        List.count_nil] at first second
      omega

/-- **One step that meets the condition.** -/
theorem undisturbed_step (placed : s.Placed) (truthful : s.Truthful) {event : WorkersEvent}
    (undisturbed : Undisturbed parser s event) (stepped : step parser s event = some s') :
    s'.Placed ∧ s'.Truthful := by
  cases event with
  | addRequest request token data => exact addRequest_step placed truthful undisturbed stepped
  | requestQueue event => exact requestQueue_step placed truthful stepped
  | onRilRequest => exact onRilRequest_step placed truthful undisturbed stepped
  | add adding => exact add_step placed truthful undisturbed stepped
  | component component event => exact component_step placed truthful stepped
  | process component handlers =>
      obtain ⟨placed', exactly⟩ := process_step placed truthful stepped
      exact ⟨placed', exactly.mpr undisturbed⟩

/-- **A step that stays truthful meets the condition.** -/
theorem undisturbed_of_truthful (placed : s.Placed) (truthful : s.Truthful) {event : WorkersEvent}
    (overwrites : s.OverwritesRequest event) (stepped : step parser s event = some s')
    (after : s'.Truthful) : Undisturbed parser s event := by
  cases event with
  | addRequest request token data => exact undisturbed_addRequest placed truthful stepped after
  | requestQueue event => trivial
  | onRilRequest => exact undisturbed_onRilRequest placed truthful stepped after
  | add adding => exact undisturbed_add placed truthful overwrites stepped after
  | component component event => trivial
  | process component handlers => exact (process_step placed truthful stepped).2.mp after

end Steps

/-- All along the run. -/
def StaysTruthful (parser : ResponseParser) (events : List WorkersEvent) : Prop :=
  ∀ front back middle, events = front ++ back →
    run (step parser) .initial front = some middle → middle.Truthful

/-- When no request is on its way, each call of `AddRequest` has been answered once. -/
theorem Truthful.answered (truthful : s.Truthful) (settled : s.underWay = []) :
    (s.answers.map Answer.serial).Perm (List.range s.tokens.length) := by
  have once := truthful.once
  rwa [settled, List.append_nil] at once

/-- What undisturbed runs keep. -/
theorem undisturbed_run {events : List WorkersEvent}
    (undisturbed : StepsMeet (step parser) (Undisturbed parser) .initial events)
    (ran : run (step parser) .initial events = some s) : s.Placed ∧ s.Truthful := by
  have keeps : ∀ before event after, before.Placed ∧ before.Truthful →
      Undisturbed parser before event → step parser before event = some after →
      after.Placed ∧ after.Truthful :=
    fun _ _ _ good undisturbed stepped => undisturbed_step good.1 good.2 undisturbed stepped
  exact run_invariant_of_stepsMeet keeps ⟨placed_initial, truthful_initial⟩ undisturbed ran

/-- Without a `Stop` the queues are served. -/
theorem serving_run {events : List WorkersEvent}
    (undisturbed : StepsMeet (step parser) (Undisturbed parser) .initial events)
    (stays : ∀ event ∈ events, ¬ event.Stops)
    (ran : run (step parser) .initial events = some s) : s.Serving := by
  induction events using List.reverseRecOn generalizing s with
  | nil =>
      obtain rfl : initial = s := by simpa using ran
      exact serving_initial
  | append_singleton events event inductionHypothesis =>
      rw [run_concat] at ran
      obtain ⟨middle, before, stepped⟩ := Option.bind_eq_some_iff.mp ran
      have front := stepsMeet_left undisturbed
      exact serving_step (undisturbed_run front before).1
        (inductionHypothesis front (fun event member => stays event (by simp [member])) before)
        (stays event (by simp)) stepped

end RequestWorkers

/-- The worker of the request queue takes what is in its queue, from its start or from the
return of `Process`. -/
def requestTurn (steps : Nat) : List WorkersEvent := List.replicate steps (.requestQueue .worker)

def radioTurn (steps : Nat) : List WorkersEvent :=
  List.replicate steps (.component .simulatedRadio .worker)

theorem undisturbed_turns (parser : ResponseParser) (steps : Nat) (s : RequestWorkers) :
    StepsMeet (RequestWorkers.step parser) (RequestWorkers.Undisturbed parser) s
        (requestTurn steps) ∧
      StepsMeet (RequestWorkers.step parser) (RequestWorkers.Undisturbed parser) s
        (radioTurn steps) := by
  constructor
  · refine stepsMeet_of_always (fun event member middle => ?_) s
    rw [List.eq_of_mem_replicate member]
    trivial
  · refine stepsMeet_of_always (fun event member middle => ?_) s
    rw [List.eq_of_mem_replicate member]
    trivial

/-- Nothing is found in a response. -/
def emptyResponses : ResponseParser := ⟨fun _ => 0, fun _ => 0, fun _ => 0⟩

def noData : RequestData := ⟨0, 0, none, ⟨none, 0, none⟩⟩

/-- All requests succeed, without data. -/
def succeeding : Handlers := fun _ _ _ => .returns ⟨0, some []⟩

/-- RIL_REQUEST_ANSWER, and a request that has no conversion, up to `onRilRequest`. -/
def twoRequests : List WorkersEvent :=
  [.addRequest 40 0x1000 noData, .addRequest 500 0x2000 noData] ++ requestTurn 8

/-- The same up to `process`. -/
def twoRequestsQueued : List WorkersEvent :=
  twoRequests ++ [.onRilRequest] ++ radioTurn 8

/-- A radio with seven calls that were dialed. -/
def fullRadio : Radio :=
  (List.replicate 7 (RadioRequest.dial (some ⟨some "555"⟩))).foldl
    (fun radio request => (radio.process request).radio) Radio.initial

/-- The answer of the full radio to every request: to dial once more. -/
def dialOnceMore : Handlers := fun _ _ _ =>
  .returns ⟨(fullRadio.process (.dial (some ⟨some "556"⟩))).rilErrCode, some []⟩

/-- RIL_REQUEST_DIAL. -/
def failedDial : List WorkersEvent :=
  [.addRequest 10 0x1000 ⟨12, 0, none, ⟨some "556", 0, none⟩⟩] ++ requestTurn 8 ++
    [.onRilRequest] ++ radioTurn 8 ++ [.process .simulatedRadio dialOnceMore]

/-- The second request obtains the record of the first: it is completed twice, the first one
never. -/
example : (run (RequestWorkers.step emptyResponses) .initial
    (.addRequest 40 0x1000 noData :: requestTurn 7 ++ [.addRequest 40 0x2000 noData] ++
      requestTurn 1 ++ [.onRilRequest] ++ requestTurn 7 ++ [.onRilRequest] ++ radioTurn 8 ++
      [.process .simulatedRadio succeeding] ++ radioTurn 7 ++
      [.process .simulatedRadio succeeding])).any (fun s =>
    s.answers = [⟨1, 0, some ⟨0x2000, 0⟩⟩, ⟨1, 0, some ⟨0x2000, 0⟩⟩] ∧ s.underWay = []) =
    true := by decide

end RildHisi.MockRil
