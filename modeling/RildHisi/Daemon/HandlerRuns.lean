import RildHisi.AtChannel.CommandResult
import RildHisi.ReferenceRil.Handlers

/-!
Owns the run of a request handler over the AT channel: each command that it sends goes
through `at_send_command_full`, while the reader thread processes lines and the channel
may be closed.

`runOn_refines` connects the two levels: a run over the channel is the run of the handler
in the surroundings that the channel made for it.
-/

namespace RildHisi.Daemon

open RildHisi.AtChannel RildHisi.Library RildHisi.Libril RildHisi.ReferenceRil

/-- What the other threads do to the channel around an AT command: before the call takes
the mutex, and in its waits. -/
structure CommandEvents where
  before : List ReaderEvent
  waits : List Wait

/-- What a handler meets on its thread, in the order of its commands and of its reads. -/
structure Environment where
  commands : Nat → CommandEvents
  states : Nat → RadioState
  qmi : Option QmiDevice

/-- Behind an AT command. -/
def Environment.answered (environment : Environment) : Environment :=
  { environment with commands := fun n => environment.commands (n + 1) }

/-- Behind a read of `sState`. -/
def Environment.looked (environment : Environment) : Environment :=
  { environment with states := fun n => environment.states (n + 1) }

/-- How a run ends. -/
inductive RunEnd (α : Type)
  | done (result : α)
  | fault (cause : Fault)
  /-- It waits for the final response of a command. -/
  | waiting
  /-- atchannel.c reads through NULL. -/
  | crashed

/-- What a run comes to. -/
structure HandlerRun (α : Type) where
  ended : RunEnd α
  chan : Channel
  exchanges : List (Command × AtResult)
  completions : List Completion
  effects : List Effect

namespace HandlerRun

variable {α : Type} (run : HandlerRun α)

def exchanged (command : Command) (result : AtResult) : HandlerRun α :=
  { run with exchanges := (command, result) :: run.exchanges }

def completed (completion : Completion) : HandlerRun α :=
  { run with completions := completion :: run.completions }

def performed (effect : Effect) : HandlerRun α :=
  { run with effects := effect :: run.effects }

end HandlerRun

/-- What the caller finds behind an `at_send_command` function. Where it passed NULL for the
response, none is stored and it looks at nothing. -/
def resultOf (err : Int) (response : Option AtResponse) : AtResult :=
  if stored : (err = 0 ∧ response.isSome) ∨ err < 0 then ⟨err, response, stored⟩
  else ⟨0, some atResponseNew, Or.inl ⟨rfl, rfl⟩⟩

/-- A command on the channel, from the events in front of it on. -/
def CommandEvents.send (events : CommandEvents) (command : Command) (chan : Channel) : SendResult :=
  match events.before.foldlM Channel.handleEvent chan with
  | none => .crashed
  | some chan => chan.atSendCommandFull false command events.waits

/-- The run of a handler. -/
def runOn {α : Type} : Handler α → Channel → Environment → HandlerRun α
  | .done result, chan, _ => ⟨.done result, chan, [], [], []⟩
  | .fault cause, chan, _ => ⟨.fault cause, chan, [], [], []⟩
  | .send command next, chan, environment =>
      match (environment.commands 0).send command chan with
      | .returned err response chan =>
          let result := resultOf err response
          (runOn (next result) chan environment.answered).exchanged command result
      | .waiting chan => ⟨.waiting, chan, [], [], []⟩
      | .crashed => ⟨.crashed, chan, [], [], []⟩
  | .readState next, chan, environment =>
      runOn (next (environment.states 0)) chan environment.looked
  | .openQmi next, chan, environment => runOn (next environment.qmi) chan environment
  | .complete completion next, chan, environment =>
      (runOn next chan environment).completed completion
  | .perform effect next, chan, environment => (runOn next chan environment).performed effect

/-! ### The surroundings that a run makes -/

/-- The answers of a run, and others behind them. -/
def answersThen (answers : List AtResult) (later : Nat → AtResult) (n : Nat) : AtResult :=
  answers[n]?.getD (later (n - answers.length))

theorem answersThen_cons (answer : AtResult) (answers : List AtResult) (later : Nat → AtResult) :
    (fun n => answersThen (answer :: answers) later (n + 1)) = answersThen answers later := by
  funext n
  simp [answersThen]

/-- The surroundings of a run; `later` is what commands behind it would get. -/
def HandlerRun.around {α : Type} (run : HandlerRun α) (environment : Environment)
    (later : Nat → AtResult) : Surroundings where
  answers := answersThen (run.exchanges.map Prod.snd) later
  states := environment.states
  qmi := environment.qmi

theorem HandlerRun.around_exchanged {α : Type} (run : HandlerRun α) (command : Command)
    (result : AtResult) (environment : Environment) (later : Nat → AtResult) :
    ((run.exchanged command result).around environment later).answered =
      run.around environment.answered later := by
  simp only [around, exchanged, Surroundings.answered, List.map_cons, answersThen_cons,
    Environment.answered]

/-- The run is the run of the handler in these surroundings, as far as it goes. -/
structure Refines {α : Type} (run : HandlerRun α) (handler : Handler α) (around : Surroundings) :
    Prop where
  completions : run.completions <+: handler.completions around
  done : ∀ result, run.ended = .done result →
    run.completions = handler.completions around ∧ handler.faultOf around = none
  fault : ∀ cause, run.ended = .fault cause →
    run.completions = handler.completions around ∧ handler.faultOf around = some cause

/-- A run that stops at a command has told libril nothing behind it. -/
theorem Refines.cut {α : Type} {ended : RunEnd α} {chan : Channel} {handler : Handler α}
    {around : Surroundings} (done : ∀ result, ended ≠ .done result)
    (fault : ∀ cause, ended ≠ .fault cause) : Refines ⟨ended, chan, [], [], []⟩ handler around :=
  ⟨List.nil_prefix, fun result same => absurd same (done result),
    fun cause same => absurd same (fault cause)⟩

/-- **A run over the channel is a run in the surroundings that the channel makes.** -/
theorem runOn_refines {α : Type} (handler : Handler α) (chan : Channel)
    (environment : Environment) (later : Nat → AtResult) :
    Refines (runOn handler chan environment) handler
      ((runOn handler chan environment).around environment later) := by
  induction handler generalizing chan environment with
  | done result =>
      refine ⟨List.prefix_refl _, fun _ _ => ⟨rfl, rfl⟩, ?_⟩
      intro cause ended
      cases ended
  | fault cause =>
      constructor
      · exact List.prefix_refl _
      · intro result ended
        cases ended
      · intro other ended
        cases ended
        exact ⟨rfl, rfl⟩
  | send command next inductionHypothesis =>
      unfold runOn
      cases sent : (environment.commands 0).send command chan with
      | waiting chan => exact Refines.cut (by simp) (by simp)
      | crashed => exact Refines.cut (by simp) (by simp)
      | returned err response chan =>
          have refines := inductionHypothesis (resultOf err response) chan environment.answered
          rw [← HandlerRun.around_exchanged _ command (resultOf err response)] at refines
          exact ⟨refines.completions, refines.done, refines.fault⟩
  | readState next inductionHypothesis =>
      have refines := inductionHypothesis (environment.states 0) chan environment.looked
      exact ⟨refines.completions, refines.done, refines.fault⟩
  | openQmi next inductionHypothesis =>
      have refines := inductionHypothesis environment.qmi chan environment
      exact ⟨refines.completions, refines.done, refines.fault⟩
  | complete completion next inductionHypothesis =>
      have refines := inductionHypothesis chan environment
      constructor
      · exact List.cons_prefix_cons.mpr ⟨rfl, refines.completions⟩
      · intro result ended
        obtain ⟨same, faultless⟩ := refines.done result ended
        exact ⟨congrArg (completion :: ·) same, faultless⟩
      · intro cause ended
        obtain ⟨same, faulty⟩ := refines.fault cause ended
        exact ⟨congrArg (completion :: ·) same, faulty⟩
  | perform effect next inductionHypothesis =>
      have refines := inductionHypothesis chan environment
      exact ⟨refines.completions, refines.done, refines.fault⟩

end RildHisi.Daemon
