import SupportAssistant.Api.Visibility
import SupportAssistant.Pipeline.Conversation

/-!
# The process and what outlives it

Requests, runs and metric updates interleave event by event, and the process
may die at any moment.  The database and the log outlive it; the runs and the
registry do not.  A run that was lost is never taken up again.

The log is kept as the calls of the hook, each with the ticket that the run
is bound to.  Beside what the service holds, a `World` notes what the clock
was read as, in order, and which ids `POST` has recorded; when the process
dies in between, the answer to one of these is lost.
-/

namespace SupportAssistant.Api.Process

open SupportAssistant.Runtime
open SupportAssistant.Runtime.Ascii
open SupportAssistant.Effects.Outcomes
open SupportAssistant.Tracing.Models
open SupportAssistant.Domain
open SupportAssistant.Observability.Metrics
open SupportAssistant.Storage.Sqlite
open SupportAssistant.Pipeline.Collaborators
open SupportAssistant.Pipeline.Orchestrator
open SupportAssistant.Pipeline.Accounts
open SupportAssistant.Pipeline.RunSpec
open SupportAssistant.Pipeline.Handover
open SupportAssistant.Pipeline.DefaultWiring
open SupportAssistant.Pipeline.Conclusions
open SupportAssistant.Pipeline.Conversation
open SupportAssistant.Api.Routes
open SupportAssistant.Api.Visibility

/-- What a run has concluded: the outcome, and the trace to write with it. -/
abbrev Verdict := Outcome × List TraceStep

/-- How far the run of a ticket has come. -/
inductive Stage where
  /-- Not scheduled, or ended, or lost with a process. -/
  | absent
  | scheduled
  /-- These events are still to happen; no verdict if the run raises. -/
  | running (ahead : List Event) (verdict : Option Verdict)
  | writing (verdict : Verdict)
  /-- The write has returned, and these updates are left to make. -/
  | counting (updates : List MetricUpdate)

structure World where
  database : Database
  /-- The lines on the standard error stream. -/
  log : List (String × TraceStep)
  metrics : MetricRegistry
  stage : String → Stage
  /-- What the clock was read as, oldest first. -/
  readings : List DateTime
  /-- The ids that `POST` has recorded. -/
  accepted : List String

def World.start : World where
  database := Database.empty
  log := []
  metrics := .create
  stage := fun _ => .absent
  readings := []
  accepted := []

/-- The run of a ticket moves on. -/
def World.advance (world : World) (id : String) (stage : Stage) : World :=
  { world with stage := Function.update world.stage id stage }

/-- The clock is read. -/
def World.read (world : World) (now : DateTime) : World :=
  { world with readings := world.readings ++ [now] }

/-- What an event of a run does outside the run. -/
def World.witness (world : World) (id : String) : Event → World
  | .clockRead reading => world.read reading
  | .stepLogged step => { world with log := world.log ++ [(id, step)] }
  | _ => world

/-- The lines that are bound to a ticket. -/
def linesOf (id : String) (log : List (String × TraceStep)) :
    List TraceStep :=
  log.filterMap fun line => if line.1 = id then some line.2 else none

/-- The events of a run, and its verdict if it does not raise. -/
def runEvents (wiring : Wiring) (ticket : Ticket) (before : List Event) :
    List Event × Option Verdict :=
  match conclude wiring ticket (RunState.start before) with
  | .ok outcome state =>
      (state.events.drop before.length, some (outcome, state.recorder.steps))
  | .error _ state => (state.events.drop before.length, none)

section

variable (py : PyText) (pydantic : Pydantic) (time : TimeText)

/-- One moment of the service. -/
inductive Step : World → World → Prop where
  | posted {world : World} {database : Database}
      (payload : CreateTicketRequest) (id : String) (now : Reading)
      (created : create py time (newTicket payload id now) world.database =
        .ok ⟨⟩ database) :
      Step world
        { (world.advance id .scheduled).read now with
          database, accepted := world.accepted ++ [id] }
  | refused {world : World} {database : Database} {exc : Exc}
      (payload : CreateTicketRequest) (id : String) (now : Reading)
      (raised : create py time (newTicket payload id now) world.database =
        .error exc database) :
      Step world { world.read now with database }
  | began {world : World} {id : String} {ticket : Ticket}
      (wiring : Wiring) (templates : DefaultTemplates py wiring)
      (before : List Event) (scheduled : world.stage id = .scheduled)
      (found : getTicket py pydantic time world.database id =
        .ok (some ticket)) :
      Step world
        (world.advance id
          (.running (runEvents wiring ticket before).1
            (runEvents wiring ticket before).2))
  | missed {world : World} {id : String}
      (scheduled : world.stage id = .scheduled)
      (missing : ∀ ticket,
        getTicket py pydantic time world.database id ≠ .ok (some ticket)) :
      Step world (world.advance id .absent)
  | happened {world : World} {id : String} {event : Event}
      {ahead : List Event} {verdict : Option Verdict}
      (runs : world.stage id = .running (event :: ahead) verdict) :
      Step world ((world.witness id event).advance id (.running ahead verdict))
  | concluded {world : World} {id : String} {verdict : Verdict}
      (runs : world.stage id = .running [] (some verdict)) :
      Step world (world.advance id (.writing verdict))
  | escaped {world : World} {id : String}
      (runs : world.stage id = .running [] none) :
      Step world (world.advance id .absent)
  | wrote {world : World} {id : String} {outcome : Outcome}
      {steps : List TraceStep} {database : Database} (now : Reading)
      (writes : world.stage id = .writing (outcome, steps))
      (written : finalise py time now (finaliseCall id outcome steps)
        world.database = .ok ⟨⟩ database) :
      Step world
        { (world.advance id
            (.counting (runUpdates outcome.status outcome.reason
              steps))).read now with
          database }
  /-- Any write may fail, for a reason of its own or of the disk's. -/
  | failed {world : World} {id : String} {verdict : Verdict} (now : Reading)
      (writes : world.stage id = .writing verdict) :
      Step world ((world.advance id .absent).read now)
  | counted {world : World} {id : String} {update : MetricUpdate}
      {updates : List MetricUpdate}
      (counts : world.stage id = .counting (update :: updates)) :
      Step world
        { world.advance id (.counting updates) with
          metrics := world.metrics.update update }
  | done {world : World} {id : String}
      (counts : world.stage id = .counting []) :
      Step world (world.advance id .absent)
  /-- The process dies, and another one opens the same database. -/
  | restarted {world : World} :
      Step world
        { world with metrics := .create, stage := fun _ => .absent }

/-- The worlds that can follow, through any number of moments. -/
abbrev Later : World → World → Prop :=
  Relation.ReflTransGen (Step py pydantic time)

/-- The worlds that the service can be in. -/
def Reachable (world : World) : Prop :=
  Later py pydantic time World.start world

end

theorem accepted_later {py : PyText} {pydantic : Pydantic} {time : TimeText}
    {world next : World} (later : Later py pydantic time world next)
    {id : String} (accepted : id ∈ world.accepted) : id ∈ next.accepted := by
  induction later with
  | refl => exact accepted
  | tail earlier step induction =>
      cases step with
      | posted payload moved now created =>
          exact List.mem_append_left _ induction
      | @happened moved event ahead verdict runs =>
          cases event <;> exact induction
      | _ => exact induction

/-! ## The events of a run -/

/--
Steps as a run records them: numbered from one, timed in UTC, and with nothing
after a final decision.
-/
structure Orderly (steps : List TraceStep) : Prop where
  numbered : steps.map TraceStep.seq = upFrom 1 steps.length
  utc : ∀ step ∈ steps, step.ts.IsUtc
  closing : ∀ earlier step later, steps = earlier ++ step :: later →
    Payload.isFinalDecision step.payload = true → later = []

theorem orderly_nil : Orderly [] where
  numbered := rfl
  utc := by simp
  closing := by simp

/-- What has been recorded so far is orderly too. -/
theorem Orderly.earlier {steps more : List TraceStep}
    (orderly : Orderly (steps ++ more)) : Orderly steps where
  numbered := by
    have numbered := orderly.numbered
    rw [List.map_append, List.length_append, upFrom_add] at numbered
    exact (List.append_inj' numbered (by simp [upFrom])).1
  utc step member := orderly.utc step (List.mem_append_left _ member)
  closing := by
    rintro earlier step later rfl isFinal
    have nothing := orderly.closing earlier step (later ++ more)
      (by simp) isFinal
    exact (List.append_eq_nil_iff.mp nothing).1

/-- No step that is not the last one is a final decision. -/
theorem closing_of_notFinal {earlier : List TraceStep}
    (notFinal : ∀ step ∈ earlier,
      Payload.isFinalDecision step.payload = false)
    {more : List TraceStep} (short : more.length ≤ 1) :
    ∀ before step after, earlier ++ more = before ++ step :: after →
      Payload.isFinalDecision step.payload = true → after = [] := by
  intro before step after same isFinal
  rcases List.append_eq_append_iff.mp same with
    ⟨middle, rfl, rest⟩ | ⟨middle, rfl, rest⟩
  · subst rest
    simp only [List.length_append, List.length_cons] at short
    exact List.length_eq_zero_iff.mp (by omega)
  · cases middle with
    | nil =>
        rw [List.nil_append] at rest
        subst rest
        simp only [List.length_cons] at short
        exact List.length_eq_zero_iff.mp (by omega)
    | cons first others =>
        obtain ⟨rfl, -⟩ := List.cons.inj rest
        rw [notFinal step (by simp)] at isFinal
        simp at isFinal

/-- The run behind the events, as far as the outside sees it. -/
structure Behind (events : List Event) (verdict : Verdict) : Prop where
  concluding : Concluding verdict.1 verdict.2
  hook : loggedSteps events = verdict.2
  clock : clockReadings events = verdict.2.map TraceStep.ts

section

variable (wiring : Wiring) (ticket : Ticket) (before : List Event)

theorem runEvents_behind
    {py : PyText} {wiring : Wiring} (templates : DefaultTemplates py wiring)
    (ticket : Ticket) (before : List Event) {verdict : Verdict}
    (concluded : (runEvents wiring ticket before).2 = some verdict) :
    Behind (runEvents wiring ticket before).1 verdict := by
  unfold runEvents at concluded ⊢
  cases ran : conclude wiring ticket (RunState.start before) with
  | error exc state => simp [ran] at concluded
  | ok outcome state =>
      simp only [ran, Option.some.injEq] at concluded ⊢
      subst concluded
      rcases returned_of_ok (conclude_ends wiring ticket before) ran with
        ⟨account, -, -, recorded⟩
      rcases traceOf_ran recorded with ⟨events, added, -, trace⟩
      have same : state.events.drop before.length = events := by
        rw [added, List.drop_left]
      rw [same]
      exact
        { concluding := concluding_of_conclude templates ran
          hook := trace.hook
          clock := trace.clock }

/-- The steps that a run records, whether or not it raises, are orderly. -/
theorem runEvents_orderly :
    Orderly (loggedSteps (runEvents wiring ticket before).1) := by
  -- what is left to show of either ending
  have orderly : ∀ {state : RunState} {payloads more : List Payload},
      finalState (conclude wiring ticket) (RunState.start before) = state →
        (∀ payload ∈ payloads, Payload.isFinalDecision payload = false) →
          more.length ≤ 1 → ∀ {exchanges : List Event},
            Ran (RunState.start before) state (payloads ++ more)
                exchanges →
              Orderly (loggedSteps (state.events.drop before.length)) := by
    intro state payloads more final notFinal short exchanges recorded
    rcases traceOf_ran recorded with ⟨events, added, -, trace⟩
    have same : state.events.drop before.length = events := by
      rw [added, List.drop_left]
    have times := clockReadings_utc wiring ticket before final
    rw [same, trace.clock] at times
    rw [same, trace.hook]
    rcases List.map_eq_append_iff.mp trace.payloads with
      ⟨earlier, ending, split, these, those⟩
    refine
      { numbered := trace.numbered
        utc := fun step member => times _ (List.mem_map_of_mem member)
        closing := ?_ }
    rw [split]
    apply closing_of_notFinal
    · intro step member
      exact notFinal _ (these ▸ List.mem_map_of_mem member)
    · have sameLength := congrArg List.length those
      rw [List.length_map] at sameLength
      omega
  unfold finalState at orderly
  unfold runEvents
  cases ran : conclude wiring ticket (RunState.start before) with
  | error exc state =>
      rcases raised_of_error (conclude_ends wiring ticket before) ran with
        ⟨account, -, -, recorded⟩
      rw [ran] at orderly
      rw [← List.append_nil account.payloads] at recorded
      exact orderly rfl (payloads_notFinal account) (by simp) recorded
  | ok outcome state =>
      rcases returned_of_ok (conclude_ends wiring ticket before) ran with
        ⟨account, -, -, recorded⟩
      rw [ran] at orderly
      exact orderly rfl (payloads_notFinal account) (by simp) recorded

end

/-! ## Lines -/

@[simp]
theorem linesOf_nil (id : String) : linesOf id [] = [] := rfl

theorem linesOf_snoc (id : String) (log : List (String × TraceStep))
    (line : String × TraceStep) :
    linesOf id (log ++ [line]) =
      linesOf id log ++ if line.1 = id then [line.2] else [] := by
  simp only [linesOf, List.filterMap_append]
  by_cases own : line.1 = id <;> simp [own]

@[simp]
theorem advance_stage_same (world : World) (id : String) (stage : Stage) :
    (world.advance id stage).stage id = stage :=
  Function.update_self ..

theorem advance_stage_other (world : World) {id other : String}
    (different : other ≠ id) (stage : Stage) :
    (world.advance id stage).stage other = world.stage other :=
  Function.update_of_ne different ..

/-! ## A run that is left alone -/

/-- What the events of a run do outside the run, one after the other. -/
def World.witnessAll (world : World) (id : String) (events : List Event) :
    World :=
  events.foldl (fun world event => world.witness id event) world

@[simp]
theorem advance_advance (world : World) (id : String)
    (stage stage' : Stage) :
    (world.advance id stage).advance id stage' = world.advance id stage' := by
  simp [World.advance, Function.update_idem]

theorem witness_advance (world : World) (id : String) (event : Event)
    (stage : Stage) :
    (world.advance id stage).witness id event =
      (world.witness id event).advance id stage := by
  cases event <;> rfl

theorem witnessAll_advance (world : World) (id : String)
    (events : List Event) (stage : Stage) :
    (world.advance id stage).witnessAll id events =
      (world.witnessAll id events).advance id stage := by
  induction events generalizing world with
  | nil => rfl
  | cons event events induction =>
      exact (congrArg (World.witnessAll · id events)
        (witness_advance world id event stage)).trans (induction _)

/-- Nothing stops a run that does not raise from coming to its write. -/
theorem run_alone (py : PyText) (pydantic : Pydantic) (time : TimeText)
    {world : World} {id : String} {events : List Event} {verdict : Verdict}
    (runs : world.stage id = .running events (some verdict)) :
    Later py pydantic time world
      ((world.witnessAll id events).advance id (.writing verdict)) := by
  induction events generalizing world with
  | nil => exact .single (.concluded runs)
  | cons event events induction =>
      have rest := induction
        (advance_stage_same (world.witness id event) id
          (.running events (some verdict)))
      rw [witnessAll_advance, advance_advance] at rest
      exact .head (.happened runs) rest

/-! ## A ticket that is posted, run and written -/

def postedWorld : World :=
  { (World.start.advance "t1" .scheduled).read atEpoch with
    database := postedDatabase, accepted := ["t1"] }

/-- The service when the run of its one ticket has been written. -/
def settledWorld : World :=
  { ((postedWorld.witnessAll "t1"
        (runEvents quittingWiring postedTicket []).1).advance "t1"
      (.counting (runUpdates quittingOutcome.status quittingOutcome.reason
        quittingState.recorder.steps))).read atEpoch with
    database := quitDatabase }

theorem settledWorld_database : settledWorld.database = quitDatabase := by
  simp only [settledWorld]

theorem postedWorld_reached :
    Reachable asciiText plainPydantic tallyTime postedWorld :=
  .single (.posted invoiceRequest "t1" atEpoch rfl)

theorem settledWorld_later :
    Later asciiText plainPydantic tallyTime postedWorld settledWorld := by
  apply Relation.ReflTransGen.head
    (@Step.began asciiText plainPydantic tallyTime postedWorld "t1"
      postedTicket quittingWiring ⟨rfl, fun _ _ => rfl⟩ [] rfl rfl)
  apply Relation.ReflTransGen.tail
    (run_alone asciiText plainPydantic tallyTime
      (advance_stage_same postedWorld "t1" _))
  rw [witnessAll_advance, advance_advance]
  have writes := advance_stage_same
    (postedWorld.witnessAll "t1"
      (runEvents quittingWiring postedTicket []).1) "t1"
    (.writing (quittingOutcome, quittingState.recorder.steps))
  have written := @Step.wrote asciiText plainPydantic tallyTime _ "t1"
    quittingOutcome quittingState.recorder.steps quitDatabase atEpoch writes
    quitDatabase_written
  rw [advance_advance] at written
  exact written

end SupportAssistant.Api.Process
