import SupportAssistant.Api.Chronicle
import SupportAssistant.Api.Isolation
import SupportAssistant.Guardrails.Limits

/-!
# What a ticket may cost

A ticket has one run, however often the process is restarted, and the cap
bounds it.  So there is a bound on what the service ever does for a ticket:
how often it asks the model for a step, how many tools it calls, and how many
lines it writes.
-/

namespace SupportAssistant.Api.Budget

open SupportAssistant.Runtime
open SupportAssistant.Runtime.Ascii
open SupportAssistant.Effects.Outcomes
open SupportAssistant.Tracing.Models
open SupportAssistant.Domain
open SupportAssistant.Guardrails.Limits
open SupportAssistant.Storage.Sqlite
open SupportAssistant.Storage.Codec
open SupportAssistant.Pipeline.Collaborators
open SupportAssistant.Pipeline.Orchestrator
open SupportAssistant.Pipeline.Accounts
open SupportAssistant.Pipeline.RunSpec
open SupportAssistant.Pipeline.Handover
open SupportAssistant.Api.Routes
open SupportAssistant.Api.Visibility
open SupportAssistant.Api.Process
open SupportAssistant.Api.Lifecycle
open SupportAssistant.Api.ServedViews
open SupportAssistant.Api.Deployment
open SupportAssistant.Api.Isolation

/-! ## What one run records -/

/-- The model was asked for a step. -/
def asksModel : Payload → Bool
  | .llmDecision _ _ _ => true
  | _ => false

/-- A tool was called. -/
def callsTool : Payload → Bool
  | .toolCall _ _ => true
  | _ => false

/-- The steps that a run under the cap can take. -/
structure Within (cap : Nat) (payloads : List Payload) : Prop where
  decisions : payloads.countP asksModel ≤ cap
  calls : payloads.countP callsTool ≤ cap
  steps : payloads.length ≤ 3 * cap + 2

theorem Within.sublist {cap : Nat} {payloads fewer : List Payload}
    (within : Within cap payloads) (part : fewer.Sublist payloads) :
    Within cap fewer where
  decisions := (part.countP_le).trans within.decisions
  calls := (part.countP_le).trans within.calls
  steps := part.length_le.trans within.steps

theorem ending_within (iteration : Int) (ending : Ending) :
    (ending.payloads iteration).countP asksModel ≤ 1 ∧
      (ending.payloads iteration).countP callsTool ≤ 1 ∧
        (ending.payloads iteration).length ≤ 3 := by
  cases ending <;>
    simp [Ending.payloads, List.countP_cons, asksModel, callsTool]

theorem round_takes (iteration : Int) (round : Round) :
    (roundPayloads iteration round).countP asksModel = 1 ∧
      (roundPayloads iteration round).countP callsTool = 1 ∧
        (roundPayloads iteration round).length = 3 :=
  ⟨rfl, rfl, rfl⟩

/-- Every iteration takes a decision, a call and a result at most. -/
theorem loop_within {wiring : Wiring} {ticket : Ticket}
    {history : List Observation} {left : Nat} {rounds : List Round}
    {ending : Ending}
    (ran : Looped wiring ticket history left rounds ending)
    (iteration : Int) :
    (loopPayloads iteration rounds ending).countP asksModel ≤ left ∧
      (loopPayloads iteration rounds ending).countP callsTool ≤ left ∧
        (loopPayloads iteration rounds ending).length ≤ 3 * left := by
  induction ran generalizing iteration with
  | capped => exact ⟨Nat.le_refl 0, Nat.le_refl 0, Nat.le_refl 0⟩
  | round decided answered summarised later induction =>
      rcases induction (iteration + 1) with ⟨decisions, calls, steps⟩
      rcases round_takes iteration _ with ⟨oneDecision, oneCall, threeSteps⟩
      rw [loopPayloads, List.countP_append, List.countP_append,
        List.length_append, oneDecision, oneCall, threeSteps]
      exact ⟨by omega, by omega, by omega⟩
  | _ =>
      have last := ending_within iteration
      exact ⟨(last _).1.trans (by omega), (last _).2.1.trans (by omega),
        (last _).2.2.trans (by omega)⟩

theorem account_within {wiring : Wiring} {ticket : Ticket}
    {account : Account} (holds : account.Holds wiring ticket)
    {more : List Payload} (short : more.length ≤ 1)
    (closing : ∀ payload ∈ more,
      asksModel payload = false ∧ callsTool payload = false) :
    Within wiring.maxIterations.toNat (account.payloads ++ more) := by
  have none : more.countP asksModel = 0 ∧ more.countP callsTool = 0 := by
    constructor
    · exact List.countP_eq_zero.mpr fun payload member => by
        simp [(closing payload member).1]
    · exact List.countP_eq_zero.mpr fun payload member => by
        simp [(closing payload member).2]
  cases holds with
  | classifyRaised asked =>
      constructor
      · simp [Account.payloads, none.1]
      · simp [Account.payloads, none.2]
      · simp only [Account.payloads, List.nil_append]
        omega
  | unsupported asked unknown =>
      constructor
      · simp [Account.payloads, none.1, classificationPayload, asksModel]
      · simp [Account.payloads, none.2, classificationPayload, callsTool]
      · simp only [Account.payloads, List.length_append, List.length_cons,
          List.length_nil]
        omega
  | looped asked known ran =>
      rcases loop_within ran 1 with ⟨decisions, calls, steps⟩
      constructor
      · simpa [Account.payloads, none.1, classificationPayload, asksModel]
          using decisions
      · simpa [Account.payloads, none.2, classificationPayload, callsTool]
          using calls
      · simp only [Account.payloads, List.length_append, List.length_cons]
        omega

/-- Whether or not a run raises, what it logs is within its cap. -/
theorem runEvents_within (wiring : Wiring) (ticket : Ticket)
    (before : List Event) :
    Within wiring.maxIterations.toNat
      ((loggedSteps (runEvents wiring ticket before).1).map
        TraceStep.payload) := by
  have within : ∀ {state : RunState} {account : Account}
      {more : List Payload} {exchanges : List Event},
      account.Holds wiring ticket → more.length ≤ 1 →
        (∀ payload ∈ more,
          asksModel payload = false ∧ callsTool payload = false) →
          Ran (RunState.start before) state (account.payloads ++ more)
              exchanges →
            Within wiring.maxIterations.toNat
              ((loggedSteps (state.events.drop before.length)).map
                TraceStep.payload) := by
    intro state account more exchanges holds short closing ran
    rcases traceOf_ran ran with ⟨events, added, -, trace⟩
    rw [added, List.drop_left, trace.hook, trace.payloads]
    exact account_within holds short closing
  unfold runEvents
  cases ran : conclude wiring ticket (RunState.start before) with
  | error exc state =>
      rcases raised_of_error (conclude_ends wiring ticket before) ran with
        ⟨account, holds, -, recorded⟩
      rw [← List.append_nil account.payloads] at recorded
      exact within holds (by simp) (by simp) recorded
  | ok outcome state =>
      rcases returned_of_ok (conclude_ends wiring ticket before) ran with
        ⟨account, holds, -, recorded⟩
      exact @within state account [finalPayload outcome] _ holds
        (Nat.le_refl 1) (by simp [finalPayload, asksModel, callsTool])
        recorded

/-! ## The lines of a ticket are those of one run -/

/-- What is logged and what is still to be logged of one run. -/
def LogsAll (deployed : Wiring → Prop) (lines ahead : List TraceStep) :
    Prop :=
  ∃ wiring ticket before, deployed wiring ∧
    lines ++ ahead = loggedSteps (runEvents wiring ticket before).1

/-- Nothing is logged of a ticket that a single run has not logged. -/
structure OneRun (deployed : Wiring → Prop) (world : World) (id : String) :
    Prop where
  running : ∀ ahead verdict, world.stage id = .running ahead verdict →
    LogsAll deployed (linesOf id world.log) (loggedSteps ahead)
  ever : linesOf id world.log = [] ∨
    ∃ ahead, LogsAll deployed (linesOf id world.log) ahead

section

variable {py : PyText} {pydantic : Pydantic} {time : TimeText}
variable {deployed : Wiring → Prop} {world next : World} {id : String}

theorem OneRun.same (oneRun : OneRun deployed world id)
    (log : next.log = world.log)
    (stage : next.stage id = world.stage id ∨
      ∀ ahead verdict, next.stage id ≠ .running ahead verdict) :
    OneRun deployed next id where
  running ahead verdict runs := by
    rw [log]
    rcases stage with same | other
    · exact oneRun.running ahead verdict (same.symm.trans runs)
    · exact absurd runs (other ahead verdict)
  ever := by
    rw [log]
    exact oneRun.ever

/-- A ticket moves on without a line, and not to the start of a run. -/
theorem OneRun.advanced (oneRun : ∀ id, OneRun deployed world id)
    {moved : String} {stage : Stage} (log : next.log = world.log)
    (stages : next.stage = Function.update world.stage moved stage)
    (other : ∀ ahead verdict, stage ≠ .running ahead verdict) :
    ∀ id, OneRun deployed next id := by
  intro id
  apply (oneRun id).same log
  rw [stages]
  by_cases same : id = moved
  · subst same
    rw [Function.update_self]
    exact Or.inr other
  · rw [Function.update_of_ne same]
    exact Or.inl rfl

theorem oneRun_began (lawful : Lawful py time world)
    (oneRun : ∀ id, OneRun deployed world id) {moved : String}
    (scheduled : world.stage moved = .scheduled)
    {events : List Event} {verdict : Option Verdict}
    (begins : ∃ wiring ticket before, deployed wiring ∧
      (events, verdict) = runEvents wiring ticket before) :
    ∀ id, OneRun deployed (world.advance moved (.running events verdict))
      id := by
  rcases (lawful.stands moved).of_scheduled scheduled with
    ⟨payload, created, facts, -⟩
  have silent : linesOf moved world.log = [] := congrArg Facts.lines facts
  intro id
  by_cases same : id = moved
  · subst same
    refine ⟨?_, Or.inl silent⟩
    intro ahead concluded runs
    rw [advance_stage_same, Stage.running.injEq] at runs
    rcases begins with ⟨wiring, ticket, before, isDeployed, ran⟩
    refine ⟨wiring, ticket, before, isDeployed, ?_⟩
    change linesOf id world.log ++ _ = _
    rw [silent, List.nil_append, ← runs.1, ← ran]
  · exact (oneRun id).same rfl
      (Or.inl (advance_stage_other world same _))

theorem oneRun_happened (oneRun : ∀ id, OneRun deployed world id)
    {moved : String} {event : Event} {ahead : List Event}
    {verdict : Option Verdict}
    (runs : world.stage moved = .running (event :: ahead) verdict) :
    ∀ id, OneRun deployed
      ((world.witness moved event).advance moved (.running ahead verdict))
      id := by
  have logged : ∀ id, linesOf id (world.witness moved event).log =
      linesOf id world.log ++
        if moved = id then loggedSteps [event] else [] := by
    intro id
    cases event <;>
      simp [World.witness, World.read, loggedSteps, linesOf_snoc]
  have stages : (world.witness moved event).stage = world.stage := by
    cases event <;> rfl
  intro id
  by_cases same : moved = id
  · subst same
    have all : LogsAll deployed
        (linesOf moved (world.witness moved event).log)
        (loggedSteps ahead) := by
      rcases (oneRun moved).running _ _ runs with
        ⟨wiring, ticket, before, isDeployed, whole⟩
      refine ⟨wiring, ticket, before, isDeployed, ?_⟩
      rw [logged, if_pos rfl, ← whole, List.append_assoc, loggedSteps,
        loggedSteps, loggedSteps, ← List.filterMap_append]
      rfl
    refine ⟨?_, Or.inr ⟨_, all⟩⟩
    intro further concluded still
    rw [advance_stage_same, Stage.running.injEq] at still
    rw [← still.1]
    exact all
  · have kept : linesOf id (world.witness moved event).log =
        linesOf id world.log := by
      rw [logged, if_neg same, List.append_nil]
    have stage : ((world.witness moved event).advance moved
        (.running ahead verdict)).stage id = world.stage id :=
      (advance_stage_other _ (Ne.symm same) _).trans (congrFun stages id)
    constructor
    · intro further concluded still
      change LogsAll deployed (linesOf id (world.witness moved event).log) _
      rw [kept]
      exact (oneRun id).running _ _ (stage.symm.trans still)
    · change linesOf id (world.witness moved event).log = [] ∨ _
      change _ ∨ ∃ ahead, LogsAll deployed
        (linesOf id (world.witness moved event).log) ahead
      rw [kept]
      exact (oneRun id).ever

theorem oneRun_step (lawful : Lawful py time world)
    (moment : DeployedStep py pydantic time deployed world next)
    (oneRun : ∀ id, OneRun deployed world id) :
    ∀ id, OneRun deployed next id := by
  have begins := moment.begins
  cases moment.step with
  | began wiring templates before scheduled found =>
      apply oneRun_began lawful oneRun scheduled
      rcases begins _ _ _ scheduled (advance_stage_same world _ _) with
        ⟨handed, ticket, earlier, isDeployed, -, -, ran⟩
      exact ⟨handed, ticket, earlier, isDeployed, ran⟩
  | happened runs => exact oneRun_happened oneRun runs
  | refused payload id now raised =>
      exact fun id => (oneRun id).same rfl (Or.inl rfl)
  | restarted =>
      exact fun id => (oneRun id).same rfl (Or.inr (by simp))
  | _ => exact OneRun.advanced oneRun rfl rfl (by simp)

/-- However often the process dies, a ticket has the lines of one run. -/
theorem lines_of_one_run
    (reached : Deployed py pydantic time deployed world) (id : String) :
    OneRun deployed world id := by
  revert id
  induction reached with
  | refl =>
      intro id
      exact ⟨fun _ _ runs => absurd runs (by simp [World.start]), Or.inl rfl⟩
  | tail earlier moment induction =>
      exact oneRun_step
        (reachable_lawful (Deployed.reachable earlier)) moment induction

theorem storedPayload_asks (payload : Payload) :
    asksModel (storedPayload payload) = asksModel payload ∧
      callsTool (storedPayload payload) = callsTool payload := by
  cases payload <;> exact ⟨rfl, rfl⟩

theorem Within.stored {cap : Nat} {payloads : List Payload}
    (within : Within cap payloads) :
    Within cap (payloads.map storedPayload) where
  decisions := by
    rw [List.countP_map]
    refine le_trans (le_of_eq ?_) within.decisions
    exact List.countP_congr fun payload _ => by
      rw [Function.comp, (storedPayload_asks payload).1]
  calls := by
    rw [List.countP_map]
    refine le_trans (le_of_eq ?_) within.calls
    exact List.countP_congr fun payload _ => by
      rw [Function.comp, (storedPayload_asks payload).2]
  steps := by
    rw [List.length_map]
    exact within.steps

/--
A service that has started has a positive cap; and whatever its runs do and
however often it dies, the log and the trace of every ticket have no more
decisions and no more tool calls than the cap, and at most three steps for
each of its iterations and two more.
-/
theorem no_ticket_exceeds_the_cap {environ : String → Option String}
    {cap : Int} (configured : maxIterations py environ = .ok cap)
    (reached : Deployed py pydantic time
      (fun wiring => wiring.maxIterations = cap) world) (id : String) :
    1 ≤ cap ∧
      Within cap.toNat ((linesOf id world.log).map TraceStep.payload) ∧
        ∀ view,
          readTicket py pydantic time world.database id =
              .ok (some view) →
            Within cap.toNat (view.trace.map TraceStep.payload) := by
  have lines : Within cap.toNat
      ((linesOf id world.log).map TraceStep.payload) := by
    rcases (lines_of_one_run reached id).ever with
      empty | ⟨ahead, wiring, ticket, before, rfl, whole⟩
    · rw [empty]
      exact ⟨Nat.zero_le _, Nat.zero_le _, Nat.zero_le _⟩
    · have within := runEvents_within wiring ticket before
      rw [← whole, List.map_append] at within
      exact within.sublist (List.sublist_append_left _ _)
  refine ⟨maxIterations_positive configured, lines, ?_⟩
  intro view read
  cases served_of_reachable reached.reachable id with
  | unknown found silent isRead =>
      rw [read] at isRead
      simp at isRead
  | waiting payload created found inOrder isRead =>
      obtain rfl := Option.some.inj (Except.ok.inj (read.symm.trans isRead))
      exact ⟨Nat.zero_le _, Nat.zero_le _, Nat.zero_le _⟩
  | settled payload created updated verdict kept logged settles isRead =>
      obtain rfl := Option.some.inj (Except.ok.inj (read.symm.trans isRead))
      rw [logged] at lines
      have stored := lines.stored
      rw [List.map_map] at stored
      change Within cap.toNat
        ((verdict.2.map (storedStep time)).map TraceStep.payload)
      rw [List.map_map]
      exact stored

/-- How many decisions and how many tool calls a served trace has. -/
def askedOf (database : Database) (id : String) : Option (Nat × Nat) :=
  match readTicket asciiText plainPydantic tallyTime database id with
  | .ok (some view) =>
      some
        ((view.trace.map TraceStep.payload).countP asksModel,
          (view.trace.map TraceStep.payload).countP callsTool)
  | _ => none

/-- A question that takes three decisions and two tool calls. -/
theorem invoice_within_the_cap :
    ∃ world,
      askedOf (World.database world) "t1" = some (3, 2) ∧ (1 : Int) ≤ 5 ∧
        Within (5 : Int).toNat
            ((linesOf "t1" (World.log world)).map TraceStep.payload) ∧
          ∀ view,
            readTicket asciiText plainPydantic tallyTime
                (World.database world) "t1" = .ok (some view) →
              Within (5 : Int).toNat
                (view.trace.map TraceStep.payload) := by
  have asked :
      (answeredAlone invoiceRequest "t1").bind
          (fun answer => askedOf answer.2 "t1") = some (3, 2) := by
    decide +kernel
  rcases Option.bind_eq_some_iff.mp asked with ⟨answer, alone, counted⟩
  rcases @exists_alone (fun wiring => wiring.maxIterations = 5) rfl _ _ _
    alone with ⟨world, ticket, reached, same, -⟩
  exact ⟨world, by rw [same, counted],
    @no_ticket_exceeds_the_cap asciiText _ _ _ (fun _ => none) 5 rfl reached
      "t1"⟩

end

end SupportAssistant.Api.Budget
