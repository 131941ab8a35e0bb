import SupportAssistant.Api.Deployment
import SupportAssistant.Pipeline.CustomerWords
import SupportAssistant.Pipeline.Determinism

/-!
# What an answer depends on

A run may read the past of the service, and shares the database with every
other run.  Where the collaborators answer without regard to the past, an
answer depends on the request alone; under the deterministic model it depends
on the customer and on how the words are classified.
-/

namespace SupportAssistant.Api.Isolation

open SupportAssistant.Runtime
open SupportAssistant.Runtime.Ascii
open SupportAssistant.Tracing.Models
open SupportAssistant.Domain
open SupportAssistant.Llm.Fake (classifyIntent decideNextStep)
open SupportAssistant.Llm.Templates
open SupportAssistant.Tools.Loaders
open SupportAssistant.Tools.Registry
open SupportAssistant.Storage.Sqlite
open SupportAssistant.Storage.Codec
open SupportAssistant.Pipeline.Collaborators
open SupportAssistant.Pipeline.Orchestrator
open SupportAssistant.Pipeline.Accounts
open SupportAssistant.Pipeline.RunSpec
open SupportAssistant.Pipeline.DefaultWiring
open SupportAssistant.Pipeline.Determinism
open SupportAssistant.Pipeline.CustomerWords
open SupportAssistant.Pipeline.Scripted
open SupportAssistant.Api.Routes
open SupportAssistant.Api.Process
open SupportAssistant.Api.ServedViews
open SupportAssistant.Api.Deployment

/-- What is stored of a ticket is what these answers make of it. -/
structure Answered (answers : Answers) (ticket : Ticket) : Prop where
  outcome : ∃ detail,
    answers.account.outcome answers.maxIterations =
      .ok ⟨ticket.status, ticket.reply, ticket.handoffReason, detail⟩ ∧
    ticket.trace.map TraceStep.payload =
      (answers.account.payloads ++
        [Payload.finalDecision ticket.status ticket.handoffReason
          detail]).map
          storedPayload
  numbered : ticket.trace.map TraceStep.seq = upFrom 1 ticket.trace.length

/-- The same answer, at whatever time it was given. -/
structure SameAnswer (first second : Ticket) : Prop where
  status : second.status = first.status
  reply : second.reply = first.reply
  handoffReason : second.handoffReason = first.handoffReason
  payloads : second.trace.map TraceStep.payload =
    first.trace.map TraceStep.payload
  places : second.trace.map TraceStep.seq = first.trace.map TraceStep.seq

theorem sameAnswer_of_answered {answers : Answers} {first second : Ticket}
    (answered : Answered answers first)
    (answered' : Answered answers second) : SameAnswer first second := by
  rcases answered.outcome with ⟨detail, concluded, payloads⟩
  rcases answered'.outcome with ⟨detail', concluded', payloads'⟩
  have same := Except.ok.inj (concluded'.symm.trans concluded)
  injection same with status reply reason sameDetail
  have recorded : second.trace.map TraceStep.payload =
      first.trace.map TraceStep.payload := by
    rw [payloads, payloads', status, reason, sameDetail]
  have lengths := congrArg List.length recorded
  rw [List.length_map, List.length_map] at lengths
  exact
    { status
      reply
      handoffReason := reason
      payloads := recorded
      places := by rw [answered.numbered, answered'.numbered, lengths] }

section

variable {py : PyText} {pydantic : Pydantic} {time : TimeText}
variable {deployed : Wiring → Prop} {world : World} {id : String}
variable {answersTo : Ticket → Answers}

/--
If the answers to a ticket are settled by its words, then so is what is
stored of it.
-/
theorem answered_of_deployed
    (gives : ∀ wiring, deployed wiring → DefaultTemplates py wiring →
      ∀ ticket, Gives wiring ticket (answersTo ticket))
    (words : ∀ ticket ticket' : Ticket, ticket'.userId = ticket.userId →
      ticket'.subject = ticket.subject → ticket'.body = ticket.body →
        answersTo ticket' = answersTo ticket)
    (reached : Deployed py pydantic time deployed world) {ticket : Ticket}
    (read : getTicket py pydantic time world.database id =
      .ok (some ticket))
    (ended : ticket.status ≠ .processing) :
    Answered (answersTo ticket) ticket := by
  rcases (deployed_sourced reached id).stored ticket read ended with
    ⟨payload, created, updated, ⟨outcome, steps⟩, concluding, rfl, wiring,
      before, isDeployed, templates, concluded⟩
  unfold runEvents at concluded
  cases ran : conclude wiring (newTicket payload id created)
      (RunState.start before) with
  | error exc state => simp [ran] at concluded
  | ok result state =>
      simp only [ran, Option.some.injEq, Prod.mk.injEq] at concluded
      rcases concluded with ⟨rfl, rfl⟩
      rcases conclude_determined
        (gives wiring isDeployed templates (newTicket payload id created))
        ran with ⟨outcome, payloads, numbered⟩
      have same : answersTo (newTicket payload id created) =
          answersTo (settledTicket time payload id created updated
            concluding) :=
        words _ _ rfl rfl rfl
      rw [same] at outcome payloads
      constructor
      · refine ⟨result.detail, outcome, ?_⟩
        change ((state.recorder.steps).map (storedStep time)).map
          TraceStep.payload = _
        change _ = ((answersTo _).account.payloads ++
          [finalPayload result]).map storedPayload
        rw [← payloads, List.map_map, List.map_map]
        rfl
      · change ((state.recorder.steps).map (storedStep time)).map
          TraceStep.seq = upFrom 1 ((state.recorder.steps).map _).length
        rw [List.map_map, List.length_map, ← numbered]
        rfl

/-! ## The deterministic deployment -/

/-- The deterministic model over the registry, with any clock. -/
structure Default (pydantic : Pydantic) (fixtures : Fixtures) (cap : Int)
    (wiring : Wiring) : Prop where
  faked : Faked wiring
  pydantic : wiring.pydantic = pydantic
  registry : OverRegistry (fun _ => fixtures) wiring
  maxIterations : wiring.maxIterations = cap

/-- What its collaborators answer to a ticket. -/
def defaultAnswers (py : PyText) (pydantic : Pydantic) (fixtures : Fixtures)
    (cap : Int) (ticket : Ticket) : Answers where
  py := py
  intent := .ok (classifyIntent py ticket)
  step := decideNextStep py ticket
  tool := run py pydantic fixtures
  template := fun name => .ok (specFor py name)
  maxIterations := cap

variable {fixtures : Fixtures} {cap : Int}

theorem default_gives (wiring : Wiring)
    (default : Default pydantic fixtures cap wiring)
    (templates : DefaultTemplates py wiring) (ticket : Ticket) :
    Gives wiring ticket (defaultAnswers py pydantic fixtures cap ticket) where
  py := templates.1
  intent events := by
    rw [default.faked, templates.1]
    rfl
  step events history := by
    rw [default.faked, templates.1]
    rfl
  tool events tool args := by
    rw [default.registry, templates.1, default.pydantic]
    rfl
  template := templates.2
  maxIterations := default.maxIterations

theorem defaultAnswers_congr {ticket ticket' : Ticket}
    (owner : ticket'.userId = ticket.userId)
    (classified : classifyIntent py ticket' = classifyIntent py ticket) :
    defaultAnswers py pydantic fixtures cap ticket' =
      defaultAnswers py pydantic fixtures cap ticket := by
  have intent := congrArg Classification.intent classified
  simp only [defaultAnswers, classified,
    show decideNextStep py ticket' = decideNextStep py ticket from
      funext (decideNextStep_congr owner intent)]

/--
Under the deterministic model, two tickets of one customer that are classified
alike get the same answer with the same trace: in whatever worlds, among
whatever other tickets, after whatever crashes, and at whatever times.
-/
theorem classified_alike_answered_alike {world' : World} {id' : String}
    (reached : Deployed py pydantic time (Default pydantic fixtures cap)
      world)
    (reached' : Deployed py pydantic time (Default pydantic fixtures cap)
      world')
    {ticket ticket' : Ticket}
    (read : getTicket py pydantic time world.database id =
      .ok (some ticket))
    (read' : getTicket py pydantic time world'.database id' =
      .ok (some ticket'))
    (ended : ticket.status ≠ .processing)
    (ended' : ticket'.status ≠ .processing)
    (owner : ticket'.userId = ticket.userId)
    (classified : classifyIntent py ticket' = classifyIntent py ticket) :
    SameAnswer ticket ticket' := by
  have words : ∀ ticket ticket' : Ticket, ticket'.userId = ticket.userId →
      ticket'.subject = ticket.subject → ticket'.body = ticket.body →
        defaultAnswers py pydantic fixtures cap ticket' =
          defaultAnswers py pydantic fixtures cap ticket := by
    intro ticket ticket' owner subject body
    apply defaultAnswers_congr owner
    simp only [classifyIntent, subject, body]
  have answered := answered_of_deployed default_gives words reached read
    ended
  have answered' := answered_of_deployed default_gives words reached' read'
    ended'
  rw [defaultAnswers_congr owner classified] at answered'
  exact sameAnswer_of_answered answered answered'

end

/-! ## Two greetings -/

/-- A ticket of two words, which are no keywords. -/
def greeting (word : String) (isWord : bodyValid word = true) :
    CreateTicketRequest where
  userId := "u_anna"
  subject := "Hi"
  body := word
  userIdOk := waitingTicket.userIdOk
  subjectOk := rfl
  bodyOk := isWord

def hello : CreateTicketRequest := greeting "Hello" rfl

def goodbye : CreateTicketRequest := greeting "Bye" rfl

theorem fakeWiring_default :
    Default plainPydantic (sampleFixtures "42.10") 5 fakeWiring where
  faked := fakeWiring_faked
  pydantic := rfl
  registry := sampleWiring_overRegistry _ _
  maxIterations := rfl

/-- The verdict on a ticket, and the database when it is written there alone. -/
def answeredAlone (payload : CreateTicketRequest) (id : String) :
    Option (Verdict × Database) :=
  let ticket := newTicket payload id atEpoch
  match create asciiText tallyTime ticket Database.empty,
      (runEvents fakeWiring ticket []).2 with
  | .ok _ posted, some verdict =>
      match finalise asciiText tallyTime atEpoch
          (finaliseCall id verdict.1 verdict.2) posted with
      | .ok _ database => some (verdict, database)
      | .error _ _ => none
  | _, _ => none

theorem exists_alone {deployed : Wiring → Prop}
    (isDeployed : deployed fakeWiring) {payload : CreateTicketRequest}
    {id : String} {answer : Verdict × Database}
    (alone : answeredAlone payload id = some answer) :
    ∃ world ticket,
      Deployed asciiText plainPydantic tallyTime deployed world ∧
        world.database = answer.2 ∧
          getTicket asciiText plainPydantic tallyTime world.database id =
              .ok (some ticket) ∧
            ticket.status ≠ .processing ∧ ticket.userId = payload.userId ∧
              ticket.subject = payload.subject ∧
                ticket.body = payload.body := by
  unfold answeredAlone at alone
  dsimp only at alone
  split at alone
  · rename_i posted verdict created ran
    split at alone
    · rename_i database written
      obtain rfl := Option.some.inj alone
      exact exists_answered isDeployed ⟨rfl, fun _ _ => rfl⟩ created
        ran written
    · simp at alone
  · simp at alone

theorem greetings_answered_alike :
    ∃ world world' ticket ticket',
      getTicket asciiText plainPydantic tallyTime (World.database world)
          "t1" = .ok (some ticket) ∧
        getTicket asciiText plainPydantic tallyTime (World.database world')
            "t2" = .ok (some ticket') ∧
          ticket'.body ≠ ticket.body ∧ SameAnswer ticket ticket' := by
  have answered : (answeredAlone hello "t1").isSome = true := by
    decide +kernel
  have answered' : (answeredAlone goodbye "t2").isSome = true := by
    decide +kernel
  rcases Option.isSome_iff_exists.mp answered with ⟨answer, alone⟩
  rcases Option.isSome_iff_exists.mp answered' with ⟨answer', alone'⟩
  rcases exists_alone fakeWiring_default alone with
    ⟨world, ticket, reached, -, read, ended, owner, subject, body⟩
  rcases exists_alone fakeWiring_default alone' with
    ⟨world', ticket', reached', -, read', ended', owner', subject', body'⟩
  refine ⟨world, world', ticket, ticket', read, read', ?_,
    classified_alike_answered_alike reached reached' read read' ended ended'
      (owner'.trans owner.symm) ?_⟩
  · rw [body, body']
    decide
  · have classified : classifyIntent asciiText
          (newTicket goodbye "t2" atEpoch) =
        classifyIntent asciiText (newTicket hello "t1" atEpoch) := by
      decide +kernel
    simp only [classifyIntent, subject, subject', body, body']
    exact classified

end SupportAssistant.Api.Isolation
