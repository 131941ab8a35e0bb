import Mathlib.Logic.Relation
import SupportAssistant.Pipeline.DefaultWiring
import SupportAssistant.Storage.Finality

/-!
# The two endpoints and the runs they schedule

`POST` creates a ticket and schedules its run; `GET` reads.  The runs proceed
in the background, each in three moments: the read of the ticket, the
conclusion, and the write.  Requests and runs interleave in any order, and the
collaborators of a run are arbitrary but for the default templates.
-/

namespace SupportAssistant.Api.Routes

open SupportAssistant.Enums
open SupportAssistant.Runtime
open SupportAssistant.Tracing.Models
open SupportAssistant.Domain
open SupportAssistant.Storage.Sqlite
open SupportAssistant.Pipeline.Collaborators
open SupportAssistant.Pipeline.Orchestrator
open SupportAssistant.Pipeline.Handover
open SupportAssistant.Pipeline.DefaultWiring

/-! ## The wire contract -/

/-- A ticket as a customer submits it. -/
structure CreateTicketRequest where
  userId : String
  subject : String
  body : String
  userIdOk : userIdValid userId = true
  subjectOk : subjectValid subject = true
  bodyOk : bodyValid body = true

/-- What `GET` serves. -/
structure TicketView where
  id : String
  userId : String
  status : TicketStatus
  reply : Option String
  handoffReason : Option HandoffReason
  createdAt : DateTime
  updatedAt : DateTime
  trace : List TraceStep

def viewOf (ticket : Ticket) : TicketView :=
  { id := ticket.id
    userId := ticket.userId
    status := ticket.status
    reply := ticket.reply
    handoffReason := ticket.handoffReason
    createdAt := ticket.createdAt
    updatedAt := ticket.updatedAt
    trace := ticket.trace }

/-- The ticket that `create_ticket` records. -/
def newTicket (payload : CreateTicketRequest) (id : String)
    (now : Reading) : Ticket :=
  { id
    userId := payload.userId
    subject := payload.subject
    body := payload.body
    status := .processing
    reply := none
    handoffReason := none
    createdAt := now
    updatedAt := now
    trace := []
    userIdOk := payload.userIdOk
    subjectOk := payload.subjectOk
    bodyOk := payload.bodyOk
    agrees := processing_agrees }

/-! ## The service -/

/-- How far a scheduled run has come. -/
inductive Task where
  | scheduled
  | deciding (ticket : Ticket)
  | writing (outcome : Outcome) (steps : List TraceStep)

/-- The database, the unfinished runs, and the ids `POST` has recorded. -/
structure Server where
  database : Database
  runs : List (String × Task)
  accepted : List String

def Server.start : Server :=
  { database := Database.empty, runs := [], accepted := [] }

section

variable (py : PyText) (pydantic : Pydantic) (time : TimeText)

/-- `read_ticket`; nothing is a `404`. -/
def readTicket (database : Database) (ticketId : String) :
    Except Exc (Option TicketView) :=
  (getTicket py pydantic time database ticketId).map (·.map viewOf)

/-- One request, or one moment of a run. -/
inductive Step : Server → Server → Prop where
  | posted {server : Server} {database : Database}
      (payload : CreateTicketRequest) (id : String) (now : Reading)
      (created : create py time (newTicket payload id now) server.database =
        .ok ⟨⟩ database) :
      Step server
        { database
          runs := server.runs ++ [(id, .scheduled)]
          accepted := server.accepted ++ [id] }
  | notPosted {server : Server} {database : Database} {exc : Exc}
      (payload : CreateTicketRequest) (id : String) (now : Reading)
      (refused : create py time (newTicket payload id now) server.database =
        .error exc database) :
      Step server { server with database }
  | served {server : Server} (id : String) : Step server server
  | began {database : Database} {before after : List (String × Task)}
      {accepted : List String} {id : String} {ticket : Ticket}
      (found : getTicket py pydantic time database id = .ok (some ticket)) :
      Step ⟨database, before ++ (id, .scheduled) :: after, accepted⟩
        ⟨database, before ++ (id, .deciding ticket) :: after, accepted⟩
  | notBegun {database : Database} {before after : List (String × Task)}
      {accepted : List String} {id : String}
      (missing : ∀ ticket,
        getTicket py pydantic time database id ≠ .ok (some ticket)) :
      Step ⟨database, before ++ (id, .scheduled) :: after, accepted⟩
        ⟨database, before ++ after, accepted⟩
  | concluded {database : Database} {before after : List (String × Task)}
      {accepted : List String} {id : String} {ticket : Ticket}
      {outcome : Outcome} {state : RunState}
      (wiring : Wiring) (templates : DefaultTemplates py wiring)
      (events : List Event)
      (ran : conclude wiring ticket (RunState.start events) =
        .ok outcome state) :
      Step ⟨database, before ++ (id, .deciding ticket) :: after, accepted⟩
        ⟨database,
          before ++ (id, .writing outcome state.recorder.steps) :: after,
          accepted⟩
  | crashed {database : Database} {before after : List (String × Task)}
      {accepted : List String} {id : String} {ticket : Ticket}
      {exc : Exc} {state : RunState}
      (wiring : Wiring) (templates : DefaultTemplates py wiring)
      (events : List Event)
      (raised : conclude wiring ticket (RunState.start events) =
        .error exc state) :
      Step ⟨database, before ++ (id, .deciding ticket) :: after, accepted⟩
        ⟨database, before ++ after, accepted⟩
  | wrote {database database' : Database}
      {before after : List (String × Task)} {accepted : List String}
      {id : String} {outcome : Outcome} {steps : List TraceStep}
      (now : Reading)
      (written : finalise py time now (finaliseCall id outcome steps)
        database = .ok ⟨⟩ database') :
      Step ⟨database, before ++ (id, .writing outcome steps) :: after,
          accepted⟩
        ⟨database', before ++ after, accepted⟩
  /-- Any write may fail, for a reason of its own or of the disk's. -/
  | failed {database : Database} {before after : List (String × Task)}
      {accepted : List String} {id : String} {outcome : Outcome}
      {steps : List TraceStep} :
      Step ⟨database, before ++ (id, .writing outcome steps) :: after,
          accepted⟩
        ⟨database, before ++ after, accepted⟩

end

/-! ## What a reader may see -/

/-- A ticket that nothing has happened to yet. -/
structure Waiting (view : TicketView) : Prop where
  status : view.status = .processing
  reply : view.reply = none
  reason : view.handoffReason = none
  trace : view.trace = []

/-- A ticket with an outcome, and a trace that accounts for it. -/
structure Settled (view : TicketView) : Prop where
  terminal : view.status ≠ .processing
  one : view.reply.isSome = true ↔ view.handoffReason.isNone = true
  decided : ∃ earlier last detail,
    view.trace = earlier ++ [last] ∧
      last.payload =
          .finalDecision view.status view.handoffReason detail ∧
        ∀ step ∈ earlier, Payload.isFinalDecision step.payload = false
  checked : view.status = .replied →
    ∃ step ∈ view.trace, ∃ literalsChecked violations,
      step.payload = .groundingCheck true literalsChecked violations

def Presentable (view : TicketView) : Prop :=
  Waiting view ∨ Settled view

end SupportAssistant.Api.Routes
