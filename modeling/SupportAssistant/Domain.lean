import SupportAssistant.Tracing.Models

/-!
# The shared vocabulary

The records the tools return, the decisions the model takes, and the ticket.
The bounds and the validator of `Ticket` are fields of the structure.
-/

namespace SupportAssistant.Domain

open SupportAssistant.Numeric.DecimalFloat
open SupportAssistant.Enums
open SupportAssistant.Runtime
open SupportAssistant.Tracing.Models

/-- How an amount is written in a reply: always with two places. -/
def formatAmount (value : Finite) : String :=
  String.ofList (value.fixed 2)

/-! ## What the tools return -/

structure User where
  userId : String
  name : String
  language : String
  plan : String
deriving DecidableEq, Repr

structure ChargingSession where
  sessionId : String
  station : String
  kwh : Finite
  cost : Finite
  status : SessionStatus
  startedAt : DateTime
deriving DecidableEq, Repr

structure Invoice where
  invoiceId : String
  amount : Finite
  currency : String
  status : InvoiceStatus
  issuedAt : DateTime
deriving DecidableEq, Repr

/-- A fixture record of any of the three kinds. -/
inductive Record where
  | user (user : User)
  | session (session : ChargingSession)
  | invoice (invoice : Invoice)
deriving DecidableEq, Repr

/-- `type(record).__name__`. -/
def Record.typeName : Record → String
  | .user _ => "User"
  | .session _ => "ChargingSession"
  | .invoice _ => "Invoice"

def Record.user? : Record → Option User
  | .user found => some found
  | _ => none

def Record.session? : Record → Option ChargingSession
  | .session found => some found
  | _ => none

def Record.invoice? : Record → Option Invoice
  | .invoice found => some found
  | _ => none

/-- What a tool returned for one call. -/
structure ToolResult where
  tool : String
  records : List Record
deriving DecidableEq, Repr

/-! ## What the model decides -/

/-- The intent of a ticket and the evidence for it. -/
structure Classification where
  intent : Intent
  matchedKeywords : List String
deriving DecidableEq, Repr

structure ToolCall where
  tool : String
  args : Dict
deriving Repr

/-- One action the model chose. -/
inductive Step where
  | toolCall (call : ToolCall)
  | reply (template : ReplyTemplate)
  | handoff (reason : HandoffReason)
deriving Repr

/-- `step.decision`. -/
def Step.decision : Step → Decision
  | .toolCall _ => .toolCall
  | .reply _ => .reply
  | .handoff _ => .handoff

/-- `step.tool if isinstance(step, ToolCall) else None`. -/
def Step.tool : Step → Option String
  | .toolCall call => some call.tool
  | .reply _ => none
  | .handoff _ => none

/-- A tool call together with what it returned. -/
structure Observation where
  step : ToolCall
  result : ToolResult
deriving Repr

/-! ## The ticket -/

/-- Truthiness of an optional string. -/
def truthy : Option String → Bool
  | none => false
  | some text => text != ""

/-- The pairing of status, reply and reason that `Ticket` validates. -/
def statusReplyAndReasonAgree (status : TicketStatus)
    (reply : Option String) (reason : Option HandoffReason) : Bool :=
  match status with
  | .processing => reply.isNone && reason.isNone
  | .replied => truthy reply && reason.isNone
  | .handedOff => reply.isNone && reason.isSome

/-- A ticket that waits has neither reply nor reason. -/
theorem processing_agrees :
    statusReplyAndReasonAgree .processing none none = true :=
  rfl

def userIdValid (userId : String) : Bool :=
  decide (1 ≤ userId.length)

def subjectValid (subject : String) : Bool :=
  decide (1 ≤ subject.length) && decide (subject.length ≤ 200)

def bodyValid (body : String) : Bool :=
  decide (1 ≤ body.length) && decide (body.length ≤ 5000)

/-- A support request, and the record of what the service did about it. -/
@[ext]
structure Ticket where
  id : String
  userId : String
  subject : String
  body : String
  status : TicketStatus
  reply : Option String
  handoffReason : Option HandoffReason
  createdAt : DateTime
  updatedAt : DateTime
  trace : List TraceStep
  userIdOk : userIdValid userId = true
  subjectOk : subjectValid subject = true
  bodyOk : bodyValid body = true
  agrees : statusReplyAndReasonAgree status reply handoffReason = true

/-- Validation of the fields of a ticket. -/
def Ticket.validate?
    (id userId subject body : String)
    (status : TicketStatus)
    (reply : Option String)
    (handoffReason : Option HandoffReason)
    (createdAt updatedAt : DateTime)
    (trace : List TraceStep) : Option Ticket :=
  if fields : userIdValid userId = true ∧ subjectValid subject = true ∧
      bodyValid body = true ∧
      statusReplyAndReasonAgree status reply handoffReason = true then
    some
      { id, userId, subject, body, status, reply, handoffReason,
        createdAt, updatedAt, trace,
        userIdOk := fields.1
        subjectOk := fields.2.1
        bodyOk := fields.2.2.1
        agrees := fields.2.2.2 }
  else none

/-- A ticket that awaits its run. -/
def Ticket.Processing (ticket : Ticket) : Prop :=
  ticket.status = .processing

/-- A stored ticket is complete: one of reply and reason, as its status says. -/
theorem Ticket.terminal_iff_one
    (ticket : Ticket) :
    ticket.status ≠ .processing ↔
      (ticket.reply.isSome = true ↔ ticket.handoffReason.isNone = true) := by
  have agrees := ticket.agrees
  revert agrees
  cases ticket.status <;> cases reply : ticket.reply <;>
    cases ticket.handoffReason <;>
      simp [statusReplyAndReasonAgree, truthy]

end SupportAssistant.Domain
