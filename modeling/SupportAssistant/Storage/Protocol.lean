import SupportAssistant.Domain
import SupportAssistant.Effects.LastWrite
import SupportAssistant.Effects.Outcomes

/-!
# The ticket repository

Three operations: record a new ticket, read one back, write a terminal state.
A repository over a store of type `ρ` runs each of them as one atomic step.
`finalise` stamps `updated_at` with a reading of the repository's own clock.
-/

namespace SupportAssistant.Storage.Protocol

open SupportAssistant.Enums
open SupportAssistant.Runtime
open SupportAssistant.Effects.LastWrite
open SupportAssistant.Effects.Outcomes
open SupportAssistant.Tracing.Models
open SupportAssistant.Domain

/-- The arguments of one `finalise` call. -/
structure FinaliseCall where
  ticketId : String
  status : TicketStatus
  reply : Option String
  handoffReason : Option HandoffReason
  trace : List TraceStep

/-- Where tickets and their traces live. -/
structure TicketRepository (ρ : Type) where
  create : Ticket → EStateM Exc ρ Unit
  get : String → EStateM Exc ρ (Option Ticket)
  finalise : DateTime → FinaliseCall → EStateM Exc ρ Unit

/-- One call of a repository. -/
inductive Operation where
  | create (ticket : Ticket)
  | get (ticketId : String)
  | finalise (now : Reading) (call : FinaliseCall)

section

variable {ρ : Type} (repository : TicketRepository ρ)

/-- The call, without what it returns. -/
def perform : Operation → EStateM Exc ρ Unit
  | .create ticket => repository.create ticket
  | .get ticketId => do
      let _ ← repository.get ticketId
  | .finalise now call => repository.finalise now call

/-- The store after a call, whether it returned or raised. -/
def performed (store : ρ) (operation : Operation) : ρ :=
  finalState (perform repository operation) store

/-- The store after a sequence of calls. -/
def performedAll (store : ρ) (operations : List Operation) : ρ :=
  after (performed repository) store operations

theorem performedAll_finalise (store : ρ) (now : Reading)
    (call : FinaliseCall) :
    performedAll repository store [.finalise now call] =
      finalState (repository.finalise now call) store :=
  rfl

/-- A successful `finalise` of the ticket. -/
def finalised? (ticketId : String) (store : ρ) :
    Operation → Option FinaliseCall
  | .finalise now call =>
      if call.ticketId = ticketId then
        match repository.finalise now call store with
        | .ok _ _ => some call
        | .error _ _ => none
      else none
  | _ => none

/-- The last successful `finalise` of the ticket among the calls. -/
def lastFinalised? (ticketId : String) (store : ρ)
    (operations : List Operation) : Option FinaliseCall :=
  (writes (performed repository) (finalised? repository ticketId) store
    operations).getLast?

end

def ticketAlreadyExists (py : PyText) (ticketId : String) : Exc :=
  .plain py "TicketAlreadyExists" .other ticketId

def ticketNotFound (py : PyText) (ticketId : String) : Exc :=
  .plain py "TicketNotFound" .other ticketId

end SupportAssistant.Storage.Protocol
