import Mathlib.Data.List.Sort
import SupportAssistant.Effects.Outcomes
import SupportAssistant.Storage.Protocol

/-!
# The in-memory repository

A dictionary from ids to tickets behind the same protocol.  Tickets go in and
come out as copies, so a list of pairs models the dictionary.
-/

namespace SupportAssistant.Storage.Memory

open SupportAssistant.Runtime
open SupportAssistant.Tracing.Models
open SupportAssistant.Domain
open SupportAssistant.Storage.Protocol

abbrev Store := List (String × Ticket)

section Operations

variable (py : PyText) (pydantic : Pydantic)

/-- Assignment to a key that the dictionary holds. -/
def replace (store : Store) (ticketId : String) (ticket : Ticket) : Store :=
  store.map fun entry =>
    if entry.1 = ticketId then (entry.1, ticket) else entry

def create (ticket : Ticket) : EStateM Exc Store Unit := do
  let store ← get
  match store.lookup ticket.id with
  | some _ => throw (ticketAlreadyExists py ticket.id)
  | none => set (store ++ [(ticket.id, { ticket with trace := [] })])

/-- `sorted(trace, key=lambda step: step.seq)`. -/
def sortedTrace (trace : List TraceStep) : List TraceStep :=
  trace.insertionSort fun first second => first.seq ≤ second.seq

/-- The stored ticket, validated again with the terminal state in it. -/
def finalised (stored : Ticket) (now : DateTime) (call : FinaliseCall) :
    Option Ticket :=
  Ticket.validate? stored.id stored.userId stored.subject stored.body
    call.status call.reply call.handoffReason stored.createdAt now
    (sortedTrace call.trace)

def finalise (now : DateTime) (call : FinaliseCall) :
    EStateM Exc Store Unit := do
  let store ← get
  match store.lookup call.ticketId with
  | none => throw (ticketNotFound py call.ticketId)
  | some stored =>
      match finalised stored now call with
      | none => throw (validationError py pydantic "Ticket")
      | some ticket => set (replace store call.ticketId ticket)

/-- `InMemoryTicketRepository`. -/
def memoryRepository : TicketRepository Store where
  create := create py
  get ticketId := do
    let store ← get
    return store.lookup ticketId
  finalise := finalise py pydantic

end Operations

end SupportAssistant.Storage.Memory
