import SupportAssistant.Guardrails.Grounding
import SupportAssistant.Observability.Metrics
import SupportAssistant.Storage.Protocol
import SupportAssistant.Tracing.Recorder
import SupportAssistant.Tracing.Summarise

/-!
# The orchestrator

One ticket, from `processing` to a terminal state.  `decide` classifies, loops
and grounds, and returns an outcome without writing it; `runPipeline` records
the final decision and writes the outcome once, below the catch-all.
-/

namespace SupportAssistant.Pipeline.Orchestrator

open SupportAssistant.Enums
open SupportAssistant.Runtime
open SupportAssistant.Effects.Outcomes
open SupportAssistant.Tracing.Models
open SupportAssistant.Tracing.Summarise
open SupportAssistant.Tracing.Recorder
open SupportAssistant.Domain
open SupportAssistant.Guardrails.Facts
open SupportAssistant.Guardrails.Grounding
open SupportAssistant.Storage.Protocol
open SupportAssistant.Observability.Metrics
open SupportAssistant.Pipeline.Collaborators

/-- What the run concluded, in the shape `finalise` takes. -/
structure Outcome where
  status : TicketStatus
  reply : Option String
  reason : Option HandoffReason
  detail : Option String
deriving DecidableEq, Repr

/-- The reply was rendered from the facts and passed grounding. -/
def replied (reply : String) : Outcome :=
  { status := .replied, reply := some reply, reason := none, detail := none }

/-- A human takes the ticket, without a reply. -/
def handedOff (reason : HandoffReason) (detail : String) : Outcome :=
  { status := .handedOff
    reply := none
    reason := some reason
    detail := some detail }

/-! ## Handoff details -/

def unsupportedDetail (matchedKeywords : List String) : String :=
  if matchedKeywords.isEmpty then
    "intent classified unknown: nothing in the ticket matched a " ++
      "supported category"
  else
    "intent classified unknown: an ambiguous match on " ++
      join ", " matchedKeywords

def gaveUpDetail (reason : HandoffReason) : String :=
  "the model ended the run itself, giving " ++ reason.value

/-- The failing tool and its message. -/
def toolDetail (inFlight : Option String) (exc : Exc) : RunM String := do
  let message ← answer exc.str
  match inFlight with
  | some tool =>
      if tool = "" then return message else return tool ++ ": " ++ message
  | none => return message

/-- The offending literals. -/
def violationDetail (violations : List Violation) : String :=
  "reply withheld -- unsourced literals: " ++
    join ", " (violations.map fun violation =>
      violation.literal ++ " (" ++ violation.literalClass.value ++ ")")

def capDetail (maxIterations : Int) : String :=
  "the loop reached MAX_ITERATIONS (" ++ toString maxIterations ++
    ") without terminating"

/-! ## Classify, loop, ground -/

section

variable (wiring : Wiring)

def setInFlight (tool : Option String) : RunM Unit :=
  modify fun state => { state with inFlight := tool }

/-- Run a tool and record what came of it; a failure is recorded and raised. -/
def runTool (call : ToolCall) : RunM ToolResult := do
  setInFlight (some call.tool)
  toolCall wiring call.tool call.args
  let (result, summary) ←
    tryCatch
      (do
        let result ← callTool wiring call
        let summary ← answer (summarise wiring.py result)
        return (result, summary))
      (fun exc => do
        let error ← asToolError exc
        toolResult wiring call.tool none (some error)
        throw exc)
  toolResult wiring call.tool (some summary) none
  return result

/-- Render the chosen template from the facts, then check the text. -/
def ground (name : ReplyTemplate) (history : List Observation) :
    RunM Outcome := do
  let facts := FactSet.fromObservations history
  let template ← resolve wiring name
  let reply ← answer (template.render wiring.py facts)
  let checked ←
    answer (verify wiring.py reply facts template.templateSafeLiterals)
  groundingCheck wiring checked.literals.length checked.violations
  if checked.violations.isEmpty then return replied reply
  else
    return handedOff .ungroundedReply (violationDetail checked.violations)

/-- The body of the loop and its `else`, over the iterations to come. -/
def loop (ticket : Ticket) :
    List Int → List Observation → RunM Outcome
  | [], _ =>
      return handedOff .iterationCapExceeded
        (capDetail wiring.maxIterations)
  | iteration :: iterations, history => do
      let step ← askStep wiring ticket history
      llmDecision wiring iteration step.decision step.tool
      match step with
      | .toolCall call => do
          let result ← runTool wiring call
          setInFlight none
          loop ticket iterations (history ++ [⟨call, result⟩])
      | .reply template => ground wiring template history
      | .handoff reason => return handedOff reason (gaveUpDetail reason)

/-- `range(1, max_iterations + 1)`. -/
def iterations (maxIterations : Int) : List Int :=
  (List.range maxIterations.toNat).map fun (index : Nat) => (index : Int) + 1

/-- The part of `_decide` inside the `try`. -/
def decideBody (ticket : Ticket) : RunM Outcome := do
  let classification ← askIntent wiring ticket
  intentClassified wiring classification.intent
    classification.matchedKeywords
  if classification.intent = .unknown then
    return handedOff .unsupportedIntent
      (unsupportedDetail classification.matchedKeywords)
  else
    loop wiring ticket (iterations wiring.maxIterations) []

/-- The three `except` clauses. -/
def failClosed (exc : Exc) : RunM Outcome := do
  let state ← get
  match exc.clause with
  | .userNotFound =>
      let detail ← toolDetail state.inFlight exc
      return handedOff .userNotFound detail
  | .noDataAvailable =>
      let detail ← toolDetail state.inFlight exc
      return handedOff .dataNotFound detail
  | .other =>
      let detail ← answer exc.repr
      return handedOff .toolError detail

/-- Say what should happen, without making it happen. -/
def decide (ticket : Ticket) : RunM Outcome :=
  tryCatch (decideBody wiring ticket) failClosed

/-- Decide, and record the decision as the last step. -/
def conclude (ticket : Ticket) : RunM Outcome := do
  let outcome ← decide wiring ticket
  finalDecision wiring outcome.status outcome.reason outcome.detail
  return outcome

end

/-! ## The run against a repository -/

/-- The state the runs of one service share. -/
structure Service (ρ : Type) where
  store : ρ
  metrics : MetricRegistry
  events : List Event
  /-- The arguments `finalise` was called with, oldest first. -/
  finalised : List FinaliseCall

/-- An operation of the repository. -/
def onStore {ρ α : Type} (operation : EStateM Exc ρ α) :
    EStateM Exc (Service ρ) α :=
  fun service =>
    match operation service.store with
    | .ok value store => .ok value { service with store }
    | .error exc store => .error exc { service with store }

/-- A run of its own, which sees nothing of the store. -/
def onRun {ρ α : Type} (run : RunM α) :
    EStateM Exc (Service ρ) (α × List TraceStep) :=
  fun service =>
    match run (RunState.start service.events) with
    | .ok value state =>
        .ok (value, state.recorder.steps)
          { service with events := state.events }
    | .error exc state =>
        .error exc { service with events := state.events }

def noTicket (py : PyText) (ticketId : String) : Exc :=
  valueError py ("no ticket " ++ py.repr ticketId ++ " to run")

section

variable {ρ : Type} (repository : TicketRepository ρ) (wiring : Wiring)

/-- The arguments of the single write. -/
def finaliseCall (ticketId : String) (outcome : Outcome)
    (steps : List TraceStep) : FinaliseCall :=
  { ticketId
    status := outcome.status
    reply := outcome.reply
    handoffReason := outcome.reason
    trace := steps }

/-- Read the ticket and conclude its run: everything before the write. -/
def beginRun (ticketId : String) :
    EStateM Exc (Service ρ) (Outcome × List TraceStep) := do
  let ticket ← onStore (repository.get ticketId)
  match ticket with
  | none => throw (noTicket wiring.py ticketId)
  | some ticket => onRun (conclude wiring ticket)

/-- Write the outcome once, then count the run. -/
def finishRun (ticketId : String) (now : DateTime) (outcome : Outcome)
    (steps : List TraceStep) : EStateM Exc (Service ρ) Unit := do
  let call := finaliseCall ticketId outcome steps
  modify fun service =>
    { service with finalised := service.finalised ++ [call] }
  onStore (repository.finalise now call)
  modify fun service =>
    { service with
      metrics :=
        recordRun service.metrics outcome.status outcome.reason steps }

/-- Run one ticket to a terminal state. -/
def runPipeline (storeClock : List Event → Reading) (ticketId : String) :
    EStateM Exc (Service ρ) Unit := do
  let (outcome, steps) ← beginRun repository wiring ticketId
  let service ← get
  finishRun repository ticketId (storeClock service.events) outcome steps

end

end SupportAssistant.Pipeline.Orchestrator
