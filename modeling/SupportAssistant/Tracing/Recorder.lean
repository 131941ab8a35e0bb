import SupportAssistant.Pipeline.Collaborators

/-!
# The trace recorder

Every step is built by `record`: it takes the next sequence number, reads the
clock, validates, appends, and calls the hook.  There is one method for each
kind of step.
-/

namespace SupportAssistant.Tracing.Recorder

open SupportAssistant.Enums
open SupportAssistant.Runtime
open SupportAssistant.Effects.Outcomes
open SupportAssistant.Tracing.Models
open SupportAssistant.Pipeline.Collaborators

/-- Map a caught exception to the error a failed tool result carries. -/
def asToolError (exc : Exc) : RunM ToolError := do
  let message ← answer exc.str
  return { type := exc.name, message }

def bumpSeq (state : RunState) : RunState :=
  { state with
    recorder := { state.recorder with seq := state.recorder.seq + 1 } }

def appendStep (step : TraceStep) (state : RunState) : RunState :=
  { state with
    recorder :=
      { state.recorder with steps := state.recorder.steps ++ [step] } }

section

variable (wiring : Wiring)

/-- Assign the next number, stamp the time, append, then notify. -/
def record (payload : Payload) : RunM Unit := do
  modify bumpSeq
  let ts ← now wiring
  let state ← get
  match TraceStep.validate? state.recorder.seq ts payload with
  | none =>
      throw (validationError wiring.py wiring.pydantic
        payload.type)
  | some step => do
      modify (appendStep step)
      logStep step

def intentClassified (intent : Intent) (matchedKeywords : List String) :
    RunM Unit :=
  record wiring (.intentClassified intent matchedKeywords)

def llmDecision (iteration : Int) (decision : Decision)
    (tool : Option String) : RunM Unit :=
  record wiring (.llmDecision iteration decision tool)

def toolCall (tool : String) (args : Dict) : RunM Unit :=
  record wiring (.toolCall tool args)

/-- `ok` follows from whether an error is present. -/
def toolResult (tool : String) (summary : Option Dict)
    (error : Option ToolError) : RunM Unit :=
  record wiring (.toolResult tool error.isNone summary error)

/-- `passed` follows from the violations. -/
def groundingCheck (literalsChecked : Int) (violations : List Violation) :
    RunM Unit :=
  record wiring
    (.groundingCheck violations.isEmpty literalsChecked violations)

def finalDecision (outcome : TicketStatus)
    (reason : Option HandoffReason) (detail : Option String) : RunM Unit :=
  record wiring (.finalDecision outcome reason detail)

end

end SupportAssistant.Tracing.Recorder
