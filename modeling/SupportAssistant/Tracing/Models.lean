import SupportAssistant.Enums
import SupportAssistant.Runtime

/-!
# Trace steps

An ordered list of these answers why a ticket ended the way it did.  A step
carries its place in the sequence, its time, and a payload of one of six
kinds.  The checks of the step models are fields of `TraceStep`, so a step
that fails one of them does not exist.
-/

namespace SupportAssistant.Tracing.Models

open SupportAssistant.Enums
open SupportAssistant.Runtime

/-- One literal in a reply that no tool result accounts for. -/
structure Violation where
  literal : String
  literalClass : LiteralClass
  reason : String
deriving DecidableEq, Repr

/-- What the model chose in one iteration. -/
inductive Decision where
  | toolCall
  | reply
  | handoff
deriving DecidableEq, Repr

def Decision.value : Decision → String
  | .toolCall => "tool_call"
  | .reply => "reply"
  | .handoff => "handoff"

/-- A failure, as the trace records it. -/
structure ToolError where
  type : String
  message : String
deriving DecidableEq, Repr

/-- What a step records beside its place and time. -/
inductive Payload where
  | intentClassified (intent : Intent) (matchedKeywords : List String)
  | llmDecision (iteration : Int) (decision : Decision)
      (tool : Option String)
  | toolCall (tool : String) (args : Dict)
  | toolResult (tool : String) (ok : Bool) (summary : Option Dict)
      (error : Option ToolError)
  | groundingCheck (passed : Bool) (literalsChecked : Int)
      (violations : List Violation)
  | finalDecision (outcome : TicketStatus) (reason : Option HandoffReason)
      (detail : Option String)
deriving Repr

/-- The discriminator of the step union. -/
def Payload.type : Payload → String
  | .intentClassified .. => "intent_classified"
  | .llmDecision .. => "llm_decision"
  | .toolCall .. => "tool_call"
  | .toolResult .. => "tool_result"
  | .groundingCheck .. => "grounding_check"
  | .finalDecision .. => "final_decision"

/-- A tool is named exactly when the decision is a tool call. -/
def toolNamedIffToolCall (decision : Decision) (tool : Option String) :
    Bool :=
  match decision with
  | .toolCall => tool.isSome
  | .reply => tool.isNone
  | .handoff => tool.isNone

/-- A final decision is terminal, and carries a reason if a handoff. -/
def outcomeAndReasonAgree (outcome : TicketStatus)
    (reason : Option HandoffReason) : Bool :=
  match outcome with
  | .processing => false
  | .handedOff => reason.isSome
  | .replied => reason.isNone

/-- The field bounds and validators of the six step models. -/
def Payload.valid : Payload → Bool
  | .intentClassified _ _ => true
  | .llmDecision iteration decision tool =>
      decide (1 ≤ iteration) && toolNamedIffToolCall decision tool
  | .toolCall _ _ => true
  | .toolResult _ _ _ _ => true
  | .groundingCheck _ literalsChecked _ => decide (0 ≤ literalsChecked)
  | .finalDecision outcome reason _ => outcomeAndReasonAgree outcome reason

/-- A recorded step. -/
structure TraceStep where
  seq : Int
  ts : DateTime
  payload : Payload
  seqPositive : 1 ≤ seq
  valid : payload.valid = true

def TraceStep.type (step : TraceStep) : String :=
  step.payload.type

/-- A step, if it passes the checks of its model. -/
def TraceStep.validate? (seq : Int) (ts : DateTime) (payload : Payload) :
    Option TraceStep :=
  if checks : 1 ≤ seq ∧ payload.valid = true then
    some { seq, ts, payload, seqPositive := checks.1, valid := checks.2 }
  else none

theorem TraceStep.validate?_of_valid
    {seq : Int} {ts : DateTime} {payload : Payload}
    (seqPositive : 1 ≤ seq) (valid : payload.valid = true) :
    TraceStep.validate? seq ts payload =
      some { seq, ts, payload, seqPositive, valid } := by
  simp [TraceStep.validate?, seqPositive, valid]

@[ext]
theorem TraceStep.ext
    {left right : TraceStep}
    (seq : left.seq = right.seq)
    (ts : left.ts = right.ts)
    (payload : left.payload = right.payload) :
    left = right := by
  cases left
  cases right
  cases seq
  cases ts
  cases payload
  rfl

end SupportAssistant.Tracing.Models
