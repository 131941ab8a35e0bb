import SupportAssistant.Effects.Outcomes
import SupportAssistant.Llm.Templates

/-!
# What a run is handed

The model, the tools, the template resolver and the clock are not part of the
pipeline.  Each is an arbitrary function of everything that has happened in
the service so far, recorded as a list of events, so that no assumption is
made about how a collaborator behaves from one call to the next.  A
collaborator may raise at any call; the clock and the log hook do not raise.

The events are also what statements about a run refer to: which steps the
model chose, which tools returned, when the clock was read.
-/

namespace SupportAssistant.Pipeline.Collaborators

open SupportAssistant.Enums
open SupportAssistant.Runtime
open SupportAssistant.Effects.Outcomes
open SupportAssistant.Tracing.Models
open SupportAssistant.Domain
open SupportAssistant.Llm.Templates

/-- One exchange with a collaborator. -/
inductive Event where
  | intentAsked (answer : Except Exc Classification)
  | stepAsked (history : List Observation) (answer : Except Exc Step)
  | toolRun (call : ToolCall) (answer : Except Exc ToolResult)
  | templateResolved (name : ReplyTemplate) (answer : Except Exc Template)
  | clockRead (reading : DateTime)
  | stepLogged (step : TraceStep)

/-- The seam every model implementation sits behind. -/
structure LLMClient where
  classifyIntent : List Event → Ticket → Except Exc Classification
  decideNextStep :
    List Event → Ticket → List Observation → Except Exc Step

/-- Everything a run is handed. -/
structure Wiring where
  py : PyText
  pydantic : Pydantic
  llm : LLMClient
  tools : List Event → String → Dict → Except Exc ToolResult
  resolveTemplate : List Event → ReplyTemplate → Except Exc Template
  clock : List Event → Reading
  maxIterations : Int

/-- The steps recorded so far, and the last sequence number given out. -/
structure TraceRecorder where
  steps : List TraceStep
  seq : Int

/-- The state of one run. -/
structure RunState where
  recorder : TraceRecorder
  /-- Which tool is executing. -/
  inFlight : Option String
  events : List Event

/-- A run begins with an empty trace. -/
def RunState.start (events : List Event) : RunState :=
  { recorder := { steps := [], seq := 0 }, inFlight := none, events }

abbrev RunM := EStateM Exc RunState

def RunState.addEvent (state : RunState) (event : Event) : RunState :=
  { state with events := state.events ++ [event] }

/-- Ask a collaborator, and note the exchange. -/
def consult {α : Type}
    (oracle : List Event → Except Exc α)
    (event : Except Exc α → Event) : RunM α := do
  let state ← get
  let result := oracle state.events
  modify fun state => state.addEvent (event result)
  answer result

section

variable (wiring : Wiring)

def askIntent (ticket : Ticket) : RunM Classification :=
  consult
    (fun events => wiring.llm.classifyIntent events ticket)
    .intentAsked

def askStep (ticket : Ticket) (history : List Observation) : RunM Step :=
  consult
    (fun events => wiring.llm.decideNextStep events ticket history)
    (.stepAsked history)

def callTool (call : ToolCall) : RunM ToolResult :=
  consult
    (fun events => wiring.tools events call.tool call.args)
    (.toolRun call)

def resolve (name : ReplyTemplate) : RunM Template :=
  consult
    (fun events => wiring.resolveTemplate events name)
    (.templateResolved name)

/-- `clock.now()`. -/
def now : RunM Reading := do
  let state ← get
  let reading := wiring.clock state.events
  modify fun state => state.addEvent (.clockRead reading)
  return reading

/-- The hook that is called with each recorded step; it is not to raise. -/
def logStep (step : TraceStep) : RunM Unit :=
  modify fun state => state.addEvent (.stepLogged step)

end

/-! ## What the events say -/

/-- The readings of the clock, in order. -/
def clockReadings (events : List Event) : List DateTime :=
  events.filterMap fun
    | .clockRead reading => some reading
    | _ => none

/-- The steps the hook was called with, in order. -/
def loggedSteps (events : List Event) : List TraceStep :=
  events.filterMap fun
    | .stepLogged step => some step
    | _ => none

/-- The answers of the model when it was asked for a step. -/
def decisions (events : List Event) : List (Except Exc Step) :=
  events.filterMap fun
    | .stepAsked _ result => some result
    | _ => none

/-- The tool calls that returned, with what they returned. -/
def observations (events : List Event) : List Observation :=
  events.filterMap fun
    | .toolRun call (.ok result) => some ⟨call, result⟩
    | _ => none

/-- What the resolver answered, and for which template. -/
def resolutions (events : List Event) :
    List (ReplyTemplate × Except Exc Template) :=
  events.filterMap fun
    | .templateResolved name result => some (name, result)
    | _ => none

/-- The answers of the model when it was asked for the intent. -/
def classifications (events : List Event) :
    List (Except Exc Classification) :=
  events.filterMap fun
    | .intentAsked result => some result
    | _ => none

end SupportAssistant.Pipeline.Collaborators
