import SupportAssistant.Pipeline.Orchestrator

/-!
# The account of a run

A run can end in many places.  An `Account` names the one it ended in and
carries what the collaborators answered on the way: the complete rounds of
tool call and result, and the ending.  `Account.Holds` says that a wiring can
give these answers; the account determines the recorded payloads, the
exchanges and the outcome.

`Ran` is the effect of a stretch of a run on its state: the steps it appended,
their numbers and times, and the exchanges it had.
-/

namespace SupportAssistant.Pipeline.Accounts

open SupportAssistant.Enums
open SupportAssistant.Runtime
open SupportAssistant.Tracing.Models
open SupportAssistant.Tracing.Summarise
open SupportAssistant.Domain
open SupportAssistant.Guardrails.Facts
open SupportAssistant.Guardrails.Grounding
open SupportAssistant.Llm.Templates
open SupportAssistant.Pipeline.Collaborators
open SupportAssistant.Pipeline.Orchestrator

/-- A tool call that returned and was summarised. -/
structure Round where
  call : ToolCall
  result : ToolResult
  summary : Dict

def Round.observation (round : Round) : Observation :=
  ⟨round.call, round.result⟩

/-- Where the loop of a run ended, and on what answers. -/
inductive Ending where
  | capped
  | modelRaised (exc : Exc)
  | gaveUp (reason : HandoffReason)
  | toolRaised (call : ToolCall) (result : Except Exc ToolResult)
      (exc : Exc) (message : String)
  /-- The tool failed with an exception that `str` fails on. -/
  | toolUnprintable (call : ToolCall) (result : Except Exc ToolResult)
      (exc second : Exc)
  | resolveRaised (name : ReplyTemplate) (exc : Exc)
  | renderRaised (name : ReplyTemplate) (template : Template) (exc : Exc)
  | verifyRaised (name : ReplyTemplate) (template : Template) (exc : Exc)
  | checked (name : ReplyTemplate) (template : Template) (reply : String)
      (result : GroundingResult)

/-- Where a run ended, and on what answers. -/
inductive Account where
  | classifyRaised (exc : Exc)
  | unsupported (classification : Classification)
  | looped (classification : Classification) (rounds : List Round)
      (ending : Ending)

/-! ## Accounts that a wiring can give -/

section

variable (wiring : Wiring) (ticket : Ticket)

/-- The model can give this answer to this history. -/
def Decided (history : List Observation) (result : Except Exc Step) : Prop :=
  ∃ events, wiring.llm.decideNextStep events ticket history = result

/-- The tool runner can answer this call so. -/
def ToolAnswered (call : ToolCall) (result : Except Exc ToolResult) : Prop :=
  ∃ events, wiring.tools events call.tool call.args = result

/-- The resolver can answer so. -/
def Resolved (name : ReplyTemplate) (result : Except Exc Template) : Prop :=
  ∃ events, wiring.resolveTemplate events name = result

/-- The call failed: the tool raised, or its result has no summary. -/
def ToolFailed (py : PyText) (result : Except Exc ToolResult) (exc : Exc) :
    Prop :=
  result = .error exc ∨
    ∃ returned, result = .ok returned ∧ summarise py returned = .error exc

/-- Rounds and ending of the loop, from a history, with iterations left. -/
inductive Looped :
    List Observation → Nat → List Round → Ending → Prop where
  | capped {history} : Looped history 0 [] .capped
  | modelRaised {history left exc}
      (decided : Decided wiring ticket history (.error exc)) :
      Looped history (left + 1) [] (.modelRaised exc)
  | gaveUp {history left reason}
      (decided : Decided wiring ticket history (.ok (.handoff reason))) :
      Looped history (left + 1) [] (.gaveUp reason)
  | toolRaised {history left call result exc message}
      (decided : Decided wiring ticket history (.ok (.toolCall call)))
      (answered : ToolAnswered wiring call result)
      (failed : ToolFailed wiring.py result exc)
      (printed : exc.str = .ok message) :
      Looped history (left + 1) [] (.toolRaised call result exc message)
  | toolUnprintable {history left call result exc second}
      (decided : Decided wiring ticket history (.ok (.toolCall call)))
      (answered : ToolAnswered wiring call result)
      (failed : ToolFailed wiring.py result exc)
      (unprinted : exc.str = .error second) :
      Looped history (left + 1) [] (.toolUnprintable call result exc second)
  | resolveRaised {history left name exc}
      (decided : Decided wiring ticket history (.ok (.reply name)))
      (resolved : Resolved wiring name (.error exc)) :
      Looped history (left + 1) [] (.resolveRaised name exc)
  | renderRaised {history left name template exc}
      (decided : Decided wiring ticket history (.ok (.reply name)))
      (resolved : Resolved wiring name (.ok template))
      (rendered :
        template.render wiring.py (FactSet.fromObservations history) =
          .error exc) :
      Looped history (left + 1) [] (.renderRaised name template exc)
  | verifyRaised {history left name template reply exc}
      (decided : Decided wiring ticket history (.ok (.reply name)))
      (resolved : Resolved wiring name (.ok template))
      (rendered :
        template.render wiring.py (FactSet.fromObservations history) =
          .ok reply)
      (verified :
        verify wiring.py reply (FactSet.fromObservations history)
          template.templateSafeLiterals = .error exc) :
      Looped history (left + 1) [] (.verifyRaised name template exc)
  | checked {history left name template reply result}
      (decided : Decided wiring ticket history (.ok (.reply name)))
      (resolved : Resolved wiring name (.ok template))
      (rendered :
        template.render wiring.py (FactSet.fromObservations history) =
          .ok reply)
      (verified :
        verify wiring.py reply (FactSet.fromObservations history)
          template.templateSafeLiterals = .ok result) :
      Looped history (left + 1) [] (.checked name template reply result)
  | round {history left call result summary rounds ending}
      (decided : Decided wiring ticket history (.ok (.toolCall call)))
      (answered : ToolAnswered wiring call (.ok result))
      (summarised : summarise wiring.py result = .ok summary)
      (later :
        Looped (history ++ [⟨call, result⟩]) left rounds ending) :
      Looped history (left + 1) (⟨call, result, summary⟩ :: rounds) ending

/-- The wiring can give the answers of the account. -/
inductive Account.Holds : Account → Prop where
  | classifyRaised {exc}
      (asked : ∃ events,
        wiring.llm.classifyIntent events ticket = .error exc) :
      Account.Holds (.classifyRaised exc)
  | unsupported {classification}
      (asked : ∃ events,
        wiring.llm.classifyIntent events ticket = .ok classification)
      (unknown : classification.intent = .unknown) :
      Account.Holds (.unsupported classification)
  | looped {classification rounds ending}
      (asked : ∃ events,
        wiring.llm.classifyIntent events ticket = .ok classification)
      (known : classification.intent ≠ .unknown)
      (ran : Looped wiring ticket [] wiring.maxIterations.toNat rounds
        ending) :
      Account.Holds (.looped classification rounds ending)

end

/-! ## What an account determines -/

def classificationPayload (classification : Classification) : Payload :=
  .intentClassified classification.intent classification.matchedKeywords

def roundPayloads (iteration : Int) (round : Round) : List Payload :=
  [.llmDecision iteration .toolCall (some round.call.tool),
    .toolCall round.call.tool round.call.args,
    .toolResult round.call.tool true (some round.summary) none]

def Ending.payloads (iteration : Int) : Ending → List Payload
  | .capped => []
  | .modelRaised _ => []
  | .gaveUp _ => [.llmDecision iteration .handoff none]
  | .toolRaised call _ exc message =>
      [.llmDecision iteration .toolCall (some call.tool),
        .toolCall call.tool call.args,
        .toolResult call.tool false none (some ⟨exc.name, message⟩)]
  | .toolUnprintable call _ _ _ =>
      [.llmDecision iteration .toolCall (some call.tool),
        .toolCall call.tool call.args]
  | .resolveRaised _ _ => [.llmDecision iteration .reply none]
  | .renderRaised _ _ _ => [.llmDecision iteration .reply none]
  | .verifyRaised _ _ _ => [.llmDecision iteration .reply none]
  | .checked _ _ _ result =>
      [.llmDecision iteration .reply none,
        .groundingCheck result.violations.isEmpty result.literals.length
          result.violations]

def loopPayloads (iteration : Int) : List Round → Ending → List Payload
  | [], ending => ending.payloads iteration
  | round :: rounds, ending =>
      roundPayloads iteration round ++
        loopPayloads (iteration + 1) rounds ending

/-- The rounds of a loop, and then its ending. -/
theorem loopPayloads_eq
    (iteration : Int) (rounds : List Round) (ending : Ending) :
    loopPayloads iteration rounds ending =
      loopPayloads iteration rounds .capped ++
        ending.payloads (iteration + rounds.length) := by
  induction rounds generalizing iteration with
  | nil => simp [loopPayloads, Ending.payloads]
  | cons round rounds induction =>
      have next : iteration + 1 + (rounds.length : Int) =
          iteration + ((round :: rounds).length : Nat) := by
        rw [List.length_cons]
        omega
      rw [loopPayloads, loopPayloads, induction (iteration + 1), next,
        List.append_assoc]

/-- The payloads recorded before the final decision. -/
def Account.payloads : Account → List Payload
  | .classifyRaised _ => []
  | .unsupported classification => [classificationPayload classification]
  | .looped classification rounds ending =>
      classificationPayload classification :: loopPayloads 1 rounds ending

def Ending.exchanges (history : List Observation) : Ending → List Event
  | .capped => []
  | .modelRaised exc => [.stepAsked history (.error exc)]
  | .gaveUp reason => [.stepAsked history (.ok (.handoff reason))]
  | .toolRaised call result _ _ =>
      [.stepAsked history (.ok (.toolCall call)), .toolRun call result]
  | .toolUnprintable call result _ _ =>
      [.stepAsked history (.ok (.toolCall call)), .toolRun call result]
  | .resolveRaised name exc =>
      [.stepAsked history (.ok (.reply name)),
        .templateResolved name (.error exc)]
  | .renderRaised name template _ =>
      [.stepAsked history (.ok (.reply name)),
        .templateResolved name (.ok template)]
  | .verifyRaised name template _ =>
      [.stepAsked history (.ok (.reply name)),
        .templateResolved name (.ok template)]
  | .checked name template _ _ =>
      [.stepAsked history (.ok (.reply name)),
        .templateResolved name (.ok template)]

def loopExchanges (history : List Observation) :
    List Round → Ending → List Event
  | [], ending => ending.exchanges history
  | round :: rounds, ending =>
      .stepAsked history (.ok (.toolCall round.call)) ::
        .toolRun round.call (.ok round.result) ::
          loopExchanges (history ++ [round.observation]) rounds ending

/-- What the collaborators were asked and answered, in order. -/
def Account.exchanges : Account → List Event
  | .classifyRaised exc => [.intentAsked (.error exc)]
  | .unsupported classification => [.intentAsked (.ok classification)]
  | .looped classification rounds ending =>
      .intentAsked (.ok classification) :: loopExchanges [] rounds ending

/-- How a stretch of a run ended: with an outcome, or raising. -/
inductive Conclusion where
  | concluded (outcome : Outcome)
  | raised (inFlight : Option String) (exc : Exc)

/-- The verdict of the checker, as an outcome. -/
def verdict (reply : String) (result : GroundingResult) : Outcome :=
  if result.violations.isEmpty then replied reply
  else handedOff .ungroundedReply (violationDetail result.violations)

def Ending.conclusion (maxIterations : Int) : Ending → Conclusion
  | .capped =>
      .concluded (handedOff .iterationCapExceeded (capDetail maxIterations))
  | .modelRaised exc => .raised none exc
  | .gaveUp reason => .concluded (handedOff reason (gaveUpDetail reason))
  | .toolRaised call _ exc _ => .raised (some call.tool) exc
  | .toolUnprintable call _ _ second => .raised (some call.tool) second
  | .resolveRaised _ exc => .raised none exc
  | .renderRaised _ _ exc => .raised none exc
  | .verifyRaised _ _ exc => .raised none exc
  | .checked _ _ reply result => .concluded (verdict reply result)

def Account.conclusion (maxIterations : Int) : Account → Conclusion
  | .classifyRaised exc => .raised none exc
  | .unsupported classification =>
      .concluded (handedOff .unsupportedIntent
        (unsupportedDetail classification.matchedKeywords))
  | .looped _ _ ending => ending.conclusion maxIterations

/-- The message of a failure, after the tool in flight if there is one. -/
def located (inFlight : Option String) (message : String) : String :=
  match inFlight with
  | some tool => if tool = "" then message else tool ++ ": " ++ message
  | none => message

/-- What the `except` clauses make of an exception. -/
def failedClosed (inFlight : Option String) (exc : Exc) :
    Except Exc Outcome :=
  match exc.clause with
  | .userNotFound =>
      exc.str.map fun message =>
        handedOff .userNotFound (located inFlight message)
  | .noDataAvailable =>
      exc.str.map fun message =>
        handedOff .dataNotFound (located inFlight message)
  | .other => exc.repr.map (handedOff .toolError)

/-- The outcome, or the exception of a handler that could not print. -/
def Conclusion.outcome : Conclusion → Except Exc Outcome
  | .concluded outcome => .ok outcome
  | .raised inFlight exc => failedClosed inFlight exc

def Account.outcome (maxIterations : Int) (account : Account) :
    Except Exc Outcome :=
  (account.conclusion maxIterations).outcome

/-- The step that closes the trace. -/
def finalPayload (outcome : Outcome) : Payload :=
  .finalDecision outcome.status outcome.reason outcome.detail

end SupportAssistant.Pipeline.Accounts
