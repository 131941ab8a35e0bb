import SupportAssistant.Pipeline.Handover

/-!
# Runs that their answers determine

Where the model, the tools and the resolver answer without regard to what has
happened before, the account of a run can be computed from what they answer.
So can its outcome and what it records: neither the clock nor the past of the
service has a part in them.
-/

namespace SupportAssistant.Pipeline.Determinism

open SupportAssistant.Runtime
open SupportAssistant.Effects.Outcomes
open SupportAssistant.Enums
open SupportAssistant.Tracing.Models
open SupportAssistant.Tracing.Summarise
open SupportAssistant.Domain
open SupportAssistant.Guardrails.Facts
open SupportAssistant.Guardrails.Grounding
open SupportAssistant.Llm.Templates
open SupportAssistant.Pipeline.Collaborators
open SupportAssistant.Pipeline.Orchestrator
open SupportAssistant.Pipeline.Accounts
open SupportAssistant.Pipeline.RunSpec
open SupportAssistant.Pipeline.Handover

/-- What the collaborators of a run answer, whenever they are asked. -/
structure Answers where
  py : PyText
  intent : Except Exc Classification
  step : List Observation → Except Exc Step
  tool : String → Dict → Except Exc ToolResult
  template : ReplyTemplate → Except Exc Template
  maxIterations : Int

/-- On the ticket, the wiring gives these answers. -/
structure Gives (wiring : Wiring) (ticket : Ticket) (answers : Answers) :
    Prop where
  py : wiring.py = answers.py
  intent : ∀ events,
    wiring.llm.classifyIntent events ticket = answers.intent
  step : ∀ events history,
    wiring.llm.decideNextStep events ticket history = answers.step history
  tool : ∀ events tool args,
    wiring.tools events tool args = answers.tool tool args
  template : ∀ events name,
    wiring.resolveTemplate events name = answers.template name
  maxIterations : wiring.maxIterations = answers.maxIterations

namespace Answers

variable (answers : Answers)

/-- The summarised result of a call, or why there is none. -/
def called (call : ToolCall) : Except Exc (ToolResult × Dict) := do
  let result ← answers.tool call.tool call.args
  let summary ← summarise answers.py result
  return (result, summary)

/-- How a run ends that replies with the named template. -/
def replying (name : ReplyTemplate) (history : List Observation) : Ending :=
  match answers.template name with
  | .error exc => .resolveRaised name exc
  | .ok template =>
      let facts := FactSet.fromObservations history
      match template.render answers.py facts with
      | .error exc => .renderRaised name template exc
      | .ok reply =>
          match verify answers.py reply facts
              template.templateSafeLiterals with
          | .error exc => .verifyRaised name template exc
          | .ok result => .checked name template reply result

/-- How a run ends on a call that failed. -/
def failing (call : ToolCall) (exc : Exc) : Ending :=
  match exc.str with
  | .ok message =>
      .toolRaised call (answers.tool call.tool call.args) exc message
  | .error second =>
      .toolUnprintable call (answers.tool call.tool call.args) exc second

/-- The rounds and the ending of the loop. -/
def looped : Nat → List Observation → List Round × Ending
  | 0, _ => ([], .capped)
  | left + 1, history =>
      match answers.step history with
      | .error exc => ([], .modelRaised exc)
      | .ok (.handoff reason) => ([], .gaveUp reason)
      | .ok (.reply name) => ([], answers.replying name history)
      | .ok (.toolCall call) =>
          match answers.called call with
          | .error exc => ([], answers.failing call exc)
          | .ok (result, summary) =>
              let (rounds, ending) :=
                looped left (history ++ [⟨call, result⟩])
              (⟨call, result, summary⟩ :: rounds, ending)

/-- The account of a run that gets these answers. -/
def account : Account :=
  match answers.intent with
  | .error exc => .classifyRaised exc
  | .ok classification =>
      if classification.intent = .unknown then .unsupported classification
      else
        let (rounds, ending) :=
          answers.looped answers.maxIterations.toNat []
        .looped classification rounds ending

end Answers

section

variable {wiring : Wiring} {ticket : Ticket} {answers : Answers}
variable (gives : Gives wiring ticket answers)

include gives

theorem step_of_decided {history : List Observation}
    {result : Except Exc Step}
    (decided : Decided wiring ticket history result) :
    answers.step history = result := by
  rcases decided with ⟨events, rfl⟩
  exact (gives.step events history).symm

theorem tool_of_answered {call : ToolCall} {result : Except Exc ToolResult}
    (answered : ToolAnswered wiring call result) :
    answers.tool call.tool call.args = result := by
  rcases answered with ⟨events, rfl⟩
  exact (gives.tool events call.tool call.args).symm

theorem template_of_resolved {name : ReplyTemplate}
    {result : Except Exc Template}
    (resolved : Resolved wiring name result) :
    answers.template name = result := by
  rcases resolved with ⟨events, rfl⟩
  exact (gives.template events name).symm

theorem called_of_failed {call : ToolCall} {result : Except Exc ToolResult}
    {exc : Exc} (answered : ToolAnswered wiring call result)
    (failed : ToolFailed wiring.py result exc) :
    answers.called call = .error exc := by
  have tool := tool_of_answered gives answered
  rw [gives.py] at failed
  rcases failed with rfl | ⟨returned, rfl, raised⟩
  · simp [Answers.called, tool, bind, Except.bind]
  · simp [Answers.called, tool, raised, bind, Except.bind]

/-- The loop can only have gone as the answers have it go. -/
theorem looped_eq {history : List Observation} {left : Nat}
    {rounds : List Round} {ending : Ending}
    (ran : Looped wiring ticket history left rounds ending) :
    answers.looped left history = (rounds, ending) := by
  induction ran with
  | capped => rfl
  | modelRaised decided =>
      simp only [Answers.looped, step_of_decided gives decided]
  | gaveUp decided =>
      simp only [Answers.looped, step_of_decided gives decided]
  | toolRaised decided answered failed printed =>
      simp only [Answers.looped, step_of_decided gives decided,
        called_of_failed gives answered failed, Answers.failing, printed,
        tool_of_answered gives answered]
  | toolUnprintable decided answered failed unprinted =>
      simp only [Answers.looped, step_of_decided gives decided,
        called_of_failed gives answered failed, Answers.failing, unprinted,
        tool_of_answered gives answered]
  | resolveRaised decided resolved =>
      simp only [Answers.looped, step_of_decided gives decided,
        Answers.replying, template_of_resolved gives resolved]
  | renderRaised decided resolved rendered =>
      rw [gives.py] at rendered
      simp only [Answers.looped, step_of_decided gives decided,
        Answers.replying, template_of_resolved gives resolved, rendered]
  | verifyRaised decided resolved rendered verified =>
      rw [gives.py] at rendered verified
      simp only [Answers.looped, step_of_decided gives decided,
        Answers.replying, template_of_resolved gives resolved, rendered,
        verified]
  | checked decided resolved rendered verified =>
      rw [gives.py] at rendered verified
      simp only [Answers.looped, step_of_decided gives decided,
        Answers.replying, template_of_resolved gives resolved, rendered,
        verified]
  | @round history left call result summary rounds ending decided answered
      summarised later induction =>
      rw [gives.py] at summarised
      have called : answers.called call = .ok (result, summary) := by
        simp [Answers.called, tool_of_answered gives answered, summarised,
          bind, Except.bind, pure, Except.pure]
      simp only [Answers.looped, step_of_decided gives decided, called,
        induction]

/-- The answers leave one account of the run. -/
theorem account_eq {account : Account}
    (holds : account.Holds wiring ticket) :
    answers.account = account := by
  cases holds with
  | classifyRaised asked =>
      rcases asked with ⟨events, asked⟩
      rw [gives.intent] at asked
      simp only [Answers.account, asked]
  | unsupported asked unknown =>
      rcases asked with ⟨events, asked⟩
      rw [gives.intent] at asked
      simp only [Answers.account, asked, if_pos unknown]
  | looped asked known ran =>
      rcases asked with ⟨events, asked⟩
      rw [gives.intent] at asked
      rw [gives.maxIterations] at ran
      simp only [Answers.account, asked, if_neg known,
        looped_eq gives ran]

/-- What a run concludes with and records is computed from its answers. -/
theorem conclude_determined {before : List Event} {outcome : Outcome}
    {state : RunState}
    (ran : conclude wiring ticket (RunState.start before) =
      .ok outcome state) :
    answers.account.outcome answers.maxIterations = .ok outcome ∧
      state.recorder.steps.map TraceStep.payload =
          answers.account.payloads ++ [finalPayload outcome] ∧
        state.recorder.steps.map TraceStep.seq =
          upFrom 1 state.recorder.steps.length := by
  rcases returned_of_ok (conclude_ends wiring ticket before) ran with
    ⟨account, holds, concluded, recorded⟩
  obtain rfl := account_eq gives holds
  rcases traceOf_ran recorded with ⟨events, -, -, trace⟩
  rw [gives.maxIterations] at concluded
  exact ⟨concluded, trace.payloads, trace.numbered⟩

end

end SupportAssistant.Pipeline.Determinism
