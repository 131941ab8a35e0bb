import Mathlib.Data.List.Sort
import SupportAssistant.Pipeline.DefaultWiring
import SupportAssistant.Storage.ReadBack

/-!
# What a run concludes with

A run over the default templates concludes with steps in order, one final
decision at their end, and either a reply that says something or a handoff.
-/

namespace SupportAssistant.Pipeline.Conclusions

open SupportAssistant.Effects.Mapping
open SupportAssistant.Enums
open SupportAssistant.Runtime
open SupportAssistant.Effects.Outcomes
open SupportAssistant.Tracing.Models
open SupportAssistant.Domain
open SupportAssistant.Guardrails.Facts
open SupportAssistant.Llm.Templates
open SupportAssistant.Storage.Memory
open SupportAssistant.Pipeline.Collaborators
open SupportAssistant.Pipeline.Orchestrator
open SupportAssistant.Pipeline.Accounts
open SupportAssistant.Pipeline.RunSpec
open SupportAssistant.Pipeline.Handover
open SupportAssistant.Pipeline.Replies
open SupportAssistant.Pipeline.DefaultWiring

/-! ## Replies that say something -/

/-- A reply that starts with prose is not empty. -/
theorem format_nonempty
    {py : PyText} {text reply : String} {body : List Segment}
    {context : Context}
    (prose : text ≠ "")
    (formatted : format py (.text text :: body) context = .ok reply) :
    reply ≠ "" := by
  unfold format at formatted
  cases parts : (Segment.text text :: body).mapM
      (formatSegment py context) with
  | error exc => simp [parts, bind, Except.bind] at formatted
  | ok texts =>
      rcases mapM_cons_ok.mp parts with ⟨first, rest, same, -, rfl⟩
      cases same
      simp only [parts, bind, Except.bind, Except.ok.injEq] at formatted
      intro empty
      rw [empty] at formatted
      have letters := congrArg String.toList formatted
      rw [join, String.toList_intercalate] at letters
      apply prose
      rw [← String.toList_inj]
      cases rest <;> simp_all [List.intercalate]

/-- No default template renders an empty reply. -/
theorem render_nonempty
    {py : PyText} {name : ReplyTemplate} {facts : FactSet} {reply : String}
    (rendered : (specFor py name).render py facts = .ok reply) :
    reply ≠ "" := by
  unfold Template.render at rendered
  cases selected : (specFor py name).context facts with
  | error exc => simp [selected, bind, Except.bind] at rendered
  | ok context =>
      simp only [selected, bind, Except.bind] at rendered
      cases name <;>
        exact format_nonempty (show "Hi " ≠ "" by decide) rendered

/-! ## The concluded run -/

/-- One final decision, as the last step, for this outcome. -/
def ClosedBy (outcome : Outcome) (steps : List TraceStep) : Prop :=
  ∃ earlier last,
    steps = earlier ++ [last] ∧
      last.payload = finalPayload outcome ∧
        ∀ step ∈ earlier, Payload.isFinalDecision step.payload = false

/-- Some step is a passed grounding check. -/
def Checked (steps : List TraceStep) : Prop :=
  ∃ step ∈ steps, ∃ literalsChecked violations,
    step.payload = .groundingCheck true literalsChecked violations

/-- What a finished run is about to write. -/
structure Concluding (outcome : Outcome) (steps : List TraceStep) :
    Prop where
  ordered : sortedTrace steps = steps
  closed : ClosedBy outcome steps
  either :
    (∃ reply, outcome = replied reply ∧ reply ≠ "" ∧ Checked steps) ∨
      ∃ reason detail, outcome = handedOff reason detail

theorem sortedTrace_of_numbered
    {steps : List TraceStep}
    (numbered : steps.map TraceStep.seq = upFrom 1 steps.length) :
    sortedTrace steps = steps := by
  apply List.Pairwise.insertionSort_eq
  have ordered : (steps.map TraceStep.seq).Pairwise (· ≤ ·) := by
    rw [numbered, upFrom, List.pairwise_map]
    apply List.Pairwise.imp _ List.pairwise_lt_range
    intro first second before
    omega
  exact List.pairwise_map.mp ordered

/-- The steps of an account end with its one final decision. -/
theorem closedBy_of_payloads
    {account : Account} {outcome : Outcome} {steps : List TraceStep}
    (payloads : steps.map TraceStep.payload =
      account.payloads ++ [finalPayload outcome]) :
    ClosedBy outcome steps := by
  rcases List.map_eq_append_iff.mp payloads with
    ⟨earlier, ending, rfl, same, final⟩
  rcases List.map_eq_singleton_iff.mp final with ⟨last, rfl, payload⟩
  refine ⟨earlier, last, rfl, payload, ?_⟩
  intro step member
  apply payloads_notFinal account
  rw [← same]
  exact List.mem_map_of_mem member

/-- A reply that passed comes from a template, and its check is recorded. -/
theorem replied_of_passed
    {wiring : Wiring} {ticket : Ticket} {py : PyText}
    (templates : DefaultTemplates py wiring)
    {account : Account} (holds : account.Holds wiring ticket)
    {reply : String} (passed : Passed account reply)
    {steps : List TraceStep}
    (payloads : steps.map TraceStep.payload =
      account.payloads ++ [finalPayload (replied reply)]) :
    reply ≠ "" ∧ Checked steps := by
  rcases passed with
    ⟨classification, rounds, name, template, literals, rfl⟩
  cases holds with
  | looped asked known ran =>
      rcases looped_ending ran with ⟨rest, -, ended⟩
      cases ended with
      | checked decided resolved rendered verified =>
          rcases resolved with ⟨events, resolved⟩
          rw [templates.2] at resolved
          cases resolved
          constructor
          · rw [templates.1] at rendered
            exact render_nonempty rendered
          · have recorded : Payload.groundingCheck true literals.length [] ∈
                steps.map TraceStep.payload := by
              rw [payloads, Account.payloads, loopPayloads_eq]
              simp [Ending.payloads]
            rcases List.mem_map.mp recorded with ⟨step, member, same⟩
            exact ⟨step, member, _, _, same⟩

/-- A run over the default templates concludes with something to show. -/
theorem concluding_of_conclude
    {wiring : Wiring} {ticket : Ticket} {py : PyText}
    (templates : DefaultTemplates py wiring)
    {events : List Event} {outcome : Outcome} {state : RunState}
    (ran : conclude wiring ticket (RunState.start events) =
      .ok outcome state) :
    Concluding outcome state.recorder.steps := by
  rcases returned_of_ok (conclude_ends wiring ticket events) ran with
    ⟨account, holds, concluded, recorded⟩
  rcases traceOf_ran recorded with ⟨added, -, -, trace⟩
  refine
    { ordered := sortedTrace_of_numbered trace.numbered
      closed := closedBy_of_payloads trace.payloads
      either := ?_ }
  rcases outcome_cases concluded with
    ⟨reply, passed, rfl⟩ | ⟨-, reason, detail, rfl⟩
  · exact Or.inl ⟨reply, rfl,
      replied_of_passed templates holds passed trace.payloads⟩
  · exact Or.inr ⟨reason, detail, rfl⟩

end SupportAssistant.Pipeline.Conclusions
