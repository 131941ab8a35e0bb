import SupportAssistant.Pipeline.Replies

/-!
# The grammar of a trace

The shape of a trace is stated on its own, as a grammar over payloads: the
classification, complete rounds of tool call and result, at most one
unfinished iteration, and the final decision.  Every account whose exceptions
can be printed produces a sentence of it.
-/

namespace SupportAssistant.Pipeline.TraceGrammar

open SupportAssistant.Enums
open SupportAssistant.Runtime
open SupportAssistant.Runtime.Ascii
open SupportAssistant.Effects.Outcomes
open SupportAssistant.Tracing.Models
open SupportAssistant.Domain
open SupportAssistant.Storage.Protocol
open SupportAssistant.Storage.Memory
open SupportAssistant.Pipeline.Collaborators
open SupportAssistant.Pipeline.Orchestrator
open SupportAssistant.Pipeline.Accounts
open SupportAssistant.Pipeline.RunSpec
open SupportAssistant.Pipeline.Handover
open SupportAssistant.Pipeline.Scripted
open SupportAssistant.Pipeline.Replies

/-! ## Sentences -/

/-- At most one iteration that no successful tool result completes. -/
inductive Closing (iteration : Int) : List Payload → Prop where
  | nothing : Closing iteration []
  | failedTool (tool : String) (args : Dict) (error : ToolError) :
      Closing iteration
        [.llmDecision iteration .toolCall (some tool), .toolCall tool args,
          .toolResult tool false none (some error)]
  | reply : Closing iteration [.llmDecision iteration .reply none]
  | checkedReply (passed : Bool) (literalsChecked : Int)
      (violations : List Violation) :
      Closing iteration
        [.llmDecision iteration .reply none,
          .groundingCheck passed literalsChecked violations]
  | handoff : Closing iteration [.llmDecision iteration .handoff none]

/-- Complete rounds from an iteration on, and then a closing. -/
inductive Iterations : Int → List Payload → Prop where
  | closing {iteration : Int} {payloads : List Payload}
      (closing : Closing iteration payloads) :
      Iterations iteration payloads
  | round {iteration : Int} {later : List Payload}
      (tool : String) (args : Dict) (summary : Dict)
      (iterations : Iterations (iteration + 1) later) :
      Iterations iteration
        (.llmDecision iteration .toolCall (some tool) ::
          .toolCall tool args ::
            .toolResult tool true (some summary) none :: later)

/-- Everything before the final decision. -/
inductive Opening : List Payload → Prop where
  | unclassified : Opening []
  | unknown (matchedKeywords : List String) :
      Opening [.intentClassified .unknown matchedKeywords]
  | known {intent : Intent} {payloads : List Payload}
      (matchedKeywords : List String) (known : intent ≠ .unknown)
      (iterations : Iterations 1 payloads) :
      Opening (.intentClassified intent matchedKeywords :: payloads)

def Payload.iteration? : Payload → Option Int
  | .llmDecision iteration _ _ => some iteration
  | _ => none

/-- The iteration numbers of the decisions of the model, in order. -/
def iterationNumbers (payloads : List Payload) : List Int :=
  payloads.filterMap Payload.iteration?

/-- A trace that its run could record, stamp and log. -/
structure WellFormed (maxIterations : Int) (events : List Event)
    (trace : List TraceStep) : Prop where
  grammar : ∃ opening outcome reason detail,
    Opening opening ∧
      (∀ payload ∈ opening, Payload.isFinalDecision payload = false) ∧
        trace.map TraceStep.payload =
          opening ++ [.finalDecision outcome reason detail]
  numbered : trace.map TraceStep.seq = upFrom 1 trace.length
  iterated : ∃ count : Nat,
    (count : Int) ≤ max maxIterations 0 ∧
      iterationNumbers (trace.map TraceStep.payload) = upFrom 1 count
  clock : trace.map TraceStep.ts = clockReadings events
  increasing :
    (clockReadings events).Pairwise
        (fun earlier later => earlier.instant < later.instant) →
      trace.Pairwise
        (fun earlier later => earlier.ts.instant < later.ts.instant)
  hook : loggedSteps events = trace

/-! ## Accounts produce sentences -/

theorem closing_of_ending
    {wiring : Wiring} {ticket : Ticket} {history : List Observation}
    {left : Nat} {ending : Ending}
    (printable : PrintableWiring wiring)
    (looped : Looped wiring ticket history left [] ending)
    (iteration : Int) :
    Closing iteration (ending.payloads iteration) := by
  cases looped with
  | capped => exact .nothing
  | modelRaised decided => exact .nothing
  | gaveUp decided => exact .handoff
  | toolRaised decided answered failed printed => exact .failedTool _ _ _
  | toolUnprintable decided answered failed unprinted =>
      obtain ⟨⟨text, printed⟩, -⟩ :=
        toolFailed_printable printable answered failed
      rw [printed] at unprinted
      simp at unprinted
  | resolveRaised decided resolved => exact .reply
  | renderRaised decided resolved rendered => exact .reply
  | verifyRaised decided resolved rendered verified => exact .reply
  | checked decided resolved rendered verified => exact .checkedReply _ _ _

/-- Rounds before a closing. -/
theorem iterations_of_rounds
    {rounds : List Round} {ending : Ending}
    (closing : ∀ iteration, Closing iteration (ending.payloads iteration))
    (iteration : Int) :
    Iterations iteration (loopPayloads iteration rounds ending) := by
  induction rounds generalizing iteration with
  | nil => exact .closing (closing iteration)
  | cons round rounds induction =>
      exact .round _ _ _ (induction (iteration + 1))

theorem iterationNumbers_append (payloads payloads' : List Payload) :
    iterationNumbers (payloads ++ payloads') =
      iterationNumbers payloads ++ iterationNumbers payloads' :=
  List.filterMap_append

theorem iterationNumbers_rounds
    (iteration : Int) (rounds : List Round) :
    iterationNumbers (loopPayloads iteration rounds .capped) =
      upFrom iteration rounds.length := by
  induction rounds generalizing iteration with
  | nil => rfl
  | cons round rounds induction =>
      rw [loopPayloads, iterationNumbers_append, induction (iteration + 1),
        List.length_cons, upFrom_succ]
      rfl

/-- A loop numbers its iterations from one, within the cap. -/
theorem iterationNumbers_looped
    {wiring : Wiring} {ticket : Ticket} {left : Nat}
    {rounds : List Round} {ending : Ending}
    (looped : Looped wiring ticket [] left rounds ending) :
    ∃ count ≤ left,
      iterationNumbers (loopPayloads 1 rounds ending) = upFrom 1 count := by
  obtain ⟨rest, rfl, ended⟩ := looped_ending looped
  rw [loopPayloads_eq, iterationNumbers_append, iterationNumbers_rounds]
  have oneMore : upFrom 1 rounds.length ++ [(1 : Int) + rounds.length] =
      upFrom 1 (rounds.length + 1) := by
    rw [upFrom_add]
    simp [upFrom]
  cases ended with
  | capped => exact ⟨_, Nat.le_refl _, by simp [Ending.payloads,
      iterationNumbers]⟩
  | modelRaised decided => exact ⟨_, Nat.le_add_right _ _, by
      simp [Ending.payloads, iterationNumbers]⟩
  | _ => exact ⟨rounds.length + 1, by omega, oneMore⟩

/-- The payloads before the final decision are an opening. -/
theorem opening_of_account
    {wiring : Wiring} {ticket : Ticket} {account : Account}
    (printable : PrintableWiring wiring)
    (holds : account.Holds wiring ticket) :
    Opening account.payloads := by
  cases holds with
  | classifyRaised asked => exact .unclassified
  | unsupported asked unknown =>
      rw [Account.payloads, classificationPayload, unknown]
      exact .unknown _
  | looped asked known ran =>
      obtain ⟨rest, -, ended⟩ := looped_ending ran
      exact .known _ known
        (iterations_of_rounds (closing_of_ending printable ended) 1)

theorem iterationNumbers_account
    {wiring : Wiring} {ticket : Ticket} {account : Account}
    (holds : account.Holds wiring ticket) :
    ∃ count ≤ wiring.maxIterations.toNat,
      iterationNumbers account.payloads = upFrom 1 count := by
  cases holds with
  | classifyRaised asked => exact ⟨0, Nat.zero_le _, rfl⟩
  | unsupported asked unknown => exact ⟨0, Nat.zero_le _, rfl⟩
  | looped asked known ran => exact iterationNumbers_looped ran

theorem wellFormed_of_call
    {wiring : Wiring} {ticketId : String} {ticket : Ticket}
    {account : Account} {outcome : Outcome} {events : List Event}
    {call : FinaliseCall}
    (printable : PrintableWiring wiring)
    (holds : account.Holds wiring ticket)
    (callOf : CallOf ticketId account outcome events call) :
    WellFormed wiring.maxIterations events call.trace where
  grammar :=
    ⟨account.payloads, _, _, _, opening_of_account printable holds,
      payloads_notFinal account, callOf.trace.payloads⟩
  numbered := callOf.trace.numbered
  iterated := by
    obtain ⟨count, within, numbers⟩ := iterationNumbers_account holds
    refine ⟨count, by omega, ?_⟩
    rw [callOf.trace.payloads, iterationNumbers_append, numbers]
    simp [iterationNumbers, finalPayload, Payload.iteration?]
  clock := callOf.trace.clock.symm
  increasing := by
    rw [callOf.trace.clock, List.pairwise_map]
    exact id
  hook := callOf.trace.hook

section

variable {ρ : Type} (repository : TicketRepository ρ) (wiring : Wiring)
variable (storeClock : List Event → Reading)

/--
With exceptions that can be printed, every run of a stored ticket hands over
exactly one trace, and it is well formed.
-/
theorem runPipeline_trace_wellFormed
    (printable : PrintableWiring wiring)
    {ticketId : String} {ticket : Ticket} {service : Service ρ} {store : ρ}
    (found :
      repository.get ticketId service.store = .ok (some ticket) store) :
    let after :=
      finalState (runPipeline repository wiring storeClock ticketId) service
    ∃ events call,
      after.events = service.events ++ events ∧
        HandedOver service after call ∧
          WellFormed wiring.maxIterations events call.trace := by
  obtain ⟨account, events, run⟩ := ends_finalState
    (runPipeline_ends repository wiring storeClock found)
  obtain ⟨outcome, concluded⟩ := concludes_of_printable printable run.holds
  obtain ⟨call, handed, callOf⟩ := run.handed outcome concluded
  exact ⟨events, call, run.eventsAdded, handed,
    wellFormed_of_call printable run.holds callOf⟩

end

/-- A scripted model raises printable exceptions only. -/
theorem scripted_printable
    {intent : Intent} {script : List Step}
    {tools : String → Dict → Except Exc ToolResult}
    (runs : ∀ tool args exc, tools tool args = .error exc → exc.Printable) :
    PrintableWiring (wiringOf (scriptedModel intent script) tools) where
  classifies events ticket exc raised := by
    simp [wiringOf, scriptedModel] at raised
  decides events ticket history exc raised := by
    simp only [wiringOf, scriptedModel] at raised
    split at raised
    · simp at raised
    · obtain rfl := Except.error.inj raised
      exact printable_plain ..
  runs events tool args exc raised := runs tool args exc raised
  resolves events name exc raised := by
    simp [wiringOf] at raised
  selects events name template facts exc resolved raised := by
    obtain rfl := Except.ok.inj resolved
    exact specFor_printable raised

theorem billing_trace_wellFormed :
    let after :=
      finalState
        (runPipeline (memoryRepository asciiText plainPydantic)
          (wiringOf billingModel paidAccount) standingClock "t1")
        waitingService
    ∃ events call,
      after.events = waitingService.events ++ events ∧
        HandedOver waitingService after call ∧
          WellFormed 5 events call.trace :=
  runPipeline_trace_wellFormed (memoryRepository asciiText plainPydantic)
    (wiringOf billingModel paidAccount) standingClock
    (scripted_printable fun tool args exc raised => by
      unfold paidAccount at raised
      split at raised <;> simp at raised)
    billing_found

end SupportAssistant.Pipeline.TraceGrammar
