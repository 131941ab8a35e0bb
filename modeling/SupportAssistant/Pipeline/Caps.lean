import SupportAssistant.Effects.Prolonging
import SupportAssistant.Pipeline.Conversation
import SupportAssistant.Pipeline.CustomerWords

/-!
# What the iteration cap changes

The cap does nothing but stop.  With a higher one, a run that was not capped
is the same run, exchange for exchange; one that was capped has the same
exchanges and steps up to where it stopped, and goes on from there.
-/

namespace SupportAssistant.Pipeline.Caps

open SupportAssistant.Enums
open SupportAssistant.Runtime
open SupportAssistant.Runtime.Ascii
open SupportAssistant.Effects.Outcomes
open SupportAssistant.Effects.Invariants
open SupportAssistant.Effects.Prolonging
open SupportAssistant.Tracing.Models
open SupportAssistant.Tracing.Recorder
open SupportAssistant.Domain
open SupportAssistant.Storage.Protocol
open SupportAssistant.Storage.Memory
open SupportAssistant.Pipeline.Collaborators
open SupportAssistant.Pipeline.Orchestrator
open SupportAssistant.Pipeline.Accounts
open SupportAssistant.Pipeline.RunSpec
open SupportAssistant.Pipeline.Handover
open SupportAssistant.Pipeline.Scripted
open SupportAssistant.Pipeline.Replies (waitingService)
open SupportAssistant.Pipeline.Conversation
open SupportAssistant.Pipeline.CustomerWords

/-- The same collaborators under another cap. -/
def withCap (wiring : Wiring) (cap : Int) : Wiring :=
  { wiring with maxIterations := cap }

/-- What a run is handed off with that came to its cap. -/
def cappedOutcome (wiring : Wiring) : Outcome :=
  handedOff .iterationCapExceeded (capDetail wiring.maxIterations)

section

variable (wiring : Wiring) (ticket : Ticket) (cap : Int)

/-- The loop under the higher cap, from wherever the lower one stopped it. -/
def Remaining (more : RunM Outcome) : Prop :=
  ∃ iterations history,
    more = loop (withCap wiring cap) ticket iterations history

theorem prolongs_loop (first rest : List Int)
    (history : List Observation) :
    Prolongs (cappedOutcome wiring) (Remaining wiring ticket cap)
      (loop wiring ticket first history)
      (loop (withCap wiring cap) ticket (first ++ rest) history) := by
  induction first generalizing history with
  | nil => exact prolongs_stop ⟨rest, history, rfl⟩
  | cons iteration first induction =>
      refine prolongs_bind fun step => prolongs_bind fun _ => ?_
      cases step with
      | toolCall call =>
          exact prolongs_bind fun result =>
            prolongs_bind fun _ => induction _
      | reply name => exact prolongs_refl _
      | handoff reason => exact prolongs_refl _

variable {wiring cap} (more : wiring.maxIterations ≤ cap)

include more

theorem iterations_longer :
    ∃ rest, iterations cap = iterations wiring.maxIterations ++ rest := by
  have length : cap.toNat = wiring.maxIterations.toNat +
      (cap.toNat - wiring.maxIterations.toNat) := by
    omega
  rw [iterations_eq, iterations_eq, length, upFrom_add]
  exact ⟨_, rfl⟩

theorem prolongs_decideBody :
    Prolongs (cappedOutcome wiring) (Remaining wiring ticket cap)
      (decideBody wiring ticket)
      (decideBody (withCap wiring cap) ticket) := by
  rcases iterations_longer more with ⟨rest, longer⟩
  refine prolongs_bind fun classification => prolongs_bind fun _ => ?_
  split
  · exact prolongs_refl _
  · rw [show (withCap wiring cap).maxIterations = cap from rfl, longer]
    exact prolongs_loop wiring ticket cap _ rest []

/-- What is left to decide once the lower cap is reached. -/
theorem decide_goes_on (state : RunState) :
    decide (withCap wiring cap) ticket state = decide wiring ticket state ∨
      ∃ after iterations history,
        decide wiring ticket state = .ok (cappedOutcome wiring) after ∧
          decide (withCap wiring cap) ticket state =
            tryCatch (loop (withCap wiring cap) ticket iterations history)
              failClosed after := by
  rcases @prolongs_tryCatch _ _ _ _ _ _ _ failClosed
    (prolongs_decideBody ticket more) state with
    same | ⟨after, -, ⟨-, ⟨iterations, history, rfl⟩, rfl⟩, stops, goes⟩
  · exact Or.inl same
  · exact Or.inr ⟨after, iterations, history, stops, goes⟩

end

/-! ## What a run has when it is cut short -/

/-- Steps and events were added, and none taken away. -/
structure Grown (earlier later : RunState) : Prop where
  steps : earlier.recorder.steps <+: later.recorder.steps
  events : earlier.events <+: later.events

theorem stable_grown (wiring : Wiring) (ticket : Ticket)
    (earlier : RunState) : Stable wiring ticket (Grown earlier) where
  event _ _ grown _ :=
    ⟨grown.steps, grown.events.trans (List.prefix_append _ _)⟩
  bump _ grown := ⟨grown.steps, grown.events⟩
  append _ _ grown :=
    ⟨grown.steps.trans (List.prefix_append _ _), grown.events⟩
  inFlight _ _ grown := ⟨grown.steps, grown.events⟩

/--
What a run recorded and exchanged up to the lower cap, at the end of both
runs.
-/
structure Shared (shorter longer : RunState) : Prop where
  steps : ∃ earlier last, shorter.recorder.steps = earlier ++ [last] ∧
    earlier <+: longer.recorder.steps
  exchanges : exchangesOf shorter.events <+: exchangesOf longer.events

/-- To conclude is to decide, and to record what was decided. -/
theorem conclude_of_decide {wiring : Wiring} {ticket : Ticket}
    {before after : RunState} {rest : RunM Outcome}
    (goes : decide wiring ticket before = rest after) :
    conclude wiring ticket before =
      (rest >>= fun outcome =>
        record wiring (finalPayload outcome) >>= fun _ =>
          pure outcome) after := by
  change (decide wiring ticket >>= _) before = (rest >>= _) after
  simp only [bind, EStateM.bind, goes]
  rfl

theorem conclude_goes_on
    {wiring : Wiring} (ticket : Ticket) {cap : Int}
    (more : wiring.maxIterations ≤ cap) (events : List Event) :
    conclude (withCap wiring cap) ticket (RunState.start events) =
        conclude wiring ticket (RunState.start events) ∨
      ∃ closed,
        conclude wiring ticket (RunState.start events) =
            .ok (cappedOutcome wiring) closed ∧
          Shared closed
            (finalState (conclude (withCap wiring cap) ticket)
              (RunState.start events)) := by
  rcases decide_goes_on ticket more (RunState.start events) with
    same | ⟨after, iterations, history, stops, goes⟩
  · left
    rw [conclude_of_decide same]
    rfl
  · right
    have grown : Grown after
        (finalState (conclude (withCap wiring cap) ticket)
          (RunState.start events)) := by
      have stable := stable_grown (withCap wiring cap) ticket after
      have kept := keeps_bind
        (keeps_tryCatch (keeps_loop stable iterations history)
          keeps_failClosed)
        fun outcome => keeps_bind
          (keeps_record stable (finalPayload outcome))
          fun _ => keeps_pure outcome
      rw [finalState, conclude_of_decide goes]
      exact kept.finalState ⟨List.prefix_refl _, List.prefix_refl _⟩
    rcases returned_of_ok (decide_ends wiring ticket events) stops with
      ⟨-, -, account, -, -, ran⟩
    have recorded := record_ends wiring
      (finalPayload (cappedOutcome wiring)) rfl
      (ran.seq_nonneg (Int.le_refl 0))
    cases closes : record wiring (finalPayload (cappedOutcome wiring))
        after with
    | error exc closed =>
        exact (raised_of_error recorded closes).elim
    | ok value closed =>
        rcases (returned_of_ok recorded closes).1 with
          ⟨steps, added, isAdded, isFinal, silent⟩
        rcases List.map_eq_singleton_iff.mp isFinal with ⟨last, rfl, -⟩
        refine ⟨closed, ?_, ?_, ?_⟩
        · rw [@conclude_of_decide _ _ _ after
            (pure (cappedOutcome wiring)) stops]
          change (record wiring _ >>= _) after = _
          simp only [bind, EStateM.bind, closes]
          rfl
        · exact ⟨after.recorder.steps, last, isAdded.stepsAdded, grown.steps⟩
        · rw [isAdded.eventsAdded, exchangesOf, List.filter_append]
          change _ ++ exchangesOf added <+: _
          rw [silent, List.append_nil]
          exact grown.events.filter _

/-! ## The run against a repository -/

/--
The shorter run was handed off at its cap, and the longer one had the same
exchanges up to there, and recorded the same steps.
-/
structure CutShort {ρ : Type} (before shorter longer : Service ρ)
    (call : FinaliseCall) : Prop where
  handed : HandedOver before shorter call
  status : call.status = .handedOff
  reason : call.handoffReason = some .iterationCapExceeded
  exchanges : exchangesOf shorter.events <+: exchangesOf longer.events
  trace : ∃ earlier last, call.trace = earlier ++ [last] ∧
    ∀ other, HandedOver before longer other → earlier <+: other.trace

/--
Whatever the collaborators do, a run under a higher cap is the run under the
lower one, or the lower one cut it short.
-/
theorem higher_cap_goes_on
    {ρ : Type} (repository : TicketRepository ρ) {wiring : Wiring}
    {cap : Int} (more : wiring.maxIterations ≤ cap)
    (storeClock : List Event → Reading) (ticketId : String)
    (service : Service ρ) :
    runPipeline repository (withCap wiring cap) storeClock ticketId service =
        runPipeline repository wiring storeClock ticketId service ∨
      ∃ call, CutShort service
        (finalState (runPipeline repository wiring storeClock ticketId)
          service)
        (finalState
          (runPipeline repository (withCap wiring cap) storeClock ticketId)
          service)
        call := by
  -- two runs that begin alike go on alike
  have same_of_began :
      beginRun repository (withCap wiring cap) ticketId service =
          beginRun repository wiring ticketId service →
        runPipeline repository (withCap wiring cap) storeClock ticketId
            service =
          runPipeline repository wiring storeClock ticketId service := by
    intro began
    simp only [runPipeline, bind, EStateM.bind, began]
  cases got : repository.get ticketId service.store with
  | error exc store =>
      left
      apply same_of_began
      simp only [beginRun, onStore, bind, EStateM.bind, got]
  | ok found store =>
      cases found with
      | none =>
          left
          apply same_of_began
          simp only [beginRun, onStore, bind, EStateM.bind, got]
          rfl
      | some ticket =>
          rcases conclude_goes_on ticket more service.events with
            same | ⟨closed, stops, shared⟩
          · left
            apply same_of_began
            simp only [beginRun, onStore, bind, EStateM.bind, got, onRun,
              same]
          · right
            rcases runPipeline_leaves repository wiring storeClock got with
              ⟨events, handed⟩
            rcases runPipeline_leaves repository (withCap wiring cap)
              storeClock got with ⟨events', handed'⟩
            rcases shared.steps with ⟨earlier, last, isClosed, goesOn⟩
            rw [stops] at handed
            refine ⟨_, handed, rfl, rfl, ?_, earlier, last, isClosed, ?_⟩
            · rw [events, events', finalState, stops]
              exact shared.exchanges
            · intro other isOther
              have calls := List.append_cancel_left
                (handed'.symm.trans isOther)
              rw [finalState] at goesOn
              cases ran : conclude (withCap wiring cap) ticket
                  (RunState.start service.events) with
              | error exc state => simp [ran, conclusionOf, callsOf] at calls
              | ok outcome state =>
                  simp only [ran, conclusionOf, callsOf, Option.toList_some,
                    List.map_cons, List.map_nil, List.cons.injEq,
                    and_true] at calls
                  rw [ran] at goesOn
                  rw [← calls]
                  exact goesOn

theorem sample_under_higher_cap :
    runPipeline (memoryRepository asciiText plainPydantic)
          (withCap fakeWiring 9) standingClock "t1" waitingService =
        runPipeline (memoryRepository asciiText plainPydantic) fakeWiring
          standingClock "t1" waitingService ∨
      ∃ call, CutShort waitingService
        (finalState
          (runPipeline (memoryRepository asciiText plainPydantic) fakeWiring
            standingClock "t1")
          waitingService)
        (finalState
          (runPipeline (memoryRepository asciiText plainPydantic)
            (withCap fakeWiring 9) standingClock "t1")
          waitingService)
        call :=
  higher_cap_goes_on (memoryRepository asciiText plainPydantic)
    (by decide : fakeWiring.maxIterations ≤ 9) standingClock "t1"
    waitingService

end SupportAssistant.Pipeline.Caps
