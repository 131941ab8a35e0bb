import SupportAssistant.Clock
import SupportAssistant.Pipeline.Conversation
import SupportAssistant.Pipeline.SingleWrite

/-!
# Runs on the deterministic clock

A run reads its clock once for each step and at no other time.  On a clock
that advances by a fixed tick, the times of a trace and the duration that is
counted for it are arithmetic.  Durations are exact rationals here, where the
source observes floats.
-/

namespace SupportAssistant.Pipeline.Ticks

open SupportAssistant.Enums
open SupportAssistant.Runtime
open SupportAssistant.Runtime.Ascii
open SupportAssistant.Effects.Outcomes
open SupportAssistant.Effects.Invariants
open SupportAssistant.Tracing.Models
open SupportAssistant.Domain
open SupportAssistant.Clock
open SupportAssistant.Storage.Protocol
open SupportAssistant.Storage.Memory
open SupportAssistant.Observability.Metrics
open SupportAssistant.Pipeline.Collaborators
open SupportAssistant.Pipeline.Orchestrator
open SupportAssistant.Pipeline.Accounts
open SupportAssistant.Pipeline.RunSpec
open SupportAssistant.Pipeline.Handover
open SupportAssistant.Pipeline.Scripted
open SupportAssistant.Pipeline.Replies
open SupportAssistant.Pipeline.Conversation
open SupportAssistant.Pipeline.SingleWrite

/-- The runs read this clock, and nothing else does. -/
def Frozen (clock : FrozenClock) (wiring : Wiring) : Prop :=
  ∀ events,
    wiring.clock events = clock.reading (clockReadings events).length

/-- So many readings of the clock, from the given one on. -/
def ticksFrom (clock : FrozenClock) (first count : Nat) : List DateTime :=
  (List.range count).map fun index => (clock.reading (first + index)).val

theorem clockReadings_append (events more : List Event) :
    clockReadings (events ++ more) =
      clockReadings events ++ clockReadings more :=
  List.filterMap_append

/-- What has been read since `before` are the next ticks of the clock. -/
def Ticking (clock : FrozenClock) (before : List Event) (state : RunState) :
    Prop :=
  ∃ added count, state.events = before ++ added ∧
    clockReadings added = ticksFrom clock (clockReadings before).length count

section

variable {clock : FrozenClock} {wiring : Wiring} {ticket : Ticket}

theorem stable_ticking (frozen : Frozen clock wiring)
    (before : List Event) :
    Stable wiring ticket (Ticking clock before) where
  event state event ticking answered := by
    rcases ticking with ⟨added, count, isAdded, read⟩
    have split : (state.addEvent event).events =
        before ++ (added ++ [event]) := by
      rw [RunState.addEvent, isAdded, List.append_assoc]
    cases event with
    | clockRead time =>
        refine ⟨added ++ [.clockRead time], count + 1, split, ?_⟩
        have many : (clockReadings state.events).length =
            (clockReadings before).length + count := by
          have lengths := congrArg List.length read
          rw [ticksFrom, List.length_map, List.length_range] at lengths
          rw [isAdded, clockReadings_append, List.length_append, lengths]
        have isReading : time = (wiring.clock state.events).val := answered
        rw [frozen, many] at isReading
        rw [ticksFrom, List.range_succ, List.map_append]
        change clockReadings (added ++ _) = ticksFrom clock _ count ++ _
        rw [← read, clockReadings_append, isReading]
        rfl
    | _ =>
        refine ⟨_, count, split, ?_⟩
        rw [clockReadings_append]
        exact (List.append_nil _).trans read
  bump _ ticking := ticking
  append _ _ ticking := ticking
  inFlight _ _ ticking := ticking

theorem conclude_ticks (frozen : Frozen clock wiring)
    {before : List Event} {outcome : Outcome} {state : RunState}
    (ran : conclude wiring ticket (RunState.start before) =
      .ok outcome state) :
    state.recorder.steps.map TraceStep.ts =
      ticksFrom clock (clockReadings before).length
        state.recorder.steps.length := by
  have ticking : Ticking clock before
      (finalState (conclude wiring ticket) (RunState.start before)) :=
    (keeps_conclude (stable_ticking frozen before)).finalState
      ⟨[], 0, by simp [RunState.start], rfl⟩
  rw [finalState, ran] at ticking
  rcases ticking with ⟨added, count, isAdded, read⟩
  rcases returned_of_ok (conclude_ends wiring ticket before) ran with
    ⟨account, -, -, recorded⟩
  rcases traceOf_ran recorded with ⟨events, isEvents, -, trace⟩
  obtain rfl := List.append_cancel_left (isAdded.symm.trans isEvents)
  rw [trace.clock] at read
  have lengths := congrArg List.length read
  rw [ticksFrom, List.length_map, List.length_map, List.length_range]
    at lengths
  rw [read, lengths]

end

/-! ## What is counted -/

/-- Only the update for the duration is observed as one. -/
theorem foldl_keeps_durations {updates : List MetricUpdate}
    (others : ∀ update ∈ updates, ∀ seconds outcome,
      update ≠ .duration seconds outcome)
    (registry : MetricRegistry) :
    (updates.foldl MetricRegistry.update registry).pipelineDurationSeconds =
      registry.pipelineDurationSeconds := by
  induction updates generalizing registry with
  | nil => rfl
  | cons update updates induction =>
      rw [List.forall_mem_cons] at others
      refine (induction others.2 (registry.update update)).trans ?_
      cases update with
      | duration seconds outcome =>
          exact absurd rfl (others.1 seconds outcome)
      | _ => rfl

theorem recordRun_duration (registry : MetricRegistry)
    (status : TicketStatus) (reason : Option HandoffReason)
    {steps : List TraceStep} {first last : TraceStep}
    (isFirst : steps.head? = some first)
    (isLast : steps.getLast? = some last) :
    (recordRun registry status reason steps).pipelineDurationSeconds =
      registry.pipelineDurationSeconds.observe [status.value]
        (spanSeconds first last) := by
  let others : List MetricUpdate :=
    .ticket status :: reason.toList.map .handoff ++
      .iterations (steps.countP isLlmDecision) :: steps.flatMap stepUpdates
  have updates : runUpdates status reason steps =
      others ++ [.duration (spanSeconds first last) status] := by
    simp only [runUpdates, isFirst, isLast, others]
  have untimed : ∀ update ∈ others, ∀ seconds outcome,
      update ≠ .duration seconds outcome := by
    rintro update member seconds outcome rfl
    simp only [others, List.cons_append, List.mem_cons, List.mem_append,
      List.mem_map, List.mem_flatMap, reduceCtorEq, and_false, exists_false,
      false_or] at member
    rcases member with ⟨step, -, inStep⟩
    unfold stepUpdates at inStep
    split at inStep <;> simp at inStep
  rw [recordRun, updates, List.foldl_append]
  exact congrArg
    (fun durations => durations.observe [status.value]
      (spanSeconds first last))
    (foldl_keeps_durations untimed registry)

/-! ## The whole run -/

/-- A trace with the times of the clock, from one of its readings on. -/
structure InStep (clock : FrozenClock) (first : Nat)
    (steps : List TraceStep) : Prop where
  nonempty : steps ≠ []
  times : steps.map TraceStep.ts = ticksFrom clock first steps.length

theorem InStep.increasing {clock : FrozenClock} {first : Nat}
    {steps : List TraceStep} (inStep : InStep clock first steps)
    (forward : 0 < clock.tick) :
    steps.Pairwise fun earlier later =>
      earlier.ts.instant < later.ts.instant := by
  have times : (steps.map TraceStep.ts).Pairwise fun earlier later =>
      earlier.instant < later.instant := by
    rw [inStep.times, ticksFrom, List.pairwise_map]
    apply List.Pairwise.imp _ List.pairwise_lt_range
    intro earlier later before
    rw [FrozenClock.instant_reading, FrozenClock.instant_reading]
    have more : ((first + earlier : Nat) : Int) < (first + later : Nat) := by
      omega
    exact Int.add_lt_add_left (Int.mul_lt_mul_of_pos_right more forward) _
  rw [List.pairwise_map] at times
  exact times

/-- From the first step to the last there is a tick for each further step. -/
theorem InStep.span {clock : FrozenClock} {index : Nat}
    {steps : List TraceStep} (inStep : InStep clock index steps) :
    ∃ first last, steps.head? = some first ∧ steps.getLast? = some last ∧
      spanSeconds first last =
        ((steps.length - 1 : Nat) : ℚ) * clock.tick / 1000000 := by
  have positive := List.length_pos_iff.mpr inStep.nonempty
  refine ⟨_, _, List.head?_eq_some_head inStep.nonempty,
    List.getLast?_eq_some_getLast inStep.nonempty, ?_⟩
  have timeAt : ∀ (place : Nat) (small : place < steps.length),
      (steps[place].ts).instant =
        clock.next.val.instant + ((index + place : Nat) : Int) *
          clock.tick := by
    intro place small
    have reads : (steps.map TraceStep.ts)[place]? =
        (ticksFrom clock index steps.length)[place]? := by
      rw [inStep.times]
    rw [ticksFrom, List.getElem?_map, List.getElem?_map,
      List.getElem?_eq_getElem small, List.getElem?_range small] at reads
    rw [Option.some.inj reads]
    exact clock.instant_reading _
  rw [spanSeconds, List.head_eq_getElem, List.getLast_eq_getElem,
    timeAt 0 positive, timeAt (steps.length - 1) (by omega)]
  push_cast
  ring

/-- What has happened when a run comes to its write. -/
theorem concluded_of_began
    {ρ : Type} {repository : TicketRepository ρ} {wiring : Wiring}
    {ticketId : String} {service middle : Service ρ} {outcome : Outcome}
    {steps : List TraceStep}
    (began : beginRun repository wiring ticketId service =
      .ok (outcome, steps) middle) :
    (∃ ticket state,
        conclude wiring ticket (RunState.start service.events) =
            .ok outcome state ∧
          state.recorder.steps = steps) ∧
      middle.finalised = service.finalised ∧
        middle.metrics = service.metrics := by
  simp only [beginRun, onStore, bind, EStateM.bind] at began
  cases got : repository.get ticketId service.store with
  | error exc store => simp [got] at began
  | ok found store =>
      cases found with
      | none =>
          simp only [got] at began
          cases began
      | some ticket =>
          simp only [got, onRun] at began
          cases ran : conclude wiring ticket
              (RunState.start service.events) with
          | error exc state => simp [ran] at began
          | ok result state =>
              simp only [ran, EStateM.Result.ok.injEq, Prod.mk.injEq]
                at began
              rcases began with ⟨⟨rfl, same⟩, rfl⟩
              exact ⟨⟨ticket, state, ran, same⟩, rfl, rfl⟩

/--
On the deterministic clock, a run that returns has handed over a trace whose
times are successive ticks, and has counted a duration of one tick for each
step after the first.
-/
theorem frozen_run_is_arithmetic
    {ρ : Type} (repository : TicketRepository ρ) {clock : FrozenClock}
    {wiring : Wiring} (frozen : Frozen clock wiring)
    (storeClock : List Event → Reading) {ticketId : String}
    {service after : Service ρ}
    (ran : runPipeline repository wiring storeClock ticketId service =
      .ok ⟨⟩ after) :
    ∃ call, HandedOver service after call ∧
      InStep clock (clockReadings service.events).length call.trace ∧
        after.metrics.pipelineDurationSeconds =
          service.metrics.pipelineDurationSeconds.observe
            [call.status.value]
            (((call.trace.length - 1 : Nat) : ℚ) * clock.tick /
              1000000) := by
  simp only [runPipeline, bind, EStateM.bind] at ran
  cases began : beginRun repository wiring ticketId service with
  | error exc middle => simp [began] at ran
  | ok pair middle =>
      rcases pair with ⟨outcome, steps⟩
      simp only [began] at ran
      replace ran : finishRun repository ticketId
          (storeClock middle.events).val outcome steps middle =
            .ok ⟨⟩ after :=
        ran
      rcases returned_of_ok
        (finishRun_tries_once repository ticketId _ outcome steps middle)
        ran with ⟨handed, -, counted⟩
      rcases concluded_of_began began with
        ⟨⟨ticket, state, concluded, rfl⟩, noCall, uncounted⟩
      have inStep : InStep clock (clockReadings service.events).length
          state.recorder.steps := by
        refine ⟨?_, conclude_ticks frozen concluded⟩
        rcases returned_of_ok (conclude_ends wiring ticket _) concluded with
          ⟨account, -, -, recorded⟩
        rcases traceOf_ran recorded with ⟨events, -, -, trace⟩
        have payloads := trace.payloads
        intro empty
        simp [empty] at payloads
      rcases inStep.span with ⟨first, last, isFirst, isLast, span⟩
      refine ⟨finaliseCall ticketId outcome state.recorder.steps, ?_, inStep,
        ?_⟩
      · rw [HandedOver, ← noCall]
        exact handed
      · rw [counted, recordRun_duration _ _ _ isFirst isLast, span,
          uncounted]
        rfl

/-! ## A run on the default clock -/

def defaultClock : FrozenClock :=
  FrozenClock.create defaultStart defaultTick

/-- A model that hands off at once, on the default clock. -/
def frozenWiring : Wiring :=
  { wiringOf (scriptedModel .billingQuestion [.handoff .unsupportedIntent])
      paidAccount with
    clock := fun events =>
      defaultClock.reading (clockReadings events).length }

/-- The service after the run of the waiting ticket. -/
def frozenService : Service Store :=
  finalState
    (runPipeline (memoryRepository asciiText plainPydantic) frozenWiring
      standingClock "t1")
    waitingService

theorem frozenService_is_arithmetic :
    ∃ call, HandedOver waitingService frozenService call ∧
      InStep defaultClock 0 call.trace ∧
        frozenService.metrics.pipelineDurationSeconds =
          MetricRegistry.create.pipelineDurationSeconds.observe
            [call.status.value]
            (((call.trace.length - 1 : Nat) : ℚ) * defaultTick /
              1000000) :=
  @frozen_run_is_arithmetic _ (memoryRepository asciiText plainPydantic)
    defaultClock frozenWiring (fun _ => rfl) standingClock "t1"
    waitingService frozenService rfl

end SupportAssistant.Pipeline.Ticks
