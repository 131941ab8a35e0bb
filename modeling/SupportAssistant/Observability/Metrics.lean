import Mathlib.Algebra.Order.Ring.Rat
import Mathlib.Data.List.Sort
import SupportAssistant.Tracing.Models

/-!
# Counters and histograms

Every metric is derived from a finished trace: `recordRun` folds one run into
the registry, as a sequence of single updates.  Bounds, observed values and
their sums are exact rationals, where the source has floats and adds them with
rounding.

A family of counters or of series is a list keyed by label values, in the
order in which the keys were first seen.
-/

namespace SupportAssistant.Observability.Metrics

open SupportAssistant.Enums
open SupportAssistant.Tracing.Models

/-- Seconds. -/
def durationBuckets : List ℚ :=
  [1 / 100, 25 / 1000, 5 / 100, 1 / 10, 25 / 100, 5 / 10, 1, 25 / 10, 5, 10]

def iterationBuckets : List ℚ :=
  [0, 1, 2, 3, 4, 5]

/-- Update the entry of a key, or add one at the end. -/
def upsert {V : Type} (key : List String) (initial : V) (update : V → V) :
    List (List String × V) → List (List String × V)
  | [] => [(key, update initial)]
  | (other, value) :: rest =>
      if other = key then (other, update value) :: rest
      else (other, value) :: upsert key initial update rest

/-- A monotonically increasing count, sliced by labels. -/
structure Counter where
  name : String
  documentation : String
  labelNames : List String
  values : List (List String × Nat)
deriving Repr

def Counter.create (name documentation : String)
    (labelNames : List String) : Counter :=
  { name, documentation, labelNames, values := [] }

def Counter.inc (counter : Counter) (labels : List String) : Counter :=
  { counter with values := upsert labels 0 (· + 1) counter.values }

/-- The total of one label combination. -/
def Counter.total (counter : Counter) (labels : List String) : Nat :=
  (counter.values.lookup labels).getD 0

/-- One label combination's histogram state. -/
structure Series where
  counts : List Nat
  overflow : Nat
  total : ℚ
  count : Nat
deriving Repr

def Series.create (buckets : List ℚ) : Series :=
  { counts := buckets.map fun _ => 0, overflow := 0, total := 0, count := 0 }

/-- Count a value in the first bucket it fits, or as overflow. -/
def bucketUp (value : ℚ) : List ℚ → List Nat → Option (List Nat)
  | bound :: bounds, count :: counts =>
      if value ≤ bound then some ((count + 1) :: counts)
      else (bucketUp value bounds counts).map (count :: ·)
  | _, _ => none

def Series.observe (buckets : List ℚ) (value : ℚ) (series : Series) :
    Series :=
  let counted :=
    match bucketUp value buckets series.counts with
    | some counts => { series with counts }
    | none => { series with overflow := series.overflow + 1 }
  { counted with total := series.total + value, count := series.count + 1 }

/-- Observations bucketed by upper bound. -/
structure Histogram where
  name : String
  documentation : String
  labelNames : List String
  buckets : List ℚ
  series : List (List String × Series)
deriving Repr

def Histogram.create (name documentation : String)
    (labelNames : List String) (buckets : List ℚ) : Histogram :=
  { name, documentation, labelNames
    buckets := buckets.insertionSort (· ≤ ·)
    series := [] }

def Histogram.observe (histogram : Histogram) (labels : List String)
    (value : ℚ) : Histogram :=
  { histogram with
    series :=
      upsert labels (Series.create histogram.buckets)
        (Series.observe histogram.buckets value) histogram.series }

/-- The six families. -/
structure MetricRegistry where
  ticketsTotal : Counter
  handoffsTotal : Counter
  groundingViolationsTotal : Counter
  toolCallsTotal : Counter
  iterationsPerTicket : Histogram
  pipelineDurationSeconds : Histogram
deriving Repr

def MetricRegistry.create : MetricRegistry :=
  { ticketsTotal :=
      .create "tickets_total"
        "Tickets that reached a terminal state, by status." ["status"]
    handoffsTotal :=
      .create "handoffs_total" "Handoffs to a human, by reason." ["reason"]
    groundingViolationsTotal :=
      .create "grounding_violations_total"
        ("Ungrounded literals caught by grounding layer 2, by literal " ++
          "class. Expected: zero.")
        ["literal_class"]
    toolCallsTotal :=
      .create "tool_calls_total" "Tool invocations, by tool and outcome."
        ["tool", "outcome"]
    iterationsPerTicket :=
      .create "iterations_per_ticket"
        "LLM decisions taken before a ticket terminated." []
        iterationBuckets
    pipelineDurationSeconds :=
      .create "pipeline_duration_seconds"
        "Seconds from the first trace step to the last, by outcome."
        ["outcome"] durationBuckets }

/-! ## Folding one run into the registry -/

/-- One counter increment or histogram observation. -/
inductive MetricUpdate where
  | ticket (status : TicketStatus)
  | handoff (reason : HandoffReason)
  | iterations (count : Nat)
  | toolCall (tool : String) (ok : Bool)
  | groundingViolation (literalClass : LiteralClass)
  | duration (seconds : ℚ) (outcome : TicketStatus)
deriving Repr

def MetricRegistry.update (registry : MetricRegistry) :
    MetricUpdate → MetricRegistry
  | .ticket status =>
      { registry with
        ticketsTotal := registry.ticketsTotal.inc [status.value] }
  | .handoff reason =>
      { registry with
        handoffsTotal := registry.handoffsTotal.inc [reason.value] }
  | .iterations count =>
      { registry with
        iterationsPerTicket :=
          registry.iterationsPerTicket.observe [] count }
  | .toolCall tool ok =>
      { registry with
        toolCallsTotal :=
          registry.toolCallsTotal.inc
            [tool, if ok then "ok" else "error"] }
  | .groundingViolation literalClass =>
      { registry with
        groundingViolationsTotal :=
          registry.groundingViolationsTotal.inc [literalClass.value] }
  | .duration seconds outcome =>
      { registry with
        pipelineDurationSeconds :=
          registry.pipelineDurationSeconds.observe [outcome.value] seconds }

def isLlmDecision (step : TraceStep) : Bool :=
  match step.payload with
  | .llmDecision .. => true
  | _ => false

/-- The updates for one step of the trace. -/
def stepUpdates (step : TraceStep) : List MetricUpdate :=
  match step.payload with
  | .toolResult tool ok _ _ => [.toolCall tool ok]
  | .groundingCheck _ _ violations =>
      violations.map fun violation =>
        .groundingViolation violation.literalClass
  | _ => []

/-- Seconds from the first step to the last. -/
def spanSeconds (first last : TraceStep) : ℚ :=
  (last.ts.instant - first.ts.instant) / 1000000

/-- The updates for one finished run, in order. -/
def runUpdates (status : TicketStatus) (reason : Option HandoffReason)
    (steps : List TraceStep) : List MetricUpdate :=
  .ticket status ::
    reason.toList.map .handoff ++
    .iterations (steps.countP isLlmDecision) ::
    steps.flatMap stepUpdates ++
    match steps.head?, steps.getLast? with
    | some first, some last => [.duration (spanSeconds first last) status]
    | _, _ => []

/-- Fold one finished run into the registry. -/
def recordRun (registry : MetricRegistry) (status : TicketStatus)
    (reason : Option HandoffReason) (steps : List TraceStep) :
    MetricRegistry :=
  (runUpdates status reason steps).foldl MetricRegistry.update registry

end SupportAssistant.Observability.Metrics
