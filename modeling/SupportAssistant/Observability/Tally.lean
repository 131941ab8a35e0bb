import Mathlib.Algebra.Order.BigOperators.Group.Finset
import SupportAssistant.Observability.Metrics

/-!
# What the metrics count

Each reading of the registry is a sum over the updates it has taken: every
update adds to each reading what it stands for, wherever in the order of the
updates it comes.
-/

namespace SupportAssistant.Observability.Tally

open SupportAssistant.Enums
open SupportAssistant.Tracing.Models
open SupportAssistant.Observability.Metrics

/-- A number that can be read off the registry. -/
inductive Key where
  | tickets (status : TicketStatus)
  | handoffs (reason : HandoffReason)
  | toolCalls (tool : String) (ok : Bool)
  | violations (literalClass : LiteralClass)
  /-- The number of observations of `iterations_per_ticket`. -/
  | iterationsCount
  /-- Their sum. -/
  | iterationsSum
deriving DecidableEq, Repr

/-- The series of one label combination, if it was ever observed. -/
def Histogram.at? (histogram : Histogram) (labels : List String) :
    Option Series :=
  histogram.series.lookup labels

def Histogram.count (histogram : Histogram) (labels : List String) : Nat :=
  ((Histogram.at? histogram labels).map Series.count).getD 0

def Histogram.sum (histogram : Histogram) (labels : List String) : ℚ :=
  ((Histogram.at? histogram labels).map Series.total).getD 0

/-- The label value of an outcome. -/
def outcomeLabel (ok : Bool) : String :=
  if ok then "ok" else "error"

def reading (registry : MetricRegistry) : Key → ℚ
  | .tickets status => registry.ticketsTotal.total [status.value]
  | .handoffs reason => registry.handoffsTotal.total [reason.value]
  | .toolCalls tool ok =>
      registry.toolCallsTotal.total [tool, outcomeLabel ok]
  | .violations literalClass =>
      registry.groundingViolationsTotal.total [literalClass.value]
  | .iterationsCount => Histogram.count registry.iterationsPerTicket []
  | .iterationsSum => Histogram.sum registry.iterationsPerTicket []

/-- What one update adds to a reading. -/
def weight (key : Key) : MetricUpdate → Nat
  | .ticket status => if key = .tickets status then 1 else 0
  | .handoff reason => if key = .handoffs reason then 1 else 0
  | .iterations count =>
      if key = .iterationsCount then 1
      else if key = .iterationsSum then count
      else 0
  | .toolCall tool ok => if key = .toolCalls tool ok then 1 else 0
  | .groundingViolation literalClass =>
      if key = .violations literalClass then 1 else 0
  | .duration _ _ => 0

/-- What a list of updates adds to a reading. -/
def added (key : Key) (updates : List MetricUpdate) : Nat :=
  (updates.map (weight key)).sum

@[simp]
theorem added_nil (key : Key) : added key [] = 0 := rfl

@[simp]
theorem added_cons
    (key : Key) (update : MetricUpdate) (updates : List MetricUpdate) :
    added key (update :: updates) = weight key update + added key updates :=
  rfl

@[simp]
theorem added_append (key : Key) (first second : List MetricUpdate) :
    added key (first ++ second) = added key first + added key second := by
  simp [added]

theorem added_flatMap
    {α : Type} (key : Key) (updates : α → List MetricUpdate)
    (items : List α) :
    added key (items.flatMap updates) =
      (items.map fun item => added key (updates item)).sum := by
  induction items with
  | nil => rfl
  | cons item items induction => simp [induction]

/-! ## One update -/

theorem lookup_cons_if
    {V : Type} (key label : List String) (value : V)
    (entries : List (List String × V)) :
    ((label, value) :: entries).lookup key =
      if key = label then some value else entries.lookup key := by
  rw [List.lookup_cons]
  by_cases same : key = label
  · simp [same]
  · rw [beq_eq_false_iff_ne.mpr same, if_neg same]

theorem lookup_upsert
    {V : Type} (key other : List String) (initial : V) (update : V → V)
    (entries : List (List String × V)) :
    (upsert key initial update entries).lookup other =
      if other = key then some (update ((entries.lookup key).getD initial))
      else entries.lookup other := by
  induction entries with
  | nil =>
      rw [upsert, lookup_cons_if]
      rfl
  | cons entry entries induction =>
      rcases entry with ⟨label, value⟩
      rw [upsert, lookup_cons_if, lookup_cons_if]
      split
      · rename_i here
        rw [lookup_cons_if, here, if_pos rfl]
        split <;> rfl
      · rename_i elsewhere
        rw [lookup_cons_if, induction, if_neg (Ne.symm elsewhere)]
        split
        · rename_i atLabel
          rw [if_neg (atLabel ▸ elsewhere)]
        · rfl

theorem total_inc (counter : Counter) (labels other : List String) :
    (counter.inc labels).total other =
      counter.total other + if other = labels then 1 else 0 := by
  rw [Counter.total, Counter.inc, lookup_upsert]
  by_cases same : other = labels <;> simp [same, Counter.total]

theorem count_observe
    (histogram : Histogram) (labels : List String) (value : ℚ) :
    Histogram.count (histogram.observe labels value) labels =
      Histogram.count histogram labels + 1 := by
  simp only [Histogram.count, Histogram.at?, Histogram.observe,
    lookup_upsert, if_true]
  cases histogram.series.lookup labels <;> rfl

theorem sum_observe
    (histogram : Histogram) (labels : List String) (value : ℚ) :
    Histogram.sum (histogram.observe labels value) labels =
      Histogram.sum histogram labels + value := by
  simp only [Histogram.sum, Histogram.at?, Histogram.observe,
    lookup_upsert, if_true]
  cases histogram.series.lookup labels with
  | none => simp [Series.observe, Series.create]
  | some series => rfl

theorem status_value_inj {left right : TicketStatus} :
    left.value = right.value ↔ left = right := by
  cases left <;> cases right <;> decide

theorem reason_value_inj {left right : HandoffReason} :
    left.value = right.value ↔ left = right := by
  cases left <;> cases right <;> decide

theorem class_value_inj {left right : LiteralClass} :
    left.value = right.value ↔ left = right := by
  cases left <;> cases right <;> decide

theorem outcomeLabel_inj {left right : Bool} :
    outcomeLabel left = outcomeLabel right ↔ left = right := by
  cases left <;> cases right <;> decide

/-- An update adds its weight to every reading. -/
theorem reading_update
    (registry : MetricRegistry) (update : MetricUpdate) (key : Key) :
    reading (registry.update update) key =
      reading registry key + weight key update := by
  cases update with
  | ticket status =>
      cases key <;>
        simp [reading, weight, MetricRegistry.update, total_inc,
          status_value_inj]
  | handoff reason =>
      cases key <;>
        simp [reading, weight, MetricRegistry.update, total_inc,
          reason_value_inj]
  | iterations count =>
      cases key <;>
        simp [reading, weight, MetricRegistry.update, count_observe,
          sum_observe]
  | toolCall tool ok =>
      have label : (if ok = true then "ok" else "error") =
          outcomeLabel ok := rfl
      cases key <;>
        simp [reading, weight, MetricRegistry.update, total_inc, label,
          outcomeLabel_inj]
  | groundingViolation literalClass =>
      cases key <;>
        simp [reading, weight, MetricRegistry.update, total_inc,
          class_value_inj]
  | duration seconds outcome =>
      cases key <;> simp [reading, weight, MetricRegistry.update]

theorem reading_create (key : Key) : reading .create key = 0 := by
  cases key <;> rfl

/-! ## One run -/

def isToolResult (tool : String) (ok : Bool) (step : TraceStep) : Bool :=
  match step.payload with
  | .toolResult called outcome _ _ => called == tool && outcome == ok
  | _ => false

/-- The violations of a class that a step carries. -/
def violationCount (literalClass : LiteralClass) (step : TraceStep) : Nat :=
  match step.payload with
  | .groundingCheck _ _ violations =>
      violations.countP (·.literalClass == literalClass)
  | _ => 0

/-- What a run with this outcome and trace stands for. -/
def runWeight (status : TicketStatus) (reason : Option HandoffReason)
    (steps : List TraceStep) : Key → Nat
  | .tickets other => if other = status then 1 else 0
  | .handoffs other => if reason = some other then 1 else 0
  | .toolCalls tool ok => steps.countP (isToolResult tool ok)
  | .violations literalClass =>
      (steps.map (violationCount literalClass)).sum
  | .iterationsCount => 1
  | .iterationsSum => steps.countP isLlmDecision

theorem countP_eq_sum {α : Type} (passes : α → Bool) (items : List α) :
    items.countP passes =
      (items.map fun item => if passes item then 1 else 0).sum := by
  induction items with
  | nil => rfl
  | cons item items induction =>
      rw [List.countP_cons, List.map_cons, List.sum_cons, induction,
        Nat.add_comm]

theorem added_violations
    (literalClass : LiteralClass) (violations : List Violation) :
    added (.violations literalClass)
        (violations.map fun violation =>
          .groundingViolation violation.literalClass) =
      violations.countP (·.literalClass == literalClass) := by
  rw [added, List.map_map, countP_eq_sum]
  congr 1
  apply List.map_congr_left
  intro violation _
  by_cases same : violation.literalClass = literalClass
  · simp [weight, same]
  · simp [weight, same, Ne.symm same]

theorem added_eq_zero
    {key : Key} {updates : List MetricUpdate}
    (none : ∀ update ∈ updates, weight key update = 0) :
    added key updates = 0 := by
  apply List.sum_eq_zero
  intro number member
  rcases List.mem_map.mp member with ⟨update, isUpdate, rfl⟩
  exact none update isUpdate

theorem weight_toolCall (tool called : String) (ok outcome : Bool) :
    weight (.toolCalls tool ok) (.toolCall called outcome) =
      if called == tool && outcome == ok then 1 else 0 := by
  by_cases sameTool : called = tool
  · by_cases sameOutcome : outcome = ok
    · simp [weight, sameTool, sameOutcome]
    · simp [weight, sameTool, sameOutcome, Ne.symm sameOutcome]
  · simp [weight, sameTool, Ne.symm sameTool]

/-- The part of a run's weight that lies in its steps. -/
def stepWeight (step : TraceStep) : Key → Nat
  | .toolCalls tool ok => if isToolResult tool ok step then 1 else 0
  | .violations literalClass => violationCount literalClass step
  | _ => 0

theorem added_stepUpdates (key : Key) (step : TraceStep) :
    added key (stepUpdates step) = stepWeight step key := by
  rcases step with ⟨seq, ts, payload, -, -⟩
  cases payload with
  | toolResult tool ok summary error =>
      rw [stepUpdates, added_cons, added_nil, Nat.add_zero]
      cases key with
      | toolCalls => exact weight_toolCall _ _ _ _
      | _ => rfl
  | groundingCheck passed literalsChecked violations =>
      cases key with
      | violations literalClass =>
          exact added_violations literalClass violations
      | _ =>
          apply added_eq_zero
          intro update member
          rcases List.mem_map.mp member with ⟨violation, -, rfl⟩
          rfl
  | _ => cases key <;> rfl

/-- The updates of a run add its weight to every reading. -/
theorem added_runUpdates
    (status : TicketStatus) (reason : Option HandoffReason)
    (steps : List TraceStep) (key : Key) :
    added key (runUpdates status reason steps) =
      runWeight status reason steps key := by
  have inSteps : added key (steps.flatMap stepUpdates) =
      (steps.map fun step => stepWeight step key).sum := by
    simp only [added_flatMap, added_stepUpdates]
  have shape : ∃ spans, added key spans = 0 ∧
      runUpdates status reason steps =
        (.ticket status :: reason.toList.map .handoff) ++
          (.iterations (steps.countP isLlmDecision) ::
            steps.flatMap stepUpdates) ++ spans := by
    unfold runUpdates
    split
    · exact ⟨_, rfl, rfl⟩
    · exact ⟨[], rfl, rfl⟩
  rcases shape with ⟨spans, weightless, isShape⟩
  rw [isShape, added_append, added_append, added_cons, added_cons, inSteps,
    weightless]
  cases key with
  | tickets other => cases reason <;> simp [weight, stepWeight, runWeight]
  | handoffs other =>
      cases reason <;> simp [weight, stepWeight, runWeight, eq_comm]
  | toolCalls tool ok =>
      cases reason <;> simp [weight, stepWeight, runWeight, countP_eq_sum]
  | violations literalClass =>
      cases reason <;> simp [weight, stepWeight, runWeight]
  | iterationsCount =>
      cases reason <;> simp [weight, stepWeight, runWeight]
  | iterationsSum =>
      cases reason <;> simp [weight, stepWeight, runWeight]

/-! ## What is still to be counted -/

section

variable {S : Type} (pending : S → List MetricUpdate) (ids : Finset String)
variable (key : Key) (stage : String → S)

/--
What some runs have still to count, where `pending` are the updates that a
run has to make at each stage.
-/
def owed : Nat :=
  ∑ id ∈ ids, added key (pending (stage id))

variable {pending ids key stage} {id : String} {next : S}

theorem owed_update_mem (known : id ∈ ids) :
    owed pending ids key (Function.update stage id next) +
        added key (pending (stage id)) =
      owed pending ids key stage + added key (pending next) := by
  have others : ∑ other ∈ ids.erase id,
        added key (pending (Function.update stage id next other)) =
      ∑ other ∈ ids.erase id, added key (pending (stage other)) := by
    apply Finset.sum_congr rfl
    intro other member
    rw [Function.update_of_ne (Finset.ne_of_mem_erase member)]
  rw [owed, owed, ← Finset.add_sum_erase ids _ known,
    ← Finset.add_sum_erase ids _ known, others, Function.update_self]
  omega

theorem owed_update_notMem (unknown : id ∉ ids) :
    owed pending ids key (Function.update stage id next) =
      owed pending ids key stage := by
  apply Finset.sum_congr rfl
  intro other member
  rw [Function.update_of_ne]
  rintro rfl
  exact unknown member

/-- A run that moves on owes at most what it then has to count. -/
theorem owed_update_le :
    owed pending ids key (Function.update stage id next) ≤
      owed pending ids key stage + added key (pending next) := by
  by_cases known : id ∈ ids
  · have sum := @owed_update_mem _ pending ids key stage id next known
    omega
  · rw [owed_update_notMem known]
    omega

/-- A run that makes an update owes it no longer. -/
theorem owed_counted {update : MetricUpdate}
    (counts : pending (stage id) = update :: pending next) :
    owed pending ids key (Function.update stage id next) +
        weight key update ≤
      owed pending (insert id ids) key stage := by
  have sum := @owed_update_mem _ pending (insert id ids) key stage id next
    (Finset.mem_insert_self id ids)
  have fewer : owed pending ids key (Function.update stage id next) ≤
      owed pending (insert id ids) key (Function.update stage id next) :=
    Finset.sum_le_sum_of_subset_of_nonneg (Finset.subset_insert id ids)
      fun _ _ _ => Nat.zero_le _
  rw [counts, added_cons] at sum
  omega

end

end SupportAssistant.Observability.Tally
