import Mathlib.Algebra.Order.BigOperators.Group.Finset
import Mathlib.Tactic.Linarith
import SupportAssistant.Api.Lifecycle
import SupportAssistant.Observability.Stored

/-!
# The metrics across restarts

The registry starts from nothing with every process, and a process may die
with a run half counted.  So the metrics can fall behind the database, and
they never run ahead of it: no counter shows an event that is not stored.
-/

namespace SupportAssistant.Api.Restarts

open SupportAssistant.Runtime
open SupportAssistant.Runtime.Ascii
open SupportAssistant.Effects.Outcomes
open SupportAssistant.Enums
open SupportAssistant.Tracing.Models
open SupportAssistant.Observability.Metrics
open SupportAssistant.Observability.Tally
open SupportAssistant.Observability.Stored
open SupportAssistant.Storage.Sqlite
open SupportAssistant.Storage.SqliteSpec
open SupportAssistant.Storage.Finality
open SupportAssistant.Pipeline.Orchestrator
open SupportAssistant.Api.Routes
open SupportAssistant.Api.Process
open SupportAssistant.Api.Lifecycle

/-! ## What is still to be counted -/

def Stage.pending : Stage → List MetricUpdate
  | .counting updates => updates
  | _ => []

theorem owed_nothing {ids : Finset String} {key : Key} :
    owed Stage.pending ids key (fun _ => .absent) = 0 :=
  Finset.sum_eq_zero fun _ _ => rfl

/-! ## Every moment -/

section

variable {py : PyText} {pydantic : Pydantic} {time : TimeText}
variable {world next : World}

/-- The database covers what is counted and what is still to be counted. -/
structure Covered (time : TimeText) (world : World) : Prop where
  unique : (world.database.tickets.map TicketRow.id).Nodup
  covers : ∀ key, key ≠ .tickets .processing → ∀ ids,
    reading world.metrics key + owed Stage.pending ids key world.stage ≤
      stored time world.database key

theorem covered_start : Covered time World.start where
  unique := List.nodup_nil
  covers key _ ids := by
    change reading .create key +
      (owed Stage.pending ids key fun _ => .absent : ℕ) ≤ _
    rw [reading_create, owed_nothing]
    simp

/-- A run that moves on without writing and without counting. -/
theorem Covered.advanced (covered : Covered time world) {id : String}
    {stage : Stage} (nothing : Stage.pending stage = []) :
    Covered time (world.advance id stage) where
  unique := covered.unique
  covers key counted ids := by
    have before := covered.covers key counted ids
    have fewer := @owed_update_le _ Stage.pending ids key world.stage id stage
    rw [nothing, added_nil, Nat.add_zero] at fewer
    have fewer : (owed Stage.pending ids key
          (Function.update world.stage id stage) : ℚ) ≤
        owed Stage.pending ids key world.stage := by
      exact_mod_cast fewer
    change reading world.metrics key +
      (owed Stage.pending ids key
        (Function.update world.stage id stage) : ℚ) ≤
        stored time world.database key
    linarith

/-- A fresh ticket counts for nothing yet. -/
theorem stored_posted {database : Database} {id : String}
    {payload : CreateTicketRequest} {created : Reading} {key : Key}
    (counted : key ≠ .tickets .processing) :
    stored time (withTicket database (postedRow time id payload created))
        key =
      stored time database key := by
  have row : (postedRow time id payload created).status =
      TicketStatus.processing.value := rfl
  have reasonless :
      (postedRow time id payload created).handoffReason = none := rfl
  cases key with
  | tickets status =>
      have other : TicketStatus.processing.value ≠ status.value := by
        rw [ne_eq, status_value_inj]
        rintro rfl
        exact counted rfl
      simp [stored, withTicket, row, other]
  | handoffs reason => simp [stored, withTicket, reasonless]
  | iterationsCount => simp [stored, withTicket, row]
  | toolCalls tool ok => rfl
  | violations literalClass => rfl
  | iterationsSum => rfl

/-- A ticket that is about to be written has not been written before. -/
theorem untouched_of_posted {database : Database} {id : String}
    {payload : CreateTicketRequest} {created : Reading}
    (unique : (database.tickets.map TicketRow.id).Nodup)
    (found : entry id database =
      (some (postedRow time id payload created), [])) :
    Untouched database id where
  waits row member named := by
    have isRow := congrArg Prod.fst found
    have isFound : database.tickets.find? (·.id == id) =
        some (postedRow time id payload created) := isRow
    have same : row = postedRow time id payload created :=
      List.inj_on_of_nodup_map unique member
        (List.mem_of_find?_eq_some isFound) named
    rw [same]
    exact ⟨rfl, rfl⟩
  noSteps step member named := by
    have none : database.stepsOf id = [] := congrArg Prod.snd found
    have owned : step ∈ database.stepsOf id := by
      rw [Database.stepsOf, List.mem_insertionSort, List.mem_filter]
      exact ⟨member, by simpa using named⟩
    rw [none] at owned
    simp at owned

theorem covered_wrote (lawful : Lawful py time world)
    (covered : Covered time world) {id : String} {outcome : Outcome}
    {steps : List TraceStep} {database : Database} {now : Reading}
    (writes : world.stage id = .writing (outcome, steps))
    (written : finalise py time now (finaliseCall id outcome steps)
      world.database = .ok ⟨⟩ database) :
    Covered time
      { (world.advance id
          (.counting (runUpdates outcome.status outcome.reason
            steps))).read now with
        database } := by
  rcases (lawful.stands id).of_writing writes with
    ⟨payload, created, facts, concluding, -⟩
  have untouched := untouched_of_posted covered.unique
    (congrArg Facts.found facts)
  have terminal : outcome.status ≠ .processing := by
    rcases concluding.either with ⟨reply, same, -⟩ | ⟨reason, detail, same⟩ <;>
      · rw [show outcome = _ from same]
        simp [replied, handedOff]
  refine
    { unique := by
        rw [ids_finalised written]
        exact covered.unique
      covers := ?_ }
  intro key counted ids
  have grown := stored_finalised covered.unique untouched terminal written
    counted
  have before := covered.covers key counted ids
  have fewer := @owed_update_le _ Stage.pending ids key world.stage id
    (.counting (runUpdates outcome.status outcome.reason steps))
  rw [Stage.pending, added_runUpdates] at fewer
  have fewer : (owed Stage.pending ids key (Function.update world.stage id
        (.counting (runUpdates outcome.status outcome.reason steps))) : ℚ) ≤
      owed Stage.pending ids key world.stage +
        runWeight outcome.status outcome.reason steps key := by
    exact_mod_cast fewer
  change reading world.metrics key +
    (owed Stage.pending ids key (Function.update world.stage id _) : ℚ) ≤
      stored time database key
  rw [grown]
  push_cast
  change reading world.metrics key + _ ≤
    (stored time world.database key : ℚ) +
      runWeight outcome.status outcome.reason steps key
  linarith

theorem covered_posted (covered : Covered time world)
    {payload : CreateTicketRequest} {id : String} {now : Reading}
    {database : Database} {accepted : List String}
    (created : create py time (newTicket payload id now) world.database =
      .ok ⟨⟩ database) :
    Covered time
      { (world.advance id .scheduled).read now with
        database, accepted } := by
  rcases returned_of_ok (create_ends py time _ _) created with
    ⟨rfl, -, fresh⟩
  have moved := @Covered.advanced time world covered id .scheduled rfl
  constructor
  · change ((world.database.tickets ++
      [postedRow time id payload now]).map TicketRow.id).Nodup
    rw [List.map_append, List.nodup_append]
    refine ⟨covered.unique, by simp, ?_⟩
    intro other member named isNamed same
    rcases List.mem_map.mp member with ⟨row, stored, rfl⟩
    exact fresh row stored (same.trans (List.mem_singleton.mp isNamed))
  · intro key counted ids
    have before := moved.covers key counted ids
    have same := @stored_posted time world.database id payload now key
      counted
    change reading world.metrics key +
      (owed Stage.pending ids key
        (Function.update world.stage id .scheduled) : ℚ) ≤
        stored time (withTicket world.database
          (postedRow time id payload now)) key
    rw [same]
    exact before

/-- What is counted is not owed any more. -/
theorem covered_counted (covered : Covered time world) {id : String}
    {update : MetricUpdate} {updates : List MetricUpdate}
    (counts : world.stage id = .counting (update :: updates)) :
    Covered time
      { world.advance id (.counting updates) with
        metrics := world.metrics.update update } := by
  refine { unique := covered.unique, covers := ?_ }
  intro key counted ids
  have before := covered.covers key counted (insert id ids)
  have moved := @owed_counted _ Stage.pending ids key world.stage id
    (.counting updates) _ (congrArg Stage.pending counts)
  have moved : (owed Stage.pending ids key (Function.update world.stage id
        (.counting updates)) : ℚ) + weight key update ≤
      owed Stage.pending (insert id ids) key world.stage := by
    exact_mod_cast moved
  change reading (world.metrics.update update) key +
    (owed Stage.pending ids key (Function.update world.stage id _) : ℚ) ≤
      stored time world.database key
  rw [reading_update]
  linarith

theorem covered_step (lawful : Lawful py time world)
    (step : Step py pydantic time world next)
    (covered : Covered time world) : Covered time next := by
  cases step with
  | posted payload id now created => exact covered_posted covered created
  | refused payload id now raised =>
      have same := raised_of_error (create_ends py time _ _) raised
      subst same
      exact { unique := covered.unique, covers := covered.covers }
  | began wiring templates before scheduled found =>
      exact covered.advanced rfl
  | missed scheduled missing => exact covered.advanced rfl
  | @happened id event ahead verdict runs =>
      have witnessed : Covered time (world.witness id event) := by
        cases event <;>
          exact { unique := covered.unique, covers := covered.covers }
      exact witnessed.advanced rfl
  | concluded runs => exact covered.advanced rfl
  | escaped runs => exact covered.advanced rfl
  | wrote now writes written =>
      exact covered_wrote lawful covered writes written
  | @failed id verdict now writes =>
      have moved := @Covered.advanced time world covered id .absent rfl
      exact { unique := moved.unique, covers := moved.covers }
  | counted counts => exact covered_counted covered counts
  | done counts => exact covered.advanced rfl
  | restarted =>
      refine { unique := covered.unique, covers := ?_ }
      intro key counted ids
      change reading .create key +
      (owed Stage.pending ids key fun _ => .absent : ℕ) ≤ _
      rw [reading_create, owed_nothing]
      simp

theorem reachable_covered (reached : Reachable py pydantic time world) :
    Covered time world := by
  induction reached with
  | refl => exact covered_start
  | tail earlier step induction =>
      exact covered_step (reachable_lawful earlier) step induction

/--
In every reachable world no counter shows more than the database holds,
whatever runs are still to count and however often the process has died.
-/
theorem metrics_never_exceed_storage
    (reached : Reachable py pydantic time world) {key : Key}
    (counted : key ≠ .tickets .processing) :
    reading world.metrics key ≤ stored time world.database key := by
  have covered := (reachable_covered reached).covers key counted ∅
  simpa [owed] using covered

theorem settledWorld_covers :
    reading settledWorld.metrics .iterationsCount ≤
      stored tallyTime settledWorld.database .iterationsCount :=
  metrics_never_exceed_storage
    (postedWorld_reached.trans settledWorld_later) (by simp)

end

end SupportAssistant.Api.Restarts
