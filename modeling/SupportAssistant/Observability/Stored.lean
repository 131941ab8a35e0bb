import SupportAssistant.Observability.Tally
import SupportAssistant.Storage.Atomicity
import SupportAssistant.Storage.ReadBack

/-!
# What the database counts

The numbers in the database that the metrics are to agree with, and what the
write of a run adds to each.
-/

namespace SupportAssistant.Observability.Stored

open SupportAssistant.Effects.Mapping
open SupportAssistant.Enums
open SupportAssistant.Runtime
open SupportAssistant.Effects.Outcomes
open SupportAssistant.Tracing.Models
open SupportAssistant.Observability.Metrics
open SupportAssistant.Observability.Tally
open SupportAssistant.Storage.Protocol
open SupportAssistant.Storage.Sqlite
open SupportAssistant.Storage.Codec
open SupportAssistant.Storage.SqliteSpec
open SupportAssistant.Storage.ReadBack

/-! ## What the database holds -/

/-- The steps of all stored traces. -/
def storedSteps (time : TimeText) (database : Database) : List TraceStep :=
  database.traceSteps.filterMap (stepFromRow time)

def isToolCall (tool : String) (step : TraceStep) : Bool :=
  match step.payload with
  | .toolCall called _ => called == tool
  | _ => false

/-- The number in the database that a reading is to agree with. -/
def stored (time : TimeText) (database : Database) : Key → Nat
  | .tickets status => database.tickets.countP (·.status == status.value)
  | .handoffs reason =>
      database.tickets.countP (·.handoffReason == some reason.value)
  | .toolCalls tool ok =>
      (storedSteps time database).countP (isToolResult tool ok)
  | .violations literalClass =>
      ((storedSteps time database).map (violationCount literalClass)).sum
  | .iterationsCount =>
      database.tickets.countP (·.status != TicketStatus.processing.value)
  | .iterationsSum => (storedSteps time database).countP isLlmDecision

def storedToolCalls (time : TimeText) (database : Database)
    (tool : String) : Nat :=
  (storedSteps time database).countP (isToolCall tool)

/-! ## What one write adds -/

/-- The ticket waits and has no step yet. -/
structure Untouched (database : Database) (id : String) : Prop where
  waits : ∀ row ∈ database.tickets, row.id = id →
    row.status = TicketStatus.processing.value ∧ row.handoffReason = none
  noSteps : ∀ step ∈ database.traceSteps, step.ticketId ≠ id

/-- Rewriting the one row of an id, which did not pass before. -/
theorem countP_rewritten
    {rows : List TicketRow} (unique : (rows.map TicketRow.id).Nodup)
    {updatedAt : String} {call : FinaliseCall}
    (known : ∃ row ∈ rows, row.id = call.ticketId)
    {passes : TicketRow → Bool} {becomes : Bool}
    (fails : ∀ row ∈ rows, row.id = call.ticketId → passes row = false)
    (rewritten : ∀ row : TicketRow,
      passes (row.finalised updatedAt call) = becomes) :
    (rows.map fun row =>
        if row.id == call.ticketId then row.finalised updatedAt call
        else row).countP passes =
      rows.countP passes + if becomes then 1 else 0 := by
  induction rows with
  | nil => simp at known
  | cons row rows induction =>
      rw [List.map_cons, List.nodup_cons] at unique
      rw [List.map_cons, List.countP_cons, List.countP_cons]
      by_cases named : row.id = call.ticketId
      · have others : (rows.map fun row =>
            if row.id == call.ticketId then row.finalised updatedAt call
            else row) = rows := by
          refine Eq.trans (List.map_congr_left ?_) (List.map_id rows)
          intro other member
          have different : other.id ≠ call.ticketId := by
            intro same
            rw [named, ← same] at unique
            exact unique.1 (List.mem_map_of_mem member)
          simp [different]
        have isNamed : (row.id == call.ticketId) = true := by
          simpa using named
        have failed : passes row = false :=
          fails row List.mem_cons_self named
        simp only [others, isNamed, failed]
        simp [rewritten]
      · have later : ∃ row ∈ rows, row.id = call.ticketId := by
          rcases known with ⟨other, member, same⟩
          rcases List.mem_cons.mp member with rfl | member
          · exact absurd same named
          · exact ⟨other, member, same⟩
        have isOther : (row.id == call.ticketId) = false := by
          simpa using named
        rw [induction unique.2 later fun other member =>
          fails other (List.mem_cons_of_mem _ member)]
        simp only [isOther, Bool.false_eq_true, if_false]
        omega

section

variable (py : PyText) (time : TimeText)

/-- The rows of a written trace are read as its steps. -/
theorem filterMap_written
    {ticketId : String} {trace : List TraceStep} {rows : List StepRow}
    (written : trace.mapM (stepToRow py time ticketId) = .ok rows) :
    rows.filterMap (stepFromRow time) = trace.map (storedStep time) := by
  have each := mapM_ok_iff_forall₂.mp written
  clear written
  induction each with
  | nil => rfl
  | cons first rest induction =>
      rw [List.filterMap_cons_some (stepFromRow_stepToRow py time first),
        induction, List.map_cons]

variable {py time}

/-- A write leaves one row rewritten and the steps of its trace added. -/
theorem finalise_untouched
    {database after : Database} {now : DateTime} {call : FinaliseCall}
    (untouched : Untouched database call.ticketId)
    (written : finalise py time now call database = .ok ⟨⟩ after) :
    (∃ row ∈ database.tickets, row.id = call.ticketId) ∧
      after.tickets =
          (database.rewritten (time.isoformat now) call).tickets ∧
        storedSteps time after =
          storedSteps time database ++ call.trace.map (storedStep time) := by
  rcases returned_of_ok (finalise_ends py time now call database) written
    with ⟨rows, areRows, rfl, known, -⟩
  refine ⟨known, rfl, ?_⟩
  have kept : database.traceSteps.filter (·.ticketId != call.ticketId) =
      database.traceSteps := by
    rw [List.filter_eq_self]
    intro step member
    simpa using untouched.noSteps step member
  simp only [storedSteps, withTrace, Database.rewritten, kept,
    List.filterMap_append, filterMap_written py time areRows]

theorem isToolResult_storedStep (tool : String) (ok : Bool) :
    isToolResult tool ok ∘ storedStep time = isToolResult tool ok := by
  funext step
  rcases step with ⟨seq, ts, payload, -, -⟩
  cases payload <;> rfl

theorem isToolCall_storedStep (tool : String) :
    isToolCall tool ∘ storedStep time = isToolCall tool := by
  funext step
  rcases step with ⟨seq, ts, payload, -, -⟩
  cases payload <;> rfl

theorem violationCount_storedStep (literalClass : LiteralClass) :
    violationCount literalClass ∘ storedStep time =
      violationCount literalClass := by
  funext step
  rcases step with ⟨seq, ts, payload, -, -⟩
  cases payload <;> rfl

theorem isLlmDecision_storedStep :
    isLlmDecision ∘ storedStep time = isLlmDecision := by
  funext step
  rcases step with ⟨seq, ts, payload, -, -⟩
  cases payload <;> rfl

/-- A write of a waiting ticket adds the weight of its run. -/
theorem stored_finalised
    {database after : Database} {now : DateTime} {call : FinaliseCall}
    (unique : (database.tickets.map TicketRow.id).Nodup)
    (untouched : Untouched database call.ticketId)
    (terminal : call.status ≠ .processing)
    (written : finalise py time now call database = .ok ⟨⟩ after)
    {key : Key} (counted : key ≠ .tickets .processing) :
    stored time after key =
      stored time database key +
        runWeight call.status call.handoffReason call.trace key := by
  rcases finalise_untouched untouched written with ⟨known, tickets, steps⟩
  cases key with
  | tickets status =>
      have other : status ≠ .processing := by
        rintro rfl
        exact counted rfl
      rw [stored, tickets, Database.rewritten,
        @countP_rewritten _ unique _ _ known _ (call.status == status)]
      · by_cases same : call.status = status
        · simp [stored, runWeight, same]
        · simp [stored, runWeight, same, Ne.symm same]
      · intro row member named
        rw [(untouched.waits row member named).1, beq_eq_false_iff_ne, ne_eq,
          status_value_inj]
        exact other.symm
      · intro row
        rw [Bool.eq_iff_iff, beq_iff_eq, beq_iff_eq]
        exact status_value_inj
  | handoffs reason =>
      rw [stored, tickets, Database.rewritten,
        @countP_rewritten _ unique _ _ known _
          (call.handoffReason == some reason)]
      · simp [stored, runWeight]
      · intro row member named
        simp [(untouched.waits row member named).2]
      · intro row
        rw [Bool.eq_iff_iff, beq_iff_eq, beq_iff_eq]
        change call.handoffReason.map HandoffReason.value =
          some reason.value ↔ _
        rw [Option.map_eq_some_iff]
        simp [reason_value_inj]
  | iterationsCount =>
      rw [stored, tickets, Database.rewritten,
        @countP_rewritten _ unique _ _ known _ true]
      · rfl
      · intro row member named
        simp [(untouched.waits row member named).1]
      · intro row
        rw [bne_iff_ne]
        change call.status.value ≠ TicketStatus.processing.value
        rw [ne_eq, status_value_inj]
        exact terminal
  | toolCalls tool ok =>
      rw [stored, steps, List.countP_append, List.countP_map,
        isToolResult_storedStep]
      rfl
  | violations literalClass =>
      rw [stored, steps, List.map_append, List.sum_append, List.map_map,
        violationCount_storedStep]
      rfl
  | iterationsSum =>
      rw [stored, steps, List.countP_append, List.countP_map,
        isLlmDecision_storedStep]
      rfl

theorem storedToolCalls_finalised
    {database after : Database} {now : DateTime} {call : FinaliseCall}
    (untouched : Untouched database call.ticketId)
    (written : finalise py time now call database = .ok ⟨⟩ after)
    (tool : String) :
    storedToolCalls time after tool =
      storedToolCalls time database tool +
        call.trace.countP (isToolCall tool) := by
  rw [storedToolCalls, (finalise_untouched untouched written).2.2,
    List.countP_append, List.countP_map, isToolCall_storedStep]
  rfl

/-- What a write leaves of the other tickets. -/
theorem untouched_finalised
    {database after : Database} {now : DateTime} {call : FinaliseCall}
    (written : finalise py time now call database = .ok ⟨⟩ after)
    {id : String} (other : id ≠ call.ticketId)
    (untouched : Untouched database id) :
    Untouched after id := by
  rcases returned_of_ok (finalise_ends py time now call database) written
    with ⟨rows, areRows, rfl, -, -⟩
  constructor
  · intro row member named
    rcases List.mem_map.mp member with ⟨before, wasStored, rfl⟩
    by_cases rewritten : before.id == call.ticketId
    · rw [if_pos rewritten] at named
      exact absurd (named.symm.trans (beq_iff_eq.mp rewritten)) other
    · rw [if_neg rewritten] at named ⊢
      exact untouched.waits before wasStored named
  · intro step member
    rcases List.mem_append.mp member with kept | added
    · exact untouched.noSteps step (List.mem_of_mem_filter kept)
    · rw [((reads_written time py areRows).2 step added).1]
      exact other.symm

theorem ids_finalised
    {database after : Database} {now : DateTime} {call : FinaliseCall}
    (written : finalise py time now call database = .ok ⟨⟩ after) :
    after.tickets.map TicketRow.id = database.tickets.map TicketRow.id := by
  rcases returned_of_ok (finalise_ends py time now call database) written
    with ⟨rows, -, rfl, -, -⟩
  rw [withTrace, Database.rewritten, List.map_map]
  apply List.map_congr_left
  intro row _
  simp only [Function.comp]
  split <;> rfl

end

end SupportAssistant.Observability.Stored
