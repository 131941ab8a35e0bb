import SupportAssistant.Storage.Codec

/-!
# What one call does to the database

A call that raises leaves the database as it was.  `create` adds one row with
a fresh id; `finalise` rewrites the rows of its ticket and replaces its steps;
`get` changes nothing.
-/

namespace SupportAssistant.Storage.SqliteSpec

open SupportAssistant.Runtime
open SupportAssistant.Effects.Outcomes
open SupportAssistant.Domain
open SupportAssistant.Storage.Protocol
open SupportAssistant.Storage.Sqlite

section

variable (py : PyText) (time : TimeText)

theorem ends_rolledBack
    {α : Type} {body : EStateM Exc Database α} {database : Database}
    {returned : α → Database → Prop} {raised : Prop}
    (ends : Ends body database returned fun _ _ => raised) :
    Ends (transaction body) database returned
      fun _ after => raised ∧ after = database := by
  unfold Ends at ends ⊢
  unfold transaction
  cases ran : body database with
  | ok value after =>
      rw [ran] at ends
      exact ends
  | error exc after =>
      rw [ran] at ends
      exact ⟨ends, rfl⟩

theorem ends_transaction
    {α : Type} {body : EStateM Exc Database α} {database : Database}
    {returned : α → Database → Prop}
    (ends : Ends body database returned fun _ _ => True) :
    Ends (transaction body) database returned
      fun _ after => after = database :=
  ends_mono (ends_rolledBack ends) (fun _ _ => id) fun _ _ => And.right

theorem bindTexts_bound
    {texts : List String} (bound : ∀ text ∈ texts, py.encodes text = true) :
    bindTexts py texts = pure ⟨⟩ :=
  if_pos (List.all_eq_true.mpr bound)

theorem bindTexts_unbound
    {texts : List String}
    (unbound : ¬ ∀ text ∈ texts, py.encodes text = true) :
    bindTexts py texts = throw (unicodeEncodeError py) :=
  if_neg fun all => unbound (List.all_eq_true.mp all)

/-- What follows runs on texts that were bound, from the same database. -/
theorem ends_bindTexts_bind
    {α : Type} {texts : List String}
    {body : Unit → EStateM Exc Database α} {database : Database}
    {returned : α → Database → Prop} {raised : Exc → Database → Prop}
    (bound : (∀ text ∈ texts, py.encodes text = true) →
      Ends (body ⟨⟩) database returned raised)
    (unbound : ¬ (∀ text ∈ texts, py.encodes text = true) →
      raised (unicodeEncodeError py) database) :
    Ends (bindTexts py texts >>= body) database returned raised := by
  by_cases encodable : ∀ text ∈ texts, py.encodes text = true
  · rw [bindTexts_bound py encodable, pure_bind]
    exact bound encodable
  · rw [bindTexts_unbound py encodable]
    exact unbound encodable

/-! ## Creating -/

/-- The database with one more ticket. -/
def withTicket (database : Database) (row : TicketRow) : Database :=
  { database with tickets := database.tickets ++ [row] }

theorem create_ends (ticket : Ticket) (database : Database) :
    Ends (create py time ticket) database
      (fun _ after =>
        after = withTicket database (ticketRow time ticket) ∧
          (ticketRow time ticket).check = true ∧
            ∀ row ∈ database.tickets, row.id ≠ ticket.id)
      (fun _ after => after = database) := by
  apply ends_transaction
  refine ends_bindTexts_bind py (fun _ => ?_) fun _ => trivial
  simp only [insertTicket]
  apply ends_get_bind
  split
  · exact ends_throw trivial
  · rename_i passes
    split
    · exact ends_throw trivial
    · rename_i fresh
      apply ends_set
      refine ⟨rfl, by simpa using passes, ?_⟩
      intro row member same
      apply fresh
      rw [List.any_eq_true]
      exact ⟨row, member, by simp [same, ticketRow]⟩

/-! ## Finalising -/

/-- The database with the trace of one ticket replaced. -/
def withTrace (database : Database) (ticketId : String)
    (rows : List StepRow) : Database :=
  { database with
    traceSteps :=
      database.traceSteps.filter (·.ticketId != ticketId) ++ rows }

theorem updateTicket_ends
    (updatedAt : String) (call : FinaliseCall) (database : Database) :
    Ends (updateTicket py updatedAt call) database
      (fun _ after =>
        after = database.rewritten updatedAt call ∧
          (∃ row ∈ database.tickets, row.id = call.ticketId) ∧
            ∀ row ∈ database.tickets, row.id = call.ticketId →
              (row.finalised updatedAt call).check = true)
      (fun _ _ => True) := by
  simp only [updateTicket]
  apply ends_get_bind
  split
  · exact ends_throw trivial
  · rename_i passes
    split
    · exact ends_throw trivial
    · rename_i some
      apply ends_set
      refine ⟨rfl, ?_, ?_⟩
      · simp only [List.isEmpty_iff, List.filter_eq_nil_iff, beq_iff_eq]
          at some
        push Not at some
        exact some
      · intro row member same
        simp only [Bool.not_eq_true', Bool.not_eq_false, List.all_eq_true,
          List.mem_map, List.mem_filter, beq_iff_eq,
          forall_exists_index, and_imp] at passes
        exact passes _ row member same rfl

theorem insertSteps_ends (rows : List StepRow) (database : Database) :
    Ends (insertSteps py rows) database
      (fun _ after =>
        after = { database with traceSteps := database.traceSteps ++ rows })
      (fun _ _ => True) := by
  induction rows generalizing database with
  | nil =>
      apply ends_pure
      rw [List.append_nil]
  | cons row rows induction =>
      simp only [insertSteps, insertStep]
      apply ends_bind (fun _ after =>
        after = { database with traceSteps := database.traceSteps ++ [row] })
      · apply ends_get_bind
        split
        · exact ends_throw trivial
        · split
          · exact ends_throw trivial
          · exact ends_set rfl
      · rintro - - rfl
        apply ends_mono (induction _)
        · rintro - after rfl
          simp
        · intro exc after _
          trivial

/-- A `finalise` that returns has rewritten the ticket and its trace. -/
theorem finalise_ends
    (now : DateTime) (call : FinaliseCall) (database : Database) :
    Ends (finalise py time now call) database
      (fun _ after =>
        ∃ rows,
          call.trace.mapM (stepToRow py time call.ticketId) = .ok rows ∧
            after = withTrace
              (database.rewritten (time.isoformat now) call)
              call.ticketId rows ∧
              (∃ row ∈ database.tickets, row.id = call.ticketId) ∧
                ∀ row ∈ database.tickets, row.id = call.ticketId →
                  (row.finalised (time.isoformat now) call).check = true)
      (fun _ after => after = database) := by
  apply ends_transaction
  refine ends_bindTexts_bind py (fun _ => ?_) fun _ => trivial
  apply ends_bind _ (updateTicket_ends py (time.isoformat now) call database)
  rintro - updated ⟨rfl, stored, passes⟩
  apply ends_bind (fun _ after =>
    after = withTrace (database.rewritten (time.isoformat now) call)
      call.ticketId [])
  · simp only [deleteSteps]
    apply ends_modify
    simp [withTrace]
  rintro - - rfl
  apply ends_answer_bind
  · intro rows written
    apply ends_mono (insertSteps_ends py rows _)
    · rintro - after rfl
      exact ⟨rows, written, by simp [withTrace], stored, passes⟩
    · intro exc after _
      trivial
  · intro exc unwritten
    trivial

variable (pydantic : Pydantic)

/-- Reading changes nothing. -/
theorem get_ends (ticketId : String) (database : Database) :
    Ends ((sqliteRepository py pydantic time).get ticketId) database
      (fun found after => after = database ∧
        getTicket py pydantic time database ticketId = .ok found)
      (fun _ after => after = database) := by
  simp only [sqliteRepository]
  refine ends_bindTexts_bind py (fun _ => ?_) fun _ => rfl
  apply ends_get_bind
  apply ends_answer
  · intro found equal
    exact ⟨rfl, equal⟩
  · intro exc _
    rfl

/-! ## All calls -/

/-- What a call can do to the database. -/
inductive Changed (database : Database) : Operation → Database → Prop where
  | unchanged {operation : Operation} :
      Changed database operation database
  | created (ticket : Ticket)
      (passes : (ticketRow time ticket).check = true)
      (fresh : ∀ row ∈ database.tickets, row.id ≠ ticket.id) :
      Changed database (.create ticket)
        (withTicket database (ticketRow time ticket))
  | finalised (now : Reading) (call : FinaliseCall) (rows : List StepRow)
      (written :
        call.trace.mapM (stepToRow py time call.ticketId) = .ok rows)
      (stored : ∃ row ∈ database.tickets, row.id = call.ticketId)
      (passes : ∀ row ∈ database.tickets, row.id = call.ticketId →
        (row.finalised (time.isoformat now) call).check = true) :
      Changed database (.finalise now call)
        (withTrace (database.rewritten (time.isoformat now) call)
          call.ticketId rows)

theorem performed_changed (operation : Operation) (database : Database) :
    Changed py time database operation
      (performed (sqliteRepository py pydantic time) database operation) := by
  cases operation with
  | create ticket =>
      apply ends_finalState
      apply ends_mono (create_ends py time ticket database)
      · rintro - after ⟨rfl, passes, fresh⟩
        exact .created ticket passes fresh
      · rintro exc after rfl
        exact .unchanged
  | get ticketId =>
      apply ends_finalState
      simp only [perform]
      apply ends_bind (fun _ after => after = database)
      · apply ends_mono (get_ends py time pydantic ticketId database)
        · rintro found after ⟨rfl, -⟩
          rfl
        · rintro exc after rfl
          exact .unchanged
      · rintro found - rfl
        exact ends_pure .unchanged
  | finalise now call =>
      apply ends_finalState
      apply ends_mono (finalise_ends py time now call database)
      · rintro - after ⟨rows, written, rfl, stored, passes⟩
        exact .finalised now call rows written stored passes
      · rintro exc after rfl
        exact .unchanged

end

end SupportAssistant.Storage.SqliteSpec
