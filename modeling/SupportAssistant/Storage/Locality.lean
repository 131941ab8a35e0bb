import SupportAssistant.Effects.Invariants
import SupportAssistant.Effects.Locality
import SupportAssistant.Effects.Lockstep
import SupportAssistant.Storage.Interchange

/-!
# Tickets do not see each other

Both repositories are local: a call sees and changes nothing but what is
stored under the id it is about, whether it returns or raises.
-/

namespace SupportAssistant.Storage.Locality

open SupportAssistant.Runtime
open SupportAssistant.Effects.Outcomes
open SupportAssistant.Effects.Invariants
open SupportAssistant.Effects.Locality
open SupportAssistant.Effects.Lockstep
open SupportAssistant.Tracing.Models
open SupportAssistant.Domain
open SupportAssistant.Storage.Protocol
open SupportAssistant.Storage.Memory (Store memoryRepository)
open SupportAssistant.Storage.Sqlite
open SupportAssistant.Storage.Atomicity
open SupportAssistant.Storage.Finality (lookup_replace)
open SupportAssistant.Storage.Interchange

/-- The id that a call is about. -/
def keyOf : Operation → String
  | .create ticket => ticket.id
  | .get ticketId => ticketId
  | .finalise _ call => call.ticketId

/-- A repository whose calls keep to the rows of their ids is local. -/
theorem local_of_respond {ρ ν : Type} {repository : TicketRepository ρ}
    {view : String → ρ → ν}
    (others : ∀ operation other, keyOf operation ≠ other → ∀ seen,
      Keeps (fun store => view other store = seen)
        (respond repository operation))
    (own : ∀ operation,
      InLockstep
        (fun left right =>
          view (keyOf operation) left = view (keyOf operation) right)
        (respond repository operation) (respond repository operation)) :
    Local (asked repository) keyOf view where
  others store operation other different := by
    have kept := (others operation other different _).finalState
      (show view other store = view other store from rfl)
    rw [finalState] at kept
    unfold asked
    cases ran : respond repository operation store with
    | ok answer after =>
        rw [ran] at kept
        exact kept
    | error exc after =>
        rw [ran] at kept
        exact kept
  own store store' operation same := by
    have tied := own operation store store' same
    unfold asked
    generalize respond repository operation store = result at tied
    generalize respond repository operation store' = result' at tied
    cases tied with
    | returned holds => exact ⟨rfl, holds⟩
    | raised holds => exact ⟨rfl, holds⟩

/-! ## The database -/

/-- The rows under an id. -/
def shelf (id : String) (database : Database) :
    List TicketRow × List StepRow :=
  (database.tickets.filter (·.id == id),
    database.traceSteps.filter (·.ticketId == id))

section

variable (py : PyText) (pydantic : Pydantic) (time : TimeText)
variable {id : String} {seen : List TicketRow × List StepRow}

theorem keeps_transaction {α : Type} {body : EStateM Exc Database α}
    {invariant : Database → Prop} (keeps : Keeps invariant body) :
    Keeps invariant (transaction body) := by
  intro database holds
  have ends := keeps database holds
  unfold Ends at ends ⊢
  unfold transaction
  cases ran : body database with
  | ok value after =>
      rw [ran] at ends
      exact ends
  | error exc after => exact holds

theorem lockstep_transaction {α : Type} {body body' : EStateM Exc Database α}
    {related : Database → Database → Prop}
    (lockstep : InLockstep related body body') :
    InLockstep related (transaction body) (transaction body') := by
  intro left right holds
  have tied := lockstep left right holds
  unfold transaction
  generalize body left = result at tied
  generalize body' right = result' at tied
  cases tied with
  | returned after => exact .returned after
  | raised => exact .raised holds

theorem keeps_bindTexts (texts : List String)
    {invariant : Database → Prop} :
    Keeps invariant (bindTexts py texts) := by
  unfold bindTexts
  split
  · exact keeps_pure _
  · exact keeps_throw _

theorem lockstep_bindTexts (texts : List String)
    {related : Database → Database → Prop} :
    InLockstep related (bindTexts py texts) (bindTexts py texts) := by
  unfold bindTexts
  split
  · exact lockstep_pure _
  · exact lockstep_throw _

theorem keeps_insertTicket {row : TicketRow} (different : row.id ≠ id) :
    Keeps (fun database => shelf id database = seen)
      (insertTicket py row) := by
  apply keeps_get_bind
  intro database holds
  split
  · exact ends_throw holds
  · split
    · exact ends_throw holds
    · apply ends_set
      rw [← holds]
      simp [shelf, different]

omit py time in
/-- The rows under an id, when the ticket of a call is rewritten. -/
theorem tickets_rewritten (database : Database) (updatedAt : String)
    (call : FinaliseCall) (id : String) :
    (database.rewritten updatedAt call).tickets.filter (·.id == id) =
      (database.tickets.filter (·.id == id)).map fun row =>
        if row.id == call.ticketId then row.finalised updatedAt call
        else row := by
  rw [Database.rewritten, List.filter_map]
  congr 1
  apply List.filter_congr
  intro row _
  rw [Function.comp]
  split <;> rfl

theorem keeps_updateTicket {call : FinaliseCall} (updatedAt : String)
    (different : call.ticketId ≠ id) :
    Keeps (fun database => shelf id database = seen)
      (updateTicket py updatedAt call) := by
  apply keeps_get_bind
  intro database holds
  dsimp only
  split
  · exact ends_throw holds
  · split
    · exact ends_throw holds
    · apply ends_set
      rw [← holds]
      refine Prod.ext ?_ rfl
      refine (tickets_rewritten database updatedAt call id).trans ?_
      refine (List.map_congr_left ?_).trans (List.map_id _)
      intro row member
      have owner := (List.mem_filter.mp member).2
      rw [if_neg]
      · rfl
      · intro isCall
        exact different ((beq_iff_eq.mp isCall).symm.trans
          (beq_iff_eq.mp owner))

theorem keeps_deleteSteps {ticketId : String} (different : ticketId ≠ id) :
    Keeps (fun database => shelf id database = seen)
      (deleteSteps ticketId) := by
  apply keeps_modify
  intro database holds
  rw [← holds]
  refine Prod.ext rfl ?_
  change (database.traceSteps.filter _).filter _ = _
  rw [List.filter_filter]
  apply List.filter_congr
  intro step _
  by_cases owner : step.ticketId = id
  · simp [owner, Ne.symm different]
  · simp [owner]

theorem keeps_insertSteps {rows : List StepRow}
    (foreign : ∀ row ∈ rows, row.ticketId ≠ id) :
    Keeps (fun database => shelf id database = seen)
      (insertSteps py rows) := by
  induction rows with
  | nil => exact keeps_pure _
  | cons row rows induction =>
      rw [List.forall_mem_cons] at foreign
      refine keeps_bind ?_ fun _ => induction foreign.2
      apply keeps_get_bind
      intro database holds
      split
      · exact ends_throw holds
      · split
        · exact ends_throw holds
        · apply ends_set
          rw [← holds]
          simp [shelf, foreign.1]

theorem keeps_respond (operation : Operation)
    (different : keyOf operation ≠ id) :
    Keeps (fun database => shelf id database = seen)
      (respond (sqliteRepository py pydantic time) operation) := by
  cases operation with
  | create ticket =>
      refine keeps_bind ?_ fun _ => keeps_pure _
      apply keeps_transaction
      exact keeps_bind (keeps_bindTexts py _)
        fun _ => keeps_insertTicket py different
  | get ticketId =>
      refine keeps_bind ?_ fun _ => keeps_pure _
      refine keeps_bind (keeps_bindTexts py [ticketId]) fun _ => ?_
      apply keeps_get_bind
      intro database holds
      exact keeps_answer _ database holds
  | finalise now call =>
      refine keeps_bind ?_ fun _ => keeps_pure _
      apply keeps_transaction
      refine keeps_bind (keeps_bindTexts py _) fun _ => ?_
      refine keeps_bind (keeps_updateTicket py _ different) fun _ => ?_
      refine keeps_bind (keeps_deleteSteps different) fun _ => ?_
      intro database holds
      apply ends_answer_bind
      · intro rows written
        have owned := (rows_columns py time written).1
        apply keeps_insertSteps py ?_ database holds
        intro row member
        rw [owned row member]
        exact different
      · exact fun _ _ => holds

/-! ### What a call sees -/

/-- Two databases that agree under an id. -/
def SameShelf (id : String) (left right : Database) : Prop :=
  shelf id left = shelf id right

omit py time in
theorem SameShelf.tickets {left right : Database}
    (same : SameShelf id left right) :
    left.tickets.filter (·.id == id) = right.tickets.filter (·.id == id) :=
  congrArg Prod.fst same

omit py time in
theorem SameShelf.steps {left right : Database}
    (same : SameShelf id left right) :
    left.traceSteps.filter (·.ticketId == id) =
      right.traceSteps.filter (·.ticketId == id) :=
  congrArg Prod.snd same

omit py time in
/-- A search among the tickets of an id is a search on its shelf. -/
theorem any_of_shelf {left right : Database}
    (same : SameShelf id left right) :
    left.tickets.any (·.id == id) = right.tickets.any (·.id == id) := by
  have search (tickets : List TicketRow) :
      tickets.any (·.id == id) =
        (tickets.filter (·.id == id)).any fun _ => true := by
    simp
  rw [search left.tickets, search right.tickets, same.tickets]

theorem lockstep_insertTicket (row : TicketRow) :
    InLockstep (SameShelf row.id) (insertTicket py row)
      (insertTicket py row) := by
  apply lockstep_get_bind
  intro left right same
  rw [any_of_shelf same]
  split
  · exact lockstep_throw _
  · split
    · exact lockstep_throw _
    · apply lockstep_set
      simp [SameShelf, shelf, same.tickets, same.steps]

theorem lockstep_updateTicket (updatedAt : String) (call : FinaliseCall) :
    InLockstep (SameShelf call.ticketId) (updateTicket py updatedAt call)
      (updateTicket py updatedAt call) := by
  apply lockstep_get_bind
  intro left right same
  dsimp only
  rw [same.tickets]
  split
  · exact lockstep_throw _
  · split
    · exact lockstep_throw _
    · apply lockstep_set
      refine Prod.ext ?_ same.steps
      change (left.rewritten updatedAt call).tickets.filter _ =
        (right.rewritten updatedAt call).tickets.filter _
      rw [tickets_rewritten, tickets_rewritten, same.tickets]

theorem lockstep_deleteSteps (ticketId : String) :
    InLockstep (SameShelf ticketId) (deleteSteps ticketId)
      (deleteSteps ticketId) := by
  apply lockstep_modify
  intro left right same
  refine Prod.ext same.tickets ?_
  have emptied (steps : List StepRow) :
      (steps.filter (·.ticketId != ticketId)).filter
        (·.ticketId == ticketId) = [] := by
    simp
  exact (emptied left.traceSteps).trans (emptied right.traceSteps).symm

theorem lockstep_insertSteps {rows : List StepRow}
    (owned : ∀ row ∈ rows, row.ticketId = id) :
    InLockstep (SameShelf id) (insertSteps py rows)
      (insertSteps py rows) := by
  induction rows with
  | nil => exact lockstep_pure _
  | cons row rows induction =>
      rw [List.forall_mem_cons] at owned
      refine lockstep_bind ?_ fun _ => induction owned.2
      apply lockstep_get_bind
      intro left right same
      have clashes :
          (left.traceSteps.any fun other =>
            other.ticketId == row.ticketId && other.seq == row.seq) =
            right.traceSteps.any fun other =>
              other.ticketId == row.ticketId && other.seq == row.seq := by
        rw [← List.any_filter, ← List.any_filter, owned.1, same.steps]
      rw [clashes]
      split
      · exact lockstep_throw _
      · split
        · exact lockstep_throw _
        · apply lockstep_set
          simp [SameShelf, shelf, same.tickets, same.steps]

theorem getTicket_of_shelf {left right : Database}
    (same : SameShelf id left right) :
    getTicket py pydantic time left id =
      getTicket py pydantic time right id := by
  have search (rows : List TicketRow) :
      rows.find? (·.id == id) = (rows.filter (·.id == id)).head? := by
    simp
  unfold getTicket Database.stepsOf
  rw [search left.tickets, search right.tickets, same.tickets, same.steps]

theorem lockstep_respond (operation : Operation) :
    InLockstep (SameShelf (keyOf operation))
      (respond (sqliteRepository py pydantic time) operation)
      (respond (sqliteRepository py pydantic time) operation) := by
  cases operation with
  | create ticket =>
      refine lockstep_bind ?_ fun _ => lockstep_pure _
      apply lockstep_transaction
      exact lockstep_bind (lockstep_bindTexts py _)
        fun _ => lockstep_insertTicket py (ticketRow time ticket)
  | get ticketId =>
      refine lockstep_bind ?_ fun _ => lockstep_pure _
      refine lockstep_bind (lockstep_bindTexts py [ticketId]) fun _ => ?_
      apply lockstep_get_bind
      intro left right same
      have read := getTicket_of_shelf py pydantic time same
      rw [keyOf] at read ⊢
      rw [read]
      exact lockstep_answer _
  | finalise now call =>
      refine lockstep_bind ?_ fun _ => lockstep_pure _
      apply lockstep_transaction
      refine lockstep_bind (lockstep_bindTexts py _) fun _ => ?_
      refine lockstep_bind (lockstep_updateTicket py _ call) fun _ => ?_
      refine lockstep_bind (lockstep_deleteSteps _) fun _ => ?_
      apply lockstep_answer_bind
      intro rows written
      exact lockstep_insertSteps py (rows_columns py time written).1

theorem sqlite_local :
    Local (asked (sqliteRepository py pydantic time)) keyOf shelf :=
  local_of_respond
    (fun operation _ different _ =>
      keeps_respond py pydantic time operation different)
    (lockstep_respond py pydantic time)

end

/-! ## The dictionary -/

section

variable (py : PyText) (pydantic : Pydantic)
variable {id : String} {seen : Option Ticket}

theorem memory_keeps_respond (operation : Operation)
    (different : keyOf operation ≠ id) :
    Keeps (fun store => store.lookup id = seen)
      (respond (memoryRepository py pydantic) operation) := by
  cases operation with
  | create ticket =>
      refine keeps_bind ?_ fun _ => keeps_pure _
      apply keeps_get_bind
      intro store holds
      split
      · exact ends_throw holds
      · apply ends_set
        rw [← holds, List.lookup_append]
        have notIt : (id == ticket.id) = false :=
          beq_eq_false_iff_ne.mpr (Ne.symm different)
        simp [List.lookup_cons, notIt]
  | get ticketId =>
      refine keeps_bind ?_ fun _ => keeps_pure _
      exact keeps_get_bind fun _ holds => ends_pure holds
  | finalise now call =>
      refine keeps_bind ?_ fun _ => keeps_pure _
      apply keeps_get_bind
      intro store holds
      split
      · exact ends_throw holds
      · split
        · exact ends_throw holds
        · apply ends_set
          have notIt : id ≠ call.ticketId := Ne.symm different
          rw [lookup_replace, if_neg notIt, holds]

theorem memory_lockstep_respond (operation : Operation) :
    InLockstep
      (fun left right : Store =>
        left.lookup (keyOf operation) = right.lookup (keyOf operation))
      (respond (memoryRepository py pydantic) operation)
      (respond (memoryRepository py pydantic) operation) := by
  cases operation with
  | create ticket =>
      refine lockstep_bind ?_ fun _ => lockstep_pure _
      apply lockstep_get_bind
      intro left right same
      rw [keyOf] at same ⊢
      rw [same]
      split
      · exact lockstep_throw _
      · apply lockstep_set
        rw [List.lookup_append, List.lookup_append, same]
  | get ticketId =>
      refine lockstep_bind ?_ fun _ => lockstep_pure _
      apply lockstep_get_bind
      intro left right same
      rw [keyOf] at same ⊢
      rw [same]
      exact lockstep_pure _
  | finalise now call =>
      refine lockstep_bind ?_ fun _ => lockstep_pure _
      apply lockstep_get_bind
      intro left right same
      rw [keyOf] at same ⊢
      rw [same]
      split
      · exact lockstep_throw _
      · split
        · exact lockstep_throw _
        · apply lockstep_set
          rw [lookup_replace, lookup_replace, same]

theorem memory_local :
    Local (asked (memoryRepository py pydantic)) keyOf
      fun id store => store.lookup id :=
  local_of_respond
    (fun operation _ different _ =>
      memory_keeps_respond py pydantic operation different)
    (memory_lockstep_respond py pydantic)

end

/-! ## Both -/

/-- The calls about an id, among any others. -/
def about (id : String) (operations : List Operation) : List Operation :=
  operations.filter fun operation => decide (keyOf operation = id)

/-- The calls about an id, among any others, and what they were answered. -/
def answeredAbout (id : String) (pairs : List (Operation × Answer)) :
    List (Operation × Answer) :=
  pairs.filter fun pair => decide (keyOf pair.1 = id)

/--
However the calls for other tickets are interleaved with it, a sequence of
calls about one ticket is answered by either repository as if it were alone,
from whatever the repository holds at the start.
-/
theorem repositories_answer_each_ticket_alone (py : PyText)
    (pydantic : Pydantic) (time : TimeText) (id : String)
    (operations : List Operation) :
    (∀ database : Database,
      answeredAbout id
          (transcript (asked (sqliteRepository py pydantic time)) database
            operations) =
        transcript (asked (sqliteRepository py pydantic time)) database
          (about id operations)) ∧
      ∀ store : Store,
        answeredAbout id
            (transcript (asked (memoryRepository py pydantic)) store
              operations) =
          transcript (asked (memoryRepository py pydantic)) store
            (about id operations) :=
  ⟨fun _ => (sqlite_local py pydantic time).transcript_filter id rfl operations,
    fun _ => (memory_local py pydantic).transcript_filter id rfl operations⟩

end SupportAssistant.Storage.Locality
