import SupportAssistant.Pipeline.Reasons
import SupportAssistant.Storage.ReadBack

/-!
# What a stored ticket says

In both repositories, a ticket that was once shown is shown again, unchanged,
until a successful `finalise` of the same ticket; from then on it says what
the last such call wrote.  A terminal state is no exception.  A run of the
pipeline is a `get` and at most one `finalise`, so this covers runs that
overlap in any way.
-/

namespace SupportAssistant.Storage.Finality

open SupportAssistant.Effects.Mapping
open SupportAssistant.Enums
open SupportAssistant.Runtime
open SupportAssistant.Runtime.Ascii
open SupportAssistant.Effects.LastWrite
open SupportAssistant.Effects.Outcomes
open SupportAssistant.Tracing.Models
open SupportAssistant.Domain
open SupportAssistant.Storage.Protocol
open SupportAssistant.Storage.Sqlite
open SupportAssistant.Storage.Codec
open SupportAssistant.Storage.SqliteSpec
open SupportAssistant.Storage.ReadBack
open SupportAssistant.Pipeline.Collaborators
open SupportAssistant.Pipeline.Orchestrator
open SupportAssistant.Pipeline.Handover
open SupportAssistant.Pipeline.Scripted
open SupportAssistant.Pipeline.Replies
open SupportAssistant.Pipeline.Reasons

/-- `get` returns this ticket. -/
def Shows {ρ : Type} (repository : TicketRepository ρ) (store : ρ)
    (ticketId : String) (ticket : Ticket) : Prop :=
  ∃ after, repository.get ticketId store = .ok (some ticket) after

/-- The ticket says what the call wrote, with the trace as it is kept. -/
structure Says (kept : List TraceStep → List TraceStep)
    (call : FinaliseCall) (ticket : Ticket) : Prop where
  status : ticket.status = call.status
  reply : ticket.reply = call.reply
  reason : ticket.handoffReason = call.handoffReason
  trace : ticket.trace = kept call.trace

/--
After the calls, the ticket is shown as before, or says what the last
successful `finalise` among the calls wrote.
-/
def ShownUntilOverwritten {ρ : Type} (repository : TicketRepository ρ)
    (kept : List TraceStep → List TraceStep) (store : ρ)
    (operations : List Operation) (ticketId : String) (ticket : Ticket) :
    Prop :=
  match lastFinalised? repository ticketId store operations with
  | none =>
      Shows repository (performedAll repository store operations) ticketId
        ticket
  | some call => ∀ later,
      Shows repository (performedAll repository store operations) ticketId
          later →
        Says kept call later

/-! ## SQLite -/

section

variable (py : PyText) (pydantic : Pydantic) (time : TimeText)

/-- What the database holds under an id: its row, and its steps in order. -/
def entry (ticketId : String) (database : Database) :
    Option TicketRow × List StepRow :=
  (database.tickets.find? (·.id == ticketId), database.stepsOf ticketId)

theorem getTicket_some_iff
    {database : Database} {ticketId : String} {ticket : Ticket} :
    getTicket py pydantic time database ticketId = .ok (some ticket) ↔
      ∃ row, (entry ticketId database).1 = some row ∧
        ticketOfRow py pydantic time row (entry ticketId database).2 =
          .ok ticket := by
  unfold getTicket entry
  cases database.tickets.find? (·.id == ticketId) with
  | none => simp
  | some row =>
      cases read : ticketOfRow py pydantic time row
          (database.stepsOf ticketId) with
      | error exc => simp [Except.map, read]
      | ok found => simp [Except.map, read]

/-- `get` of an id that can be bound is the read of its row. -/
theorem sqlite_get
    {database : Database} {ticketId : String}
    (bound : py.encodes ticketId = true) :
    (sqliteRepository py pydantic time).get ticketId database =
      match getTicket py pydantic time database ticketId with
      | .ok found => .ok found database
      | .error exc => .error exc database := by
  have isPure := bindTexts_bound py (List.forall_mem_singleton.mpr bound)
  simp only [sqliteRepository, isPure, pure_bind, get_bind]
  cases getTicket py pydantic time database ticketId <;> rfl

theorem sqlite_get_unbound
    (database : Database) {ticketId : String}
    (unbound : py.encodes ticketId = false) :
    (sqliteRepository py pydantic time).get ticketId database =
      .error (unicodeEncodeError py) database := by
  have isThrow := @bindTexts_unbound py [ticketId] (by simp [unbound])
  simp only [sqliteRepository, isThrow]
  rfl

theorem shows_sqlite_iff
    {database : Database} {ticketId : String} {ticket : Ticket} :
    Shows (sqliteRepository py pydantic time) database ticketId ticket ↔
      py.encodes ticketId = true ∧
        ∃ row, (entry ticketId database).1 = some row ∧
          ticketOfRow py pydantic time row (entry ticketId database).2 =
            .ok ticket := by
  rw [← getTicket_some_iff]
  unfold Shows
  cases bound : py.encodes ticketId with
  | false => simp [sqlite_get_unbound py pydantic time database bound]
  | true =>
      rw [sqlite_get py pydantic time bound]
      cases getTicket py pydantic time database ticketId with
      | error exc => simp
      | ok found => simp

theorem find_rewritten
    (database : Database) (updatedAt : String) (call : FinaliseCall)
    (ticketId : String) :
    (database.rewritten updatedAt call).tickets.find? (·.id == ticketId) =
      (database.tickets.find? (·.id == ticketId)).map fun row =>
        if row.id == call.ticketId then row.finalised updatedAt call
        else row := by
  unfold Database.rewritten
  rw [List.find?_map]
  congr 2
  funext row
  simp only [Function.comp]
  split <;> rfl

theorem stepsOf_withTrace_same
    (database : Database) {ticketId : String} {rows : List StepRow}
    (owned : ∀ row ∈ rows, row.ticketId = ticketId) :
    (withTrace database ticketId rows).stepsOf ticketId =
      rows.insertionSort fun first second => first.seq ≤ second.seq := by
  have others :
      (database.traceSteps.filter (·.ticketId != ticketId)).filter
        (·.ticketId == ticketId) = [] := by
    rw [List.filter_filter, List.filter_eq_nil_iff]
    intro row _
    simp
  have own : rows.filter (·.ticketId == ticketId) = rows := by
    rw [List.filter_eq_self]
    intro row member
    simp [owned row member]
  rw [Database.stepsOf, withTrace, List.filter_append, others, own,
    List.nil_append]

theorem stepsOf_withTrace_other
    (database : Database) {ticketId other : String} {rows : List StepRow}
    (owned : ∀ row ∈ rows, row.ticketId = ticketId)
    (different : ticketId ≠ other) :
    (withTrace database ticketId rows).stepsOf other =
      database.stepsOf other := by
  have foreign : rows.filter (·.ticketId == other) = [] := by
    rw [List.filter_eq_nil_iff]
    intro row member
    simp [owned row member, different]
  have kept :
      (database.traceSteps.filter (·.ticketId != ticketId)).filter
          (·.ticketId == other) =
        database.traceSteps.filter (·.ticketId == other) := by
    rw [List.filter_filter]
    apply List.filter_congr
    intro row _
    by_cases named : row.ticketId = other
    · simp [named, different.symm]
    · simp [named]
  rw [Database.stepsOf, withTrace, List.filter_append, foreign, kept,
    List.append_nil, Database.stepsOf]

/-- What a successful `finalise` leaves under its id. -/
def Written (call : FinaliseCall)
    (found : Option TicketRow × List StepRow) : Prop :=
  ∃ row updatedAt rows,
    call.trace.mapM (stepToRow py time call.ticketId) = .ok rows ∧
      found =
        (some (TicketRow.finalised row updatedAt call),
          rows.insertionSort fun first second => first.seq ≤ second.seq)

theorem entry_finalised
    {database after : Database} {now : Reading} {call : FinaliseCall}
    {ticketId : String}
    (present : (entry ticketId database).1.isSome = true)
    (ran : finalise py time now call database = .ok ⟨⟩ after) :
    (call.ticketId = ticketId → Written py time call
        (entry ticketId after)) ∧
      (call.ticketId ≠ ticketId →
        entry ticketId after = entry ticketId database) := by
  rcases returned_of_ok (finalise_ends py time now call database) ran with
    ⟨rows, written, rfl, -, -⟩
  have owned : ∀ row ∈ rows, row.ticketId = call.ticketId :=
    fun row member => ((reads_written time py written).2 row member).1
  rcases Option.isSome_iff_exists.mp present with ⟨row, found⟩
  have named : row.id = ticketId := by
    simpa using List.find?_some found
  have search :
      (entry ticketId (withTrace
          (database.rewritten (time.isoformat now) call) call.ticketId
          rows)).1 =
        some (if row.id == call.ticketId then
          row.finalised (time.isoformat now) call else row) := by
    change List.find? _ (database.rewritten _ call).tickets = _
    rw [find_rewritten, show database.tickets.find? (·.id == ticketId) =
      some row from found, Option.map_some]
  constructor
  · intro same
    cases same
    refine ⟨row, time.isoformat now, rows, written, ?_⟩
    rw [if_pos (by simpa using named)] at search
    exact Prod.ext search (stepsOf_withTrace_same _ owned)
  · intro different
    rw [if_neg (by simpa [named] using different.symm)] at search
    exact Prod.ext (search.trans found.symm)
      (stepsOf_withTrace_other _ owned different)

/-- What is under an id that is in use, one call later. -/
theorem entry_performed
    (ticketId : String) (database : Database) (operation : Operation)
    (present : (entry ticketId database).1.isSome = true) :
    (finalised? (sqliteRepository py pydantic time) ticketId database
          operation = none →
        entry ticketId (performed (sqliteRepository py pydantic time)
          database operation) = entry ticketId database) ∧
      ∀ call,
        finalised? (sqliteRepository py pydantic time) ticketId database
            operation = some call →
          Written py time call (entry ticketId
            (performed (sqliteRepository py pydantic time) database
              operation)) := by
  cases operation with
  | create ticket =>
      refine ⟨fun _ => ?_, by simp [finalised?]⟩
      rcases Option.isSome_iff_exists.mp present with ⟨row, found⟩
      have changed :=
        performed_changed py time pydantic (.create ticket) database
      generalize performed (sqliteRepository py pydantic time) database
        (.create ticket) = after at changed
      cases changed with
      | unchanged => rfl
      | created ticket passes fresh =>
          apply Prod.ext
          · change List.find? _ (database.tickets ++ _) = _
            rw [List.find?_append, show List.find? _ database.tickets =
              some row from found]
            exact found.symm
          · rfl
  | get requested =>
      refine ⟨fun _ => ?_, by simp [finalised?]⟩
      have changed :=
        performed_changed py time pydantic (.get requested) database
      generalize performed (sqliteRepository py pydantic time) database
        (.get requested) = after at changed
      cases changed with
      | unchanged => rfl
  | finalise now call =>
      cases ran : finalise py time now call database with
      | error exc after =>
          have same :=
            raised_of_error (finalise_ends py time now call database) ran
          have step : performed (sqliteRepository py pydantic time) database
              (.finalise now call) = after := by
            simp only [performed, finalState, perform, sqliteRepository, ran]
          constructor
          · intro _
            rw [step, same]
          · intro other finalised
            simp [finalised?, sqliteRepository, ran] at finalised
      | ok value after =>
          have step : performed (sqliteRepository py pydantic time) database
              (.finalise now call) = after := by
            simp only [performed, finalState, perform, sqliteRepository, ran]
          rcases entry_finalised py time present ran with ⟨own, other⟩
          rw [step]
          by_cases named : call.ticketId = ticketId
          · constructor
            · intro notFinalised
              simp [finalised?, sqliteRepository, ran, named]
                at notFinalised
            · intro written finalised
              simp only [finalised?, sqliteRepository, ran, if_pos named,
                Option.some.injEq] at finalised
              rw [← finalised]
              exact own named
          · constructor
            · intro _
              exact other named
            · intro written finalised
              simp [finalised?, named] at finalised

/-- Sorting before writing and after writing comes to the same. -/
theorem mapM_orderedInsert
    {α β : Type} {write : α → Except Exc β} {first : α → α → Prop}
    {second : β → β → Prop} [DecidableRel first] [DecidableRel second]
    (ordered : ∀ (left right : α) (left' right' : β),
      write left = .ok left' → write right = .ok right' →
        (first left right ↔ second left' right'))
    {item : α} {item' : β} (head : write item = .ok item')
    {items : List α} {items' : List β}
    (tail : items.mapM write = .ok items') :
    (items.orderedInsert first item).mapM write =
      .ok (items'.orderedInsert second item') := by
  induction items generalizing items' with
  | nil =>
      cases tail
      exact mapM_cons_ok.mpr ⟨item', [], head, rfl, rfl⟩
  | cons other items induction =>
      rcases mapM_cons_ok.mp tail with ⟨other', rest, here, later, rfl⟩
      by_cases before : first item other
      · have before' := (ordered _ _ _ _ head here).mp before
        rw [List.orderedInsert_cons_of_le first items before,
          List.orderedInsert_cons_of_le second rest before']
        exact mapM_cons_ok.mpr ⟨item', other' :: rest, head, tail, rfl⟩
      · have before' : ¬ second item' other' :=
          fun second => before ((ordered _ _ _ _ head here).mpr second)
        rw [List.orderedInsert_of_not_le first items before,
          List.orderedInsert_of_not_le second rest before']
        exact mapM_cons_ok.mpr ⟨other', _, here, induction later, rfl⟩

theorem mapM_insertionSort
    {α β : Type} {write : α → Except Exc β} {first : α → α → Prop}
    {second : β → β → Prop} [DecidableRel first] [DecidableRel second]
    (ordered : ∀ (left right : α) (left' right' : β),
      write left = .ok left' → write right = .ok right' →
        (first left right ↔ second left' right'))
    {items : List α} {items' : List β}
    (written : items.mapM write = .ok items') :
    (items.insertionSort first).mapM write =
      .ok (items'.insertionSort second) := by
  induction items generalizing items' with
  | nil =>
      cases written
      rfl
  | cons item items induction =>
      rcases mapM_cons_ok.mp written with ⟨item', rest, head, tail, rfl⟩
      exact mapM_orderedInsert ordered head (induction tail)

/-- The trace that the steps of a written ticket read back as. -/
theorem trace_written
    {ticketId : String} {trace : List TraceStep} {rows : List StepRow}
    (written : trace.mapM (stepToRow py time ticketId) = .ok rows) :
    (rows.insertionSort fun first second =>
        first.seq ≤ second.seq).mapM (stepFromRow time) =
      some ((Memory.sortedTrace trace).map (storedStep time)) := by
  have sorted : (Memory.sortedTrace trace).mapM
      (stepToRow py time ticketId) =
        .ok (rows.insertionSort fun first second =>
          first.seq ≤ second.seq) := by
    apply mapM_insertionSort _ written
    intro left right left' right' leftWritten rightWritten
    rw [(stepToRow_columns py time leftWritten).2,
      (stepToRow_columns py time rightWritten).2]
  exact (reads_written time py sorted).1

/-- The row and the steps read as the ticket. -/
structure ReadsAs (row : TicketRow) (steps : List StepRow)
    (ticket : Ticket) : Prop where
  id : ticket.id = row.id
  userId : ticket.userId = row.userId
  subject : ticket.subject = row.subject
  body : ticket.body = row.body
  status : TicketStatus.ofValue? row.status = some ticket.status
  reply : ticket.reply = row.reply
  reason : handoffReasonOf py row.handoffReason = .ok ticket.handoffReason
  trace : steps.mapM (stepFromRow time) = some ticket.trace
  created : time.parse row.createdAt = some ticket.createdAt
  updated : time.parse row.updatedAt = some ticket.updatedAt

theorem ticketOfRow_iff
    {row : TicketRow} {steps : List StepRow} {ticket : Ticket} :
    ticketOfRow py pydantic time row steps = .ok ticket ↔
      ReadsAs py time row steps ticket := by
  constructor
  · intro read
    unfold ticketOfRow at read
    cases status : TicketStatus.ofValue? row.status with
    | none => simp [status, bind, Except.bind] at read
    | some status =>
        cases reason : handoffReasonOf py row.handoffReason with
        | error exc => simp [status, reason, bind, Except.bind] at read
        | ok reason =>
            cases trace : steps.mapM (stepFromRow time) with
            | none =>
                simp [status, reason, trace, bind, Except.bind] at read
            | some trace =>
                simp only [status, reason, trace, bind, Except.bind]
                  at read
                split at read
                · rename_i created updated
                  unfold Ticket.validate? at read
                  split at read
                  · rename_i built
                    split at built
                    · cases built
                      cases read
                      exact ⟨rfl, rfl, rfl, rfl, status, rfl, reason,
                        trace, created, updated⟩
                    · simp at built
                  · simp at read
                · simp at read
  · intro reads
    have fields :
        userIdValid row.userId = true ∧ subjectValid row.subject = true ∧
          bodyValid row.body = true ∧
          statusReplyAndReasonAgree ticket.status row.reply
            ticket.handoffReason = true := by
      rw [← reads.userId, ← reads.subject, ← reads.body, ← reads.reply]
      exact ⟨ticket.userIdOk, ticket.subjectOk, ticket.bodyOk,
        ticket.agrees⟩
    unfold ticketOfRow
    simp only [reads.status, reads.reason, reads.trace, reads.created,
      reads.updated, bind, Except.bind, Ticket.validate?, dif_pos fields]
    congr 1
    exact Ticket.ext reads.id.symm reads.userId.symm reads.subject.symm
      reads.body.symm rfl reads.reply.symm rfl rfl rfl rfl

/-- A ticket read from what a call wrote says what the call wrote. -/
theorem says_of_written
    {call : FinaliseCall} {row : TicketRow} {steps : List StepRow}
    {ticket : Ticket}
    (written : Written py time call (some row, steps))
    (read : ticketOfRow py pydantic time row steps = .ok ticket) :
    Says (fun trace => (Memory.sortedTrace trace).map (storedStep time))
      call ticket := by
  rcases written with ⟨before, updatedAt, rows, rowsWritten, same⟩
  cases same
  have reads := (ticketOfRow_iff py pydantic time).mp read
  have status := reads.status
  have reason := reads.reason
  have trace := reads.trace
  rw [trace_written py time rowsWritten] at trace
  have statusText : (TicketRow.finalised before updatedAt call).status =
      call.status.value := rfl
  have reasonText :
      (TicketRow.finalised before updatedAt call).handoffReason =
        call.handoffReason.map HandoffReason.value := rfl
  rw [statusText, TicketStatus.ofValue?_value] at status
  rw [reasonText, handoffReasonOf_value] at reason
  exact
    { status := (Option.some.inj status).symm
      reply := reads.reply
      reason := (Except.ok.inj reason).symm
      trace := (Option.some.inj trace).symm }

/-- What is under an id that is in use, any calls later. -/
theorem entry_performedAll
    {database : Database} {ticketId : String}
    (present : (entry ticketId database).1.isSome = true)
    (operations : List Operation) :
    SeenAfter (Written py time) (entry ticketId database)
      (entry ticketId (performedAll (sqliteRepository py pydantic time)
        database operations))
      (lastFinalised? (sqliteRepository py pydantic time) ticketId database
        operations) := by
  apply seenAfter_after fun database =>
    (entry ticketId database).1.isSome = true
  · intro store operation present
    have step := entry_performed py pydantic time ticketId store operation
      present
    cases finalised : finalised? (sqliteRepository py pydantic time)
        ticketId store operation with
    | none =>
        rw [step.1 finalised]
        exact present
    | some call =>
        rcases step.2 call finalised with ⟨row, updatedAt, rows, -, same⟩
        rw [same]
        rfl
  · intro store operation present
    exact (entry_performed py pydantic time ticketId store operation
      present).1
  · intro store operation call present
    exact (entry_performed py pydantic time ticketId store operation
      present).2 call
  · exact present

/-- In SQLite, what was shown stays until it is overwritten. -/
theorem sqlite_shown_until_overwritten
    {database : Database} {ticketId : String} {ticket : Ticket}
    (shown :
      Shows (sqliteRepository py pydantic time) database ticketId ticket)
    (operations : List Operation) :
    ShownUntilOverwritten (sqliteRepository py pydantic time)
      (fun trace => (Memory.sortedTrace trace).map (storedStep time))
      database operations ticketId ticket := by
  rcases (shows_sqlite_iff py pydantic time).mp shown with
    ⟨bound, row, found, read⟩
  have present : (entry ticketId database).1.isSome = true := by
    rw [found]
    rfl
  have seen := entry_performedAll py pydantic time present operations
  unfold ShownUntilOverwritten
  cases last : lastFinalised? (sqliteRepository py pydantic time) ticketId
      database operations with
  | none =>
      rw [last] at seen
      apply (shows_sqlite_iff py pydantic time).mpr
      rw [show entry ticketId _ = entry ticketId database from seen]
      exact ⟨bound, row, found, read⟩
  | some call =>
      rw [last] at seen
      intro later shownLater
      rcases (shows_sqlite_iff py pydantic time).mp shownLater with
        ⟨-, rowLater, foundLater, readLater⟩
      have written : Written py time call
          ((entry ticketId _).1, (entry ticketId _).2) := seen
      rw [foundLater] at written
      exact says_of_written py pydantic time written readLater

end

/-! ## In memory -/

section

variable (py : PyText) (pydantic : Pydantic)

open SupportAssistant.Storage.Memory

theorem lookup_replace
    (store : Store) (ticketId : String) (ticket : Ticket)
    (requested : String) :
    (replace store ticketId ticket).lookup requested =
      if requested = ticketId then
        (store.lookup requested).map fun _ => ticket
      else store.lookup requested := by
  induction store with
  | nil => split <;> rfl
  | cons stored store induction =>
      rcases stored with ⟨key, value⟩
      unfold replace at induction ⊢
      rw [List.map_cons]
      by_cases named : key = ticketId
      · subst named
        by_cases same : requested = key
        · subst same
          simp
        · have different : (requested == key) = false := by simpa using same
          simp only [if_true, List.lookup_cons, different, induction,
            if_neg same]
      · rw [if_neg named]
        by_cases same : requested = key
        · subst same
          simp [named]
        · have different : (requested == key) = false := by simpa using same
          simp only [List.lookup_cons, different]
          exact induction

theorem memory_create_ends (ticket : Ticket) (store : Store) :
    Ends (Memory.create py ticket) store
      (fun _ after =>
        after = store ++ [(ticket.id, { ticket with trace := [] })])
      (fun _ after => after = store) := by
  simp only [Memory.create]
  apply ends_get_bind
  split
  · exact ends_throw rfl
  · exact ends_set rfl

theorem memory_finalise_ends
    (now : DateTime) (call : FinaliseCall) (store : Store) :
    Ends (Memory.finalise py pydantic now call) store
      (fun _ after =>
        ∃ stored ticket, Memory.finalised stored now call = some ticket ∧
          after = replace store call.ticketId ticket)
      (fun _ after => after = store) := by
  simp only [Memory.finalise]
  apply ends_get_bind
  split
  · exact ends_throw rfl
  · rename_i stored found
    split
    · exact ends_throw rfl
    · rename_i ticket valid
      exact ends_set ⟨stored, ticket, valid, rfl⟩

theorem says_of_finalised
    {stored ticket : Ticket} {now : DateTime} {call : FinaliseCall}
    (valid : Memory.finalised stored now call = some ticket) :
    Says sortedTrace call ticket := by
  unfold Memory.finalised Ticket.validate? at valid
  split at valid
  · cases valid
    exact ⟨rfl, rfl, rfl, rfl⟩
  · simp at valid

/-- What one call in memory does to the ticket under an id in use. -/
theorem lookup_performed
    (ticketId : String) (store : Store) (operation : Operation)
    (present : (store.lookup ticketId).isSome = true) :
    (finalised? (memoryRepository py pydantic) ticketId store
          operation = none →
        (performed (memoryRepository py pydantic) store operation).lookup
          ticketId = store.lookup ticketId) ∧
      ∀ call,
        finalised? (memoryRepository py pydantic) ticketId store
            operation = some call →
          ∃ ticket, (performed (memoryRepository py pydantic) store
              operation).lookup ticketId = some ticket ∧
            Says sortedTrace call ticket := by
  rcases Option.isSome_iff_exists.mp present with ⟨stored, found⟩
  cases operation with
  | create ticket =>
      refine ⟨fun _ => ?_, by simp [finalised?]⟩
      have kept : Ends (Memory.create py ticket) store
          (fun _ after => after.lookup ticketId = store.lookup ticketId)
          (fun _ after => after.lookup ticketId = store.lookup ticketId) := by
        apply ends_mono (memory_create_ends py ticket store)
        · rintro - after rfl
          rw [List.lookup_append, found]
          rfl
        · rintro exc after rfl
          rfl
      exact ends_finalState kept
  | get requested =>
      exact ⟨fun _ => rfl, by simp [finalised?]⟩
  | finalise now call =>
      cases ran : Memory.finalise py pydantic now call store with
      | error exc after =>
          have same := raised_of_error
            (memory_finalise_ends py pydantic now call store) ran
          have step : performed (memoryRepository py pydantic) store
              (.finalise now call) = after := by
            simp only [performed, finalState, perform, memoryRepository, ran]
          constructor
          · intro _
            rw [step, same]
          · intro other finalised
            simp [finalised?, memoryRepository, ran] at finalised
      | ok value after =>
          have step : performed (memoryRepository py pydantic) store
              (.finalise now call) = after := by
            simp only [performed, finalState, perform, memoryRepository, ran]
          rcases returned_of_ok
            (memory_finalise_ends py pydantic now call store) ran with
            ⟨before, ticket, valid, rfl⟩
          rw [step, lookup_replace]
          by_cases named : ticketId = call.ticketId
          · constructor
            · intro notFinalised
              simp [finalised?, memoryRepository, ran, named]
                at notFinalised
            · intro written finalised
              simp only [finalised?, memoryRepository, ran,
                if_pos named.symm, Option.some.injEq] at finalised
              rw [← finalised, if_pos named, found]
              exact ⟨ticket, rfl, says_of_finalised valid⟩
          · constructor
            · intro _
              rw [if_neg named]
            · intro written finalised
              simp [finalised?, Ne.symm named] at finalised

theorem shows_memory_iff
    {store : Store} {ticketId : String} {ticket : Ticket} :
    Shows (memoryRepository py pydantic) store ticketId ticket ↔
      store.lookup ticketId = some ticket := by
  have reading : (memoryRepository py pydantic).get ticketId store =
      .ok (store.lookup ticketId) store := rfl
  unfold Shows
  rw [reading]
  simp

/-- In memory, what was shown stays until it is overwritten. -/
theorem memory_shown_until_overwritten
    {store : Store} {ticketId : String} {ticket : Ticket}
    (shown : Shows (memoryRepository py pydantic) store ticketId ticket)
    (operations : List Operation) :
    ShownUntilOverwritten (memoryRepository py pydantic) sortedTrace store
      operations ticketId ticket := by
  have found := (shows_memory_iff py pydantic).mp shown
  have seen : SeenAfter
      (fun call (held : Option Ticket) =>
        ∃ ticket, held = some ticket ∧ Says sortedTrace call ticket)
      (store.lookup ticketId)
      ((performedAll (memoryRepository py pydantic) store
        operations).lookup ticketId)
      (lastFinalised? (memoryRepository py pydantic) ticketId store
        operations) := by
    apply seenAfter_after fun store : Store =>
      (store.lookup ticketId).isSome = true
    · intro store operation present
      have step := lookup_performed py pydantic ticketId store operation
        present
      cases finalised : finalised? (memoryRepository py pydantic) ticketId
          store operation with
      | none =>
          rw [step.1 finalised]
          exact present
      | some call =>
          rcases step.2 call finalised with ⟨ticket, same, -⟩
          rw [same]
          rfl
    · intro store operation present
      exact (lookup_performed py pydantic ticketId store operation
        present).1
    · intro store operation call present
      exact (lookup_performed py pydantic ticketId store operation
        present).2 call
    · rw [found]
      rfl
  unfold ShownUntilOverwritten
  cases last : lastFinalised? (memoryRepository py pydantic) ticketId store
      operations with
  | none =>
      rw [last] at seen
      apply (shows_memory_iff py pydantic).mpr
      exact (show List.lookup _ _ = List.lookup _ _ from seen).trans found
  | some call =>
      rw [last] at seen
      intro later shownLater
      rcases seen with ⟨held, same, written⟩
      rw [(shows_memory_iff py pydantic).mp shownLater] at same
      cases same
      exact written

end

/-! ## Runs -/

section

variable {ρ : Type} (repository : TicketRepository ρ) (wiring : Wiring)
variable (storeClock : List Event → Reading)

theorem get_performed (ticketId : String) (store : ρ) :
    Ends (repository.get ticketId) store
      (fun _ after => after = performed repository store (.get ticketId))
      (fun _ after => after = performed repository store (.get ticketId)) := by
  unfold Ends performed finalState
  simp only [perform, bind, EStateM.bind]
  cases repository.get ticketId store <;> rfl

theorem finalise_performed (now : Reading) (call : FinaliseCall) (store : ρ) :
    Ends (repository.finalise now call) store
      (fun _ after =>
        after = performed repository store (.finalise now call))
      (fun _ after =>
        after = performed repository store (.finalise now call)) := by
  unfold Ends performed finalState
  simp only [perform]
  cases repository.finalise now call store <;> rfl

/-- The store after these calls. -/
def StoreAfter (before after : Service ρ) (calls : List Operation) : Prop :=
  after.store = performedAll repository before.store calls

theorem beginRun_ends (ticketId : String) (service : Service ρ) :
    Ends (beginRun repository wiring ticketId) service
      (fun _ after => StoreAfter repository service after [.get ticketId])
      (fun _ after =>
        StoreAfter repository service after [.get ticketId]) := by
  simp only [beginRun]
  apply ends_bind fun _ after =>
    StoreAfter repository service after [.get ticketId]
  · apply onStore_ends
    exact get_performed repository ticketId service.store
  · intro ticket after read
    cases ticket with
    | none => exact ends_throw read
    | some ticket =>
        apply onRun_ends
        rw [ends_iff]
        exact ⟨fun _ _ _ => read, fun _ _ _ => read⟩

theorem finishRun_store
    (ticketId : String) (now : Reading) (outcome : Outcome)
    (steps : List TraceStep) (service : Service ρ) :
    Ends (finishRun repository ticketId now outcome steps) service
      (fun _ after => StoreAfter repository service after
        [.finalise now (finaliseCall ticketId outcome steps)])
      (fun _ after => StoreAfter repository service after
        [.finalise now (finaliseCall ticketId outcome steps)]) := by
  simp only [finishRun]
  apply ends_bind _ (ends_modify (fun _ after =>
    after.store = service.store) rfl)
  intro _ called same
  apply ends_bind fun _ after => StoreAfter repository service after
    [.finalise now (finaliseCall ticketId outcome steps)]
  · apply onStore_ends
    rw [same]
    exact finalise_performed repository now _ service.store
  · intro _ after written
    exact ends_modify _ written

/-- To the store, a run is a `get` and at most one `finalise`. -/
theorem runPipeline_calls (ticketId : String) (service : Service ρ) :
    ∃ calls : List Operation,
      (calls = [.get ticketId] ∨
          ∃ now call, calls = [.get ticketId, .finalise now call]) ∧
        StoreAfter repository service
          (finalState (runPipeline repository wiring storeClock ticketId)
            service)
          calls := by
  have ends : Ends (runPipeline repository wiring storeClock ticketId)
      service
      (fun _ after => ∃ calls : List Operation,
        (calls = [.get ticketId] ∨
            ∃ now call, calls = [.get ticketId, .finalise now call]) ∧
          StoreAfter repository service after calls)
      (fun _ after => ∃ calls : List Operation,
        (calls = [.get ticketId] ∨
            ∃ now call, calls = [.get ticketId, .finalise now call]) ∧
          StoreAfter repository service after calls) := by
    simp only [runPipeline]
    apply ends_bind _ (ends_mono
      (beginRun_ends repository wiring ticketId service)
      (fun _ _ read => read) ?raised)
    case raised =>
      intro exc after read
      exact ⟨[.get ticketId], Or.inl rfl, read⟩
    rintro ⟨outcome, steps⟩ begun read
    apply ends_get_bind
    have both : ∀ after : Service ρ,
        StoreAfter repository begun after
            [.finalise (storeClock begun.events)
              (finaliseCall ticketId outcome steps)] →
          ∃ calls : List Operation,
            (calls = [.get ticketId] ∨
                ∃ now call, calls = [.get ticketId, .finalise now call]) ∧
              StoreAfter repository service after calls := by
      intro after written
      refine ⟨[.get ticketId, .finalise (storeClock begun.events)
        (finaliseCall ticketId outcome steps)], Or.inr ⟨_, _, rfl⟩, ?_⟩
      rw [StoreAfter] at read written ⊢
      rw [written, read]
      rfl
    exact ends_mono
      (finishRun_store repository ticketId (storeClock begun.events) outcome
        steps begun)
      (fun _ after => both after) (fun _ after => both after)
  exact ends_finalState ends

end

/-! ## Both repositories -/

/--
In both repositories a shown ticket stays as it is until a successful
`finalise` of it, and then says what the last one wrote; a run of the pipeline
is a `get` and at most one `finalise`.
-/
theorem shown_until_overwritten
    (py : PyText) (pydantic : Pydantic) (time : TimeText)
    {database : Database} {store : Memory.Store} {ticketId : String}
    {ticket held : Ticket}
    (shown :
      Shows (sqliteRepository py pydantic time) database ticketId ticket)
    (shownInMemory :
      Shows (Memory.memoryRepository py pydantic) store ticketId held)
    (operations : List Operation) :
    ShownUntilOverwritten (sqliteRepository py pydantic time)
        (fun trace => (Memory.sortedTrace trace).map (storedStep time))
        database operations ticketId ticket ∧
      ShownUntilOverwritten (Memory.memoryRepository py pydantic)
        Memory.sortedTrace store operations ticketId held ∧
      ∀ (ρ : Type) (repository : TicketRepository ρ) (wiring : Wiring)
        (storeClock : List Event → Reading) (ticketId : String)
        (service : Service ρ),
        ∃ calls : List Operation,
          (calls = [.get ticketId] ∨
              ∃ now call, calls = [.get ticketId, .finalise now call]) ∧
            StoreAfter repository service
              (finalState
                (runPipeline repository wiring storeClock ticketId) service)
              calls :=
  ⟨sqlite_shown_until_overwritten py pydantic time shown operations,
    memory_shown_until_overwritten py pydantic shownInMemory operations,
    fun _ repository wiring storeClock ticketId service =>
      runPipeline_calls repository wiring storeClock ticketId service⟩

/-! ## A second run of one ticket -/

def asciiSqlite : TicketRepository Database :=
  sqliteRepository asciiText plainPydantic tallyTime

def asciiMemory : TicketRepository Memory.Store :=
  Memory.memoryRepository asciiText plainPydantic

/-- A database that holds the waiting ticket. -/
def waitingDatabase : Database :=
  performedAll asciiSqlite Database.empty [.create waitingTicket]

theorem waiting_shown_until_overwritten :
    ShownUntilOverwritten asciiSqlite
        (fun trace =>
          (Memory.sortedTrace trace).map (storedStep tallyTime))
        waitingDatabase [replying "Done."] "t1" waitingTicket ∧
      ShownUntilOverwritten asciiMemory Memory.sortedTrace waitingStore
        [replying "Done."] "t1" waitingTicket ∧
      ∀ (ρ : Type) (repository : TicketRepository ρ) (wiring : Wiring)
        (storeClock : List Event → Reading) (ticketId : String)
        (service : Service ρ),
        ∃ calls : List Operation,
          (calls = [.get ticketId] ∨
              ∃ now call, calls = [.get ticketId, .finalise now call]) ∧
            StoreAfter repository service
              (finalState
                (runPipeline repository wiring storeClock ticketId) service)
              calls :=
  shown_until_overwritten asciiText plainPydantic tallyTime
    ⟨waitingDatabase, rfl⟩ ⟨waitingStore, rfl⟩ [replying "Done."]

/-- A run of the waiting ticket, with a model that gives up. -/
def quittingRun {ρ : Type} (repository : TicketRepository ρ)
    (reason : HandoffReason) (service : Service ρ) : Service ρ :=
  finalState
    (runPipeline repository (wiringOf (quittingModel reason) paidAccount)
      standingClock "t1")
    service

def serviceOf {ρ : Type} (store : ρ) : Service ρ :=
  { store, metrics := .create, events := [], finalised := [] }

/-- The status and the reason that `get` returns. -/
def shownReason {ρ : Type} (repository : TicketRepository ρ)
    (ticketId : String) (store : ρ) :
    Option (TicketStatus × Option HandoffReason) :=
  match repository.get ticketId store with
  | .ok (some ticket) _ => some (ticket.status, ticket.handoffReason)
  | _ => none

theorem shows_of_shownReason
    {ρ : Type} {repository : TicketRepository ρ} {ticketId : String}
    {store : ρ} {status : TicketStatus} {reason : Option HandoffReason}
    (shown : shownReason repository ticketId store = some (status, reason)) :
    ∃ ticket, Shows repository store ticketId ticket ∧
      ticket.status = status ∧ ticket.handoffReason = reason := by
  unfold shownReason at shown
  split at shown
  · rename_i ticket after read
    cases shown
    exact ⟨ticket, ⟨after, read⟩, rfl, rfl⟩
  · simp at shown

/-- What is shown after a first and after a second run of the ticket. -/
def ReasonChanges {ρ : Type} (repository : TicketRepository ρ)
    (store : ρ) : Prop :=
  ∃ ticket later,
    Shows repository
        (quittingRun repository .unsupportedIntent (serviceOf store)).store
        "t1" ticket ∧
      ticket.status = .handedOff ∧
        Shows repository
            (quittingRun repository .toolError
              (quittingRun repository .unsupportedIntent
                (serviceOf store))).store "t1" later ∧
          later.handoffReason ≠ ticket.handoffReason

theorem reasonChanges_of_shown
    {ρ : Type} {repository : TicketRepository ρ} {store : ρ}
    (first : shownReason repository "t1"
        (quittingRun repository .unsupportedIntent (serviceOf store)).store =
      some (.handedOff, some .unsupportedIntent))
    (second : shownReason repository "t1"
        (quittingRun repository .toolError
          (quittingRun repository .unsupportedIntent
            (serviceOf store))).store =
      some (.handedOff, some .toolError)) :
    ReasonChanges repository store := by
  rcases shows_of_shownReason first with ⟨ticket, shown, status, reason⟩
  rcases shows_of_shownReason second with ⟨later, shownLater, -, changed⟩
  refine ⟨ticket, later, shown, status, shownLater, ?_⟩
  rw [reason, changed]
  decide

/--
In both repositories, a second run of a ticket that was handed off changes
the reason that it shows.
-/
theorem second_run_overwrites :
    ReasonChanges asciiSqlite waitingDatabase ∧
      ReasonChanges asciiMemory waitingStore :=
  ⟨reasonChanges_of_shown (by decide +kernel) (by decide +kernel),
    reasonChanges_of_shown (by decide +kernel) (by decide +kernel)⟩

end SupportAssistant.Storage.Finality
