import SupportAssistant.Pipeline.Scripted
import SupportAssistant.Storage.SqliteSpec

/-!
# What the database accepts can be read back

The table `CHECK` and the validator of `Ticket` guard the same pairing of
status, reply and reason.  They differ on one triple: a `replied` ticket with
an empty reply.  As long as no call writes that triple, every row reads back
as a ticket.
-/

namespace SupportAssistant.Storage.ReadBack

open SupportAssistant.Effects.Mapping
open SupportAssistant.Enums
open SupportAssistant.Runtime
open SupportAssistant.Runtime.Ascii
open SupportAssistant.Effects.LastWrite
open SupportAssistant.Tracing.Models
open SupportAssistant.Domain
open SupportAssistant.Storage.Protocol
open SupportAssistant.Storage.Sqlite
open SupportAssistant.Storage.Codec
open SupportAssistant.Storage.SqliteSpec
open SupportAssistant.Pipeline.Scripted

/-! ## The two guards -/

/-- The `CHECK`s of the table on a triple as it is written. -/
def accepts (status : TicketStatus) (reply : Option String)
    (reason : Option HandoffReason) : Bool :=
  statusCheck status.value &&
    pairingCheck status.value reply (reason.map HandoffReason.value)

/-- A `replied` ticket with a reply that says nothing. -/
def EmptyReply (status : TicketStatus) (reply : Option String)
    (reason : Option HandoffReason) : Prop :=
  status = .replied ∧ reply = some "" ∧ reason = none

/-- The table accepts what the validator does, and the empty reply. -/
theorem accepts_iff
    (status : TicketStatus) (reply : Option String)
    (reason : Option HandoffReason) :
    accepts status reply reason = true ↔
      statusReplyAndReasonAgree status reply reason = true ∨
        EmptyReply status reply reason := by
  cases status <;> cases reply <;> cases reason <;>
    simp [accepts, statusCheck, pairingCheck, statusReplyAndReasonAgree,
      EmptyReply, truthy, TicketStatus.value]
  exact (em _).symm

theorem not_agree_of_emptyReply
    {status : TicketStatus} {reply : Option String}
    {reason : Option HandoffReason}
    (empty : EmptyReply status reply reason) :
    statusReplyAndReasonAgree status reply reason = false := by
  rcases empty with ⟨rfl, rfl, rfl⟩
  rfl

/-- The two guards agree on every triple but the empty reply. -/
theorem accepts_eq_iff
    (status : TicketStatus) (reply : Option String)
    (reason : Option HandoffReason) :
    accepts status reply reason =
        statusReplyAndReasonAgree status reply reason ↔
      ¬ EmptyReply status reply reason := by
  constructor
  · intro same empty
    have refused := not_agree_of_emptyReply empty
    have accepted := (accepts_iff status reply reason).mpr (Or.inr empty)
    rw [same, refused] at accepted
    simp at accepted
  · intro spoken
    rw [Bool.eq_iff_iff, accepts_iff]
    simp [spoken]

/-! ## Rows that read back -/

section

variable (time : TimeText)

/-- A row that passes every check on the way to a ticket. -/
structure RowReads (row : TicketRow) (status : TicketStatus)
    (reason : Option HandoffReason) : Prop where
  statusText : row.status = status.value
  reasonText : row.handoffReason = reason.map HandoffReason.value
  created : (time.parse row.createdAt).isSome = true
  updated : (time.parse row.updatedAt).isSome = true
  userId : userIdValid row.userId = true
  subject : subjectValid row.subject = true
  body : bodyValid row.body = true
  agrees : statusReplyAndReasonAgree status row.reply reason = true

/-- Every row and every step of the database reads back. -/
structure Reads (database : Database) : Prop where
  tickets : ∀ row ∈ database.tickets,
    ∃ status reason, RowReads time row status reason
  steps : ∀ row ∈ database.traceSteps,
    ∃ step, stepFromRow time row = some step

/--
A call that writes nothing unreadable: no empty reply, and no ticket with a
timestamp whose ISO text is not read as a timestamp.
-/
def Legible : Operation → Prop
  | .create ticket =>
      (time.parse (time.isoformat ticket.createdAt)).isSome = true ∧
        (time.parse (time.isoformat ticket.updatedAt)).isSome = true
  | .get _ => True
  | .finalise _ call =>
      ¬ EmptyReply call.status call.reply call.handoffReason

theorem handoffReasonOf_value
    (py : PyText) (reason : Option HandoffReason) :
    handoffReasonOf py (reason.map HandoffReason.value) = .ok reason := by
  cases reason <;> simp [handoffReasonOf]

variable (py : PyText) (pydantic : Pydantic)

theorem ticketOfRow_of_reads
    {row : TicketRow} {steps : List StepRow}
    {status : TicketStatus} {reason : Option HandoffReason}
    {trace : List TraceStep}
    (reads : RowReads time row status reason)
    (loaded : steps.mapM (stepFromRow time) = some trace) :
    ∃ ticket : Ticket,
      ticketOfRow py pydantic time row steps = .ok ticket ∧
        ticket.status = status ∧ ticket.reply = row.reply ∧
          ticket.handoffReason = reason ∧ ticket.trace = trace := by
  rcases Option.isSome_iff_exists.mp reads.created with ⟨created, created?⟩
  rcases Option.isSome_iff_exists.mp reads.updated with ⟨updated, updated?⟩
  have built : ∃ ticket : Ticket,
      Ticket.validate? row.id row.userId row.subject row.body status
          row.reply reason created updated trace = some ticket ∧
        ticket.status = status ∧ ticket.reply = row.reply ∧
          ticket.handoffReason = reason ∧ ticket.trace = trace :=
    ⟨_, dif_pos ⟨reads.userId, reads.subject, reads.body, reads.agrees⟩,
      rfl, rfl, rfl, rfl⟩
  rcases built with ⟨ticket, built, fields⟩
  refine ⟨ticket, ?_, fields⟩
  unfold ticketOfRow
  rw [reads.statusText, reads.reasonText]
  simp only [TicketStatus.ofValue?_value, handoffReasonOf_value, loaded,
    created?, updated?, built, bind, Except.bind]

/-- A row of a database that reads back is found and read as a ticket. -/
theorem getTicket_of_reads
    {database : Database} (reads : Reads time database)
    {row : TicketRow} (stored : row ∈ database.tickets) :
    ∃ ticket,
      getTicket py pydantic time database row.id = .ok (some ticket) := by
  have found : ∃ first ∈ database.tickets,
      database.tickets.find? (·.id == row.id) = some first := by
    cases search : database.tickets.find? (·.id == row.id) with
    | none =>
        rw [List.find?_eq_none] at search
        exact (search row stored (by simp)).elim
    | some first => exact ⟨first, List.mem_of_find?_eq_some search, rfl⟩
  rcases found with ⟨first, member, search⟩
  rcases reads.tickets first member with ⟨status, reason, rowReads⟩
  have steps : ∀ step ∈ database.stepsOf row.id,
      ∃ value, stepFromRow time step = some value := by
    intro step inTrace
    apply reads.steps
    rw [Database.stepsOf, List.mem_insertionSort] at inTrace
    exact (List.mem_filter.mp inTrace).1
  rcases mapM_of_forall steps with ⟨trace, loaded⟩
  rcases ticketOfRow_of_reads time py pydantic rowReads loaded with
    ⟨ticket, equal, -⟩
  exact ⟨ticket, by rw [getTicket, search]; simp [equal, Except.map]⟩

/-! ## One call, and every run -/

theorem reads_ticketRow
    {ticket : Ticket}
    (legible : Legible time (.create ticket)) :
    RowReads time (ticketRow time ticket) ticket.status
      ticket.handoffReason where
  statusText := rfl
  reasonText := rfl
  created := legible.1
  updated := legible.2
  userId := ticket.userIdOk
  subject := ticket.subjectOk
  body := ticket.bodyOk
  agrees := ticket.agrees

theorem reads_finalised
    {row : TicketRow} {status : TicketStatus}
    {reason : Option HandoffReason}
    (reads : RowReads time row status reason)
    {now : Reading} {call : FinaliseCall}
    (passes : (row.finalised (time.isoformat now) call).check = true)
    (legible : Legible time (.finalise now call)) :
    RowReads time (row.finalised (time.isoformat now) call) call.status
      call.handoffReason where
  statusText := rfl
  reasonText := rfl
  created := reads.created
  updated := by
    change (time.parse (time.isoformat now)).isSome = true
    rw [time.parse_isoformat now now.property]
    rfl
  userId := reads.userId
  subject := reads.subject
  body := reads.body
  agrees := by
    have accepted :
        accepts call.status call.reply call.handoffReason = true := passes
    rcases (accepts_iff _ _ _).mp accepted with agrees | empty
    · exact agrees
    · exact (legible empty).elim

/-- The rows of a written trace read back, in order. -/
theorem reads_written
    {ticketId : String} {trace : List TraceStep} {rows : List StepRow}
    (written : trace.mapM (stepToRow py time ticketId) = .ok rows) :
    rows.mapM (stepFromRow time) = some (trace.map (storedStep time)) ∧
      ∀ row ∈ rows, row.ticketId = ticketId ∧
        ∃ step, stepFromRow time row = some step := by
  induction trace generalizing rows with
  | nil =>
      cases written
      exact ⟨rfl, by simp⟩
  | cons step trace induction =>
      rcases mapM_cons_ok.mp written with ⟨row, others, first, rest, rfl⟩
      rcases induction rest with ⟨later, owned⟩
      have readBack := stepFromRow_stepToRow py time first
      constructor
      · simp [readBack, later]
      · intro other member
        rcases List.mem_cons.mp member with rfl | member
        · exact ⟨(stepToRow_columns py time first).1, _, readBack⟩
        · exact owned other member

/-- A legible call keeps the database readable. -/
theorem reads_changed
    {database after : Database} {operation : Operation}
    (changed : Changed py time database operation after)
    (legible : Legible time operation)
    (reads : Reads time database) :
    Reads time after := by
  cases changed with
  | unchanged => exact reads
  | created ticket passes fresh =>
      exact
        { tickets := by
            intro row member
            rcases List.mem_append.mp member with old | new
            · exact reads.tickets row old
            · cases List.mem_singleton.mp new
              exact ⟨_, _, reads_ticketRow time legible⟩
          steps := reads.steps }
  | finalised now call rows written stored passes =>
      exact
        { tickets := by
            intro row member
            rcases List.mem_map.mp member with ⟨old, inOld, same⟩
            rcases reads.tickets old inOld with ⟨status, reason, oldReads⟩
            by_cases named : old.id = call.ticketId
            · rw [if_pos (by simpa using named)] at same
              cases same
              exact ⟨_, _, reads_finalised time oldReads
                (passes old inOld named) legible⟩
            · rw [if_neg (by simpa using named)] at same
              cases same
              exact ⟨status, reason, oldReads⟩
          steps := by
            intro row member
            rcases List.mem_append.mp member with old | new
            · exact reads.steps row (List.mem_filter.mp old).1
            · exact ((reads_written time py written).2 row new).2 }

theorem reads_empty : Reads time Database.empty where
  tickets := by simp [Database.empty]
  steps := by simp [Database.empty]

/-- Legible calls leave a database that reads back. -/
theorem reads_performedAll
    {operations : List Operation}
    (legible : ∀ operation ∈ operations, Legible time operation) :
    Reads time
      (performedAll (sqliteRepository py pydantic time) Database.empty
        operations) :=
  after_induction_of
    (fun database operation allowed reads =>
      reads_changed time py
        (performed_changed py time pydantic operation database) allowed
        reads)
    (reads_empty time) legible

/--
The two guards agree exactly on the triples without an empty reply; and after
any calls that are legible, every stored id is read as a ticket.
-/
theorem accepted_reads_back
    {operations : List Operation}
    (legible : ∀ operation ∈ operations, Legible time operation) :
    (∀ status reply reason,
        accepts status reply reason =
            statusReplyAndReasonAgree status reply reason ↔
          ¬ EmptyReply status reply reason) ∧
      ∀ row ∈ (performedAll (sqliteRepository py pydantic time)
          Database.empty operations).tickets,
        ∃ ticket,
          getTicket py pydantic time
              (performedAll (sqliteRepository py pydantic time)
                Database.empty operations) row.id =
            .ok (some ticket) :=
  ⟨accepts_eq_iff, fun _ stored =>
    getTicket_of_reads time py pydantic
      (reads_performedAll time py pydantic legible) stored⟩

end

/-! ## An accepted reply that cannot be read -/

/-- A terminal write for the waiting ticket, without a trace. -/
def replying (reply : String) : Operation :=
  .finalise atEpoch
    { ticketId := "t1"
      status := .replied
      reply := some reply
      handoffReason := none
      trace := [] }

theorem answered_reads_back :
    (∀ status reply reason,
        accepts status reply reason =
            statusReplyAndReasonAgree status reply reason ↔
          ¬ EmptyReply status reply reason) ∧
      ∀ row ∈ (performedAll
          (sqliteRepository asciiText plainPydantic tallyTime)
          Database.empty
          [.create waitingTicket, replying "Done."]).tickets,
        ∃ ticket,
          getTicket asciiText plainPydantic tallyTime
              (performedAll
                (sqliteRepository asciiText plainPydantic tallyTime)
                Database.empty
                [.create waitingTicket, replying "Done."]) row.id =
            .ok (some ticket) :=
  accepted_reads_back tallyTime asciiText plainPydantic (by
    intro operation member
    rcases List.mem_cons.mp member with rfl | member
    · exact ⟨rfl, rfl⟩
    · cases List.mem_singleton.mp member
      simp [Legible, replying, EmptyReply])

/-- The table accepts an empty reply, and the ticket is lost to readers. -/
theorem empty_reply_is_unreadable :
    accepts .replied (some "") none = true ∧
      statusReplyAndReasonAgree .replied (some "") none = false ∧
        ∃ row ∈ (performedAll
            (sqliteRepository asciiText plainPydantic tallyTime)
            Database.empty
            [.create waitingTicket, replying ""]).tickets,
          row.id = "t1" ∧
            ∃ exc,
              getTicket asciiText plainPydantic tallyTime
                  (performedAll
                    (sqliteRepository asciiText plainPydantic tallyTime)
                    Database.empty
                    [.create waitingTicket, replying ""]) "t1" =
                .error exc := by
  refine ⟨rfl, rfl, _, List.mem_singleton.mpr rfl, rfl, _, rfl⟩

end SupportAssistant.Storage.ReadBack
