import SupportAssistant.Storage.Atomicity

/-!
# What the rows were written from

Every text in a row of the database was bound, so it can be encoded, and every
step in it was written, so it can be serialised once more.  What is read of a
row is of the same kind.
-/

namespace SupportAssistant.Storage.Filing

open SupportAssistant.Effects.Mapping
open SupportAssistant.Runtime
open SupportAssistant.Effects.Outcomes
open SupportAssistant.Tracing.Models
open SupportAssistant.Domain
open SupportAssistant.Storage.Protocol
open SupportAssistant.Storage.Sqlite
open SupportAssistant.Storage.Codec
open SupportAssistant.Storage.Compact
open SupportAssistant.Storage.SqliteSpec
open SupportAssistant.Storage.ReadBack
open SupportAssistant.Storage.Finality
open SupportAssistant.Storage.Atomicity

section

variable (py : PyText) (pydantic : Pydantic) (time : TimeText)

/-- Every row holds what was bound to it, or written of a step. -/
structure Filed (database : Database) : Prop where
  texts : ∀ row ∈ database.tickets, ∀ text ∈ row.texts,
    py.encodes text = true
  steps : ∀ row ∈ database.traceSteps, ∃ step,
    stepToRow py time row.ticketId step = .ok row ∧ step.seq < 2 ^ 63

theorem filed_empty : Filed py time Database.empty where
  texts := by simp [Database.empty]
  steps := by simp [Database.empty]

theorem bound_of_created
    {ticket : Ticket} {database after : Database}
    (created : create py time ticket database = .ok ⟨⟩ after) :
    ∀ text ∈ (ticketRow time ticket).texts, py.encodes text = true := by
  by_contra unbound
  rw [create, bindTexts_unbound py unbound] at created
  cases created

theorem filed_created
    {ticket : Ticket} {database after : Database}
    (filed : Filed py time database)
    (created : create py time ticket database = .ok ⟨⟩ after) :
    Filed py time after := by
  have bound := bound_of_created py time created
  rcases returned_of_ok (create_ends py time ticket database) created with
    ⟨rfl, -⟩
  refine ⟨?_, filed.steps⟩
  intro row member
  rcases List.mem_append.mp member with old | new
  · exact filed.texts row old
  · rw [List.mem_singleton.mp new]
    exact bound

theorem filed_finalised
    {now : DateTime} {call : FinaliseCall} {database after : Database}
    (filed : Filed py time database)
    (written : finalise py time now call database = .ok ⟨⟩ after) :
    Filed py time after := by
  rcases returned_of_ok (finalise_accepts py time now call database)
    written with ⟨acceptable, -⟩
  rcases returned_of_ok (finalise_ends py time now call database) written
    with ⟨rows, rowsWritten, rfl, -⟩
  constructor
  · intro row member
    rcases List.mem_map.mp member with ⟨stored, isStored, rfl⟩
    have texts := filed.texts stored isStored
    split
    · intro text isText
      rcases List.mem_append.mp isText with fixed | reply
      · exact texts text (List.mem_append_left _ fixed)
      · exact acceptable.bound text (List.mem_append_left _ reply)
    · exact texts
  · intro row member
    rcases List.mem_append.mp member with old | new
    · exact filed.steps row (List.mem_filter.mp old).1
    · rcases mem_of_mapM rowsWritten new with ⟨step, inTrace, isRow⟩
      have owner := (stepToRow_columns py time isRow).1
      exact ⟨step, by rw [owner, isRow], acceptable.numbered.2 step inTrace⟩

/-! ## What is read -/

/-- A ticket of texts that were bound and of steps that were written. -/
structure FiledTicket (ticket : Ticket) : Prop where
  id : py.encodes ticket.id = true
  userId : py.encodes ticket.userId = true
  reply : ∀ reply ∈ ticket.reply, py.encodes reply = true
  trace : ∀ step ∈ ticket.trace, ∃ original,
    step = storedStep time original ∧ Writes py original.payload ∧
      original.seq < 2 ^ 63

theorem filedTicket_of_read
    {database : Database} (filed : Filed py time database)
    {ticketId : String} {ticket : Ticket}
    (found : getTicket py pydantic time database ticketId =
      .ok (some ticket)) :
    FiledTicket py time ticket := by
  rcases (getTicket_some_iff py pydantic time).mp found with
    ⟨row, isRow, read⟩
  have reads := (ticketOfRow_iff py pydantic time).mp read
  have stored : row ∈ database.tickets := List.mem_of_find?_eq_some isRow
  have texts := filed.texts row stored
  simp only [TicketRow.texts, List.forall_mem_append, List.forall_mem_cons]
    at texts
  rcases texts with ⟨⟨id, userId, -⟩, reply⟩
  refine
    { id := by rw [reads.id, id]
      userId := by rw [reads.userId, userId]
      reply := ?_
      trace := ?_ }
  · intro text isReply
    rw [reads.reply] at isReply
    exact reply text (Option.mem_toList.mpr isReply)
  · intro step member
    rcases mem_of_mapM_some reads.trace member with ⟨stepRow, isRow, isStep⟩
    have inTable : stepRow ∈ database.traceSteps := by
      simp only [entry, Database.stepsOf, List.mem_insertionSort] at isRow
      exact (List.mem_filter.mp isRow).1
    rcases filed.steps stepRow inTable with ⟨original, written, small⟩
    rw [stepFromRow_stepToRow py time written, Option.some.injEq] at isStep
    exact ⟨original, isStep.symm,
      (exists_row_iff py time stepRow.ticketId original).mp ⟨_, written⟩,
      small⟩

end

end SupportAssistant.Storage.Filing
