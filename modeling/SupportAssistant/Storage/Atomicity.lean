import SupportAssistant.Storage.Compact
import SupportAssistant.Storage.Finality

/-!
# Writing all or nothing

`finalise` rewrites one row of the first table and replaces the rows that the
second holds for it.  It returns exactly when its texts can be encoded, the id
is in use, the triple passes the `CHECK`, every step can be serialised, and
the numbers of the steps are distinct and fit a column.  Otherwise nothing of
it is left, whatever part had been done.
-/

namespace SupportAssistant.Storage.Atomicity

open SupportAssistant.Effects.Mapping
open SupportAssistant.Enums
open SupportAssistant.Runtime
open SupportAssistant.Effects.Outcomes
open SupportAssistant.Tracing.Models
open SupportAssistant.Storage.Protocol
open SupportAssistant.Storage.Sqlite
open SupportAssistant.Storage.Codec
open SupportAssistant.Storage.Compact
open SupportAssistant.Storage.SqliteSpec
open SupportAssistant.Storage.ReadBack

/-! ## The primary key of the steps -/

/-- The two rows have the same primary key. -/
def SameKey (left right : StepRow) : Prop :=
  left.ticketId = right.ticketId ∧ left.seq = right.seq

/-- The rows can be inserted one after another. -/
structure Insertable (existing rows : List StepRow) : Prop where
  bounded : ∀ row ∈ rows, row.seq < 2 ^ 63
  fresh : ∀ row ∈ rows, ∀ other ∈ existing, ¬ SameKey other row
  distinct : rows.Pairwise fun first second => ¬ SameKey first second

theorem insertable_cons_iff
    (existing : List StepRow) (row : StepRow) (rows : List StepRow) :
    Insertable existing (row :: rows) ↔
      (row.seq < 2 ^ 63 ∧ ∀ other ∈ existing, ¬ SameKey other row) ∧
        Insertable (existing ++ [row]) rows := by
  constructor
  · rintro ⟨bounded, fresh, distinct⟩
    rw [List.pairwise_cons] at distinct
    refine ⟨⟨bounded row (by simp), fresh row (by simp)⟩, ?_, ?_, ?_⟩
    · exact fun later member => bounded later (by simp [member])
    · intro later member other known
      rcases List.mem_append.mp known with old | new
      · exact fresh later (by simp [member]) other old
      · cases List.mem_singleton.mp new
        exact distinct.1 later member
    · exact distinct.2
  · rintro ⟨⟨small, unused⟩, bounded, fresh, distinct⟩
    refine ⟨?_, ?_, ?_⟩
    · intro later member
      rcases List.mem_cons.mp member with rfl | member
      · exact small
      · exact bounded later member
    · intro later member other known
      rcases List.mem_cons.mp member with rfl | member
      · exact unused other known
      · exact fresh later member other (by simp [known])
    · rw [List.pairwise_cons]
      exact ⟨fun later member => fresh later member row (by simp), distinct⟩

section

variable (py : PyText) (time : TimeText)

theorem insertStep_ends (row : StepRow) (database : Database) :
    Ends (insertStep py row) database
      (fun _ after =>
        (row.seq < 2 ^ 63 ∧
          ∀ other ∈ database.traceSteps, ¬ SameKey other row) ∧
        after =
          { database with traceSteps := database.traceSteps ++ [row] })
      (fun _ _ =>
        ¬ (row.seq < 2 ^ 63 ∧
          ∀ other ∈ database.traceSteps, ¬ SameKey other row)) := by
  simp only [insertStep]
  apply ends_get_bind
  split
  · rename_i large
    apply ends_throw
    rintro ⟨small, -⟩
    exact absurd small (by omega)
  · rename_i small
    split
    · rename_i taken
      apply ends_throw
      rintro ⟨-, unused⟩
      rcases List.any_eq_true.mp taken with ⟨other, member, same⟩
      rw [Bool.and_eq_true, beq_iff_eq, beq_iff_eq] at same
      exact unused other member same
    · rename_i free
      apply ends_set
      refine ⟨⟨by omega, ?_⟩, rfl⟩
      intro other member same
      apply free
      rw [List.any_eq_true]
      exact ⟨other, member, by simp [same.1, same.2]⟩

/-- All rows are inserted, or one of them cannot be. -/
theorem insertSteps_all_or_nothing
    (rows : List StepRow) (database : Database) :
    Ends (insertSteps py rows) database
      (fun _ after =>
        Insertable database.traceSteps rows ∧
          after =
            { database with traceSteps := database.traceSteps ++ rows })
      (fun _ _ => ¬ Insertable database.traceSteps rows) := by
  induction rows generalizing database with
  | nil =>
      apply ends_pure
      rw [List.append_nil]
      exact ⟨⟨by simp, by simp, List.Pairwise.nil⟩, rfl⟩
  | cons row rows induction =>
      simp only [insertSteps, insertable_cons_iff]
      apply ends_bind _ (ends_mono (insertStep_ends py row database)
        (fun _ _ => id) fun _ _ unfit both => unfit both.1)
      rintro - - ⟨fits, rfl⟩
      apply ends_mono (induction _)
      · rintro - after ⟨insertable, rfl⟩
        exact ⟨⟨fits, insertable⟩, by simp⟩
      · rintro exc after uninsertable ⟨-, insertable⟩
        exact uninsertable insertable

/-! ## The trace as rows -/

/-- Each step has a number of its own, one that fits a column. -/
def Numbered (trace : List TraceStep) : Prop :=
  (trace.map TraceStep.seq).Nodup ∧ ∀ step ∈ trace, step.seq < 2 ^ 63

/-- Every value in the step can be dumped, and written as JSON. -/
def Serialisable (step : TraceStep) : Prop :=
  Writes py step.payload

theorem exists_row_iff (ticketId : String) (step : TraceStep) :
    (∃ row, stepToRow py time ticketId step = .ok row) ↔
      Serialisable py step := by
  simp only [stepToRow_ok_iff, Serialisable, Writes]
  constructor
  · rintro ⟨row, fields, dumped, short, -⟩
    exact ⟨fields, dumped, short⟩
  · rintro ⟨fields, dumped, short⟩
    exact ⟨_, fields, dumped, short, rfl⟩

theorem rows_columns
    {ticketId : String} {trace : List TraceStep} {rows : List StepRow}
    (written : trace.mapM (stepToRow py time ticketId) = .ok rows) :
    (∀ row ∈ rows, row.ticketId = ticketId) ∧
      rows.map StepRow.seq = trace.map TraceStep.seq := by
  induction trace generalizing rows with
  | nil =>
      cases written
      simp
  | cons step trace induction =>
      rcases mapM_cons_ok.mp written with ⟨row, later, first, rest, rfl⟩
      rcases stepToRow_columns py time first with ⟨owner, number⟩
      rcases induction rest with ⟨owners, numbers⟩
      exact ⟨by simpa [owner] using owners, by simp [number, numbers]⟩

/-- Once the old steps are gone, only the new ones can clash. -/
theorem insertable_iff_numbered
    {ticketId : String} {trace : List TraceStep} {rows : List StepRow}
    (written : trace.mapM (stepToRow py time ticketId) = .ok rows)
    (steps : List StepRow) :
    Insertable (steps.filter (·.ticketId != ticketId)) rows ↔
      Numbered trace := by
  rcases rows_columns py time written with ⟨owned, numbers⟩
  have distinct :
      (rows.Pairwise fun first second => ¬ SameKey first second) ↔
        (trace.map TraceStep.seq).Nodup := by
    rw [← numbers, List.Nodup, List.pairwise_map]
    apply List.Pairwise.iff_of_mem
    intro first second isFirst isSecond
    simp [SameKey, owned first isFirst, owned second isSecond]
  have bounded :
      (∀ row ∈ rows, row.seq < 2 ^ 63) ↔
        ∀ step ∈ trace, step.seq < 2 ^ 63 := by
    rw [← List.forall_mem_map (f := StepRow.seq)
      (P := fun seq => seq < 2 ^ 63), numbers, List.forall_mem_map]
  constructor
  · intro insertable
    exact ⟨distinct.mp insertable.distinct, bounded.mp insertable.bounded⟩
  · rintro ⟨nodup, small⟩
    refine ⟨bounded.mpr small, ?_, distinct.mpr nodup⟩
    intro row isRow other known same
    have foreign := (List.mem_filter.mp known).2
    rw [bne_iff_ne, same.1, owned row isRow] at foreign
    exact foreign rfl

/-! ## The call as a whole -/

/-- The call can be carried out. -/
structure Acceptable (database : Database) (call : FinaliseCall) :
    Prop where
  bound : ∀ text ∈ boundTexts call, py.encodes text = true
  known : ∃ row ∈ database.tickets, row.id = call.ticketId
  accepted : accepts call.status call.reply call.handoffReason = true
  serialisable : ∀ step ∈ call.trace, Serialisable py step
  numbered : Numbered call.trace

/--
The database after the call: one ticket has a new state and a new trace, all
else is as it was.
-/
structure Replaced (now : DateTime) (call : FinaliseCall)
    (before after : Database) : Prop where
  tickets :
    after.tickets = before.tickets.map fun row =>
      if row.id = call.ticketId then
        { row with
          status := call.status.value
          reply := call.reply
          handoffReason := call.handoffReason.map HandoffReason.value
          updatedAt := time.isoformat now }
      else row
  otherSteps :
    after.traceSteps.filter (·.ticketId != call.ticketId) =
      before.traceSteps.filter (·.ticketId != call.ticketId)
  ownSteps :
    call.trace.mapM (stepToRow py time call.ticketId) =
      .ok (after.traceSteps.filter (·.ticketId == call.ticketId))

theorem replaced_withTrace
    {now : DateTime} {call : FinaliseCall} {rows : List StepRow}
    (written :
      call.trace.mapM (stepToRow py time call.ticketId) = .ok rows)
    (database : Database) :
    Replaced py time now call database
      (withTrace (database.rewritten (time.isoformat now) call)
        call.ticketId rows) := by
  have owned := (rows_columns py time written).1
  have foreign : rows.filter (·.ticketId != call.ticketId) = [] := by
    rw [List.filter_eq_nil_iff]
    intro row member
    simp [owned row member]
  have own : rows.filter (·.ticketId == call.ticketId) = rows := by
    rw [List.filter_eq_self]
    intro row member
    simp [owned row member]
  constructor
  · simp only [withTrace, Database.rewritten, TicketRow.finalised,
      beq_iff_eq]
  · simp [withTrace, Database.rewritten, List.filter_append, foreign]
  · rw [written]
    simp [withTrace, Database.rewritten, List.filter_append,
      List.filter_filter, own]

/-- The rewritten rows pass the `CHECK` when the triple does. -/
theorem finalised_check
    (row : TicketRow) (updatedAt : String) (call : FinaliseCall) :
    (row.finalised updatedAt call).check =
      accepts call.status call.reply call.handoffReason :=
  rfl

theorem updateTicket_all_or_nothing
    (updatedAt : String) (call : FinaliseCall) (database : Database) :
    Ends (updateTicket py updatedAt call) database
      (fun _ after =>
        ((∃ row ∈ database.tickets, row.id = call.ticketId) ∧
          accepts call.status call.reply call.handoffReason = true) ∧
        after = database.rewritten updatedAt call)
      (fun _ _ =>
        ¬ ((∃ row ∈ database.tickets, row.id = call.ticketId) ∧
          accepts call.status call.reply call.handoffReason = true)) := by
  simp only [updateTicket]
  apply ends_get_bind
  split
  · rename_i fails
    apply ends_throw
    rintro ⟨-, passes⟩
    simp [finalised_check, passes] at fails
  · rename_i passes
    split
    · rename_i absent
      apply ends_throw
      rintro ⟨⟨row, member, named⟩, -⟩
      rw [List.isEmpty_iff, List.filter_eq_nil_iff] at absent
      exact absent row member (by simp [named])
    · rename_i present
      apply ends_set
      simp only [List.isEmpty_iff, List.filter_eq_nil_iff, beq_iff_eq]
        at present
      push Not at present
      refine ⟨⟨present, ?_⟩, rfl⟩
      rcases present with ⟨row, member, named⟩
      simp only [Bool.not_eq_true', Bool.not_eq_false, List.all_map,
        List.all_eq_true, List.mem_filter, Function.comp_apply,
        finalised_check] at passes
      exact passes row ⟨member, by simp [named]⟩

/-- A call that can be carried out does not raise. -/
theorem finalise_never_refuses
    (now : DateTime) {call : FinaliseCall} {database : Database}
    (acceptable : Acceptable py database call) :
    Ends (finalise py time now call) database
      (fun _ _ => True) (fun _ _ => False) := by
  apply ends_mono (ends_rolledBack ?_)
    (fun _ _ => id) fun _ _ => And.left
  refine ends_bindTexts_bind py (fun _ => ?_)
    fun unbound => unbound acceptable.bound
  apply ends_bind _ (ends_mono (updateTicket_all_or_nothing py _ call database)
    (fun _ _ => And.right)
    fun _ _ refused => refused ⟨acceptable.known, acceptable.accepted⟩)
  rintro - - rfl
  apply ends_bind (fun _ after => after.traceSteps =
    database.traceSteps.filter (·.ticketId != call.ticketId))
  · simp only [deleteSteps]
    apply ends_modify
    rfl
  intro _ emptied left
  have written := mapM_ok_iff.mpr fun step member =>
    (exists_row_iff py time call.ticketId step).mpr
      (acceptable.serialisable step member)
  apply ends_answer_bind
  · intro rows isRows
    apply ends_mono (insertSteps_all_or_nothing py rows emptied)
      fun _ _ _ => trivial
    intro exc after uninsertable
    rw [left, insertable_iff_numbered py time isRows] at uninsertable
    exact uninsertable acceptable.numbered
  · intro exc unwritten
    rcases written with ⟨rows, written⟩
    rw [written] at unwritten
    simp at unwritten

/-- An acceptable call is carried out, and any other one is rolled back. -/
theorem finalise_accepts
    (now : DateTime) (call : FinaliseCall) (database : Database) :
    Ends (finalise py time now call) database
      (fun _ after =>
        Acceptable py database call ∧
          Replaced py time now call database after)
      (fun _ after => ¬ Acceptable py database call ∧ after = database) := by
  apply ends_rolledBack
  refine ends_bindTexts_bind py (fun bound => ?_)
    fun unbound acceptable => unbound acceptable.bound
  apply ends_bind (fun _ after =>
    ((∃ row ∈ database.tickets, row.id = call.ticketId) ∧
      accepts call.status call.reply call.handoffReason = true) ∧
    after = database.rewritten (time.isoformat now) call)
  · apply ends_mono (updateTicket_all_or_nothing py _ call database)
      fun _ _ => id
    intro exc after refused acceptable
    exact refused ⟨acceptable.known, acceptable.accepted⟩
  rintro - - ⟨⟨known, accepted⟩, rfl⟩
  apply ends_bind (fun _ after =>
    after = withTrace (database.rewritten (time.isoformat now) call)
      call.ticketId [])
  · simp only [deleteSteps]
    apply ends_modify
    simp [withTrace]
  rintro - - rfl
  apply ends_answer_bind
  · intro rows written
    have numbered := insertable_iff_numbered py time written
      database.traceSteps
    have serialisable : ∀ step ∈ call.trace, Serialisable py step := by
      intro step member
      exact (exists_row_iff py time call.ticketId step).mp
        (mapM_ok_iff.mp ⟨rows, written⟩ step member)
    have left :
        (withTrace (database.rewritten (time.isoformat now) call)
            call.ticketId []).traceSteps =
          database.traceSteps.filter (·.ticketId != call.ticketId) := by
      simp [withTrace, Database.rewritten]
    apply ends_mono (insertSteps_all_or_nothing py rows _)
    · rintro - after ⟨insertable, rfl⟩
      rw [left] at insertable
      refine ⟨⟨bound, known, accepted, serialisable,
        numbered.mp insertable⟩, ?_⟩
      have replaced := @replaced_withTrace py time now call rows written
        database
      simpa [withTrace] using replaced
    · intro exc after uninsertable acceptable
      rw [left, numbered] at uninsertable
      exact uninsertable acceptable.numbered
  · intro exc unwritten acceptable
    rcases mapM_ok_iff.mpr fun step member =>
      (exists_row_iff py time call.ticketId step).mpr
        (acceptable.serialisable step member) with ⟨rows, written⟩
    rw [written] at unwritten
    simp at unwritten

/--
A `finalise` that returns has replaced the state and the steps of its ticket;
one that raises has changed nothing.  It raises exactly when the call is not
acceptable.
-/
theorem finalise_all_or_nothing
    (now : DateTime) (call : FinaliseCall) (database : Database) :
    Ends (finalise py time now call) database
      (fun _ after =>
        Acceptable py database call ∧
          Replaced py time now call database after)
      (fun _ after => ¬ Acceptable py database call ∧ after = database) :=
  finalise_accepts py time now call database

end

end SupportAssistant.Storage.Atomicity
