import SupportAssistant.Api.Process
import SupportAssistant.Storage.Interchange

/-!
# The life of one ticket

Whatever other tickets and processes do, a ticket has a life of its own.  Its
facts are what the database holds of it, the lines of the log that are bound
to it, and how far its run has come; `Standing` lists what these can be.
Every moment of the service leaves every ticket standing: it moves one ticket
on and leaves the others as they were, or it is a restart, which loses runs.
-/

namespace SupportAssistant.Api.Lifecycle

open SupportAssistant.Runtime
open SupportAssistant.Effects.Outcomes
open SupportAssistant.Tracing.Models
open SupportAssistant.Observability.Metrics
open SupportAssistant.Storage.Protocol
open SupportAssistant.Storage.Sqlite
open SupportAssistant.Storage.SqliteSpec
open SupportAssistant.Storage.ReadBack
open SupportAssistant.Storage.Finality
open SupportAssistant.Storage.Interchange
open SupportAssistant.Pipeline.Collaborators
open SupportAssistant.Pipeline.Orchestrator
open SupportAssistant.Pipeline.Conclusions
open SupportAssistant.Api.Routes
open SupportAssistant.Api.Process

/-- What there is of one ticket. -/
@[ext]
structure Facts where
  found : Option TicketRow × List StepRow
  lines : List TraceStep
  stage : Stage

def factsOf (world : World) (id : String) : Facts where
  found := entry id world.database
  lines := linesOf id world.log
  stage := world.stage id

/-- The run has nothing more to read or to write. -/
def Stage.Over : Stage → Prop
  | .absent => True
  | .counting _ => True
  | _ => False

section

variable (py : PyText) (time : TimeText) (id : String)

/-- The row that `POST` inserts. -/
def postedRow (payload : CreateTicketRequest) (created : Reading) :
    TicketRow :=
  ticketRow time (newTicket payload id created)

/-- What the write of a verdict left under the id. -/
structure Kept (readings : List DateTime) (payload : CreateTicketRequest)
    (created updated : Reading) (verdict : Verdict)
    (found : Option TicketRow × List StepRow) : Prop where
  concluding : Concluding verdict.1 verdict.2
  orderly : Orderly verdict.2
  stored : ∃ rows, verdict.2.mapM (stepToRow py time id) = .ok rows ∧
    found =
      (some ((postedRow time id payload created).finalised
          (time.isoformat updated) (finaliseCall id verdict.1 verdict.2)),
        rows.insertionSort fun first second => first.seq ≤ second.seq)
  inOrder :
    (created.val :: verdict.2.map TraceStep.ts ++
      [updated.val]).Sublist readings

/-- What the facts of a ticket can be, given what the clock was read as. -/
inductive Standing (readings : List DateTime) : Facts → Prop where
  | unknown : Standing readings ⟨(none, []), [], .absent⟩
  | scheduled {payload : CreateTicketRequest} {created : Reading}
      (inOrder : [created.val].Sublist readings) :
      Standing readings
        ⟨(some (postedRow time id payload created), []), [], .scheduled⟩
  | running {payload : CreateTicketRequest} {created : Reading}
      {past ahead : List Event} {verdict : Option Verdict}
      (inOrder : (created.val :: clockReadings past).Sublist readings)
      (orderly : Orderly (loggedSteps (past ++ ahead)))
      (behind : ∀ concluded, verdict = some concluded →
        Behind (past ++ ahead) concluded) :
      Standing readings
        ⟨(some (postedRow time id payload created), []), loggedSteps past,
          .running ahead verdict⟩
  | writing {payload : CreateTicketRequest} {created : Reading}
      {verdict : Verdict} (concluding : Concluding verdict.1 verdict.2)
      (orderly : Orderly verdict.2)
      (inOrder :
        (created.val :: verdict.2.map TraceStep.ts).Sublist readings) :
      Standing readings
        ⟨(some (postedRow time id payload created), []), verdict.2,
          .writing verdict⟩
  /-- The run was lost, raised, or failed to write. -/
  | lost {payload : CreateTicketRequest} {created : Reading}
      {lines : List TraceStep} (inOrder : [created.val].Sublist readings)
      (orderly : Orderly lines) :
      Standing readings
        ⟨(some (postedRow time id payload created), []), lines, .absent⟩
  | kept {payload : CreateTicketRequest} {created updated : Reading}
      {verdict : Verdict} {found : Option TicketRow × List StepRow}
      {stage : Stage}
      (kept : Kept py time id readings payload created updated verdict found)
      (ended : Stage.Over stage) :
      Standing readings ⟨found, verdict.2, stage⟩

variable {py time id} {readings readings' : List DateTime} {facts : Facts}

/-- Standing does not depend on what the clock is read as later. -/
theorem Standing.later (standing : Standing py time id readings facts)
    (longer : readings.Sublist readings') :
    Standing py time id readings' facts := by
  cases standing with
  | unknown => exact .unknown
  | scheduled inOrder => exact .scheduled (inOrder.trans longer)
  | running inOrder orderly behind =>
      exact .running (inOrder.trans longer) orderly behind
  | writing concluding orderly inOrder =>
      exact .writing concluding orderly (inOrder.trans longer)
  | lost inOrder orderly => exact .lost (inOrder.trans longer) orderly
  | kept kept ended =>
      exact .kept
        { concluding := kept.concluding
          orderly := kept.orderly
          stored := kept.stored
          inOrder := kept.inOrder.trans longer } ended

/-- A ticket without a row has nothing else either. -/
theorem Standing.eq_unknown (standing : Standing py time id readings facts)
    (none : facts.found.1 = none) :
    facts = ⟨(.none, []), [], .absent⟩ := by
  cases standing with
  | unknown => rfl
  | kept kept ended =>
      rcases kept.stored with ⟨rows, -, rfl⟩
      simp at none
  | _ => simp at none

theorem orderly_past {past ahead : List Event}
    (orderly : Orderly (loggedSteps (past ++ ahead))) :
    Orderly (loggedSteps past) := by
  rw [loggedSteps, List.filterMap_append] at orderly
  exact orderly.earlier

/-- Losing the run is what a restart does to a ticket. -/
theorem Standing.restarted (standing : Standing py time id readings facts) :
    Standing py time id readings { facts with stage := .absent } := by
  cases standing with
  | unknown => exact .unknown
  | scheduled inOrder => exact .lost inOrder orderly_nil
  | running inOrder orderly behind =>
      exact .lost ((List.sublist_append_left [_] _).trans inOrder)
        (orderly_past orderly)
  | writing concluding orderly inOrder =>
      exact .lost ((List.sublist_append_left [_] _).trans inOrder) orderly
  | lost inOrder orderly => exact .lost inOrder orderly
  | kept kept ended => exact .kept kept trivial

/-! What a stage says of the rest. -/

theorem Standing.of_scheduled
    (standing : Standing py time id readings facts)
    (stage : facts.stage = .scheduled) :
    ∃ payload created,
      facts =
          ⟨(some (postedRow time id payload created), []), [],
            .scheduled⟩ ∧
        [created.val].Sublist readings := by
  cases standing with
  | scheduled inOrder => exact ⟨_, _, rfl, inOrder⟩
  | kept kept ended =>
      cases stage
      exact ended.elim
  | _ => cases stage

theorem Standing.of_running
    (standing : Standing py time id readings facts)
    {ahead : List Event} {verdict : Option Verdict}
    (stage : facts.stage = .running ahead verdict) :
    ∃ payload created past,
      facts =
          ⟨(some (postedRow time id payload created), []),
            loggedSteps past, .running ahead verdict⟩ ∧
        (created.val :: clockReadings past).Sublist readings ∧
          Orderly (loggedSteps (past ++ ahead)) ∧
            ∀ concluded, verdict = some concluded →
              Behind (past ++ ahead) concluded := by
  cases standing with
  | running inOrder orderly behind =>
      cases stage
      exact ⟨_, _, _, rfl, inOrder, orderly, behind⟩
  | kept kept ended =>
      cases stage
      exact ended.elim
  | _ => cases stage

theorem Standing.of_writing
    (standing : Standing py time id readings facts) {verdict : Verdict}
    (stage : facts.stage = .writing verdict) :
    ∃ payload created,
      facts =
          ⟨(some (postedRow time id payload created), []), verdict.2,
            .writing verdict⟩ ∧
        Concluding verdict.1 verdict.2 ∧ Orderly verdict.2 ∧
          (created.val :: verdict.2.map TraceStep.ts).Sublist readings := by
  cases standing with
  | writing concluding orderly inOrder =>
      cases stage
      exact ⟨_, _, rfl, concluding, orderly, inOrder⟩
  | kept kept ended =>
      cases stage
      exact ended.elim
  | _ => cases stage

/-- What is logged of a ticket is orderly, whatever became of its run. -/
theorem Standing.orderly (standing : Standing py time id readings facts) :
    Orderly facts.lines := by
  cases standing with
  | unknown => exact orderly_nil
  | scheduled inOrder => exact orderly_nil
  | running inOrder orderly behind => exact orderly_past orderly
  | writing concluding orderly inOrder => exact orderly
  | lost inOrder orderly => exact orderly
  | kept kept ended => exact kept.orderly

/-- What was written stands while the run counts it. -/
theorem Standing.counts
    (standing : Standing py time id readings facts)
    {updates : List MetricUpdate}
    (stage : facts.stage = .counting updates)
    {next : Stage} (ended : Stage.Over next) :
    Standing py time id readings { facts with stage := next } := by
  cases standing with
  | kept kept _ => exact .kept kept ended
  | _ => cases stage

end

/-! ## What a write leaves of the other tickets -/

section

variable {database : Database} {ticketId : String}

theorem entry_withTicket_same {row : TicketRow}
    (absent : entry row.id database = (none, [])) :
    entry row.id (withTicket database row) = (some row, []) := by
  have unknown : database.tickets.find? (·.id == row.id) = none :=
    congrArg Prod.fst absent
  have noSteps : database.stepsOf row.id = [] := congrArg Prod.snd absent
  apply Prod.ext
  · change List.find? _ (database.tickets ++ [row]) = _
    rw [List.find?_append, unknown]
    simp
  · exact noSteps

theorem entry_withTicket_other {row : TicketRow}
    (different : ticketId ≠ row.id) :
    entry ticketId (withTicket database row) = entry ticketId database := by
  apply Prod.ext
  · change List.find? _ (database.tickets ++ [row]) = _
    rw [List.find?_append]
    simp [entry, Ne.symm different]
  · rfl

theorem entry_rewritten_other {call : FinaliseCall} {rows : List StepRow}
    (owned : ∀ row ∈ rows, row.ticketId = call.ticketId)
    (updatedAt : String) (different : ticketId ≠ call.ticketId) :
    entry ticketId
        (withTrace (database.rewritten updatedAt call) call.ticketId rows) =
      entry ticketId database := by
  apply Prod.ext
  · change List.find? _ (database.rewritten updatedAt call).tickets = _
    rw [find_rewritten]
    change _ = database.tickets.find? (·.id == ticketId)
    cases found : database.tickets.find? (·.id == ticketId) with
    | none => rfl
    | some row =>
        have named : row.id = ticketId := by
          simpa using List.find?_some found
        rw [Option.map_some, if_neg]
        simpa [named] using different
  · exact stepsOf_withTrace_other _ owned different.symm

end

/-! ## Every moment -/

section

variable (py : PyText) (pydantic : Pydantic) (time : TimeText)

/-- Every ticket stands, and exactly the accepted ones have a row. -/
structure Lawful (world : World) : Prop where
  stands : ∀ id, Standing py time id world.readings (factsOf world id)
  known : ∀ id, id ∈ world.accepted ↔
    (entry id world.database).1.isSome = true

theorem lawful_start : Lawful py time World.start where
  stands := fun _ => .unknown
  known := by simp [World.start, entry, Database.empty]

variable {py pydantic time} {world : World}

/-- One ticket moves on, and the clock may be read. -/
theorem Lawful.moved (lawful : Lawful py time world) {next : World}
    (id : String) (facts : Facts)
    (others : ∀ other, other ≠ id → factsOf next other = factsOf world other)
    (clock : world.readings.Sublist next.readings)
    (becomes : factsOf next id = facts)
    (own : Standing py time id next.readings facts)
    (known : ∀ other, other ∈ next.accepted ↔
      (entry other next.database).1.isSome = true) :
    Lawful py time next where
  stands other := by
    by_cases same : other = id
    · rw [same, becomes]
      exact own
    · rw [others other same]
      exact (lawful.stands other).later clock
  known := known

/-- A run moves on without touching anything else. -/
theorem Lawful.advanced (lawful : Lawful py time world) {id : String}
    {stage : Stage}
    (own : Standing py time id world.readings
      { factsOf world id with stage }) :
    Lawful py time (world.advance id stage) := by
  apply lawful.moved id { factsOf world id with stage }
  · intro other different
    exact Facts.ext rfl rfl (advance_stage_other world different stage)
  · exact List.Sublist.refl _
  · exact Facts.ext rfl rfl (advance_stage_same world id stage)
  · exact own
  · exact lawful.known

/-- A `POST` that returns found the id free, and took it. -/
theorem posted_entry (lawful : Lawful py time world)
    {database : Database} {payload : CreateTicketRequest} {id : String}
    {now : Reading}
    (created : create py time (newTicket payload id now) world.database =
      .ok ⟨⟩ database) :
    factsOf world id = ⟨(none, []), [], .absent⟩ ∧
      entry id database = (some (postedRow time id payload now), []) ∧
        ∀ other, other ≠ id →
          entry other database = entry other world.database := by
  rcases returned_of_ok (create_ends py time _ _) created with
    ⟨rfl, -, fresh⟩
  have noRow : (entry id world.database).1 = none := by
    simpa [entry, newTicket] using fresh
  have unknown := (lawful.stands id).eq_unknown noRow
  refine ⟨unknown, ?_, ?_⟩
  · exact @entry_withTicket_same world.database
      (postedRow time id payload now) (congrArg Facts.found unknown)
  · intro other different
    exact entry_withTicket_other different

theorem lawful_posted (lawful : Lawful py time world)
    {database : Database} {payload : CreateTicketRequest} {id : String}
    {now : Reading}
    (created : create py time (newTicket payload id now) world.database =
      .ok ⟨⟩ database) :
    Lawful py time
      { (world.advance id .scheduled).read now with
        database, accepted := world.accepted ++ [id] } := by
  rcases posted_entry lawful created with ⟨unknown, inserted, others⟩
  have noLines : linesOf id world.log = [] := congrArg Facts.lines unknown
  apply lawful.moved id
    ⟨(some (postedRow time id payload now), []), [], .scheduled⟩
  · intro other different
    exact Facts.ext (others other different) rfl
      (advance_stage_other world different _)
  · exact List.sublist_append_left _ _
  · exact Facts.ext inserted noLines (advance_stage_same world id _)
  · exact .scheduled (List.sublist_append_right _ _)
  · intro other
    change other ∈ world.accepted ++ [id] ↔
      (entry other database).1.isSome = true
    by_cases same : other = id
    · subst same
      rw [inserted]
      simp
    · rw [others other same, ← lawful.known other]
      simp [same]

theorem lawful_happened (lawful : Lawful py time world) {id : String}
    {event : Event} {ahead : List Event} {verdict : Option Verdict}
    (runs : world.stage id = .running (event :: ahead) verdict) :
    Lawful py time
      ((world.witness id event).advance id (.running ahead verdict)) := by
  rcases (lawful.stands id).of_running runs with
    ⟨payload, created, past, facts, inOrder, orderly, behind⟩
  have database : (world.witness id event).database = world.database := by
    cases event <;> rfl
  have accepted : (world.witness id event).accepted = world.accepted := by
    cases event <;> rfl
  have stages : (world.witness id event).stage = world.stage := by
    cases event <;> rfl
  have readings : (world.witness id event).readings =
      world.readings ++ clockReadings [event] := by
    cases event <;> simp [World.witness, World.read, clockReadings]
  have logged : ∀ other, linesOf other (world.witness id event).log =
      linesOf other world.log ++
        if id = other then loggedSteps [event] else [] := by
    intro other
    cases event <;>
      simp [World.witness, World.read, loggedSteps, linesOf_snoc]
  have longer : loggedSteps (past ++ [event]) =
      loggedSteps past ++ loggedSteps [event] :=
    List.filterMap_append
  apply lawful.moved id
    ⟨(some (postedRow time id payload created), []),
      loggedSteps (past ++ [event]), .running ahead verdict⟩
  · intro other different
    apply Facts.ext
    · exact congrArg (entry other) database
    · refine (logged other).trans ?_
      rw [if_neg (Ne.symm different), List.append_nil]
      rfl
    · exact (advance_stage_other _ different _).trans
        (congrFun stages other)
  · exact readings ▸ List.sublist_append_left _ _
  · apply Facts.ext
    · exact (congrArg (entry id) database).trans
        (congrArg Facts.found facts)
    · refine (logged id).trans ?_
      rw [if_pos rfl, show linesOf id world.log = loggedSteps past from
        congrArg Facts.lines facts]
      exact longer.symm
    · exact advance_stage_same _ id _
  · change Standing py time id (world.witness id event).readings _
    apply Standing.running
    · have both := inOrder.append
        (List.Sublist.refl (clockReadings [event]))
      rw [readings, show clockReadings (past ++ [event]) =
        clockReadings past ++ clockReadings [event] from
          List.filterMap_append]
      exact both
    · simpa using orderly
    · intro concluded isVerdict
      simpa using behind concluded isVerdict
  · intro other
    change other ∈ (world.witness id event).accepted ↔
      (entry other (world.witness id event).database).1.isSome = true
    rw [accepted, database]
    exact lawful.known other

/-- A write that returns leaves its verdict under the id. -/
theorem wrote_entry {database database' : Database}
    {payload : CreateTicketRequest} {created : Reading} {id : String}
    (found : entry id database =
      (some (postedRow time id payload created), []))
    {outcome : Outcome} {steps : List TraceStep} {now : Reading}
    (written : finalise py time now (finaliseCall id outcome steps)
      database = .ok ⟨⟩ database') :
    (∃ rows, steps.mapM (stepToRow py time id) = .ok rows ∧
        entry id database' =
          (some ((postedRow time id payload created).finalised
              (time.isoformat now) (finaliseCall id outcome steps)),
            rows.insertionSort fun first second =>
              first.seq ≤ second.seq)) ∧
      ∀ other, other ≠ id →
        entry other database' = entry other database := by
  rcases returned_of_ok (finalise_ends py time now _ _) written with
    ⟨rows, areRows, rfl, -, -⟩
  have owned : ∀ row ∈ rows, row.ticketId = id :=
    fun row member => ((reads_written time py areRows).2 row member).1
  refine ⟨⟨rows, areRows, ?_⟩, ?_⟩
  · exact @entry_rewritten database (postedRow time id payload created)
      (finaliseCall id outcome steps) (congrArg Prod.fst found)
      (time.isoformat now) rows owned
  · intro other different
    exact @entry_rewritten_other database other
      (finaliseCall id outcome steps) rows owned _ different

theorem lawful_wrote (lawful : Lawful py time world) {id : String}
    {outcome : Outcome} {steps : List TraceStep} {database : Database}
    {now : Reading} {stage : Stage} (ended : Stage.Over stage)
    (writes : world.stage id = .writing (outcome, steps))
    (written : finalise py time now (finaliseCall id outcome steps)
      world.database = .ok ⟨⟩ database) :
    Lawful py time
      { (world.advance id stage).read now with database } := by
  rcases (lawful.stands id).of_writing writes with
    ⟨payload, created, facts, concluding, orderly, inOrder⟩
  have found : entry id world.database =
      (some (postedRow time id payload created), []) :=
    congrArg Facts.found facts
  have lines : linesOf id world.log = steps := congrArg Facts.lines facts
  rcases wrote_entry found written with ⟨⟨rows, areRows, stored⟩, others⟩
  apply lawful.moved id ⟨_, steps, stage⟩
  · intro other different
    exact Facts.ext (others other different) rfl
      (advance_stage_other world different _)
  · exact List.sublist_append_left _ _
  · exact Facts.ext stored lines (advance_stage_same world id _)
  · exact @Standing.kept py time id _ payload created now (outcome, steps)
      _ stage
      { concluding
        orderly
        stored := ⟨rows, areRows, rfl⟩
        inOrder := inOrder.append (List.Sublist.refl [now.val]) }
      ended
  · intro other
    change other ∈ world.accepted ↔ (entry other database).1.isSome = true
    rw [lawful.known other]
    by_cases same : other = id
    · subst same
      rw [stored, found]
      rfl
    · rw [others other same]

theorem lawful_step {next : World}
    (step : Step py pydantic time world next)
    (lawful : Lawful py time world) :
    Lawful py time next := by
  cases step with
  | posted payload id now created => exact lawful_posted lawful created
  | refused payload id now raised =>
      have same := raised_of_error (create_ends py time _ _) raised
      subst same
      exact
        { stands := fun id => (lawful.stands id).later
            (List.sublist_append_left _ _)
          known := lawful.known }
  | @began id ticket wiring templates before scheduled found =>
      apply lawful.advanced
      rcases (lawful.stands id).of_scheduled scheduled with
        ⟨payload, created, facts, inOrder⟩
      rw [facts]
      exact @Standing.running py time id world.readings payload created
        [] _ _ inOrder (runEvents_orderly wiring ticket before)
        (fun _ => runEvents_behind templates ticket before)
  | @missed id scheduled missing =>
      exact lawful.advanced (lawful.stands id).restarted
  | happened runs => exact lawful_happened lawful runs
  | @concluded id verdict runs =>
      apply lawful.advanced
      rcases (lawful.stands id).of_running runs with
        ⟨payload, created, past, facts, inOrder, orderly, behind⟩
      have ran := behind verdict rfl
      rw [List.append_nil] at ran orderly
      rw [ran.clock] at inOrder
      rw [ran.hook] at orderly
      rw [facts, ran.hook]
      exact .writing ran.concluding orderly inOrder
  | @escaped id runs =>
      exact lawful.advanced (lawful.stands id).restarted
  | wrote now writes written =>
      exact lawful_wrote lawful trivial writes written
  | @failed id verdict now writes =>
      have moved := lawful.advanced (lawful.stands id).restarted
      exact
        { stands := fun other => (moved.stands other).later
            (List.sublist_append_left _ _)
          known := moved.known }
  | @counted id update updates counts =>
      have moved : Lawful py time (world.advance id (.counting updates)) :=
        lawful.advanced ((lawful.stands id).counts counts trivial)
      exact { stands := moved.stands, known := moved.known }
  | @done id counts =>
      exact lawful.advanced (lawful.stands id).restarted
  | restarted =>
      exact
        { stands := fun id => (lawful.stands id).restarted
          known := lawful.known }

theorem lawful_later {next : World}
    (later : Later py pydantic time world next)
    (lawful : Lawful py time world) :
    Lawful py time next := by
  induction later with
  | refl => exact lawful
  | tail earlier step induction => exact lawful_step step induction

theorem reachable_lawful (reached : Reachable py pydantic time world) :
    Lawful py time world :=
  lawful_later reached (lawful_start py time)

end

end SupportAssistant.Api.Lifecycle
