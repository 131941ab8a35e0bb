import Mathlib.Data.List.Sort
import SupportAssistant.Api.Responses
import SupportAssistant.Pipeline.Conclusions

/-!
# What every reader sees

In every reachable state of the service, a ticket that `POST` accepted is
found, and every ticket that is found either waits or is settled.  Two facts
carry the invariant: a run that concluded wrote down one final decision, at
the end; and a call of `finalise` shows all of what it writes or nothing.
A reader is shown the ticket exactly when its trace can be sent.
-/

namespace SupportAssistant.Api.Visibility

open SupportAssistant.Runtime
open SupportAssistant.Runtime.Ascii
open SupportAssistant.Effects.Outcomes
open SupportAssistant.Tracing.Models
open SupportAssistant.Domain
open SupportAssistant.Llm.Templates (specFor)
open SupportAssistant.Storage.Protocol
open SupportAssistant.Storage.Memory
open SupportAssistant.Storage.Sqlite
open SupportAssistant.Storage.Codec
open SupportAssistant.Storage.SqliteSpec
open SupportAssistant.Storage.ReadBack
open SupportAssistant.Storage.Finality
open SupportAssistant.Storage.Filing
open SupportAssistant.Pipeline.Collaborators
open SupportAssistant.Pipeline.Orchestrator
open SupportAssistant.Pipeline.Handover
open SupportAssistant.Pipeline.Scripted
open SupportAssistant.Pipeline.Replies
open SupportAssistant.Pipeline.Reasons
open SupportAssistant.Pipeline.Conclusions
open SupportAssistant.Api.Routes
open SupportAssistant.Api.Sendable
open SupportAssistant.Api.Responses

/-! ## What a reader makes of it -/

theorem storedPayload_isFinalDecision (payload : Payload) :
    Payload.isFinalDecision (storedPayload payload) =
      Payload.isFinalDecision payload := by
  cases payload <;> rfl

/-- A ticket that says what a finished run wrote is settled. -/
theorem settled_of_kept
    {time : TimeText} {ticketId : String} {outcome : Outcome}
    {steps : List TraceStep} {ticket : Ticket}
    (concluding : Concluding outcome steps)
    (written : Says (fun trace => (sortedTrace trace).map (storedStep time))
      (finaliseCall ticketId outcome steps) ticket) :
    Settled (viewOf ticket) := by
  have trace : ticket.trace = steps.map (storedStep time) := by
    rw [written.trace]
    change (sortedTrace steps).map _ = _
    rw [concluding.ordered]
  have status : ticket.status = outcome.status := written.status
  have terminal : ticket.status ≠ .processing := by
    rw [status]
    rcases concluding.either with ⟨reply, rfl, -⟩ | ⟨reason, detail, rfl⟩ <;>
      simp [replied, handedOff]
  refine
    { terminal
      one := ticket.terminal_iff_one.mp terminal
      decided := ?_
      checked := ?_ }
  · rcases concluding.closed with ⟨earlier, last, rfl, payload, notFinal⟩
    refine ⟨earlier.map (storedStep time), storedStep time last,
      outcome.detail, ?_, ?_, ?_⟩
    · exact trace.trans (by simp)
    · change storedPayload last.payload =
        .finalDecision ticket.status ticket.handoffReason outcome.detail
      rw [payload, status, written.reason]
      rfl
    · intro step member
      rcases List.mem_map.mp member with ⟨original, inEarlier, rfl⟩
      exact (storedPayload_isFinalDecision original.payload).trans
        (notFinal original inEarlier)
  · intro isReplied
    rcases concluding.either with
      ⟨reply, rfl, -, checked⟩ | ⟨reason, detail, rfl⟩
    · rcases checked with ⟨step, member, literals, violations, payload⟩
      refine ⟨storedStep time step, ?_, literals, violations, ?_⟩
      · change _ ∈ ticket.trace
        rw [trace]
        exact List.mem_map_of_mem member
      · change storedPayload step.payload = _
        rw [payload]
        rfl
    · have impossible := status.symm.trans isReplied
      simp [handedOff] at impossible

/-- A ticket read from a fresh row waits. -/
theorem waiting_of_created
    {py : PyText} {pydantic : Pydantic} {time : TimeText}
    {payload : CreateTicketRequest} {id : String} {now : Reading}
    {ticket : Ticket}
    (read : ticketOfRow py pydantic time
      (ticketRow time (newTicket payload id now)) [] = .ok ticket) :
    Waiting (viewOf ticket) := by
  have reads := (ticketOfRow_iff py pydantic time).mp read
  exact
    { status := (Option.some.inj reads.status).symm
      reply := reads.reply
      reason := (Except.ok.inj reads.reason).symm
      trace := (Option.some.inj reads.trace).symm }

/-! ## The database -/

section

variable (py : PyText) (pydantic : Pydantic) (time : TimeText)

/-- The database has a row for the id. -/
def Holds (database : Database) (id : String) : Prop :=
  ∃ row ∈ database.tickets, row.id = id

/-- Every ticket that is read is presentable. -/
def Shown (database : Database) : Prop :=
  ∀ id ticket, getTicket py pydantic time database id = .ok (some ticket) →
    Presentable (viewOf ticket)

/-- What the service keeps true of its database. -/
structure Sound (database : Database) : Prop where
  reads : Reads time database
  owned : ∀ step ∈ database.traceSteps, Holds database step.ticketId
  shown : Shown py pydantic time database

theorem entry_isSome_iff {database : Database} {id : String} :
    (entry id database).1.isSome = true ↔ Holds database id := by
  unfold entry Holds
  rw [List.find?_isSome]
  simp

theorem sound_empty : Sound py pydantic time Database.empty where
  reads := reads_empty time
  owned := by simp [Database.empty]
  shown := by
    intro id ticket found
    simp [getTicket, Database.empty] at found

theorem holds_created
    {database : Database} {row : TicketRow} {id : String}
    (held : Holds database id) :
    Holds (withTicket database row) id := by
  rcases held with ⟨stored, member, named⟩
  exact ⟨stored, List.mem_append_left _ member, named⟩

theorem holds_rewritten
    {database : Database} {updatedAt : String} {call : FinaliseCall}
    {rows : List StepRow} {id : String} :
    Holds (withTrace (database.rewritten updatedAt call) call.ticketId rows)
        id ↔
      Holds database id := by
  rw [← entry_isSome_iff, ← entry_isSome_iff]
  change (List.find? _ (database.rewritten updatedAt call).tickets).isSome =
    true ↔ _
  rw [find_rewritten, Option.isSome_map]
  rfl

/-- A created ticket waits, and every other ticket is as it was. -/
theorem sound_created
    {database after : Database} {payload : CreateTicketRequest}
    {id : String} {now : Reading}
    (sound : Sound py pydantic time database)
    (created : create py time (newTicket payload id now) database =
      .ok ⟨⟩ after) :
    Sound py pydantic time after ∧ Holds after id ∧
      ∀ other, Holds database other → Holds after other := by
  rcases returned_of_ok (create_ends py time _ database) created with
    ⟨rfl, passes, fresh⟩
  have legible : Legible time (.create (newTicket payload id now)) := by
    constructor <;>
      · change (time.parse (time.isoformat now)).isSome = true
        rw [time.parse_isoformat now now.property]
        rfl
  have kept : ∀ other, Holds database other →
      Holds (withTicket database
        (ticketRow time (newTicket payload id now))) other :=
    fun other held => holds_created held
  refine ⟨?_, ⟨_, List.mem_append_right _ (List.mem_singleton.mpr rfl), rfl⟩,
    kept⟩
  refine
    { reads := reads_changed time py (.created _ passes fresh) legible
        sound.reads
      owned := fun step member => kept _ (sound.owned step member)
      shown := ?_ }
  intro requested ticket found
  rcases (getTicket_some_iff py pydantic time).mp found with
    ⟨row, search, read⟩
  have search : (database.tickets ++
      [ticketRow time (newTicket payload id now)]).find?
        (·.id == requested) = some row := search
  rw [List.find?_append] at search
  cases old : database.tickets.find? (·.id == requested) with
  | some stored =>
      rw [old] at search
      apply sound.shown requested ticket
      apply (getTicket_some_iff py pydantic time).mpr
      exact ⟨row, old.trans search, read⟩
  | none =>
      rw [old, Option.none_or, List.find?_singleton] at search
      split at search
      · rename_i named
        cases search
        -- no step belongs to an id that had no row
        have noSteps : database.stepsOf requested = [] := by
          rw [Database.stepsOf, List.filter_eq_nil_iff.mpr]
          · rfl
          intro step member owns
          rcases sound.owned step member with ⟨stored, inTickets, same⟩
          have unnamed := List.find?_eq_none.mp old stored inTickets
          rw [same] at unnamed
          exact unnamed owns
        apply Or.inl
        rw [show (entry requested (withTicket database _)).2 = [] from
          noSteps] at read
        exact waiting_of_created read
      · simp at search

/-- What was written is settled, and every other ticket is as it was. -/
theorem sound_written
    {database after : Database} {id : String} {outcome : Outcome}
    {steps : List TraceStep} {now : Reading}
    (sound : Sound py pydantic time database)
    (concluding : Concluding outcome steps)
    (written : finalise py time now (finaliseCall id outcome steps)
      database = .ok ⟨⟩ after) :
    Sound py pydantic time after ∧
      ∀ other, Holds database other → Holds after other := by
  rcases returned_of_ok (finalise_ends py time now _ database) written with
    ⟨rows, rowsWritten, same, stored, passes⟩
  have kept : ∀ other, Holds after other ↔ Holds database other := by
    intro other
    rw [same]
    exact holds_rewritten
  have legible :
      Legible time (.finalise now (finaliseCall id outcome steps)) := by
    rcases concluding.either with ⟨reply, rfl, spoken, -⟩ | ⟨_, _, rfl⟩
    · rintro ⟨-, empty, -⟩
      exact spoken (Option.some.inj empty)
    · rintro ⟨impossible, -, -⟩
      simp [finaliseCall, handedOff] at impossible
  refine ⟨?_, fun other held => (kept other).mpr held⟩
  refine
    { reads := ?_
      owned := ?_
      shown := ?_ }
  · rw [same]
    exact reads_changed time py
      (.finalised now _ rows rowsWritten stored passes) legible sound.reads
  · intro step member
    apply (kept _).mpr
    rw [same] at member
    rcases List.mem_append.mp member with old | new
    · exact sound.owned step (List.mem_filter.mp old).1
    · rw [((reads_written time py rowsWritten).2 step new).1]
      exact stored
  · intro requested ticket found
    rcases (getTicket_some_iff py pydantic time).mp found with
      ⟨row, search, read⟩
    have present : (entry requested database).1.isSome = true := by
      rw [entry_isSome_iff, ← kept, ← entry_isSome_iff, search]
      rfl
    rcases entry_finalised py time present written with ⟨own, other⟩
    by_cases named : id = requested
    · have under : Written py time (finaliseCall id outcome steps)
          ((entry requested after).1, (entry requested after).2) :=
        own named
      rw [search] at under
      exact Or.inr (settled_of_kept concluding
        (says_of_written py pydantic time under read))
    · rw [other named] at search read
      exact sound.shown requested ticket
        ((getTicket_some_iff py pydantic time).mpr ⟨row, search, read⟩)

/-! ## The service -/

/-- What every moment of the service keeps true. -/
structure Consistent (server : Server) : Prop where
  sound : Sound py pydantic time server.database
  filed : Filed py time server.database
  held : ∀ id ∈ server.accepted, Holds server.database id
  writing : ∀ id outcome steps,
    (id, .writing outcome steps) ∈ server.runs → Concluding outcome steps

theorem consistent_start : Consistent py pydantic time Server.start where
  sound := sound_empty py pydantic time
  filed := filed_empty py time
  held := by simp [Server.start]
  writing := by simp [Server.start]

/-- A run that goes on, or ends, leaves the other runs alone. -/
theorem writing_replaced
    {before after : List (String × Task)} {run : String × Task}
    {next : List (String × Task)}
    (writing : ∀ id outcome steps,
      (id, .writing outcome steps) ∈ before ++ run :: after →
        Concluding outcome steps)
    (nextWriting : ∀ id outcome steps,
      (id, .writing outcome steps) ∈ next → Concluding outcome steps) :
    ∀ id outcome steps,
      (id, .writing outcome steps) ∈ before ++ (next ++ after) →
        Concluding outcome steps := by
  intro id outcome steps member
  rcases List.mem_append.mp member with earlier | member
  · exact writing id outcome steps (List.mem_append_left _ earlier)
  rcases List.mem_append.mp member with here | later
  · exact nextWriting id outcome steps here
  · exact writing id outcome steps
      (List.mem_append_right _ (List.mem_cons_of_mem _ later))

theorem consistent_step
    {server next : Server}
    (step : Step py pydantic time server next)
    (consistent : Consistent py pydantic time server) :
    Consistent py pydantic time next := by
  cases step with
  | posted payload id now created =>
      rcases sound_created py pydantic time consistent.sound created with
        ⟨sound, fresh, kept⟩
      refine
        { sound
          filed := filed_created py time consistent.filed created
          held := ?_
          writing := ?_ }
      · intro accepted member
        rcases List.mem_append.mp member with old | new
        · exact kept accepted (consistent.held accepted old)
        · cases List.mem_singleton.mp new
          exact fresh
      · intro running outcome steps member
        rcases List.mem_append.mp member with old | new
        · exact consistent.writing running outcome steps old
        · simp at new
  | notPosted payload id now refused =>
      have same := raised_of_error
        (create_ends py time (newTicket payload id now) server.database)
        refused
      subst same
      exact consistent
  | served id => exact consistent
  | began found =>
      exact
        { sound := consistent.sound
          filed := consistent.filed
          held := consistent.held
          writing := @writing_replaced _ _ _ [_] consistent.writing
            (by simp) }
  | notBegun missing =>
      exact
        { sound := consistent.sound
          filed := consistent.filed
          held := consistent.held
          writing := @writing_replaced _ _ _ [] consistent.writing
            (by simp) }
  | concluded wiring templates events ran =>
      refine
        { sound := consistent.sound
          filed := consistent.filed
          held := consistent.held
          writing := @writing_replaced _ _ _ [_] consistent.writing ?_ }
      intro running outcome steps member
      cases List.mem_singleton.mp member
      exact concluding_of_conclude templates ran
  | crashed wiring templates events raised =>
      exact
        { sound := consistent.sound
          filed := consistent.filed
          held := consistent.held
          writing := @writing_replaced _ _ _ [] consistent.writing
            (by simp) }
  | wrote now written =>
      have concluding := consistent.writing _ _ _
        (List.mem_append_right _ List.mem_cons_self)
      rcases sound_written py pydantic time consistent.sound concluding
        written with ⟨sound, kept⟩
      exact
        { sound
          filed := filed_finalised py time consistent.filed written
          held := fun id member => kept id (consistent.held id member)
          writing := @writing_replaced _ _ _ [] consistent.writing
            (by simp) }
  | failed =>
      exact
        { sound := consistent.sound
          filed := consistent.filed
          held := consistent.held
          writing := @writing_replaced _ _ _ [] consistent.writing
            (by simp) }

theorem reachable_consistent
    {server : Server}
    (reached :
      Relation.ReflTransGen (Step py pydantic time) Server.start server) :
    Consistent py pydantic time server := by
  induction reached with
  | refl => exact consistent_start py pydantic time
  | tail _ step induction =>
      exact consistent_step py pydantic time step induction

/-- An accepted ticket is found, and its id can be bound. -/
theorem accepted_found
    {server : Server} (consistent : Consistent py pydantic time server)
    {id : String} (accepted : id ∈ server.accepted) :
    py.encodes id = true ∧ ∃ ticket,
      getTicket py pydantic time server.database id = .ok (some ticket) := by
  rcases consistent.held id accepted with ⟨row, stored, rfl⟩
  exact ⟨consistent.filed.texts row stored row.id (by simp [TicketRow.texts]),
    getTicket_of_reads time py pydantic consistent.sound.reads stored⟩

/-- A reader of the ticket is shown a view that waits or is settled. -/
def Sees (database : Database) (id : String) : Prop :=
  ∃ view body, respond py pydantic time database id = .ok view body ∧
    Presentable view

/--
In every reachable state, an accepted ticket is found, and a reader sees it
waiting or settled exactly if the stored trace can be sent.  No reader is ever
shown anything else.
-/
theorem reader_sees_iff
    {server : Server}
    (reached :
      Relation.ReflTransGen (Step py pydantic time) Server.start server) :
    (∀ id ∈ server.accepted, ∃ ticket,
        getTicket py pydantic time server.database id = .ok (some ticket) ∧
          (Sees py pydantic time server.database id ↔
            ∀ step ∈ ticket.trace, CanBeSent py step.payload)) ∧
      ∀ id view body,
        respond py pydantic time server.database id = .ok view body →
          Presentable view := by
  have consistent := reachable_consistent py pydantic time reached
  have shown : ∀ id view body,
      respond py pydantic time server.database id = .ok view body →
        Presentable view := by
    intro id view body answered
    rcases ticket_of_respond py pydantic time answered with
      ⟨ticket, found, rfl, -⟩
    exact consistent.sound.shown id ticket found
  refine ⟨?_, shown⟩
  intro id accepted
  rcases accepted_found py pydantic time consistent accepted with
    ⟨bound, ticket, found⟩
  have filed := filedTicket_of_read py pydantic time consistent.filed found
  refine ⟨ticket, found, ?_⟩
  refine Iff.trans ?_
    (@sentBody_isSome_iff py time _ (filedView_of_ticket filed))
  have answered := respond_of_found py pydantic time bound found
  constructor
  · rintro ⟨view, body, isAnswer, -⟩
    rcases ticket_of_respond py pydantic time isAnswer with
      ⟨same, foundSame, rfl, isBody⟩
    rw [found] at foundSame
    cases foundSame
    exact ⟨body, isBody⟩
  · rintro ⟨body, isBody⟩
    rw [isBody] at answered
    exact ⟨viewOf ticket, body, answered, shown id _ body answered⟩

end

/-! ## A ticket that is posted, run and served -/

def invoiceRequest : CreateTicketRequest where
  userId := waitingTicket.userId
  subject := waitingTicket.subject
  body := waitingTicket.body
  userIdOk := waitingTicket.userIdOk
  subjectOk := waitingTicket.subjectOk
  bodyOk := waitingTicket.bodyOk

def postedTicket : Ticket :=
  newTicket invoiceRequest "t1" atEpoch

def postedDatabase : Database :=
  performedAll asciiSqlite Database.empty [.create postedTicket]

def quittingWiring : Wiring :=
  wiringOf (quittingModel .unsupportedIntent) paidAccount

def quittingOutcome : Outcome :=
  handedOff .unsupportedIntent (gaveUpDetail .unsupportedIntent)

def quittingState : RunState :=
  finalState (conclude quittingWiring postedTicket) (RunState.start [])

/-- The database when the run of its one ticket has given up. -/
def quitDatabase : Database :=
  performedAll asciiSqlite postedDatabase
    [.finalise atEpoch
      (finaliseCall "t1" quittingOutcome quittingState.recorder.steps)]

theorem quitDatabase_written :
    finalise asciiText tallyTime atEpoch
        (finaliseCall "t1" quittingOutcome quittingState.recorder.steps)
        postedDatabase =
      .ok ⟨⟩ quitDatabase := by
  have returned : returns (finalise asciiText tallyTime atEpoch
      (finaliseCall "t1" quittingOutcome quittingState.recorder.steps))
      postedDatabase (fun _ => true) = true := by
    decide +kernel
  rcases ok_of_returns returned with ⟨⟨⟩, -, written⟩
  simpa only [quitDatabase, performedAll_finalise, asciiSqlite,
    sqliteRepository] using written

/-- The service after that run. -/
def quitServer : Server where
  database := quitDatabase
  runs := []
  accepted := ["t1"]

theorem quitServer_reached :
    Relation.ReflTransGen (Step asciiText plainPydantic tallyTime)
      Server.start quitServer := by
  apply Relation.ReflTransGen.head
    (@Step.posted asciiText plainPydantic tallyTime Server.start
      postedDatabase invoiceRequest "t1" atEpoch rfl)
  apply Relation.ReflTransGen.head
    (@Step.began asciiText plainPydantic tallyTime postedDatabase [] []
      ["t1"] "t1" postedTicket rfl)
  apply Relation.ReflTransGen.head
    (@Step.concluded asciiText plainPydantic tallyTime postedDatabase [] []
      ["t1"] "t1" postedTicket quittingOutcome quittingState quittingWiring
      ⟨rfl, fun _ _ => rfl⟩ [] rfl)
  exact Relation.ReflTransGen.single
    (@Step.wrote asciiText plainPydantic tallyTime postedDatabase
      quitDatabase [] [] ["t1"] "t1" quittingOutcome
      quittingState.recorder.steps atEpoch quitDatabase_written)

theorem quitServer_seen :
    (∀ id ∈ quitServer.accepted, ∃ ticket,
        getTicket asciiText plainPydantic tallyTime quitServer.database id =
            .ok (some ticket) ∧
          (Sees asciiText plainPydantic tallyTime quitServer.database id ↔
            ∀ step ∈ ticket.trace, CanBeSent asciiText step.payload)) ∧
      ∀ id view body,
        respond asciiText plainPydantic tallyTime quitServer.database id =
            .ok view body →
          Presentable view :=
  reader_sees_iff asciiText plainPydantic tallyTime quitServer_reached

/-! ## A ticket that no reader sees -/

/-- A model that makes a call with a lone surrogate, and gives up. -/
def strayWiring : Wiring :=
  { wiringOf
      (scriptedModel .billingQuestion
        [.toolCall ⟨"get_user", [("user_id", .json (.string "\uFFFD"))]⟩,
          .handoff .unsupportedIntent])
      paidAccount with
    py := surrogateText
    resolveTemplate := fun _ name => .ok (specFor surrogateText name) }

def strayState : RunState :=
  finalState (conclude strayWiring postedTicket) (RunState.start [])

/-- The database after that run. -/
def strayDatabase : Database :=
  performedAll (sqliteRepository surrogateText plainPydantic tallyTime)
    postedDatabase
    [.finalise atEpoch
      (finaliseCall "t1" quittingOutcome strayState.recorder.steps)]

theorem strayDatabase_written :
    finalise surrogateText tallyTime atEpoch
        (finaliseCall "t1" quittingOutcome strayState.recorder.steps)
        postedDatabase =
      .ok ⟨⟩ strayDatabase := by
  have returned : returns (finalise surrogateText tallyTime atEpoch
      (finaliseCall "t1" quittingOutcome strayState.recorder.steps))
      postedDatabase (fun _ => true) = true := by
    decide +kernel
  rcases ok_of_returns returned with ⟨⟨⟩, -, written⟩
  simpa only [strayDatabase, performedAll_finalise, sqliteRepository]
    using written

theorem strayState_concluded :
    conclude strayWiring postedTicket (RunState.start []) =
      .ok quittingOutcome strayState := by
  have returned : returns (conclude strayWiring postedTicket)
      (RunState.start []) (fun outcome => outcome = quittingOutcome) =
        true := by
    decide +kernel
  rcases ok_of_returns returned with ⟨outcome, same, ran⟩
  rw [of_decide_eq_true same] at ran
  exact ran

def strayServer : Server where
  database := strayDatabase
  runs := []
  accepted := ["t1"]

theorem strayServer_reached :
    Relation.ReflTransGen (Step surrogateText plainPydantic tallyTime)
      Server.start strayServer := by
  apply Relation.ReflTransGen.head
    (@Step.posted surrogateText plainPydantic tallyTime Server.start
      postedDatabase invoiceRequest "t1" atEpoch rfl)
  apply Relation.ReflTransGen.head
    (@Step.began surrogateText plainPydantic tallyTime postedDatabase [] []
      ["t1"] "t1" postedTicket rfl)
  apply Relation.ReflTransGen.head
    (@Step.concluded surrogateText plainPydantic tallyTime postedDatabase []
      [] ["t1"] "t1" postedTicket quittingOutcome strayState strayWiring
      ⟨rfl, fun _ _ => rfl⟩ [] strayState_concluded)
  exact Relation.ReflTransGen.single
    (@Step.wrote surrogateText plainPydantic tallyTime postedDatabase
      strayDatabase [] [] ["t1"] "t1" quittingOutcome
      strayState.recorder.steps atEpoch strayDatabase_written)

/-- The ticket is accepted and settled, and every read of it fails. -/
theorem stray_ticket_unseen :
    Relation.ReflTransGen (Step surrogateText plainPydantic tallyTime)
        Server.start strayServer ∧
      "t1" ∈ strayServer.accepted ∧
        (respond surrogateText plainPydantic tallyTime strayServer.database
          "t1").isServerError = true :=
  ⟨strayServer_reached, by simp [strayServer], by decide +kernel⟩

end SupportAssistant.Api.Visibility
