import SupportAssistant.Api.Lifecycle
import SupportAssistant.Api.Responses

/-!
# The service as a map of lives

To its readers the service is a map: under each id nothing, then one waiting
view, then one settled view, or an error if the settled view cannot be sent.
`Life` is this view of a ticket and `Life.Next` the ways in which it can
change.  Every moment of the service, restarts included, leaves the map as it
is or lets one life go on.

So what has settled is final: no request, run or restart changes it again.
-/

namespace SupportAssistant.Api.ServedViews

open SupportAssistant.Runtime
open SupportAssistant.Runtime.Ascii
open SupportAssistant.Runtime.Written
open SupportAssistant.Tracing.Models
open SupportAssistant.Domain
open SupportAssistant.Storage.Sqlite
open SupportAssistant.Storage.Codec
open SupportAssistant.Storage.Finality
open SupportAssistant.Storage.Filing
open SupportAssistant.Storage.Interchange hiding respond
open SupportAssistant.Pipeline.Orchestrator
open SupportAssistant.Pipeline.Conclusions
open SupportAssistant.Api.Routes
open SupportAssistant.Api.Sendable
open SupportAssistant.Api.Responses
open SupportAssistant.Api.Visibility
open SupportAssistant.Api.Process
open SupportAssistant.Api.Lifecycle

/-! ## The map -/

/-- What a reader can be told of a ticket; `unreadable` is an error. -/
inductive Life where
  | unknown
  | waiting (view : TicketView)
  | settled (view : TicketView)
  | unreadable

/-- The views are of one ticket. -/
structure SameTicket (before after : TicketView) : Prop where
  id : after.id = before.id
  userId : after.userId = before.userId
  createdAt : after.createdAt = before.createdAt

theorem SameTicket.trans {first middle last : TicketView}
    (earlier : SameTicket first middle) (later : SameTicket middle last) :
    SameTicket first last where
  id := later.id.trans earlier.id
  userId := later.userId.trans earlier.userId
  createdAt := later.createdAt.trans earlier.createdAt

/-- The ways in which a life goes on. -/
inductive Life.Next : Life → Life → Prop where
  | accepted {view : TicketView} (waits : Waiting view) :
      Life.Next .unknown (.waiting view)
  | answered {before after : TicketView} (settles : Settled after)
      (same : SameTicket before after) :
      Life.Next (.waiting before) (.settled after)
  | withheld {before : TicketView} :
      Life.Next (.waiting before) .unreadable

/-- One life of the map goes on. -/
def LivesStep {Id : Type} [DecidableEq Id] (lives lives' : Id → Life) :
    Prop :=
  ∃ id life, Life.Next (lives id) life ∧
    lives' = Function.update lives id life

/-- What the path of a request can name. -/
abbrev PathId (py : PyText) : Type :=
  {id : String // py.encodes id = true}

/-- What a reader is told under an id. -/
def lifeOf (py : PyText) (pydantic : Pydantic) (time : TimeText)
    (database : Database) (id : PathId py) : Life :=
  match respond py pydantic time database id with
  | .notFound => .unknown
  | .serverError => .unreadable
  | .ok view _ =>
      if view.status = .processing then .waiting view else .settled view

/-! ## The views -/

/-- What is served of a ticket that `POST` recorded. -/
def waitingView (payload : CreateTicketRequest) (id : String)
    (created : Reading) : TicketView :=
  viewOf (newTicket payload id created)

/-- What is served of a ticket once its verdict is written. -/
def settledView (time : TimeText) (payload : CreateTicketRequest)
    (id : String) (created updated : Reading) (verdict : Verdict) :
    TicketView where
  id := id
  userId := payload.userId
  status := verdict.1.status
  reply := verdict.1.reply
  handoffReason := verdict.1.reason
  createdAt := created
  updatedAt := updated
  trace := verdict.2.map (storedStep time)

theorem waits_waitingView (payload : CreateTicketRequest) (id : String)
    (created : Reading) :
    Waiting (waitingView payload id created) where
  status := rfl
  reply := rfl
  reason := rfl
  trace := rfl

theorem agrees_of_concluding
    {outcome : Outcome} {steps : List TraceStep}
    (concluding : Concluding outcome steps) :
    statusReplyAndReasonAgree outcome.status outcome.reply outcome.reason =
      true := by
  rcases concluding.either with
    ⟨reply, rfl, spoken, -⟩ | ⟨reason, detail, rfl⟩
  · simpa [replied, statusReplyAndReasonAgree, truthy] using spoken
  · rfl

/-- The ticket that a written verdict reads as. -/
def settledTicket (time : TimeText) (payload : CreateTicketRequest)
    (id : String) (created updated : Reading) {outcome : Outcome}
    {steps : List TraceStep} (concluding : Concluding outcome steps) :
    Ticket :=
  { closed (newTicket payload id created) updated
      (finaliseCall id outcome steps) (agrees_of_concluding concluding) with
    trace := steps.map (storedStep time) }

section

variable (py : PyText) (pydantic : Pydantic) (time : TimeText)
variable {database : Database} {id : String}

theorem read_unknown (found : (entry id database).1 = none) :
    readTicket py pydantic time database id = .ok none := by
  have none : getTicket py pydantic time database id = .ok none := by
    unfold getTicket
    rw [show database.tickets.find? (·.id == id) = _ from found]
  rw [readTicket, none]
  rfl

theorem getTicket_posted
    {payload : CreateTicketRequest} {created : Reading}
    (found : entry id database =
      (some (postedRow time id payload created), [])) :
    getTicket py pydantic time database id =
      .ok (some (newTicket payload id created)) := by
  rw [getTicket_some_iff, found]
  refine ⟨_, rfl, ?_⟩
  rw [ticketOfRow_iff]
  exact readsAs_created created.property created.property

theorem read_posted
    {payload : CreateTicketRequest} {created : Reading}
    (found : entry id database =
      (some (postedRow time id payload created), [])) :
    readTicket py pydantic time database id =
      .ok (some (waitingView payload id created)) := by
  rw [readTicket, getTicket_posted py pydantic time found]
  rfl

variable {py time} {readings : List DateTime}

theorem getTicket_kept
    {payload : CreateTicketRequest} {created updated : Reading}
    {outcome : Outcome} {steps : List TraceStep}
    (kept : Kept py time id readings payload created updated
      (outcome, steps) (entry id database)) :
    getTicket py pydantic time database id =
      .ok (some (settledTicket time payload id created updated
        kept.concluding)) := by
  rcases kept.stored with ⟨rows, areRows, found⟩
  have concluding : Concluding outcome steps := kept.concluding
  have loaded := trace_written py time areRows
  rw [concluding.ordered] at loaded
  have reads := @readsAs_rewritten py time _ _ _ _
    (@readsAs_created py time (newTicket payload id created)
      created.property created.property)
    updated (finaliseCall id outcome steps)
    (agrees_of_concluding concluding) _ loaded
  change _ = Except.ok (some (settledTicket time payload id created updated
    concluding))
  rw [getTicket_some_iff, found]
  refine ⟨_, rfl, ?_⟩
  rw [ticketOfRow_iff]
  exact reads

theorem read_kept
    {payload : CreateTicketRequest} {created updated : Reading}
    {verdict : Verdict}
    (kept : Kept py time id readings payload created updated verdict
      (entry id database)) :
    readTicket py pydantic time database id =
        .ok (some (settledView time payload id created updated verdict)) ∧
      Settled (settledView time payload id created updated verdict) := by
  rcases verdict with ⟨outcome, steps⟩
  have concluding : Concluding outcome steps := kept.concluding
  constructor
  · rw [readTicket, getTicket_kept pydantic kept]
    rfl
  · exact @settled_of_kept time id outcome steps
      (settledTicket time payload id created updated concluding) concluding
      { status := rfl
        reply := rfl
        reason := rfl
        trace := by
          rw [show (finaliseCall id outcome steps).trace = steps from rfl,
            concluding.ordered]
          rfl }

/-- What is served of a ticket that gave up. -/
def quittingView : TicketView :=
  settledView tallyTime invoiceRequest "t1" atEpoch atEpoch
    (quittingOutcome, quittingState.recorder.steps)

theorem quittingView_read :
    readTicket asciiText plainPydantic tallyTime settledWorld.database "t1" =
        .ok (some quittingView) ∧
      Settled quittingView := by
  rw [settledWorld_database]
  have behind := @runEvents_behind asciiText quittingWiring
    ⟨rfl, fun _ _ => rfl⟩ postedTicket []
    (quittingOutcome, quittingState.recorder.steps) rfl
  have orderly := runEvents_orderly quittingWiring postedTicket []
  rw [behind.hook] at orderly
  have posted : entry "t1" postedDatabase =
      (some (postedRow tallyTime "t1" invoiceRequest atEpoch), []) :=
    rfl
  exact read_kept plainPydantic
    { concluding := behind.concluding
      orderly
      stored := (wrote_entry posted quitDatabase_written).1
      inOrder := List.Sublist.refl _ }

/-- What is served of a ticket that stands, and what there is of it. -/
inductive Served (py : PyText) (pydantic : Pydantic) (time : TimeText)
    (database : Database) (id : String) (readings : List DateTime)
    (lines : List TraceStep) : Prop where
  | unknown (found : (entry id database).1 = none) (silent : lines = [])
      (read : readTicket py pydantic time database id = .ok none)
  | waiting (payload : CreateTicketRequest) (created : Reading)
      (found : entry id database =
        (some (postedRow time id payload created), []))
      (inOrder : [created.val].Sublist readings)
      (read : readTicket py pydantic time database id =
        .ok (some (waitingView payload id created)))
  | settled (payload : CreateTicketRequest) (created updated : Reading)
      (verdict : Verdict)
      (kept : Kept py time id readings payload created updated verdict
        (entry id database))
      (logged : lines = verdict.2)
      (settles : Settled (settledView time payload id created updated verdict))
      (read : readTicket py pydantic time database id =
        .ok (some (settledView time payload id created updated verdict)))

theorem served_of_standing
    {lines : List TraceStep} {stage : Stage}
    (standing : Standing py time id readings
      ⟨entry id database, lines, stage⟩) :
    Served py pydantic time database id readings lines := by
  generalize facts : Facts.mk (entry id database) lines stage = its
    at standing
  have found : entry id database = its.found := congrArg Facts.found facts
  have logged : lines = its.lines := congrArg Facts.lines facts
  -- the four stages before the write
  have waiting : ∀ {payload : CreateTicketRequest} {created : Reading},
      entry id database = (some (postedRow time id payload created), []) →
        [created.val].Sublist readings →
          Served py pydantic time database id readings lines :=
    fun isPosted inOrder => .waiting _ _ isPosted inOrder
      (read_posted py pydantic time isPosted)
  cases standing with
  | unknown =>
      have none : (entry id database).1 = none := by rw [found]
      exact .unknown none logged (read_unknown py pydantic time none)
  | scheduled inOrder => exact waiting found inOrder
  | running inOrder _ _ =>
      exact waiting found ((List.sublist_append_left [_] _).trans inOrder)
  | writing _ _ inOrder =>
      exact waiting found ((List.sublist_append_left [_] _).trans inOrder)
  | lost inOrder _ => exact waiting found inOrder
  | @kept payload created updated verdict stored stage kept ended =>
      have isStored : entry id database = stored := found
      subst isStored
      rcases read_kept pydantic kept with ⟨read, settles⟩
      exact .settled payload created updated verdict kept logged settles read

end

/-! ## Every moment -/

section

variable {py : PyText} {pydantic : Pydantic} {time : TimeText}
variable {world next : World}

/-- What a moment can do to the database. -/
inductive Touched (py : PyText) (time : TimeText) (world next : World) :
    Prop where
  | none (same : next.database = world.database)
  | taken (id : String) (payload : CreateTicketRequest) (created : Reading)
      (before : entry id world.database = (.none, []))
      (after : entry id next.database =
        (some (postedRow time id payload created), []))
      (others : ∀ other, other ≠ id →
        entry other next.database = entry other world.database)
  | kept (id : String) (payload : CreateTicketRequest)
      (created updated : Reading) (verdict : Verdict)
      (writes : world.stage id = .writing verdict)
      (before : entry id world.database =
        (some (postedRow time id payload created), []))
      (after : Kept py time id next.readings payload created updated verdict
        (entry id next.database))
      (others : ∀ other, other ≠ id →
        entry other next.database = entry other world.database)

theorem touched_of_step (lawful : Lawful py time world)
    (step : Step py pydantic time world next) :
    Touched py time world next := by
  cases step with
  | posted payload id now created =>
      rcases posted_entry lawful created with ⟨unknown, inserted, others⟩
      exact .taken id payload now (congrArg Facts.found unknown) inserted
        others
  | refused payload id now raised =>
      have same := Effects.Outcomes.raised_of_error
        (Storage.SqliteSpec.create_ends py time _ _) raised
      exact .none same
  | @happened id event ahead verdict runs =>
      apply Touched.none
      cases event <;> rfl
  | @wrote id outcome steps database now writes written =>
      rcases (lawful.stands id).of_writing writes with
        ⟨payload, created, facts, concluding, orderly, inOrder⟩
      have found : entry id world.database = _ := congrArg Facts.found facts
      rcases wrote_entry found written with ⟨stored, others⟩
      exact .kept id payload created now (outcome, steps) writes found
        { concluding
          orderly
          stored
          inOrder := inOrder.append (List.Sublist.refl [now.val]) }
        others
  | _ => exact .none rfl

theorem readTicket_congr {database database' : Database} {id : String}
    (same : entry id database' = entry id database) :
    readTicket py pydantic time database' id =
      readTicket py pydantic time database id := by
  rw [readTicket, readTicket, getTicket_congr py pydantic time same]

theorem getTicket_of_read {database : Database} {id : String}
    {served : Option TicketView}
    (read : readTicket py pydantic time database id = .ok served) :
    ∃ found, getTicket py pydantic time database id = .ok found ∧
      found.map viewOf = served := by
  cases isFound : getTicket py pydantic time database id with
  | error exc => simp [readTicket, isFound, Except.map] at read
  | ok found =>
      refine ⟨found, rfl, ?_⟩
      simpa [readTicket, isFound, Except.map] using read

theorem respond_congr {database database' : Database} {id : String}
    (bound : py.encodes id = true)
    (same : entry id database' = entry id database) :
    respond py pydantic time database' id =
      respond py pydantic time database id := by
  rw [respond, respond, sqlite_get py pydantic time bound,
    sqlite_get py pydantic time bound, getTicket_congr py pydantic time same]
  cases getTicket py pydantic time database id with
  | error exc => rfl
  | ok found => cases found <;> rfl

/-- A view that can be sent is answered, with its body. -/
theorem respond_of_sent {database : Database} {id : String}
    {view : TicketView} (bound : py.encodes id = true)
    (read : readTicket py pydantic time database id = .ok (some view))
    (sent : (sentBody py time view).isSome = true) :
    respond py pydantic time database id =
      .ok view ((servedView py time view).getD .null) := by
  rcases Option.isSome_iff_exists.mp sent with ⟨body, isBody⟩
  have served : servedView py time view = some body :=
    (Option.filter_eq_some_iff.mp isBody).1
  rcases getTicket_of_read read with ⟨found, isFound, isView⟩
  rcases Option.map_eq_some_iff.mp isView with ⟨ticket, rfl, same⟩
  rw [respond_of_found py pydantic time bound isFound, same, isBody, served]
  rfl

theorem filed_step (filed : Filed py time world.database)
    (step : Step py pydantic time world next) :
    Filed py time next.database := by
  cases step with
  | posted payload id now created => exact filed_created py time filed created
  | refused payload id now raised =>
      have same := Effects.Outcomes.raised_of_error
        (Storage.SqliteSpec.create_ends py time _ _) raised
      rw [same]
      exact filed
  | @happened id event ahead verdict runs => cases event <;> exact filed
  | wrote now writes written => exact filed_finalised py time filed written
  | _ => exact filed

theorem reachable_filed (reached : Reachable py pydantic time world) :
    Filed py time world.database := by
  induction reached with
  | refl => exact filed_empty py time
  | tail earlier step induction => exact filed_step induction step

/-- What is served of every ticket of a reachable world. -/
theorem served_of_reachable (reached : Reachable py pydantic time world)
    (id : String) :
    Served py pydantic time world.database id world.readings
      (linesOf id world.log) :=
  served_of_standing pydantic ((reachable_lawful reached).stands id)

/-! ## What is stored of a ticket -/

/-- What has settled is not written again. -/
theorem settled_step (lawful : Lawful py time world)
    (step : Step py pydantic time world next)
    {id : String} {view : TicketView}
    (read : readTicket py pydantic time world.database id =
      .ok (some view))
    (settles : Settled view) :
    entry id next.database = entry id world.database := by
  cases touched_of_step lawful step with
  | none same => rw [same]
  | taken moved payload created before after others =>
      apply others
      rintro rfl
      rw [read_unknown py pydantic time (congrArg Prod.fst before)] at read
      simp at read
  | kept moved payload created updated verdict writes before after others =>
      apply others
      rintro rfl
      rw [read_posted py pydantic time before] at read
      cases read
      exact settles.terminal rfl

/-- The rows of a settled ticket are the same in every later world. -/
theorem settled_entry (reached : Reachable py pydantic time world)
    (later : Process.Later py pydantic time world next)
    {id : String} {view : TicketView}
    (read : readTicket py pydantic time world.database id =
      .ok (some view))
    (settles : Settled view) :
    entry id next.database = entry id world.database := by
  induction later with
  | refl => rfl
  | tail earlier step induction =>
      have lawful := reachable_lawful (reached.trans earlier)
      have still := (readTicket_congr induction).trans read
      exact (settled_step lawful step still settles).trans induction

/-- A settled view is stored in every later world. -/
theorem settled_later (reached : Reachable py pydantic time world)
    (later : Process.Later py pydantic time world next)
    {id : String} {view : TicketView}
    (read : readTicket py pydantic time world.database id =
      .ok (some view))
    (settles : Settled view) :
    readTicket py pydantic time next.database id = .ok (some view) :=
  (readTicket_congr (settled_entry reached later read settles)).trans read

/-- A settled view that was answered is answered in every later world. -/
theorem answered_later (reached : Reachable py pydantic time world)
    (later : Process.Later py pydantic time world next)
    {id : String} {view : TicketView} {body : Json}
    (answered : respond py pydantic time world.database id = .ok view body)
    (settles : Settled view) :
    respond py pydantic time next.database id = .ok view body := by
  have read := (read_of_respond py pydantic time answered).1
  exact (respond_congr (encodes_of_respond py pydantic time answered)
    (settled_entry reached later read settles)).trans answered

/-- A waiting view is stored until a settled one of its ticket is. -/
theorem waiting_step (lawful : Lawful py time world)
    (step : Step py pydantic time world next)
    {id : String} {view : TicketView}
    (read : readTicket py pydantic time world.database id =
      .ok (some view))
    (waits : Waiting view) :
    readTicket py pydantic time next.database id = .ok (some view) ∨
      ∃ after,
        readTicket py pydantic time next.database id = .ok (some after) ∧
          Settled after ∧ SameTicket view after := by
  cases touched_of_step lawful step with
  | none same =>
      left
      rw [same, read]
  | taken moved payload created before after others =>
      left
      rw [readTicket_congr (others id ?_), read]
      rintro rfl
      rw [read_unknown py pydantic time (congrArg Prod.fst before)] at read
      simp at read
  | kept moved payload created updated verdict writes before after others =>
      by_cases same : id = moved
      · subst same
        rw [read_posted py pydantic time before] at read
        cases read
        rcases read_kept pydantic after with ⟨isRead, settles⟩
        exact Or.inr ⟨_, isRead, settles, rfl, rfl, rfl⟩
      · left
        rw [readTicket_congr (others id same), read]

theorem waiting_later (reached : Reachable py pydantic time world)
    (later : Process.Later py pydantic time world next)
    {id : String} {view : TicketView}
    (read : readTicket py pydantic time world.database id =
      .ok (some view))
    (waits : Waiting view) :
    readTicket py pydantic time next.database id = .ok (some view) ∨
      ∃ after,
        readTicket py pydantic time next.database id = .ok (some after) ∧
          Settled after ∧ SameTicket view after := by
  induction later with
  | refl => exact Or.inl read
  | @tail middle last earlier step induction =>
      have reachedMiddle := reached.trans earlier
      rcases induction with still | ⟨after, isRead, settles, same⟩
      · exact waiting_step (reachable_lawful reachedMiddle) step still waits
      · exact Or.inr ⟨after,
          settled_later reachedMiddle (.single step) isRead settles, settles,
          same⟩

theorem presentable_of_served {id : String} {readings : List DateTime}
    {lines : List TraceStep} {view : TicketView}
    (served : Served py pydantic time world.database id readings lines)
    (read : readTicket py pydantic time world.database id =
      .ok (some view)) :
    Presentable view := by
  cases served with
  | unknown found silent isRead =>
      rw [read] at isRead
      simp at isRead
  | waiting payload created found inOrder isRead =>
      obtain rfl := Option.some.inj (Except.ok.inj (read.symm.trans isRead))
      exact Or.inl (waits_waitingView payload id created)
  | settled payload created updated verdict kept logged settles isRead =>
      obtain rfl := Option.some.inj (Except.ok.inj (read.symm.trans isRead))
      exact Or.inr settles

/--
A view that has settled is final, and a waiting one is replaced at most once,
by a settled view of the same ticket.
-/
theorem settled_views_are_final
    (reached : Reachable py pydantic time world)
    (later : Process.Later py pydantic time world next)
    {id : String} {view : TicketView}
    (read : readTicket py pydantic time world.database id =
      .ok (some view)) :
    readTicket py pydantic time next.database id = .ok (some view) ∨
      Waiting view ∧ ∃ after,
        readTicket py pydantic time next.database id = .ok (some after) ∧
          Settled after ∧ SameTicket view after := by
  rcases presentable_of_served (served_of_reachable reached id) read with
    waits | settles
  · rcases waiting_later reached later read waits with same | answered
    · exact Or.inl same
    · exact Or.inr ⟨waits, answered⟩
  · exact Or.inl (settled_later reached later read settles)

/-- The view of the one ticket before and after its run. -/
theorem waiting_view_is_replaced :
    readTicket asciiText plainPydantic tallyTime settledWorld.database "t1" =
        .ok (some (waitingView invoiceRequest "t1" atEpoch)) ∨
      Waiting (waitingView invoiceRequest "t1" atEpoch) ∧ ∃ after,
        readTicket asciiText plainPydantic tallyTime settledWorld.database
            "t1" = .ok (some after) ∧
          Settled after ∧
            SameTicket (waitingView invoiceRequest "t1" atEpoch) after :=
  settled_views_are_final postedWorld_reached settledWorld_later rfl

/-! ## What every reader may rely on -/

theorem accepted_of_read {id : String} {view : TicketView}
    (reached : Reachable py pydantic time world)
    (read : readTicket py pydantic time world.database id =
      .ok (some view)) :
    id ∈ world.accepted := by
  rw [(reachable_lawful reached).known id]
  cases served_of_reachable reached id with
  | unknown found silent isRead =>
      rw [read] at isRead
      simp at isRead
  | waiting payload created found inOrder isRead => simp [found]
  | settled payload created updated verdict kept logged settles isRead =>
      rcases kept.stored with ⟨rows, -, found⟩
      simp [found]

/-- What a row is stored under was bound. -/
theorem encodes_of_found {database : Database} {id : String}
    (filed : Filed py time database)
    (found : (entry id database).1.isSome = true) :
    py.encodes id = true := by
  rcases Option.isSome_iff_exists.mp found with ⟨row, isRow⟩
  have isId := List.find?_some isRow
  rw [beq_iff_eq] at isId
  rw [← isId]
  exact filed.texts row (List.mem_of_find?_eq_some isRow) row.id
    (by simp [TicketRow.texts])

/-- The ids that `POST` has recorded are found. -/
theorem read_of_accepted {id : String}
    (reached : Reachable py pydantic time world)
    (accepted : id ∈ world.accepted) :
    ∃ view, readTicket py pydantic time world.database id =
        .ok (some view) ∧ Presentable view := by
  have served := served_of_reachable reached id
  have presentable := fun view => @presentable_of_served py pydantic time
    world id _ _ view served
  cases served with
  | unknown found silent read =>
      rw [(reachable_lawful reached).known id, found] at accepted
      simp at accepted
  | waiting payload created found inOrder read =>
      exact ⟨_, read, presentable _ read⟩
  | settled payload created updated verdict kept logged settles read =>
      exact ⟨_, read, presentable _ read⟩

theorem read_of_unknown {id : String}
    (reached : Reachable py pydantic time world)
    (unknown : id ∉ world.accepted) :
    readTicket py pydantic time world.database id = .ok none := by
  cases served_of_reachable reached id with
  | unknown found silent read => exact read
  | waiting payload created found inOrder read =>
      exact absurd (accepted_of_read reached read) unknown
  | settled payload created updated verdict kept logged settles read =>
      exact absurd (accepted_of_read reached read) unknown

/-- What a reader is answered of a view that is stored. -/
inductive Answered (py : PyText) (pydantic : Pydantic) (time : TimeText)
    (database : Database) (id : String) (view : TicketView) : Prop where
  | sent (sendable : ∀ step ∈ view.trace, CanBeSent py step.payload)
      (body : Json)
      (isBody : respond py pydantic time database id = .ok view body)
  | withheld (step : TraceStep) (recorded : step ∈ view.trace)
      (unsendable : ¬ CanBeSent py step.payload)
      (fails : respond py pydantic time database id = .serverError)

/-- Only its trace decides whether a stored view is sent. -/
theorem answered_of_read {database : Database}
    (filed : Filed py time database) {id : String} {view : TicketView}
    (bound : py.encodes id = true)
    (read : readTicket py pydantic time database id = .ok (some view)) :
    Answered py pydantic time database id view := by
  rcases getTicket_of_read read with ⟨ticket, found, isView⟩
  rcases Option.map_eq_some_iff.mp isView with ⟨ticket, rfl, rfl⟩
  have sent := @sentBody_isSome_iff py time _ (filedView_of_ticket
    (filedTicket_of_read py pydantic time filed found))
  have answer := respond_of_found py pydantic time bound found
  by_cases sendable : ∀ step ∈ (viewOf ticket).trace,
      CanBeSent py step.payload
  · rcases sent.mpr sendable with ⟨body, isBody⟩
    rw [isBody] at answer
    exact .sent sendable body answer
  · have unsent : sentBody py time (viewOf ticket) = none :=
      Option.eq_none_iff_forall_ne_some.mpr
        fun body isBody => sendable (sent.mp ⟨body, isBody⟩)
    rw [unsent] at answer
    obtain ⟨step, recorded, unsendable⟩ : ∃ step ∈ (viewOf ticket).trace,
        ¬ CanBeSent py step.payload := by
      simpa only [not_forall, exists_prop] using sendable
    exact .withheld step recorded unsendable answer

theorem respond_missing {database : Database} {id : String}
    (bound : py.encodes id = true)
    (read : readTicket py pydantic time database id = .ok none) :
    respond py pydantic time database id = .notFound := by
  rcases getTicket_of_read read with ⟨found, isFound, missing⟩
  rw [Option.map_eq_none_iff.mp missing] at isFound
  exact respond_of_unknown py pydantic time bound isFound

/-- The id the health check asks about. -/
def probeId : String := "t_00000000000000000000000000000000"

/-- The body of `GET /health`. -/
inductive Health where
  | ok
  | unavailable
deriving DecidableEq, Repr

/-- The status code and the body of `GET /health`. -/
def health (py : PyText) (pydantic : Pydantic) (time : TimeText)
    (database : Database) : Nat × Health :=
  match (sqliteRepository py pydantic time).get probeId database with
  | .ok _ _ => (200, .ok)
  | .error _ _ => (503, .unavailable)

theorem health_of_read {database : Database} {served : Option TicketView}
    (read : readTicket py pydantic time database probeId = .ok served) :
    health py pydantic time database = (200, .ok) := by
  have bound : py.encodes probeId = true :=
    encodes_of_all py (by decide)
  rcases getTicket_of_read read with ⟨found, isFound, -⟩
  rw [health, sqlite_get py pydantic time bound, isFound]

/--
Every id that a path can name is answered.  What `POST` has recorded is
presentable, and is sent unless a step of its trace cannot be, which is an
error; every other id is a `404`.  The health check passes.
-/
theorem every_get_is_answered (reached : Reachable py pydantic time world) :
    (∀ id, py.encodes id = true →
        (id ∉ world.accepted ∧
          respond py pydantic time world.database id = .notFound) ∨
        id ∈ world.accepted ∧ ∃ view, Presentable view ∧
          readTicket py pydantic time world.database id = .ok (some view) ∧
            Answered py pydantic time world.database id view) ∧
      health py pydantic time world.database = (200, .ok) := by
  constructor
  · intro id bound
    by_cases accepted : id ∈ world.accepted
    · rcases read_of_accepted reached accepted with
        ⟨view, read, presentable⟩
      exact Or.inr ⟨accepted, view, presentable, read,
        answered_of_read (reachable_filed reached) bound read⟩
    · exact Or.inl ⟨accepted,
        respond_missing bound (read_of_unknown reached accepted)⟩
  · by_cases accepted : probeId ∈ world.accepted
    · rcases read_of_accepted reached accepted with ⟨view, read, -⟩
      exact health_of_read read
    · exact health_of_read (read_of_unknown reached accepted)

theorem settledWorld_answers :
    (∀ id, asciiText.encodes id = true →
        (id ∉ settledWorld.accepted ∧
          respond asciiText plainPydantic tallyTime settledWorld.database
            id = .notFound) ∨
        id ∈ settledWorld.accepted ∧ ∃ view, Presentable view ∧
          readTicket asciiText plainPydantic tallyTime settledWorld.database
              id = .ok (some view) ∧
            Answered asciiText plainPydantic tallyTime settledWorld.database
              id view) ∧
      health asciiText plainPydantic tallyTime settledWorld.database =
        (200, .ok) :=
  every_get_is_answered (postedWorld_reached.trans settledWorld_later)

/-! ## The service and the map -/

theorem lifeOf_congr {database database' : Database} {id : PathId py}
    (same : entry id.val database' = entry id.val database) :
    lifeOf py pydantic time database' id =
      lifeOf py pydantic time database id := by
  rw [lifeOf, lifeOf, respond_congr id.property same]

theorem lifeOf_missing {database : Database} {id : PathId py}
    (read : readTicket py pydantic time database id = .ok none) :
    lifeOf py pydantic time database id = .unknown := by
  rw [lifeOf, respond_missing id.property read]

theorem lifeOf_waiting {database : Database} {id : PathId py}
    {view : TicketView} (filed : Filed py time database)
    (read : readTicket py pydantic time database id = .ok (some view))
    (waits : Waiting view) :
    lifeOf py pydantic time database id = .waiting view := by
  cases answered_of_read filed id.property read with
  | sent sendable body isBody =>
      rw [lifeOf, isBody]
      exact if_pos waits.status
  | withheld step recorded unsendable fails =>
      rw [waits.trace] at recorded
      simp at recorded

theorem lifeOf_settled {database : Database} {id : PathId py}
    {view : TicketView} (filed : Filed py time database)
    (read : readTicket py pydantic time database id = .ok (some view))
    (settles : Settled view) :
    lifeOf py pydantic time database id = .settled view ∨
      lifeOf py pydantic time database id = .unreadable := by
  cases answered_of_read filed id.property read with
  | sent sendable body isBody =>
      left
      rw [lifeOf, isBody]
      exact if_neg settles.terminal
  | withheld step recorded unsendable fails =>
      right
      rw [lifeOf, fails]

/-- A moment of the service leaves the map alone, or is a step of it. -/
theorem lives_step (reached : Reachable py pydantic time world)
    (step : Step py pydantic time world next) :
    lifeOf py pydantic time next.database =
        lifeOf py pydantic time world.database ∨
      LivesStep (lifeOf py pydantic time world.database)
        (lifeOf py pydantic time next.database) := by
  have filed := reachable_filed reached
  have filedNext := filed_step filed step
  have updated : ∀ id : PathId py, (∀ other, other ≠ id.val →
        entry other next.database = entry other world.database) →
      lifeOf py pydantic time next.database =
        Function.update (lifeOf py pydantic time world.database) id
          (lifeOf py pydantic time next.database id) := by
    intro id others
    apply funext
    intro other
    by_cases same : other = id
    · rw [same, Function.update_self]
    · rw [Function.update_of_ne same,
        lifeOf_congr (others other fun equal => same (Subtype.ext equal))]
  cases touched_of_step (reachable_lawful reached) step with
  | none same =>
      left
      rw [same]
  | taken id payload created before after others =>
      let path : PathId py :=
        ⟨id, encodes_of_found filedNext (by rw [after]; rfl)⟩
      refine Or.inr ⟨path, _, ?_, updated path others⟩
      have waits := waits_waitingView payload id created
      rw [@lifeOf_missing py pydantic time _ path
          (read_unknown py pydantic time (congrArg Prod.fst before)),
        @lifeOf_waiting py pydantic time _ path _ filedNext
          (read_posted py pydantic time after) waits]
      exact .accepted waits
  | kept id payload created updatedAt verdict writes before after others =>
      rcases after.stored with ⟨rows, -, found⟩
      let path : PathId py :=
        ⟨id, encodes_of_found filedNext (by rw [found]; rfl)⟩
      refine Or.inr ⟨path, _, ?_, updated path others⟩
      rw [@lifeOf_waiting py pydantic time _ path _ filed
        (read_posted py pydantic time before)
        (waits_waitingView payload id created)]
      rcases read_kept pydantic after with ⟨read, settles⟩
      rcases @lifeOf_settled py pydantic time _ path _ filedNext read settles
        with isLife | isLife
      · rw [isLife]
        exact .answered settles ⟨rfl, rfl, rfl⟩
      · rw [isLife]
        exact .withheld

/--
Every run of the service, with its restarts, is seen by its readers as a run
of the map that starts out empty.
-/
theorem service_refines_lives (reached : Reachable py pydantic time world) :
    Relation.ReflTransGen LivesStep (fun _ => .unknown)
      (lifeOf py pydantic time world.database) := by
  have empty : lifeOf py pydantic time World.start.database =
      fun _ => .unknown := by
    apply funext
    intro id
    exact lifeOf_missing (read_unknown py pydantic time rfl)
  rw [← empty]
  induction reached with
  | refl => exact .refl
  | @tail middle last earlier step induction =>
      rcases lives_step earlier step with same | moved
      · rw [same]
        exact induction
      · exact induction.tail moved

theorem settledWorld_refines :
    Relation.ReflTransGen LivesStep (fun _ => .unknown)
      (lifeOf asciiText plainPydantic tallyTime settledWorld.database) :=
  service_refines_lives (postedWorld_reached.trans settledWorld_later)

end

end SupportAssistant.Api.ServedViews
