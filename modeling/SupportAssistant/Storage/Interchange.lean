import Mathlib.Data.List.Forall2
import SupportAssistant.Runtime.Written
import SupportAssistant.Storage.Atomicity

/-!
# The two repositories are interchangeable

Started empty and given the same calls, the two repositories answer alike, up
to the time stamps of their own clocks.  The database mirrors the dictionary
when every id reads as the ticket that the dictionary holds for it; the empty
stores mirror each other and every call keeps it so.
-/

namespace SupportAssistant.Storage.Interchange

open SupportAssistant.Enums
open SupportAssistant.Runtime
open SupportAssistant.Runtime.Ascii
open SupportAssistant.Runtime.Written
open SupportAssistant.Effects.Outcomes
open SupportAssistant.Tracing.Models
open SupportAssistant.Domain
open SupportAssistant.Storage.Protocol
open SupportAssistant.Storage.Memory
open SupportAssistant.Storage.Sqlite
open SupportAssistant.Storage.Codec
open SupportAssistant.Storage.SqliteSpec
open SupportAssistant.Storage.ReadBack
open SupportAssistant.Storage.Finality
open SupportAssistant.Storage.Atomicity
open SupportAssistant.Pipeline.Scripted

/-! ## What a repository answers -/

/-- What a call comes back with. -/
inductive Answer where
  | done
  | found (ticket : Option Ticket)
  | raised (exc : Exc)

section

variable {ρ : Type} (repository : TicketRepository ρ)

def respond : Operation → EStateM Exc ρ Answer
  | .create ticket => do
      repository.create ticket
      return .done
  | .get ticketId => do
      let ticket ← repository.get ticketId
      return .found ticket
  | .finalise now call => do
      repository.finalise now call
      return .done

/-- The answer to one call, and the store after it. -/
def asked (store : ρ) (operation : Operation) : Answer × ρ :=
  match respond repository operation store with
  | .ok answer after => (answer, after)
  | .error exc after => (.raised exc, after)

/-- The answers to a sequence of calls. -/
def answers : ρ → List Operation → List Answer
  | _, [] => []
  | store, operation :: operations =>
      (asked repository store operation).1 ::
        answers (asked repository store operation).2 operations

end

/-- The ticket, but for the time of its last update. -/
def unstamped (ticket : Ticket) : Ticket :=
  { ticket with updatedAt := ticket.createdAt }

def Answer.unstamped : Answer → Answer
  | .found ticket => .found (ticket.map Interchange.unstamped)
  | answer => answer

/-- The same call, made to two repositories with a clock each. -/
inductive SameCall : Operation → Operation → Prop where
  | create (ticket : Ticket) : SameCall (.create ticket) (.create ticket)
  | get (ticketId : String) : SameCall (.get ticketId) (.get ticketId)
  | finalise (now now' : Reading) (call : FinaliseCall) :
      SameCall (.finalise now call) (.finalise now' call)

section

variable (py : PyText) (pydantic : Pydantic) (time : TimeText)

/-- A step that survives being stored. -/
def Storable (step : TraceStep) : Prop :=
  JsonValued step.payload ∧
    time.parse (time.dumped step.ts) = some step.ts

/--
A call as the service makes it: UTC times, a triple that `Ticket` accepts, and
storable steps with numbers of their own.
-/
def Proper : Operation → Prop
  | .create ticket => ticket.createdAt.IsUtc ∧ ticket.updatedAt.IsUtc
  | .get _ => True
  | .finalise _ call =>
      statusReplyAndReasonAgree call.status call.reply call.handoffReason =
          true ∧
        (∀ step ∈ call.trace, Storable time step) ∧
          (call.trace.map TraceStep.seq).Nodup

/--
A call whose data fit the database: its texts can be encoded, the numbers of
the steps fit an `INTEGER` column, and what is in the steps can be dumped, and
is written without too long an integer and under the keys it has.
-/
def Fits : Operation → Prop
  | .create ticket =>
      ∀ text ∈ (ticketRow time ticket).texts, py.encodes text = true
  | .get ticketId => py.encodes ticketId = true
  | .finalise _ call =>
      (∀ text ∈ boundTexts call, py.encodes text = true) ∧
        ∀ step ∈ call.trace,
          step.seq < 2 ^ 63 ∧
            Shallow py.dumpDepth (freeValues step.payload) ∧
              ∀ fields, dumpPayload py step.payload = some fields →
                (Json.object fields).short = true ∧
                  (Json.object fields).keyed py = true

/-! ## The database as the dictionary -/

/--
Every id reads as the ticket the dictionary holds for it, and every stored
step belongs to a ticket.
-/
structure Mirrors (database : Database) (store : Store) : Prop where
  tickets : ∀ ticketId, ∃ found,
    getTicket py pydantic time database ticketId = .ok found ∧
      found.map unstamped = (store.lookup ticketId).map unstamped
  owned : ∀ step ∈ database.traceSteps,
    ∃ row ∈ database.tickets, row.id = step.ticketId

theorem getTicket_congr
    {database database' : Database} {ticketId : String}
    (same : entry ticketId database' = entry ticketId database) :
    getTicket py pydantic time database' ticketId =
      getTicket py pydantic time database ticketId := by
  have row := congrArg Prod.fst same
  have steps := congrArg Prod.snd same
  simp only [entry] at row steps
  rw [getTicket, getTicket, row, steps]

theorem getTicket_none_iff {database : Database} {ticketId : String} :
    getTicket py pydantic time database ticketId = .ok none ↔
      ∀ row ∈ database.tickets, row.id ≠ ticketId := by
  unfold getTicket
  cases found : database.tickets.find? (·.id == ticketId) with
  | none => simpa using found
  | some row =>
      have member := List.mem_of_find?_eq_some found
      have named : row.id = ticketId := by
        simpa using List.find?_some found
      constructor
      · intro read
        cases ran : ticketOfRow py pydantic time row
            (database.stepsOf ticketId) <;>
          simp [ran, Except.map] at read
      · intro absent
        exact absurd named (absent row member)

section

variable {py pydantic time} {database : Database} {store : Store}

/-- The two stores know the same ids. -/
theorem Mirrors.lookup_none_iff
    (mirrors : Mirrors py pydantic time database store)
    (ticketId : String) :
    store.lookup ticketId = none ↔
      ∀ row ∈ database.tickets, row.id ≠ ticketId := by
  rcases mirrors.tickets ticketId with ⟨found, read, same⟩
  rw [← getTicket_none_iff py pydantic time, read, Except.ok.injEq]
  cases found <;> cases held : store.lookup ticketId <;>
    simp_all

theorem Mirrors.known
    (mirrors : Mirrors py pydantic time database store)
    {ticketId : String} {stored : Ticket}
    (held : store.lookup ticketId = some stored) :
    ∃ row ∈ database.tickets, row.id = ticketId := by
  by_contra absent
  push Not at absent
  have unheld := (mirrors.lookup_none_iff ticketId).mpr absent
  rw [held] at unheld
  simp at unheld

/-- The ticket in the dictionary is the one in the row. -/
theorem Mirrors.reads
    (mirrors : Mirrors py pydantic time database store)
    {ticketId : String} {stored : Ticket}
    (held : store.lookup ticketId = some stored) :
    ∃ row ticket, (entry ticketId database).1 = some row ∧
      ReadsAs py time row (entry ticketId database).2 ticket ∧
        unstamped ticket = unstamped stored := by
  rcases mirrors.tickets ticketId with ⟨found, read, same⟩
  rw [held] at same
  cases found with
  | none => simp at same
  | some ticket =>
      rcases (getTicket_some_iff py pydantic time).mp read with
        ⟨row, isRow, ran⟩
      exact ⟨row, ticket, isRow, (ticketOfRow_iff py pydantic time).mp ran,
        Option.some.inj same⟩

end

theorem mirrors_empty :
    Mirrors py pydantic time Database.empty [] where
  tickets _ := ⟨none, rfl, rfl⟩
  owned := by simp [Database.empty]

/-! ## What the database answers -/

theorem ticketRow_check (ticket : Ticket) :
    (ticketRow time ticket).check = true :=
  (accepts_iff _ _ _).mpr (Or.inl ticket.agrees)

theorem create_bound
    {ticket : Ticket}
    (bound : ∀ text ∈ (ticketRow time ticket).texts,
      py.encodes text = true) :
    Sqlite.create py time ticket =
      transaction (insertTicket py (ticketRow time ticket)) := by
  rw [Sqlite.create, bindTexts_bound py bound, pure_bind]

theorem create_known
    {ticket : Ticket} {database : Database}
    (bound : ∀ text ∈ (ticketRow time ticket).texts,
      py.encodes text = true)
    (known : ∃ row ∈ database.tickets, row.id = ticket.id) :
    Sqlite.create py time ticket database =
      .error (ticketAlreadyExists py ticket.id) database := by
  have taken : database.tickets.any (·.id == ticket.id) = true := by
    simpa using known
  have ran :
      insertTicket py (ticketRow time ticket) database =
        (if !(ticketRow time ticket).check then throw (checkFailed py)
        else if database.tickets.any (·.id == ticket.id) then
          throw (ticketAlreadyExists py ticket.id)
        else
          set (withTicket database (ticketRow time ticket)) :
          EStateM Exc Database Unit) database :=
    rfl
  rw [create_bound py time bound, transaction, ran, ticketRow_check, taken]
  rfl

theorem create_fresh
    {ticket : Ticket} {database : Database}
    (bound : ∀ text ∈ (ticketRow time ticket).texts,
      py.encodes text = true)
    (fresh : ∀ row ∈ database.tickets, row.id ≠ ticket.id) :
    Sqlite.create py time ticket database =
      .ok ⟨⟩ (withTicket database (ticketRow time ticket)) := by
  have free : database.tickets.any (·.id == ticket.id) = false := by
    simpa using fresh
  have ran :
      insertTicket py (ticketRow time ticket) database =
        (if !(ticketRow time ticket).check then throw (checkFailed py)
        else if database.tickets.any (·.id == ticket.id) then
          throw (ticketAlreadyExists py ticket.id)
        else
          set (withTicket database (ticketRow time ticket)) :
          EStateM Exc Database Unit) database :=
    rfl
  rw [create_bound py time bound, transaction, ran, ticketRow_check, free]
  rfl

theorem finalise_unknown
    (now : DateTime) {call : FinaliseCall} {database : Database}
    (bound : ∀ text ∈ boundTexts call, py.encodes text = true)
    (absent : ∀ row ∈ database.tickets, row.id ≠ call.ticketId) :
    Sqlite.finalise py time now call database =
      .error (ticketNotFound py call.ticketId) database := by
  have none : database.tickets.filter (·.id == call.ticketId) = [] := by
    simpa [List.filter_eq_nil_iff] using absent
  have ran :
      updateTicket py (time.isoformat now) call database =
        .error (ticketNotFound py call.ticketId) database := by
    have matching :
        updateTicket py (time.isoformat now) call database =
          (if !((database.tickets.filter (·.id == call.ticketId)).map
              fun row => row.finalised (time.isoformat now) call).all
              TicketRow.check then throw (checkFailed py)
          else if (database.tickets.filter
              (·.id == call.ticketId)).isEmpty then
            throw (ticketNotFound py call.ticketId)
          else set (database.rewritten (time.isoformat now) call) :
            EStateM Exc Database Unit) database :=
      rfl
    rw [matching, none]
    rfl
  rw [Sqlite.finalise, bindTexts_bound py bound, pure_bind]
  simp only [transaction, bind, EStateM.bind, ran]

/-- An acceptable call is carried out. -/
theorem finalise_acceptable
    (now : DateTime) {call : FinaliseCall} {database : Database}
    (acceptable : Acceptable py database call) :
    ∃ rows,
      call.trace.mapM (stepToRow py time call.ticketId) = .ok rows ∧
        Sqlite.finalise py time now call database =
          .ok ⟨⟩ (withTrace (database.rewritten (time.isoformat now) call)
            call.ticketId rows) := by
  cases ran : Sqlite.finalise py time now call database with
  | ok value after =>
      rcases returned_of_ok (finalise_ends py time now call database) ran
        with ⟨rows, written, rfl, -, -⟩
      exact ⟨rows, written, rfl⟩
  | error exc after =>
      exact (raised_of_error
        (finalise_never_refuses py time now acceptable) ran).elim

/-! ## One call -/

section

variable {py pydantic time} {database : Database} {store : Store}

/-- A ticket just recorded reads as itself, without a trace. -/
theorem readsAs_created
    {ticket : Ticket} (created : ticket.createdAt.IsUtc)
    (updated : ticket.updatedAt.IsUtc) :
    ReadsAs py time (ticketRow time ticket) [] { ticket with trace := [] } where
  id := rfl
  userId := rfl
  subject := rfl
  body := rfl
  status := TicketStatus.ofValue?_value ticket.status
  reply := rfl
  reason := handoffReasonOf_value py ticket.handoffReason
  trace := rfl
  created := time.parse_isoformat _ created
  updated := time.parse_isoformat _ updated

theorem Mirrors.created
    (mirrors : Mirrors py pydantic time database store)
    {ticket : Ticket} (createdAt : ticket.createdAt.IsUtc)
    (updatedAt : ticket.updatedAt.IsUtc)
    (fresh : ∀ row ∈ database.tickets, row.id ≠ ticket.id) :
    Mirrors py pydantic time
      (withTicket database (ticketRow time ticket))
      (store ++ [(ticket.id, { ticket with trace := [] })]) := by
  constructor
  · intro ticketId
    by_cases named : ticketId = ticket.id
    · subst named
      refine ⟨some { ticket with trace := [] }, ?_, ?_⟩
      · rw [getTicket_some_iff]
        refine ⟨ticketRow time ticket, ?_, ?_⟩
        · have absent :
              database.tickets.find? (·.id == ticket.id) = none := by
            simpa using fresh
          change List.find? _ (database.tickets ++ _) = _
          rw [List.find?_append, absent]
          simp [ticketRow]
        · have noSteps : (withTicket database (ticketRow time ticket)).stepsOf
              ticket.id = [] := by
            have noRows : database.traceSteps.filter
                (·.ticketId == ticket.id) = [] := by
              rw [List.filter_eq_nil_iff]
              intro step member same
              rcases mirrors.owned step member with ⟨row, isRow, owner⟩
              exact fresh row isRow (owner.trans (by simpa using same))
            simp [withTicket, Database.stepsOf, noRows]
          rw [ticketOfRow_iff, entry, noSteps]
          exact readsAs_created createdAt updatedAt
      · have unheld := (mirrors.lookup_none_iff ticket.id).mpr fresh
        rw [List.lookup_append, unheld]
        simp
    · rcases mirrors.tickets ticketId with ⟨found, read, same⟩
      refine ⟨found, ?_, ?_⟩
      · rw [← read]
        apply getTicket_congr
        apply Prod.ext
        · change List.find? _ (database.tickets ++ _) = _
          rw [List.find?_append]
          simp [entry, ticketRow, Ne.symm named]
        · rfl
      · have different : (ticketId == ticket.id) = false := by
          simpa using named
        simp [same, List.lookup_append, List.lookup_cons, different]
  · intro step member
    rcases mirrors.owned step member with ⟨row, isRow, owner⟩
    exact ⟨row, List.mem_append_left _ isRow, owner⟩

/-- The ticket with the terminal state of a call in it. -/
def closed (stored : Ticket) (now : DateTime) (call : FinaliseCall)
    (agrees : statusReplyAndReasonAgree call.status call.reply
      call.handoffReason = true) : Ticket :=
  { stored with
    status := call.status
    reply := call.reply
    handoffReason := call.handoffReason
    updatedAt := now
    trace := sortedTrace call.trace
    agrees }

theorem finalised_eq_closed
    (stored : Ticket) (now : DateTime) {call : FinaliseCall}
    (agrees : statusReplyAndReasonAgree call.status call.reply
      call.handoffReason = true) :
    Memory.finalised stored now call =
      some (closed stored now call agrees) := by
  have fields := And.intro stored.userIdOk
    (And.intro stored.subjectOk (And.intro stored.bodyOk agrees))
  rw [Memory.finalised, Ticket.validate?, dif_pos fields]
  rfl

/-- A rewritten row reads as the closed ticket, with what its steps read as. -/
theorem readsAs_rewritten
    {row : TicketRow} {steps rows : List StepRow} {ticket : Ticket}
    (reads : ReadsAs py time row steps ticket)
    (now : Reading) {call : FinaliseCall}
    (agrees : statusReplyAndReasonAgree call.status call.reply
      call.handoffReason = true)
    {trace : List TraceStep}
    (loaded : rows.mapM (stepFromRow time) = some trace) :
    ReadsAs py time (row.finalised (time.isoformat now) call) rows
      { closed ticket now call agrees with trace } where
  id := reads.id
  userId := reads.userId
  subject := reads.subject
  body := reads.body
  status := TicketStatus.ofValue?_value call.status
  reply := rfl
  reason := handoffReasonOf_value py call.handoffReason
  trace := loaded
  created := reads.created
  updated := time.parse_isoformat _ now.property

theorem map_storedStep
    {trace : List TraceStep}
    (storable : ∀ step ∈ trace, Storable time step) :
    (sortedTrace trace).map (storedStep time) = sortedTrace trace := by
  refine (List.map_congr_left ?_).trans (List.map_id _)
  intro step member
  have stored := storable step
    ((List.perm_insertionSort _ _).mem_iff.mp member)
  exact storedStep_of_jsonValued time stored.1 stored.2

/-- What is under the id of a call, once it is written. -/
theorem entry_rewritten
    {row : TicketRow} {call : FinaliseCall}
    (found : (entry call.ticketId database).1 = some row)
    (updatedAt : String) {rows : List StepRow}
    (owned : ∀ row ∈ rows, row.ticketId = call.ticketId) :
    entry call.ticketId
        (withTrace (database.rewritten updatedAt call) call.ticketId rows) =
      (some (row.finalised updatedAt call),
        rows.insertionSort fun first second => first.seq ≤ second.seq) := by
  have named : row.id = call.ticketId := by
    simpa using List.find?_some found
  have search := find_rewritten database updatedAt call call.ticketId
  rw [show database.tickets.find? (·.id == call.ticketId) = some row from
    found, Option.map_some, if_pos (by simpa using named)] at search
  exact Prod.ext search (stepsOf_withTrace_same _ owned)

theorem Mirrors.finalised
    (mirrors : Mirrors py pydantic time database store)
    (now now' : Reading) {call : FinaliseCall} {stored : Ticket}
    (held : store.lookup call.ticketId = some stored)
    (agrees : statusReplyAndReasonAgree call.status call.reply
      call.handoffReason = true)
    (storable : ∀ step ∈ call.trace, Storable time step)
    {rows : List StepRow}
    (written :
      call.trace.mapM (stepToRow py time call.ticketId) = .ok rows) :
    Mirrors py pydantic time
      (withTrace (database.rewritten (time.isoformat now) call)
        call.ticketId rows)
      (replace store call.ticketId (closed stored now' call agrees)) := by
  have owned := (rows_columns py time written).1
  constructor
  · intro ticketId
    rw [lookup_replace]
    have row :
        (entry ticketId (withTrace
            (database.rewritten (time.isoformat now) call) call.ticketId
            rows)).1 =
          (entry ticketId database).1.map fun row =>
            if row.id == call.ticketId then
              row.finalised (time.isoformat now) call
            else row :=
      find_rewritten database _ call ticketId
    by_cases named : ticketId = call.ticketId
    · subst named
      rcases mirrors.reads held with ⟨old, ticket, isOld, reads, same⟩
      refine ⟨some (closed ticket now call agrees), ?_, ?_⟩
      · rw [getTicket_some_iff, entry_rewritten isOld _ owned]
        refine ⟨_, rfl, ?_⟩
        rw [ticketOfRow_iff]
        have loaded := trace_written py time written
        rw [map_storedStep storable] at loaded
        exact readsAs_rewritten reads now agrees loaded
      · rw [if_pos rfl, held]
        simp only [Option.map_some, Option.some.injEq]
        have fields := Ticket.ext_iff.mp same
        simp only [unstamped] at fields
        apply Ticket.ext
        all_goals simp only [unstamped, closed]
        all_goals tauto
    · rcases mirrors.tickets ticketId with ⟨found, read, same⟩
      refine ⟨found, ?_, by rw [if_neg named, same]⟩
      rw [← read]
      apply getTicket_congr
      apply Prod.ext
      · rw [row]
        cases isRow : (entry ticketId database).1 with
        | none => rfl
        | some other =>
            have otherId : other.id = ticketId := by
              simpa using List.find?_some isRow
            simp [otherId, named]
      · exact stepsOf_withTrace_other _ owned (Ne.symm named)
  · intro step member
    have known : ∃ row ∈ database.tickets, row.id = step.ticketId := by
      rcases List.mem_append.mp member with old | new
      · exact mirrors.owned step (List.mem_filter.mp old).1
      · rw [owned step new]
        exact mirrors.known held
    rcases known with ⟨row, isRow, owner⟩
    refine ⟨_, List.mem_map_of_mem isRow, ?_⟩
    split
    · exact owner
    · exact owner

end

/-! ## What the dictionary answers -/

theorem memory_create
    (ticket : Ticket) (store : Store) :
    Memory.create py ticket store =
      match store.lookup ticket.id with
      | some _ => .error (ticketAlreadyExists py ticket.id) store
      | none => .ok ⟨⟩ (store ++ [(ticket.id, { ticket with trace := [] })]) := by
  rw [Memory.create, get_bind]
  cases store.lookup ticket.id <;> rfl

theorem memory_finalise
    (now : DateTime) {call : FinaliseCall} (store : Store)
    (agrees : statusReplyAndReasonAgree call.status call.reply
      call.handoffReason = true) :
    Memory.finalise py pydantic now call store =
      match store.lookup call.ticketId with
      | some stored =>
          .ok ⟨⟩
            (replace store call.ticketId (closed stored now call agrees))
      | none => .error (ticketNotFound py call.ticketId) store := by
  rw [Memory.finalise, get_bind]
  cases store.lookup call.ticketId with
  | none => rfl
  | some stored =>
      simp only [finalised_eq_closed stored now agrees]
      rfl

/-! ## Any calls -/

/-- One call is answered alike, and leaves stores that mirror each other. -/
theorem asked_mirrors
    {database : Database} {store : Store}
    (mirrors : Mirrors py pydantic time database store)
    {operation operation' : Operation}
    (same : SameCall operation operation')
    (proper : Proper time operation) (fits : Fits py time operation) :
    (asked (sqliteRepository py pydantic time) database
          operation).1.unstamped =
        (asked (memoryRepository py pydantic) store operation').1.unstamped ∧
      Mirrors py pydantic time
        (asked (sqliteRepository py pydantic time) database operation).2
        (asked (memoryRepository py pydantic) store operation').2 := by
  cases same with
  | create ticket =>
      have inMemory := memory_create py ticket store
      simp only [asked, respond, sqliteRepository, memoryRepository, bind,
        EStateM.bind, inMemory]
      cases held : store.lookup ticket.id with
      | some stored =>
          rw [create_known py time fits (mirrors.known held)]
          exact ⟨rfl, mirrors⟩
      | none =>
          have fresh := (mirrors.lookup_none_iff ticket.id).mp held
          rw [create_fresh py time fits fresh]
          exact ⟨rfl, mirrors.created proper.1 proper.2 fresh⟩
  | get ticketId =>
      rcases mirrors.tickets ticketId with ⟨found, read, equal⟩
      have inDatabase := @sqlite_get py pydantic time database ticketId fits
      have inMemory :
          (memoryRepository py pydantic).get ticketId store =
            .ok (store.lookup ticketId) store :=
        rfl
      simp only [asked, respond, bind, EStateM.bind, inDatabase, inMemory,
        read]
      exact ⟨congrArg Answer.found equal, mirrors⟩
  | finalise now now' call =>
      rcases proper with ⟨agrees, storable, distinct⟩
      rcases fits with ⟨bound, fits⟩
      have inMemory := memory_finalise py pydantic now' store agrees
      simp only [asked, respond, sqliteRepository, memoryRepository, bind,
        EStateM.bind, inMemory]
      cases held : store.lookup call.ticketId with
      | none =>
          have absent := (mirrors.lookup_none_iff call.ticketId).mp held
          rw [finalise_unknown py time now bound absent]
          exact ⟨rfl, mirrors⟩
      | some stored =>
          have acceptable : Acceptable py database call :=
            { bound
              known := mirrors.known held
              accepted := (accepts_iff _ _ _).mpr (Or.inl agrees)
              serialisable := fun step member => by
                rcases fits step member with ⟨-, shallow, written⟩
                rcases dumpPayload_of_jsonValued (storable step member).1
                  shallow with ⟨fields, dumped⟩
                exact ⟨fields, dumped, (written fields dumped).1⟩
              numbered := ⟨distinct, fun step member =>
                (fits step member).1⟩ }
          rcases finalise_acceptable py time now acceptable with
            ⟨rows, written, ran⟩
          rw [ran]
          exact ⟨rfl, mirrors.finalised now now' held agrees storable
            written⟩

/--
Given the same proper calls, the two repositories answer alike, up to the time
of the last update.
-/
theorem answers_mirror
    {database : Database} {store : Store}
    (mirrors : Mirrors py pydantic time database store)
    {operations operations' : List Operation}
    (same : List.Forall₂ SameCall operations operations')
    (proper : ∀ operation ∈ operations, Proper time operation)
    (fits : ∀ operation ∈ operations, Fits py time operation) :
    (answers (sqliteRepository py pydantic time) database
        operations).map Answer.unstamped =
      (answers (memoryRepository py pydantic) store
        operations').map Answer.unstamped := by
  induction same generalizing database store with
  | nil => rfl
  | cons first rest induction =>
      have step := asked_mirrors py pydantic time mirrors first
        (proper _ List.mem_cons_self) (fits _ List.mem_cons_self)
      have later := induction step.2
        (fun operation member =>
          proper operation (List.mem_cons_of_mem _ member))
        fun operation member =>
          fits operation (List.mem_cons_of_mem _ member)
      rw [answers, answers, List.map_cons, List.map_cons, step.1, later]

end

/-! ## A ticket that is answered twice -/

def lastStep (seq : Int) (seqPositive : 1 ≤ seq) : TraceStep where
  seq
  ts := epoch
  payload := .finalDecision .replied none none
  seqPositive
  valid := rfl

/-- An answer to the waiting ticket, with these steps as its trace. -/
def answered (reply : String) (trace : List TraceStep) : Operation :=
  .finalise atEpoch
    { ticketId := "t1", status := .replied, reply := some reply
      handoffReason := none, trace }

theorem proper_answered
    {reply : String} (spoken : reply ≠ "") {trace : List TraceStep}
    (last : ∀ step ∈ trace,
      step.ts = epoch ∧ step.payload = .finalDecision .replied none none)
    (distinct : (trace.map TraceStep.seq).Nodup) :
    Proper tallyTime (answered reply trace) := by
  refine ⟨?_, ?_, distinct⟩
  · simpa [statusReplyAndReasonAgree, truthy] using spoken
  · intro step member
    rcases last step member with ⟨ts, payload⟩
    rcases tallyTime.parse_dumped epoch with ⟨read, parsed, same⟩
    rw [Storable, ts, payload, parsed, same rfl]
    exact ⟨trivial, rfl⟩

theorem proper_create : Proper tallyTime (.create waitingTicket) :=
  ⟨rfl, rfl⟩

theorem first_positive : (1 : Int) ≤ 1 := by decide

theorem second_positive : (1 : Int) ≤ 2 := by decide

theorem third_positive : (1 : Int) ≤ 3 := by decide

theorem fits_lastStep {seq : Int} (seqPositive : 1 ≤ seq)
    (small : seq < 2 ^ 63) :
    (lastStep seq seqPositive).seq < 2 ^ 63 ∧
      Shallow asciiText.dumpDepth
          (freeValues (lastStep seq seqPositive).payload) ∧
        ∀ fields,
          dumpPayload asciiText (lastStep seq seqPositive).payload =
              some fields →
            (Json.object fields).short = true ∧
              (Json.object fields).keyed asciiText = true := by
  refine ⟨small, ?_, ?_⟩
  · intro entry member
    simp [lastStep, freeValues] at member
  · rintro fields ⟨⟩
    decide

/-- Two answers, the first with its steps in the wrong order. -/
def answeredTwice : List Operation :=
  [.create waitingTicket, .get "t1",
    answered "Done." [lastStep 2 second_positive, lastStep 1 first_positive],
    .create waitingTicket, .get "t1",
    answered "Sent." [lastStep 3 third_positive], .get "t1", .get "t2"]

/-- A step that shows a call with this argument. -/
def callStep (value : Json) : TraceStep where
  seq := 1
  ts := epoch
  payload := .toolCall "get_user" [("user_id", .json value)]
  seqPositive := first_positive
  valid := rfl

/-- The waiting ticket, answered with this step as its trace. -/
def answeredWith (step : TraceStep) : List Operation :=
  [.create waitingTicket, answered "Done." [step]]

theorem proper_answeredWith {step : TraceStep}
    (storable : Storable tallyTime step) :
    ∀ operation ∈ answeredWith step, Proper tallyTime operation := by
  intro operation member
  simp only [answeredWith, List.mem_cons, List.not_mem_nil, or_false]
    at member
  rcases member with rfl | rfl
  · exact proper_create
  · refine ⟨rfl, ?_, List.nodup_singleton step.seq⟩
    intro step' member
    rw [List.mem_singleton.mp member]
    exact storable

theorem storable_lastStep {seq : Int} (seqPositive : 1 ≤ seq) :
    Storable tallyTime (lastStep seq seqPositive) :=
  ⟨trivial, rfl⟩

theorem storable_callStep (value : Json) :
    Storable tallyTime (callStep value) := by
  refine ⟨?_, rfl⟩
  intro entry member
  rw [List.mem_singleton.mp member]
  exact ⟨value, rfl⟩

def Answer.isRaised : Answer → Bool
  | .raised _ => true
  | _ => false

/-- SQLite raises where the dictionary does not. -/
def ToldApart (operations : List Operation) : Prop :=
  (∀ operation ∈ operations, Proper tallyTime operation) ∧
    ((answers (sqliteRepository surrogateText plainPydantic tallyTime)
        Database.empty operations).map Answer.isRaised).getLast? =
      some true ∧
      ∀ answer ∈ answers (memoryRepository surrogateText plainPydantic) []
          operations,
        answer.isRaised = false

end SupportAssistant.Storage.Interchange
