import Mathlib.Algebra.BigOperators.Group.Finset.Piecewise
import Mathlib.Algebra.BigOperators.Group.List.Basic
import SupportAssistant.Observability.Stored
import SupportAssistant.Pipeline.SingleWrite

/-!
# The metrics and the database

Runs overlap: each reads its ticket, concludes, writes, and then updates the
metrics one by one, and any other run may take a step in between.  What a
reading of the registry misses of the database is what the written runs have
still to count.

The repository is that of the service, over SQLite; the hook and the clock of
a run do not raise.
-/

namespace SupportAssistant.Pipeline.Drift

open SupportAssistant.Enums
open SupportAssistant.Runtime
open SupportAssistant.Runtime.Ascii
open SupportAssistant.Effects.Outcomes
open SupportAssistant.Tracing.Models
open SupportAssistant.Domain
open SupportAssistant.Observability.Metrics
open SupportAssistant.Observability.Tally
open SupportAssistant.Observability.Stored
open SupportAssistant.Storage.Sqlite
open SupportAssistant.Storage.SqliteSpec
open SupportAssistant.Storage.Finality
open SupportAssistant.Pipeline.Collaborators
open SupportAssistant.Pipeline.Orchestrator
open SupportAssistant.Pipeline.Accounts
open SupportAssistant.Pipeline.RunSpec
open SupportAssistant.Pipeline.Handover
open SupportAssistant.Pipeline.Scripted
open SupportAssistant.Pipeline.Replies
open SupportAssistant.Pipeline.SingleWrite

/-! ## Runs that overlap -/

/-- How far a run has come. -/
inductive Phase where
  | waiting
  | read (ticket : Ticket)
  | concluded (outcome : Outcome) (steps : List TraceStep)
  /-- The write has returned, and these updates are left to make. -/
  | counting (updates : List MetricUpdate)
  | ended

/-- The database, the registry, and the runs of the tickets. -/
structure System where
  database : Database
  metrics : MetricRegistry
  phase : String → Phase

def System.advance (system : System) (id : String) (phase : Phase) :
    System :=
  { system with phase := Function.update system.phase id phase }

theorem System.advance_advance
    (system : System) (id : String) (phase next : Phase) :
    (system.advance id phase).advance id next = system.advance id next := by
  rw [advance, advance, advance, Function.update_idem]

section

variable (py : PyText) (pydantic : Pydantic) (time : TimeText)
variable (allowed : Wiring → Prop) (ids : Finset String)

/-- One atomic step of one run; what its collaborators do is its own. -/
inductive Step : System → System → Prop where
  | get {system : System} {id : String} {ticket : Ticket} (known : id ∈ ids)
      (waits : system.phase id = .waiting)
      (found :
        (sqliteRepository py pydantic time).get id system.database =
          .ok (some ticket) system.database) :
      Step system (system.advance id (.read ticket))
  | miss {system : System} {id : String} (known : id ∈ ids)
      (waits : system.phase id = .waiting)
      (missing : ∀ ticket,
        (sqliteRepository py pydantic time).get id system.database ≠
          .ok (some ticket) system.database) :
      Step system (system.advance id .ended)
  | conclude {system : System} {id : String} {ticket : Ticket}
      {wiring : Wiring} {events : List Event} {outcome : Outcome}
      {state : RunState} (known : id ∈ ids) (permitted : allowed wiring)
      (reads : system.phase id = .read ticket)
      (ran :
        Orchestrator.conclude wiring ticket (RunState.start events) =
          .ok outcome state) :
      Step system
        (system.advance id (.concluded outcome state.recorder.steps))
  | raise {system : System} {id : String} {ticket : Ticket}
      {wiring : Wiring} {events : List Event} {exc : Exc}
      {state : RunState} (known : id ∈ ids) (permitted : allowed wiring)
      (reads : system.phase id = .read ticket)
      (ran :
        Orchestrator.conclude wiring ticket (RunState.start events) =
          .error exc state) :
      Step system (system.advance id .ended)
  | write {system : System} {id : String} {outcome : Outcome}
      {steps : List TraceStep} {now : Reading} {database : Database}
      (known : id ∈ ids)
      (concluded : system.phase id = .concluded outcome steps)
      (written :
        finalise py time now (finaliseCall id outcome steps)
            system.database =
          .ok ⟨⟩ database) :
      Step system
        { system.advance id
            (.counting (runUpdates outcome.status outcome.reason steps))
          with database }
  /-- A write that fails, for whatever reason, is rolled back. -/
  | fail {system : System} {id : String} {outcome : Outcome}
      {steps : List TraceStep} (known : id ∈ ids)
      (concluded : system.phase id = .concluded outcome steps) :
      Step system (system.advance id .ended)
  | count {system : System} {id : String} {update : MetricUpdate}
      {updates : List MetricUpdate} (known : id ∈ ids)
      (counting : system.phase id = .counting (update :: updates)) :
      Step system
        { system.advance id (.counting updates) with
          metrics := system.metrics.update update }
  | done {system : System} {id : String} (known : id ∈ ids)
      (counting : system.phase id = .counting []) :
      Step system (system.advance id .ended)

/-- The states of the system while the runs go on, in any order. -/
def Reachable (start : System) : System → Prop :=
  Relation.ReflTransGen (Step py pydantic time allowed ids) start

end

/-- Tickets that wait, each with an id of its own, and no step yet. -/
structure Waiting (database : Database) : Prop where
  unique : (database.tickets.map TicketRow.id).Nodup
  waits : ∀ row ∈ database.tickets,
    row.status = TicketStatus.processing.value ∧ row.handoffReason = none
  noSteps : database.traceSteps = []

/-- A fresh registry, and no run has begun. -/
def System.start (database : Database) : System :=
  { database, metrics := .create, phase := fun _ => .waiting }

/-- The run is not under way. -/
def Phase.idle : Phase → Prop
  | .waiting => True
  | .ended => True
  | _ => False

/-- The updates that a run has still to make. -/
def Phase.pending : Phase → List MetricUpdate
  | .counting updates => updates
  | _ => []

/-- The run has not written, and still may. -/
def Phase.unwritten : Phase → Prop
  | .waiting => True
  | .read _ => True
  | .concluded _ _ => True
  | _ => False

/-! ## Calls without a result -/

/-- A call opens, and its result closes. -/
def opens (tool : String) : Payload → ℤ
  | .toolCall called _ => if called == tool then 1 else 0
  | .toolResult called _ _ _ => if called == tool then -1 else 0
  | _ => 0

/-- The calls of a tool that no result has closed. -/
def openCalls (tool : String) (payloads : List Payload) : ℤ :=
  (payloads.map (opens tool)).sum

@[simp]
theorem openCalls_nil (tool : String) : openCalls tool [] = 0 := rfl

@[simp]
theorem openCalls_cons
    (tool : String) (payload : Payload) (payloads : List Payload) :
    openCalls tool (payload :: payloads) =
      opens tool payload + openCalls tool payloads :=
  rfl

@[simp]
theorem openCalls_append
    (tool : String) (payloads payloads' : List Payload) :
    openCalls tool (payloads ++ payloads') =
      openCalls tool payloads + openCalls tool payloads' := by
  simp [openCalls]

theorem countP_isToolCall (tool : String) (steps : List TraceStep) :
    (steps.countP (isToolCall tool) : ℤ) =
      steps.countP (isToolResult tool true) +
          steps.countP (isToolResult tool false) +
        openCalls tool (steps.map TraceStep.payload) := by
  induction steps with
  | nil => rfl
  | cons step steps induction =>
      rcases step with ⟨seq, ts, payload, -, -⟩
      rw [List.countP_cons, List.countP_cons, List.countP_cons,
        List.map_cons, openCalls_cons]
      push_cast
      rw [induction]
      cases payload with
      | toolCall called args =>
          simp only [isToolCall, isToolResult, opens]
          by_cases same : called == tool
          · simp only [same, if_true, Bool.false_eq_true, if_false]
            ring
          · simp [same]
      | toolResult called ok summary error =>
          simp only [isToolCall, isToolResult, opens]
          by_cases same : called == tool
          · cases ok <;> simp [same] <;> ring
          · simp [same]
      | _ => simp [isToolCall, isToolResult, opens]

/-- `str` succeeds on every exception that the tools raise. -/
def PrintableTools (wiring : Wiring) : Prop :=
  ∀ events tool args exc, wiring.tools events tool args = .error exc →
    ∃ message, exc.str = .ok message

/-- The rounds of a loop and its ending close the calls they open. -/
theorem looped_closed
    {wiring : Wiring} {ticket : Ticket} (printable : PrintableTools wiring)
    {history : List Observation} {left : Nat} {rounds : List Round}
    {ending : Ending}
    (looped : Looped wiring ticket history left rounds ending)
    (tool : String) (iteration : Int) :
    openCalls tool (loopPayloads iteration rounds ending) = 0 := by
  induction looped generalizing iteration with
  | @toolUnprintable history left call result exc second decided answered
      failed unprinted =>
      have printed : ∃ message, exc.str = .ok message := by
        rcases failed with rfl | ⟨returned, -, unsummarised⟩
        · rcases answered with ⟨events, answered⟩
          exact printable _ _ _ _ answered
        · exact (summarise_printable unsummarised).1
      rcases printed with ⟨message, printed⟩
      rw [printed] at unprinted
      simp at unprinted
  | toolRaised decided answered failed printed =>
      simp only [loopPayloads, Ending.payloads, openCalls_cons, opens,
        openCalls_nil]
      split <;> rfl
  | round decided answered summarised later induction =>
      rw [loopPayloads, openCalls_append, induction]
      simp only [roundPayloads, openCalls_cons, opens, openCalls_nil]
      split <;> rfl
  | _ => rfl

theorem account_closed
    {wiring : Wiring} {ticket : Ticket} (printable : PrintableTools wiring)
    {account : Account} (holds : account.Holds wiring ticket)
    (tool : String) :
    openCalls tool account.payloads = 0 := by
  cases holds with
  | looped asked known ran =>
      rw [Account.payloads, openCalls_cons,
        looped_closed printable ran tool 1]
      rfl
  | _ => rfl

/-! ## What a run concludes with -/

/-- A reply without a reason, or a reason without a reply. -/
def Concluded (outcome : Outcome) : Prop :=
  (∃ reply, outcome = replied reply) ∨
    ∃ reason detail, outcome = handedOff reason detail

theorem Concluded.terminal {outcome : Outcome}
    (concluded : Concluded outcome) :
    outcome.status ≠ .processing := by
  rcases concluded with ⟨reply, rfl⟩ | ⟨reason, detail, rfl⟩ <;>
    exact TicketStatus.noConfusion

theorem concluded_of_conclude
    {wiring : Wiring} {ticket : Ticket} {events : List Event}
    {outcome : Outcome} {state : RunState}
    (ran : Orchestrator.conclude wiring ticket (RunState.start events) =
      .ok outcome state) :
    Concluded outcome ∧
      (PrintableTools wiring → ∀ tool,
        openCalls tool (state.recorder.steps.map TraceStep.payload) = 0) := by
  rcases returned_of_ok (conclude_ends wiring ticket events) ran with
    ⟨account, holds, outcomeEq, recorded⟩
  constructor
  · rcases outcome_cases outcomeEq with ⟨reply, -, isReply⟩ | ⟨-, handed⟩
    · exact Or.inl ⟨reply, isReply⟩
    · exact Or.inr handed
  · intro printable tool
    rcases traceOf_ran recorded with ⟨added, -, -, trace⟩
    rw [trace.payloads, openCalls_append, account_closed printable holds]
    rfl

/-! ## The balance -/

/-- A ticket is handed off for a reason, and otherwise has none. -/
structure Reasoned (row : TicketRow) : Prop where
  handedOff : row.status = TicketStatus.handedOff.value →
    ∃ reason : HandoffReason, row.handoffReason = some reason.value
  otherwise : row.status ≠ TicketStatus.handedOff.value →
    row.handoffReason = none

/-- What every step of every run leaves true. -/
structure Balanced (time : TimeText) (ids : Finset String)
    (system : System) : Prop where
  unique : (system.database.tickets.map TicketRow.id).Nodup
  reasoned : ∀ row ∈ system.database.tickets, Reasoned row
  untouched : ∀ id, (system.phase id).unwritten →
    Untouched system.database id
  concluded : ∀ id outcome steps,
    system.phase id = .concluded outcome steps → Concluded outcome
  balance : ∀ key, key ≠ .tickets .processing →
    reading system.metrics key + owed Phase.pending ids key system.phase =
      stored time system.database key

theorem balanced_start
    {time : TimeText} {ids : Finset String} {database : Database}
    (waiting : Waiting database) :
    Balanced time ids (System.start database) where
  unique := waiting.unique
  reasoned row member :=
    { handedOff := by
        intro handed
        rw [(waiting.waits row member).1] at handed
        exact absurd (status_value_inj.mp handed) TicketStatus.noConfusion
      otherwise := fun _ => (waiting.waits row member).2 }
  untouched id _ :=
    { waits := fun row member _ => waiting.waits row member
      noSteps := by
        intro step member
        have noSteps : (System.start database).database.traceSteps = [] :=
          waiting.noSteps
        simp [noSteps] at member }
  concluded id outcome steps isConcluded := by
    simp [System.start] at isConcluded
  balance key counted := by
    have nothing : stored time database key = 0 := by
      have noSteps : storedSteps time database = [] := by
        simp [storedSteps, waiting.noSteps]
      cases key with
      | tickets status =>
          rw [stored, List.countP_eq_zero]
          intro row member
          rw [(waiting.waits row member).1, beq_iff_eq, status_value_inj]
          rintro rfl
          exact counted rfl
      | handoffs reason =>
          rw [stored, List.countP_eq_zero]
          intro row member
          simp [(waiting.waits row member).2]
      | iterationsCount =>
          rw [stored, List.countP_eq_zero]
          intro row member
          simp [(waiting.waits row member).1]
      | toolCalls tool ok => simp [stored, noSteps]
      | violations literalClass => simp [stored, noSteps]
      | iterationsSum => simp [stored, noSteps]
    have owesNothing :
        owed Phase.pending ids key (System.start database).phase = 0 := by
      simp [owed, System.start, Phase.pending]
    have metrics : (System.start database).metrics = .create := rfl
    have same : (System.start database).database = database := rfl
    rw [owesNothing, metrics, same, reading_create, nothing]
    simp

section

variable {time : TimeText} {ids : Finset String} {system : System}

/-- A step that neither writes nor counts. -/
theorem balanced_advance
    (balanced : Balanced time ids system) {id : String} (known : id ∈ ids)
    {next : Phase} (had : (system.phase id).pending = [])
    (has : next.pending = [])
    (later : next.unwritten → (system.phase id).unwritten)
    (concluded : ∀ outcome steps, next = .concluded outcome steps →
      Concluded outcome) :
    Balanced time ids (system.advance id next) where
  unique := balanced.unique
  reasoned := balanced.reasoned
  untouched other unwritten := by
    apply balanced.untouched other
    by_cases same : other = id
    · subst same
      apply later
      simpa [System.advance] using unwritten
    · simpa [System.advance, same] using unwritten
  concluded other outcome steps isConcluded := by
    by_cases same : other = id
    · subst same
      exact concluded outcome steps (by
        simpa [System.advance] using isConcluded)
    · exact balanced.concluded other outcome steps (by
        simpa [System.advance, same] using isConcluded)
  balance key counted := by
    have sum := @owed_update_mem _ Phase.pending ids key system.phase id
      next known
    rw [had, has, added_nil, Nat.add_zero, Nat.add_zero] at sum
    have balance := balanced.balance key counted
    rw [← sum] at balance
    exact balance

theorem reasoned_finalised
    {database after : Database} {py : PyText} {now : DateTime} {id : String}
    {outcome : Outcome} {steps : List TraceStep}
    (concluded : Concluded outcome)
    (written :
      finalise py time now (finaliseCall id outcome steps) database =
        .ok ⟨⟩ after)
    (reasoned : ∀ row ∈ database.tickets, Reasoned row) :
    ∀ row ∈ after.tickets, Reasoned row := by
  rcases returned_of_ok (finalise_ends py time now _ database) written
    with ⟨rows, -, rfl, -, -⟩
  intro row member
  rcases List.mem_map.mp member with ⟨before, wasStored, rfl⟩
  split
  · rcases concluded with ⟨reply, rfl⟩ | ⟨reason, detail, rfl⟩
    · exact
        { handedOff := by
            intro handed
            have handed : TicketStatus.replied.value =
                TicketStatus.handedOff.value := handed
            exact absurd (status_value_inj.mp handed)
              TicketStatus.noConfusion
          otherwise := fun _ => rfl }
    · exact
        { handedOff := fun _ => ⟨reason, rfl⟩
          otherwise := fun other => absurd rfl other }
  · exact reasoned before wasStored

/-- A write moves the weight of its run to what is owed. -/
theorem balanced_write
    (balanced : Balanced time ids system) {py : PyText} {id : String}
    (known : id ∈ ids) {outcome : Outcome} {steps : List TraceStep}
    {now : Reading} {database : Database}
    (concluded : system.phase id = .concluded outcome steps)
    (written :
      finalise py time now (finaliseCall id outcome steps)
          system.database =
        .ok ⟨⟩ database) :
    Balanced time ids
      { system.advance id
          (.counting (runUpdates outcome.status outcome.reason steps)) with
        database } := by
  have isConcluded := balanced.concluded id outcome steps concluded
  have untouched : Untouched system.database id := by
    apply balanced.untouched id
    rw [concluded]
    trivial
  refine
    { unique := ?_
      reasoned := reasoned_finalised isConcluded written balanced.reasoned
      untouched := ?_
      concluded := ?_
      balance := ?_ }
  · rw [ids_finalised written]
    exact balanced.unique
  · intro other unwritten
    by_cases same : other = id
    · subst same
      simp [System.advance, Phase.unwritten] at unwritten
    · apply untouched_finalised written same
      apply balanced.untouched other
      simpa [System.advance, same] using unwritten
  · intro other outcome' steps' concluded'
    by_cases same : other = id
    · subst same
      simp [System.advance] at concluded'
    · exact balanced.concluded other outcome' steps' (by
        simpa [System.advance, same] using concluded')
  · intro key counted
    have sum := @owed_update_mem _ Phase.pending ids key system.phase id
      (.counting (runUpdates outcome.status outcome.reason steps)) known
    rw [concluded] at sum
    have sum : owed Phase.pending ids key (Function.update system.phase id
          (.counting (runUpdates outcome.status outcome.reason steps))) =
        owed Phase.pending ids key system.phase +
          runWeight outcome.status outcome.reason steps key := by
      rw [← added_runUpdates]
      exact sum
    have grown := stored_finalised balanced.unique untouched
      isConcluded.terminal written counted
    have balance := balanced.balance key counted
    change reading system.metrics key +
      (owed Phase.pending ids key (Function.update system.phase id _) : ℚ) =
        stored time database key
    rw [sum, grown]
    push_cast
    rw [← balance]
    exact (add_assoc _ _ _).symm

/-- An update moves its weight from what is owed to the registry. -/
theorem balanced_count
    (balanced : Balanced time ids system) {id : String} (known : id ∈ ids)
    {update : MetricUpdate} {updates : List MetricUpdate}
    (counting : system.phase id = .counting (update :: updates)) :
    Balanced time ids
      { system.advance id (.counting updates) with
        metrics := system.metrics.update update } where
  unique := balanced.unique
  reasoned := balanced.reasoned
  untouched other unwritten := by
    apply balanced.untouched other
    by_cases same : other = id
    · subst same
      simp [System.advance, Phase.unwritten] at unwritten
    · simpa [System.advance, same] using unwritten
  concluded other outcome steps concluded := by
    by_cases same : other = id
    · subst same
      simp [System.advance] at concluded
    · exact balanced.concluded other outcome steps (by
        simpa [System.advance, same] using concluded)
  balance key counted := by
    have sum := @owed_update_mem _ Phase.pending ids key system.phase id
      (.counting updates) known
    rw [counting] at sum
    have balance := balanced.balance key counted
    change reading (system.metrics.update update) key +
      (owed Phase.pending ids key (Function.update system.phase id _) : ℚ) =
        stored time system.database key
    rw [reading_update, ← balance]
    have sum : owed Phase.pending ids key (Function.update system.phase id
          (.counting updates)) + weight key update =
        owed Phase.pending ids key system.phase := by
      have same : added key (Phase.counting (update :: updates)).pending =
          weight key update + added key updates := rfl
      have rest : added key (Phase.counting updates).pending =
          added key updates := rfl
      omega
    rw [← sum]
    push_cast
    ring

variable {py : PyText} {pydantic : Pydantic} {allowed : Wiring → Prop}

theorem balanced_step
    {after : System}
    (step : Step py pydantic time allowed ids system after)
    (balanced : Balanced time ids system) :
    Balanced time ids after := by
  cases step with
  | get known waits found =>
      apply balanced_advance balanced known (by rw [waits]; rfl) rfl
      · intro
        rw [waits]
        trivial
      · intro outcome steps
        exact Phase.noConfusion
  | miss known waits missing =>
      apply balanced_advance balanced known (by rw [waits]; rfl) rfl
      · exact False.elim
      · intro outcome steps
        exact Phase.noConfusion
  | conclude known permitted reads ran =>
      apply balanced_advance balanced known (by rw [reads]; rfl) rfl
      · intro
        rw [reads]
        trivial
      · intro outcome steps same
        rw [Phase.concluded.injEq] at same
        rw [← same.1]
        exact (concluded_of_conclude ran).1
  | raise known permitted reads ran =>
      apply balanced_advance balanced known (by rw [reads]; rfl) rfl
      · exact False.elim
      · intro outcome steps
        exact Phase.noConfusion
  | write known concluded written =>
      exact balanced_write balanced known concluded written
  | fail known concluded =>
      apply balanced_advance balanced known (by rw [concluded]; rfl) rfl
      · exact False.elim
      · intro outcome steps
        exact Phase.noConfusion
  | count known counting =>
      exact balanced_count balanced known counting
  | done known counting =>
      apply balanced_advance balanced known (by rw [counting]; rfl) rfl
      · exact False.elim
      · intro outcome steps
        exact Phase.noConfusion

/-- Whatever the runs do, and in whatever order, the balance holds. -/
theorem balanced_of_reachable
    {database : Database} (waiting : Waiting database)
    (reached :
      Reachable py pydantic time allowed ids (System.start database)
        system) :
    Balanced time ids system := by
  induction reached with
  | refl => exact balanced_start waiting
  | tail _ step balanced => exact balanced_step step balanced

/-! ## Calls and results -/

/-- Every stored call has its result, and no run is about to differ. -/
structure Paired (time : TimeText) (system : System) : Prop where
  closed : ∀ id outcome steps,
    system.phase id = .concluded outcome steps →
      ∀ tool, openCalls tool (steps.map TraceStep.payload) = 0
  matched : ∀ tool,
    storedToolCalls time system.database tool =
      stored time system.database (.toolCalls tool true) +
        stored time system.database (.toolCalls tool false)

theorem paired_start {database : Database} (waiting : Waiting database) :
    Paired time (System.start database) where
  closed id outcome steps isConcluded := by
    simp [System.start] at isConcluded
  matched tool := by
    simp [System.start, storedToolCalls, stored, storedSteps,
      waiting.noSteps]

/-- A phase that concludes nothing new. -/
theorem Paired.closed_update
    (paired : Paired time system) {id : String} {next : Phase}
    (closed : ∀ outcome steps, next = .concluded outcome steps →
      ∀ tool, openCalls tool (steps.map TraceStep.payload) = 0) :
    ∀ other outcome steps,
      Function.update system.phase id next other =
          .concluded outcome steps →
        ∀ tool, openCalls tool (steps.map TraceStep.payload) = 0 := by
  intro other outcome steps isConcluded
  by_cases same : other = id
  · subst same
    rw [Function.update_self] at isConcluded
    exact closed outcome steps isConcluded
  · rw [Function.update_of_ne same] at isConcluded
    exact paired.closed other outcome steps isConcluded

theorem paired_step
    (printable : ∀ wiring, allowed wiring → PrintableTools wiring)
    {after : System}
    (step : Step py pydantic time allowed ids system after)
    (balanced : Balanced time ids system) (paired : Paired time system) :
    Paired time after := by
  cases step with
  | conclude known permitted reads ran =>
      refine ⟨paired.closed_update ?_, paired.matched⟩
      intro outcome steps same
      rw [Phase.concluded.injEq] at same
      rw [← same.2]
      exact (concluded_of_conclude ran).2 (printable _ permitted)
  | @write id outcome steps now database known concluded written =>
      refine ⟨paired.closed_update fun _ _ => Phase.noConfusion, ?_⟩
      intro tool
      have untouched : Untouched system.database id := by
        apply balanced.untouched id
        rw [concluded]
        trivial
      have terminal := (balanced.concluded _ _ _ concluded).terminal
      have results : ∀ ok, stored time database (.toolCalls tool ok) =
          stored time system.database (.toolCalls tool ok) +
            steps.countP (isToolResult tool ok) :=
        fun ok => stored_finalised balanced.unique untouched terminal
          written Key.noConfusion
      have calls := storedToolCalls_finalised untouched written tool
      have pairs := countP_isToolCall tool steps
      rw [paired.closed _ _ _ concluded] at pairs
      have before := paired.matched tool
      change storedToolCalls time database tool =
        stored time database (.toolCalls tool true) +
          stored time database (.toolCalls tool false)
      rw [results, results, calls, before]
      simp only [finaliseCall]
      omega
  | _ =>
      exact
        ⟨paired.closed_update fun _ _ => Phase.noConfusion, paired.matched⟩

theorem paired_of_reachable
    (printable : ∀ wiring, allowed wiring → PrintableTools wiring)
    {database : Database} (waiting : Waiting database)
    (reached :
      Reachable py pydantic time allowed ids (System.start database)
        system) :
    Paired time system := by
  induction reached with
  | refl => exact paired_start waiting
  | tail earlier step paired =>
      exact paired_step printable step
        (balanced_of_reachable waiting earlier) paired

/-! ## The metrics agree with the database -/

/-- No run is under way. -/
def System.Idle (ids : Finset String) (system : System) : Prop :=
  ∀ id ∈ ids, (system.phase id).idle

/-- The registry says what the database holds. -/
structure Agrees (time : TimeText) (system : System) : Prop where
  counted : ∀ key, key ≠ .tickets .processing →
    reading system.metrics key = stored time system.database key
  handoffs :
    (HandoffReason.members.map fun reason =>
        reading system.metrics (.handoffs reason)).sum =
      reading system.metrics (.tickets .handedOff)

theorem stored_handoffs
    {database : Database}
    (reasoned : ∀ row ∈ database.tickets, Reasoned row) :
    (HandoffReason.members.map fun reason =>
        stored time database (.handoffs reason)).sum =
      stored time database (.tickets .handedOff) := by
  simp only [stored]
  generalize database.tickets = rows at reasoned
  induction rows with
  | nil => rfl
  | cons row rows induction =>
      have one : (HandoffReason.members.map fun reason =>
            if row.handoffReason == some reason.value then 1 else 0).sum =
          if row.status == TicketStatus.handedOff.value then 1 else 0 := by
        have reasonedRow := reasoned row List.mem_cons_self
        by_cases handed : row.status = TicketStatus.handedOff.value
        · rcases reasonedRow.handedOff handed with ⟨reason, isReason⟩
          rw [isReason, handed]
          cases reason <;> decide
        · rw [reasonedRow.otherwise handed, if_neg (by simpa using handed)]
          decide
      simp only [List.countP_cons]
      rw [List.sum_map_add, one, induction fun other member =>
        reasoned other (List.mem_cons_of_mem _ member)]

theorem agrees_of_idle
    (balanced : Balanced time ids system) (idle : system.Idle ids) :
    Agrees time system := by
  have nothing : ∀ key, owed Phase.pending ids key system.phase = 0 := by
    intro key
    apply Finset.sum_eq_zero
    intro id member
    have isIdle := idle id member
    cases isPhase : system.phase id with
    | waiting => rfl
    | ended => rfl
    | _ =>
        rw [isPhase] at isIdle
        exact isIdle.elim
  have counted : ∀ key, key ≠ .tickets .processing →
      reading system.metrics key = stored time system.database key := by
    intro key isCounted
    have balance := balanced.balance key isCounted
    rw [nothing, Nat.cast_zero, add_zero] at balance
    exact balance
  refine ⟨counted, ?_⟩
  rw [counted (.tickets .handedOff) (by decide),
    ← stored_handoffs balanced.reasoned]
  have each : (fun reason => reading system.metrics (.handoffs reason)) =
      fun reason => (stored time system.database (.handoffs reason) : ℚ) := by
    funext reason
    exact counted _ Key.noConfusion
  rw [each]
  simp [HandoffReason.members]

/--
Over the SQLite repository, and with a hook and a clock that do not raise,
whatever is written shows in the metrics once no run is under way, and never
before it is written.  Each stored call has its result counted, as long as
`str` succeeds on what the tools raise.
-/
theorem metrics_never_drift
    {database : Database} (waiting : Waiting database)
    (reached :
      Reachable py pydantic time allowed ids (System.start database)
        system) :
    (∀ key, key ≠ .tickets .processing →
        reading system.metrics key ≤ stored time system.database key) ∧
      (system.Idle ids → Agrees time system) ∧
      ((∀ wiring, allowed wiring → PrintableTools wiring) →
        system.Idle ids → ∀ tool,
          reading system.metrics (.toolCalls tool true) +
              reading system.metrics (.toolCalls tool false) =
            storedToolCalls time system.database tool) := by
  have balanced := balanced_of_reachable waiting reached
  refine ⟨?_, agrees_of_idle balanced, ?_⟩
  · intro key counted
    rw [← balanced.balance key counted]
    have notNegative : (0 : ℚ) ≤ owed Phase.pending ids key system.phase :=
      Nat.cast_nonneg _
    linarith
  · intro printable idle tool
    have agrees := agrees_of_idle balanced idle
    rw [agrees.counted _ Key.noConfusion, agrees.counted _ Key.noConfusion,
      (paired_of_reachable printable waiting reached).matched tool,
      Nat.cast_add]

/-! ## A run taken alone -/

/-- The system once the run of a ticket has left the service so. -/
def System.ran (system : System) (id : String)
    (service : Service Database) : System :=
  { database := service.store
    metrics := service.metrics
    phase := Function.update system.phase id .ended }

/-- The updates of a run, one after the other. -/
theorem counted_reachable
    {id : String} (known : id ∈ ids) (updates : List MetricUpdate)
    {system : System} (counting : system.phase id = .counting updates) :
    Reachable py pydantic time allowed ids system
      { database := system.database
        metrics := updates.foldl MetricRegistry.update system.metrics
        phase := Function.update system.phase id .ended } := by
  induction updates generalizing system with
  | nil => exact Relation.ReflTransGen.single (.done known counting)
  | cons update updates induction =>
      apply Relation.ReflTransGen.head (.count known counting)
      have rest := @induction
        { system.advance id (.counting updates) with
          metrics := system.metrics.update update }
        (by simp [System.advance])
      simpa [System.advance, Reachable] using rest

/-- A run up to its write. -/
theorem beginRun_reachable
    {wiring : Wiring} (permitted : allowed wiring) {id : String}
    (known : id ∈ ids) (waits : system.phase id = .waiting)
    {service : Service Database} (sameStore : service.store = system.database)
    (sameMetrics : service.metrics = system.metrics) :
    Ends (beginRun (sqliteRepository py pydantic time) wiring id) service
      (fun pair after =>
        Reachable py pydantic time allowed ids system
            (system.advance id (.concluded pair.1 pair.2)) ∧
          after.store = system.database ∧ after.metrics = system.metrics)
      (fun _ after =>
        Reachable py pydantic time allowed ids system
          (system.ran id after)) := by
  simp only [beginRun]
  apply ends_bind (fun value after =>
    (sqliteRepository py pydantic time).get id system.database =
        .ok value system.database ∧
      after = service)
  · apply onStore_ends
    rw [sameStore, ends_iff]
    have kept := get_ends py time pydantic id system.database
    constructor
    · intro value after read
      cases (returned_of_ok kept read).1
      exact ⟨read, by rw [← sameStore]⟩
    · intro exc after failed
      cases raised_of_error kept failed
      rw [System.ran, sameMetrics]
      apply Relation.ReflTransGen.single
      apply Step.miss known waits
      intro ticket
      rw [failed]
      simp
  · rintro value after ⟨read, rfl⟩
    cases value with
    | none =>
        apply ends_throw
        rw [System.ran, sameStore, sameMetrics]
        apply Relation.ReflTransGen.single
        apply Step.miss known waits
        intro ticket
        rw [read]
        simp
    | some ticket =>
        have reads : (system.advance id (.read ticket)).phase id =
            .read ticket :=
          Function.update_self ..
        have got :
            Reachable py pydantic time allowed ids system
              (system.advance id (.read ticket)) :=
          Relation.ReflTransGen.single (.get known waits read)
        apply onRun_ends
        rw [ends_iff]
        constructor
        · intro outcome state ran
          have concluded := got.tail (.conclude known permitted reads ran)
          rw [System.advance_advance] at concluded
          exact ⟨concluded, sameStore, sameMetrics⟩
        · intro exc state ran
          have raised := got.tail (.raise known permitted reads ran)
          rw [System.advance_advance] at raised
          rw [System.ran, sameStore, sameMetrics]
          exact raised

/-- A run of the pipeline that nothing overlaps takes these steps. -/
theorem runPipeline_reachable
    {wiring : Wiring} (permitted : allowed wiring)
    (storeClock : List Event → Reading) {id : String} (known : id ∈ ids)
    (waits : system.phase id = .waiting) {service : Service Database}
    (sameStore : service.store = system.database)
    (sameMetrics : service.metrics = system.metrics) :
    Reachable py pydantic time allowed ids system
      (system.ran id (finalState
        (runPipeline (sqliteRepository py pydantic time) wiring storeClock
          id) service)) := by
  apply @ends_finalState _ _ _ _ _ fun after =>
    Reachable py pydantic time allowed ids system (system.ran id after)
  simp only [runPipeline]
  apply ends_bind _ (beginRun_reachable permitted known waits sameStore
    sameMetrics)
  rintro ⟨outcome, steps⟩ begun ⟨concluding, beganStore, beganMetrics⟩
  have concluded :
      (system.advance id (.concluded outcome steps)).phase id =
        .concluded outcome steps :=
    Function.update_self ..
  apply ends_get_bind
  apply ends_mono (finishRun_tries_once (sqliteRepository py pydantic time)
    id (storeClock begun.events) outcome steps begun)
  · intro value after ended
    have written :
        finalise py time (storeClock begun.events)
            (finaliseCall id outcome steps) system.database =
          .ok ⟨⟩ after.store := by
      rw [← beganStore]
      exact ended.2.1
    have wrote := concluding.tail (.write known concluded written)
    rw [System.advance_advance] at wrote
    have counted := @counted_reachable time ids py pydantic allowed id known
      (runUpdates outcome.status outcome.reason steps)
      { system.advance id
          (.counting (runUpdates outcome.status outcome.reason steps)) with
        database := after.store }
      (Function.update_self ..)
    rw [System.ran, ended.2.2, beganMetrics]
    simpa [System.advance, recordRun, Reachable] using wrote.trans counted
  · intro exc after ended
    have ends := finalise_ends py time (storeClock begun.events)
      (finaliseCall id outcome steps) begun.store
    have kept := raised_of_error ends ended.2.1
    have failed := concluding.tail (.fail known concluded)
    rw [System.advance_advance] at failed
    rw [System.ran, kept, beganStore, ended.2.2, beganMetrics]
    exact failed

end

/-! ## Runs of the waiting ticket -/

theorem waitingDatabase_waiting : Waiting waitingDatabase where
  unique := by decide +kernel
  waits := by
    have isRow : waitingDatabase.tickets =
        [ticketRow tallyTime waitingTicket] := rfl
    intro row member
    rw [isRow, List.mem_singleton] at member
    rw [member]
    exact ⟨rfl, rfl⟩
  noSteps := rfl

/-- The waiting ticket after a run with this wiring. -/
def ranWith (wiring : Wiring) : System :=
  (System.start waitingDatabase).ran "t1" (finalState
    (runPipeline asciiSqlite wiring standingClock "t1")
    (serviceOf waitingDatabase))

theorem ranWith_reachable (wiring : Wiring) :
    Reachable asciiText plainPydantic tallyTime (· = wiring) {"t1"}
      (System.start waitingDatabase) (ranWith wiring) := by
  apply runPipeline_reachable
  · rfl
  · exact Finset.mem_singleton_self "t1"
  all_goals rfl

theorem ranWith_idle (wiring : Wiring) : (ranWith wiring).Idle {"t1"} := by
  intro id member
  rw [Finset.mem_singleton.mp member]
  simp [ranWith, System.ran, Phase.idle]

/-- The scripted run agrees with what it wrote. -/
theorem billing_run_agrees :
    Agrees tallyTime (ranWith (wiringOf billingModel paidAccount)) ∧
      ∀ tool,
        reading (ranWith (wiringOf billingModel paidAccount)).metrics
              (.toolCalls tool true) +
            reading (ranWith (wiringOf billingModel paidAccount)).metrics
              (.toolCalls tool false) =
          storedToolCalls tallyTime
            (ranWith (wiringOf billingModel paidAccount)).database tool := by
  have drifts := metrics_never_drift waitingDatabase_waiting
    (ranWith_reachable (wiringOf billingModel paidAccount))
  have printable : PrintableTools (wiringOf billingModel paidAccount) := by
    intro events tool args exc raised
    have raised : paidAccount tool args = .error exc := raised
    unfold paidAccount at raised
    split at raised <;> simp at raised
  refine ⟨drifts.2.1 (ranWith_idle _), drifts.2.2 ?_ (ranWith_idle _)⟩
  rintro - rfl
  exact printable

/-- An exception whose `str` raises. -/
def mute : Exc :=
  .raised "Mute" .other (.error (runtimeError asciiText "no text"))
    (.ok "Mute()")

/-- One tool call, which raises the mute exception. -/
def muteWiring : Wiring :=
  wiringOf (scriptedModel .billingQuestion [.toolCall ⟨"get_user", []⟩])
    fun _ _ => .error mute

/-- The call is stored, and no result of it is counted. -/
theorem mute_call_uncounted :
    Waiting waitingDatabase ∧
      Reachable asciiText plainPydantic tallyTime (· = muteWiring) {"t1"}
        (System.start waitingDatabase) (ranWith muteWiring) ∧
      (ranWith muteWiring).Idle {"t1"} ∧
      ∃ tool,
        reading (ranWith muteWiring).metrics (.toolCalls tool true) +
            reading (ranWith muteWiring).metrics (.toolCalls tool false) ≠
          storedToolCalls tallyTime (ranWith muteWiring).database tool :=
  ⟨waitingDatabase_waiting, ranWith_reachable muteWiring, ranWith_idle _,
    "get_user", by decide +kernel⟩

end SupportAssistant.Pipeline.Drift
