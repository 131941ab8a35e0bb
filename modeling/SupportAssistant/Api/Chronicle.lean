import SupportAssistant.Api.ServedViews
import SupportAssistant.Observability.Logging

/-!
# What the log, the clock and the rows tell together

The log is the only record of a run that was lost, and it has every trace that
is stored, as far as the level of the logger and the steps themselves let it.
The times of a view are readings of the clock, in the order in which they were
taken.  And a ticket that no run is working on keeps what it has: no later
process takes it up.
-/

namespace SupportAssistant.Api.Chronicle

open SupportAssistant.Runtime
open SupportAssistant.Runtime.Ascii
open SupportAssistant.Runtime.Written
open SupportAssistant.Tracing.Models
open SupportAssistant.Storage.Protocol
open SupportAssistant.Storage.Codec
open SupportAssistant.Storage.Compact
open SupportAssistant.Storage.Finality
open SupportAssistant.Observability.Logging
open SupportAssistant.Api.Routes
open SupportAssistant.Api.Responses
open SupportAssistant.Api.Visibility
open SupportAssistant.Api.Process
open SupportAssistant.Api.Lifecycle
open SupportAssistant.Api.ServedViews

section

variable {py : PyText} {pydantic : Pydantic} {time : TimeText}
variable {world next : World}

/-! ## The log -/

/-- The trace of a view is what the log has of its ticket. -/
structure Logged (time : TimeText) (lines : List TraceStep)
    (view : TicketView) : Prop where
  steps : view.trace = lines.map (storedStep time)
  places : view.trace.map TraceStep.seq = lines.map TraceStep.seq
  times : view.trace.map TraceStep.ts = lines.map TraceStep.ts

theorem logged_of_orderly {lines : List TraceStep} (orderly : Orderly lines)
    {view : TicketView} (steps : view.trace = lines.map (storedStep time)) :
    Logged time lines view where
  steps := steps
  places := by
    rw [steps, List.map_map]
    rfl
  times := by
    rw [steps, List.map_map]
    apply List.map_congr_left
    intro step member
    exact storedTime_of_utc time (orderly.utc step member)

/-- The trace of a settled view is in the log. -/
theorem logged_of_settled {id : String} {view : TicketView}
    (reached : Reachable py pydantic time world)
    (read : readTicket py pydantic time world.database id =
      .ok (some view))
    (settles : Settled view) :
    Logged time (linesOf id world.log) view := by
  have orderly : Orderly (linesOf id world.log) :=
    ((reachable_lawful reached).stands id).orderly
  cases served_of_reachable reached id with
  | unknown found silent isRead =>
      rw [read] at isRead
      simp at isRead
  | waiting payload created found inOrder isRead =>
      obtain rfl :=
        Option.some.inj (Except.ok.inj (read.symm.trans isRead))
      exact absurd rfl settles.terminal
  | settled payload created updated verdict kept logged _ isRead =>
      obtain rfl :=
        Option.some.inj (Except.ok.inj (read.symm.trans isRead))
      exact logged_of_orderly orderly (by rw [logged]; rfl)

theorem describe_storedPayload (payload : Payload) :
    describe py (storedPayload payload) = describe py payload := by
  rw [describe, describe, dumpPayload_storedPayload]
  cases payload with
  | toolResult tool ok summary error => cases ok <;> rfl
  | _ => rfl

/-- A stored step is logged as the recorded one. -/
theorem logStep_storedStep (ticketId : Option String) {step : TraceStep}
    (utc : step.ts.IsUtc) :
    logStep py time ticketId (storedStep time step) =
      logStep py time ticketId step := by
  have ts : (storedStep time step).ts = step.ts :=
    storedTime_of_utc time utc
  have described : describe py (storedStep time step).payload =
      describe py step.payload :=
    describe_storedPayload step.payload
  simp only [logStep, ts, described]

theorem mapM_logStep_stored (ticketId : Option String)
    {steps : List TraceStep} (utc : ∀ step ∈ steps, step.ts.IsUtc) :
    (steps.map (storedStep time)).mapM (logStep py time ticketId) =
      steps.mapM (logStep py time ticketId) := by
  induction steps with
  | nil => rfl
  | cons step steps induction =>
      rw [List.forall_mem_cons] at utc
      rw [List.map_cons, List.mapM_cons, List.mapM_cons, induction utc.2,
        logStep_storedStep ticketId utc.1]

/-- The lines that are bound to a ticket. -/
def boundLines (id : String) (lines : List LogLine) : List LogLine :=
  lines.filter fun line => line.ticketId == some id

/-- The lines of a ticket's steps, one for each that the level lets through. -/
def Tells (py : PyText) (time : TimeText) (threshold : Nat) (id : String)
    (steps : List TraceStep) (lines : List LogLine) : Prop :=
  ∃ written, steps.mapM (logStep py time (some id)) = some written ∧
    lines = written.filter fun line => threshold ≤ line.level.number

/-- The lines of all tickets, and those of each ticket among them. -/
theorem mapM_linesOf {log : List (String × TraceStep)} {lines : List LogLine}
    (areLines : log.mapM (lineOf py time) = some lines) (id : String) :
    (linesOf id log).mapM (logStep py time (some id)) =
      some (boundLines id lines) := by
  induction log generalizing lines with
  | nil =>
      cases areLines
      rfl
  | cons entry log induction =>
      rw [List.mapM_cons] at areLines
      rcases Option.bind_eq_some_iff.mp areLines with
        ⟨line, isLine, rest⟩
      rcases Option.bind_eq_some_iff.mp rest with ⟨others, areOthers, same⟩
      cases same
      have later := induction areOthers
      have bound : line.ticketId = some entry.1 := by
        rcases Option.bind_eq_some_iff.mp isLine with ⟨described, -, same⟩
        cases same
        rfl
      by_cases own : entry.1 = id
      · subst own
        rw [show linesOf entry.1 (entry :: log) =
            entry.2 :: linesOf entry.1 log by simp [linesOf],
          List.mapM_cons, show logStep py time (some entry.1) entry.2 =
            some line from isLine, later]
        simp [boundLines, bound]
      · rw [show linesOf id (entry :: log) = linesOf id log by
            simp [linesOf, own],
          later]
        simp [boundLines, bound, own]

theorem tells_linesOf {log : List (String × TraceStep)}
    {lines : List LogLine} (areLines : log.mapM (lineOf py time) = some lines)
    (threshold : Nat) (id : String) :
    Tells py time threshold id (linesOf id log)
      (boundLines id
        (lines.filter fun line => threshold ≤ line.level.number)) := by
  refine ⟨_, mapM_linesOf areLines id, ?_⟩
  simp only [boundLines, List.filter_filter, Bool.and_comm]

/-- The lines of a settled ticket are those of the trace that is stored. -/
theorem tells_of_settled {id : String} {view : TicketView}
    (reached : Reachable py pydantic time world)
    (read : readTicket py pydantic time world.database id =
      .ok (some view))
    (settles : Settled view) {lines : List LogLine}
    (areLines : world.log.mapM (lineOf py time) = some lines)
    (threshold : Nat) :
    Tells py time threshold id view.trace
      (boundLines id
        (lines.filter fun line => threshold ≤ line.level.number)) := by
  have orderly : Orderly (linesOf id world.log) :=
    ((reachable_lawful reached).stands id).orderly
  rw [Tells, (logged_of_settled reached read settles).steps,
    mapM_logStep_stored (some id) orderly.utc]
  exact tells_linesOf areLines threshold id

/--
In every reachable world whose steps can all be logged, the lines that are
bound to a ticket are those of its recorded steps, one for each that the level
lets through.  The steps are numbered from one, with nothing after a final
decision; there are none for an id that was never accepted; and they are the
trace of any view that has settled.
-/
theorem log_accounts_for_every_trace (threshold : Nat)
    (reached : Reachable py pydantic time world)
    (loggable : ∀ entry ∈ world.log, Loggable py entry.2.payload) :
    ∃ lines, emitted py time threshold world.log = some lines ∧
      ∀ id, Orderly (linesOf id world.log) ∧
        Tells py time threshold id (linesOf id world.log)
          (boundLines id lines) ∧
        (id ∉ world.accepted → boundLines id lines = []) ∧
          ∀ view,
            readTicket py pydantic time world.database id =
                .ok (some view) →
              Settled view → Logged time (linesOf id world.log) view ∧
                Tells py time threshold id view.trace
                  (boundLines id lines) := by
  have lawful := reachable_lawful reached
  rcases emitted_of_loggable time threshold loggable with
    ⟨lines, areLines, areEmitted⟩
  refine ⟨_, areEmitted, ?_⟩
  intro id
  have tells := tells_linesOf areLines threshold id
  refine ⟨(lawful.stands id).orderly, tells, ?_, ?_⟩
  · intro unknown
    rw [lawful.known id, Option.not_isSome_iff_eq_none] at unknown
    have silent : linesOf id world.log = [] :=
      congrArg Facts.lines ((lawful.stands id).eq_unknown unknown)
    rcases tells with ⟨written, areWritten, same⟩
    rw [silent] at areWritten
    cases areWritten
    exact same
  · intro view read settles
    exact ⟨logged_of_settled reached read settles,
      tells_of_settled reached read settles areLines threshold⟩

theorem settledWorld_payloads :
    settledWorld.log.map (fun entry => entry.2.payload) =
      [.intentClassified .billingQuestion [], .llmDecision 1 .handoff none,
        .finalDecision .handedOff (some .unsupportedIntent)
          quittingOutcome.detail] :=
  rfl

theorem settledWorld_loggable :
    ∀ entry ∈ settledWorld.log, Loggable asciiText entry.2.payload := by
  intro entry member
  have payload : entry.2.payload ∈
      settledWorld.log.map (fun entry => entry.2.payload) :=
    List.mem_map_of_mem member
  have short : shortInt 1 = true := shortInt_of_lt (by decide) (by decide)
  rw [settledWorld_payloads] at payload
  simp only [List.mem_cons, List.not_mem_nil, or_false] at payload
  apply loggable_of_writes
  · rcases payload with same | same | same <;> rw [same]
    · refine (writes_iff ?_).mpr ⟨isCompact_nil, ?_⟩ <;>
        simp [JsonValued, counts]
    · refine (writes_iff ?_).mpr ⟨isCompact_nil, ?_⟩ <;>
        simp [JsonValued, counts, short]
    · refine (writes_iff ?_).mpr ⟨isCompact_nil, ?_⟩ <;>
        simp [JsonValued, counts]
  · rcases payload with same | same | same <;> rw [same] <;>
      simp [FewViolations]

theorem settledWorld_logged :
    ∃ lines,
      emitted asciiText tallyTime Level.info.number settledWorld.log =
          some lines ∧
        ∀ id, Orderly (linesOf id settledWorld.log) ∧
          Tells asciiText tallyTime Level.info.number id
            (linesOf id settledWorld.log) (boundLines id lines) ∧
          (id ∉ settledWorld.accepted → boundLines id lines = []) ∧
            ∀ view,
              readTicket asciiText plainPydantic tallyTime
                  settledWorld.database id = .ok (some view) →
                Settled view →
                  Logged tallyTime (linesOf id settledWorld.log) view ∧
                    Tells asciiText tallyTime Level.info.number id view.trace
                      (boundLines id lines) :=
  log_accounts_for_every_trace Level.info.number
    (postedWorld_reached.trans settledWorld_later) settledWorld_loggable

/-! ## The clock -/

/-- The times that a view shows, in the order they belong in. -/
def timesOf (view : TicketView) : List DateTime :=
  view.createdAt :: view.trace.map TraceStep.ts ++ [view.updatedAt]

/-- What a view shows was read from the clock, in this order. -/
theorem times_read {id : String} {view : TicketView}
    (reached : Reachable py pydantic time world)
    (read : readTicket py pydantic time world.database id =
      .ok (some view)) :
    view.createdAt ∈ world.readings ∧
      (view.trace = [] ∧ view.updatedAt = view.createdAt ∨
        (timesOf view).Sublist world.readings) := by
  cases served_of_reachable reached id with
  | unknown found silent isRead =>
      rw [read] at isRead
      simp at isRead
  | waiting payload created found inOrder isRead =>
      obtain rfl :=
        Option.some.inj (Except.ok.inj (read.symm.trans isRead))
      exact ⟨List.singleton_sublist.mp inOrder, Or.inl ⟨rfl, rfl⟩⟩
  | settled payload created updated verdict kept logged _ isRead =>
      obtain rfl :=
        Option.some.inj (Except.ok.inj (read.symm.trans isRead))
      have times := (@logged_of_orderly time _ kept.orderly
        (settledView time payload id created updated verdict) rfl).times
      have inOrder : (timesOf (settledView time payload id created updated
          verdict)).Sublist world.readings := by
        rw [timesOf, times]
        exact kept.inOrder
      exact ⟨inOrder.subset (by simp [timesOf, settledView]),
        Or.inr inOrder⟩

/--
If the clock never went back, every view was created before its steps, which
follow each other in time, and was last updated after them.
-/
theorem served_times_in_order
    (reached : Reachable py pydantic time world)
    (steady : world.readings.Pairwise fun earlier later =>
      earlier.instant ≤ later.instant)
    {id : String} {view : TicketView}
    (read : readTicket py pydantic time world.database id =
      .ok (some view)) :
    (timesOf view).Pairwise fun earlier later =>
      earlier.instant ≤ later.instant := by
  rcases (times_read reached read).2 with ⟨empty, same⟩ | inOrder
  · simp [timesOf, empty, same]
  · exact steady.sublist inOrder

theorem settledWorld_inOrder :
    (timesOf quittingView).Pairwise
      fun earlier later => earlier.instant ≤ later.instant :=
  @served_times_in_order asciiText plainPydantic tallyTime settledWorld
    (postedWorld_reached.trans settledWorld_later) (by decide) "t1"
    quittingView quittingView_read.1

/-! ## Runs that are not taken up again -/

theorem stage_absent_step (lawful : Lawful py time world)
    (step : Step py pydantic time world next) {id : String}
    (known : (entry id world.database).1.isSome = true)
    (lost : world.stage id = .absent) :
    factsOf next id = factsOf world id := by
  -- a moment of another ticket, or of one whose run is under way
  have other : ∀ {moved : String} {stage : Stage},
      world.stage moved ≠ .absent →
        (world.advance moved stage).stage id = world.stage id := by
    intro moved stage present
    apply advance_stage_other
    rintro rfl
    exact present lost
  cases step with
  | @posted database payload moved now created =>
      rcases posted_entry lawful created with ⟨unknown, -, others⟩
      have different : id ≠ moved := by
        rintro rfl
        rw [show entry id world.database = _ from
          congrArg Facts.found unknown] at known
        simp at known
      exact Facts.ext (others id different) rfl
        (advance_stage_other world different _)
  | refused payload moved now raised =>
      have same := Effects.Outcomes.raised_of_error
        (Storage.SqliteSpec.create_ends py time _ _) raised
      subst same
      rfl
  | began wiring templates before scheduled found =>
      exact Facts.ext rfl rfl (other (by simp [scheduled]))
  | missed scheduled missing =>
      exact Facts.ext rfl rfl (other (by simp [scheduled]))
  | @happened moved event ahead verdict runs =>
      have different : moved ≠ id := by
        rintro rfl
        rw [runs] at lost
        simp at lost
      have stages := advance_stage_other (world.witness moved event)
        different.symm (.running ahead verdict)
      cases event with
      | stepLogged step =>
          refine Facts.ext rfl ?_ stages
          refine (linesOf_snoc id world.log (moved, step)).trans ?_
          rw [if_neg different, List.append_nil]
          rfl
      | _ => exact Facts.ext rfl rfl stages
  | concluded runs => exact Facts.ext rfl rfl (other (by simp [runs]))
  | escaped runs => exact Facts.ext rfl rfl (other (by simp [runs]))
  | @wrote moved outcome steps database now writes written =>
      rcases (lawful.stands moved).of_writing writes with
        ⟨payload, created, facts, -⟩
      have different : id ≠ moved := by
        rintro rfl
        rw [writes] at lost
        simp at lost
      have others := (wrote_entry (congrArg Facts.found facts) written).2
      exact Facts.ext (others id different) rfl
        (advance_stage_other world different _)
  | failed now writes => exact Facts.ext rfl rfl (other (by simp [writes]))
  | counted counts => exact Facts.ext rfl rfl (other (by simp [counts]))
  | done counts => exact Facts.ext rfl rfl (other (by simp [counts]))
  | restarted => exact Facts.ext rfl rfl lost.symm

theorem stage_absent_later (lawful : Lawful py time world)
    (later : Process.Later py pydantic time world next) {id : String}
    (known : (entry id world.database).1.isSome = true)
    (lost : world.stage id = .absent) :
    factsOf next id = factsOf world id := by
  induction later with
  | refl => rfl
  | @tail middle last earlier step induction =>
      have found : entry id middle.database = entry id world.database :=
        congrArg Facts.found induction
      have stage : middle.stage id = world.stage id :=
        congrArg Facts.stage induction
      rw [← induction]
      apply stage_absent_step (lawful_later earlier lawful) step
      · rw [found]
        exact known
      · rw [stage]
        exact lost

/--
An accepted ticket that no run is working on, because its run has ended or was
lost, keeps its rows, its lines and what is served of it, in this process and
in every later one.  If it waits, it waits for ever.
-/
theorem no_run_is_taken_up_again
    (reached : Reachable py pydantic time world)
    (later : Process.Later py pydantic time world next) {id : String}
    (accepted : id ∈ world.accepted) (lost : world.stage id = .absent) :
    factsOf next id = factsOf world id ∧
      readTicket py pydantic time next.database id =
        readTicket py pydantic time world.database id := by
  have lawful := reachable_lawful reached
  have same := stage_absent_later lawful later
    ((lawful.known id).mp accepted) lost
  exact ⟨same, readTicket_congr (congrArg Facts.found same)⟩

/-- The service after it died before the run of its one ticket. -/
def strandedWorld : World :=
  { postedWorld with metrics := .create, stage := fun _ => .absent }

/-- Another ticket is posted to the next process. -/
def resumedWorld : World :=
  { (strandedWorld.advance "t2" .scheduled).read atEpoch with
    database := performedAll asciiSqlite postedDatabase
      [.create (newTicket invoiceRequest "t2" atEpoch)]
    accepted := ["t1", "t2"] }

theorem stranded_ticket_waits :
    factsOf resumedWorld "t1" = factsOf strandedWorld "t1" ∧
      readTicket asciiText plainPydantic tallyTime resumedWorld.database
          "t1" =
        readTicket asciiText plainPydantic tallyTime strandedWorld.database
          "t1" :=
  @no_run_is_taken_up_again asciiText plainPydantic tallyTime strandedWorld
    resumedWorld (postedWorld_reached.tail .restarted)
    (.single (.posted invoiceRequest "t2" atEpoch rfl)) "t1"
    (by simp [strandedWorld, postedWorld]) rfl

end

end SupportAssistant.Api.Chronicle
