import SupportAssistant.Pipeline.Conclusions
import SupportAssistant.Pipeline.WritableRuns
import SupportAssistant.Storage.Interchange

/-!
# Which runs strand their ticket

Whatever the model and the tools do, a run over the default templates hands
one call to `finalise`, and the call passes the check, the key and the reader
of the table.  Its trace may still be one that cannot be written, and its
reply one that cannot be bound.  A run settles its ticket exactly when what it
was given can be written; otherwise the write is rolled back and not tried
again, and the run is not counted.
-/

namespace SupportAssistant.Pipeline.SingleWrite

open SupportAssistant.Enums
open SupportAssistant.Runtime
open SupportAssistant.Runtime.Ascii
open SupportAssistant.Runtime.Written
open SupportAssistant.Effects.Outcomes
open SupportAssistant.Tracing.Models
open SupportAssistant.Tracing.Summarise
open SupportAssistant.Domain
open SupportAssistant.Observability.Metrics
open SupportAssistant.Storage.Protocol
open SupportAssistant.Storage.Sqlite
open SupportAssistant.Storage.Codec
open SupportAssistant.Storage.Compact
open SupportAssistant.Storage.SqliteSpec
open SupportAssistant.Storage.ReadBack
open SupportAssistant.Storage.Finality
open SupportAssistant.Storage.Atomicity
open SupportAssistant.Storage.Interchange
open SupportAssistant.Pipeline.Collaborators
open SupportAssistant.Pipeline.Orchestrator
open SupportAssistant.Pipeline.Accounts
open SupportAssistant.Pipeline.RunSpec
open SupportAssistant.Pipeline.Handover
open SupportAssistant.Pipeline.Scripted
open SupportAssistant.Pipeline.Replies
open SupportAssistant.Pipeline.TraceGrammar
open SupportAssistant.Pipeline.DefaultWiring
open SupportAssistant.Pipeline.Conclusions
open SupportAssistant.Pipeline.WritableRuns

/-! ## The one call -/

/-- The call passes the check, the key and the reader of the table. -/
structure SoundCall (ticketId : String) (call : FinaliseCall) : Prop where
  ticketId : call.ticketId = ticketId
  terminal : call.status ≠ .processing
  accepted : accepts call.status call.reply call.handoffReason = true
  distinct : (call.trace.map TraceStep.seq).Nodup
  counted : ∀ step ∈ call.trace, step.seq ≤ call.trace.length
  agrees :
    statusReplyAndReasonAgree call.status call.reply call.handoffReason =
      true

theorem nodup_upFrom (first : Int) (count : Nat) :
    (upFrom first count).Nodup := by
  apply List.Nodup.map _ List.nodup_range
  intro left right same
  have : first + (left : Int) = first + right := same
  omega

theorem le_of_mem_upFrom
    {count : Nat} {number : Int} (member : number ∈ upFrom 1 count) :
    number ≤ count := by
  rcases List.mem_map.mp member with ⟨index, inRange, rfl⟩
  have := List.mem_range.mp inRange
  omega

theorem soundCall_of_concluded
    {account : Account} {outcome : Outcome} {events : List Event}
    {steps : List TraceStep} (concluding : Concluding outcome steps)
    (trace : TraceOf (account.payloads ++ [finalPayload outcome]) events
      steps)
    (ticketId : String) :
    SoundCall ticketId (finaliseCall ticketId outcome steps) := by
  have agrees :
      statusReplyAndReasonAgree outcome.status outcome.reply
          outcome.reason = true := by
    rcases concluding.either with
      ⟨reply, rfl, spoken, -⟩ | ⟨reason, detail, rfl⟩
    · simpa [replied, statusReplyAndReasonAgree, truthy] using spoken
    · rfl
  refine
    { ticketId := rfl
      terminal := ?_
      accepted := (accepts_iff _ _ _).mpr (Or.inl agrees)
      distinct := ?_
      counted := ?_
      agrees }
  · rcases concluding.either with ⟨reply, rfl, -⟩ | ⟨reason, detail, rfl⟩
    · exact TicketStatus.noConfusion
    · exact TicketStatus.noConfusion
  · change (steps.map TraceStep.seq).Nodup
    rw [trace.numbered]
    exact nodup_upFrom 1 steps.length
  · intro step member
    have numbered : step.seq ∈ steps.map TraceStep.seq :=
      List.mem_map_of_mem member
    rw [trace.numbered] at numbered
    exact le_of_mem_upFrom numbered

section

variable {ρ : Type} (repository : TicketRepository ρ)
variable {wiring : Wiring} {py' : PyText}

/-- The run concludes without touching the store, and does not raise. -/
theorem beginRun_concludes
    (templates : DefaultTemplates py' wiring)
    (printable : PrintableWiring wiring)
    {ticketId : String} {ticket : Ticket} {service : Service ρ}
    (found : repository.get ticketId service.store =
      .ok (some ticket) service.store) :
    Ends (beginRun repository wiring ticketId) service
      (fun pair after =>
        SoundCall ticketId (finaliseCall ticketId pair.1 pair.2) ∧
          ∃ events, after = { service with events })
      (fun _ _ => False) := by
  simp only [beginRun]
  apply ends_bind (fun value after => value = some ticket ∧ after = service)
  · apply onStore_ends
    unfold Ends
    rw [found]
    exact ⟨rfl, rfl⟩
  rintro - - ⟨rfl, rfl⟩
  apply onRun_ends
  rw [ends_iff]
  constructor
  · intro outcome state ran
    rcases returned_of_ok (conclude_ends wiring ticket _) ran with
      ⟨account, holds, -, recorded⟩
    rcases traceOf_ran recorded with ⟨added, -, -, trace⟩
    exact ⟨soundCall_of_concluded (concluding_of_conclude templates ran)
      trace ticketId, _, rfl⟩
  · intro exc state ran
    rcases raised_of_error (conclude_ends wiring ticket _) ran with
      ⟨account, holds, failed, -⟩
    rcases concludes_of_printable printable holds with ⟨outcome, concluded⟩
    rw [failed] at concluded
    simp at concluded

/-- The write is tried once; the run is counted when it has returned. -/
theorem finishRun_tries_once
    (ticketId : String) (now : DateTime) (outcome : Outcome)
    (steps : List TraceStep) (service : Service ρ) :
    Ends (finishRun repository ticketId now outcome steps) service
      (fun _ after =>
        HandedOver service after (finaliseCall ticketId outcome steps) ∧
          repository.finalise now (finaliseCall ticketId outcome steps)
              service.store =
            .ok ⟨⟩ after.store ∧
          after.metrics =
            recordRun service.metrics outcome.status outcome.reason steps)
      (fun exc after =>
        HandedOver service after (finaliseCall ticketId outcome steps) ∧
          repository.finalise now (finaliseCall ticketId outcome steps)
              service.store =
            .error exc after.store ∧
          after.metrics = service.metrics) := by
  let called : Service ρ :=
    { service with
      finalised :=
        service.finalised ++ [finaliseCall ticketId outcome steps] }
  simp only [finishRun]
  apply ends_bind _ (ends_modify (fun _ after => after = called) rfl)
  rintro - - rfl
  apply ends_bind (fun _ after =>
    HandedOver service after (finaliseCall ticketId outcome steps) ∧
      repository.finalise now (finaliseCall ticketId outcome steps)
          service.store =
        .ok ⟨⟩ after.store ∧
      after.metrics = service.metrics)
  · apply onStore_ends
    rw [ends_iff]
    exact ⟨fun _ _ written => ⟨rfl, written, rfl⟩,
      fun _ _ failed => ⟨rfl, failed, rfl⟩⟩
  · rintro - after ⟨handed, written, uncounted⟩
    apply ends_modify
    exact ⟨handed, written, by rw [uncounted]⟩

end

/-! ## The database under a failing write -/

section

variable (py : PyText) (pydantic : Pydantic) (time : TimeText)

/--
The repository with a write that may fail anywhere, for any reason; it still
is a transaction.
-/
def attempting
    (attempt : DateTime → FinaliseCall → EStateM Exc Database Unit) :
    TicketRepository Database :=
  { sqliteRepository py pydantic time with
    finalise := fun now call => transaction (attempt now call) }

theorem transaction_ok
    {α : Type} {body : EStateM Exc Database α} {database after : Database}
    {value : α} (ran : transaction body database = .ok value after) :
    body database = .ok value after := by
  unfold transaction at ran
  split at ran
  · rename_i body
    rw [body, ran]
  · simp at ran

theorem transaction_error
    {α : Type} {body : EStateM Exc Database α} {database after : Database}
    {exc : Exc} (failed : transaction body database = .error exc after) :
    after = database ∧
      ∃ partway, body database = .error exc partway := by
  unfold transaction at failed
  split at failed
  · simp at failed
  · rename_i partway body
    cases failed
    exact ⟨rfl, partway, body⟩

/-- What `get` found is what the database reads as, under an id that binds. -/
theorem sqlite_get_found
    {database : Database} {ticketId : String} {found : Option Ticket}
    (got : (sqliteRepository py pydantic time).get ticketId database =
      .ok found database) :
    py.encodes ticketId = true ∧
      getTicket py pydantic time database ticketId = .ok found := by
  cases bound : py.encodes ticketId with
  | false =>
      rw [sqlite_get_unbound py pydantic time database bound] at got
      simp at got
  | true =>
      rw [sqlite_get py pydantic time bound] at got
      cases read : getTicket py pydantic time database ticketId with
      | error exc => simp [read] at got
      | ok ticket =>
          rw [read] at got
          cases got
          exact ⟨rfl, rfl⟩

/-- A row rewritten by a sound call reads as a terminal ticket. -/
theorem reads_terminal
    {database : Database} {ticketId : String} {ticket : Ticket}
    (found : getTicket py pydantic time database ticketId =
      .ok (some ticket))
    {now : Reading} {call : FinaliseCall} {after : Database}
    (sound : SoundCall ticketId call)
    (written : finalise py time now call database = .ok ⟨⟩ after) :
    ∃ later, getTicket py pydantic time after ticketId = .ok (some later) ∧
      later.status = call.status := by
  cases sound.ticketId
  rcases (getTicket_some_iff py pydantic time).mp found with
    ⟨row, isRow, read⟩
  rcases returned_of_ok (finalise_ends py time now call database) written
    with ⟨rows, rowsWritten, rfl, -, -⟩
  have owned := (rows_columns py time rowsWritten).1
  refine ⟨{ closed ticket now call sound.agrees with
      trace := (Storage.Memory.sortedTrace call.trace).map (storedStep time) },
    ?_, rfl⟩
  rw [getTicket_some_iff, entry_rewritten isRow _ owned]
  refine ⟨_, rfl, ?_⟩
  rw [ticketOfRow_iff]
  exact readsAs_rewritten ((ticketOfRow_iff py pydantic time).mp read) now
    sound.agrees (trace_written py time rowsWritten)

/-! ## Every run -/

/-- The run wrote its ticket, which reads as terminal. -/
structure Settles (ticketId : String) (before after : Service Database) :
    Prop where
  handed : ∃ call, HandedOver before after call ∧ SoundCall ticketId call
  terminal : ∃ ticket,
    getTicket py pydantic time after.store ticketId = .ok (some ticket) ∧
      ticket.status ≠ .processing

/-- The write failed, and nothing shows of the run. -/
structure Fails (ticketId : String) (before after : Service Database) :
    Prop where
  handed : ∃ call, HandedOver before after call ∧ SoundCall ticketId call
  waits : ∃ ticket,
    getTicket py pydantic time after.store ticketId = .ok (some ticket) ∧
      ticket.Processing
  uncounted : after.metrics = before.metrics

variable {wiring : Wiring}

/-- A run whose write may fail hands its call over once. -/
theorem attempting_ends
    (templates : DefaultTemplates py wiring)
    (printable : PrintableWiring wiring)
    (storeClock : List Event → Reading) {service : Service Database}
    {ticketId : String} {ticket : Ticket}
    (found : (sqliteRepository py pydantic time).get ticketId service.store =
      .ok (some ticket) service.store)
    (processing : ticket.Processing)
    (attempt : DateTime → FinaliseCall → EStateM Exc Database Unit) :
    Ends
      (runPipeline (attempting py pydantic time attempt) wiring storeClock
        ticketId)
      service
      (fun _ after => ∃ (now : Reading) (call : FinaliseCall),
        HandedOver service after call ∧ SoundCall ticketId call ∧
          attempt now call service.store = .ok ⟨⟩ after.store)
      (fun exc after => Fails py pydantic time ticketId service after ∧
        ∃ (now : Reading) (call : FinaliseCall),
          HandedOver service after call ∧
            ∃ store, attempt now call service.store = .error exc store) := by
  have read := (sqlite_get_found py pydantic time found).2
  simp only [runPipeline]
  apply ends_bind _ (ends_mono (beginRun_concludes
    (attempting py pydantic time attempt) templates printable found)
    (fun _ _ => id)
    fun _ _ impossible => impossible.elim)
  rintro ⟨outcome, steps⟩ - ⟨sound, events, rfl⟩
  apply ends_get_bind
  apply ends_mono (finishRun_tries_once (attempting py pydantic time attempt)
    ticketId _ outcome steps _)
  · rintro - after ⟨handed, written, -⟩
    exact ⟨_, _, handed, sound, transaction_ok written⟩
  · rintro exc after ⟨handed, failed, uncounted⟩
    rcases transaction_error failed with ⟨kept, partway, tried⟩
    have kept : after.store = service.store := kept
    exact
      ⟨{ handed := ⟨_, handed, sound⟩
         waits := ⟨ticket, kept ▸ read, processing⟩
         uncounted },
        _, _, handed, partway, tried⟩

/-- What is handed over as the reply is what the run earned. -/
theorem reply_iff_earned
    {ticketId : String} {ticket : Ticket} {before after : Service Database}
    {account : Account} {events : List Event}
    (run : RunOf wiring ticketId ticket before after account events)
    {call : FinaliseCall} (handed : HandedOver before after call)
    {reply : String} :
    call.reply = some reply ↔ Earned wiring.py events reply := by
  have earned := (repliesAsEarned_of_run run).replied_iff reply
  constructor
  · intro hasReply
    refine earned.mp ⟨call, handed, ?_, hasReply⟩
    cases concluded : account.outcome wiring.maxIterations with
    | error exc =>
        rw [HandedOver, run.withheld exc concluded] at handed
        simp at handed
    | ok outcome =>
        rcases run.handed outcome concluded with ⟨only, handedOnly, callOf⟩
        cases HandedOver.unique handedOnly handed
        rcases outcome_cases concluded with
          ⟨passed, -, rfl⟩ | ⟨-, reason, detail, rfl⟩
        · exact callOf.status
        · simp [callOf.reply, handedOff] at hasReply
  · intro isEarned
    rcases earned.mpr isEarned with ⟨other, handedOther, -, hasReply⟩
    cases HandedOver.unique handed handedOther
    exact hasReply

/-- The call can be carried out exactly when what the run was given can be
written. -/
theorem acceptable_iff
    (templates : DefaultTemplates py wiring) (json : JsonArgs wiring)
    {ticketId : String} {ticket : Ticket} {before after : Service Database}
    (found : (sqliteRepository py pydantic time).get ticketId before.store =
      .ok (some ticket) before.store)
    {account : Account} {events : List Event}
    (run : RunOf wiring ticketId ticket before after account events)
    (small : Small events)
    {call : FinaliseCall} (handed : HandedOver before after call)
    (sound : SoundCall ticketId call) :
    Acceptable py before.store call ↔ Writable py events := by
  rcases sqlite_get_found py pydantic time found with ⟨bound, read⟩
  have replies := @reply_iff_earned wiring ticketId ticket before after
    account events run call handed
  have written : (∀ step ∈ call.trace, Serialisable py step) ↔
      ∀ made ∈ decidedCalls events, IsCompact py made.args := by
    cases concluded : account.outcome wiring.maxIterations with
    | error exc =>
        rw [HandedOver, run.withheld exc concluded] at handed
        simp at handed
    | ok outcome =>
        rcases run.handed outcome concluded with ⟨only, handedOnly, callOf⟩
        cases HandedOver.unique handedOnly handed
        rw [← templates.1]
        exact trace_writes_iff json run.holds run.exchanges small
          callOf.trace
  have steps : call.trace.length < 2 ^ 63 := by
    cases concluded : account.outcome wiring.maxIterations with
    | error exc =>
        rw [HandedOver, run.withheld exc concluded] at handed
        simp at handed
    | ok outcome =>
        rcases run.handed outcome concluded with ⟨only, handedOnly, callOf⟩
        cases HandedOver.unique handedOnly handed
        rw [← callOf.trace.hook]
        exact small.steps
  rw [templates.1] at replies
  constructor
  · intro acceptable
    refine ⟨written.mp acceptable.serialisable, ?_⟩
    intro reply earned
    refine acceptable.bound reply (List.mem_append_left _ ?_)
    rw [replies.mpr earned, Option.toList_some]
    exact List.mem_singleton_self reply
  · intro writable
    rcases (getTicket_some_iff py pydantic time).mp read with
      ⟨row, isRow, -⟩
    refine
      { bound := ?_
        known := ⟨row, List.mem_of_find?_eq_some isRow, ?_⟩
        accepted := sound.accepted
        serialisable := written.mpr writable.args
        numbered := ⟨sound.distinct, ?_⟩ }
    · intro text member
      rcases List.mem_append.mp member with isReply | isId
      · exact writable.reply text
          (replies.mp (Option.mem_toList.mp isReply))
      · rw [List.mem_singleton.mp isId, sound.ticketId, bound]
    · rw [sound.ticketId]
      simpa using List.find?_some isRow
    · intro step member
      have counted := sound.counted step member
      omega

/-- What the run left behind, however it ended. -/
theorem sqlite_ends
    (templates : DefaultTemplates py wiring)
    (printable : PrintableWiring wiring)
    (storeClock : List Event → Reading) {service : Service Database}
    {ticketId : String} {ticket : Ticket}
    (found : (sqliteRepository py pydantic time).get ticketId service.store =
      .ok (some ticket) service.store)
    (processing : ticket.Processing) :
    Ends
      (runPipeline (sqliteRepository py pydantic time) wiring storeClock
        ticketId)
      service
      (fun _ after => Settles py pydantic time ticketId service after ∧
        ∃ call, HandedOver service after call ∧ SoundCall ticketId call ∧
          Acceptable py service.store call)
      (fun _ after => Fails py pydantic time ticketId service after ∧
        ∃ call, HandedOver service after call ∧ SoundCall ticketId call ∧
          ¬ Acceptable py service.store call) := by
  have read := (sqlite_get_found py pydantic time found).2
  simp only [runPipeline]
  apply ends_bind _ (ends_mono (beginRun_concludes
    (sqliteRepository py pydantic time) templates printable found)
    (fun _ _ => id) fun _ _ impossible => impossible.elim)
  rintro ⟨outcome, steps⟩ - ⟨sound, events, rfl⟩
  apply ends_get_bind
  apply ends_mono (finishRun_tries_once (sqliteRepository py pydantic time)
    ticketId _ outcome steps _)
  · rintro - after ⟨handed, written, -⟩
    rcases reads_terminal py pydantic time read sound written with
      ⟨later, readLater, status⟩
    exact
      ⟨{ handed := ⟨_, handed, sound⟩
         terminal := ⟨later, readLater, by
           rw [status]
           exact sound.terminal⟩ },
        _, handed, sound,
        (returned_of_ok (finalise_accepts py time _ _ _) written).1⟩
  · rintro exc after ⟨handed, failed, uncounted⟩
    rcases raised_of_error (finalise_accepts py time _ _ _) failed
      with ⟨refused, kept⟩
    have kept : after.store = service.store := kept
    exact
      ⟨{ handed := ⟨_, handed, sound⟩
         waits := ⟨ticket, kept ▸ read, processing⟩
         uncounted },
        _, handed, sound, refused⟩

theorem not_settles_of_fails
    {ticketId : String} {before after : Service Database}
    (fails : Fails py pydantic time ticketId before after) :
    ¬ Settles py pydantic time ticketId before after := by
  intro settles
  rcases fails.waits with ⟨waiting, read, processing⟩
  rcases settles.terminal with ⟨terminal, readTerminal, notProcessing⟩
  rw [read] at readTerminal
  cases readTerminal
  exact notProcessing processing

/--
The run of a waiting ticket settles it exactly when what it was given can be
written.
-/
theorem settles_iff
    (templates : DefaultTemplates py wiring)
    (printable : PrintableWiring wiring) (json : JsonArgs wiring)
    (storeClock : List Event → Reading) {service : Service Database}
    {ticketId : String} {ticket : Ticket}
    (found : (sqliteRepository py pydantic time).get ticketId service.store =
      .ok (some ticket) service.store)
    (processing : ticket.Processing) :
    let after := finalState
      (runPipeline (sqliteRepository py pydantic time) wiring storeClock
        ticketId) service
    ∃ events, after.events = service.events ++ events ∧
      (Small events →
        (Settles py pydantic time ticketId service after ↔
          Writable py events)) := by
  have leaves := sqlite_ends py pydantic time templates printable storeClock
    found processing
  have runs := runPipeline_ends (sqliteRepository py pydantic time) wiring
    storeClock found
  intro after
  cases ran : runPipeline (sqliteRepository py pydantic time) wiring
      storeClock ticketId service with
  | ok value final =>
      have isFinal : after = final := by simp [after, finalState, ran]
      rcases returned_of_ok runs ran with ⟨account, events, run⟩
      rcases returned_of_ok leaves ran with
        ⟨settles, call, handed, sound, acceptable⟩
      rw [isFinal]
      refine ⟨events, run.eventsAdded, fun small => ?_⟩
      exact iff_of_true settles ((acceptable_iff py pydantic time templates
        json found run small handed sound).mp acceptable)
  | error exc final =>
      have isFinal : after = final := by simp [after, finalState, ran]
      rcases raised_of_error runs ran with ⟨account, events, run⟩
      rcases raised_of_error leaves ran with
        ⟨fails, call, handed, sound, refused⟩
      rw [isFinal]
      refine ⟨events, run.eventsAdded, fun small => ?_⟩
      exact iff_of_false (not_settles_of_fails py pydantic time fails)
        fun writable => refused ((acceptable_iff py pydantic time templates
          json found run small handed sound).mpr writable)

theorem unknown_ends
    (storeClock : List Event → Reading) {service : Service Database}
    {ticketId : String}
    (missing : (sqliteRepository py pydantic time).get ticketId
      service.store = .ok none service.store) :
    runPipeline (sqliteRepository py pydantic time) wiring storeClock ticketId
        service =
      .error (noTicket wiring.py ticketId) service := by
  simp only [runPipeline, beginRun, onStore, bind, EStateM.bind, missing]
  rfl

theorem unbound_ends
    (storeClock : List Event → Reading) (service : Service Database)
    {ticketId : String} (unbound : py.encodes ticketId = false) :
    runPipeline (sqliteRepository py pydantic time) wiring storeClock ticketId
        service =
      .error (unicodeEncodeError py) service := by
  have raised := sqlite_get_unbound py pydantic time service.store unbound
  simp only [runPipeline, beginRun, onStore, bind, EStateM.bind, raised]

/--
A run of a waiting ticket settles it with one call exactly when what it was
given can be written.  When the write fails, for this or any other reason, the
exception goes on, the ticket still waits and nothing is counted.  A run of an
id that is not in use raises and does nothing.
-/
theorem run_settles_iff
    (templates : DefaultTemplates py wiring)
    (printable : PrintableWiring wiring) (json : JsonArgs wiring)
    (storeClock : List Event → Reading) (service : Service Database)
    (ticketId : String) :
    (∀ ticket,
        (sqliteRepository py pydantic time).get ticketId service.store =
            .ok (some ticket) service.store →
          ticket.Processing →
            (let after := finalState
              (runPipeline (sqliteRepository py pydantic time) wiring
                storeClock ticketId) service
            ∃ events, after.events = service.events ++ events ∧
              (Small events →
                (Settles py pydantic time ticketId service after ↔
                  Writable py events))) ∧
            (∀ exc after,
              runPipeline (sqliteRepository py pydantic time) wiring
                  storeClock ticketId service = .error exc after →
                Fails py pydantic time ticketId service after) ∧
            ∀ attempt exc after,
              runPipeline (attempting py pydantic time attempt) wiring
                  storeClock ticketId service = .error exc after →
                Fails py pydantic time ticketId service after ∧
                  ∃ (now : Reading) (call : FinaliseCall),
                    HandedOver service after call ∧
                      ∃ store, attempt now call service.store =
                        .error exc store) ∧
      ((sqliteRepository py pydantic time).get ticketId service.store =
          .ok none service.store →
        runPipeline (sqliteRepository py pydantic time) wiring storeClock
            ticketId service =
          .error (noTicket wiring.py ticketId) service) ∧
      (py.encodes ticketId = false →
        runPipeline (sqliteRepository py pydantic time) wiring storeClock
            ticketId service =
          .error (unicodeEncodeError py) service) := by
  refine ⟨?_, unknown_ends py pydantic time storeClock,
    unbound_ends py pydantic time storeClock service⟩
  intro ticket found processing
  refine ⟨settles_iff py pydantic time templates printable json storeClock
    found processing, ?_, ?_⟩
  · intro exc after failed
    exact (raised_of_error (sqlite_ends py pydantic time templates printable
      storeClock found processing) failed).1
  · intro attempt exc after failed
    exact (ends_iff.mp (attempting_ends py pydantic time templates printable
      storeClock found processing attempt)).2 exc after failed

end

/-! ## The run of a scripted model -/

theorem scripted_jsonArgs
    {intent : Intent} {script : List Step}
    {tools : String → Dict → Except Exc ToolResult}
    (json : ∀ call, .toolCall call ∈ script → AllJson call.args) :
    JsonArgs (wiringOf (scriptedModel intent script) tools) := by
  intro events ticket history call decided
  simp only [wiringOf, scriptedModel] at decided
  split at decided
  · rename_i step found
    cases decided
    exact json call (List.mem_of_getElem? found)
  · simp at decided

theorem paidAccount_printable (script : List Step) :
    PrintableWiring
      (wiringOf (scriptedModel .billingQuestion script) paidAccount) := by
  apply scripted_printable
  intro tool args exc raised
  unfold paidAccount at raised
  split at raised <;> simp at raised

theorem wiringOf_templates (llm : LLMClient)
    (tools : String → Dict → Except Exc ToolResult) :
    DefaultTemplates asciiText (wiringOf llm tools) :=
  ⟨rfl, fun _ _ => rfl⟩

/-- The run of this model, over an account with one paid invoice. -/
def ranOver (llm : LLMClient) : Service Database :=
  finalState
    (runPipeline (sqliteRepository asciiText plainPydantic tallyTime)
      (wiringOf llm paidAccount) standingClock "t1")
    (serviceOf waitingDatabase)

/-- The scripted run settles the waiting ticket; no other id is in use. -/
theorem billing_run_settles :
    Settles asciiText plainPydantic tallyTime "t1"
        (serviceOf waitingDatabase) (ranOver billingModel) ∧
      runPipeline (sqliteRepository asciiText plainPydantic tallyTime)
          (wiringOf billingModel paidAccount) standingClock "t2"
          (serviceOf waitingDatabase) =
        .error (noTicket asciiText "t2") (serviceOf waitingDatabase) := by
  have json : JsonArgs (wiringOf billingModel paidAccount) := by
    apply scripted_jsonArgs
    intro call member
    simp only [List.mem_cons, List.not_mem_nil, or_false, reduceCtorEq,
      Step.toolCall.injEq] at member
    rcases member with rfl | rfl <;> simp [AllJson, Llm.Fake.callFor]
  have settles := run_settles_iff asciiText plainPydantic tallyTime
    (wiringOf_templates _ _) (paidAccount_printable _) json standingClock
    (serviceOf waitingDatabase)
  have given :
      ((loggedSteps (ranOver billingModel).events).length < 2 ^ 63 ∧
        (∀ step ∈ loggedSteps (ranOver billingModel).events,
          ∀ number ∈ counts step.payload, number < 2 ^ 63) ∧
          ∀ observation ∈ observations (ranOver billingModel).events,
            observation.result.records.length < 2 ^ 63) ∧
        ∀ call ∈ decidedCalls (ranOver billingModel).events,
          IsCompact asciiText call.args := by
    decide +kernel
  rcases given with ⟨⟨steps, counted, records⟩, args⟩
  constructor
  · rcases (settles "t1").1 waitingTicket rfl rfl with
      ⟨⟨events, added, settled_iff⟩, -⟩
    have added : (ranOver billingModel).events = events := added
    subst added
    exact (settled_iff ⟨steps, counted, records⟩).mpr
      ⟨args, fun reply _ => encodes_asciiText reply⟩
  · exact (settles "t2").2.1 rfl

/-- A model whose one call has this argument. -/
def callingWith (value : Json) : LLMClient :=
  scriptedModel .billingQuestion
    [.toolCall ⟨"get_user", [("user_id", .json value)]⟩,
      .reply .billingAllPaid]

/-- The run meets every condition, calls once, and its ticket still waits. -/
def Strands (value : Json) : Prop :=
  PrintableWiring (wiringOf (callingWith value) paidAccount) ∧
    JsonArgs (wiringOf (callingWith value) paidAccount) ∧
      (sqliteRepository asciiText plainPydantic tallyTime).get "t1"
          waitingDatabase =
        .ok (some waitingTicket) waitingDatabase ∧
        (ranOver (callingWith value)).finalised.length = 1 ∧
          (getTicket asciiText plainPydantic tallyTime
            (ranOver (callingWith value)).store "t1").toOption.map
              (Option.map Ticket.status) =
            some (some .processing)

theorem callingWith_jsonArgs (value : Json) :
    JsonArgs (wiringOf (callingWith value) paidAccount) := by
  apply scripted_jsonArgs
  intro call member
  simp only [List.mem_cons, List.not_mem_nil, or_false, reduceCtorEq,
    Step.toolCall.injEq] at member
  subst member
  simp [AllJson]

/-- An integer of 4301 digits, and lists nested 301 deep. -/
theorem unwritable_call_strands :
    Strands (.int (10 ^ maxStrDigits)) ∧ Strands (nested 301) :=
  ⟨⟨paidAccount_printable _, callingWith_jsonArgs _, rfl,
      by decide +kernel⟩,
    ⟨paidAccount_printable _, callingWith_jsonArgs _, rfl,
      by decide +kernel⟩⟩

end SupportAssistant.Pipeline.SingleWrite
