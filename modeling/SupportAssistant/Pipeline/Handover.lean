import SupportAssistant.Effects.Mapping
import SupportAssistant.Pipeline.RunSpec

/-!
# What a run hands over

`runPipeline` reads its ticket, concludes, and hands one call to `finalise`.
Whether `finalise` then returns or raises, the service holds what the account
of the run determines: the exchanges of the run, and the call.  The one run
that hands nothing over is a run whose last exception cannot be printed.
-/

namespace SupportAssistant.Pipeline.Handover

open SupportAssistant.Effects.Mapping
open SupportAssistant.Enums
open SupportAssistant.Runtime
open SupportAssistant.Effects.Outcomes
open SupportAssistant.Tracing.Models
open SupportAssistant.Tracing.Summarise
open SupportAssistant.Domain
open SupportAssistant.Guardrails.Facts
open SupportAssistant.Guardrails.Grounding
open SupportAssistant.Llm.Templates
open SupportAssistant.Storage.Protocol
open SupportAssistant.Pipeline.Collaborators
open SupportAssistant.Pipeline.Orchestrator
open SupportAssistant.Pipeline.Accounts
open SupportAssistant.Pipeline.RunSpec

/-- These are the steps of a run with these events. -/
structure TraceOf (recorded : List Payload) (events : List Event)
    (trace : List TraceStep) : Prop where
  payloads : trace.map TraceStep.payload = recorded
  numbered : trace.map TraceStep.seq = upFrom 1 trace.length
  clock : clockReadings events = trace.map TraceStep.ts
  hook : loggedSteps events = trace

/-- The call that an outcome is handed over with. -/
structure CallOf (ticketId : String) (account : Account)
    (outcome : Outcome) (events : List Event) (call : FinaliseCall) :
    Prop where
  ticketId : call.ticketId = ticketId
  status : call.status = outcome.status
  reply : call.reply = outcome.reply
  reason : call.handoffReason = outcome.reason
  trace : TraceOf (account.payloads ++ [finalPayload outcome]) events
    call.trace

/-- What a run with this account left in the service. -/
structure RunOf {ρ : Type} (wiring : Wiring) (ticketId : String)
    (ticket : Ticket) (before after : Service ρ) (account : Account)
    (events : List Event) : Prop where
  holds : account.Holds wiring ticket
  eventsAdded : after.events = before.events ++ events
  exchanges : exchangesOf events = account.exchanges
  handed : ∀ outcome, account.outcome wiring.maxIterations = .ok outcome →
    ∃ call, after.finalised = before.finalised ++ [call] ∧
      CallOf ticketId account outcome events call
  withheld : ∀ exc, account.outcome wiring.maxIterations = .error exc →
    after.finalised = before.finalised

/-- The service got one more call of `finalise`. -/
def HandedOver {ρ : Type} (before after : Service ρ)
    (call : FinaliseCall) : Prop :=
  after.finalised = before.finalised ++ [call]

theorem HandedOver.unique
    {ρ : Type} {before after : Service ρ} {call other : FinaliseCall}
    (handed : HandedOver before after call)
    (handedOther : HandedOver before after other) :
    other = call := by
  have same := handedOther.symm.trans handed
  simpa using same

/-! ## The operations of a run on the service -/

section

variable {ρ α : Type}

theorem onStore_ends
    {operation : EStateM Exc ρ α} {service : Service ρ}
    {returned : α → Service ρ → Prop} {raised : Exc → Service ρ → Prop}
    (ends : Ends operation service.store
      (fun value store => returned value { service with store })
      (fun exc store => raised exc { service with store })) :
    Ends (onStore operation) service returned raised := by
  unfold Ends at ends ⊢
  unfold onStore
  cases ran : operation service.store with
  | ok value store =>
      rw [ran] at ends
      exact ends
  | error exc store =>
      rw [ran] at ends
      exact ends

theorem onRun_ends
    {run : RunM α} {service : Service ρ}
    {returned : α × List TraceStep → Service ρ → Prop}
    {raised : Exc → Service ρ → Prop}
    (ends : Ends run (RunState.start service.events)
      (fun value state => returned (value, state.recorder.steps)
        { service with events := state.events })
      (fun exc state => raised exc
        { service with events := state.events })) :
    Ends (onRun run) service returned raised := by
  unfold Ends at ends ⊢
  unfold onRun
  cases ran : run (RunState.start service.events) with
  | ok value state =>
      rw [ran] at ends
      exact ends
  | error exc state =>
      rw [ran] at ends
      exact ends

variable (repository : TicketRepository ρ)

/-- The call reaches `finalise`, whatever `finalise` then does. -/
theorem finishRun_ends
    (ticketId : String) (now : DateTime) (outcome : Outcome)
    (steps : List TraceStep) (service : Service ρ) :
    Ends (finishRun repository ticketId now outcome steps) service
      (fun _ after =>
        after.events = service.events ∧
          after.finalised =
            service.finalised ++ [finaliseCall ticketId outcome steps])
      (fun _ after =>
        after.events = service.events ∧
          after.finalised =
            service.finalised ++
              [finaliseCall ticketId outcome steps]) := by
  let called : Service ρ :=
    { service with
      finalised :=
        service.finalised ++ [finaliseCall ticketId outcome steps] }
  simp only [finishRun]
  apply ends_bind _ (ends_modify (fun _ after => after = called) rfl)
  rintro - after rfl
  apply ends_bind (fun _ after =>
    after.events = service.events ∧ after.finalised = called.finalised)
  · apply onStore_ends
    rw [ends_iff]
    exact ⟨fun _ _ _ => ⟨rfl, rfl⟩, fun _ _ _ => ⟨rfl, rfl⟩⟩
  · rintro - after ⟨sameEvents, handed⟩
    exact ends_modify _ ⟨sameEvents, handed⟩

variable (wiring : Wiring)

theorem traceOf_ran
    {before : List Event} {after : RunState}
    {payloads : List Payload} {exchanges : List Event}
    (ran : Ran (RunState.start before) after payloads exchanges) :
    ∃ events, after.events = before ++ events ∧
      exchangesOf events = exchanges ∧
        TraceOf payloads events after.recorder.steps := by
  obtain ⟨steps, events, added, samePayloads, sameExchanges⟩ := ran
  have recorded : after.recorder.steps = steps := added.stepsAdded
  refine ⟨events, added.eventsAdded, sameExchanges, ?_⟩
  rw [recorded]
  exact
    { payloads := samePayloads
      numbered := added.numbered
      clock := added.clock
      hook := added.hook }

/-- Every run of a stored ticket has an account. -/
theorem runPipeline_ends
    (storeClock : List Event → Reading)
    {ticketId : String} {ticket : Ticket} {service : Service ρ} {store : ρ}
    (found :
      repository.get ticketId service.store = .ok (some ticket) store) :
    Ends (runPipeline repository wiring storeClock ticketId) service
      (fun _ after => ∃ account events,
        RunOf wiring ticketId ticket service after account events)
      (fun _ after => ∃ account events,
        RunOf wiring ticketId ticket service after account events) := by
  simp only [runPipeline, beginRun, bind_assoc]
  apply ends_bind (fun value after =>
    value = some ticket ∧ after = { service with store })
  · apply onStore_ends
    unfold Ends
    rw [found]
    exact ⟨rfl, rfl⟩
  rintro - - ⟨rfl, rfl⟩
  apply ends_bind (fun pair after =>
    ∃ account : Account, account.Holds wiring ticket ∧
      account.outcome wiring.maxIterations = .ok pair.1 ∧
        ∃ events, after.events = service.events ++ events ∧
          exchangesOf events = account.exchanges ∧
            TraceOf (account.payloads ++ [finalPayload pair.1]) events
              pair.2 ∧
              after.finalised = service.finalised)
  · apply onRun_ends
    apply ends_mono (conclude_ends wiring ticket service.events)
    · rintro outcome state ⟨account, holds, concluded, ran⟩
      obtain ⟨events, added, exchanges, trace⟩ := traceOf_ran ran
      exact ⟨account, holds, concluded, events, added, exchanges, trace, rfl⟩
    · rintro exc state ⟨account, holds, failed, ran⟩
      obtain ⟨events, added, exchanges, -⟩ := traceOf_ran ran
      exact ⟨account, events,
        { holds
          eventsAdded := added
          exchanges
          handed := by
            intro outcome concluded
            rw [failed] at concluded
            simp at concluded
          withheld := fun _ _ => rfl }⟩
  rintro ⟨outcome, steps⟩ concluded
    ⟨account, holds, outcomeEq, events, added, exchanges, trace, none⟩
  have handedOver : ∀ after : Service ρ,
      after.events = concluded.events ∧
          after.finalised = concluded.finalised ++
            [finaliseCall ticketId outcome steps] →
        ∃ account events,
          RunOf wiring ticketId ticket service after account events := by
    rintro after ⟨sameEvents, handed⟩
    refine ⟨account, events,
      { holds
        eventsAdded := sameEvents.trans added
        exchanges
        handed := ?_
        withheld := ?_ }⟩
    · intro other otherEq
      obtain rfl := Except.ok.inj (otherEq.symm.trans outcomeEq)
      exact ⟨_, by rw [handed, none],
        { ticketId := rfl
          status := rfl
          reply := rfl
          reason := rfl
          trace }⟩
    · intro exc failed
      rw [outcomeEq] at failed
      simp at failed
  apply ends_get_bind
  exact ends_mono
    (finishRun_ends repository ticketId
      (storeClock concluded.events) outcome steps concluded)
    (fun _ after => handedOver after) (fun _ after => handedOver after)

end

/-! ## The final decision is the last step -/

def Payload.isFinalDecision : Payload → Bool
  | .finalDecision _ _ _ => true
  | _ => false

theorem loopPayloads_notFinal
    (iteration : Int) (rounds : List Round) (ending : Ending) :
    ∀ payload ∈ loopPayloads iteration rounds ending,
      Payload.isFinalDecision payload = false := by
  induction rounds generalizing iteration with
  | nil => cases ending <;> simp [loopPayloads, Ending.payloads,
      Payload.isFinalDecision]
  | cons round rounds induction =>
      intro payload member
      rcases List.mem_append.mp member with first | later
      · simp only [roundPayloads, List.mem_cons, List.not_mem_nil,
          or_false] at first
        rcases first with rfl | rfl | rfl <;> rfl
      · exact induction (iteration + 1) payload later

/-- No step before the last one is a final decision. -/
theorem payloads_notFinal (account : Account) :
    ∀ payload ∈ account.payloads,
      Payload.isFinalDecision payload = false := by
  cases account with
  | classifyRaised exc => simp [Account.payloads]
  | unsupported classification =>
      simp [Account.payloads, classificationPayload,
        Payload.isFinalDecision]
  | looped classification rounds ending =>
      intro payload member
      rcases List.mem_cons.mp member with rfl | member
      · rfl
      · exact loopPayloads_notFinal 1 rounds ending payload member

/-! ## Collaborators whose exceptions can be printed -/

/-- `str` and `repr` succeed on every exception the wiring can raise. -/
structure PrintableWiring (wiring : Wiring) : Prop where
  classifies : ∀ events ticket exc,
    wiring.llm.classifyIntent events ticket = .error exc → exc.Printable
  decides : ∀ events ticket history exc,
    wiring.llm.decideNextStep events ticket history = .error exc →
      exc.Printable
  runs : ∀ events tool args exc,
    wiring.tools events tool args = .error exc → exc.Printable
  resolves : ∀ events name exc,
    wiring.resolveTemplate events name = .error exc → exc.Printable
  selects : ∀ events name template facts exc,
    wiring.resolveTemplate events name = .ok template →
      template.context facts = .error exc → exc.Printable

theorem printable_plain
    (py : PyText) (name : String) (clause : Clause) (message : String) :
    (Exc.plain py name clause message).Printable :=
  ⟨⟨_, rfl⟩, ⟨_, rfl⟩⟩

theorem summariseCollection_printable
    {result : ToolResult} {members : List String}
    {idOf : Record → Except Exc String} {exc : Exc}
    (printable : ∀ record exc, idOf record = .error exc → exc.Printable)
    (failed : summariseCollection result members idOf = .error exc) :
    exc.Printable := by
  unfold summariseCollection at failed
  cases referenced : (result.records.filter fun record =>
      (recordStatus record).isSome).mapM idOf with
  | ok ids => simp [referenced, bind, Except.bind] at failed
  | error other =>
      simp only [referenced, bind, Except.bind, Except.error.injEq] at failed
      obtain ⟨record, -, equal⟩ := mapM_error referenced
      exact printable record exc (by rw [equal, failed])

/-- A result that has no summary raises an exception that can be printed. -/
theorem summarise_printable
    {py : PyText} {result : ToolResult} {exc : Exc}
    (failed : summarise py result = .error exc) :
    exc.Printable := by
  unfold summarise at failed
  split at failed
  · unfold summariseUser at failed
    split at failed
    · obtain rfl := Except.error.inj failed
      exact printable_plain ..
    · simp at failed
    · obtain rfl := Except.error.inj failed
      exact printable_plain ..
  split at failed
  · refine summariseCollection_printable ?_ failed
    intro record exc raised
    cases record with
    | invoice invoice => simp [invoiceIdOf] at raised
    | _ =>
        obtain rfl := Except.error.inj raised
        exact printable_plain ..
  split at failed
  · refine summariseCollection_printable ?_ failed
    intro record exc raised
    cases record with
    | session session => simp [sessionIdOf] at raised
    | _ =>
        obtain rfl := Except.error.inj raised
        exact printable_plain ..
  · obtain rfl := Except.error.inj failed
    exact printable_plain ..

theorem format_printable
    {py : PyText} {body : List Segment} {context : Context} {exc : Exc}
    (failed : format py body context = .error exc) :
    exc.Printable := by
  unfold format at failed
  cases parts : body.mapM (formatSegment py context) with
  | ok texts => simp [parts, bind, Except.bind] at failed
  | error other =>
      simp only [parts, bind, Except.bind, Except.error.injEq] at failed
      obtain ⟨segment, -, equal⟩ := mapM_error parts
      rw [← failed]
      cases segment with
      | text text => simp [formatSegment] at equal
      | field name =>
          simp only [formatSegment] at equal
          split at equal
          · simp at equal
          · obtain rfl := Except.error.inj equal
            exact ⟨⟨_, rfl⟩, ⟨_, rfl⟩⟩

theorem render_printable
    {py : PyText} {template : Template} {facts : FactSet} {exc : Exc}
    (printable : ∀ exc, template.context facts = .error exc → exc.Printable)
    (failed : template.render py facts = .error exc) :
    exc.Printable := by
  unfold Template.render at failed
  cases selected : template.context facts with
  | error other =>
      simp only [selected, bind, Except.bind, Except.error.injEq] at failed
      rw [← failed]
      exact printable other selected
  | ok context =>
      simp only [selected, bind, Except.bind] at failed
      exact format_printable failed

theorem nameOf_printable
    {py : PyText} {facts : FactSet} {exc : Exc}
    (failed : nameOf py facts = .error exc) :
    exc.Printable := by
  unfold nameOf at failed
  split at failed
  · split at failed
    · obtain rfl := Except.error.inj failed
      exact printable_plain ..
    · simp at failed
  · obtain rfl := Except.error.inj failed
    exact printable_plain ..

theorem invoiceWith_printable
    {py : PyText} {status : InvoiceStatus} {facts : FactSet} {exc : Exc}
    (failed : invoiceWith py status facts = .error exc) :
    exc.Printable := by
  unfold invoiceWith firstInvoice at failed
  cases found : facts.invoices.find? (·.status = status) with
  | none =>
      simp only [found, bind, Except.bind, Except.error.injEq] at failed
      rw [← failed]
      exact printable_plain ..
  | some invoice =>
      cases named : nameOf py facts with
      | ok name => simp [found, named, bind, Except.bind] at failed
      | error other =>
          simp only [found, named, bind, Except.bind, Except.error.injEq]
            at failed
          rw [← failed]
          exact nameOf_printable named

theorem latestSession_printable
    {py : PyText} {facts : FactSet} {exc : Exc}
    (failed : latestSession py facts = .error exc) :
    exc.Printable := by
  unfold latestSession at failed
  split at failed
  · obtain rfl := Except.error.inj failed
    exact printable_plain ..
  · cases named : nameOf py facts with
    | ok name => simp [named, bind, Except.bind] at failed
    | error other =>
        simp only [named, bind, Except.bind, Except.error.injEq] at failed
        rw [← failed]
        exact nameOf_printable named

/-- What the default templates raise can be printed. -/
theorem specFor_printable
    {py : PyText} {name : ReplyTemplate} {facts : FactSet} {exc : Exc}
    (failed : (specFor py name).context facts = .error exc) :
    exc.Printable := by
  cases name with
  | billingAllPaid =>
      simp only [specFor, nameOnly] at failed
      cases named : nameOf py facts with
      | ok name => simp [named, bind, Except.bind] at failed
      | error other =>
          simp only [named, bind, Except.bind, Except.error.injEq] at failed
          rw [← failed]
          exact nameOf_printable named
  | billingFailed => exact invoiceWith_printable failed
  | billingPending => exact invoiceWith_printable failed
  | sessionCompleted => exact latestSession_printable failed
  | sessionInterrupted => exact latestSession_printable failed

theorem verify_printable
    {py : PyText} {reply : String} {facts : FactSet}
    {templateSafeLiterals : List String} {exc : Exc}
    (failed : verify py reply facts templateSafeLiterals = .error exc) :
    exc.Printable := by
  unfold verify safeNumbers at failed
  dsimp only at failed
  split at failed
  · simp only [bind, Except.bind, Except.error.injEq] at failed
    rw [← failed]
    exact printable_plain ..
  · simp [bind, Except.bind] at failed

theorem failedClosed_ok
    {exc : Exc} (printable : exc.Printable) (inFlight : Option String) :
    ∃ outcome, failedClosed inFlight exc = .ok outcome := by
  obtain ⟨⟨text, printed⟩, ⟨shown, represented⟩⟩ := printable
  unfold failedClosed
  cases exc.clause <;> simp [printed, represented, Except.map]

/-- What failed a tool call can be printed. -/
theorem toolFailed_printable
    {wiring : Wiring} (printable : PrintableWiring wiring)
    {call : ToolCall} {result : Except Exc ToolResult} {exc : Exc}
    (answered : ToolAnswered wiring call result)
    (failed : ToolFailed wiring.py result exc) :
    exc.Printable := by
  obtain ⟨events, answered⟩ := answered
  rcases failed with rfl | ⟨returned, -, unsummarised⟩
  · exact printable.runs _ _ _ _ answered
  · exact summarise_printable unsummarised

/-- The exception a loop ended with can be printed. -/
theorem looped_concludes
    {wiring : Wiring} {ticket : Ticket}
    (printable : PrintableWiring wiring)
    {history : List Observation} {left : Nat} {rounds : List Round}
    {ending : Ending}
    (looped : Looped wiring ticket history left rounds ending) :
    ∃ outcome, (ending.conclusion wiring.maxIterations).outcome =
      .ok outcome := by
  induction looped with
  | capped => exact ⟨_, rfl⟩
  | modelRaised decided =>
      obtain ⟨events, decided⟩ := decided
      exact failedClosed_ok (printable.decides _ _ _ _ decided) none
  | gaveUp decided => exact ⟨_, rfl⟩
  | toolRaised decided answered failed printed =>
      exact failedClosed_ok
        (toolFailed_printable printable answered failed) _
  | toolUnprintable decided answered failed unprinted =>
      obtain ⟨⟨text, printed⟩, -⟩ :=
        toolFailed_printable printable answered failed
      rw [printed] at unprinted
      simp at unprinted
  | resolveRaised decided resolved =>
      obtain ⟨events, resolved⟩ := resolved
      exact failedClosed_ok (printable.resolves _ _ _ resolved) none
  | renderRaised decided resolved rendered =>
      obtain ⟨events, resolved⟩ := resolved
      exact failedClosed_ok
        (render_printable (printable.selects _ _ _ _ · resolved) rendered)
        none
  | verifyRaised decided resolved rendered verified =>
      exact failedClosed_ok (verify_printable verified) none
  | checked decided resolved rendered verified => exact ⟨_, rfl⟩
  | round decided answered summarised later induction => exact induction

/-- A run whose exceptions can be printed reaches an outcome. -/
theorem concludes_of_printable
    {wiring : Wiring} {ticket : Ticket} {account : Account}
    (printable : PrintableWiring wiring)
    (holds : account.Holds wiring ticket) :
    ∃ outcome, account.outcome wiring.maxIterations = .ok outcome := by
  cases holds with
  | classifyRaised asked =>
      obtain ⟨events, asked⟩ := asked
      exact failedClosed_ok (printable.classifies _ _ _ asked) none
  | unsupported asked unknown => exact ⟨_, rfl⟩
  | looped asked known ran => exact looped_concludes printable ran

end SupportAssistant.Pipeline.Handover
