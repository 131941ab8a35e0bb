import SupportAssistant.Pipeline.Disclosure

/-!
# Every identifier of a reply is accounted for

An identifier that passed the checker is that of a user, an invoice or a
session of the facts.  The facts are the records of the tool calls of the run,
and over the default registry every call that returned left a summary in the
trace that names the invoices or sessions it returned.
-/

namespace SupportAssistant.Pipeline.Traceability

open SupportAssistant.Effects.Mapping
open SupportAssistant.Runtime
open SupportAssistant.Runtime.Ascii
open SupportAssistant.Effects.Outcomes
open SupportAssistant.Tracing.Models
open SupportAssistant.Tracing.Summarise
open SupportAssistant.Domain
open SupportAssistant.Guardrails.Facts
open SupportAssistant.Guardrails.Grounding
open SupportAssistant.Tools.Loaders
open SupportAssistant.Tools.Ownership
open SupportAssistant.Storage.Protocol
open SupportAssistant.Storage.Memory
open SupportAssistant.Pipeline.Collaborators
open SupportAssistant.Pipeline.Orchestrator
open SupportAssistant.Pipeline.Accounts
open SupportAssistant.Pipeline.Handover
open SupportAssistant.Pipeline.Scripted
open SupportAssistant.Pipeline.Replies
open SupportAssistant.Pipeline.DefaultWiring
open SupportAssistant.Pipeline.Disclosure

/-! ## What a summary refers to -/

/-- The summary lists the identifier under `referenced`. -/
def Refers (summary : Dict) (identifier : String) : Prop :=
  ∃ items, ("referenced", AnyValue.json (.list items)) ∈ summary ∧
    .string identifier ∈ items

/-- A collection refers to each of its records with a status. -/
theorem summariseCollection_refers
    {result : ToolResult} {members : List String}
    {idOf : Record → Except Exc String} {summary : Dict}
    (summarised : summariseCollection result members idOf = .ok summary)
    {record : Record} (member : record ∈ result.records)
    (status : (recordStatus record).isSome = true)
    {identifier : String} (isId : idOf record = .ok identifier) :
    Refers summary identifier := by
  unfold summariseCollection at summarised
  cases referenced : (result.records.filter fun record =>
      (recordStatus record).isSome).mapM idOf with
  | error exc => simp [referenced, bind, Except.bind] at summarised
  | ok ids =>
      simp only [referenced, bind, Except.bind, Except.ok.injEq]
        at summarised
      rw [← summarised]
      have listed := mem_mapM referenced
        (List.mem_filter.mpr ⟨member, status⟩) isId
      exact ⟨ids.map .string, by simp, List.mem_map_of_mem listed⟩

section

variable {py : PyText} {pydantic : Pydantic} {fixtures : Fixtures}
variable {userId : String} {result : ToolResult} {summary : Dict}

/-- An invoice that a registered tool returned is in its summary. -/
theorem refers_invoice
    (dispatched :
      @Dispatched py pydantic fixtures userId result.tool result.records)
    (summarised : summarise py result = .ok summary)
    {invoice : Invoice} (member : .invoice invoice ∈ result.records) :
    Refers summary invoice.invoiceId := by
  generalize tool : result.tool = name at dispatched
  generalize same : result.records = records at dispatched
  cases dispatched with
  | user owned => simp [same] at member
  | sessions some owned => simp [same] at member
  | invoices some owned =>
      simp only [summarise, tool] at summarised
      exact summariseCollection_refers summarised member rfl rfl

theorem refers_session
    (dispatched :
      @Dispatched py pydantic fixtures userId result.tool result.records)
    (summarised : summarise py result = .ok summary)
    {session : ChargingSession}
    (member : .session session ∈ result.records) :
    Refers summary session.sessionId := by
  generalize tool : result.tool = name at dispatched
  generalize same : result.records = records at dispatched
  cases dispatched with
  | user owned => simp [same] at member
  | sessions some owned =>
      simp only [summarise, tool] at summarised
      exact summariseCollection_refers summarised member rfl rfl
  | invoices some owned => simp [same] at member

theorem tool_of_user
    (dispatched :
      @Dispatched py pydantic fixtures userId result.tool result.records)
    {user : User} (member : .user user ∈ result.records) :
    result.tool = "get_user" := by
  generalize result.tool = name at dispatched
  generalize same : result.records = records at dispatched
  cases dispatched with
  | user owned => rfl
  | sessions some owned => simp [same] at member
  | invoices some owned => simp [same] at member

end

/-! ## Where an identifier comes from -/

/-- A record that the identifier belongs to. -/
inductive Names (identifier : String) : Record → Prop where
  | user {user : User} (same : user.userId = identifier) :
      Names identifier (.user user)
  | session {session : ChargingSession}
      (same : session.sessionId = identifier) :
      Names identifier (.session session)
  | invoice {invoice : Invoice} (same : invoice.invoiceId = identifier) :
      Names identifier (.invoice invoice)

/-- An allowed identifier belongs to a record of some observation. -/
theorem named_of_allowed
    {history : List Observation} {identifier : String}
    (allowed : identifier ∈
      (FactSet.fromObservations history).allowedIdentifiers) :
    ∃ observation ∈ history, ∃ record ∈ observation.result.records,
      Names identifier record := by
  have named : ∃ record ∈ recordsOf history, Names identifier record := by
    rcases (mem_allowedIdentifiers history identifier).mp allowed with
      isRecord | isUser
    · simp only [recordIds, List.mem_append, List.mem_map,
        List.mem_filterMap] at isRecord
      rcases isRecord with
        ⟨invoice, ⟨record, member, isInvoice⟩, same⟩ |
          ⟨session, ⟨record, member, isSession⟩, same⟩
      · cases record <;> simp [Record.invoice?] at isInvoice
        cases isInvoice
        exact ⟨_, member, .invoice same⟩
      · cases record <;> simp [Record.session?] at isSession
        cases isSession
        exact ⟨_, member, .session same⟩
    · rcases Option.map_eq_some_iff.mp isUser.1 with ⟨user, isLast, same⟩
      rcases List.mem_filterMap.mp (List.mem_of_getLast? isLast) with
        ⟨record, member, isUserRecord⟩
      cases record <;> simp [Record.user?] at isUserRecord
      cases isUserRecord
      exact ⟨_, member, .user same⟩
  rcases named with ⟨record, member, names⟩
  rcases List.mem_flatMap.mp member with ⟨observation, inHistory, isRecord⟩
  exact ⟨observation, inHistory, record, isRecord, names⟩

/-- The run accounts for the identifier. -/
inductive Traced (events : List Event) (trace : List TraceStep)
    (identifier : String) : Prop where
  | user {observation : Observation} {user : User}
      (observed : observation ∈ observations events)
      (tool : observation.step.tool = "get_user")
      (returned : .user user ∈ observation.result.records)
      (same : user.userId = identifier) :
      Traced events trace identifier
  | referenced {step : TraceStep} {tool : String} {summary : Dict}
      (recorded : step ∈ trace)
      (ok : step.payload = .toolResult tool true (some summary) none)
      (refers : Refers summary identifier) :
      Traced events trace identifier

/-- Every round was summarised, and left its summary in the trace. -/
theorem summarised_of_round
    {wiring : Wiring} {ticket : Ticket} {history : List Observation}
    {left : Nat} {rounds : List Round} {ending : Ending}
    (looped : Looped wiring ticket history left rounds ending)
    (iteration : Int) :
    ∀ round ∈ rounds,
      summarise wiring.py round.result = .ok round.summary ∧
        .toolResult round.call.tool true (some round.summary) none ∈
          loopPayloads iteration rounds ending := by
  induction looped generalizing iteration with
  | round decided answered summarised later induction =>
      intro round member
      rw [loopPayloads, List.mem_append]
      rcases List.mem_cons.mp member with rfl | member
      · exact ⟨summarised, Or.inl (by simp [roundPayloads])⟩
      · rcases induction (iteration + 1) round member with
          ⟨isSummary, recorded⟩
        exact ⟨isSummary, Or.inr recorded⟩
  | _ => simp

/-- An identifier among the facts of a run is accounted for by the run. -/
theorem traced_of_allowed
    {wiring : Wiring} {fixtures : List Event → Fixtures}
    (registry : OverRegistry fixtures wiring)
    {ticket : Ticket} {left : Nat} {rounds : List Round} {ending : Ending}
    (looped : Looped wiring ticket [] left rounds ending)
    {events : List Event} {trace : List TraceStep}
    (observed : rounds.map Round.observation ⊆ observations events)
    (recorded : loopPayloads 1 rounds ending ⊆
      trace.map TraceStep.payload)
    {identifier : String}
    (allowed : identifier ∈ (FactSet.fromObservations
      (rounds.map Round.observation)).allowedIdentifiers) :
    Traced events trace identifier := by
  rcases named_of_allowed allowed with
    ⟨observation, inRounds, record, isRecord, names⟩
  rcases List.mem_map.mp inRounds with ⟨round, isRound, rfl⟩
  rcases answered_of_round looped round isRound with ⟨before, answered⟩
  rw [registry] at answered
  rcases run_ok answered with ⟨userId, -, tool, dispatched⟩
  rw [← tool] at dispatched
  rcases summarised_of_round looped 1 round isRound with
    ⟨summarised, payload⟩
  rcases List.mem_map.mp (recorded payload) with ⟨step, inTrace, isPayload⟩
  cases names with
  | user same =>
      exact .user (observed inRounds)
        (tool.symm.trans (tool_of_user dispatched isRecord)) isRecord same
  | session same =>
      exact .referenced inTrace isPayload
        (same ▸ refers_session dispatched summarised isRecord)
  | invoice same =>
      exact .referenced inTrace isPayload
        (same ▸ refers_invoice dispatched summarised isRecord)

section

variable {ρ : Type} (repository : TicketRepository ρ) (wiring : Wiring)
variable (storeClock : List Event → Reading)

/--
Over the registry, every identifier that the checker extracts from a sent
reply is the id of a user the run was given, or is referred to by the summary
of a successful call in the trace that is handed over.
-/
theorem runPipeline_identifiers_traced
    {fixtures : List Event → Fixtures}
    (registry : OverRegistry fixtures wiring)
    {ticketId : String} {ticket : Ticket} {service : Service ρ} {store : ρ}
    (found :
      repository.get ticketId service.store = .ok (some ticket) store) :
    let after :=
      finalState (runPipeline repository wiring storeClock ticketId) service
    ∃ events,
      after.events = service.events ++ events ∧
        ∀ call, HandedOver service after call → call.status = .replied →
          ∃ reply, call.reply = some reply ∧
            ∀ literal ∈ extract wiring.py reply (factsOf events),
              literal.kind = .identifier →
                Traced events call.trace literal.text := by
  rcases ends_finalState
    (runPipeline_ends repository wiring storeClock found) with
    ⟨account, events, run⟩
  refine ⟨events, run.eventsAdded, ?_⟩
  intro call handed isReplied
  rcases passed_of_replied run handed isReplied with ⟨reply, hasReply, passed⟩
  refine ⟨reply, hasReply, ?_⟩
  intro literal extracted kind
  rcases passed with ⟨classification, rounds, name, template, literals, rfl⟩
  rcases run.handed (replied reply) rfl with ⟨only, handedOnly, callOf⟩
  cases HandedOver.unique handedOnly handed
  have observed : observations events = rounds.map Round.observation := by
    rw [observations_looped run.exchanges]
    exact List.append_nil _
  have recorded : loopPayloads 1 rounds
      (.checked name template reply ⟨literals, []⟩) ⊆
        call.trace.map TraceStep.payload := by
    rw [callOf.trace.payloads, Account.payloads]
    intro payload member
    simp [member]
  have holds := run.holds
  cases holds with
  | looped asked known ran =>
      rcases looped_ending ran with ⟨rest, -, ended⟩
      cases ended with
      | checked decided resolved rendered verified =>
          rcases verify_ok verified with ⟨safe, -, -, sourced⟩
          rw [factsOf, observed] at extracted
          have isGrounded := sourced.mp rfl literal extracted
          simp only [grounded, kind, List.contains_iff_mem] at isGrounded
          exact traced_of_allowed registry ran
            (by rw [observed]; exact List.Subset.refl _) recorded isGrounded

end

theorem sample_identifiers_traced :
    ∃ events,
      (sampleRun (fakeLlm asciiText) "42.10").events =
          waitingService.events ++ events ∧
        ∀ call,
          HandedOver waitingService
              (sampleRun (fakeLlm asciiText) "42.10") call →
            call.status = .replied →
              ∃ reply, call.reply = some reply ∧
                ∀ literal ∈ extract asciiText reply (factsOf events),
                  literal.kind = .identifier →
                    Traced events call.trace literal.text :=
  runPipeline_identifiers_traced (memoryRepository asciiText plainPydantic)
    (sampleWiring (fakeLlm asciiText) "42.10") standingClock
    (sampleWiring_overRegistry (fakeLlm asciiText) "42.10") billing_found

end SupportAssistant.Pipeline.Traceability
