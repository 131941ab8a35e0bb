import SupportAssistant.Guardrails.Masking
import SupportAssistant.Llm.Filled
import SupportAssistant.Pipeline.FakeRun

/-!
# Sourced and true

The checker asks that the words of a reply are sourced, not that the reply is
true.  What is true whatever the model does is what the selection of the
fields makes true: the record that is cited.  That the template fits the
statuses is the work of the deterministic model.
-/

namespace SupportAssistant.Pipeline.Truth

open SupportAssistant.Enums
open SupportAssistant.Runtime
open SupportAssistant.Runtime.Ascii
open SupportAssistant.Effects.Outcomes
open SupportAssistant.Domain
open SupportAssistant.Guardrails.Facts
open SupportAssistant.Guardrails.Grounding
open SupportAssistant.Guardrails.Masking
open SupportAssistant.Llm.Templates
open SupportAssistant.Llm.Filled
open SupportAssistant.Tools.Loaders
open SupportAssistant.Storage.Protocol
open SupportAssistant.Storage.Memory
open SupportAssistant.Pipeline.Collaborators
open SupportAssistant.Pipeline.Orchestrator
open SupportAssistant.Pipeline.Accounts
open SupportAssistant.Pipeline.RunSpec
open SupportAssistant.Pipeline.Handover
open SupportAssistant.Pipeline.Scripted
open SupportAssistant.Pipeline.Replies
open SupportAssistant.Pipeline.DefaultWiring
open SupportAssistant.Pipeline.FakeRun

/-! ## What a reply asserts -/

section

variable (py : PyText) (facts : FactSet) (reply : String)

/-- The reply cites an invoice of the facts that has the status. -/
def CitesInvoice (name : ReplyTemplate) (status : InvoiceStatus) : Prop :=
  ∃ user, ∃ invoice ∈ facts.invoices, invoice.status = status ∧
    format py (specFor py name).body (invoiceContext user invoice) =
      .ok reply

/-- The reply cites the first session of the facts. -/
def CitesSession (name : ReplyTemplate) (statuses : List SessionStatus) :
    Prop :=
  ∃ user session, facts.sessions.head? = some session ∧
    session.status ∈ statuses ∧
      format py (specFor py name).body (sessionContext user session) =
        .ok reply

/-- What the template asserts is true of the facts. -/
def Truthful : ReplyTemplate → Prop
  | .billingAllPaid => ∀ invoice ∈ facts.invoices, invoice.status = .paid
  | .billingFailed => CitesInvoice py facts reply .billingFailed .failed
  | .billingPending => CitesInvoice py facts reply .billingPending .pending
  | .sessionCompleted =>
      CitesSession py facts reply .sessionCompleted [.completed]
  | .sessionInterrupted =>
      CitesSession py facts reply .sessionInterrupted [.interrupted, .failed]

/-- The reply cites a record of the facts, as the record is. -/
def Cites : ReplyTemplate → Prop
  | .billingAllPaid => True
  | .billingFailed => CitesInvoice py facts reply .billingFailed .failed
  | .billingPending => CitesInvoice py facts reply .billingPending .pending
  | .sessionCompleted =>
      CitesSession py facts reply .sessionCompleted SessionStatus.members
  | .sessionInterrupted =>
      CitesSession py facts reply .sessionInterrupted SessionStatus.members

/-- Every status word that the checker reads is the status of a record. -/
def StatusesSourced : Prop :=
  ∀ status ∈
      statusesOf py (without py facts.allowedEntities (blanked py reply)),
    StatusSourced py facts status.word

end

/-! ## The record that is cited -/

section

variable {py : PyText} {facts : FactSet} {reply : String}

theorem citesInvoice_of_render
    {name : ReplyTemplate} {status : InvoiceStatus}
    (selects : (specFor py name).context = invoiceWith py status)
    (rendered : (specFor py name).render py facts = .ok reply) :
    CitesInvoice py facts reply name status := by
  rcases render_ok rendered with ⟨context, selected, formatted⟩
  rw [selects] at selected
  rcases invoiceWith_ok selected with ⟨user, invoice, -, found, rfl⟩
  exact ⟨user, invoice, List.mem_of_find?_eq_some found,
    by simpa using List.find?_some found, formatted⟩

theorem citesSession_of_render
    {name : ReplyTemplate} {statuses : List SessionStatus}
    (selects : (specFor py name).context = latestSession py)
    (among : ∀ session, facts.sessions.head? = some session →
      session.status ∈ statuses)
    (rendered : (specFor py name).render py facts = .ok reply) :
    CitesSession py facts reply name statuses := by
  rcases render_ok rendered with ⟨context, selected, formatted⟩
  rw [selects] at selected
  rcases latestSession_ok selected with ⟨user, session, -, first, rfl⟩
  exact ⟨user, session, first, among session first, formatted⟩

theorem cites_of_render
    {name : ReplyTemplate}
    (rendered : (specFor py name).render py facts = .ok reply) :
    Cites py facts reply name := by
  cases name with
  | billingAllPaid => trivial
  | billingFailed => exact citesInvoice_of_render rfl rendered
  | billingPending => exact citesInvoice_of_render rfl rendered
  | sessionCompleted =>
      exact citesSession_of_render rfl
        (fun session _ => SessionStatus.mem_members session.status) rendered
  | sessionInterrupted =>
      exact citesSession_of_render rfl
        (fun session _ => SessionStatus.mem_members session.status) rendered

theorem statusesSourced_of_verified
    {templateSafeLiterals : List String} {result : GroundingResult}
    (verified : verify py reply facts templateSafeLiterals = .ok result)
    (clean : result.violations = []) :
    StatusesSourced py facts reply := by
  rcases verify_ok verified with ⟨safe, -, -, sourced⟩
  have all := (forall_extract_iff py fun _ => Iff.rfl).mp
    (sourced.mp clean)
  intro status found
  exact List.contains_iff_mem.mp (all.2.2 status found)

/-! ## The template that fits -/

theorem status_of_billingTemplate (invoices : List Invoice) :
    billingTemplate invoices = .billingAllPaid →
      ∀ invoice ∈ invoices, invoice.status = .paid := by
  intro isAllPaid invoice member
  unfold billingTemplate at isAllPaid
  split at isAllPaid
  · simp at isAllPaid
  · rename_i noneFailed
    split at isAllPaid
    · simp at isAllPaid
    · rename_i nonePending
      have notFailed : ¬ (invoice.status == .failed) = true := fun failed =>
        noneFailed (List.any_eq_true.mpr ⟨invoice, member, failed⟩)
      have notPending : ¬ (invoice.status == .pending) = true :=
        fun pending =>
          nonePending (List.any_eq_true.mpr ⟨invoice, member, pending⟩)
      cases status : invoice.status with
      | paid => rfl
      | pending => simp [status] at notPending
      | failed => simp [status] at notFailed

/-- From the facts of the deterministic model, the template is true. -/
theorem truthful_of_ownFacts
    {name : ReplyTemplate} (own : OwnFacts facts name)
    (rendered : (specFor py name).render py facts = .ok reply) :
    Truthful py facts reply name := by
  cases own with
  | @billing user invoices some =>
      generalize isName : billingTemplate invoices = name at rendered ⊢
      cases name with
      | billingAllPaid =>
          intro fact member
          rcases List.mem_map.mp member with ⟨invoice, isInvoice, rfl⟩
          exact status_of_billingTemplate invoices isName invoice isInvoice
      | billingFailed => exact citesInvoice_of_render rfl rendered
      | billingPending => exact citesInvoice_of_render rfl rendered
      | sessionCompleted =>
          unfold billingTemplate at isName
          split at isName
          · simp at isName
          · split at isName <;> simp at isName
      | sessionInterrupted =>
          unfold billingTemplate at isName
          split at isName
          · simp at isName
          · split at isName <;> simp at isName
  | charging user latest earlier =>
      have first : ∀ session,
          ((latest :: earlier).map sessionFact).head? = some session →
            session.status = latest.status := by
        rintro session ⟨⟩
        rfl
      by_cases completed : latest.status = .completed
      · have isName : sessionTemplate latest = .sessionCompleted :=
          if_pos completed
        rw [isName] at rendered ⊢
        apply citesSession_of_render rfl _ rendered
        intro session isFirst
        rw [first session isFirst, completed]
        exact List.mem_cons_self
      · have isName : sessionTemplate latest = .sessionInterrupted :=
          if_neg completed
        rw [isName] at rendered ⊢
        apply citesSession_of_render rfl _ rendered
        intro session isFirst
        rw [first session isFirst]
        cases status : latest.status with
        | completed => exact absurd status completed
        | interrupted => simp
        | failed => simp

/-! ## Every run over the registry -/

/-- What a sent reply is, of the facts it was rendered from. -/
structure Sent (wiring : Wiring) (events : List Event) (reply : String)
    (name : ReplyTemplate) : Prop where
  decided : (decisions events).getLast? = some (.ok (.reply name))
  rendered :
    (specFor wiring.py name).render wiring.py (factsOf events) = .ok reply
  cites : Cites wiring.py (factsOf events) reply name
  sourced : StatusesSourced wiring.py (factsOf events) reply
  truthful : Faked wiring →
    Truthful wiring.py (factsOf events) reply name

theorem sent_of_passed
    {wiring : Wiring} {fixtures : List Event → Fixtures}
    (registry : OverRegistry fixtures wiring)
    (templates : DefaultTemplates wiring.py wiring)
    {ticket : Ticket} {account : Account} {events : List Event}
    (holds : account.Holds wiring ticket)
    (exchanges : exchangesOf events = account.exchanges)
    (passed : Passed account reply) :
    ∃ name, Sent wiring events reply name := by
  rcases passed with ⟨classification, rounds, name, template, literals, rfl⟩
  have truthful : Faked wiring →
      (specFor wiring.py name).render wiring.py (factsOf events) =
          .ok reply →
        Truthful wiring.py (factsOf events) reply name := by
    intro faked rendered
    have replies : ∀ history rest,
        Looped wiring ticket history rest []
            (.checked name template reply ⟨literals, []⟩) →
          Decided wiring ticket history (.ok (.reply name)) := by
      intro history rest ended
      cases ended with
      | checked decided resolved rendered verified => exact decided
    exact truthful_of_ownFacts
      (faked_run faked registry replies rfl holds exchanges).2 rendered
  cases holds with
  | looped asked known ran =>
      rcases looped_ending ran with ⟨rest, -, ended⟩
      have facts := factsOf_looped exchanges rfl
      cases ended with
      | checked decided resolved rendered verified =>
          rcases resolved with ⟨before, resolved⟩
          rw [templates.2, Except.ok.injEq] at resolved
          rw [← facts] at rendered verified
          rw [← resolved] at rendered
          refine ⟨name,
            { decided := ?_
              rendered
              cites := cites_of_render rendered
              sourced := statusesSourced_of_verified verified rfl
              truthful := fun faked => truthful faked rendered }⟩
          rw [decisions_looped exchanges]
          simp [decisions, Ending.exchanges]

end

section

variable {ρ : Type} (repository : TicketRepository ρ) (wiring : Wiring)
variable (storeClock : List Event → Reading)

/--
Whatever the model does, a sent reply cites a record of its facts as it is,
and every status word read in it is the status of a record.  Under the
deterministic model, what its template asserts is true.
-/
theorem runPipeline_cites
    {fixtures : List Event → Fixtures}
    (registry : OverRegistry fixtures wiring)
    (templates : DefaultTemplates wiring.py wiring)
    {ticketId : String} {ticket : Ticket} {service : Service ρ} {store : ρ}
    (found :
      repository.get ticketId service.store = .ok (some ticket) store) :
    let after :=
      finalState (runPipeline repository wiring storeClock ticketId) service
    ∃ events,
      after.events = service.events ++ events ∧
        ∀ call, HandedOver service after call → call.status = .replied →
          ∃ reply name, call.reply = some reply ∧
            Sent wiring events reply name := by
  rcases ends_finalState
    (runPipeline_ends repository wiring storeClock found) with
    ⟨account, events, run⟩
  refine ⟨events, run.eventsAdded, ?_⟩
  intro call handed isReplied
  rcases passed_of_replied run handed isReplied with ⟨reply, hasReply, passed⟩
  rcases sent_of_passed registry templates run.holds run.exchanges passed with
    ⟨name, sent⟩
  exact ⟨reply, name, hasReply, sent⟩

end

theorem sample_cites :
    ∃ events,
      (sampleRun (fakeLlm asciiText) "42.10").events =
          waitingService.events ++ events ∧
        ∀ call,
          HandedOver waitingService
              (sampleRun (fakeLlm asciiText) "42.10") call →
            call.status = .replied →
              ∃ reply name, call.reply = some reply ∧
                Sent (sampleWiring (fakeLlm asciiText) "42.10") events reply
                  name :=
  runPipeline_cites (memoryRepository asciiText plainPydantic)
    (sampleWiring (fakeLlm asciiText) "42.10") standingClock
    (sampleWiring_overRegistry (fakeLlm asciiText) "42.10")
    ⟨rfl, fun _ _ => rfl⟩ billing_found

/-! ## A reply that is sourced and not true -/

/-- The template that the model asked for last. -/
def lastTemplate (events : List Event) : Option ReplyTemplate :=
  match (decisions events).getLast? with
  | some (.ok (.reply name)) => some name
  | _ => none

theorem decided_of_lastTemplate
    {events : List Event} {name : ReplyTemplate}
    (last : lastTemplate events = some name) :
    (decisions events).getLast? = some (.ok (.reply name)) := by
  unfold lastTemplate at last
  split at last
  · rename_i decided
    rw [decided, Option.some.inj last]
  · simp at last

/-- Anna is told that all is paid, with a failed invoice on her account. -/
theorem all_paid_untrue :
    ∃ call reply,
      HandedOver waitingService (sampleRun billingModel "42.10") call ∧
        call.status = .replied ∧ call.reply = some reply ∧
          (decisions (sampleRun billingModel "42.10").events).getLast? =
              some (.ok (.reply .billingAllPaid)) ∧
            ¬ Truthful asciiText
              (factsOf (sampleRun billingModel "42.10").events) reply
              .billingAllPaid := by
  have evaluated :
      (sampleRun billingModel "42.10").finalised.map
            (fun call => (call.status, call.reply.isSome)) =
          [(.replied, true)] ∧
        lastTemplate (sampleRun billingModel "42.10").events =
            some .billingAllPaid ∧
          (factsOf (sampleRun billingModel "42.10").events).invoices.any
              (·.status == .failed) = true := by
    decide +kernel
  rcases evaluated with ⟨replies, last, hasFailed⟩
  rcases exists_handedOver replies with ⟨call, handed, fields⟩
  rw [Prod.mk.injEq] at fields
  rcases Option.isSome_iff_exists.mp fields.2 with ⟨reply, hasReply⟩
  refine ⟨call, reply, handed, fields.1, hasReply,
    decided_of_lastTemplate last, ?_⟩
  intro allPaid
  rcases List.any_eq_true.mp hasFailed with ⟨invoice, member, failed⟩
  rw [allPaid invoice member] at failed
  exact absurd failed (by decide)

end SupportAssistant.Pipeline.Truth
