import SupportAssistant.Guardrails.Rendered
import SupportAssistant.Pipeline.Truth

/-!
# Whether the two layers agree

The deterministic model renders only facts, and still a reply of its can be
withheld: the checker reads the finished text, and an amount or an identifier
in it need not read as what was written.
-/

namespace SupportAssistant.Pipeline.Agreement

open SupportAssistant.Enums
open SupportAssistant.Runtime
open SupportAssistant.Runtime.Ascii
open SupportAssistant.Effects.Outcomes
open SupportAssistant.Tracing.Models
open SupportAssistant.Domain
open SupportAssistant.Guardrails.Facts
open SupportAssistant.Guardrails.Grounding
open SupportAssistant.Guardrails.Rendered
open SupportAssistant.Llm.Templates
open SupportAssistant.Llm.Filled
open SupportAssistant.Storage.Protocol
open SupportAssistant.Storage.Memory
open SupportAssistant.Tools.Loaders
open SupportAssistant.Pipeline.Collaborators
open SupportAssistant.Pipeline.Orchestrator
open SupportAssistant.Pipeline.Accounts
open SupportAssistant.Pipeline.RunSpec
open SupportAssistant.Pipeline.Handover
open SupportAssistant.Pipeline.Scripted
open SupportAssistant.Pipeline.Replies
open SupportAssistant.Pipeline.DefaultWiring
open SupportAssistant.Pipeline.FakeRun
open SupportAssistant.Pipeline.Truth

section

variable (py : PyText) (facts : FactSet) (name : ReplyTemplate)

/-- What the template renders from the facts passes the checker. -/
def Passes : Prop :=
  ∀ reply, (specFor py name).render py facts = .ok reply →
    ∃ literals,
      verify py reply facts (specFor py name).templateSafeLiterals =
        .ok ⟨literals, []⟩

/-- No one is addressed, or the fields read as facts. -/
def LayersAgree : Prop :=
  facts.userName = some "" ∨ Legible py facts name

end

/-! ## One reply -/

section

variable {py : PyText} {facts : FactSet} {name : ReplyTemplate}

theorem billingTemplate_cases (invoices : List Invoice) :
    (billingTemplate invoices = .billingFailed ∧
        ∃ invoice ∈ invoices, invoice.status = .failed) ∨
      (billingTemplate invoices = .billingPending ∧
        ∃ invoice ∈ invoices, invoice.status = .pending) ∨
      billingTemplate invoices = .billingAllPaid := by
  unfold billingTemplate
  split
  · rename_i failed
    left
    simpa using failed
  · split
    · rename_i pending
      right
      left
      simpa using pending
    · exact Or.inr (Or.inr rfl)

/-- The template chosen for some invoices implies the status of one of them. -/
theorem implied_of_invoices
    {invoices : List Invoice} (nonempty : invoices ≠ []) :
    ∀ status ∈ impliedStatuses (billingTemplate invoices),
      ∃ invoice ∈ invoices, invoice.status.value = status := by
  intro status implied
  rcases billingTemplate_cases invoices with
    ⟨isName, invoice, member, isStatus⟩ |
      ⟨isName, invoice, member, isStatus⟩ | isName
  · rw [isName] at implied
    cases List.mem_singleton.mp implied
    exact ⟨invoice, member, congrArg InvoiceStatus.value isStatus⟩
  · rw [isName] at implied
    cases List.mem_singleton.mp implied
    exact ⟨invoice, member, congrArg InvoiceStatus.value isStatus⟩
  · rw [isName] at implied
    cases List.mem_singleton.mp implied
    rcases List.exists_mem_of_ne_nil invoices nonempty with
      ⟨invoice, member⟩
    have paid := status_of_billingTemplate invoices isName invoice member
    exact ⟨invoice, member, congrArg InvoiceStatus.value paid⟩

/-- The facts that the model replies from have the statuses it implies. -/
theorem fits_of_ownFacts (own : OwnFacts facts name) :
    ∀ status ∈ impliedStatuses name, status ∈ facts.allowedStatuses := by
  cases own with
  | @billing user invoices some =>
      have known : ∀ invoice ∈ invoices, invoice.status.value ∈
          (FactSet.mk (Option.some user.name) (Option.some user.userId)
            (invoices.map invoiceFact) []).allowedStatuses := by
        intro invoice member
        rw [FactSet.allowedStatuses, List.map_map]
        exact List.mem_append_left _ (List.mem_map.mpr
          ⟨invoice, member, rfl⟩)
      intro status implied
      rcases implied_of_invoices some status implied with
        ⟨invoice, member, rfl⟩
      exact known invoice member
  | charging user latest earlier =>
      intro status implied
      unfold sessionTemplate at implied
      split at implied
      · rename_i completed
        cases List.mem_singleton.mp implied
        have sourced : latest.status.value ∈ [latest.status.value] :=
          List.mem_singleton_self _
        rw [FactSet.allowedStatuses, List.map_cons]
        apply List.mem_append_right
        rw [List.map_cons, sessionFact, completed]
        exact List.mem_cons_self
      · simp [impliedStatuses] at implied

theorem render_of_context
    {context : Context} {reply : String}
    (selected : (specFor py name).context facts = .ok context)
    (formatted : format py (specFor py name).body context = .ok reply) :
    (specFor py name).render py facts = .ok reply := by
  rw [Template.render, selected]
  exact formatted

theorem invoiceWith_of_mem
    {user : String} (addressed : Addressed facts user)
    {status : InvoiceStatus}
    (present : ∃ invoice ∈ facts.invoices, invoice.status = status) :
    ∃ invoice,
      invoiceWith py status facts = .ok (invoiceContext user invoice) := by
  rcases present with ⟨invoice, member, isStatus⟩
  cases found : facts.invoices.find? (·.status = status) with
  | none =>
      rw [List.find?_eq_none] at found
      exact absurd isStatus (by simpa using found invoice member)
  | some first =>
      refine ⟨first, ?_⟩
      simp only [invoiceWith, firstInvoice, found,
        nameOf_of_addressed addressed]
      rfl

/-- The model renders a reply for every user with a name. -/
theorem renders_of_ownFacts
    (own : OwnFacts facts name) (addressed : facts.userName ≠ some "") :
    ∃ reply, (specFor py name).render py facts = .ok reply := by
  cases own with
  | @billing user invoices nonempty =>
      have addressed : user.name ≠ "" := fun empty =>
        addressed (congrArg some empty)
      have selected {invoice : Invoice} (member : invoice ∈ invoices) :=
        @invoiceWith_of_mem py
          ⟨some user.name, some user.userId, invoices.map invoiceFact, []⟩
          user.name ⟨rfl, addressed⟩ invoice.status
          ⟨_, List.mem_map_of_mem member, rfl⟩
      rcases billingTemplate_cases invoices with
        ⟨isName, invoice, member, isStatus⟩ |
          ⟨isName, invoice, member, isStatus⟩ | isName
      · rcases selected member with ⟨first, isFirst⟩
        rw [isStatus] at isFirst
        rw [isName]
        exact ⟨_, render_of_context isFirst rfl⟩
      · rcases selected member with ⟨first, isFirst⟩
        rw [isStatus] at isFirst
        rw [isName]
        exact ⟨_, render_of_context isFirst rfl⟩
      · rw [isName]
        refine ⟨_, @render_of_context _ _ _ [("name", user.name)] _ ?_ rfl⟩
        simp only [specFor, nameOnly]
        rw [nameOf_of_addressed ⟨rfl, addressed⟩]
        rfl
  | charging user latest earlier =>
      have addressed : user.name ≠ "" := fun empty =>
        addressed (congrArg some empty)
      have selected :
          latestSession py
              ⟨some user.name, some user.userId, [],
                (latest :: earlier).map sessionFact⟩ =
            .ok (sessionContext user.name (sessionFact latest)) := by
        simp only [latestSession, List.map_cons]
        rw [nameOf_of_addressed ⟨rfl, addressed⟩]
        rfl
      unfold sessionTemplate
      split
      · exact ⟨_, render_of_context selected rfl⟩
      · exact ⟨_, render_of_context selected rfl⟩

/-- From the facts of the model, a reply passes exactly on this condition. -/
theorem passes_iff (own : OwnFacts facts name) :
    Passes py facts name ↔ LayersAgree py facts name := by
  constructor
  · intro passes
    by_cases addressed : facts.userName = some ""
    · exact Or.inl addressed
    · rcases @renders_of_ownFacts py _ _ own addressed with
        ⟨reply, rendered⟩
      exact Or.inr ((verified_iff (fits_of_ownFacts own) rendered).mp
        (passes reply rendered))
  · rintro agree reply rendered
    rcases agree with unaddressed | legible
    · rcases addressed_of_render rendered with ⟨user, named, nonempty⟩
      exact absurd (Option.some.inj (named.symm.trans unaddressed)) nonempty
    · exact (verified_iff (fits_of_ownFacts own) rendered).mpr legible

end

/-! ## One run -/

/-- The template that a loop ended on. -/
def templateOf : Ending → Option ReplyTemplate
  | .resolveRaised name _ => some name
  | .renderRaised name _ _ => some name
  | .verifyRaised name _ _ => some name
  | .checked name _ _ _ => some name
  | _ => none

/-- The model decided on this template, as the last of its steps. -/
def DecidedOn (events : List Event) (name : ReplyTemplate) : Prop :=
  (decisions events).getLast? = some (.ok (.reply name))

section

variable {wiring : Wiring} {ticket : Ticket} {events : List Event}
variable {classification : Classification} {rounds : List Round}
variable {ending : Ending} {name : ReplyTemplate}

theorem decidedOn_iff
    (exchanges : exchangesOf events =
      (Account.looped classification rounds ending).exchanges) :
    DecidedOn events name ↔ templateOf ending = some name := by
  rw [DecidedOn, decisions_looped exchanges]
  cases ending with
  | capped =>
      simp only [decisions, Ending.exchanges, List.filterMap_nil,
        List.append_nil, List.getLast?_map, Option.map_eq_some_iff,
        templateOf, reduceCtorEq, iff_false]
      rintro ⟨round, -, impossible⟩
      simp at impossible
  | _ => simp [decisions, Ending.exchanges, templateOf]

theorem decided_of_replies
    (replies : templateOf ending = some name)
    {history : List Observation} {rest : Nat}
    (looped : Looped wiring ticket history rest [] ending) :
    Decided wiring ticket history (.ok (.reply name)) := by
  cases looped with
  | resolveRaised decided =>
      cases replies
      exact decided
  | renderRaised decided =>
      cases replies
      exact decided
  | verifyRaised decided =>
      cases replies
      exact decided
  | checked decided =>
      cases replies
      exact decided
  | _ => simp [templateOf] at replies

theorem observations_of_replies
    (replies : templateOf ending = some name) :
    observations (ending.exchanges []) = [] := by
  cases ending with
  | toolRaised => simp [templateOf] at replies
  | toolUnprintable => simp [templateOf] at replies
  | _ => rfl

/-- What a looped run of the deterministic model replies from. -/
theorem ownFacts_of_replies
    {fixtures : List Event → Fixtures}
    (faked : Faked wiring) (registry : OverRegistry fixtures wiring)
    (holds :
      (Account.looped classification rounds ending).Holds wiring ticket)
    (exchanges : exchangesOf events =
      (Account.looped classification rounds ending).exchanges)
    (replies : templateOf ending = some name) :
    OwnFacts (factsOf events) name :=
  (faked_run faked registry
    (fun _ _ looped => decided_of_replies replies looped)
    (observations_of_replies replies) holds exchanges).2

/-- The deterministic model hands nothing off. -/
theorem not_gaveUp
    (faked : Faked wiring) {history : List Observation}
    {reason : HandoffReason} :
    ¬ Decided wiring ticket history (.ok (.handoff reason)) := by
  intro decided
  have chosen := decided_faked faked decided
  generalize isStep : Step.handoff reason = step at chosen
  cases chosen <;> simp at isStep

/-- No exception is given the reason of a failed check. -/
theorem not_ungrounded_of_failedClosed
    {inFlight : Option String} {exc : Exc} {outcome : Outcome}
    (closed : failedClosed inFlight exc = .ok outcome) :
    outcome.reason ≠ some .ungroundedReply := by
  rcases failedClosed_handedOff closed with ⟨detail, rfl⟩
  intro given
  have given := Option.some.inj given
  cases clause : exc.clause <;> simp [clause, clauseReason] at given

theorem verify_specFor
    (py : PyText) (facts : FactSet) (name : ReplyTemplate)
    (reply : String) :
    ∃ result,
      verify py reply facts (specFor py name).templateSafeLiterals =
        .ok result := by
  rw [verify, safeNumbers_specFor]
  exact ⟨_, rfl⟩

/-- A looped run of the model fails the check exactly on this condition. -/
theorem ungrounded_iff_of_looped
    {fixtures : List Event → Fixtures}
    (faked : Faked wiring) (registry : OverRegistry fixtures wiring)
    (templates : DefaultTemplates wiring.py wiring)
    (holds :
      (Account.looped classification rounds ending).Holds wiring ticket)
    (exchanges : exchangesOf events =
      (Account.looped classification rounds ending).exchanges)
    {outcome : Outcome}
    (concluded :
      (Account.looped classification rounds ending).outcome
          wiring.maxIterations =
        .ok outcome) :
    outcome.reason = some .ungroundedReply ↔
      ∃ name, templateOf ending = some name ∧
        ¬ LayersAgree wiring.py (factsOf events) name := by
  have own := fun name replies =>
    @ownFacts_of_replies _ _ _ _ _ _ name _ faked registry holds exchanges
      replies
  cases holds with
  | looped asked known ran =>
      rcases looped_ending ran with ⟨rest, -, ended⟩
      have facts := fun noTool => factsOf_looped exchanges noTool
      cases ended with
      | capped =>
          cases Except.ok.inj concluded
          simp [handedOff, templateOf]
      | gaveUp decided => exact absurd decided (not_gaveUp faked)
      | modelRaised decided =>
          simp [not_ungrounded_of_failedClosed concluded, templateOf]
      | toolRaised decided answered failed printed =>
          simp [not_ungrounded_of_failedClosed concluded, templateOf]
      | toolUnprintable decided answered failed unprinted =>
          simp [not_ungrounded_of_failedClosed concluded, templateOf]
      | resolveRaised decided resolved =>
          rcases resolved with ⟨before, resolved⟩
          rw [templates.2] at resolved
          simp at resolved
      | @renderRaised _ left name template exc decided resolved raised =>
          rcases resolved with ⟨before, resolved⟩
          cases Except.ok.inj ((templates.2 _ _).symm.trans resolved)
          rw [← facts rfl] at raised
          have agree : LayersAgree wiring.py (factsOf events) name := by
            left
            by_contra addressed
            rcases @renders_of_ownFacts wiring.py _ _ (own name rfl)
              addressed with ⟨reply, rendered⟩
            rw [rendered] at raised
            simp at raised
          simp [not_ungrounded_of_failedClosed concluded, templateOf, agree]
      | @verifyRaised _ left name template reply exc decided resolved rendered
          raised =>
          rcases resolved with ⟨before, resolved⟩
          cases Except.ok.inj ((templates.2 _ _).symm.trans resolved)
          rcases verify_specFor wiring.py _ name reply with
            ⟨result, verified⟩
          rw [verified] at raised
          simp at raised
      | @checked _ left name template reply result decided resolved rendered
          verified =>
          rcases resolved with ⟨before, resolved⟩
          cases Except.ok.inj ((templates.2 _ _).symm.trans resolved)
          rw [← facts rfl] at rendered verified
          have clean : result.violations = [] ↔
              LayersAgree wiring.py (factsOf events) name := by
            rw [← passes_iff (own name rfl)]
            constructor
            · intro none other renderedToo
              cases Except.ok.inj (rendered.symm.trans renderedToo)
              refine ⟨result.literals, ?_⟩
              rw [verified, ← none]
            · intro passes
              rcases passes reply rendered with ⟨literals, passed⟩
              rw [Except.ok.inj (verified.symm.trans passed)]
          cases Except.ok.inj concluded
          by_cases none : result.violations = []
          · simp [verdict, none, replied, templateOf, clean.mp none]
          · simp [verdict, none, handedOff, templateOf,
              mt clean.mpr none]

/-- No other run of the model fails the check, or decides on a template. -/
theorem ungrounded_iff_of_account
    {fixtures : List Event → Fixtures}
    (faked : Faked wiring) (registry : OverRegistry fixtures wiring)
    (templates : DefaultTemplates wiring.py wiring)
    {account : Account} (holds : account.Holds wiring ticket)
    (exchanges : exchangesOf events = account.exchanges)
    {outcome : Outcome}
    (concluded : account.outcome wiring.maxIterations = .ok outcome) :
    outcome.reason = some .ungroundedReply ↔
      ∃ name, DecidedOn events name ∧
        ¬ LayersAgree wiring.py (factsOf events) name := by
  cases account with
  | classifyRaised exc =>
      have none : decisions events = [] := by
        rw [← decisions_exchangesOf, exchanges]
        rfl
      simp [not_ungrounded_of_failedClosed concluded, DecidedOn, none]
  | unsupported classification =>
      have none : decisions events = [] := by
        rw [← decisions_exchangesOf, exchanges]
        rfl
      cases Except.ok.inj concluded
      simp [handedOff, DecidedOn, none]
  | looped classification rounds ending =>
      simp only [decidedOn_iff exchanges]
      exact ungrounded_iff_of_looped faked registry templates holds exchanges
        concluded

end

/-! ## Every run -/

section

variable {ρ : Type} (repository : TicketRepository ρ) (wiring : Wiring)
variable (storeClock : List Event → Reading)

/--
From the records that the deterministic model replies from, its template
passes the checker exactly when no one is addressed or the fields read as
facts; and a run fails the check exactly when they do not.
-/
theorem layers_agree_iff
    {fixtures : List Event → Fixtures}
    (faked : Faked wiring) (registry : OverRegistry fixtures wiring)
    (templates : DefaultTemplates wiring.py wiring)
    {ticketId : String} {ticket : Ticket} {service : Service ρ} {store : ρ}
    (found :
      repository.get ticketId service.store = .ok (some ticket) store) :
    let after :=
      finalState (runPipeline repository wiring storeClock ticketId) service
    (∀ facts name, OwnFacts facts name →
        (Passes wiring.py facts name ↔
          LayersAgree wiring.py facts name)) ∧
      ∃ events,
        after.events = service.events ++ events ∧
          (∀ name, DecidedOn events name →
              OwnFacts (factsOf events) name) ∧
            ∀ call, HandedOver service after call →
              (call.handoffReason = some .ungroundedReply ↔
                ∃ name, DecidedOn events name ∧
                  ¬ LayersAgree wiring.py (factsOf events) name) := by
  refine ⟨fun facts name own => passes_iff own, ?_⟩
  rcases ends_finalState
    (runPipeline_ends repository wiring storeClock found) with
    ⟨account, events, run⟩
  refine ⟨events, run.eventsAdded, ?_, ?_⟩
  · intro name decidedOn
    have holds := run.holds
    have exchanges := run.exchanges
    cases account with
    | looped classification rounds ending =>
        exact ownFacts_of_replies faked registry holds exchanges
          ((decidedOn_iff exchanges).mp decidedOn)
    | classifyRaised exc =>
        rw [DecidedOn, ← decisions_exchangesOf, exchanges] at decidedOn
        simp [decisions, Account.exchanges] at decidedOn
    | unsupported classification =>
        rw [DecidedOn, ← decisions_exchangesOf, exchanges] at decidedOn
        simp [decisions, Account.exchanges] at decidedOn
  · intro call handed
    cases concluded : account.outcome wiring.maxIterations with
    | error exc =>
        rw [HandedOver, run.withheld exc concluded] at handed
        simp at handed
    | ok outcome =>
        rcases run.handed outcome concluded with
          ⟨only, handedOnly, callOf⟩
        cases HandedOver.unique handedOnly handed
        rw [callOf.reason]
        exact ungrounded_iff_of_account faked registry templates run.holds
          run.exchanges concluded

end

theorem sample_layers_agree :
    (∀ facts name, OwnFacts facts name →
        (Passes asciiText facts name ↔ LayersAgree asciiText facts name)) ∧
      ∃ events,
        (sampleRun (fakeLlm asciiText) "42.10").events =
            waitingService.events ++ events ∧
          (∀ name, DecidedOn events name →
              OwnFacts (factsOf events) name) ∧
            ∀ call,
              HandedOver waitingService
                  (sampleRun (fakeLlm asciiText) "42.10") call →
                (call.handoffReason = some .ungroundedReply ↔
                  ∃ name, DecidedOn events name ∧
                    ¬ LayersAgree asciiText (factsOf events) name) :=
  layers_agree_iff (memoryRepository asciiText plainPydantic)
    (sampleWiring (fakeLlm asciiText) "42.10") standingClock
    (sampleWiring_faked "42.10")
    (sampleWiring_overRegistry (fakeLlm asciiText) "42.10")
    ⟨rfl, fun _ _ => rfl⟩ billing_found

/-- A credit note of Anna's is written with its sign and read without it. -/
theorem credit_note_withheld :
    ∃ call,
      HandedOver waitingService
          (sampleRun (fakeLlm asciiText) "-42.10") call ∧
        call.status = .handedOff ∧
          call.handoffReason = some .ungroundedReply := by
  have evaluated :
      (sampleRun (fakeLlm asciiText) "-42.10").finalised.map
          (fun call => (call.status, call.handoffReason)) =
        [(.handedOff, some .ungroundedReply)] := by
    decide +kernel
  rcases exists_handedOver evaluated with ⟨call, handed, fields⟩
  rw [Prod.mk.injEq] at fields
  exact ⟨call, handed, fields.1, fields.2⟩

end SupportAssistant.Pipeline.Agreement
