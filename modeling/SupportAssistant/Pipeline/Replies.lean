import SupportAssistant.Llm.Fake
import SupportAssistant.Pipeline.Handover
import SupportAssistant.Pipeline.Scripted

/-!
# Which runs reply

A reply is earned by the answers the collaborators gave in the run: the last
decision of the model, the one answer of the resolver, and the tool results.
A run hands over a reply exactly when it has earned it.
-/

namespace SupportAssistant.Pipeline.Replies

open SupportAssistant.Runtime
open SupportAssistant.Effects.Outcomes
open SupportAssistant.Tracing.Models
open SupportAssistant.Domain
open SupportAssistant.Guardrails.Facts
open SupportAssistant.Guardrails.Grounding
open SupportAssistant.Llm.Fake (callFor)
open SupportAssistant.Storage.Protocol
open SupportAssistant.Storage.Memory
open SupportAssistant.Runtime.Ascii
open SupportAssistant.Pipeline.Collaborators
open SupportAssistant.Pipeline.Orchestrator
open SupportAssistant.Pipeline.Accounts
open SupportAssistant.Pipeline.RunSpec
open SupportAssistant.Pipeline.Handover
open SupportAssistant.Pipeline.Scripted

/-- The facts of a run: its successful tool results, in call order. -/
def factsOf (events : List Event) : FactSet :=
  FactSet.fromObservations (observations events)

/-- The answers of a run earn this reply. -/
def Earned (py : PyText) (events : List Event) (reply : String) : Prop :=
  ∃ name template result,
    (decisions events).getLast? = some (.ok (.reply name)) ∧
      resolutions events = [(name, .ok template)] ∧
        template.render py (factsOf events) = .ok reply ∧
          verify py reply (factsOf events)
              template.templateSafeLiterals = .ok result ∧
            result.violations = []

/-! ## Reading the exchanges of an account -/

theorem filterMap_exchangesOf {α : Type}
    {select : Event → Option α}
    (ignoresClock : ∀ reading, select (.clockRead reading) = none)
    (ignoresHook : ∀ step, select (.stepLogged step) = none)
    (events : List Event) :
    (exchangesOf events).filterMap select = events.filterMap select := by
  rw [exchangesOf, List.filterMap_filter]
  apply List.filterMap_congr
  intro event member
  cases event <;> simp [ignoresClock, ignoresHook]

theorem decisions_exchangesOf (events : List Event) :
    decisions (exchangesOf events) = decisions events :=
  filterMap_exchangesOf (fun _ => rfl) (fun _ => rfl) events

theorem observations_exchangesOf (events : List Event) :
    observations (exchangesOf events) = observations events :=
  filterMap_exchangesOf (fun _ => rfl) (fun _ => rfl) events

theorem resolutions_exchangesOf (events : List Event) :
    resolutions (exchangesOf events) = resolutions events :=
  filterMap_exchangesOf (fun _ => rfl) (fun _ => rfl) events

/-- What an ending answers does not depend on the history it is asked. -/
theorem filterMap_ending {α : Type}
    {select : Event → Option α}
    (ignoresHistory : ∀ history history' result,
      select (.stepAsked history result) =
        select (.stepAsked history' result))
    (ending : Ending) (history history' : List Observation) :
    (ending.exchanges history).filterMap select =
      (ending.exchanges history').filterMap select := by
  cases ending <;>
    simp only [Ending.exchanges, List.filterMap_cons, List.filterMap_nil,
      ignoresHistory history history']

theorem filterMap_loopExchanges {α : Type}
    {select : Event → Option α}
    (ignoresHistory : ∀ history history' result,
      select (.stepAsked history result) =
        select (.stepAsked history' result))
    (history : List Observation) (rounds : List Round) (ending : Ending) :
    (loopExchanges history rounds ending).filterMap select =
      (rounds.flatMap fun round =>
        [.stepAsked history (.ok (.toolCall round.call)),
          .toolRun round.call (.ok round.result)]).filterMap select ++
        (ending.exchanges history).filterMap select := by
  induction rounds generalizing history with
  | nil => rfl
  | cons round rounds induction =>
      rw [loopExchanges, List.filterMap_cons, List.filterMap_cons,
        induction (history ++ [round.observation]),
        filterMap_ending ignoresHistory ending _ history]
      simp only [List.flatMap_cons, List.filterMap_append,
        List.filterMap_cons, List.filterMap_nil, List.filterMap_flatMap,
        ignoresHistory (history ++ [round.observation]) history]
      cases select (.stepAsked history (.ok (.toolCall round.call))) <;>
        cases select (.toolRun round.call (.ok round.result)) <;> simp

theorem decisions_loopExchanges
    (history : List Observation) (rounds : List Round) (ending : Ending) :
    decisions (loopExchanges history rounds ending) =
      rounds.map (fun round => .ok (.toolCall round.call)) ++
        decisions (ending.exchanges history) := by
  rw [decisions, filterMap_loopExchanges (fun _ _ _ => rfl)]
  simp [decisions, List.filterMap_flatMap, List.map_eq_flatMap]

theorem observations_loopExchanges
    (history : List Observation) (rounds : List Round) (ending : Ending) :
    observations (loopExchanges history rounds ending) =
      rounds.map Round.observation ++
        observations (ending.exchanges history) := by
  rw [observations, filterMap_loopExchanges (fun _ _ _ => rfl)]
  simp [observations, List.filterMap_flatMap, List.map_eq_flatMap,
    Round.observation]

theorem resolutions_loopExchanges
    (history : List Observation) (rounds : List Round) (ending : Ending) :
    resolutions (loopExchanges history rounds ending) =
      resolutions (ending.exchanges history) := by
  rw [resolutions, filterMap_loopExchanges (fun _ _ _ => rfl)]
  simp [resolutions, List.filterMap_flatMap]

/-- The ending of a loop, from the history its rounds gathered. -/
theorem looped_ending
    {wiring : Wiring} {ticket : Ticket} {history : List Observation}
    {left : Nat} {rounds : List Round} {ending : Ending}
    (looped : Looped wiring ticket history left rounds ending) :
    ∃ rest, left = rounds.length + rest ∧
      Looped wiring ticket (history ++ rounds.map Round.observation) rest []
        ending := by
  induction rounds generalizing history left with
  | nil => exact ⟨left, by simp, by simpa using looped⟩
  | cons round rounds induction =>
      cases looped with
      | round decided answered summarised later =>
          obtain ⟨rest, rfl, ended⟩ := induction later
          refine ⟨rest, by simp only [List.length_cons]; omega, ?_⟩
          simpa [Round.observation] using ended

/-! ## The account of an earned reply -/

/-- The account ends with a reply that passed the checker. -/
def Passed (account : Account) (reply : String) : Prop :=
  ∃ classification rounds name template literals,
    account =
      .looped classification rounds
        (.checked name template reply ⟨literals, []⟩)

/-- A handler that returns does not reply. -/
theorem not_replied_of_failedClosed
    {inFlight : Option String} {exc : Exc} {outcome : Outcome}
    (closed : failedClosed inFlight exc = .ok outcome) :
    ∃ reason detail, outcome = handedOff reason detail :=
  ⟨_, failedClosed_handedOff closed⟩

/-- The outcome replies if the reply passed, and hands off otherwise. -/
theorem outcome_cases
    {account : Account} {maxIterations : Int} {outcome : Outcome}
    (concluded : account.outcome maxIterations = .ok outcome) :
    (∃ reply, Passed account reply ∧ outcome = replied reply) ∨
      ((∀ reply, ¬ Passed account reply) ∧
        ∃ reason detail, outcome = handedOff reason detail) := by
  unfold Account.outcome at concluded
  cases account with
  | classifyRaised exc =>
      exact Or.inr ⟨by simp [Passed],
        not_replied_of_failedClosed concluded⟩
  | unsupported classification =>
      obtain rfl := Except.ok.inj concluded
      exact Or.inr ⟨by simp [Passed], _, _, rfl⟩
  | looped classification rounds ending =>
      cases ending with
      | checked name template reply result =>
          obtain rfl := Except.ok.inj concluded
          obtain ⟨literals, violations⟩ := result
          cases violations with
          | nil =>
              exact Or.inl ⟨reply, ⟨_, _, _, _, _, rfl⟩, rfl⟩
          | cons violation violations =>
              exact Or.inr ⟨by simp [Passed], _, _, rfl⟩
      | capped =>
          obtain rfl := Except.ok.inj concluded
          exact Or.inr ⟨by simp [Passed], _, _, rfl⟩
      | gaveUp reason =>
          obtain rfl := Except.ok.inj concluded
          exact Or.inr ⟨by simp [Passed], _, _, rfl⟩
      | _ =>
          exact Or.inr ⟨by simp [Passed],
            not_replied_of_failedClosed concluded⟩

theorem outcome_of_passed
    {account : Account} {reply : String}
    (passed : Passed account reply) (maxIterations : Int) :
    account.outcome maxIterations = .ok (replied reply) := by
  obtain ⟨classification, rounds, name, template, literals, rfl⟩ := passed
  rfl

/-! ## Earned replies are the passed ones -/

section

variable {events : List Event}
variable {classification : Classification} {rounds : List Round}
variable {ending : Ending}

theorem decisions_looped
    (exchanges : exchangesOf events =
      (Account.looped classification rounds ending).exchanges) :
    decisions events =
      rounds.map (fun round => .ok (.toolCall round.call)) ++
        decisions (ending.exchanges []) := by
  rw [← decisions_exchangesOf, exchanges, ← decisions_loopExchanges]
  rfl

theorem observations_looped
    (exchanges : exchangesOf events =
      (Account.looped classification rounds ending).exchanges) :
    observations events =
      rounds.map Round.observation ++
        observations (ending.exchanges []) := by
  rw [← observations_exchangesOf, exchanges, ← observations_loopExchanges]
  rfl

theorem resolutions_looped
    (exchanges : exchangesOf events =
      (Account.looped classification rounds ending).exchanges) :
    resolutions events = resolutions (ending.exchanges []) := by
  rw [← resolutions_exchangesOf, exchanges,
    ← resolutions_loopExchanges [] rounds ending]
  rfl

/-- With no tool call in the ending, the facts are those of the rounds. -/
theorem factsOf_looped
    (exchanges : exchangesOf events =
      (Account.looped classification rounds ending).exchanges)
    (noTool : observations (ending.exchanges []) = []) :
    factsOf events =
      FactSet.fromObservations ([] ++ rounds.map Round.observation) := by
  rw [factsOf, observations_looped exchanges, noTool, List.append_nil,
    List.nil_append]

variable {wiring : Wiring} {ticket : Ticket} {account : Account}

/-- A reply that passed the checker was earned. -/
theorem earned_of_passed
    (holds : account.Holds wiring ticket)
    (exchanges : exchangesOf events = account.exchanges)
    {reply : String} (passed : Passed account reply) :
    Earned wiring.py events reply := by
  obtain ⟨classification, rounds, name, template, literals, rfl⟩ := passed
  cases holds with
  | looped asked known ran =>
      obtain ⟨rest, -, ended⟩ := looped_ending ran
      have facts := factsOf_looped exchanges rfl
      cases ended with
      | checked decided resolved rendered verified =>
          refine ⟨name, template, ⟨literals, []⟩, ?_, ?_, ?_, ?_, rfl⟩
          · rw [decisions_looped exchanges]
            simp [decisions, Ending.exchanges]
          · rw [resolutions_looped exchanges]
            rfl
          · rw [facts]
            exact rendered
          · rw [facts]
            exact verified

/-- An earned reply passed the checker. -/
theorem passed_of_earned
    (holds : account.Holds wiring ticket)
    (exchanges : exchangesOf events = account.exchanges)
    {reply : String} (earned : Earned wiring.py events reply) :
    Passed account reply := by
  obtain ⟨name, template, ⟨literals, violations⟩, last, resolved, rendered,
    verified, clean⟩ := earned
  obtain rfl : violations = [] := clean
  cases holds with
  | classifyRaised asked =>
      rw [← decisions_exchangesOf, exchanges] at last
      simp [decisions, Account.exchanges] at last
  | unsupported asked unknown =>
      rw [← decisions_exchangesOf, exchanges] at last
      simp [decisions, Account.exchanges] at last
  | @looped classification rounds ending asked known ran =>
      rw [decisions_looped exchanges] at last
      rw [resolutions_looped exchanges] at resolved
      obtain ⟨rest, -, ended⟩ := looped_ending ran
      -- the last decision leaves the endings after a reply, and the one
      -- answer of the resolver fixes name and template
      cases ended with
      | capped =>
          simp only [decisions, Ending.exchanges, List.filterMap_nil,
            List.append_nil, List.getLast?_map, Option.map_eq_some_iff]
            at last
          obtain ⟨round, -, impossible⟩ := last
          simp at impossible
      | modelRaised decided => simp [decisions, Ending.exchanges] at last
      | gaveUp decided => simp [decisions, Ending.exchanges] at last
      | toolRaised decided answered failed printed =>
          simp [decisions, Ending.exchanges] at last
      | toolUnprintable decided answered failed unprinted =>
          simp [decisions, Ending.exchanges] at last
      | resolveRaised decided raised =>
          simp [resolutions, Ending.exchanges] at resolved
      | renderRaised decided answered raised =>
          obtain ⟨rfl, rfl⟩ : _ = name ∧ _ = template := by
            simpa [resolutions, Ending.exchanges] using resolved
          rw [factsOf_looped exchanges rfl, raised] at rendered
          simp at rendered
      | verifyRaised decided answered renderedOk raised =>
          obtain ⟨rfl, rfl⟩ : _ = name ∧ _ = template := by
            simpa [resolutions, Ending.exchanges] using resolved
          rw [factsOf_looped exchanges rfl] at rendered verified
          obtain rfl := Except.ok.inj (renderedOk.symm.trans rendered)
          rw [raised] at verified
          simp at verified
      | checked decided answered renderedOk verifiedOk =>
          obtain ⟨rfl, rfl⟩ : _ = name ∧ _ = template := by
            simpa [resolutions, Ending.exchanges] using resolved
          rw [factsOf_looped exchanges rfl] at rendered verified
          obtain rfl := Except.ok.inj (renderedOk.symm.trans rendered)
          obtain rfl := Except.ok.inj (verifiedOk.symm.trans verified)
          exact ⟨_, _, _, _, literals, rfl⟩

/-- The step before the final decision of a passed reply. -/
theorem payloads_of_passed
    (holds : account.Holds wiring ticket)
    (exchanges : exchangesOf events = account.exchanges)
    {reply : String} (passed : Passed account reply) :
    ∃ earlier, account.payloads =
      earlier ++ [.groundingCheck true
        (extract wiring.py reply (factsOf events)).length []] := by
  obtain ⟨classification, rounds, name, template, literals, rfl⟩ := passed
  cases holds with
  | looped asked known ran =>
      obtain ⟨rest, -, ended⟩ := looped_ending ran
      rw [factsOf_looped exchanges rfl]
      cases ended with
      | checked decided resolved rendered verified =>
          obtain ⟨safe, -, found, -⟩ := verify_ok verified
          simp only at found
          rw [← found]
          rw [Account.payloads, loopPayloads_eq]
          exact ⟨classificationPayload classification ::
              (loopPayloads 1 rounds .capped ++
                [.llmDecision (1 + rounds.length) .reply none]),
            by simp [Ending.payloads]⟩

end

/-! ## Every run -/

/-- A run with these events hands over a reply exactly as it earned one. -/
structure RepliesAsEarned {ρ : Type} (wiring : Wiring) (ticketId : String)
    (before after : Service ρ) (events : List Event) : Prop where
  eventsAdded : after.events = before.events ++ events
  replied_iff : ∀ reply,
    (∃ call, HandedOver before after call ∧ call.status = .replied ∧
        call.reply = some reply) ↔
      Earned wiring.py events reply
  checked : ∀ call reply, HandedOver before after call →
    call.status = .replied → call.reply = some reply →
      ∃ earlier, call.trace.map TraceStep.payload =
        earlier ++
          [.groundingCheck true
              (extract wiring.py reply (factsOf events)).length [],
            .finalDecision .replied none none]
  otherwise : ∀ call, HandedOver before after call →
    (¬ ∃ reply, Earned wiring.py events reply) →
      call.status = .handedOff ∧ call.reply = none
  oneCall : after.finalised = before.finalised ∨
    ∃ call, HandedOver before after call ∧ call.ticketId = ticketId
  handed : PrintableWiring wiring → ∃ call, HandedOver before after call

theorem repliesAsEarned_of_run
    {ρ : Type} {wiring : Wiring} {ticketId : String} {ticket : Ticket}
    {before after : Service ρ} {account : Account} {events : List Event}
    (run : RunOf wiring ticketId ticket before after account events) :
    RepliesAsEarned wiring ticketId before after events := by
  have earned_iff : ∀ reply,
      Earned wiring.py events reply ↔ Passed account reply :=
    fun reply => ⟨passed_of_earned run.holds run.exchanges,
      earned_of_passed run.holds run.exchanges⟩
  cases concluded : account.outcome wiring.maxIterations with
  | error exc =>
      have none := run.withheld exc concluded
      have noCall : ∀ call, ¬ HandedOver before after call := by
        intro call handed
        rw [HandedOver, none] at handed
        simp at handed
      exact
        { eventsAdded := run.eventsAdded
          replied_iff := by
            intro reply
            constructor
            · rintro ⟨call, handed, -⟩
              exact (noCall call handed).elim
            · intro earned
              rw [outcome_of_passed ((earned_iff reply).1 earned)]
                at concluded
              simp at concluded
          checked := fun call _ handed => (noCall call handed).elim
          otherwise := fun call handed => (noCall call handed).elim
          oneCall := Or.inl none
          handed := by
            intro printable
            obtain ⟨outcome, reached⟩ := concludes_of_printable printable run.holds
            rw [reached] at concluded
            simp at concluded }
  | ok outcome =>
      obtain ⟨call, handed, callOf⟩ := run.handed outcome concluded
      have only : ∀ other, HandedOver before after other → other = call :=
        fun other => HandedOver.unique handed
      refine
        { eventsAdded := run.eventsAdded
          replied_iff := ?_
          checked := ?_
          otherwise := ?_
          oneCall := Or.inr ⟨call, handed, callOf.ticketId⟩
          handed := fun _ => ⟨call, handed⟩ }
      · intro reply
        rw [earned_iff]
        constructor
        · rintro ⟨other, handedOther, isReplied, hasReply⟩
          obtain rfl := only other handedOther
          rcases outcome_cases concluded with
            ⟨passedReply, passed, rfl⟩ | ⟨-, reason, detail, rfl⟩
          · obtain rfl : passedReply = reply := by
              simpa [callOf.reply, replied] using hasReply
            exact passed
          · simp [callOf.status, handedOff] at isReplied
        · intro passed
          obtain rfl : outcome = replied reply := by
            simpa [outcome_of_passed passed] using concluded.symm
          exact ⟨call, handed, callOf.status, callOf.reply⟩
      · intro other reply handedOther isReplied hasReply
        obtain rfl := only other handedOther
        rcases outcome_cases concluded with
          ⟨passedReply, passed, rfl⟩ | ⟨-, reason, detail, rfl⟩
        · obtain rfl : passedReply = reply := by
            simpa [callOf.reply, replied] using hasReply
          obtain ⟨earlier, payloads⟩ :=
            payloads_of_passed run.holds run.exchanges passed
          exact ⟨earlier, by
            rw [callOf.trace.payloads, payloads, List.append_assoc]; rfl⟩
        · simp [callOf.status, handedOff] at isReplied
      · intro other handedOther unearned
        obtain rfl := only other handedOther
        rcases outcome_cases concluded with
          ⟨passedReply, passed, rfl⟩ | ⟨-, reason, detail, rfl⟩
        · exact (unearned ⟨_, (earned_iff _).2 passed⟩).elim
        · exact ⟨callOf.status, callOf.reply⟩

/-- A call that replies comes from an account whose reply passed. -/
theorem passed_of_replied
    {ρ : Type} {wiring : Wiring} {ticketId : String} {ticket : Ticket}
    {before after : Service ρ} {account : Account} {events : List Event}
    (run : RunOf wiring ticketId ticket before after account events)
    {call : FinaliseCall} (handed : HandedOver before after call)
    (isReplied : call.status = .replied) :
    ∃ reply, call.reply = some reply ∧ Passed account reply := by
  cases concluded : account.outcome wiring.maxIterations with
  | error exc =>
      rw [HandedOver, run.withheld exc concluded] at handed
      simp at handed
  | ok outcome =>
      rcases run.handed outcome concluded with ⟨only, handedOnly, callOf⟩
      cases HandedOver.unique handedOnly handed
      rcases outcome_cases concluded with
        ⟨reply, passed, rfl⟩ | ⟨-, reason, detail, rfl⟩
      · exact ⟨reply, callOf.reply, passed⟩
      · simp [callOf.status, handedOff] at isReplied

section

variable {ρ : Type} (repository : TicketRepository ρ) (wiring : Wiring)
variable (storeClock : List Event → Reading)

/--
Whatever the collaborators do, a run hands over a reply exactly when the
answers they gave earn it, and a handoff without a reply otherwise.
-/
theorem runPipeline_replies_as_earned
    {ticketId : String} {ticket : Ticket} {service : Service ρ} {store : ρ}
    (found :
      repository.get ticketId service.store = .ok (some ticket) store) :
    ∃ events,
      RepliesAsEarned wiring ticketId service
        (finalState (runPipeline repository wiring storeClock ticketId)
          service)
        events := by
  obtain ⟨account, events, run⟩ := ends_finalState
    (runPipeline_ends repository wiring storeClock found)
  exact ⟨events, repliesAsEarned_of_run run⟩

end

/-- A model that fetches the user and the invoices, and then replies. -/
def billingModel : LLMClient :=
  scriptedModel .billingQuestion
    [.toolCall (callFor "get_user" "u_anna"),
      .toolCall (callFor "get_invoices" "u_anna"),
      .reply .billingAllPaid]

def anna : User where
  userId := "u_anna"
  name := "Anna"
  language := "en"
  plan := "basic"

def paidInvoice : Invoice where
  invoiceId := "inv_1"
  amount := { negative := false, coefficient := 1250, exponent := -2 }
  currency := "EUR"
  status := .paid
  issuedAt := epoch

/-- A tool runner that knows one user with one invoice. -/
def paidAccount (tool : String) (_args : Dict) : Except Exc ToolResult :=
  if tool = "get_user" then .ok { tool, records := [.user anna] }
  else .ok { tool, records := [.invoice paidInvoice] }

def waitingService : Service Store where
  store := waitingStore
  metrics := .create
  events := []
  finalised := []

theorem billing_found :
    (memoryRepository asciiText plainPydantic).get "t1"
        waitingService.store =
      .ok (some waitingTicket) waitingStore :=
  rfl

theorem billing_replies_as_earned :
    ∃ events,
      RepliesAsEarned (wiringOf billingModel paidAccount) "t1" waitingService
        (finalState
          (runPipeline (memoryRepository asciiText plainPydantic)
            (wiringOf billingModel paidAccount) standingClock "t1")
          waitingService)
        events :=
  runPipeline_replies_as_earned (memoryRepository asciiText plainPydantic)
    (wiringOf billingModel paidAccount) standingClock billing_found

end SupportAssistant.Pipeline.Replies
