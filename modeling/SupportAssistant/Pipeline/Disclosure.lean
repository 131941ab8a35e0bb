import SupportAssistant.Pipeline.FakeRun
import SupportAssistant.Pipeline.Handover
import SupportAssistant.Pipeline.Scripted

/-!
# Whose data a reply is rendered from

The model chooses the arguments of every tool call, and nothing compares them
with the ticket.  A reply is rendered from the records of the users the model
asked for, each a row the fixture files hold for that user.  The deterministic
model asks for the owner of the ticket alone.
-/

namespace SupportAssistant.Pipeline.Disclosure

open SupportAssistant.Enums
open SupportAssistant.Runtime
open SupportAssistant.Runtime.Ascii
open SupportAssistant.Effects.Outcomes
open SupportAssistant.Domain
open SupportAssistant.Llm.Fake (callFor)
open SupportAssistant.Tools.Loaders
open SupportAssistant.Tools.Registry
open SupportAssistant.Tools.Ownership
open SupportAssistant.Storage.Protocol
open SupportAssistant.Storage.Memory
open SupportAssistant.Pipeline.Collaborators
open SupportAssistant.Pipeline.Orchestrator
open SupportAssistant.Pipeline.Accounts
open SupportAssistant.Pipeline.RunSpec
open SupportAssistant.Pipeline.Handover
open SupportAssistant.Pipeline.Scripted
open SupportAssistant.Pipeline.Replies
open SupportAssistant.Pipeline.DefaultWiring
open SupportAssistant.Pipeline.FakeRun

/-- The call was made for this user. -/
def MadeFor (userId : String) (call : ToolCall) : Prop :=
  validateUserIdArgs call.args = .ok userId

/-- The records of the observation are rows of the user it was made for. -/
def OwnedAnswer (wiring : Wiring) (fixtures : List Event → Fixtures)
    (observation : Observation) : Prop :=
  ∃ userId before, MadeFor userId observation.step ∧
    ∀ record ∈ observation.result.records,
      Owned wiring.py wiring.pydantic (fixtures before) userId record

/-- Every round of a loop is a call that the tool runner answered. -/
theorem answered_of_round
    {wiring : Wiring} {ticket : Ticket} {history : List Observation}
    {left : Nat} {rounds : List Round} {ending : Ending}
    (looped : Looped wiring ticket history left rounds ending) :
    ∀ round ∈ rounds, ToolAnswered wiring round.call (.ok round.result) := by
  induction looped with
  | round decided answered summarised later induction =>
      intro round member
      rcases List.mem_cons.mp member with rfl | member
      · exact answered
      · exact induction round member
  | _ => simp

theorem ownedAnswer_of_answered
    {wiring : Wiring} {fixtures : List Event → Fixtures}
    (registry : OverRegistry fixtures wiring)
    {call : ToolCall} {result : ToolResult}
    (answered : ToolAnswered wiring call (.ok result)) :
    OwnedAnswer wiring fixtures ⟨call, result⟩ := by
  rcases dispatched_of_answered registry answered with
    ⟨before, userId, accepted, dispatched⟩
  exact ⟨userId, before, accepted, dispatched.owned⟩

/-- What a run that replied shows of whom. -/
structure Disclosed (wiring : Wiring) (fixtures : List Event → Fixtures)
    (ticket : Ticket) (events : List Event) (reply : String) : Prop where
  earned : Earned wiring.py events reply
  owned : ∀ observation ∈ observations events,
    OwnedAnswer wiring fixtures observation
  ownTicket : Faked wiring → ∀ observation ∈ observations events,
    MadeFor ticket.userId observation.step

theorem disclosed_of_passed
    {wiring : Wiring} {fixtures : List Event → Fixtures}
    (registry : OverRegistry fixtures wiring)
    {ticket : Ticket} {account : Account} {events : List Event}
    (holds : account.Holds wiring ticket)
    (exchanges : exchangesOf events = account.exchanges)
    {reply : String} (passed : Passed account reply) :
    Disclosed wiring fixtures ticket events reply := by
  refine
    { earned := earned_of_passed holds exchanges passed
      owned := ?_
      ownTicket := ?_ }
  · rcases passed with
      ⟨classification, rounds, name, template, literals, rfl⟩
    have observed : observations events = rounds.map Round.observation := by
      rw [observations_looped exchanges]
      exact List.append_nil _
    cases holds with
    | looped asked known ran =>
        rw [observed]
        intro observation member
        rcases List.mem_map.mp member with ⟨round, isRound, rfl⟩
        exact ownedAnswer_of_answered registry
          (answered_of_round ran round isRound)
  · intro faked observation member
    rcases passed with
      ⟨classification, rounds, name, template, literals, rfl⟩
    have replies : ∀ history rest,
        Looped wiring ticket history rest []
            (.checked name template reply ⟨literals, []⟩) →
          Decided wiring ticket history (.ok (.reply name)) := by
      intro history rest ended
      cases ended with
      | checked decided resolved rendered verified => exact decided
    rcases (faked_run faked registry replies rfl holds exchanges).1 with
      ⟨user, data, observed⟩
    rw [observed, ownHistory] at member
    rcases List.mem_cons.mp member with rfl | member
    · exact validateUserIdArgs_callFor ticket.userIdOk
    · cases List.mem_singleton.mp member
      exact validateUserIdArgs_callFor ticket.userIdOk

section

variable {ρ : Type} (repository : TicketRepository ρ) (wiring : Wiring)
variable (storeClock : List Event → Reading)

/--
Over the registry, a reply is rendered from rows of the users that its run
asked for, and from rows of the ticket's owner alone when the model is the
deterministic one.
-/
theorem runPipeline_disclosed
    {fixtures : List Event → Fixtures}
    (registry : OverRegistry fixtures wiring)
    {ticketId : String} {ticket : Ticket} {service : Service ρ} {store : ρ}
    (found :
      repository.get ticketId service.store = .ok (some ticket) store) :
    let after :=
      finalState (runPipeline repository wiring storeClock ticketId) service
    ∃ events,
      after.events = service.events ++ events ∧
        ∀ call, HandedOver service after call → call.status = .replied →
          ∃ reply, call.reply = some reply ∧
            Disclosed wiring fixtures ticket events reply := by
  rcases ends_finalState
    (runPipeline_ends repository wiring storeClock found) with
    ⟨account, events, run⟩
  refine ⟨events, run.eventsAdded, ?_⟩
  intro call handed isReplied
  rcases passed_of_replied run handed isReplied with ⟨reply, hasReply, passed⟩
  exact ⟨reply, hasReply,
    disclosed_of_passed registry run.holds run.exchanges passed⟩

end

theorem sample_disclosed :
    ∃ events,
      (sampleRun (fakeLlm asciiText) "42.10").events =
          waitingService.events ++ events ∧
        ∀ call,
          HandedOver waitingService
              (sampleRun (fakeLlm asciiText) "42.10") call →
            call.status = .replied →
              ∃ reply, call.reply = some reply ∧
                Disclosed (sampleWiring (fakeLlm asciiText) "42.10")
                  (fun _ => sampleFixtures "42.10") waitingTicket events
                  reply :=
  runPipeline_disclosed (memoryRepository asciiText plainPydantic)
    (sampleWiring (fakeLlm asciiText) "42.10") standingClock
    (sampleWiring_overRegistry (fakeLlm asciiText) "42.10") billing_found

/-! ## A reply with the data of another user -/

/-- A model that asks for Ben, whoever wrote the ticket. -/
def strangerModel : LLMClient :=
  scriptedModel .billingQuestion
    [.toolCall (callFor "get_user" "u_ben"),
      .toolCall (callFor "get_invoices" "u_ben"), .reply .billingAllPaid]

/-- A call that was made for Ben, and found something. -/
def askedForBen (observation : Observation) : Bool :=
  (validateUserIdArgs observation.step.args).toOption == some "u_ben" &&
    !observation.result.records.isEmpty

/-- Anna's ticket is replied to from the records of Ben. -/
theorem stranger_disclosed :
    ∃ call,
      HandedOver waitingService (sampleRun strangerModel "42.10") call ∧
        call.status = .replied ∧
          ∃ observation ∈
              observations (sampleRun strangerModel "42.10").events,
            observation.result.records ≠ [] ∧
              ¬ MadeFor waitingTicket.userId observation.step := by
  have evaluated :
      (sampleRun strangerModel "42.10").finalised.map FinaliseCall.status =
          [.replied] ∧
        (observations (sampleRun strangerModel "42.10").events).any
            askedForBen = true := by
    decide +kernel
  rcases evaluated with ⟨replies, asked⟩
  rcases exists_handedOver replies with ⟨call, handed, isReplied⟩
  rcases List.any_eq_true.mp asked with ⟨observation, member, forBen⟩
  simp only [askedForBen, Bool.and_eq_true, beq_iff_eq] at forBen
  refine ⟨call, handed, isReplied, observation, member, ?_, ?_⟩
  · intro empty
    simp [empty] at forBen
  · intro forAnna
    rw [MadeFor] at forAnna
    rw [forAnna] at forBen
    exact absurd forBen.1 (by decide)

end SupportAssistant.Pipeline.Disclosure
