import SupportAssistant.Llm.Fake
import SupportAssistant.Pipeline.Replies
import SupportAssistant.Tools.Ownership

/-!
# The default wiring

The registry over the fixture files, the default templates, and the
deterministic model.  The files may change between two calls.
-/

namespace SupportAssistant.Pipeline.DefaultWiring

open SupportAssistant.Runtime
open SupportAssistant.Runtime.Ascii
open SupportAssistant.Effects.Outcomes
open SupportAssistant.Domain
open SupportAssistant.Llm.Templates
open SupportAssistant.Llm.Fake (callFor)
open SupportAssistant.Tools.Loaders
open SupportAssistant.Tools.Registry
open SupportAssistant.Tools.Ownership
open SupportAssistant.Storage.Protocol
open SupportAssistant.Storage.Memory
open SupportAssistant.Pipeline.Collaborators
open SupportAssistant.Pipeline.Orchestrator
open SupportAssistant.Pipeline.Accounts
open SupportAssistant.Pipeline.Handover
open SupportAssistant.Pipeline.Scripted
open SupportAssistant.Pipeline.Replies

/-- A run resolves templates with `spec_for`, whatever else it is handed. -/
def DefaultTemplates (py : PyText) (wiring : Wiring) : Prop :=
  wiring.py = py ∧ ∀ events name,
    wiring.resolveTemplate events name = .ok (specFor py name)

/-- The tools are those of the registry, over these files. -/
def OverRegistry (fixtures : List Event → Fixtures) (wiring : Wiring) :
    Prop :=
  ∀ events tool args,
    wiring.tools events tool args =
      run wiring.py wiring.pydantic (fixtures events) tool args

/-- `FakeLLM` behind the seam. -/
def fakeLlm (py : PyText) : LLMClient where
  classifyIntent _ ticket := .ok (Llm.Fake.classifyIntent py ticket)
  decideNextStep _ ticket history :=
    Llm.Fake.decideNextStep py ticket history

theorem fakeLlm_decideNextStep
    (py : PyText) (events : List Event) (ticket : Ticket)
    (history : List Observation) :
    (fakeLlm py).decideNextStep events ticket history =
      Llm.Fake.decideNextStep py ticket history := by
  simp only [fakeLlm]

/-- The model is the deterministic one. -/
def Faked (wiring : Wiring) : Prop :=
  wiring.llm = fakeLlm wiring.py

/-! ## Calls over the registry -/

theorem validateUserIdArgs_callFor
    {tool userId : String} (valid : userIdValid userId = true) :
    validateUserIdArgs (callFor tool userId).args = .ok userId := by
  have nonempty : 1 ≤ userId.length := of_decide_eq_true valid
  simp [validateUserIdArgs, callFor, AnyValue.string?, Option.filter, nonempty]

/-- A call that was answered was dispatched for the user of its arguments. -/
theorem dispatched_of_answered
    {fixtures : List Event → Fixtures} {wiring : Wiring}
    (registry : OverRegistry fixtures wiring)
    {call : ToolCall} {result : ToolResult}
    (answered : ToolAnswered wiring call (.ok result)) :
    ∃ before userId,
      validateUserIdArgs call.args = .ok userId ∧
        @Dispatched wiring.py wiring.pydantic (fixtures before) userId
          call.tool result.records := by
  rcases answered with ⟨before, answered⟩
  rw [registry] at answered
  rcases run_ok answered with ⟨userId, accepted, -, dispatched⟩
  exact ⟨before, userId, accepted, dispatched⟩

theorem dispatched_of_callFor
    {fixtures : List Event → Fixtures} {wiring : Wiring}
    (registry : OverRegistry fixtures wiring)
    {ticket : Ticket} {tool : String} {result : ToolResult}
    (answered :
      ToolAnswered wiring (callFor tool ticket.userId) (.ok result)) :
    ∃ before,
      @Dispatched wiring.py wiring.pydantic (fixtures before) ticket.userId
        tool result.records := by
  rcases dispatched_of_answered registry answered with
    ⟨before, userId, accepted, dispatched⟩
  rw [validateUserIdArgs_callFor ticket.userIdOk] at accepted
  cases accepted
  exact ⟨before, dispatched⟩

/-! ## Runs over the sample files -/

def sampleWiring (llm : LLMClient) (amount : String) : Wiring :=
  wiringOf llm (sampleTools amount)

theorem sampleWiring_overRegistry (llm : LLMClient) (amount : String) :
    OverRegistry (fun _ => sampleFixtures amount) (sampleWiring llm amount) :=
  fun _ _ _ => rfl

theorem sampleWiring_faked (amount : String) :
    Faked (sampleWiring (fakeLlm asciiText) amount) :=
  rfl

/-- The service after the run of the waiting ticket. -/
def sampleRun (llm : LLMClient) (amount : String) : Service Store :=
  finalState
    (runPipeline (memoryRepository asciiText plainPydantic)
      (sampleWiring llm amount) standingClock "t1")
    waitingService

theorem exists_handedOver
    {α : Type} {field : FinaliseCall → α} {after : Service Store} {value : α}
    (fields : after.finalised.map field = [value]) :
    ∃ call, HandedOver waitingService after call ∧ field call = value :=
  List.map_eq_singleton_iff.mp fields

end SupportAssistant.Pipeline.DefaultWiring
