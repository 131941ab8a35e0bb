import SupportAssistant.Effects.Lockstep
import SupportAssistant.Observability.Logging
import SupportAssistant.Pipeline.FakeRun
import SupportAssistant.Pipeline.WritableRuns

/-!
# What the customer's words can do

The deterministic model reads a ticket's subject and body to classify it, and
for nothing else.  Two runs for one user whose tickets are classified alike
keep in lockstep, as long as the tools, the resolver and the clock answer
alike: they record the same steps, log the same lines and hand over the same
outcome.
-/

namespace SupportAssistant.Pipeline.CustomerWords

open SupportAssistant.Effects.Mapping
open SupportAssistant.Enums
open SupportAssistant.Runtime
open SupportAssistant.Runtime.Ascii
open SupportAssistant.Effects.Outcomes
open SupportAssistant.Effects.Lockstep
open SupportAssistant.Tracing.Models
open SupportAssistant.Tracing.Recorder
open SupportAssistant.Domain
open SupportAssistant.Llm.Fake (classifyIntent decideNextStep)
open SupportAssistant.Storage.Protocol
open SupportAssistant.Storage.Codec
open SupportAssistant.Storage.Memory
open SupportAssistant.Observability.Metrics
open SupportAssistant.Observability.Logging
open SupportAssistant.Pipeline.Collaborators
open SupportAssistant.Pipeline.Orchestrator
open SupportAssistant.Pipeline.RunSpec
open SupportAssistant.Pipeline.Handover
open SupportAssistant.Pipeline.Scripted
open SupportAssistant.Pipeline.Replies
open SupportAssistant.Pipeline.DefaultWiring
open SupportAssistant.Pipeline.FakeRun
open SupportAssistant.Pipeline.WritableRuns

/-! ## Runs side by side -/

/--
After the same exchanges of a run, the tools, the resolver and the clock
answer alike, whatever had happened in the two services before.
-/
structure SameAnswers (before before' : List Event)
    (wiring wiring' : Wiring) : Prop where
  py : wiring'.py = wiring.py
  pydantic : wiring'.pydantic = wiring.pydantic
  maxIterations : wiring'.maxIterations = wiring.maxIterations
  tools (events : List Event) (tool : String) (args : Dict) :
    wiring.tools (before ++ events) tool args =
      wiring'.tools (before' ++ events) tool args
  resolveTemplate (events : List Event) (name : ReplyTemplate) :
    wiring.resolveTemplate (before ++ events) name =
      wiring'.resolveTemplate (before' ++ events) name
  clock (events : List Event) :
    wiring.clock (before ++ events) = wiring'.clock (before' ++ events)

/-- Two runs that have recorded the same steps and had the same exchanges. -/
structure Abreast (before before' : List Event)
    (left right : RunState) : Prop where
  recorder : left.recorder = right.recorder
  inFlight : left.inFlight = right.inFlight
  events : ∃ added,
    left.events = before ++ added ∧ right.events = before' ++ added

section

variable {before before' : List Event} {wiring wiring' : Wiring}
variable {ticket ticket' : Ticket} {α : Type}

theorem Abreast.start (before before' : List Event) :
    Abreast before before' (RunState.start before)
      (RunState.start before') where
  recorder := rfl
  inFlight := rfl
  events := ⟨[], by simp [RunState.start]⟩

theorem Abreast.addEvent
    {left right : RunState} (abreast : Abreast before before' left right)
    (event : Event) :
    Abreast before before' (left.addEvent event) (right.addEvent event) where
  recorder := abreast.recorder
  inFlight := abreast.inFlight
  events := by
    rcases abreast.events with ⟨added, isLeft, isRight⟩
    refine ⟨added ++ [event], ?_, ?_⟩
    · rw [RunState.addEvent, isLeft, List.append_assoc]
    · rw [RunState.addEvent, isRight, List.append_assoc]

theorem lockstep_consult
    {oracle oracle' : List Event → Except Exc α}
    (event : Except Exc α → Event)
    (alike : ∀ events,
      oracle (before ++ events) = oracle' (before' ++ events)) :
    InLockstep (Abreast before before') (consult oracle event)
      (consult oracle' event) := by
  apply lockstep_get_bind
  intro left right abreast
  rcases abreast.events with ⟨added, isLeft, isRight⟩
  rw [isLeft, isRight, alike added]
  apply lockstep_bind
  · apply lockstep_modify
    intro left right abreast
    exact abreast.addEvent _
  · intro _
    exact lockstep_answer _

theorem lockstep_setInFlight (tool : Option String) :
    InLockstep (Abreast before before') (setInFlight tool)
      (setInFlight tool) := by
  apply lockstep_modify
  intro left right abreast
  exact ⟨abreast.recorder, rfl, abreast.events⟩

/-! ## Recording -/

theorem Abreast.bumped
    {left right : RunState} (abreast : Abreast before before' left right) :
    Abreast before before' (bumpSeq left) (bumpSeq right) where
  recorder := by simp only [bumpSeq, abreast.recorder]
  inFlight := abreast.inFlight
  events := abreast.events

theorem Abreast.appended
    {left right : RunState} (abreast : Abreast before before' left right)
    (step : TraceStep) :
    Abreast before before' (appendStep step left)
      (appendStep step right) where
  recorder := by simp only [appendStep, abreast.recorder]
  inFlight := abreast.inFlight
  events := abreast.events

variable (same : SameAnswers before before' wiring wiring')

include same

theorem lockstep_now :
    InLockstep (Abreast before before') (now wiring) (now wiring') := by
  apply lockstep_get_bind
  intro left right abreast
  rcases abreast.events with ⟨added, isLeft, isRight⟩
  rw [isLeft, isRight, same.clock added]
  apply lockstep_bind
  · apply lockstep_modify
    intro left right abreast
    exact abreast.addEvent _
  · intro _
    exact lockstep_pure _

theorem lockstep_record (payload : Payload) :
    InLockstep (Abreast before before') (record wiring payload)
      (record wiring' payload) := by
  apply lockstep_bind
  · apply lockstep_modify
    intro left right abreast
    exact abreast.bumped
  intro _
  apply lockstep_bind (lockstep_now same)
  intro ts
  apply lockstep_get_bind
  intro left right abreast
  rw [abreast.recorder, same.py, same.pydantic]
  cases TraceStep.validate? right.recorder.seq ts payload with
  | none => exact lockstep_throw _
  | some step =>
      apply lockstep_bind
      · apply lockstep_modify
        intro left right abreast
        exact abreast.appended step
      · intro _
        apply lockstep_modify
        intro left right abreast
        exact abreast.addEvent _

/-! ## Tools and templates -/

theorem lockstep_runTool (call : ToolCall) :
    InLockstep (Abreast before before') (runTool wiring call)
      (runTool wiring' call) := by
  apply lockstep_bind (lockstep_setInFlight _)
  intro _
  apply lockstep_bind (lockstep_record same _)
  intro _
  apply lockstep_bind
  · apply lockstep_tryCatch
    · apply lockstep_bind
        (lockstep_consult _ fun events => same.tools events _ _)
      intro result
      rw [same.py]
      apply lockstep_bind (lockstep_answer _)
      intro summary
      exact lockstep_pure _
    · intro exc
      apply lockstep_bind
      · apply lockstep_bind (lockstep_answer _)
        intro message
        exact lockstep_pure _
      intro error
      apply lockstep_bind (lockstep_record same _)
      intro _
      exact lockstep_throw exc
  rintro ⟨result, summary⟩
  apply lockstep_bind (lockstep_record same _)
  intro _
  exact lockstep_pure result

theorem lockstep_ground (name : ReplyTemplate) (history : List Observation) :
    InLockstep (Abreast before before') (ground wiring name history)
      (ground wiring' name history) := by
  apply lockstep_bind
    (lockstep_consult _ fun events => same.resolveTemplate events name)
  intro template
  rw [same.py]
  apply lockstep_bind (lockstep_answer _)
  intro reply
  apply lockstep_bind (lockstep_answer _)
  intro checked
  apply lockstep_bind (lockstep_record same _)
  intro _
  split
  · exact lockstep_pure _
  · exact lockstep_pure _

end

/-! ## The deterministic model -/

/-- Of the ticket, its choice takes the owner and the intent. -/
theorem decideNextStep_congr
    {py : PyText} {ticket ticket' : Ticket}
    (owner : ticket.userId = ticket'.userId)
    (intent : (classifyIntent py ticket).intent =
      (classifyIntent py ticket').intent)
    (history : List Observation) :
    decideNextStep py ticket history = decideNextStep py ticket' history := by
  simp only [decideNextStep, owner, intent]

section

variable {before before' : List Event} {wiring wiring' : Wiring}
variable {ticket ticket' : Ticket}
variable (same : SameAnswers before before' wiring wiring')
variable (faked : Faked wiring) (faked' : Faked wiring')
variable (classified :
  classifyIntent wiring.py ticket = classifyIntent wiring.py ticket')

include same faked faked' classified

theorem lockstep_askIntent :
    InLockstep (Abreast before before') (askIntent wiring ticket)
      (askIntent wiring' ticket') := by
  apply lockstep_consult
  intro events
  rw [faked, faked', same.py]
  exact congrArg Except.ok classified

variable (owner : ticket.userId = ticket'.userId)

include owner

theorem lockstep_askStep (history : List Observation) :
    InLockstep (Abreast before before') (askStep wiring ticket history)
      (askStep wiring' ticket' history) := by
  apply lockstep_consult
  intro events
  have intent := congrArg Classification.intent classified
  rw [faked, faked', same.py, fakeLlm]
  dsimp only
  rw [decideNextStep_congr owner intent]

theorem lockstep_loop
    (iterations : List Int) (history : List Observation) :
    InLockstep (Abreast before before')
      (loop wiring ticket iterations history)
      (loop wiring' ticket' iterations history) := by
  induction iterations generalizing history with
  | nil =>
      simp only [loop, same.maxIterations]
      exact lockstep_pure _
  | cons iteration iterations induction =>
      simp only [loop]
      apply lockstep_bind
        (lockstep_askStep same faked faked' classified owner history)
      intro step
      apply lockstep_bind (lockstep_record same _)
      intro _
      cases step with
      | toolCall call =>
          apply lockstep_bind (lockstep_runTool same call)
          intro result
          apply lockstep_bind (lockstep_setInFlight none)
          intro _
          exact induction _
      | reply name => exact lockstep_ground same name history
      | handoff reason => exact lockstep_pure _

theorem lockstep_decideBody :
    InLockstep (Abreast before before') (decideBody wiring ticket)
      (decideBody wiring' ticket') := by
  apply lockstep_bind (lockstep_askIntent same faked faked' classified)
  intro classification
  apply lockstep_bind (lockstep_record same _)
  intro _
  split
  · exact lockstep_pure _
  · rw [same.maxIterations]
    exact lockstep_loop same faked faked' classified owner _ []

omit same faked faked' classified owner in
theorem lockstep_toolDetail (inFlight : Option String) (exc : Exc) :
    InLockstep (Abreast before before') (toolDetail inFlight exc)
      (toolDetail inFlight exc) := by
  apply lockstep_bind (lockstep_answer _)
  intro message
  cases inFlight with
  | none => exact lockstep_pure _
  | some tool =>
      dsimp only
      split
      · exact lockstep_pure _
      · exact lockstep_pure _

omit same faked faked' classified owner in
theorem lockstep_failClosed (exc : Exc) :
    InLockstep (Abreast before before') (failClosed exc)
      (failClosed exc) := by
  apply lockstep_get_bind
  intro left right abreast
  rw [abreast.inFlight]
  cases exc.clause with
  | userNotFound =>
      apply lockstep_bind (lockstep_toolDetail _ exc)
      intro detail
      exact lockstep_pure _
  | noDataAvailable =>
      apply lockstep_bind (lockstep_toolDetail _ exc)
      intro detail
      exact lockstep_pure _
  | other =>
      apply lockstep_bind (lockstep_answer _)
      intro detail
      exact lockstep_pure _

/-- The two runs conclude alike, with the same steps and exchanges. -/
theorem lockstep_conclude :
    InLockstep (Abreast before before') (conclude wiring ticket)
      (conclude wiring' ticket') := by
  apply lockstep_bind
  · apply lockstep_tryCatch
    · exact lockstep_decideBody same faked faked' classified owner
    · exact lockstep_failClosed
  intro outcome
  apply lockstep_bind (lockstep_record same _)
  intro _
  exact lockstep_pure outcome

end

/-! ## The lines of a run -/

/-- The deterministic model calls tools with flat values. -/
theorem shallow_of_faked {wiring : Wiring} (faked : Faked wiring)
    {events : List Event} {ticket : Ticket} {history : List Observation}
    {call : ToolCall}
    (decided : wiring.llm.decideNextStep events ticket history =
      .ok (.toolCall call)) :
    AllJson call.args ∧ Shallow wiring.py.dumpDepth call.args := by
  rw [faked, fakeLlm_decideNextStep] at decided
  rcases (decideNextStep_ok decided).call with
    ⟨-, rfl⟩ | ⟨-, -, rfl⟩ <;>
    simp [AllJson, Shallow, Json.depth, Llm.Fake.callFor]

/-- The events since `before`, and the line of each step among them. -/
def Logged (py : PyText) (time : TimeText) (before : List Event)
    (state : RunState) : Prop :=
  ∃ added lines, state.events = before ++ added ∧
    (loggedSteps added).mapM (logStep py time none) = some lines

theorem logged_of_ran
    (py : PyText) (time : TimeText) {before : List Event} {state : RunState}
    {payloads : List Payload} {exchanges : List Event}
    (ran : Ran (RunState.start before) state payloads exchanges)
    (json : ∀ payload ∈ payloads, JsonValued payload)
    (shallow : ∀ payload ∈ payloads,
      Shallow py.dumpDepth (freeValues payload)) :
    Logged py time before state := by
  rcases ran with ⟨steps, added, ran, rfl, -⟩
  have written : ∀ step ∈ loggedSteps added,
      ∃ line, logStep py time none step = some line := by
    intro step member
    rw [ran.hook] at member
    have recorded := List.mem_map_of_mem (f := TraceStep.payload) member
    rcases dumpPayload_of_jsonValued (json _ recorded) (shallow _ recorded)
      with ⟨fields, dumped⟩
    exact logStep_of_dumped time none dumped
  rcases mapM_of_forall written with ⟨lines, areLines⟩
  exact ⟨added, lines, ran.eventsAdded, areLines⟩

/-- Every step that a run of the deterministic model records has a line. -/
theorem logged_of_faked
    {wiring : Wiring} (faked : Faked wiring) (ticket : Ticket)
    (before : List Event) (time : TimeText) :
    Logged wiring.py time before
      (finalState (conclude wiring ticket) (RunState.start before)) := by
  have json : JsonArgs wiring := fun _ _ _ _ decided =>
    (shallow_of_faked faked decided).1
  have args : ∀ events history call,
      wiring.llm.decideNextStep events ticket history =
          .ok (.toolCall call) →
        Shallow wiring.py.dumpDepth call.args :=
    fun _ _ _ decided => (shallow_of_faked faked decided).2
  apply ends_finalState
  apply ends_mono (conclude_ends wiring ticket before)
  · rintro outcome state ⟨account, holds, -, ran⟩
    exact logged_of_ran wiring.py time ran
      (payloads_jsonValued json holds outcome)
      (payloads_shallow args holds outcome)
  · rintro exc state ⟨account, holds, -, ran⟩
    apply logged_of_ran wiring.py time ran <;> intro payload member
    · exact payloads_jsonValued json holds (replied "") payload
        (List.mem_append_left _ member)
    · exact payloads_shallow args holds (replied "") payload
        (List.mem_append_left _ member)

/-! ## What a run produces -/

/-- The outcome and the steps of a run that came to a conclusion. -/
def conclusionOf :
    EStateM.Result Exc RunState Outcome → Option (Outcome × List TraceStep)
  | .ok outcome state => some (outcome, state.recorder.steps)
  | .error _ _ => none

/-- The call that a conclusion is handed over with. -/
def callsOf (ticketId : String)
    (concluded : Option (Outcome × List TraceStep)) : List FinaliseCall :=
  concluded.toList.map fun pair => finaliseCall ticketId pair.1 pair.2

/-- What a run handed over and logged, the ticket's identifier apart. -/
structure Produced {ρ : Type} (py : PyText) (time : TimeText)
    (ticketId : String)
    (before after : Service ρ)
    (concluded : Option (Outcome × List TraceStep))
    (lines : List LogLine) : Prop where
  handed : after.finalised = before.finalised ++ callsOf ticketId concluded
  logged : ∃ events, after.events = before.events ++ events ∧
    (loggedSteps events).mapM (logStep py time (some ticketId)) =
      some (lines.map (·.boundTo (some ticketId)))

/-- A run leaves what its conclusion determines, whatever `finalise` does. -/
theorem runPipeline_leaves
    {ρ : Type} (repository : TicketRepository ρ) (wiring : Wiring)
    (storeClock : List Event → Reading)
    {ticketId : String} {ticket : Ticket} {service : Service ρ} {store : ρ}
    (found :
      repository.get ticketId service.store = .ok (some ticket) store) :
    (finalState (runPipeline repository wiring storeClock ticketId)
          service).events =
        (finalState (conclude wiring ticket)
          (RunState.start service.events)).events ∧
      (finalState (runPipeline repository wiring storeClock ticketId)
          service).finalised =
        service.finalised ++
          callsOf ticketId
            (conclusionOf
              (conclude wiring ticket (RunState.start service.events))) := by
  let Leaves (after : Service ρ) : Prop :=
    after.events =
        (finalState (conclude wiring ticket)
          (RunState.start service.events)).events ∧
      after.finalised =
        service.finalised ++
          callsOf ticketId
            (conclusionOf
              (conclude wiring ticket (RunState.start service.events)))
  apply @ends_finalState _ _ _ _ _ Leaves
  simp only [runPipeline, beginRun, bind_assoc]
  apply ends_bind (fun value after =>
    value = some ticket ∧ after = { service with store })
  · apply onStore_ends
    unfold Ends
    rw [found]
    exact ⟨rfl, rfl⟩
  rintro - - ⟨rfl, rfl⟩
  apply ends_bind (fun pair after =>
    after.events =
        (finalState (conclude wiring ticket)
          (RunState.start service.events)).events ∧
      after.finalised = service.finalised ∧
        conclusionOf
            (conclude wiring ticket (RunState.start service.events)) =
          some pair)
  · apply onRun_ends
    rw [ends_iff]
    constructor
    · intro outcome state ran
      change conclude wiring ticket (RunState.start service.events) =
        .ok outcome state at ran
      simp only [finalState, ran, conclusionOf, and_self]
    · intro exc state ran
      change conclude wiring ticket (RunState.start service.events) =
        .error exc state at ran
      simp only [Leaves, finalState, ran, conclusionOf, callsOf,
        Option.toList_none, List.map_nil, List.append_nil, and_self]
  rintro ⟨outcome, steps⟩ concluded ⟨sameEvents, none, concludes⟩
  have handedOver : ∀ after : Service ρ,
      after.events = concluded.events ∧
          after.finalised = concluded.finalised ++
            [finaliseCall ticketId outcome steps] →
        Leaves after := by
    rintro after ⟨events, handed⟩
    constructor
    · exact events.trans sameEvents
    · rw [handed, none, concludes]
      rfl
  apply ends_get_bind
  exact ends_mono
    (finishRun_ends repository ticketId
      (storeClock concluded.events) outcome steps concluded)
    (fun _ after => handedOver after) (fun _ after => handedOver after)

/--
Two runs of the deterministic model for one user, on tickets that it
classifies alike, produce the same outcome, the same trace and the same lines.
-/
theorem run_sees_only_the_classification
    {ρ σ : Type} (repository : TicketRepository ρ)
    (repository' : TicketRepository σ)
    {wiring wiring' : Wiring}
    (faked : Faked wiring) (faked' : Faked wiring')
    {service : Service ρ} {service' : Service σ}
    (same : SameAnswers service.events service'.events wiring wiring')
    {ticketId ticketId' : String} {ticket ticket' : Ticket}
    {store : ρ} {store' : σ}
    (found :
      repository.get ticketId service.store = .ok (some ticket) store)
    (found' :
      repository'.get ticketId' service'.store = .ok (some ticket') store')
    (owner : ticket.userId = ticket'.userId)
    (classified :
      classifyIntent wiring.py ticket = classifyIntent wiring.py ticket')
    (storeClock storeClock' : List Event → Reading) (time : TimeText) :
    ∃ concluded lines,
      Produced wiring.py time ticketId service
          (finalState
            (runPipeline repository wiring storeClock ticketId) service)
          concluded lines ∧
        Produced wiring'.py time ticketId' service'
          (finalState
            (runPipeline repository' wiring' storeClock' ticketId') service')
          concluded lines := by
  have lockstep := lockstep_conclude same faked faked' classified owner
  have start := Abreast.start service.events service'.events
  rcases runPipeline_leaves repository wiring storeClock found with
    ⟨events, handed⟩
  rcases runPipeline_leaves repository' wiring' storeClock' found' with
    ⟨events', handed'⟩
  rcases logged_of_faked faked ticket service.events time with
    ⟨added, lines, isAdded, areLines⟩
  rcases (lockstep.finalState start).events with ⟨both, isLeft, isRight⟩
  have sameAdded : both = added :=
    List.append_cancel_left (isLeft.symm.trans isAdded)
  rw [sameAdded] at isRight
  have sameConclusion :
      conclusionOf
          (conclude wiring' ticket' (RunState.start service'.events)) =
        conclusionOf
          (conclude wiring ticket (RunState.start service.events)) := by
    have tied := lockstep _ _ start
    generalize conclude wiring ticket _ = result at tied
    generalize conclude wiring' ticket' _ = result' at tied
    cases tied with
    | returned abreast => simp only [conclusionOf, abreast.recorder]
    | raised => rfl
  have bound (ticketId : String) :
      (loggedSteps added).mapM (logStep wiring.py time (some ticketId)) =
        some (lines.map (·.boundTo (some ticketId))) := by
    rw [mapM_logStep_boundTo, areLines]
    rfl
  refine ⟨_, lines, ⟨handed, added, events.trans isAdded, bound ticketId⟩,
    ⟨?_, added, events'.trans isRight, same.py.symm ▸ bound ticketId'⟩⟩
  rw [handed', sameConclusion]

/-- Another ticket of the same user, in other words. -/
def otherWords : Ticket where
  id := "t2"
  userId := "u_anna"
  subject := "Ref. 4711, urgent!"
  body := "Why does my INVOICE look odd?"
  status := .processing
  reply := none
  handoffReason := none
  createdAt := epoch
  updatedAt := epoch
  trace := []
  userIdOk := waitingTicket.userIdOk
  subjectOk := rfl
  bodyOk := rfl
  agrees := processing_agrees

/-- A service where that ticket waits, and which has a past. -/
def laterService : Service Store where
  store := [(otherWords.id, otherWords)]
  metrics := .create
  events := [.clockRead epoch]
  finalised := []

theorem otherWords_found :
    (memoryRepository asciiText plainPydantic).get "t2" laterService.store =
      .ok (some otherWords) laterService.store :=
  rfl

def fakeWiring : Wiring :=
  sampleWiring (fakeLlm asciiText) "42.10"

theorem fakeWiring_faked : Faked fakeWiring :=
  sampleWiring_faked "42.10"

theorem alike_later :
    SameAnswers waitingService.events laterService.events fakeWiring
      fakeWiring where
  py := rfl
  pydantic := rfl
  maxIterations := rfl
  tools := fun _ _ _ => rfl
  resolveTemplate := fun _ _ => rfl
  clock := fun _ => rfl

theorem otherWords_classified_alike :
    classifyIntent fakeWiring.py waitingTicket =
      classifyIntent fakeWiring.py otherWords := by
  decide +kernel

theorem otherWords_run_alike :
    ∃ concluded lines,
      Produced asciiText tallyTime "t1" waitingService
          (finalState
            (runPipeline (memoryRepository asciiText plainPydantic)
              fakeWiring standingClock "t1")
            waitingService)
          concluded lines ∧
        Produced asciiText tallyTime "t2" laterService
          (finalState
            (runPipeline (memoryRepository asciiText plainPydantic)
              fakeWiring standingClock "t2")
            laterService)
          concluded lines :=
  run_sees_only_the_classification
    (memoryRepository asciiText plainPydantic)
    (memoryRepository asciiText plainPydantic) fakeWiring_faked
    fakeWiring_faked alike_later billing_found otherWords_found rfl
    otherWords_classified_alike standingClock standingClock tallyTime

end SupportAssistant.Pipeline.CustomerWords
