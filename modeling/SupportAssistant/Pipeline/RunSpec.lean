import SupportAssistant.Pipeline.Accounts

/-!
# Every run has an account

Each part of the orchestrator is specified by what it appends to the trace and
which exchanges it has, when it returns and when it raises.  The loop is
treated by induction on the iterations left.  `conclude_ends` is the result:
whatever the collaborators do, a run has an account, the trace is the one the
account determines, and so is the outcome or the exception.
-/

namespace SupportAssistant.Pipeline.RunSpec

open SupportAssistant.Enums
open SupportAssistant.Runtime
open SupportAssistant.Effects.Outcomes
open SupportAssistant.Tracing.Models
open SupportAssistant.Tracing.Recorder
open SupportAssistant.Tracing.Summarise
open SupportAssistant.Domain
open SupportAssistant.Guardrails.Grounding
open SupportAssistant.Pipeline.Collaborators
open SupportAssistant.Pipeline.Orchestrator
open SupportAssistant.Pipeline.Accounts

/-! ## The effect of a stretch of a run -/

/-- `count` consecutive numbers from `first` on. -/
def upFrom (first : Int) (count : Nat) : List Int :=
  (List.range count).map fun (index : Nat) => first + (index : Int)

/-- The events other than readings of the clock and calls of the hook. -/
def exchangesOf (events : List Event) : List Event :=
  events.filter fun
    | .clockRead _ => false
    | .stepLogged _ => false
    | _ => true

/-- From one state to a later one, these steps and events were added. -/
structure Added (before after : RunState)
    (steps : List TraceStep) (events : List Event) : Prop where
  stepsAdded : after.recorder.steps = before.recorder.steps ++ steps
  numbered :
    steps.map TraceStep.seq = upFrom (before.recorder.seq + 1) steps.length
  seqAdvanced : after.recorder.seq = before.recorder.seq + steps.length
  eventsAdded : after.events = before.events ++ events
  clock : clockReadings events = steps.map TraceStep.ts
  hook : loggedSteps events = steps

/-- A stretch of a run recorded these payloads and had these exchanges. -/
def Ran (before after : RunState)
    (payloads : List Payload) (exchanges : List Event) : Prop :=
  ∃ steps events, Added before after steps events ∧
    steps.map TraceStep.payload = payloads ∧
      exchangesOf events = exchanges

theorem upFrom_add (first : Int) (left right : Nat) :
    upFrom first (left + right) =
      upFrom first left ++ upFrom (first + left) right := by
  simp [upFrom, List.range_add, Function.comp_def, Int.add_assoc]

theorem upFrom_succ (first : Int) (count : Nat) :
    upFrom first (count + 1) = first :: upFrom (first + 1) count := by
  rw [Nat.add_comm, upFrom_add]
  simp [upFrom]

theorem iterations_eq (maxIterations : Int) :
    iterations maxIterations = upFrom 1 maxIterations.toNat := by
  simp [iterations, upFrom, Int.add_comm]

theorem Added.refl (state : RunState) : Added state state [] [] where
  stepsAdded := by simp
  numbered := rfl
  seqAdvanced := by simp
  eventsAdded := by simp
  clock := rfl
  hook := rfl

theorem Added.trans
    {first middle last : RunState}
    {steps steps' : List TraceStep} {events events' : List Event}
    (left : Added first middle steps events)
    (right : Added middle last steps' events') :
    Added first last (steps ++ steps') (events ++ events') where
  stepsAdded := by rw [right.stepsAdded, left.stepsAdded, List.append_assoc]
  numbered := by
    rw [List.map_append, left.numbered, right.numbered, left.seqAdvanced,
      List.length_append, upFrom_add]
    congr 2
    omega
  seqAdvanced := by
    rw [right.seqAdvanced, left.seqAdvanced, List.length_append]
    omega
  eventsAdded := by rw [right.eventsAdded, left.eventsAdded, List.append_assoc]
  clock := by
    simp only [clockReadings, List.filterMap_append, List.map_append]
    exact congrArg₂ _ left.clock right.clock
  hook := by
    simp only [loggedSteps, List.filterMap_append]
    exact congrArg₂ _ left.hook right.hook

theorem Ran.refl (state : RunState) : Ran state state [] [] :=
  ⟨[], [], Added.refl state, rfl, rfl⟩

theorem Ran.trans
    {first middle last : RunState}
    {payloads payloads' : List Payload}
    {exchanges exchanges' : List Event}
    (left : Ran first middle payloads exchanges)
    (right : Ran middle last payloads' exchanges') :
    Ran first last (payloads ++ payloads') (exchanges ++ exchanges') := by
  obtain ⟨steps, events, added, rfl, rfl⟩ := left
  obtain ⟨steps', events', added', rfl, rfl⟩ := right
  refine ⟨steps ++ steps', events ++ events', added.trans added', ?_, ?_⟩
  · rw [List.map_append]
  · simp [exchangesOf]

theorem Ran.seq_nonneg
    {before after : RunState}
    {payloads : List Payload} {exchanges : List Event}
    (ran : Ran before after payloads exchanges)
    (nonneg : 0 ≤ before.recorder.seq) :
    0 ≤ after.recorder.seq := by
  obtain ⟨steps, events, added, -, -⟩ := ran
  have := added.seqAdvanced
  omega

/-! ## Recording -/

section

variable (wiring : Wiring)

/-- A step that passes its checks is recorded, and recording it returns. -/
theorem record_ends
    (payload : Payload) (valid : payload.valid = true)
    {before : RunState} (nonneg : 0 ≤ before.recorder.seq) :
    Ends (record wiring payload) before
      (fun _ after =>
        Ran before after [payload] [] ∧ after.inFlight = before.inFlight)
      (fun _ _ => False) := by
  have positive : 1 ≤ before.recorder.seq + 1 := by omega
  have built := fun ts =>
    @TraceStep.validate?_of_valid _ ts _ positive valid
  let step : TraceStep :=
    { seq := before.recorder.seq + 1
      ts := wiring.clock before.events
      payload
      seqPositive := positive
      valid }
  let stamped : RunState :=
    (bumpSeq before).addEvent (.clockRead step.ts)
  let appended : RunState := appendStep step stamped
  simp only [record, now, logStep, bind_assoc, pure_bind]
  apply ends_bind _ (ends_modify (fun _ after => after = bumpSeq before) rfl)
  intro _ bumped isBumped
  rw [isBumped]
  apply ends_get_bind
  apply ends_bind _ (ends_modify (fun _ after => after = stamped) rfl)
  intro _ later isStamped
  rw [isStamped]
  apply ends_get_bind
  rw [show TraceStep.validate? stamped.recorder.seq
      (wiring.clock (bumpSeq before).events) payload = some step from
    built step.ts]
  apply ends_bind _ (ends_modify (fun _ after => after = appended) rfl)
  intro _ last isAppended
  rw [isAppended]
  apply ends_modify
  refine ⟨⟨[step], [.clockRead step.ts, .stepLogged step], ?_, rfl, rfl⟩,
    rfl⟩
  exact
    { stepsAdded := rfl
      numbered := by simp [upFrom, step]
      seqAdvanced := rfl
      eventsAdded := by
        simp [appended, stamped, appendStep, RunState.addEvent, bumpSeq]
      clock := rfl
      hook := rfl }

/-- Recording after a stretch of a run extends the stretch. -/
theorem record_after
    (payload : Payload) (valid : payload.valid = true)
    {first before : RunState}
    {payloads : List Payload} {exchanges : List Event}
    {raised : Exc → RunState → Prop}
    (ran : Ran first before payloads exchanges)
    (nonneg : 0 ≤ first.recorder.seq) :
    Ends (record wiring payload) before
      (fun _ after =>
        Ran first after (payloads ++ [payload]) exchanges ∧
          after.inFlight = before.inFlight)
      raised := by
  apply ends_mono (record_ends wiring payload valid (ran.seq_nonneg nonneg))
  · rintro - after ⟨recorded, same⟩
    have extended := ran.trans recorded
    rw [List.append_nil] at extended
    exact ⟨extended, same⟩
  · intro exc after impossible
    exact impossible.elim

/-! ## Asking -/

/-- Asking a collaborator records nothing but the exchange. -/
theorem consult_ends {α : Type}
    (oracle : List Event → Except Exc α) (event : Except Exc α → Event)
    (isExchange : ∀ result, exchangesOf [event result] = [event result])
    (before : RunState) :
    Ends (consult oracle event) before
      (fun value after =>
        Ran before after [] [event (.ok value)] ∧
          after.inFlight = before.inFlight ∧
            oracle before.events = .ok value)
      (fun exc after =>
        Ran before after [] [event (.error exc)] ∧
          after.inFlight = before.inFlight ∧
            oracle before.events = .error exc) := by
  have asked : ∀ result,
      Ran before (before.addEvent (event result)) [] [event result] := by
    intro result
    have noReading : clockReadings [event result] = [] := by
      have := isExchange result
      cases exchange : event result <;>
        simp_all [exchangesOf, clockReadings]
    have noLog : loggedSteps [event result] = [] := by
      have := isExchange result
      cases exchange : event result <;>
        simp_all [exchangesOf, loggedSteps]
    refine ⟨[], [event result], ?_, rfl, isExchange result⟩
    exact
      { stepsAdded := by simp [RunState.addEvent]
        numbered := rfl
        seqAdvanced := by simp [RunState.addEvent]
        eventsAdded := rfl
        clock := noReading
        hook := noLog }
  simp only [consult]
  apply ends_get_bind
  apply ends_bind _ (ends_modify (fun _ after =>
    after = before.addEvent (event (oracle before.events))) rfl)
  rintro - after rfl
  apply ends_answer
  · intro value equal
    rw [equal]
    exact ⟨asked _, rfl, rfl⟩
  · intro exc equal
    rw [equal]
    exact ⟨asked _, rfl, rfl⟩

theorem setInFlight_ends
    (tool : Option String) {first before : RunState}
    {payloads : List Payload} {exchanges : List Event}
    {raised : Exc → RunState → Prop}
    (ran : Ran first before payloads exchanges) :
    Ends (setInFlight tool) before
      (fun _ after =>
        Ran first after payloads exchanges ∧ after.inFlight = tool)
      raised := by
  apply ends_modify
  refine ⟨?_, rfl⟩
  obtain ⟨steps, events, added, samePayloads, sameExchanges⟩ := ran
  exact ⟨steps, events,
    { stepsAdded := added.stepsAdded
      numbered := added.numbered
      seqAdvanced := added.seqAdvanced
      eventsAdded := added.eventsAdded
      clock := added.clock
      hook := added.hook },
    samePayloads, sameExchanges⟩

/-! ## One iteration -/

variable (ticket : Ticket)

/-- From here the loop ended, with this conclusion. -/
def Ended (history : List Observation) (left : Nat) (iteration : Int)
    (first : RunState) (conclusion : Conclusion) (after : RunState) :
    Prop :=
  ∃ rounds ending,
    Looped wiring ticket history left rounds ending ∧
      ending.conclusion wiring.maxIterations = conclusion ∧
        Ran first after (loopPayloads iteration rounds ending)
          (loopExchanges history rounds ending)

/-- A tool call either completes a round or ends the loop. -/
theorem runTool_ends
    {call : ToolCall} {history : List Observation} {left : Nat}
    {iteration : Int} {first before : RunState}
    (nonneg : 0 ≤ first.recorder.seq)
    (decided : Decided wiring ticket history (.ok (.toolCall call)))
    (ran : Ran first before
      [.llmDecision iteration .toolCall (some call.tool)]
      [.stepAsked history (.ok (.toolCall call))]) :
    Ends (runTool wiring call) before
      (fun result after =>
        ∃ summary,
          ToolAnswered wiring call (.ok result) ∧
            summarise wiring.py result = .ok summary ∧
              Ran first after
                (roundPayloads iteration ⟨call, result, summary⟩)
                [.stepAsked history (.ok (.toolCall call)),
                  .toolRun call (.ok result)])
      (fun exc after =>
        Ended wiring ticket history (left + 1) iteration first
          (.raised after.inFlight exc) after) := by
  simp only [runTool]
  apply ends_bind _ (setInFlight_ends (some call.tool) ran)
  rintro - started ⟨ranStarted, inFlight⟩
  apply ends_bind _ (record_after wiring (.toolCall call.tool
    call.args) rfl ranStarted nonneg)
  rintro - called ⟨ranCalled, sameFlight⟩
  rw [inFlight] at sameFlight
  apply ends_bind (fun pair after =>
    ToolAnswered wiring call (.ok pair.1) ∧
      summarise wiring.py pair.1 = .ok pair.2 ∧
        Ran first after
          [.llmDecision iteration .toolCall (some call.tool),
            .toolCall call.tool call.args]
          [.stepAsked history (.ok (.toolCall call)),
            .toolRun call (.ok pair.1)])
  · apply ends_tryCatch (fun exc after =>
      after.inFlight = some call.tool ∧
        ∃ result, ToolAnswered wiring call result ∧
          ToolFailed wiring.py result exc ∧
            Ran first after
              [.llmDecision iteration .toolCall (some call.tool),
                .toolCall call.tool call.args]
              [.stepAsked history (.ok (.toolCall call)),
                .toolRun call result])
    · -- the tool, then its summary, inside the `try`
      have asked := consult_ends
        (fun events => wiring.tools events call.tool call.args)
        (Event.toolRun call) (fun _ => rfl) called
      apply ends_bind _ (ends_mono asked ?returned ?raised)
      case returned =>
        rintro result after ⟨ranTool, same, answered⟩
        exact (⟨ranCalled.trans ranTool, same.trans sameFlight,
          ⟨called.events, answered⟩⟩ :
            Ran first after
                [.llmDecision iteration .toolCall (some call.tool),
                  .toolCall call.tool call.args]
                [.stepAsked history (.ok (.toolCall call)),
                  .toolRun call (.ok result)] ∧
              after.inFlight = some call.tool ∧
                ToolAnswered wiring call (.ok result))
      case raised =>
        rintro exc after ⟨ranTool, same, answered⟩
        exact ⟨same.trans sameFlight, .error exc,
          ⟨called.events, answered⟩, Or.inl rfl, ranCalled.trans ranTool⟩
      · rintro result after ⟨ranTool, same, answered⟩
        apply ends_answer_bind
        · intro summary summarised
          exact ends_pure ⟨answered, summarised, ranTool⟩
        · intro exc unsummarised
          exact ⟨same, .ok result, answered,
            Or.inr ⟨result, rfl, unsummarised⟩, ranTool⟩
    · -- the handler records the failure and raises it again
      rintro exc after ⟨same, result, answered, failed, ranTool⟩
      simp only [asToolError]
      apply ends_bind (fun error later =>
        later = after ∧ exc.str = .ok error.message ∧ error.type = exc.name)
      · apply ends_answer_bind
        · intro message printed
          exact ends_pure ⟨rfl, printed, rfl⟩
        · intro second unprinted
          exact ⟨[], _, .toolUnprintable decided answered failed unprinted,
            by rw [same]; rfl, ranTool⟩
      · rintro error later ⟨rfl, printed, typed⟩
        apply ends_bind _ (record_after wiring
          (.toolResult call.tool false none (some error)) rfl
          ranTool nonneg)
        rintro - recorded ⟨ranRecorded, sameRecorded⟩
        apply ends_throw
        refine ⟨[], _, .toolRaised decided answered failed printed, ?_, ?_⟩
        · rw [sameRecorded, same]
          rfl
        · obtain ⟨type, message⟩ := error
          cases typed
          exact ranRecorded
  · rintro ⟨result, summary⟩ after ⟨answered, summarised, ranTool⟩
    apply ends_bind _ (record_after wiring
      (.toolResult call.tool true (some summary) none) rfl
      ranTool nonneg)
    rintro - recorded ⟨ranRecorded, -⟩
    exact ends_pure ⟨summary, answered, summarised, ranRecorded⟩

/-- A reply ends the loop, whatever comes of grounding it. -/
theorem ground_ends
    {name : ReplyTemplate} {history : List Observation} {left : Nat}
    {iteration : Int} {first before : RunState}
    (nonneg : 0 ≤ first.recorder.seq)
    (idle : before.inFlight = none)
    (decided : Decided wiring ticket history (.ok (.reply name)))
    (ran : Ran first before [.llmDecision iteration .reply none]
      [.stepAsked history (.ok (.reply name))]) :
    Ends (ground wiring name history) before
      (fun outcome after =>
        Ended wiring ticket history (left + 1) iteration first
          (.concluded outcome) after)
      (fun exc after =>
        Ended wiring ticket history (left + 1) iteration first
          (.raised after.inFlight exc) after) := by
  simp only [ground]
  have asked := consult_ends
    (fun events => wiring.resolveTemplate events name)
    (Event.templateResolved name) (fun _ => rfl) before
  apply ends_bind _ (ends_mono asked ?returned ?raised)
  case returned =>
    rintro template after ⟨ranResolve, same, resolved⟩
    exact (⟨ran.trans ranResolve, same.trans idle,
      ⟨before.events, resolved⟩⟩ :
        Ran first after [.llmDecision iteration .reply none]
            [.stepAsked history (.ok (.reply name)),
              .templateResolved name (.ok template)] ∧
          after.inFlight = none ∧ Resolved wiring name (.ok template))
  case raised =>
    rintro exc after ⟨ranResolve, same, resolved⟩
    exact ⟨[], _, .resolveRaised decided ⟨before.events, resolved⟩,
      by rw [same, idle]; rfl, ran.trans ranResolve⟩
  rintro template after ⟨ranResolve, same, resolved⟩
  apply ends_answer_bind
  on_goal 2 =>
    intro exc equal
    exact ⟨[], _, .renderRaised decided resolved equal,
      by rw [same]; rfl, ranResolve⟩
  intro reply rendered
  apply ends_answer_bind
  on_goal 2 =>
    intro exc equal
    exact ⟨[], _, .verifyRaised decided resolved rendered equal,
      by rw [same]; rfl, ranResolve⟩
  intro result verified
  apply ends_bind _ (record_after wiring
    (.groundingCheck result.violations.isEmpty
      result.literals.length result.violations)
    (by simp [Payload.valid]) ranResolve nonneg)
  rintro - recorded ⟨ranRecorded, -⟩
  have ended : Ended wiring ticket history (left + 1) iteration first
      (.concluded (verdict reply result)) recorded :=
    ⟨[], _, .checked decided resolved rendered verified, rfl, ranRecorded⟩
  unfold verdict at ended
  split
  · rw [if_pos ‹_›] at ended
    exact ends_pure ended
  · rw [if_neg ‹_›] at ended
    exact ends_pure ended

/-! ## The loop -/

/-- A completed round leaves the rest of the loop to the later iterations. -/
theorem Ended.round
    {history : List Observation} {left : Nat} {iteration : Int}
    {first middle after : RunState} {conclusion : Conclusion}
    {call : ToolCall} {result : ToolResult} {summary : Dict}
    (decided : Decided wiring ticket history (.ok (.toolCall call)))
    (answered : ToolAnswered wiring call (.ok result))
    (summarised : summarise wiring.py result = .ok summary)
    (ran : Ran first middle (roundPayloads iteration ⟨call, result, summary⟩)
      [.stepAsked history (.ok (.toolCall call)),
        .toolRun call (.ok result)])
    (later : Ended wiring ticket (history ++ [⟨call, result⟩]) left
      (iteration + 1) middle conclusion after) :
    Ended wiring ticket history (left + 1) iteration first conclusion
      after := by
  obtain ⟨rounds, ending, looped, concluded, ranLater⟩ := later
  exact ⟨⟨call, result, summary⟩ :: rounds, ending,
    .round decided answered summarised looped, concluded,
    ran.trans ranLater⟩

/-- The loop ends in one of the ways an account lists. -/
theorem loop_ends
    (left : Nat) (iteration : Int) (positive : 1 ≤ iteration)
    (history : List Observation) (before : RunState)
    (nonneg : 0 ≤ before.recorder.seq)
    (idle : before.inFlight = none) :
    Ends (loop wiring ticket (upFrom iteration left) history) before
      (fun outcome after =>
        Ended wiring ticket history left iteration before
          (.concluded outcome) after)
      (fun exc after =>
        Ended wiring ticket history left iteration before
          (.raised after.inFlight exc) after) := by
  induction left generalizing iteration history before with
  | zero =>
      exact ends_pure ⟨[], _, .capped, rfl, Ran.refl before⟩
  | succ left induction =>
      rw [upFrom_succ, loop]
      have asked := consult_ends
        (fun events =>
          wiring.llm.decideNextStep events ticket history)
        (Event.stepAsked history) (fun _ => rfl) before
      apply ends_bind _ (ends_mono asked ?returned ?raised)
      case returned =>
        rintro step after ⟨ranAsk, same, decided⟩
        exact (⟨ranAsk, same.trans idle, ⟨before.events, decided⟩⟩ :
          Ran before after [] [.stepAsked history (.ok step)] ∧
            after.inFlight = none ∧
              Decided wiring ticket history (.ok step))
      case raised =>
        rintro exc after ⟨ranAsk, same, decided⟩
        exact ⟨[], _, .modelRaised ⟨before.events, decided⟩,
          by rw [same, idle]; rfl, ranAsk⟩
      rintro step after ⟨ranAsk, same, decided⟩
      apply ends_bind _ (record_after wiring
        (.llmDecision iteration step.decision step.tool)
        (by cases step <;>
          simp [Payload.valid, positive, toolNamedIffToolCall,
            Step.decision, Step.tool])
        ranAsk nonneg)
      rintro - recorded ⟨ranRecorded, sameRecorded⟩
      have idleRecorded := sameRecorded.trans same
      cases step with
      | toolCall call =>
          apply ends_bind _
            (runTool_ends wiring ticket nonneg decided ranRecorded)
          rintro result returned ⟨summary, answered, summarised, ranRound⟩
          apply ends_bind _ (setInFlight_ends none ranRound)
          rintro - cleared ⟨ranCleared, idleCleared⟩
          have later := induction (iteration + 1) (by omega)
            (history ++ [⟨call, result⟩]) cleared
            (ranCleared.seq_nonneg nonneg) idleCleared
          apply ends_mono later
          · intro outcome final ended
            exact ended.round wiring ticket decided answered summarised
              ranCleared
          · intro exc final ended
            exact ended.round wiring ticket decided answered summarised
              ranCleared
      | reply name =>
          exact ground_ends wiring ticket nonneg idleRecorded decided
            ranRecorded
      | handoff reason =>
          exact ends_pure
            ⟨[], _, .gaveUp decided, rfl, ranRecorded⟩

/-! ## The whole run -/

/-- The run so far has this account. -/
def Accounted (events : List Event) (conclusion : Conclusion)
    (after : RunState) : Prop :=
  ∃ account : Account,
    account.Holds wiring ticket ∧
      account.conclusion wiring.maxIterations = conclusion ∧
        Ran (RunState.start events) after account.payloads
          account.exchanges

theorem decideBody_ends (events : List Event) :
    Ends (decideBody wiring ticket) (RunState.start events)
      (fun outcome after =>
        Accounted wiring ticket events (.concluded outcome) after)
      (fun exc after =>
        Accounted wiring ticket events (.raised after.inFlight exc)
          after) := by
  have nonneg : 0 ≤ (RunState.start events).recorder.seq := Int.le_refl 0
  simp only [decideBody]
  have asked := consult_ends
    (fun events => wiring.llm.classifyIntent events ticket)
    (Event.intentAsked) (fun _ => rfl) (RunState.start events)
  apply ends_bind _ (ends_mono asked ?returned ?raised)
  case returned =>
    rintro classification after ⟨ranAsk, same, answered⟩
    exact (⟨ranAsk, same, ⟨events, answered⟩⟩ :
      Ran (RunState.start events) after []
          [.intentAsked (.ok classification)] ∧
        after.inFlight = none ∧
          ∃ events, wiring.llm.classifyIntent events ticket =
            .ok classification)
  case raised =>
    rintro exc after ⟨ranAsk, same, answered⟩
    exact ⟨.classifyRaised exc, .classifyRaised ⟨events, answered⟩,
      by rw [same]; rfl, ranAsk⟩
  rintro classification after ⟨ranAsk, same, answered⟩
  apply ends_bind _ (record_after wiring
    (classificationPayload classification) rfl ranAsk nonneg)
  rintro - recorded ⟨ranRecorded, sameRecorded⟩
  split
  · rename_i unknown
    exact ends_pure ⟨.unsupported classification,
      .unsupported answered unknown, rfl, ranRecorded⟩
  · rename_i known
    rw [iterations_eq]
    have looped := loop_ends wiring ticket wiring.maxIterations.toNat 1
      (Int.le_refl 1) [] recorded (ranRecorded.seq_nonneg nonneg)
      (sameRecorded.trans same)
    apply ends_mono looped
    · rintro outcome final ⟨rounds, ending, ran, concluded, ranLoop⟩
      exact ⟨.looped classification rounds ending,
        .looped answered known ran, concluded, ranRecorded.trans ranLoop⟩
    · rintro exc final ⟨rounds, ending, ran, concluded, ranLoop⟩
      exact ⟨.looped classification rounds ending,
        .looped answered known ran, concluded, ranRecorded.trans ranLoop⟩

theorem toolDetail_ends
    (inFlight : Option String) (exc : Exc) (state : RunState) :
    Ends (toolDetail inFlight exc) state
      (fun detail after => after = state ∧
        exc.str.map (located inFlight) = .ok detail)
      (fun second after => after = state ∧
        exc.str.map (located inFlight) = .error second) := by
  simp only [toolDetail]
  apply ends_answer_bind
  · intro message printed
    rw [printed]
    cases inFlight with
    | none => exact ends_pure ⟨rfl, rfl⟩
    | some tool =>
        dsimp only
        split
        · exact ends_pure ⟨rfl, by simp [located, Except.map, *]⟩
        · exact ends_pure ⟨rfl, by simp [located, Except.map, *]⟩
  · intro second unprinted
    rw [unprinted]
    exact ⟨rfl, rfl⟩

/-- The `except` clauses change nothing but the result. -/
theorem failClosed_ends
    (exc : Exc) (state : RunState) :
    Ends (failClosed exc) state
      (fun outcome after => after = state ∧
        failedClosed state.inFlight exc = .ok outcome)
      (fun second after => after = state ∧
        failedClosed state.inFlight exc = .error second) := by
  have handed : ∀ reason : HandoffReason,
      Ends
        (toolDetail state.inFlight exc >>= fun detail =>
          (return handedOff reason detail : RunM Outcome)) state
        (fun outcome after => after = state ∧
          (exc.str.map fun message =>
            handedOff reason (located state.inFlight message)) =
              .ok outcome)
        (fun second after => after = state ∧
          (exc.str.map fun message =>
            handedOff reason (located state.inFlight message)) =
              .error second) := by
    intro reason
    have mapped : (exc.str.map fun message =>
        handedOff reason (located state.inFlight message)) =
          (exc.str.map (located state.inFlight)).map (handedOff reason) := by
      cases exc.str <;> rfl
    rw [mapped]
    apply ends_bind _ (ends_mono (toolDetail_ends state.inFlight exc state)
      (fun _ _ ended => ended) ?raised)
    case raised =>
      rintro second after ⟨same, equal⟩
      exact ⟨same, by rw [equal]; rfl⟩
    rintro detail after ⟨same, equal⟩
    exact ends_pure ⟨same, by rw [equal]; rfl⟩
  simp only [failClosed, failedClosed]
  apply ends_get_bind
  cases exc.clause with
  | userNotFound => exact handed .userNotFound
  | noDataAvailable => exact handed .dataNotFound
  | other =>
      apply ends_answer_bind
      · intro detail equal
        exact ends_pure ⟨rfl, by rw [equal]; rfl⟩
      · intro second equal
        exact ⟨rfl, by rw [equal]; rfl⟩

theorem decide_ends (events : List Event) :
    Ends (decide wiring ticket) (RunState.start events)
      (fun outcome after =>
        ∃ conclusion, conclusion.outcome = .ok outcome ∧
          Accounted wiring ticket events conclusion after)
      (fun exc after =>
        ∃ conclusion, conclusion.outcome = .error exc ∧
          Accounted wiring ticket events conclusion after) := by
  apply ends_tryCatch _ (ends_mono (decideBody_ends wiring ticket events)
    ?returned fun _ _ ended => ended)
  case returned =>
    intro outcome after accounted
    exact ⟨_, rfl, accounted⟩
  intro exc after accounted
  apply ends_mono (failClosed_ends exc after)
  · rintro outcome final ⟨rfl, closed⟩
    exact ⟨.raised final.inFlight exc, closed, accounted⟩
  · rintro second final ⟨rfl, closed⟩
    exact ⟨.raised final.inFlight exc, closed, accounted⟩

theorem handedOff_valid (reason : HandoffReason) (detail : String) :
    (finalPayload (handedOff reason detail)).valid = true := rfl

theorem verdict_valid (reply : String) (result : GroundingResult) :
    (finalPayload (verdict reply result)).valid = true := by
  unfold verdict
  split <;> rfl

/-- The reason that each `except` clause gives. -/
def clauseReason : Clause → HandoffReason
  | .userNotFound => .userNotFound
  | .noDataAvailable => .dataNotFound
  | .other => .toolError

/-- A handler that returns hands off, for the reason of its clause. -/
theorem failedClosed_handedOff
    {inFlight : Option String} {exc : Exc} {outcome : Outcome}
    (closed : failedClosed inFlight exc = .ok outcome) :
    ∃ detail, outcome = handedOff (clauseReason exc.clause) detail := by
  have mapped : ∀ {result : Except Exc String} {detail : String → String}
      {reason : HandoffReason},
      (result.map fun text => handedOff reason (detail text)) =
          .ok outcome →
        ∃ detail, outcome = handedOff reason detail := by
    intro result detail reason equal
    cases result with
    | error second => simp [Except.map] at equal
    | ok text =>
        simp only [Except.map, Except.ok.injEq] at equal
        exact ⟨_, equal.symm⟩
  unfold failedClosed at closed
  cases clause : exc.clause with
  | userNotFound => rw [clause] at closed; exact mapped closed
  | noDataAvailable => rw [clause] at closed; exact mapped closed
  | other => rw [clause] at closed; exact @mapped _ id _ closed

/-- Every outcome of an account passes the checks of the final decision. -/
theorem finalPayload_valid
    {account : Account} {maxIterations : Int} {outcome : Outcome}
    (concluded : account.outcome maxIterations = .ok outcome) :
    (finalPayload outcome).valid = true := by
  unfold Account.outcome at concluded
  cases conclusion : account.conclusion maxIterations with
  | raised inFlight exc =>
      rw [conclusion] at concluded
      obtain ⟨detail, rfl⟩ := failedClosed_handedOff concluded
      exact handedOff_valid _ _
  | concluded reached =>
      rw [conclusion] at concluded
      obtain rfl := Except.ok.inj concluded
      cases account with
      | classifyRaised exc => simp [Account.conclusion] at conclusion
      | unsupported classification =>
          obtain rfl := Conclusion.concluded.inj conclusion
          rfl
      | looped classification rounds ending =>
          cases ending <;>
            simp only [Account.conclusion, Ending.conclusion,
              Conclusion.concluded.injEq, reduceCtorEq] at conclusion
          all_goals rw [← conclusion]
          · rfl
          · rfl
          · exact verdict_valid _ _

/-- Every run has an account, which determines its trace and its outcome. -/
theorem conclude_ends (events : List Event) :
    Ends (conclude wiring ticket) (RunState.start events)
      (fun outcome after =>
        ∃ account : Account,
          account.Holds wiring ticket ∧
            account.outcome wiring.maxIterations = .ok outcome ∧
              Ran (RunState.start events) after
                (account.payloads ++ [finalPayload outcome])
                account.exchanges)
      (fun exc after =>
        ∃ account : Account,
          account.Holds wiring ticket ∧
            account.outcome wiring.maxIterations = .error exc ∧
              Ran (RunState.start events) after account.payloads
                account.exchanges) := by
  apply ends_bind _ (ends_mono (decide_ends wiring ticket events)
    (fun _ _ ended => ended) ?raised)
  case raised =>
    rintro exc after ⟨conclusion, closed, account, holds, rfl, ran⟩
    exact ⟨account, holds, closed, ran⟩
  rintro outcome after ⟨conclusion, closed, account, holds, concluded, ran⟩
  have outcomeEq : account.outcome wiring.maxIterations = .ok outcome := by
    rw [Account.outcome, concluded, closed]
  have valid := finalPayload_valid outcomeEq
  apply ends_bind _ (record_after wiring (finalPayload outcome) valid ran
    (Int.le_refl 0))
  rintro - final ⟨ranFinal, -⟩
  apply ends_pure
  exact ⟨account, holds, outcomeEq, ranFinal⟩

end

end SupportAssistant.Pipeline.RunSpec
