import SupportAssistant.Pipeline.Replies

/-!
# Why a run hands off

The causes of a handoff, in terms of the trace and of what the collaborators
answered: the evidence each reason leaves in the trace, the last word of the
model, and an exception from outside a recorded tool call.  The reason of a
run is exactly the one it has a cause for.
-/

namespace SupportAssistant.Pipeline.Reasons

open SupportAssistant.Enums
open SupportAssistant.Runtime
open SupportAssistant.Runtime.Ascii
open SupportAssistant.Effects.Outcomes
open SupportAssistant.Tracing.Models
open SupportAssistant.Tracing.Summarise
open SupportAssistant.Tools.Loaders (noDataAvailable)
open SupportAssistant.Domain
open SupportAssistant.Guardrails.Grounding
open SupportAssistant.Llm.Templates
open SupportAssistant.Storage.Protocol
open SupportAssistant.Storage.Memory
open SupportAssistant.Pipeline.Collaborators
open SupportAssistant.Pipeline.Orchestrator
open SupportAssistant.Pipeline.Accounts
open SupportAssistant.Pipeline.RunSpec
open SupportAssistant.Pipeline.Handover
open SupportAssistant.Pipeline.Scripted
open SupportAssistant.Pipeline.Replies

/-! ## What a trace and its events show -/

/-- The tool calls of a run, with what came of each. -/
def toolRuns (events : List Event) :
    List (ToolCall × Except Exc ToolResult) :=
  events.filterMap fun
    | .toolRun call result => some (call, result)
    | _ => none

def Payload.toolResult? : Payload → Option (Bool × Option ToolError)
  | .toolResult _ ok _ error => some (ok, error)
  | _ => none

/-- The tool results of a trace: whether each is ok, and its error. -/
def toolResults (payloads : List Payload) : List (Bool × Option ToolError) :=
  payloads.filterMap Payload.toolResult?

def Payload.decision? : Payload → Option Decision
  | .llmDecision _ decision _ => some decision
  | _ => none

/-- The decisions of a trace. -/
def decisionKinds (payloads : List Payload) : List Decision :=
  payloads.filterMap Payload.decision?

/-- Intent classification recorded `unknown`. -/
def ClassifiedUnknown (payloads : List Payload) : Prop :=
  ∃ matchedKeywords,
    Payload.intentClassified .unknown matchedKeywords ∈ payloads

/-- A check of the reply recorded that it did not pass. -/
def CheckFailed (payloads : List Payload) : Prop :=
  ∃ literalsChecked violations,
    Payload.groundingCheck false literalsChecked violations ∈ payloads

/-- As many decisions as the cap, each a tool call with an ok result. -/
def CapReached (maxIterations : Int) (payloads : List Payload) : Prop :=
  decisionKinds payloads =
      List.replicate maxIterations.toNat .toolCall ∧
    toolResults payloads = List.replicate maxIterations.toNat (true, none)

/-- The last word of the model was to give up, for this reason. -/
def GaveUp (events : List Event) (reason : HandoffReason) : Prop :=
  (decisions events).getLast? = some (.ok (.handoff reason))

/-- The last tool call failed with this exception, and the trace says so. -/
def ToolRaised (py : PyText) (events : List Event)
    (payloads : List Payload) (exc : Exc) : Prop :=
  ∃ call result message,
    (toolRuns events).getLast? = some (call, result) ∧
      ToolFailed py result exc ∧ exc.str = .ok message ∧
        (toolResults payloads).getLast? =
          some (false, some ⟨exc.name, message⟩)

/-- This exception came from outside a recorded tool call. -/
inductive Escaped (py : PyText) (events : List Event) (exc : Exc) :
    Prop where
  | classifying
      (asked : classifications events = [.error exc])
  | deciding
      (asked : (decisions events).getLast? = some (.error exc))
  | resolving (name : ReplyTemplate)
      (asked : resolutions events = [(name, .error exc)])
  | rendering (name : ReplyTemplate) (template : Template)
      (asked : resolutions events = [(name, .ok template)])
      (rendered : template.render py (factsOf events) = .error exc)
  | verifying (name : ReplyTemplate) (template : Template) (reply : String)
      (asked : resolutions events = [(name, .ok template)])
      (rendered : template.render py (factsOf events) = .ok reply)
      (verified :
        verify py reply (factsOf events) template.templateSafeLiterals =
          .error exc)
  | printing (call : ToolCall) (result : Except Exc ToolResult)
      (failure : Exc)
      (ran : (toolRuns events).getLast? = some (call, result))
      (failed : ToolFailed py result failure)
      (unprinted : failure.str = .error exc)

/-- What can make a run hand off, by the reason it then gives. -/
inductive Cause (py : PyText) (maxIterations : Int) (events : List Event)
    (payloads : List Payload) : HandoffReason → Prop where
  | unsupported (unknown : ClassifiedUnknown payloads) :
      Cause py maxIterations events payloads .unsupportedIntent
  | capped (reached : CapReached maxIterations payloads) :
      Cause py maxIterations events payloads .iterationCapExceeded
  | ungrounded (failed : CheckFailed payloads) :
      Cause py maxIterations events payloads .ungroundedReply
  | raised {exc : Exc} {reason : HandoffReason}
      (raised : ToolRaised py events payloads exc ∨ Escaped py events exc)
      (given : clauseReason exc.clause = reason) :
      Cause py maxIterations events payloads reason
  | gaveUp {reason : HandoffReason} (gaveUp : GaveUp events reason) :
      Cause py maxIterations events payloads reason

/-! ## Reading the account of a loop -/

theorem toolFailed_unique
    {py : PyText} {result : Except Exc ToolResult} {exc other : Exc}
    (failed : ToolFailed py result exc)
    (failedOther : ToolFailed py result other) :
    exc = other := by
  rcases failed with rfl | ⟨returned, rfl, unsummarised⟩
  · rcases failedOther with same | ⟨returned, same, -⟩
    · exact Except.error.inj same
    · simp at same
  · rcases failedOther with same | ⟨other, same, unsummarisedOther⟩
    · simp at same
    · cases Except.ok.inj same
      exact Except.error.inj (unsummarised.symm.trans unsummarisedOther)

section

variable {events : List Event}
variable {classification : Classification} {rounds : List Round}
variable {ending : Ending}

theorem toolRuns_exchangesOf (events : List Event) :
    toolRuns (exchangesOf events) = toolRuns events :=
  filterMap_exchangesOf (fun _ => rfl) (fun _ => rfl) events

theorem classifications_exchangesOf (events : List Event) :
    classifications (exchangesOf events) = classifications events :=
  filterMap_exchangesOf (fun _ => rfl) (fun _ => rfl) events

theorem toolRuns_looped
    (exchanges : exchangesOf events =
      (Account.looped classification rounds ending).exchanges) :
    toolRuns events =
      rounds.map (fun round => (round.call, .ok round.result)) ++
        toolRuns (ending.exchanges []) := by
  rw [← toolRuns_exchangesOf, exchanges]
  have looped : toolRuns (loopExchanges [] rounds ending) =
      rounds.map (fun round => (round.call, .ok round.result)) ++
        toolRuns (ending.exchanges []) := by
    rw [toolRuns, filterMap_loopExchanges (fun _ _ _ => rfl)]
    simp [toolRuns, List.filterMap_flatMap, List.map_eq_flatMap]
  exact looped

theorem classifications_looped
    (exchanges : exchangesOf events =
      (Account.looped classification rounds ending).exchanges) :
    classifications events = [.ok classification] := by
  rw [← classifications_exchangesOf, exchanges]
  have looped : classifications (loopExchanges [] rounds ending) = [] := by
    rw [classifications, filterMap_loopExchanges (fun _ _ _ => rfl)]
    cases ending <;> simp [Ending.exchanges, List.filterMap_flatMap]
  simp only [classifications] at looped
  simp [classifications, Account.exchanges, looped]

theorem toolResults_append (payloads payloads' : List Payload) :
    toolResults (payloads ++ payloads') =
      toolResults payloads ++ toolResults payloads' :=
  List.filterMap_append

theorem decisionKinds_append (payloads payloads' : List Payload) :
    decisionKinds (payloads ++ payloads') =
      decisionKinds payloads ++ decisionKinds payloads' :=
  List.filterMap_append

theorem toolResults_loop
    (iteration : Int) (rounds : List Round) (ending : Ending) :
    toolResults (loopPayloads iteration rounds ending) =
      List.replicate rounds.length (true, none) ++
        toolResults (ending.payloads (iteration + rounds.length)) := by
  rw [loopPayloads_eq, toolResults_append]
  congr 1
  induction rounds generalizing iteration with
  | nil => rfl
  | cons round rounds induction =>
      rw [loopPayloads, toolResults_append, induction (iteration + 1)]
      rfl

theorem decisionKinds_loop
    (iteration : Int) (rounds : List Round) (ending : Ending) :
    decisionKinds (loopPayloads iteration rounds ending) =
      List.replicate rounds.length .toolCall ++
        decisionKinds (ending.payloads (iteration + rounds.length)) := by
  rw [loopPayloads_eq, decisionKinds_append]
  congr 1
  induction rounds generalizing iteration with
  | nil => rfl
  | cons round rounds induction =>
      rw [loopPayloads, decisionKinds_append, induction (iteration + 1)]
      rfl

theorem toolResults_looped
    (classification : Classification) (rounds : List Round)
    (ending : Ending) (outcome : Outcome) :
    toolResults ((Account.looped classification rounds ending).payloads ++
        [finalPayload outcome]) =
      List.replicate rounds.length (true, none) ++
        toolResults (ending.payloads (1 + rounds.length)) := by
  change toolResults
    (loopPayloads 1 rounds ending ++ [finalPayload outcome]) = _
  rw [toolResults_append, toolResults_loop]
  exact List.append_nil _

theorem decisionKinds_looped
    (classification : Classification) (rounds : List Round)
    (ending : Ending) (outcome : Outcome) :
    decisionKinds ((Account.looped classification rounds ending).payloads ++
        [finalPayload outcome]) =
      List.replicate rounds.length .toolCall ++
        decisionKinds (ending.payloads (1 + rounds.length)) := by
  change decisionKinds
    (loopPayloads 1 rounds ending ++ [finalPayload outcome]) = _
  rw [decisionKinds_append, decisionKinds_loop]
  exact List.append_nil _

/-- The rounds of a loop record decisions, calls and ok results only. -/
theorem mem_rounds
    {iteration : Int} {payload : Payload}
    (member : payload ∈ loopPayloads iteration rounds .capped) :
    ∃ number : Int, ∃ round : Round,
      payload ∈ roundPayloads number round := by
  induction rounds generalizing iteration with
  | nil => simp [loopPayloads, Ending.payloads] at member
  | cons round rounds induction =>
      rw [loopPayloads] at member
      rcases List.mem_append.mp member with first | later
      · exact ⟨iteration, round, first⟩
      · exact induction later

theorem looped_summarised
    {wiring : Wiring} {ticket : Ticket} {history : List Observation}
    {left : Nat}
    (looped : Looped wiring ticket history left rounds ending) :
    ∀ round ∈ rounds,
      summarise wiring.py round.result = .ok round.summary := by
  induction looped with
  | round decided answered summarised later induction =>
      intro round member
      rcases List.mem_cons.mp member with rfl | member
      · exact summarised
      · exact induction round member
  | _ =>
      intro round member
      simp at member

/-- A completed round is no failed tool call. -/
theorem not_toolFailed_of_round
    {wiring : Wiring} {ticket : Ticket} {history : List Observation}
    {left : Nat} {call : ToolCall} {result : Except Exc ToolResult}
    {exc : Exc}
    (looped : Looped wiring ticket history left rounds ending)
    (last : (rounds.map fun round =>
        ((round.call, .ok round.result) :
          ToolCall × Except Exc ToolResult)).getLast? =
      some (call, result)) :
    ¬ ToolFailed wiring.py result exc := by
  have member := List.mem_of_getLast? last
  rcases List.mem_map.mp member with ⟨round, inRounds, same⟩
  cases same
  have summarised := looped_summarised looped round inRounds
  intro failed
  rcases failed with impossible | ⟨returned, same, unsummarised⟩
  · simp at impossible
  · cases Except.ok.inj same
    rw [summarised] at unsummarised
    simp at unsummarised

end

/-! ## From a cause to the account -/

section

variable {wiring : Wiring} {ticket : Ticket} {account : Account}
variable {events : List Event}

/-- After complete rounds only, the last decision was a tool call. -/
theorem lastDecision_of_rounds
    {rounds : List Round} {answer : Except Exc Step}
    (last : ((rounds.map fun round =>
        (.ok (.toolCall round.call) : Except Exc Step)) ++
          decisions (Ending.capped.exchanges [])).getLast? = some answer) :
    ∃ call, answer = .ok (.toolCall call) := by
  simp only [decisions, Ending.exchanges, List.filterMap_nil,
    List.append_nil] at last
  rcases List.mem_map.mp (List.mem_of_getLast? last) with ⟨round, -, same⟩
  exact ⟨round.call, same.symm⟩

/-- A model that gave up ended the run itself. -/
theorem conclusion_of_gaveUp
    (holds : account.Holds wiring ticket)
    (exchanges : exchangesOf events = account.exchanges)
    {reason : HandoffReason} (gaveUp : GaveUp events reason) :
    account.conclusion wiring.maxIterations =
      .concluded (handedOff reason (gaveUpDetail reason)) := by
  rw [GaveUp] at gaveUp
  cases holds with
  | classifyRaised asked =>
      rw [← decisions_exchangesOf, exchanges] at gaveUp
      simp [decisions, Account.exchanges] at gaveUp
  | unsupported asked unknown =>
      rw [← decisions_exchangesOf, exchanges] at gaveUp
      simp [decisions, Account.exchanges] at gaveUp
  | looped asked known ran =>
      rcases looped_ending ran with ⟨rest, -, ended⟩
      rw [decisions_looped exchanges] at gaveUp
      cases ended with
      | capped =>
          rcases lastDecision_of_rounds gaveUp with ⟨call, impossible⟩
          simp at impossible
      | gaveUp decided =>
          simp only [decisions, Ending.exchanges, List.filterMap_cons,
            List.filterMap_nil, List.getLast?_append, List.getLast?_singleton,
            Option.some_or, Option.some.injEq, Except.ok.injEq,
            Step.handoff.injEq] at gaveUp
          rw [gaveUp]
          rfl
      | _ => simp [decisions, Ending.exchanges] at gaveUp

/-- An exception from outside the tools ended the loop. -/
theorem conclusion_of_escaped_loop
    {classification : Classification} {rounds : List Round}
    {ending : Ending}
    (ran : Looped wiring ticket [] wiring.maxIterations.toNat rounds ending)
    (exchanges : exchangesOf events =
      (Account.looped classification rounds ending).exchanges)
    {exc : Exc} (escaped : Escaped wiring.py events exc) :
    ∃ inFlight,
      ending.conclusion wiring.maxIterations = .raised inFlight exc := by
  rcases looped_ending ran with ⟨rest, -, ended⟩
  cases escaped with
  | classifying asked =>
      rw [classifications_looped exchanges] at asked
      simp at asked
  | deciding asked =>
      rw [decisions_looped exchanges] at asked
      cases ended with
      | capped =>
          rcases lastDecision_of_rounds asked with ⟨call, impossible⟩
          simp at impossible
      | modelRaised decided =>
          simp only [decisions, Ending.exchanges, List.filterMap_cons,
            List.filterMap_nil, List.getLast?_append,
            List.getLast?_singleton, Option.some_or, Option.some.injEq,
            Except.error.injEq] at asked
          rw [asked]
          exact ⟨none, rfl⟩
      | _ => simp [decisions, Ending.exchanges] at asked
  | resolving name asked =>
      rw [resolutions_looped exchanges] at asked
      cases ended with
      | resolveRaised decided resolved =>
          rcases asked with ⟨⟩
          exact ⟨none, rfl⟩
      | _ => simp [resolutions, Ending.exchanges] at asked
  | rendering name template asked rendered =>
      rw [resolutions_looped exchanges] at asked
      cases ended with
      | renderRaised decided resolved raised =>
          rcases asked with ⟨⟩
          rw [factsOf_looped exchanges rfl, raised] at rendered
          rcases rendered with ⟨⟩
          exact ⟨none, rfl⟩
      | verifyRaised decided resolved renderedOk raised =>
          rcases asked with ⟨⟩
          rw [factsOf_looped exchanges rfl, renderedOk] at rendered
          simp at rendered
      | checked decided resolved renderedOk verified =>
          rcases asked with ⟨⟩
          rw [factsOf_looped exchanges rfl, renderedOk] at rendered
          simp at rendered
      | _ => simp [resolutions, Ending.exchanges] at asked
  | verifying name template reply asked rendered verified =>
      rw [resolutions_looped exchanges] at asked
      cases ended with
      | renderRaised decided resolved raised =>
          rcases asked with ⟨⟩
          rw [factsOf_looped exchanges rfl, raised] at rendered
          simp at rendered
      | verifyRaised decided resolved renderedOk raised =>
          rcases asked with ⟨⟩
          rw [factsOf_looped exchanges rfl] at rendered verified
          rcases renderedOk.symm.trans rendered with ⟨⟩
          rcases raised.symm.trans verified with ⟨⟩
          exact ⟨none, rfl⟩
      | checked decided resolved renderedOk verifiedOk =>
          rcases asked with ⟨⟩
          rw [factsOf_looped exchanges rfl] at rendered verified
          rcases renderedOk.symm.trans rendered with ⟨⟩
          rw [verifiedOk] at verified
          simp at verified
      | _ => simp [resolutions, Ending.exchanges] at asked
  | printing call result failure last failed unprinted =>
      rw [toolRuns_looped exchanges] at last
      cases ended with
      | toolRaised decided answered failedThere printed =>
          simp only [toolRuns, Ending.exchanges, List.filterMap_cons,
            List.filterMap_nil, List.getLast?_append,
            List.getLast?_singleton, Option.some_or] at last
          rcases last with ⟨⟩
          rw [toolFailed_unique failed failedThere, printed] at unprinted
          simp at unprinted
      | toolUnprintable decided answered failedThere unprintedThere =>
          simp only [toolRuns, Ending.exchanges, List.filterMap_cons,
            List.filterMap_nil, List.getLast?_append,
            List.getLast?_singleton, Option.some_or] at last
          rcases last with ⟨⟩
          rw [toolFailed_unique failed failedThere] at unprinted
          rcases unprintedThere.symm.trans unprinted with ⟨⟩
          exact ⟨some _, rfl⟩
      | _ =>
          simp only [toolRuns, Ending.exchanges, List.filterMap_cons,
            List.filterMap_nil, List.append_nil] at last
          exact (not_toolFailed_of_round ran last failed).elim

/-- An exception from outside the tools ended the run. -/
theorem conclusion_of_escaped
    (holds : account.Holds wiring ticket)
    (exchanges : exchangesOf events = account.exchanges)
    {exc : Exc} (escaped : Escaped wiring.py events exc) :
    ∃ inFlight,
      account.conclusion wiring.maxIterations = .raised inFlight exc := by
  cases holds with
  | @classifyRaised first asked =>
      have noDecision : decisions events = [] := by
        rw [← decisions_exchangesOf, exchanges]
        rfl
      have noResolution : resolutions events = [] := by
        rw [← resolutions_exchangesOf, exchanges]
        rfl
      have noTool : toolRuns events = [] := by
        rw [← toolRuns_exchangesOf, exchanges]
        rfl
      have classified : classifications events = [.error first] := by
        rw [← classifications_exchangesOf, exchanges]
        rfl
      cases escaped with
      | classifying raised =>
          rw [classified] at raised
          simp only [List.cons.injEq, Except.error.injEq, and_true] at raised
          rw [← raised]
          exact ⟨none, rfl⟩
      | _ => simp_all
  | @unsupported classification asked unknown =>
      have noDecision : decisions events = [] := by
        rw [← decisions_exchangesOf, exchanges]
        rfl
      have noResolution : resolutions events = [] := by
        rw [← resolutions_exchangesOf, exchanges]
        rfl
      have noTool : toolRuns events = [] := by
        rw [← toolRuns_exchangesOf, exchanges]
        rfl
      have classified : classifications events = [.ok classification] := by
        rw [← classifications_exchangesOf, exchanges]
        rfl
      cases escaped <;> simp_all
  | looped asked known ran =>
      exact conclusion_of_escaped_loop ran exchanges escaped

/-- A recorded failure of a tool ended the run. -/
theorem conclusion_of_toolRaised
    (holds : account.Holds wiring ticket)
    (exchanges : exchangesOf events = account.exchanges)
    {payloads : List Payload} {exc : Exc}
    (raised : ToolRaised wiring.py events payloads exc) :
    ∃ inFlight,
      account.conclusion wiring.maxIterations = .raised inFlight exc := by
  rcases raised with ⟨call, result, message, last, failed, printed, -⟩
  cases holds with
  | classifyRaised asked =>
      rw [← toolRuns_exchangesOf, exchanges] at last
      simp [toolRuns, Account.exchanges] at last
  | unsupported asked unknown =>
      rw [← toolRuns_exchangesOf, exchanges] at last
      simp [toolRuns, Account.exchanges] at last
  | looped asked known ran =>
      rcases looped_ending ran with ⟨rest, -, ended⟩
      rw [toolRuns_looped exchanges] at last
      cases ended with
      | toolRaised decided answered failedThere printedThere =>
          simp only [toolRuns, Ending.exchanges, List.filterMap_cons,
            List.filterMap_nil, List.getLast?_append,
            List.getLast?_singleton, Option.some_or] at last
          rcases last with ⟨⟩
          rw [toolFailed_unique failed failedThere]
          exact ⟨some _, rfl⟩
      | toolUnprintable decided answered failedThere unprinted =>
          simp only [toolRuns, Ending.exchanges, List.filterMap_cons,
            List.filterMap_nil, List.getLast?_append,
            List.getLast?_singleton, Option.some_or] at last
          rcases last with ⟨⟩
          rw [toolFailed_unique failed failedThere, unprinted] at printed
          simp at printed
      | _ =>
          simp only [toolRuns, Ending.exchanges, List.filterMap_cons,
            List.filterMap_nil, List.append_nil] at last
          exact (not_toolFailed_of_round ran last failed).elim

theorem conclusion_of_unknown
    (holds : account.Holds wiring ticket) (outcome : Outcome)
    (unknown :
      ClassifiedUnknown (account.payloads ++ [finalPayload outcome])) :
    ∃ detail, account.conclusion wiring.maxIterations =
      .concluded (handedOff .unsupportedIntent detail) := by
  rcases unknown with ⟨matchedKeywords, member⟩
  cases holds with
  | classifyRaised asked =>
      simp [Account.payloads, finalPayload] at member
  | unsupported asked unknown => exact ⟨_, rfl⟩
  | @looped classification rounds ending asked known ran =>
      exfalso
      rw [Account.payloads, loopPayloads_eq] at member
      simp only [List.cons_append, List.append_assoc, List.mem_cons,
        List.mem_append, classificationPayload, finalPayload,
        Payload.intentClassified.injEq, reduceCtorEq, List.not_mem_nil,
        or_false] at member
      rcases member with ⟨same, -⟩ | inRounds | inEnding
      · exact known same.symm
      · rcases mem_rounds inRounds with ⟨number, round, inRound⟩
        simp [roundPayloads] at inRound
      · cases ending <;> simp [Ending.payloads] at inEnding

theorem conclusion_of_checkFailed
    (holds : account.Holds wiring ticket) (outcome : Outcome)
    (failed : CheckFailed (account.payloads ++ [finalPayload outcome])) :
    ∃ detail, account.conclusion wiring.maxIterations =
      .concluded (handedOff .ungroundedReply detail) := by
  rcases failed with ⟨literalsChecked, violations, member⟩
  cases holds with
  | classifyRaised asked =>
      simp [Account.payloads, finalPayload] at member
  | unsupported asked unknown =>
      simp [Account.payloads, classificationPayload, finalPayload] at member
  | @looped classification rounds ending asked known ran =>
      rw [Account.payloads, loopPayloads_eq] at member
      simp only [List.cons_append, List.append_assoc, List.mem_cons,
        List.mem_append, classificationPayload, finalPayload, reduceCtorEq,
        List.not_mem_nil, or_false, false_or] at member
      rcases member with inRounds | inEnding
      · rcases mem_rounds inRounds with ⟨number, round, inRound⟩
        simp [roundPayloads] at inRound
      · cases ending with
        | checked name template reply result =>
            simp only [Ending.payloads, List.mem_cons, reduceCtorEq,
              Payload.groundingCheck.injEq, List.not_mem_nil, or_false,
              false_or] at inEnding
            refine ⟨violationDetail result.violations, ?_⟩
            simp only [Account.conclusion, Ending.conclusion, verdict,
              ← inEnding.1, Bool.false_eq_true, if_false]
        | _ => simp [Ending.payloads] at inEnding

theorem replicate_append_eq_replicate
    {α : Type} {value : α} {count total : Nat} {rest : List α}
    (equal : List.replicate count value ++ rest =
      List.replicate total value) :
    total = count + rest.length ∧ ∀ other ∈ rest, other = value := by
  constructor
  · have lengths := congrArg List.length equal
    simp only [List.length_append, List.length_replicate] at lengths
    exact lengths.symm
  · intro other member
    have inWhole : other ∈ List.replicate total value := by
      rw [← equal]
      exact List.mem_append_right _ member
    exact List.eq_of_mem_replicate inWhole

/-- Only a loop that ran to its cap leaves a trace full of ok results. -/
theorem conclusion_of_capReached
    (positive : 1 ≤ wiring.maxIterations)
    (holds : account.Holds wiring ticket) (outcome : Outcome)
    (reached : CapReached wiring.maxIterations
      (account.payloads ++ [finalPayload outcome])) :
    ∃ detail, account.conclusion wiring.maxIterations =
      .concluded (handedOff .iterationCapExceeded detail) := by
  rcases reached with ⟨decisions, results⟩
  have someIteration : wiring.maxIterations.toNat ≠ 0 := by omega
  cases holds with
  | classifyRaised asked =>
      have lengths := congrArg List.length decisions
      rw [List.length_replicate] at lengths
      exact (someIteration lengths.symm).elim
  | unsupported asked unknown =>
      have lengths := congrArg List.length decisions
      rw [List.length_replicate] at lengths
      exact (someIteration lengths.symm).elim
  | @looped classification rounds ending asked known ran =>
      rcases looped_ending ran with ⟨rest, left, ended⟩
      rw [decisionKinds_looped] at decisions
      rw [toolResults_looped] at results
      rcases replicate_append_eq_replicate decisions with
        ⟨decisionCount, allCalls⟩
      rcases replicate_append_eq_replicate results with
        ⟨resultCount, allOk⟩
      rw [left] at decisionCount resultCount
      cases ended with
      | capped => exact ⟨_, rfl⟩
      | modelRaised decided =>
          simp [decisionKinds, Ending.payloads] at decisionCount
      | toolRaised decided answered failed printed =>
          simp [toolResults, Ending.payloads, Payload.toolResult?] at allOk
      | toolUnprintable decided answered failed unprinted =>
          simp [toolResults, Ending.payloads, List.filterMap_cons,
            Payload.toolResult?] at resultCount
      | _ =>
          simp [decisionKinds, Ending.payloads, Payload.decision?]
            at allCalls

/-! ## From the account to a cause -/

theorem cause_of_loop
    {classification : Classification} {rounds : List Round}
    {ending : Ending}
    (ran : Looped wiring ticket [] wiring.maxIterations.toNat rounds ending)
    (exchanges : exchangesOf events =
      (Account.looped classification rounds ending).exchanges)
    {outcome : Outcome}
    (concluded : (ending.conclusion wiring.maxIterations).outcome =
      .ok outcome)
    {reason : HandoffReason} (handedOff : outcome.reason = some reason) :
    Cause wiring.py wiring.maxIterations events
      ((Account.looped classification rounds ending).payloads ++
        [finalPayload outcome])
      reason := by
  rcases looped_ending ran with ⟨rest, left, ended⟩
  have byClause : ∀ {inFlight : Option String} {exc : Exc},
      failedClosed inFlight exc = .ok outcome →
        (ToolRaised wiring.py events
            ((Account.looped classification rounds ending).payloads ++
              [finalPayload outcome]) exc ∨
          Escaped wiring.py events exc) →
          Cause wiring.py wiring.maxIterations events
            ((Account.looped classification rounds ending).payloads ++
              [finalPayload outcome]) reason := by
    intro inFlight exc closed raised
    rcases failedClosed_handedOff closed with ⟨detail, rfl⟩
    cases handedOff
    exact .raised raised rfl
  cases ended with
  | capped =>
      cases concluded
      cases handedOff
      apply Cause.capped
      rw [Nat.add_zero] at left
      constructor
      · rw [decisionKinds_looped, left]
        exact List.append_nil _
      · rw [toolResults_looped, left]
        exact List.append_nil _
  | modelRaised decided =>
      apply byClause concluded
      refine Or.inr (.deciding ?_)
      rw [decisions_looped exchanges]
      simp [decisions, Ending.exchanges]
  | gaveUp decided =>
      cases concluded
      cases handedOff
      apply Cause.gaveUp
      rw [GaveUp, decisions_looped exchanges]
      simp [decisions, Ending.exchanges]
  | @toolRaised _ _ call result exc message decided answered failed printed =>
      apply byClause concluded
      refine Or.inl ⟨call, result, message, ?_, failed, printed, ?_⟩
      · rw [toolRuns_looped exchanges]
        simp [toolRuns, Ending.exchanges]
      · rw [toolResults_looped]
        simp [toolResults, Ending.payloads, List.filterMap_cons,
          Payload.toolResult?]
  | @toolUnprintable _ _ call result exc second decided answered failed
      unprinted =>
      apply byClause concluded
      refine Or.inr (.printing call result exc ?_ failed unprinted)
      rw [toolRuns_looped exchanges]
      simp [toolRuns, Ending.exchanges]
  | @resolveRaised _ _ name exc decided resolved =>
      apply byClause concluded
      refine Or.inr (.resolving name ?_)
      rw [resolutions_looped exchanges]
      rfl
  | @renderRaised _ _ name template exc decided resolved rendered =>
      apply byClause concluded
      refine Or.inr (.rendering name template ?_ ?_)
      · rw [resolutions_looped exchanges]
        rfl
      · rw [factsOf_looped exchanges rfl]
        exact rendered
  | @verifyRaised _ _ name template reply exc decided resolved rendered
      verified =>
      apply byClause concluded
      refine Or.inr (.verifying name template reply ?_ ?_ ?_)
      · rw [resolutions_looped exchanges]
        rfl
      · rw [factsOf_looped exchanges rfl]
        exact rendered
      · rw [factsOf_looped exchanges rfl]
        exact verified
  | @checked _ _ name template reply result decided resolved rendered
      verified =>
      cases concluded
      rcases result with ⟨literals, violations⟩
      cases violations with
      | nil => simp [verdict, replied] at handedOff
      | cons violation violations =>
          cases handedOff
          apply Cause.ungrounded
          refine ⟨literals.length, violation :: violations, ?_⟩
          rw [Account.payloads, loopPayloads_eq]
          simp [Ending.payloads]

/-- The reason of an outcome has a cause. -/
theorem cause_of_outcome
    (holds : account.Holds wiring ticket)
    (exchanges : exchangesOf events = account.exchanges)
    {outcome : Outcome}
    (concluded : account.outcome wiring.maxIterations = .ok outcome)
    {reason : HandoffReason} (handedOff : outcome.reason = some reason) :
    Cause wiring.py wiring.maxIterations events
      (account.payloads ++ [finalPayload outcome]) reason := by
  cases holds with
  | classifyRaised asked =>
      rcases failedClosed_handedOff concluded with ⟨detail, rfl⟩
      cases handedOff
      refine .raised (Or.inr (.classifying ?_)) rfl
      rw [← classifications_exchangesOf, exchanges]
      rfl
  | @unsupported classification asked unknown =>
      cases concluded
      cases handedOff
      refine .unsupported ⟨classification.matchedKeywords, ?_⟩
      simp [Account.payloads, classificationPayload, unknown]
  | looped asked known ran =>
      exact cause_of_loop ran exchanges concluded handedOff

/-- A cause is the cause of the reason of the outcome. -/
theorem reason_of_cause
    (positive : 1 ≤ wiring.maxIterations)
    (holds : account.Holds wiring ticket)
    (exchanges : exchangesOf events = account.exchanges)
    {outcome : Outcome}
    (concluded : account.outcome wiring.maxIterations = .ok outcome)
    {reason : HandoffReason}
    (cause : Cause wiring.py wiring.maxIterations events
      (account.payloads ++ [finalPayload outcome]) reason) :
    outcome.reason = some reason := by
  have byConclusion : ∀ {detail : String},
      account.conclusion wiring.maxIterations =
          .concluded (handedOff reason detail) →
        outcome.reason = some reason := by
    intro detail conclusion
    rw [Account.outcome, conclusion] at concluded
    cases concluded
    rfl
  cases cause with
  | unsupported unknown =>
      rcases conclusion_of_unknown holds outcome unknown with
        ⟨detail, conclusion⟩
      exact byConclusion conclusion
  | capped reached =>
      rcases conclusion_of_capReached positive holds outcome reached with
        ⟨detail, conclusion⟩
      exact byConclusion conclusion
  | ungrounded failed =>
      rcases conclusion_of_checkFailed holds outcome failed with
        ⟨detail, conclusion⟩
      exact byConclusion conclusion
  | @raised exc _ raised given =>
      have raisedThere : ∃ inFlight,
          account.conclusion wiring.maxIterations =
            .raised inFlight exc := by
        rcases raised with byTool | escaped
        · exact conclusion_of_toolRaised holds exchanges byTool
        · exact conclusion_of_escaped holds exchanges escaped
      rcases raisedThere with ⟨inFlight, conclusion⟩
      rw [Account.outcome, conclusion] at concluded
      rcases failedClosed_handedOff concluded with ⟨detail, rfl⟩
      rw [← given]
      rfl
  | gaveUp gaveUp =>
      exact byConclusion (conclusion_of_gaveUp holds exchanges gaveUp)

end

/-! ## Every run -/

/--
What backs the reasons of a run.  Each reason has its evidence, or the model
gave it; the two that name an exception class may also come from an exception
of that class outside a recorded tool call.
-/
structure ReasonsBacked (py : PyText) (maxIterations : Int)
    (events : List Event) (call : FinaliseCall) : Prop where
  ungrounded : call.handoffReason = some .ungroundedReply ↔
    CheckFailed (call.trace.map TraceStep.payload) ∨
      GaveUp events .ungroundedReply
  capped : call.handoffReason = some .iterationCapExceeded ↔
    CapReached maxIterations (call.trace.map TraceStep.payload) ∨
      GaveUp events .iterationCapExceeded
  unsupported : call.handoffReason = some .unsupportedIntent ↔
    ClassifiedUnknown (call.trace.map TraceStep.payload) ∨
      GaveUp events .unsupportedIntent
  userNotFound : call.handoffReason = some .userNotFound ↔
    (∃ exc, exc.clause = .userNotFound ∧
      (ToolRaised py events (call.trace.map TraceStep.payload) exc ∨
        Escaped py events exc)) ∨
      GaveUp events .userNotFound
  dataNotFound : call.handoffReason = some .dataNotFound ↔
    (∃ exc, exc.clause = .noDataAvailable ∧
      (ToolRaised py events (call.trace.map TraceStep.payload) exc ∨
        Escaped py events exc)) ∨
      GaveUp events .dataNotFound

@[simp]
theorem clauseReason_eq_userNotFound (clause : Clause) :
    clauseReason clause = .userNotFound ↔ clause = .userNotFound := by
  cases clause <;> simp [clauseReason]

@[simp]
theorem clauseReason_eq_dataNotFound (clause : Clause) :
    clauseReason clause = .dataNotFound ↔ clause = .noDataAvailable := by
  cases clause <;> simp [clauseReason]

/-- No exception is given one of the other three reasons. -/
theorem not_given
    {clause : Clause} {reason : HandoffReason}
    (given : clauseReason clause = reason)
    (other : reason ≠ .userNotFound ∧ reason ≠ .dataNotFound ∧
      reason ≠ .toolError) :
    False := by
  cases clause <;> simp_all [clauseReason]

/-- The causes of each reason, one by one. -/
theorem reasonsBacked_of_cause
    {py : PyText} {maxIterations : Int} {events : List Event}
    {call : FinaliseCall}
    (caused : ∀ reason, call.handoffReason = some reason ↔
      Cause py maxIterations events (call.trace.map TraceStep.payload)
        reason) :
    ReasonsBacked py maxIterations events call where
  ungrounded := by
    rw [caused]
    constructor
    · intro cause
      cases cause with
      | ungrounded failed => exact Or.inl failed
      | raised raised given => exact (not_given given (by simp)).elim
      | gaveUp gaveUp => exact Or.inr gaveUp
    · rintro (failed | gaveUp)
      · exact .ungrounded failed
      · exact .gaveUp gaveUp
  capped := by
    rw [caused]
    constructor
    · intro cause
      cases cause with
      | capped reached => exact Or.inl reached
      | raised raised given => exact (not_given given (by simp)).elim
      | gaveUp gaveUp => exact Or.inr gaveUp
    · rintro (reached | gaveUp)
      · exact .capped reached
      · exact .gaveUp gaveUp
  unsupported := by
    rw [caused]
    constructor
    · intro cause
      cases cause with
      | unsupported unknown => exact Or.inl unknown
      | raised raised given => exact (not_given given (by simp)).elim
      | gaveUp gaveUp => exact Or.inr gaveUp
    · rintro (unknown | gaveUp)
      · exact .unsupported unknown
      · exact .gaveUp gaveUp
  userNotFound := by
    rw [caused]
    constructor
    · intro cause
      cases cause with
      | raised raised given =>
          rw [clauseReason_eq_userNotFound] at given
          exact Or.inl ⟨_, given, raised⟩
      | gaveUp gaveUp => exact Or.inr gaveUp
    · rintro (⟨exc, clause, raised⟩ | gaveUp)
      · exact .raised raised (by rw [clause]; rfl)
      · exact .gaveUp gaveUp
  dataNotFound := by
    rw [caused]
    constructor
    · intro cause
      cases cause with
      | raised raised given =>
          rw [clauseReason_eq_dataNotFound] at given
          exact Or.inl ⟨_, given, raised⟩
      | gaveUp gaveUp => exact Or.inr gaveUp
    · rintro (⟨exc, clause, raised⟩ | gaveUp)
      · exact .raised raised (by rw [clause]; rfl)
      · exact .gaveUp gaveUp

section

variable {ρ : Type} (repository : TicketRepository ρ) (wiring : Wiring)
variable (storeClock : List Event → Reading)

/-- In every run with a cap of at least one, the reason is backed. -/
theorem runPipeline_reasons_backed
    (positive : 1 ≤ wiring.maxIterations)
    {ticketId : String} {ticket : Ticket} {service : Service ρ} {store : ρ}
    (found :
      repository.get ticketId service.store = .ok (some ticket) store) :
    let after :=
      finalState (runPipeline repository wiring storeClock ticketId) service
    ∃ events,
      after.events = service.events ++ events ∧
        ∀ call, HandedOver service after call →
          ReasonsBacked wiring.py wiring.maxIterations events call := by
  rcases ends_finalState
    (runPipeline_ends repository wiring storeClock found) with
    ⟨account, events, run⟩
  refine ⟨events, run.eventsAdded, ?_⟩
  intro call handed
  cases concluded : account.outcome wiring.maxIterations with
  | error exc =>
      rw [HandedOver, run.withheld exc concluded] at handed
      simp at handed
  | ok outcome =>
      rcases run.handed outcome concluded with ⟨only, handedOnly, callOf⟩
      cases HandedOver.unique handedOnly handed
      apply reasonsBacked_of_cause
      intro reason
      rw [callOf.reason, callOf.trace.payloads]
      constructor
      · intro handedOff
        exact cause_of_outcome run.holds run.exchanges concluded handedOff
      · intro cause
        exact reason_of_cause positive run.holds run.exchanges concluded
          cause

end

/-- A tool runner that knows the user, but no invoice. -/
def emptyAccount (tool : String) (_args : Dict) : Except Exc ToolResult :=
  if tool = "get_user" then .ok { tool, records := [.user anna] }
  else .error (noDataAvailable asciiText "no invoices for u_anna")

/-- The run reaches its second tool call, and hands off for what it raises. -/
theorem missing_invoices_backed :
    let after :=
      finalState
        (runPipeline (memoryRepository asciiText plainPydantic)
          (wiringOf billingModel emptyAccount) standingClock "t1")
        waitingService
    ∃ events call,
      after.events = waitingService.events ++ events ∧
        HandedOver waitingService after call ∧
          call.handoffReason = some .dataNotFound ∧
            ReasonsBacked asciiText 5 events call := by
  rcases runPipeline_reasons_backed (memoryRepository asciiText plainPydantic)
    (wiringOf billingModel emptyAccount) standingClock (by decide)
    billing_found with ⟨events, added, backed⟩
  have reasons :
      (finalState
          (runPipeline (memoryRepository asciiText plainPydantic)
            (wiringOf billingModel emptyAccount) standingClock "t1")
          waitingService).finalised.map FinaliseCall.handoffReason =
        [some .dataNotFound] := by
    decide +kernel
  rcases List.map_eq_singleton_iff.mp reasons with ⟨call, only, reason⟩
  exact ⟨events, call, added, only, reason, backed call only⟩

/-- A model that gives up at once, for this reason. -/
def quittingModel (reason : HandoffReason) : LLMClient :=
  scriptedModel .billingQuestion [.handoff reason]

/--
A model that names `UNGROUNDED_REPLY` itself hands off for it, in a trace
without any check of a reply.
-/
theorem quitting_without_evidence :
    ∃ call,
      HandedOver waitingService
          (finalState
            (runPipeline (memoryRepository asciiText plainPydantic)
              (wiringOf (quittingModel .ungroundedReply) paidAccount)
              standingClock "t1")
            waitingService)
          call ∧
        call.handoffReason = some .ungroundedReply ∧
          ¬ CheckFailed (call.trace.map TraceStep.payload) := by
  refine ⟨_, rfl, rfl, ?_⟩
  change ¬ CheckFailed
    [.intentClassified .billingQuestion [], .llmDecision 1 .handoff none,
      .finalDecision .handedOff (some .ungroundedReply)
        (some (gaveUpDetail .ungroundedReply))]
  rintro ⟨literalsChecked, violations, member⟩
  simp at member

end SupportAssistant.Pipeline.Reasons
