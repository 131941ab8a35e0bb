import SupportAssistant.Pipeline.TraceGrammar
import SupportAssistant.Storage.Atomicity

/-!
# Which runs can be written

A run records what the model calls tools with, and hands over the reply it
earned.  Its trace can be written exactly when the arguments of those calls
can: summaries, violations and counts always can, as long as no list in the
run is longer than any list is.
-/

namespace SupportAssistant.Pipeline.WritableRuns

open SupportAssistant.Enums
open SupportAssistant.Runtime
open SupportAssistant.Runtime.Written
open SupportAssistant.Effects.Mapping
open SupportAssistant.Tracing.Models
open SupportAssistant.Tracing.Summarise
open SupportAssistant.Domain
open SupportAssistant.Storage.Sqlite
open SupportAssistant.Storage.Codec
open SupportAssistant.Storage.Compact
open SupportAssistant.Storage.Atomicity
open SupportAssistant.Pipeline.Collaborators
open SupportAssistant.Pipeline.Orchestrator
open SupportAssistant.Pipeline.Accounts
open SupportAssistant.Pipeline.RunSpec
open SupportAssistant.Pipeline.Handover
open SupportAssistant.Pipeline.Replies
open SupportAssistant.Pipeline.TraceGrammar

/-! ## Every recorded value is a JSON value -/

/-- The model calls tools with JSON values only. -/
def JsonArgs (wiring : Wiring) : Prop :=
  ∀ events ticket history call,
    wiring.llm.decideNextStep events ticket history =
        .ok (.toolCall call) →
      AllJson call.args

theorem summariseCollection_allJson
    {result : ToolResult} {members : List String}
    {idOf : Record → Except Exc String} {summary : Dict}
    (summarised : summariseCollection result members idOf = .ok summary) :
    AllJson summary := by
  unfold summariseCollection at summarised
  cases referenced : (result.records.filter fun record =>
      (recordStatus record).isSome).mapM idOf with
  | error exc => simp [referenced, bind, Except.bind] at summarised
  | ok ids =>
      simp only [referenced, bind, Except.bind, Except.ok.injEq]
        at summarised
      rw [← summarised]
      intro entry member
      simp only [List.mem_cons, List.not_mem_nil, or_false] at member
      rcases member with rfl | rfl | rfl <;> exact ⟨_, rfl⟩

theorem summarise_allJson
    {py : PyText} {result : ToolResult} {summary : Dict}
    (summarised : summarise py result = .ok summary) :
    AllJson summary := by
  unfold summarise at summarised
  split at summarised
  · unfold summariseUser at summarised
    split at summarised
    · simp at summarised
    · cases summarised
      intro entry member
      simp only [List.mem_cons, List.not_mem_nil, or_false] at member
      rcases member with rfl | rfl <;> exact ⟨_, rfl⟩
    · simp at summarised
  split at summarised
  · exact summariseCollection_allJson summarised
  split at summarised
  · exact summariseCollection_allJson summarised
  · simp at summarised

/-! ## What a run records -/

/-- The rounds of the loop. -/
def roundsOf : Account → List Round
  | .looped _ rounds _ => rounds
  | _ => []

/-- Where the values of a recorded step come from. -/
inductive Given (wiring : Wiring) (ticket : Ticket) (rounds : List Round) :
    Payload → Prop where
  | plain {payload : Payload} (json : JsonValued payload)
      (none : freeValues payload = []) : Given wiring ticket rounds payload
  | called {events : List Event} {history : List Observation}
      {call : ToolCall}
      (decided : wiring.llm.decideNextStep events ticket history =
        .ok (.toolCall call)) :
      Given wiring ticket rounds (.toolCall call.tool call.args)
  | summarised {round : Round} {tool : String} {ok : Bool} {summary : Dict}
      {error : Option ToolError} (inRun : round ∈ rounds)
      (isSummary : summarise wiring.py round.result = .ok summary) :
      Given wiring ticket rounds (.toolResult tool ok (some summary) error)

theorem Given.later {wiring : Wiring} {ticket : Ticket} {round : Round}
    {rounds : List Round} {payload : Payload}
    (given : Given wiring ticket rounds payload) :
    Given wiring ticket (round :: rounds) payload := by
  cases given with
  | plain json none => exact .plain json none
  | called decided => exact .called decided
  | summarised inRun isSummary =>
      exact .summarised (List.mem_cons_of_mem _ inRun) isSummary

theorem looped_given
    {wiring : Wiring} {ticket : Ticket}
    {history : List Observation} {left : Nat} {rounds : List Round}
    {ending : Ending}
    (looped : Looped wiring ticket history left rounds ending)
    (iteration : Int) :
    ∀ payload ∈ loopPayloads iteration rounds ending,
      Given wiring ticket rounds payload := by
  induction looped generalizing iteration with
  | toolRaised decided answered failed printed =>
      rcases decided with ⟨events, decided⟩
      simp only [loopPayloads, Ending.payloads, List.forall_mem_cons]
      exact ⟨.plain trivial rfl, .called decided,
        .plain (by simp [JsonValued]) rfl, by simp⟩
  | toolUnprintable decided answered failed unprinted =>
      rcases decided with ⟨events, decided⟩
      simp only [loopPayloads, Ending.payloads, List.forall_mem_cons]
      exact ⟨.plain trivial rfl, .called decided, by simp⟩
  | round decided answered summarised later induction =>
      rcases decided with ⟨events, decided⟩
      intro payload member
      rcases List.mem_append.mp member with first | others
      · simp only [roundPayloads, List.mem_cons, List.not_mem_nil,
          or_false] at first
        rcases first with rfl | rfl | rfl
        · exact .plain trivial rfl
        · exact .called decided
        · exact .summarised List.mem_cons_self summarised
      · exact (induction (iteration + 1) payload others).later
  | _ =>
      intro payload member
      refine .plain ?_ ?_ <;> revert payload <;>
        simp [loopPayloads, Ending.payloads, JsonValued, freeValues]

theorem payloads_given
    {wiring : Wiring} {ticket : Ticket}
    {account : Account} (holds : account.Holds wiring ticket)
    (outcome : Outcome) :
    ∀ payload ∈ account.payloads ++ [finalPayload outcome],
      Given wiring ticket (roundsOf account) payload := by
  rw [List.forall_mem_append]
  constructor
  · cases holds with
    | classifyRaised asked => simp [Account.payloads]
    | unsupported asked unknown =>
        simp only [Account.payloads, List.forall_mem_singleton]
        exact .plain trivial rfl
    | looped asked known ran =>
        rw [Account.payloads, List.forall_mem_cons]
        exact ⟨.plain trivial rfl, looped_given ran 1⟩
  · rw [List.forall_mem_singleton]
    exact .plain trivial rfl

theorem payloads_jsonValued
    {wiring : Wiring} {ticket : Ticket} (json : JsonArgs wiring)
    {account : Account} (holds : account.Holds wiring ticket)
    (outcome : Outcome) :
    ∀ payload ∈ account.payloads ++ [finalPayload outcome],
      JsonValued payload := by
  intro payload member
  cases payloads_given holds outcome payload member with
  | plain valued none => exact valued
  | called decided => exact json _ _ _ _ decided
  | summarised inRun isSummary =>
      rintro dict ⟨⟩
      exact summarise_allJson isSummary

/-! ## What a run was given -/

/-- The tool calls that the model decided on, in order. -/
def decidedCalls (events : List Event) : List ToolCall :=
  (decisions events).filterMap fun
    | .ok (.toolCall call) => some call
    | _ => none

/--
What a run was given can be written: the arguments of its calls are nested no
deeper than is dumped and hold no integer that is too long, and the reply it
earned holds no lone surrogate.
-/
structure Writable (py : PyText) (events : List Event) : Prop where
  args : ∀ call ∈ decidedCalls events, IsCompact py call.args
  reply : ∀ reply, Earned py events reply → py.encodes reply = true

/-- No list that a run builds or is given has as many items as this. -/
structure Small (events : List Event) : Prop where
  steps : (loggedSteps events).length < 2 ^ 63
  counted : ∀ step ∈ loggedSteps events, ∀ number ∈ counts step.payload,
    number < 2 ^ 63
  records : ∀ observation ∈ observations events,
    observation.result.records.length < 2 ^ 63

/-! ## The recorded calls -/

def callOf? : Payload → Option ToolCall
  | .toolCall tool args => some ⟨tool, args⟩
  | _ => none

theorem calls_of_ending (iteration : Int) (history : List Observation)
    (ending : Ending) :
    (ending.payloads iteration).filterMap callOf? =
      decidedCalls (ending.exchanges history) := by
  cases ending <;> rfl

/-- The calls in the trace are the ones that the model decided on. -/
theorem calls_of_loop (iteration : Int) (history : List Observation)
    (rounds : List Round) (ending : Ending) :
    (loopPayloads iteration rounds ending).filterMap callOf? =
      decidedCalls (loopExchanges history rounds ending) := by
  induction rounds generalizing iteration history with
  | nil => exact calls_of_ending iteration history ending
  | cons round rounds induction =>
      have later := induction (iteration + 1) (history ++ [round.observation])
      rw [loopPayloads, List.filterMap_append, later]
      rfl

theorem calls_of_account (account : Account) :
    account.payloads.filterMap callOf? = decidedCalls account.exchanges := by
  cases account with
  | classifyRaised exc => rfl
  | unsupported classification => rfl
  | looped classification rounds ending =>
      exact calls_of_loop 1 [] rounds ending

theorem decidedCalls_exchangesOf (events : List Event) :
    decidedCalls (exchangesOf events) = decidedCalls events := by
  rw [decidedCalls, decisions_exchangesOf]
  rfl

/-! ## The recorded summaries -/

theorem shortInt_length {count : Nat} (small : count < 2 ^ 63) :
    shortInt count = true :=
  shortInt_of_lt (Int.natCast_nonneg count) (by omega)

/--
A JSON value of a summary of so many records: of at most one level, with small
numbers unless there are too many records.
-/
def Plain (count : Nat) (value : Json) : Prop :=
  value.depth ≤ 1 ∧ (count < 2 ^ 63 → value.short = true)

theorem plain_strings (count : Nat) (texts : List String) :
    Plain count (.list (texts.map .string)) := by
  refine ⟨?_, fun _ => short_strings texts⟩
  rw [depth_list_le_iff, List.forall_mem_map]
  exact fun _ _ => Nat.le_refl 0

theorem plain_statusCounts
    (members : List String) {records : List Record} {count : Nat}
    (fewer : records.length ≤ count) :
    Plain count (.object (statusCounts members records)) := by
  have counted : ∀ entry ∈ statusCounts members records,
      ∃ number : Nat, entry.2 = .int number ∧ number ≤ count := by
    intro entry member
    rcases List.mem_filterMap.mp member with ⟨name, -, isEntry⟩
    dsimp only at isEntry
    split at isEntry
    · simp at isEntry
    · cases isEntry
      exact ⟨_, rfl, le_trans List.countP_le_length fewer⟩
  refine ⟨?_, fun small => ?_⟩
  · rw [depth_object_le_iff]
    intro entry member
    rcases counted entry member with ⟨number, isNumber, -⟩
    rw [isNumber]
    exact Nat.le_refl 0
  · rw [short_object]
    intro entry member
    rcases counted entry member with ⟨number, isNumber, le⟩
    rw [isNumber, short_int, shortInt_length (lt_of_le_of_lt le small)]

theorem summariseCollection_plain
    {result : ToolResult} {members : List String}
    {idOf : Record → Except Exc String} {summary : Dict}
    (summarised : summariseCollection result members idOf = .ok summary) :
    ∀ entry ∈ summary, ∀ value, entry.2 = .json value →
      Plain result.records.length value := by
  unfold summariseCollection at summarised
  cases referenced : (result.records.filter fun record =>
      (recordStatus record).isSome).mapM idOf with
  | error exc => simp [referenced, bind, Except.bind] at summarised
  | ok ids =>
      simp only [referenced, bind, Except.bind, Except.ok.injEq]
        at summarised
      have fewer := List.length_filter_le (fun record =>
        (recordStatus record).isSome) result.records
      rw [← summarised]
      intro entry member value isValue
      simp only [List.mem_cons, List.not_mem_nil, or_false] at member
      rcases member with rfl | rfl | rfl <;> cases isValue
      · refine ⟨Nat.zero_le 1, fun small => ?_⟩
        rw [short_int, shortInt_length (lt_of_le_of_lt fewer small)]
      · exact plain_statusCounts members fewer
      · exact plain_strings _ ids

theorem summarise_plain
    {py : PyText} {result : ToolResult} {summary : Dict}
    (summarised : summarise py result = .ok summary) :
    ∀ entry ∈ summary, ∀ value, entry.2 = .json value →
      Plain result.records.length value := by
  unfold summarise at summarised
  split at summarised
  · unfold summariseUser at summarised
    split at summarised
    · simp at summarised
    · cases summarised
      intro entry member value isValue
      simp only [List.mem_cons, List.not_mem_nil, or_false] at member
      rcases member with rfl | rfl <;> cases isValue <;>
        exact ⟨Nat.zero_le 1, fun _ => rfl⟩
    · simp at summarised
  split at summarised
  · exact summariseCollection_plain summarised
  split at summarised
  · exact summariseCollection_plain summarised
  · simp at summarised

/-- A summary is nested less deep than is dumped, whatever the records say. -/
theorem summarise_shallow
    {py : PyText} {result : ToolResult} {summary : Dict}
    (summarised : summarise py result = .ok summary) :
    Shallow py.dumpDepth summary := by
  intro entry member value isValue
  have low := (summarise_plain summarised entry member value isValue).1
  have := py.two_le_dumpDepth
  omega

/-- A summary of a list can be written. -/
theorem summarise_compact
    {py : PyText} {result : ToolResult} {summary : Dict}
    (summarised : summarise py result = .ok summary)
    (small : result.records.length < 2 ^ 63) :
    IsCompact py summary :=
  fun entry member value isValue =>
    ⟨summarise_shallow summarised entry member value isValue,
      (summarise_plain summarised entry member value isValue).2 small⟩

/-- If the model calls tools with shallow values, all values are shallow. -/
theorem payloads_shallow
    {wiring : Wiring} {ticket : Ticket}
    (args : ∀ events history call,
      wiring.llm.decideNextStep events ticket history =
          .ok (.toolCall call) →
        Shallow wiring.py.dumpDepth call.args)
    {account : Account} (holds : account.Holds wiring ticket)
    (outcome : Outcome) :
    ∀ payload ∈ account.payloads ++ [finalPayload outcome],
      Shallow wiring.py.dumpDepth (freeValues payload) := by
  intro payload member
  cases payloads_given holds outcome payload member with
  | plain valued none => simp [none, Shallow]
  | called decided => exact args _ _ _ decided
  | summarised inRun isSummary => exact summarise_shallow isSummary

/-! ## Which traces can be written -/

section

variable {py : PyText} {wiring : Wiring} {ticket : Ticket}
variable {account : Account} {outcome : Outcome} {events : List Event}

theorem summary_compact
    (holds : account.Holds wiring ticket)
    (exchanges : exchangesOf events = account.exchanges)
    (small : Small events)
    {tool : String} {ok : Bool} {summary : Dict} {error : Option ToolError}
    (recorded : Payload.toolResult tool ok (some summary) error ∈
      account.payloads ++ [finalPayload outcome]) :
    IsCompact wiring.py summary := by
  cases payloads_given holds outcome _ recorded with
  | plain json none =>
      rw [freeValues, Option.getD_some] at none
      rw [none]
      exact isCompact_nil
  | @summarised round _ _ _ _ inRun isSummary =>
      cases holds with
      | looped asked known ran =>
          refine summarise_compact isSummary
            (small.records round.observation ?_)
          rw [observations_looped exchanges]
          exact List.mem_append_left _ (List.mem_map_of_mem inRun)
      | _ => simp [roundsOf] at inRun

theorem counts_short
    (small : Small events) {step : TraceStep}
    (logged : step ∈ loggedSteps events) :
    ∀ number ∈ counts step.payload, shortInt number = true := by
  intro number member
  have positive : 0 ≤ number := by
    have valid := step.valid
    cases payload : step.payload with
    | llmDecision iteration decision tool =>
        rw [payload] at valid member
        cases List.mem_singleton.mp member
        simp only [Payload.valid, Bool.and_eq_true, decide_eq_true_eq]
          at valid
        omega
    | groundingCheck passed literalsChecked violations =>
        rw [payload] at valid member
        cases List.mem_singleton.mp member
        simpa [Payload.valid] using valid
    | _ => simp [payload, counts] at member
  exact shortInt_of_lt positive (small.counted step logged number member)

/-- The trace can be written exactly when the arguments of the calls can. -/
theorem trace_writes_iff
    (json : JsonArgs wiring) (holds : account.Holds wiring ticket)
    (exchanges : exchangesOf events = account.exchanges)
    (small : Small events) {steps : List TraceStep}
    (trace : TraceOf (account.payloads ++ [finalPayload outcome]) events
      steps) :
    (∀ step ∈ steps, Serialisable wiring.py step) ↔
      ∀ call ∈ decidedCalls events, IsCompact wiring.py call.args := by
  have recorded : ∀ step ∈ steps,
      step.payload ∈ account.payloads ++ [finalPayload outcome] := by
    rw [← trace.payloads]
    exact fun step member => List.mem_map_of_mem member
  have valued := payloads_jsonValued json holds outcome
  have calls : (steps.map TraceStep.payload).filterMap callOf? =
      decidedCalls events := by
    rw [trace.payloads, List.filterMap_append, calls_of_account,
      ← exchanges, decidedCalls_exchangesOf]
    exact List.append_nil _
  rw [← calls]
  constructor
  · intro serialisable call member
    rcases List.mem_filterMap.mp member with ⟨payload, isPayload, isCall⟩
    rcases List.mem_map.mp isPayload with ⟨step, inTrace, rfl⟩
    have compact := ((writes_iff (valued _ (recorded step inTrace))).mp
      (serialisable step inTrace)).1
    cases payload : step.payload with
    | toolCall tool args =>
        rw [payload] at isCall compact
        cases isCall
        exact compact
    | _ => simp [payload, callOf?] at isCall
  · intro compact step inTrace
    have logged : step ∈ loggedSteps events := by rwa [trace.hook]
    refine (writes_iff (valued _ (recorded step inTrace))).mpr
      ⟨?_, counts_short small logged⟩
    cases payload : step.payload with
    | toolCall tool args =>
        refine compact ⟨tool, args⟩ (List.mem_filterMap.mpr
          ⟨_, List.mem_map_of_mem inTrace, ?_⟩)
        rw [payload]
        rfl
    | toolResult tool ok summary error =>
        cases summary with
        | none => exact isCompact_nil
        | some summary =>
            have member := recorded step inTrace
            rw [payload] at member
            exact summary_compact holds exchanges small member
    | _ => exact isCompact_nil

end

end SupportAssistant.Pipeline.WritableRuns
