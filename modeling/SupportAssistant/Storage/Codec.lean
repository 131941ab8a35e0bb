import SupportAssistant.Effects.Mapping
import SupportAssistant.Storage.Sqlite

/-!
# Steps written and read back

A step that was written to a row reads back as itself, up to what JSON keeps:
arguments and summaries become their JSON values, and a time becomes the one
its text is read as.  Order, kind and every other field survive.
-/

namespace SupportAssistant.Storage.Codec

open SupportAssistant.Effects.Mapping
open SupportAssistant.Enums
open SupportAssistant.Runtime
open SupportAssistant.Tracing.Models
open SupportAssistant.Storage.Sqlite

/-! ## What is kept -/

/-- The value that a dumped value is read back as. -/
def storedValue : AnyValue → AnyValue
  | .json value => .json value
  | .other (some dumped) _ => .json dumped
  | .other none asString => .other none asString

def storedDict (dict : Dict) : Dict :=
  dict.map fun entry => (entry.1, storedValue entry.2)

def storedPayload : Payload → Payload
  | .toolCall tool args => .toolCall tool (storedDict args)
  | .toolResult tool ok summary error =>
      .toolResult tool ok (summary.map storedDict) error
  | payload => payload

@[simp]
theorem storedPayload_type (payload : Payload) :
    (storedPayload payload).type = payload.type := by
  cases payload <;> rfl

theorem storedPayload_valid (payload : Payload) :
    (storedPayload payload).valid = payload.valid := by
  cases payload <;> rfl

/-! ## Values -/

@[simp]
theorem stringOf_string (value : String) :
    stringOf? (.string value) = some value := rfl

@[simp]
theorem intOf_int (value : Int) : intOf? (.int value) = some value := rfl

@[simp]
theorem boolOf_bool (value : Bool) : boolOf? (.bool value) = some value :=
  rfl

@[simp]
theorem listOf_list {α : Type} (item : Json → Option α)
    (items : List Json) :
    listOf? item (.list items) = items.mapM item := rfl

@[simp]
theorem objectOf_object (entries : List (String × Json)) :
    objectOf? (.object entries) = some entries := rfl

theorem dumpValue_eq_some {py : PyText} {value : AnyValue} {json : Json} :
    dumpValue py value = some json ↔
      serialised value = some json ∧ json.depth ≤ py.dumpDepth := by
  rw [dumpValue, Option.filter_eq_some_iff, decide_eq_true_iff]

theorem storedValue_of_dumped
    {py : PyText} {value : AnyValue} {json : Json}
    (dumped : dumpValue py value = some json) :
    storedValue value = .json json := by
  have yields := (dumpValue_eq_some.mp dumped).1
  cases value with
  | json value =>
      cases yields
      rfl
  | other dumpedTo asString =>
      cases yields
      rfl

theorem dictOf_dumpDict
    {py : PyText} {dict : Dict} {entries : List (String × Json)}
    (dumped : dumpDict py dict = some entries) :
    dictOf? (.object entries) = some (storedDict dict) := by
  induction dict generalizing entries with
  | nil =>
      cases dumped
      rfl
  | cons entry dict induction =>
      rcases entry with ⟨key, value⟩
      simp only [dumpDict, List.mapM_cons, Option.bind_eq_bind,
        Option.bind_eq_some_iff] at dumped
      rcases dumped with ⟨first, firstDumped, rest, restDumped, same⟩
      cases same
      rw [Option.map_eq_some_iff] at firstDumped
      rcases firstDumped with ⟨json, valueDumped, rfl⟩
      have later := induction restDumped
      have kept : storedValue value = .json json :=
        storedValue_of_dumped valueDumped
      simp only [dictOf?, objectOf?, Option.map_some, Option.some.injEq]
        at later ⊢
      rw [List.map_cons, later]
      simp [storedDict, kept]

theorem violationOf_dumpViolation (violation : Violation) :
    violationOf? (dumpViolation violation) = some violation := by
  simp [violationOf?, dumpViolation, onlyKeys, field?, Json.get?]

theorem toolErrorOf_dumpToolError (error : ToolError) :
    toolErrorOf? (dumpToolError error) = some error := by
  simp [toolErrorOf?, dumpToolError, onlyKeys, field?, Json.get?]

theorem optionOf_jsonOption
    {α : Type} {write : α → Json} {read : Json → Option α}
    (notNull : ∀ value, write value ≠ .null)
    (reads : ∀ value, read (write value) = some value)
    (value : Option α) :
    optionOf? read (jsonOption write value) = some value := by
  cases value with
  | none => rfl
  | some value =>
      have written := notNull value
      have readBack := reads value
      simp only [jsonOption]
      cases json : write value with
      | null => exact (written json).elim
      | _ =>
          rw [json] at readBack
          simp [optionOf?, readBack]

theorem decisionOf_value (decision : Decision) :
    Sqlite.Decision.ofValue? decision.value = some decision := by
  cases decision <;> rfl

/-! ## Payloads -/

theorem mapM_strings (texts : List String) :
    texts.mapM (stringOf? ∘ Json.string) = some texts :=
  mapM_written stringOf_string texts

theorem optionOf_string (text : Option String) :
    optionOf? stringOf? (jsonOption Json.string text) = some text :=
  optionOf_jsonOption (by simp) stringOf_string text

theorem optionOf_reason (reason : Option HandoffReason) :
    optionOf? (fun value => (stringOf? value).bind HandoffReason.ofValue?)
        (jsonOption (fun reason => .string (HandoffReason.value reason))
          reason) =
      some reason :=
  optionOf_jsonOption (by simp) (by simp) reason

theorem optionOf_toolError (error : Option ToolError) :
    optionOf? toolErrorOf? (jsonOption dumpToolError error) = some error :=
  optionOf_jsonOption (by simp [dumpToolError]) toolErrorOf_dumpToolError
    error

theorem optionOf_summary
    {py : PyText} {summary : Option Dict} {dumped : Json}
    (summaryDumped :
      (match summary with
        | none => some Json.null
        | some summary => (dumpDict py summary).map .object) = some dumped) :
    optionOf? dictOf? dumped = some (summary.map storedDict) := by
  cases summary with
  | none =>
      cases summaryDumped
      rfl
  | some summary =>
      rcases Option.map_eq_some_iff.mp summaryDumped with
        ⟨entries, entriesDumped, rfl⟩
      simp [optionOf?, dictOf_dumpDict entriesDumped]

/-- A payload that could be dumped is read back, up to what JSON keeps. -/
theorem loadPayload_dumpPayload
    {py : PyText} {payload : Payload} {entries : List (String × Json)}
    (dumped : dumpPayload py payload = some entries) :
    loadPayload payload.type entries = some (storedPayload payload) := by
  cases payload with
  | intentClassified intent matchedKeywords =>
      cases dumped
      simp [loadPayload, Payload.type, onlyKeys, field?, Json.get?,
        mapM_strings, storedPayload]
  | llmDecision iteration decision tool =>
      cases dumped
      simp [loadPayload, Payload.type, onlyKeys, field?, fieldOr?, Json.get?,
        decisionOf_value, optionOf_string, storedPayload]
  | toolCall tool args =>
      rcases Option.bind_eq_some_iff.mp dumped with
        ⟨dumpedArgs, argsDumped, same⟩
      cases same
      simp [loadPayload, Payload.type, onlyKeys, field?, Json.get?,
        dictOf_dumpDict argsDumped, storedPayload]
  | toolResult tool ok summary error =>
      have split : ∃ dumpedSummary,
          (match summary with
            | none => some Json.null
            | some summary => (dumpDict py summary).map .object) =
              some dumpedSummary ∧
            entries =
              [("tool", .string tool), ("ok", .bool ok),
                ("summary", dumpedSummary),
                ("error", jsonOption dumpToolError error)] := by
        cases summary with
        | none =>
            cases dumped
            exact ⟨_, rfl, rfl⟩
        | some summary =>
            rcases Option.bind_eq_some_iff.mp dumped with
              ⟨dumpedSummary, summaryDumped, same⟩
            cases same
            exact ⟨dumpedSummary, summaryDumped, rfl⟩
      rcases split with ⟨dumpedSummary, summaryDumped, rfl⟩
      simp [loadPayload, Payload.type, onlyKeys, field?, fieldOr?, Json.get?,
        optionOf_summary summaryDumped, optionOf_toolError, storedPayload]
  | groundingCheck passed literalsChecked violations =>
      cases dumped
      simp [loadPayload, Payload.type, onlyKeys, field?, fieldOr?, Json.get?,
        mapM_written violationOf_dumpViolation, storedPayload]
  | finalDecision outcome reason detail =>
      cases dumped
      simp [loadPayload, Payload.type, onlyKeys, field?, fieldOr?, Json.get?,
        optionOf_reason, optionOf_string, storedPayload]

/-! ## Steps made of JSON values -/

def AllJson (dict : Dict) : Prop :=
  ∀ entry ∈ dict, ∃ value, entry.2 = .json value

/-- The free-form values of a step are JSON values. -/
def JsonValued : Payload → Prop
  | .toolCall _ args => AllJson args
  | .toolResult _ _ summary _ => ∀ dict ∈ summary, AllJson dict
  | _ => True

theorem storedDict_of_allJson {dict : Dict} (json : AllJson dict) :
    storedDict dict = dict := by
  refine (List.map_congr_left ?_).trans (List.map_id dict)
  rintro ⟨key, value⟩ member
  rcases json _ member with ⟨read, rfl⟩
  rfl

/-- The free-form values of a step. -/
def freeValues : Payload → Dict
  | .toolCall _ args => args
  | .toolResult _ _ summary _ => summary.getD []
  | _ => []

theorem value_of_jsonValued
    {payload : Payload} (json : JsonValued payload)
    {entry : String × AnyValue} (member : entry ∈ freeValues payload) :
    ∃ value, entry.2 = .json value := by
  cases payload with
  | toolCall tool args => exact json entry member
  | toolResult tool ok summary error =>
      cases summary with
      | none => simp [freeValues] at member
      | some summary => exact json summary rfl entry member
  | _ => simp [freeValues] at member

/-- None of the JSON values is nested deeper than this. -/
def Shallow (limit : Nat) (dict : Dict) : Prop :=
  ∀ entry ∈ dict, ∀ value, entry.2 = .json value → value.depth ≤ limit

/-- A dictionary is dumped value by value, under the same keys. -/
theorem dumpDict_eq_some_iff
    {py : PyText} {dict : Dict} {entries : List (String × Json)} :
    dumpDict py dict = some entries ↔
      List.Forall₂
        (fun entry dumped =>
          dumpValue py entry.2 = some dumped.2 ∧ entry.1 = dumped.1)
        dict entries := by
  rw [dumpDict, mapM_some_iff_forall₂]
  apply iff_of_eq
  congr 1
  funext entry dumped
  rw [Option.map_eq_some_iff, eq_iff_iff]
  constructor
  · rintro ⟨json, valueDumped, rfl⟩
    exact ⟨valueDumped, rfl⟩
  · rintro ⟨valueDumped, same⟩
    exact ⟨dumped.2, valueDumped, Prod.ext same rfl⟩

theorem dumpDict_of_allJson
    {py : PyText} {dict : Dict} (json : AllJson dict)
    (shallow : Shallow py.dumpDepth dict) :
    ∃ entries, dumpDict py dict = some entries := by
  apply mapM_of_forall
  rintro ⟨key, value⟩ member
  rcases json _ member with ⟨read, rfl⟩
  have dumped : dumpValue py (.json read) = some read :=
    dumpValue_eq_some.mpr ⟨rfl, shallow _ member read rfl⟩
  exact ⟨(key, read), by simp [dumped]⟩

theorem storedPayload_of_jsonValued
    {payload : Payload} (json : JsonValued payload) :
    storedPayload payload = payload := by
  cases payload with
  | toolCall tool args =>
      simp only [storedPayload, storedDict_of_allJson json]
  | toolResult tool ok summary error =>
      cases summary with
      | none => rfl
      | some summary =>
          simp only [storedPayload, Option.map_some,
            storedDict_of_allJson (json summary rfl)]
  | _ => rfl

theorem dumpPayload_of_jsonValued
    {py : PyText} {payload : Payload} (json : JsonValued payload)
    (shallow : Shallow py.dumpDepth (freeValues payload)) :
    ∃ fields, dumpPayload py payload = some fields := by
  cases payload with
  | toolCall tool args =>
      rcases dumpDict_of_allJson json shallow with ⟨entries, dumped⟩
      exact ⟨_, by simp [dumpPayload, dumped]; rfl⟩
  | toolResult tool ok summary error =>
      cases summary with
      | none => exact ⟨_, rfl⟩
      | some summary =>
          rcases dumpDict_of_allJson (json summary rfl) shallow with
            ⟨entries, dumped⟩
          exact ⟨_, by simp [dumpPayload, dumped]; rfl⟩
  | intentClassified => exact ⟨_, rfl⟩
  | llmDecision => exact ⟨_, rfl⟩
  | groundingCheck => exact ⟨_, rfl⟩
  | finalDecision => exact ⟨_, rfl⟩

/-! ## Objects -/

theorem get?_append (front back : List (String × Json)) (key : String) :
    Json.get? (front ++ back) key =
      (Json.get? front key).or (Json.get? back key) := by
  rw [Json.get?, List.find?_append]
  cases found : front.find? (·.1 == key) <;> simp [Json.get?, found]

/-- None of the keys is that of a column. -/
def Unpromoted (fields : List (String × Json)) : Prop :=
  ∀ entry ∈ fields, entry.1 ∉ promoted

theorem get?_of_unpromoted
    {fields : List (String × Json)} (unpromoted : Unpromoted fields)
    {key : String} (isColumn : key ∈ promoted) :
    Json.get? fields key = none := by
  rw [Json.get?, Option.map_eq_none_iff, List.find?_eq_none]
  intro entry member same
  rw [beq_iff_eq] at same
  exact unpromoted entry member (same ▸ isColumn)

theorem withoutPromoted_of_unpromoted
    {fields : List (String × Json)} (unpromoted : Unpromoted fields) :
    withoutPromoted fields = fields := by
  rw [withoutPromoted, List.filter_eq_self]
  intro entry member
  simpa using unpromoted entry member

/-- The names that the fields of a step have. -/
def fieldNames : List String :=
  ["intent", "matched_keywords", "iteration", "decision", "tool", "args",
    "ok", "summary", "error", "passed", "literals_checked", "violations",
    "outcome", "reason", "detail"]

theorem named_dumpPayload
    {py : PyText} {payload : Payload} {fields : List (String × Json)}
    (dumped : dumpPayload py payload = some fields) :
    ∀ entry ∈ fields, entry.1 ∈ fieldNames := by
  cases payload with
  | toolCall tool args =>
      rcases Option.bind_eq_some_iff.mp dumped with ⟨_, _, same⟩
      cases same
      simp [fieldNames]
  | toolResult tool ok summary error =>
      rcases summary with _ | summary
      · cases dumped
        simp [fieldNames]
      · rcases Option.bind_eq_some_iff.mp dumped with ⟨_, _, same⟩
        cases same
        simp [fieldNames]
  | _ =>
      cases dumped
      simp [fieldNames]

theorem unpromoted_dumpPayload
    {py : PyText} {payload : Payload} {fields : List (String × Json)}
    (dumped : dumpPayload py payload = some fields) :
    Unpromoted fields := by
  have apart : ∀ name ∈ fieldNames, name ∉ promoted := by decide
  exact fun entry member => apart _ (named_dumpPayload dumped entry member)

theorem dataOf_of_unpromoted
    {row : StepRow} (unpromoted : Unpromoted row.payload) :
    dataOf row =
      row.payload ++
        [("seq", .int row.seq), ("ts", .string row.ts),
          ("type", .string row.type)] := by
  have absent {key : String} (isColumn : key ∈ promoted) :
      row.payload.any (·.1 == key) = false := by
    rw [List.any_eq_false]
    intro entry member same
    rw [beq_iff_eq] at same
    exact unpromoted entry member (same ▸ isColumn)
  have noSeq : row.payload.any (·.1 == "seq") = false :=
    absent (by simp [promoted])
  have noTs : row.payload.any (·.1 == "ts") = false :=
    absent (by simp [promoted])
  have noType : row.payload.any (·.1 == "type") = false :=
    absent (by simp [promoted])
  simp [dataOf, assign, noSeq, noTs, noType]

section

variable (py : PyText) (time : TimeText)

/-- The columns and the other fields of an object decide its validation. -/
theorem validateStep_of_columns
    {data fields : List (String × Json)} {step : TraceStep} {ts : DateTime}
    (seq : Json.get? data "seq" = some (.int step.seq))
    (dumpedTs : Json.get? data "ts" = some (.string (time.dumped step.ts)))
    (type : Json.get? data "type" = some (.string step.type))
    (rest : withoutPromoted data = fields)
    {payload : Payload}
    (loaded : loadPayload step.type fields = some payload)
    (parsed : time.parse (time.dumped step.ts) = some ts) :
    validateStep time data = TraceStep.validate? step.seq ts payload := by
  simp only [validateStep, field?, seq, dumpedTs, type, rest, loaded,
    parsed, Option.bind_some, Option.bind_eq_bind, stringOf_string, intOf_int]

/-! ## Steps -/

/-- The time that a dumped time is read back as. -/
def storedTime (ts : DateTime) : DateTime :=
  (time.parse (time.dumped ts)).getD ts

theorem parse_storedTime (ts : DateTime) :
    time.parse (time.dumped ts) = some (storedTime time ts) := by
  rcases time.parse_dumped ts with ⟨read, parsed, -⟩
  rw [storedTime, parsed]
  rfl

theorem storedTime_of_utc {ts : DateTime} (utc : ts.IsUtc) :
    storedTime time ts = ts := by
  rcases time.parse_dumped ts with ⟨read, parsed, same⟩
  rw [storedTime, parsed, same utc]
  rfl

/-- The step that a written step is read back as. -/
def storedStep (step : TraceStep) : TraceStep where
  seq := step.seq
  ts := storedTime time step.ts
  payload := storedPayload step.payload
  seqPositive := step.seqPositive
  valid := by
    rw [storedPayload_valid]
    exact step.valid

theorem storedStep_of_jsonValued
    {step : TraceStep} (json : JsonValued step.payload)
    (readsBack : time.parse (time.dumped step.ts) = some step.ts) :
    storedStep time step = step := by
  have ts : storedTime time step.ts = step.ts := by
    rw [storedTime, readsBack]
    rfl
  exact TraceStep.ext rfl ts (storedPayload_of_jsonValued json)

/-- The row of a step, column by column. -/
theorem stepToRow_ok_iff
    {ticketId : String} {step : TraceStep} {row : StepRow} :
    stepToRow py time ticketId step = .ok row ↔
      ∃ fields, dumpPayload py step.payload = some fields ∧
        (Json.object fields).short = true ∧
        row =
          { ticketId
            seq := step.seq
            ts := time.dumped step.ts
            type := step.type
            payload := fields } := by
  unfold stepToRow dumpStep
  cases dumped : dumpPayload py step.payload with
  | none => simp
  | some fields =>
      have unpromoted := unpromoted_dumpPayload dumped
      have rest :
          withoutPromoted
              (("seq", .int step.seq) ::
                ("ts", .string (time.dumped step.ts)) ::
                  ("type", .string step.type) :: fields) = fields :=
        withoutPromoted_of_unpromoted unpromoted
      simp only [Option.map_some, rest, Option.some.injEq, exists_eq_left']
      split
      · rename_i short
        rw [Except.ok.injEq, and_iff_right short]
        exact eq_comm
      · rename_i long
        simp [long]

/-- A step that could be written reads back. -/
theorem stepFromRow_stepToRow
    {ticketId : String} {step : TraceStep} {row : StepRow}
    (written : stepToRow py time ticketId step = .ok row) :
    stepFromRow time row = some (storedStep time step) := by
  rcases (stepToRow_ok_iff py time).mp written with ⟨fields, dumped, -, rfl⟩
  have unpromoted := unpromoted_dumpPayload dumped
  have column {key : String} (isColumn : key ∈ promoted) :=
    get?_of_unpromoted unpromoted isColumn
  rw [stepFromRow, dataOf_of_unpromoted unpromoted]
  rw [validateStep_of_columns time _ _ _ _
    (loadPayload_dumpPayload dumped) (parse_storedTime time step.ts)]
  · exact TraceStep.validate?_of_valid step.seqPositive
      (storedStep time step).valid
  · rw [get?_append, column (by simp [promoted])]
    rfl
  · rw [get?_append, column (by simp [promoted])]
    rfl
  · rw [get?_append, column (by simp [promoted])]
    rfl
  · rw [withoutPromoted, List.filter_append]
    exact (List.append_nil _).trans
      (withoutPromoted_of_unpromoted unpromoted)

theorem stepToRow_columns
    {ticketId : String} {step : TraceStep} {row : StepRow}
    (written : stepToRow py time ticketId step = .ok row) :
    row.ticketId = ticketId ∧ row.seq = step.seq := by
  rcases (stepToRow_ok_iff py time).mp written with ⟨fields, dumped, -, rfl⟩
  exact ⟨rfl, rfl⟩

end

end SupportAssistant.Storage.Codec
