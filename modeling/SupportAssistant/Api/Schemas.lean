import SupportAssistant.Pipeline.Scripted
import SupportAssistant.Runtime.Written
import SupportAssistant.Storage.Codec

/-!
# A step on the wire

A step is stored without its columns and served without its empty fields.
Both encodings can be undone: what is dropped is either merged back or the
default of its field, and the values inside a step are never looked into.

Not every step can be encoded: values may be nested too deep, integers too
long, and texts may hold lone surrogates.
-/

namespace SupportAssistant.Api.Schemas

open SupportAssistant.Runtime
open SupportAssistant.Runtime.Ascii
open SupportAssistant.Runtime.Written
open SupportAssistant.Tracing.Models
open SupportAssistant.Storage.Sqlite
open SupportAssistant.Storage.Codec

/-! ## Serving a step -/

def isNull : Json → Bool
  | .null => true
  | _ => false

/--
`exclude_none`: without the fields a step does not have.  The two models
inside a step have no field that may be empty.
-/
def withoutEmpty (data : List (String × Json)) : List (String × Json) :=
  data.filter fun entry => !isNull entry.2

/--
A step as `TicketView` serves it.  The view is dumped with the step as a
dictionary in it: each field is a value of any type there, which makes the
dictionaries of the step one level deeper than in its row.
-/
def servedStep (py : PyText) (time : TimeText) (step : TraceStep) :
    Option (List (String × Json)) := do
  let data ← dumpStep py time step
  let served := withoutEmpty data
  if served.all fun entry => entry.2.depth ≤ py.dumpDepth then some served
  else none

/-! ## Reading the served form -/

/-- A field that was dropped reads as the default it was dropped for. -/
theorem loadPayload_withoutEmpty
    {py : PyText} {payload : Payload} {fields : List (String × Json)}
    (dumped : dumpPayload py payload = some fields) :
    loadPayload payload.type (withoutEmpty fields) =
      some (storedPayload payload) := by
  have readBack := loadPayload_dumpPayload dumped
  cases payload with
  | intentClassified intent matchedKeywords =>
      cases dumped
      exact readBack
  | llmDecision iteration decision tool =>
      cases dumped
      cases tool with
      | none =>
          simp [withoutEmpty, isNull, jsonOption, loadPayload, Payload.type,
            onlyKeys, field?, fieldOr?, Json.get?, decisionOf_value,
            storedPayload]
      | some tool => exact readBack
  | toolCall tool args =>
      rcases Option.bind_eq_some_iff.mp dumped with ⟨_, _, same⟩
      cases same
      exact readBack
  | toolResult tool ok summary error =>
      cases summary with
      | none =>
          cases dumped
          cases error with
          | none =>
              simp [withoutEmpty, isNull, jsonOption, loadPayload,
                Payload.type, onlyKeys, field?, fieldOr?, Json.get?,
                storedPayload]
          | some error =>
              have readError :
                  optionOf? toolErrorOf? (dumpToolError error) =
                    some (some error) :=
                optionOf_toolError (some error)
              change loadPayload "tool_result"
                [("tool", .string tool), ("ok", .bool ok),
                  ("error", dumpToolError error)] = _
              simp [loadPayload, onlyKeys, field?, fieldOr?, Json.get?,
                storedPayload, readError]
      | some summary =>
          rcases Option.bind_eq_some_iff.mp dumped with
            ⟨dumpedSummary, summaryDumped, same⟩
          cases same
          rcases Option.map_eq_some_iff.mp summaryDumped with
            ⟨entries, entriesDumped, rfl⟩
          cases error with
          | none =>
              simp [withoutEmpty, isNull, jsonOption, loadPayload,
                Payload.type, onlyKeys, field?, fieldOr?, Json.get?,
                storedPayload, optionOf?, dictOf_dumpDict entriesDumped]
          | some error => exact readBack
  | groundingCheck passed literalsChecked violations =>
      cases dumped
      exact readBack
  | finalDecision outcome reason detail =>
      cases dumped
      cases reason <;> cases detail <;>
        simp [withoutEmpty, isNull, jsonOption, loadPayload, Payload.type,
          onlyKeys, field?, fieldOr?, Json.get?, storedPayload, optionOf?]

/-! ## What can be served -/

theorem depth_option {α : Type} {toJson : α → Json} {limit : Nat}
    (shallow : ∀ value, (toJson value).depth ≤ limit) (value : Option α) :
    (jsonOption toJson value).depth ≤ limit := by
  cases value with
  | none => exact Nat.zero_le limit
  | some value => exact shallow value

theorem depth_violations (violations : List Violation) :
    (Json.list (violations.map dumpViolation)).depth ≤ 2 := by
  rw [depth_list_le_iff]
  intro item member
  rcases List.mem_map.mp member with ⟨violation, -, rfl⟩
  exact le_refl 1

theorem depth_strings (texts : List String) :
    (Json.list (texts.map .string)).depth ≤ 1 := by
  rw [depth_list_le_iff]
  intro item member
  rcases List.mem_map.mp member with ⟨text, -, rfl⟩
  exact le_refl 0

/-- A dictionary is one level deeper than what was dumped of its values. -/
theorem depth_dumpDict_iff
    {py : PyText} {dict : Dict} {entries : List (String × Json)}
    (dumped : dumpDict py dict = some entries) :
    (Json.object entries).depth ≤ py.dumpDepth ↔
      ∀ entry ∈ dict, ∀ json, dumpValue py entry.2 = some json →
        json.depth < py.dumpDepth := by
  have deep := py.two_le_dumpDepth
  obtain ⟨below, isDepth⟩ : ∃ below, py.dumpDepth = below + 1 :=
    ⟨py.dumpDepth - 1, by omega⟩
  rw [isDepth, depth_object_le_iff]
  have each := dumpDict_eq_some_iff.mp dumped
  clear dumped
  induction each with
  | nil => simp
  | @cons entry dumped dict entries first rest induction =>
      rw [List.forall_mem_cons, List.forall_mem_cons]
      refine and_congr ?_ induction
      rw [first.1]
      simp only [Option.some.injEq, forall_eq']
      exact Nat.lt_succ_iff.symm

/-- Only the dictionaries of a step can be too deep to be served. -/
theorem depth_dumpPayload_iff
    {py : PyText} {payload : Payload} {fields : List (String × Json)}
    (dumped : dumpPayload py payload = some fields) :
    (∀ field ∈ fields, field.2.depth ≤ py.dumpDepth) ↔
      ∀ entry ∈ freeValues payload, ∀ json,
        dumpValue py entry.2 = some json → json.depth < py.dumpDepth := by
  have deep := py.two_le_dumpDepth
  have flat : ∀ {json : Json}, json.depth ≤ 2 → json.depth ≤ py.dumpDepth :=
    fun low => le_trans low deep
  cases payload with
  | intentClassified intent matchedKeywords =>
      cases dumped
      simp only [freeValues, List.forall_mem_cons, List.not_mem_nil,
        false_implies, implies_true, and_true, iff_true]
      exact ⟨Nat.zero_le _,
        flat (le_trans (depth_strings matchedKeywords) (by decide))⟩
  | llmDecision iteration decision tool =>
      cases dumped
      simp only [freeValues, List.forall_mem_cons, List.not_mem_nil,
        false_implies, implies_true, and_true, iff_true]
      exact ⟨Nat.zero_le _, Nat.zero_le _,
        flat (depth_option (fun _ => Nat.zero_le _) tool)⟩
  | toolCall tool args =>
      rcases Option.bind_eq_some_iff.mp dumped with
        ⟨entries, argsDumped, same⟩
      cases same
      rw [freeValues, ← depth_dumpDict_iff argsDumped]
      simp only [List.forall_mem_cons, List.not_mem_nil, false_implies,
        implies_true, and_true]
      exact and_iff_right (Nat.zero_le _)
  | toolResult tool ok summary error =>
      have errors : (jsonOption dumpToolError error).depth ≤ py.dumpDepth :=
        flat (depth_option (fun _ => Nat.le_succ 1) error)
      cases summary with
      | none =>
          cases dumped
          simp only [freeValues, Option.getD_none, List.forall_mem_cons,
            List.not_mem_nil, false_implies, implies_true, and_true,
            iff_true]
          exact ⟨Nat.zero_le _, Nat.zero_le _, Nat.zero_le _, errors⟩
      | some summary =>
          rcases Option.bind_eq_some_iff.mp dumped with
            ⟨object, summaryDumped, same⟩
          cases same
          rcases Option.map_eq_some_iff.mp summaryDumped with
            ⟨entries, entriesDumped, rfl⟩
          rw [freeValues, Option.getD_some,
            ← depth_dumpDict_iff entriesDumped]
          simp only [List.forall_mem_cons, List.not_mem_nil, false_implies,
            implies_true, and_true]
          exact ⟨fun each => each.2.2.1, fun low =>
            ⟨Nat.zero_le _, Nat.zero_le _, low, errors⟩⟩
  | groundingCheck passed literalsChecked violations =>
      cases dumped
      simp only [freeValues, List.forall_mem_cons, List.not_mem_nil,
        false_implies, implies_true, and_true, iff_true]
      exact ⟨Nat.zero_le _, Nat.zero_le _, flat (depth_violations violations)⟩
  | finalDecision outcome reason detail =>
      cases dumped
      simp only [freeValues, List.forall_mem_cons, List.not_mem_nil,
        false_implies, implies_true, and_true, iff_true]
      exact ⟨Nat.zero_le _,
        flat (depth_option (fun _ => Nat.zero_le _) reason),
        flat (depth_option (fun _ => Nat.zero_le _) detail)⟩

section

variable (py : PyText) (time : TimeText)

/-- The object that a step is served as, if it is not too deep. -/
theorem servedStep_eq_some
    {step : TraceStep} {fields : List (String × Json)}
    (dumped : dumpPayload py step.payload = some fields)
    (shallow : ∀ field ∈ fields, field.2.depth ≤ py.dumpDepth) :
    servedStep py time step =
      some
        (("seq", .int step.seq) :: ("ts", .string (time.dumped step.ts)) ::
          ("type", .string step.type) :: withoutEmpty fields) := by
  have all :
      ((("seq", .int step.seq) :: ("ts", .string (time.dumped step.ts)) ::
          ("type", .string step.type) :: withoutEmpty fields :
          List (String × Json)).all
        fun entry => entry.2.depth ≤ py.dumpDepth) = true := by
    simp only [List.all_eq_true, decide_eq_true_eq, List.forall_mem_cons]
    exact ⟨Nat.zero_le _, Nat.zero_le _, Nat.zero_le _,
      fun entry member => shallow entry (List.mem_of_mem_filter member)⟩
  rw [servedStep, dumpStep, dumped]
  exact if_pos all

/-- What is served of a step is read as the step that is stored of it. -/
theorem validateStep_servedStep
    {step : TraceStep} {fields : List (String × Json)}
    (dumped : dumpPayload py step.payload = some fields)
    (shallow : ∀ field ∈ fields, field.2.depth ≤ py.dumpDepth) :
    ∃ served, servedStep py time step = some served ∧
      validateStep time served = some (storedStep time step) := by
  have unpromoted : Unpromoted (withoutEmpty fields) :=
    fun entry member =>
      unpromoted_dumpPayload dumped entry (List.mem_filter.mp member).1
  have rest :
      withoutPromoted
          (("seq", .int step.seq) ::
            ("ts", .string (time.dumped step.ts)) ::
              ("type", .string step.type) :: withoutEmpty fields) =
        withoutEmpty fields :=
    withoutPromoted_of_unpromoted unpromoted
  refine ⟨_, servedStep_eq_some py time dumped shallow, ?_⟩
  rw [validateStep_of_columns time rfl rfl rfl rest
    (loadPayload_withoutEmpty dumped) (parse_storedTime time step.ts)]
  exact TraceStep.validate?_of_valid step.seqPositive
    (storedStep time step).valid

/-- The name of a kind of step can be encoded. -/
theorem encodes_type (payload : Payload) :
    py.encodes payload.type = true := by
  apply encodes_of_all
  cases payload <;>
    · rw [Payload.type]
      decide

/-- A step is sent if its number and its fields can be. -/
theorem sendable_served
    {step : TraceStep} {fields : List (String × Json)}
    (counted : shortInt step.seq = true)
    (sent : (Json.object fields).sendable py = true) :
    (Json.object
      (("seq", .int step.seq) :: ("ts", .string (time.dumped step.ts)) ::
        ("type", .string step.type) :: withoutEmpty fields)).sendable py =
      true := by
  have names : py.encodes "seq" = true ∧ py.encodes "ts" = true ∧
      py.encodes "type" = true := by
    refine ⟨?_, ?_, ?_⟩ <;> exact encodes_of_all py (by decide)
  have ts : py.encodes (time.dumped step.ts) = true :=
    encodes_of_ascii py (time.dumped_ascii step.ts)
  have kind : py.encodes step.type = true := encodes_type py step.payload
  rw [sendable_object] at sent ⊢
  simp only [List.forall_mem_cons, sendable_int, sendable_string]
  exact ⟨⟨names.1, counted⟩, ⟨names.2.1, ts⟩, ⟨names.2.2, kind⟩,
    fun entry member => sent entry (List.mem_of_mem_filter member)⟩

/--
A step of JSON values that both encodings can carry: nothing in it is nested
too deep for a view, no integer is too long, every text can be encoded, and
its time is one that its text is read as.
-/
structure Portable (step : TraceStep) : Prop where
  json : JsonValued step.payload
  shallow : Shallow (py.dumpDepth - 1) (freeValues step.payload)
  counted : shortInt step.seq = true
  sent : ∀ fields, dumpPayload py step.payload = some fields →
    (Json.object fields).sendable py = true
  readsBack : time.parse (time.dumped step.ts) = some step.ts

/--
A portable step survives both the row it is stored as and the object it is
served as, and the object can be sent.
-/
theorem encodings_preserve_step
    {step : TraceStep} (portable : Portable py time step)
    (ticketId : String) :
    (∃ row, stepToRow py time ticketId step = .ok row ∧
        stepFromRow time row = some step) ∧
      ∃ served, servedStep py time step = some served ∧
        (Json.object served).sendable py = true ∧
          validateStep time served = some step := by
  have deep := py.two_le_dumpDepth
  have same := storedStep_of_jsonValued time portable.json portable.readsBack
  have low : Shallow py.dumpDepth (freeValues step.payload) :=
    fun entry member value isValue =>
      le_trans (portable.shallow entry member value isValue)
        (Nat.sub_le _ 1)
  rcases dumpPayload_of_jsonValued portable.json low with ⟨fields, dumped⟩
  have sent := portable.sent fields dumped
  have short : (Json.object fields).short = true := short_of_sendable sent
  constructor
  · have written := (@stepToRow_ok_iff py time ticketId _ _).mpr
      ⟨fields, dumped, short, rfl⟩
    have readBack := stepFromRow_stepToRow py time written
    rw [same] at readBack
    exact ⟨_, written, readBack⟩
  · have shallow := (depth_dumpPayload_iff dumped).mpr fun entry member
        json isJson => by
      rcases value_of_jsonValued portable.json member with ⟨value, isValue⟩
      have below := portable.shallow entry member value isValue
      rw [isValue, dumpValue_eq_some] at isJson
      cases isJson.1
      omega
    have served := servedStep_eq_some py time dumped shallow
    rcases validateStep_servedStep py time dumped shallow with
      ⟨served', isServed, read⟩
    rw [served, Option.some.injEq] at isServed
    subst isServed
    rw [same] at read
    exact ⟨_, served, sendable_served py time portable.counted sent, read⟩

end

/-! ## A step that tries every name -/

/-- A call whose arguments are named like columns, with a null inside. -/
def awkwardCall : TraceStep where
  seq := 3
  ts := epoch
  payload :=
    .toolCall "get_user"
      [("seq", .json (.int 7)), ("class", .json .null),
        ("type", .json (.object [("ts", .null), ("nested", .list [])]))]
  seqPositive := by decide
  valid := rfl

theorem awkwardCall_survives :
    (∃ row, stepToRow asciiText tallyTime "t1" awkwardCall = .ok row ∧
        stepFromRow tallyTime row = some awkwardCall) ∧
      ∃ served, servedStep asciiText tallyTime awkwardCall = some served ∧
        (Json.object served).sendable asciiText = true ∧
          validateStep tallyTime served = some awkwardCall := by
  apply encodings_preserve_step
  refine
    { json := ?_
      shallow := ?_
      counted := by decide +kernel
      sent := ?_
      readsBack := by decide }
  · intro entry member
    simp only [List.mem_cons, List.not_mem_nil, or_false] at member
    rcases member with rfl | rfl | rfl <;> exact ⟨_, rfl⟩
  · intro entry member value isValue
    simp only [awkwardCall, freeValues, List.mem_cons, List.not_mem_nil,
      or_false] at member
    rcases member with rfl | rfl | rfl <;> cases isValue <;> decide
  · rintro fields ⟨⟩
    decide +kernel

/-- A call whose argument is nested deeper than the library dumps. -/
def deepCall : TraceStep where
  seq := 3
  ts := epoch
  payload := .toolCall "get_user" [("user_id", .json (nested 301))]
  seqPositive := by decide
  valid := rfl

/-- The step holds JSON values only, but has neither a row nor a view. -/
theorem deepCall_lost :
    JsonValued deepCall.payload ∧
      tallyTime.parse (tallyTime.dumped deepCall.ts) = some deepCall.ts ∧
        (∃ exc,
          stepToRow asciiText tallyTime "t1" deepCall = .error exc) ∧
          servedStep asciiText tallyTime deepCall = none := by
  have undumped : dumpPayload asciiText deepCall.payload = none := by
    have refused : dumpValue asciiText (.json (nested 301)) = none := by
      rw [dumpValue, serialised, Option.filter_some, depth_nested]
      rfl
    simp [deepCall, dumpPayload, dumpDict, refused]
  refine ⟨?_, rfl, ⟨_, by rw [stepToRow, dumpStep, undumped]; rfl⟩,
    by rw [servedStep, dumpStep, undumped]; rfl⟩
  intro entry member
  rw [List.mem_singleton.mp member]
  exact ⟨_, rfl⟩

end SupportAssistant.Api.Schemas
