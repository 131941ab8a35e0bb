import SupportAssistant.Api.Schemas
import SupportAssistant.Storage.Compact

/-!
# Which steps can be sent

A step that was written can be sent exactly when nothing in its dictionaries
is nested to the full depth that is dumped, where a view has them one level
deeper, and no text in it holds a lone surrogate.
-/

namespace SupportAssistant.Api.Sendable

open SupportAssistant.Runtime
open SupportAssistant.Runtime.Written
open SupportAssistant.Tracing.Models
open SupportAssistant.Storage.Sqlite
open SupportAssistant.Storage.Codec
open SupportAssistant.Storage.Compact
open SupportAssistant.Api.Schemas

/-- The texts of a step outside its dictionaries. -/
def texts : Payload → List String
  | .intentClassified _ matchedKeywords => matchedKeywords
  | .llmDecision _ _ tool => tool.toList
  | .toolCall tool _ => [tool]
  | .toolResult tool _ _ error =>
      tool :: error.toList.flatMap fun error => [error.type, error.message]
  | .groundingCheck _ _ violations =>
      violations.flatMap fun violation =>
        [violation.literal, violation.reason]
  | .finalDecision _ _ detail => detail.toList

/-- No text in the step holds a lone surrogate, no dictionary is too deep. -/
structure CanBeSent (py : PyText) (payload : Payload) : Prop where
  texts : ∀ text ∈ texts payload, py.encodes text = true
  values : ∀ entry ∈ freeValues payload, py.encodes entry.1 = true ∧
    ∀ value, entry.2 = .json value →
      value.encodes py = true ∧ value.depth < py.dumpDepth

/-! ## The names of fields are ASCII -/

section

variable (py : PyText)

theorem encodes_fieldName {name : String} (known : name ∈ fieldNames) :
    py.encodes name = true := by
  have ascii : fieldNames.all fun name =>
      name.toList.all (·.toNat < 128) := by
    decide
  exact encodes_of_all py (List.all_eq_true.mp ascii name known)

/-- What every object in a step has its members under. -/
theorem encodes_names :
    (py.encodes "intent" = true ∧ py.encodes "matched_keywords" = true ∧
        py.encodes "iteration" = true ∧ py.encodes "decision" = true ∧
        py.encodes "tool" = true ∧ py.encodes "args" = true ∧
        py.encodes "ok" = true ∧ py.encodes "summary" = true ∧
        py.encodes "error" = true ∧ py.encodes "passed" = true ∧
        py.encodes "literals_checked" = true ∧
        py.encodes "violations" = true ∧ py.encodes "outcome" = true ∧
        py.encodes "reason" = true ∧ py.encodes "detail" = true) ∧
      py.encodes "literal" = true ∧ py.encodes "class" = true ∧
      py.encodes "type" = true ∧ py.encodes "message" = true := by
  constructor
  · refine ⟨?_, ?_, ?_, ?_, ?_, ?_, ?_, ?_, ?_, ?_, ?_, ?_, ?_, ?_, ?_⟩ <;>
      exact encodes_fieldName py (by decide)
  · refine ⟨?_, ?_, ?_, ?_⟩ <;> exact encodes_of_all py (by decide)

theorem encodes_decision (decision : Decision) :
    py.encodes decision.value = true := by
  cases decision <;> exact encodes_of_all py (by decide)

end

/-! ## What is dumped of a step -/

variable {py : PyText}

theorem encodes_strings_iff (texts : List String) :
    (Json.list (texts.map .string)).encodes py = true ↔
      ∀ text ∈ texts, py.encodes text = true := by
  simp [encodes_list]

theorem encodes_violation_iff (violation : Violation) :
    (dumpViolation violation).encodes py = true ↔
      py.encodes violation.literal = true ∧
        py.encodes violation.reason = true := by
  simp [dumpViolation, encodes_names py, encodes_literalClass py]

theorem encodes_toolError_iff (error : ToolError) :
    (dumpToolError error).encodes py = true ↔
      py.encodes error.type = true ∧ py.encodes error.message = true := by
  simp [dumpToolError, encodes_names py]

theorem encodes_option_iff {α : Type} (toJson : α → Json)
    (value : Option α) :
    (jsonOption toJson value).encodes py = true ↔
      ∀ some ∈ value, (toJson some).encodes py = true := by
  cases value <;> simp [jsonOption]

theorem encodes_dumpDict_iff
    {dict : Dict} {entries : List (String × Json)}
    (dumped : dumpDict py dict = some entries) :
    (Json.object entries).encodes py = true ↔
      ∀ entry ∈ dict, py.encodes entry.1 = true ∧
        ∀ json, dumpValue py entry.2 = some json → json.encodes py = true := by
  rw [encodes_object]
  have each := dumpDict_eq_some_iff.mp dumped
  clear dumped
  induction each with
  | nil => simp
  | @cons entry dumped dict entries first rest induction =>
      rw [List.forall_mem_cons, List.forall_mem_cons]
      refine and_congr ?_ induction
      rw [first.1, first.2]
      simp only [Option.some.injEq, forall_eq']

theorem encodes_dumpPayload_iff
    {payload : Payload} {fields : List (String × Json)}
    (dumped : dumpPayload py payload = some fields) :
    (Json.object fields).encodes py = true ↔
      (∀ text ∈ texts payload, py.encodes text = true) ∧
        ∀ entry ∈ freeValues payload, py.encodes entry.1 = true ∧
          ∀ json, dumpValue py entry.2 = some json →
            json.encodes py = true := by
  have names := encodes_names py
  cases payload with
  | intentClassified intent matchedKeywords =>
      cases dumped
      simp [names, encodes_intent, encodes_strings_iff, texts, freeValues]
  | llmDecision iteration decision tool =>
      cases dumped
      simp [names, encodes_decision, encodes_option_iff, texts, freeValues]
  | toolCall tool args =>
      rcases Option.bind_eq_some_iff.mp dumped with
        ⟨entries, argsDumped, same⟩
      cases same
      rw [freeValues, ← encodes_dumpDict_iff argsDumped]
      simp [names, texts]
  | toolResult tool ok summary error =>
      cases summary with
      | none =>
          cases dumped
          cases error <;>
            simp [names, encodes_option_iff, encodes_toolError_iff, texts,
              freeValues]
      | some summary =>
          rcases Option.bind_eq_some_iff.mp dumped with
            ⟨object, summaryDumped, same⟩
          cases same
          rcases Option.map_eq_some_iff.mp summaryDumped with
            ⟨entries, entriesDumped, rfl⟩
          rw [freeValues, Option.getD_some,
            ← encodes_dumpDict_iff entriesDumped]
          cases error with
          | none => simp [names, encodes_option_iff, texts]
          | some error =>
              simp [names, encodes_option_iff, encodes_toolError_iff, texts]
              tauto
  | groundingCheck passed literalsChecked violations =>
      cases dumped
      simp [names, encodes_list,
        encodes_violation_iff, texts, freeValues]
      grind
  | finalDecision outcome reason detail =>
      cases dumped
      simp [names, encodes_ticketStatus, encodes_handoffReason,
        encodes_option_iff, texts, freeValues]

theorem encodes_withoutEmpty_iff
    {payload : Payload} {fields : List (String × Json)}
    (dumped : dumpPayload py payload = some fields) :
    (Json.object (withoutEmpty fields)).encodes py = true ↔
      (Json.object fields).encodes py = true := by
  rw [encodes_object, encodes_object]
  constructor
  · intro encodes entry member
    rcases entry with ⟨name, value⟩
    cases value with
    | null =>
        exact ⟨encodes_fieldName py (named_dumpPayload dumped _ member), rfl⟩
    | _ => exact encodes _ (List.mem_filter.mpr ⟨member, rfl⟩)
  · exact fun encodes entry member =>
      encodes entry (List.mem_of_mem_filter member)

theorem shallow_of_served
    {time : TimeText} {step : TraceStep}
    {fields served : List (String × Json)}
    (dumped : dumpPayload py step.payload = some fields)
    (isServed : servedStep py time step = some served) :
    ∀ field ∈ fields, field.2.depth ≤ py.dumpDepth := by
  simp only [servedStep, dumpStep, dumped, Option.map_some,
    Option.bind_eq_bind, Option.bind_some, Option.ite_none_right_eq_some]
    at isServed
  rintro ⟨name, value⟩ member
  cases value with
  | null => exact Nat.zero_le _
  | _ =>
      have kept := List.all_eq_true.mp isServed.1 _
        (List.mem_filter.mpr
          ⟨List.mem_cons_of_mem _ (List.mem_cons_of_mem _
            (List.mem_cons_of_mem _ member)), rfl⟩)
      exact of_decide_eq_true kept

/-- What the wire makes of a step that was written. -/
theorem sent_iff {time : TimeText} {step : TraceStep}
    (json : JsonValued step.payload) (written : Writes py step.payload)
    (counted : shortInt step.seq = true) :
    (∃ served, servedStep py time step = some served ∧
        (Json.object served).sendable py = true) ↔
      CanBeSent py step.payload := by
  have compact := ((writes_iff json).mp written).1
  rcases written with ⟨fields, dumped, short⟩
  have depths := depth_dumpPayload_iff dumped
  have encodings := encodes_dumpPayload_iff dumped
  -- a JSON value that was written is dumped as itself
  have dumps : ∀ entry ∈ freeValues step.payload, ∀ value,
      dumpValue py entry.2 = some value ↔ entry.2 = .json value := by
    intro entry member value
    rcases value_of_jsonValued json member with ⟨read, isRead⟩
    have low := (compact entry member read isRead).1
    rw [isRead, dumpValue_eq_some]
    simp only [serialised, Option.some.injEq, AnyValue.json.injEq]
    constructor
    · exact And.left
    · rintro rfl
      exact ⟨rfl, low⟩
  constructor
  · rintro ⟨served, isServed, sendable⟩
    have shallow := shallow_of_served dumped isServed
    rw [servedStep_eq_some py time dumped shallow, Option.some.injEq]
      at isServed
    simp only [← isServed, Json.sendable, encodes_object_cons,
      Bool.and_eq_true] at sendable
    have encodes := encodings.mp
      ((encodes_withoutEmpty_iff dumped).mp sendable.2.2.2.2)
    refine ⟨encodes.1, fun entry member => ⟨(encodes.2 entry member).1, ?_⟩⟩
    intro value isValue
    have isDumped := (dumps entry member value).mpr isValue
    exact ⟨(encodes.2 entry member).2 value isDumped,
      depths.mp shallow entry member value isDumped⟩
  · intro sent
    have shallow := depths.mpr fun entry member value isDumped =>
      ((sent.values entry member).2 value
        ((dumps entry member value).mp isDumped)).2
    have encodes := encodings.mpr ⟨sent.texts, fun entry member =>
      ⟨(sent.values entry member).1, fun value isDumped =>
        ((sent.values entry member).2 value
          ((dumps entry member value).mp isDumped)).1⟩⟩
    refine ⟨_, servedStep_eq_some py time dumped shallow, ?_⟩
    apply sendable_served py time counted
    rw [Json.sendable, short, encodes]
    rfl

end SupportAssistant.Api.Sendable
