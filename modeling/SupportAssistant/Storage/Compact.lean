import SupportAssistant.Runtime.Written
import SupportAssistant.Storage.Codec

/-!
# Which steps can be written

A step of JSON values can be written exactly when the values that are free in
form are nested no deeper than is dumped and neither they nor the numbers that
the step counts are too long.
-/

namespace SupportAssistant.Storage.Compact

open SupportAssistant.Enums
open SupportAssistant.Runtime
open SupportAssistant.Runtime.Written
open SupportAssistant.Tracing.Models
open SupportAssistant.Storage.Sqlite
open SupportAssistant.Storage.Codec

/-- What it is dumped as can be written as JSON. -/
def Writes (py : PyText) (payload : Payload) : Prop :=
  ∃ fields, dumpPayload py payload = some fields ∧
    (Json.object fields).short = true

/-- Nothing in the dictionary is nested too deep, no integer is too long. -/
def IsCompact (py : PyText) (dict : Dict) : Prop :=
  ∀ entry ∈ dict, ∀ value, entry.2 = .json value →
    value.depth ≤ py.dumpDepth ∧ value.short = true

instance (py : PyText) (dict : Dict) : Decidable (IsCompact py dict) :=
  decidable_of_iff
    (∀ entry ∈ dict,
      (match entry.2 with
        | .json value => decide (value.depth ≤ py.dumpDepth) && value.short
        | .other _ _ => true) = true)
    (forall₂_congr fun entry _ => by
      cases entry.2 <;> simp)

/-- The numbers in the fields of a kind of step. -/
def counts : Payload → List Int
  | .llmDecision iteration _ _ => [iteration]
  | .groundingCheck _ literalsChecked _ => [literalsChecked]
  | _ => []

variable {py : PyText}

theorem dumpDict_cons_json_iff
    {key : String} {value : Json} {dict : Dict}
    {entries : List (String × Json)} :
    dumpDict py ((key, .json value) :: dict) = some entries ↔
      value.depth ≤ py.dumpDepth ∧
        ∃ later, dumpDict py dict = some later ∧
          entries = (key, value) :: later := by
  rw [dumpDict_eq_some_iff, List.forall₂_cons_left_iff]
  simp only [dumpDict_eq_some_iff, dumpValue_eq_some, serialised,
    Option.some.injEq]
  constructor
  · rintro ⟨⟨name, dumped⟩, later, ⟨⟨rfl, shallow⟩, rfl⟩, rest, rfl⟩
    exact ⟨shallow, later, rest, rfl⟩
  · rintro ⟨shallow, later, rest, rfl⟩
    exact ⟨(key, value), later, ⟨⟨rfl, shallow⟩, rfl⟩, rest, rfl⟩

theorem dumps_short_iff {dict : Dict} (json : AllJson dict) :
    (∃ entries, dumpDict py dict = some entries ∧
        (Json.object entries).short = true) ↔
      IsCompact py dict := by
  induction dict with
  | nil =>
      constructor
      · exact fun _ entry member => (List.not_mem_nil member).elim
      · exact fun _ => ⟨[], rfl, rfl⟩
  | cons entry dict induction =>
      rcases entry with ⟨key, value⟩
      rcases json _ List.mem_cons_self with ⟨read, rfl⟩
      have later := induction fun entry member =>
        json entry (List.mem_cons_of_mem _ member)
      simp only [IsCompact, List.forall_mem_cons, dumpDict_cons_json_iff,
        AnyValue.json.injEq, forall_eq'] at later ⊢
      rw [← later]
      simp only [short_object]
      constructor
      · rintro ⟨-, ⟨shallow, entries, dumped, rfl⟩, short⟩
        rw [List.forall_mem_cons] at short
        exact ⟨⟨shallow, short.1⟩, entries, dumped, short.2⟩
      · rintro ⟨⟨shallow, short⟩, entries, dumped, shorts⟩
        exact ⟨_, ⟨shallow, entries, dumped, rfl⟩,
          List.forall_mem_cons.mpr ⟨short, shorts⟩⟩

theorem short_jsonOption {α : Type} {toJson : α → Json}
    (short : ∀ value, (toJson value).short = true) (value : Option α) :
    (jsonOption toJson value).short = true := by
  cases value with
  | none => rfl
  | some value => exact short value

theorem short_optionalString (text : Option String) :
    (jsonOption Json.string text).short = true :=
  short_jsonOption short_string text

theorem short_strings (texts : List String) :
    (Json.list (texts.map .string)).short = true := by
  simp [short_list]

theorem short_dumpViolation (violation : Violation) :
    (dumpViolation violation).short = true := by
  simp [dumpViolation]

theorem short_dumpToolError (error : ToolError) :
    (dumpToolError error).short = true := by
  simp [dumpToolError]

theorem isCompact_nil : IsCompact py [] :=
  fun _ member => (List.not_mem_nil member).elim

/-- A step without values that are free in form is always dumped. -/
theorem writes_iff_of_plain {payload : Payload}
    {fields : List (String × Json)}
    (dumped : dumpPayload py payload = some fields)
    (plain : freeValues payload = [])
    (short : (Json.object fields).short = true ↔
      ∀ number ∈ counts payload, shortInt number = true) :
    Writes py payload ↔
      IsCompact py (freeValues payload) ∧
        ∀ number ∈ counts payload, shortInt number = true := by
  rw [Writes, dumped, plain, and_iff_right isCompact_nil, ← short]
  simp

/-- What a step of JSON values takes to be written. -/
theorem writes_iff {payload : Payload} (json : JsonValued payload) :
    Writes py payload ↔
      IsCompact py (freeValues payload) ∧
        ∀ number ∈ counts payload, shortInt number = true := by
  cases payload with
  | toolCall tool args =>
      rw [freeValues, ← dumps_short_iff json]
      simp [Writes, dumpPayload, counts, Option.bind_eq_some_iff]
  | toolResult tool ok summary error =>
      have errorShort := short_jsonOption short_dumpToolError error
      cases summary with
      | none =>
          refine writes_iff_of_plain rfl rfl ?_
          simp [counts, errorShort]
      | some summary =>
          rw [freeValues, Option.getD_some,
            ← dumps_short_iff (json summary rfl)]
          simp [Writes, dumpPayload, counts, errorShort,
            Option.bind_eq_some_iff]
  | intentClassified intent matchedKeywords =>
      refine writes_iff_of_plain rfl rfl ?_
      simp [counts, short_strings]
  | llmDecision iteration decision tool =>
      refine writes_iff_of_plain rfl rfl ?_
      simp [counts, short_optionalString]
  | groundingCheck passed literalsChecked violations =>
      refine writes_iff_of_plain rfl rfl ?_
      simp [counts, short_list, short_dumpViolation]
  | finalDecision outcome reason detail =>
      have reasonShort := short_jsonOption
        (fun reason : HandoffReason => short_string reason.value) reason
      refine writes_iff_of_plain rfl rfl ?_
      simp [counts, reasonShort, short_optionalString]

end SupportAssistant.Storage.Compact
