import SupportAssistant.Runtime.Ascii
import SupportAssistant.Runtime.Dumps
import SupportAssistant.Runtime.Written
import SupportAssistant.Storage.Codec

/-!
# The payload column as text

What a step is beside its columns is stored as the text of one JSON object,
and parsed when the ticket is read.  Every trace that is dumped as JSON, with
no integer too long and no lone surrogate in it, comes back from its text,
whatever characters are in it, and the text itself is printable ASCII.
-/

namespace SupportAssistant.Storage.PayloadText

open SupportAssistant.Effects.Mapping
open SupportAssistant.Enums
open SupportAssistant.Runtime
open SupportAssistant.Runtime.Ascii
open SupportAssistant.Runtime.Dumps
open SupportAssistant.Runtime.Written
open SupportAssistant.Tracing.Models
open SupportAssistant.Text.JsonNumbers
open SupportAssistant.Text.JsonStrings
open SupportAssistant.Text.JsonText
open SupportAssistant.Storage.Sqlite
open SupportAssistant.Storage.Codec

/-- A row of `trace_steps`, with the text that is in its last column. -/
structure TextRow where
  ticketId : String
  seq : Int
  ts : String
  type : String
  payload : String
deriving DecidableEq, Repr

section

variable (py : PyText) (time : TimeText)

/-- `_step_to_row`. -/
def stepToText (ticketId : String) (step : TraceStep) : Except Exc TextRow :=
  (stepToRow py time ticketId step).map fun row =>
    { ticketId := row.ticketId
      seq := row.seq
      ts := row.ts
      type := row.type
      payload := dumps (.object row.payload) }

/-- `_step_from_row`; a payload that is no object cannot be updated. -/
def stepFromText (row : TextRow) : Option TraceStep :=
  match loads row.payload with
  | some (.object payload) =>
      stepFromRow time
        { ticketId := row.ticketId
          seq := row.seq
          ts := row.ts
          type := row.type
          payload }
  | _ => none

end

/-! ## Proper values -/

/-- The dictionary is serialised as an object of JSON. -/
def ProperDict (py : PyText) (dict : Dict) : Prop :=
  ∃ entries, dumpDict py dict = some entries ∧ ProperJson (.object entries)

/-- The dictionaries of a step are serialised as objects of JSON. -/
def ProperValues (py : PyText) : Payload → Prop
  | .toolCall _ args => ProperDict py args
  | .toolResult _ _ summary _ => ∀ dict ∈ summary, ProperDict py dict
  | _ => True

/-- No integer in what is serialised is too long, no surrogate is lone. -/
def SendableValues (py : PyText) (payload : Payload) : Prop :=
  ∀ fields, dumpPayload py payload = some fields →
    (Json.object fields).sendable py = true

theorem properJson_option {α : Type} {toJson : α → Json}
    (proper : ∀ value, ProperJson (toJson value)) (value : Option α) :
    ProperJson (jsonOption toJson value) := by
  cases value with
  | none => exact properJson_null
  | some value => exact proper value

theorem properJson_violation (violation : Violation) :
    ProperJson (dumpViolation violation) := by
  simp [dumpViolation, properJson_object]

theorem properJson_toolError (error : ToolError) :
    ProperJson (dumpToolError error) := by
  simp [dumpToolError, properJson_object]

/-- A step with proper values is serialised, as an object of JSON. -/
theorem dumpPayload_proper {py : PyText} {payload : Payload}
    (proper : ProperValues py payload) :
    ∃ fields, dumpPayload py payload = some fields ∧
      ProperJson (.object fields) := by
  cases payload with
  | intentClassified intent matchedKeywords =>
      refine ⟨_, rfl, ?_⟩
      simp [properJson_object, properJson_list]
  | llmDecision iteration decision tool =>
      refine ⟨_, rfl, ?_⟩
      simp [properJson_object, properJson_option properJson_string]
  | toolCall tool args =>
      rcases proper with ⟨entries, dumped, isProper⟩
      refine ⟨_, by rw [dumpPayload, dumped]; rfl, ?_⟩
      rw [properJson_object]
      simp only [List.forall_mem_cons]
      exact ⟨by simp, properJson_string tool, isProper, by simp⟩
  | toolResult tool ok summary error =>
      have errors := properJson_option properJson_toolError error
      cases summary with
      | none =>
          refine ⟨_, rfl, ?_⟩
          simp [properJson_object, errors]
      | some dict =>
          rcases proper dict rfl with ⟨entries, dumped, isProper⟩
          refine ⟨_, by simp only [dumpPayload, dumped]; rfl, ?_⟩
          rw [properJson_object]
          simp only [List.forall_mem_cons]
          exact ⟨by simp, properJson_string tool, properJson_bool ok,
            isProper, errors, by simp⟩
  | groundingCheck passed literalsChecked violations =>
      refine ⟨_, rfl, ?_⟩
      simp [properJson_object, properJson_list, properJson_violation]
  | finalDecision outcome reason detail =>
      refine ⟨_, rfl, ?_⟩
      have reasons := properJson_option
        (fun reason => properJson_string (HandoffReason.value reason)) reason
      simp [properJson_object, properJson_option properJson_string, reasons]

/-! ## The round trip -/

section

variable {py : PyText} {time : TimeText} {ticketId : String}

/-- A step with proper values has a row, of printable text, and reads back. -/
theorem stepFromText_stepToText {step : TraceStep}
    (proper : ProperValues py step.payload)
    (sendable : SendableValues py step.payload) :
    ∃ row, stepToText py time ticketId step = .ok row ∧
      stepFromText time row = some (storedStep time step) ∧
        ∀ char ∈ row.payload.toList, Printable char := by
  rcases dumpPayload_proper proper with ⟨fields, dumped, isProper⟩
  have written : stepToRow py time ticketId step =
      .ok
        { ticketId
          seq := step.seq
          ts := time.dumped step.ts
          type := step.type
          payload := fields } :=
    (stepToRow_ok_iff py time).mpr
      ⟨fields, dumped, short_of_sendable (sendable fields dumped), rfl⟩
  refine ⟨_, by rw [stepToText, written]; rfl, ?_, ?_⟩
  · rw [stepFromText, loads_dumps isProper]
    exact stepFromRow_stepToRow py time written
  · intro char member
    simp only [dumps, String.toList_ofList] at member
    exact printable_write _ isProper char member

/--
A trace that is serialised as JSON is written, and comes back from the text of
its rows as the trace that a reader of the ticket is served.
-/
theorem trace_text_survives {trace : List TraceStep}
    (proper : ∀ step ∈ trace, ProperValues py step.payload)
    (sendable : ∀ step ∈ trace, SendableValues py step.payload) :
    ∃ rows, trace.mapM (stepToText py time ticketId) = .ok rows ∧
      rows.mapM (stepFromText time) = some (trace.map (storedStep time)) ∧
        ∀ row ∈ rows, ∀ char ∈ row.payload.toList, Printable char := by
  induction trace with
  | nil => exact ⟨[], rfl, rfl, by simp⟩
  | cons step steps induction =>
      rw [List.forall_mem_cons] at proper sendable
      rcases stepFromText_stepToText proper.1 sendable.1 with
        ⟨row, written, reads, printable⟩
      rcases induction proper.2 sendable.2 with
        ⟨rows, written', reads', printable'⟩
      refine ⟨row :: rows, mapM_cons_ok.mpr
        ⟨row, rows, written, written', rfl⟩, ?_, ?_⟩
      · rw [List.mapM_cons, reads, reads']
        rfl
      · exact List.forall_mem_cons.mpr ⟨printable, printable'⟩

/-- A call with what JSON has to escape, and with a float. -/
def unusualCall : TraceStep where
  seq := 1
  ts := epoch
  payload := .toolCall "get_user"
    [("user_id", .json (.string "u_\"Zoë\" 😀\n")),
      ("limit", .json (.float "1e-07"))]
  seqPositive := by decide
  valid := rfl

theorem properJson_limit : ProperJson (.float "1e-07") := by
  refine Or.inr (Or.inr (Or.inr ⟨⟨false, ['1'], [], ['e', '-', '0', '7'],
    .digits (by decide) rfl (by simp), .missing, ?_⟩, rfl, rfl⟩))
  exact .digits (Or.inl rfl) (Or.inr (Or.inl rfl)) (by simp)
    (List.all_eq_true.mp rfl)

theorem unusualCall_survives :
    ∃ rows, [unusualCall].mapM (stepToText asciiText tallyTime "t1") =
        .ok rows ∧
      rows.mapM (stepFromText tallyTime) =
          some ([unusualCall].map (storedStep tallyTime)) ∧
        ∀ row ∈ rows, ∀ char ∈ row.payload.toList, Printable char := by
  apply trace_text_survives <;> intro step member <;>
    rw [List.mem_singleton.mp member]
  case sendable =>
    rintro fields ⟨⟩
    decide +kernel
  refine ⟨[("user_id", .string "u_\"Zoë\" 😀\n"), ("limit", .float "1e-07")],
    rfl, ?_⟩
  rw [properJson_object]
  simp only [List.forall_mem_cons]
  exact ⟨by simp, properJson_string _, properJson_limit, by simp⟩

end

end SupportAssistant.Storage.PayloadText
