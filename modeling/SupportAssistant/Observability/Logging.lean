import SupportAssistant.Api.Schemas
import SupportAssistant.Storage.Compact

/-!
# Structured logs

One line for each recorded step, with the ticket of the run that recorded it.
A line carries the fields of its step, except in three cases: a tool result
and a failed check drop what they found, and a handoff is renamed and reduced
to its reason.  A step that cannot be serialised makes the hook raise; a line
that cannot be written is dropped, as is one below the level of the logger.
-/

namespace SupportAssistant.Observability.Logging

open SupportAssistant.Enums
open SupportAssistant.Effects.Mapping
open SupportAssistant.Runtime
open SupportAssistant.Runtime.Written
open SupportAssistant.Tracing.Models
open SupportAssistant.Storage.Sqlite
open SupportAssistant.Storage.Compact
open SupportAssistant.Api.Schemas

inductive Level where
  | info
  | warning
deriving DecidableEq, Repr

/-- The number that levels are compared by. -/
def Level.number : Level → Nat
  | .info => 20
  | .warning => 30

/-- A line of the log, before it is written out as an object. -/
structure LogLine where
  ts : String
  level : Level
  event : String
  /-- The ticket that the run is bound to, if there is one. -/
  ticketId : Option String
  fields : List (String × Json)
deriving Repr

/-- `fields[key] = value`, for a key that is there. -/
def setField (fields : List (String × Json)) (key : String) (value : Json) :
    List (String × Json) :=
  fields.map fun entry => if entry.1 = key then (key, value) else entry

/--
A step as event name, level and fields.  It raises where the fields cannot be
serialised, also in the cases that do not use them.
-/
def describe (py : PyText) (payload : Payload) :
    Option (String × Level × List (String × Json)) := do
  let fields ← (dumpPayload py payload).map withoutEmpty
  match payload with
  | .toolResult tool true _ _ =>
      some
        ("tool_result", .info, [("tool", .string tool), ("ok", .bool true)])
  | .toolResult tool false _ error =>
      some
        ("tool_result", .warning,
          [("tool", .string tool), ("ok", .bool false),
            ("error", jsonOption (.string ∘ ToolError.type) error)])
  | .groundingCheck passed _ violations =>
      some
        ("grounding_check", if passed then .info else .warning,
          setField fields "violations" (.int violations.length))
  | .finalDecision .handedOff reason detail =>
      some
        ("handoff", .warning,
          [("reason", jsonOption (.string ∘ HandoffReason.value) reason),
            ("detail", jsonOption .string detail)])
  | payload => some (payload.type, .info, fields)

section

variable (py : PyText) (time : TimeText)

/-- The line of a step, for the run that is bound to a ticket. -/
def logStep (ticketId : Option String) (step : TraceStep) :
    Option LogLine := do
  let (event, level, fields) ← describe py step.payload
  some
    { ts := (time.isoformat step.ts).replace "+00:00" "Z"
      level
      event
      ticketId
      fields }

/-- The line of an entry of the log. -/
def lineOf (entry : String × TraceStep) : Option LogLine :=
  logStep py time (some entry.1) entry.2

/-- The line can be written as JSON. -/
def LogLine.written (line : LogLine) : Bool :=
  (Json.object line.fields).short

/-- The lines that a logger of this level writes, unless the hook raises. -/
def emitted (threshold : Nat) (log : List (String × TraceStep)) :
    Option (List LogLine) :=
  (log.mapM (lineOf py time)).map
    (List.filter fun line =>
      decide (threshold ≤ line.level.number) && line.written)

end

/-- The hook does not raise, and the line of the step can be written. -/
def Loggable (py : PyText) (payload : Payload) : Prop :=
  ∃ event level fields,
    describe py payload = some (event, level, fields) ∧
      (Json.object fields).short = true

/-- No list of violations is longer than any list is. -/
def FewViolations (payload : Payload) : Prop :=
  ∀ passed literalsChecked violations,
    payload = .groundingCheck passed literalsChecked violations →
      violations.length < 2 ^ 63

/-- The same line, of another run. -/
def LogLine.boundTo (line : LogLine) (ticketId : Option String) : LogLine :=
  { line with ticketId }

section

variable {py : PyText}

theorem describe_of_dumped
    {payload : Payload} {fields : List (String × Json)}
    (dumped : dumpPayload py payload = some fields) :
    ∃ described, describe py payload = some described := by
  simp only [describe, dumped, Option.map_some, Option.bind_eq_bind,
    Option.bind_some]
  split <;> exact ⟨_, rfl⟩

theorem logStep_of_dumped
    (time : TimeText) (ticketId : Option String)
    {step : TraceStep} {fields : List (String × Json)}
    (dumped : dumpPayload py step.payload = some fields) :
    ∃ line, logStep py time ticketId step = some line := by
  rcases describe_of_dumped dumped with ⟨described, isDescribed⟩
  exact ⟨_, by simp [logStep, isDescribed]; rfl⟩

theorem short_withoutEmpty {fields : List (String × Json)}
    (short : (Json.object fields).short = true) :
    (Json.object (withoutEmpty fields)).short = true := by
  rw [short_object] at short ⊢
  exact fun entry member => short entry (List.mem_of_mem_filter member)

/-- What can be written of a step can be logged of it. -/
theorem loggable_of_writes {payload : Payload} (writes : Writes py payload)
    (few : FewViolations payload) :
    Loggable py payload := by
  rcases writes with ⟨fields, dumped, short⟩
  have kept := short_withoutEmpty short
  unfold Loggable
  simp only [describe, dumped, Option.map_some, Option.bind_eq_bind,
    Option.bind_some]
  split
  · exact ⟨_, _, _, rfl, by simp⟩
  · rename_i error
    have errors : (jsonOption (.string ∘ ToolError.type) error).short =
        true :=
      short_jsonOption (fun error : ToolError => short_string error.type)
        error
    exact ⟨_, _, _, rfl, by simp [errors]⟩
  · refine ⟨_, _, _, rfl, ?_⟩
    rename_i passed literalsChecked violations
    have counted : shortInt violations.length = true :=
      shortInt_of_lt (Int.natCast_nonneg _)
        (by have := few _ _ _ rfl; omega)
    rw [short_object] at kept ⊢
    intro entry member
    rcases List.mem_map.mp member with ⟨field, isField, rfl⟩
    split
    · rw [short_int, counted]
    · exact kept field isField
  · rename_i reason detail
    have reasons : (jsonOption (.string ∘ HandoffReason.value) reason).short =
        true :=
      short_jsonOption
        (fun reason : HandoffReason => short_string reason.value) reason
    exact ⟨_, _, _, rfl, by simp [reasons, short_optionalString]⟩
  · exact ⟨_, _, _, rfl, kept⟩

/-- If every step can be logged, the level alone decides what is written. -/
theorem emitted_of_loggable (time : TimeText) (threshold : Nat)
    {log : List (String × TraceStep)}
    (loggable : ∀ entry ∈ log, Loggable py entry.2.payload) :
    ∃ lines, log.mapM (lineOf py time) = some lines ∧
      emitted py time threshold log =
        some (lines.filter fun line => threshold ≤ line.level.number) := by
  have each : ∀ entry ∈ log, ∃ line, lineOf py time entry = some line ∧
      line.written = true := by
    intro entry member
    rcases loggable entry member with ⟨event, level, fields, described, short⟩
    refine ⟨⟨(time.isoformat entry.2.ts).replace "+00:00" "Z", level, event,
      some entry.1, fields⟩, ?_, short⟩
    simp [lineOf, logStep, described]
  rcases mapM_of_forall fun entry member =>
    (each entry member).imp fun _ line => line.1 with ⟨lines, areLines⟩
  refine ⟨lines, areLines, ?_⟩
  rw [emitted, areLines, Option.map_some]
  congr 1
  apply List.filter_congr
  intro line member
  rcases mem_of_mapM_some areLines member with ⟨entry, logged, isLine⟩
  rcases each entry logged with ⟨same, isSame, written⟩
  rw [isLine, Option.some.injEq] at isSame
  rw [isSame, written, Bool.and_true]

/-- The ticket is in a line because it was bound, and for nothing else. -/
theorem logStep_boundTo
    (time : TimeText) (ticketId : Option String) (step : TraceStep) :
    logStep py time ticketId step =
      (logStep py time none step).map (·.boundTo ticketId) := by
  cases described : describe py step.payload with
  | none => simp [logStep, described]
  | some fields => simp [logStep, described, LogLine.boundTo]

theorem mapM_logStep_boundTo
    (time : TimeText) (ticketId : Option String) (steps : List TraceStep) :
    steps.mapM (logStep py time ticketId) =
      (steps.mapM (logStep py time none)).map
        (List.map (·.boundTo ticketId)) := by
  induction steps with
  | nil => rfl
  | cons step steps induction =>
      rw [List.mapM_cons, List.mapM_cons, induction, logStep_boundTo]
      cases logStep py time none step with
      | none => rfl
      | some line => cases steps.mapM (logStep py time none) <;> rfl

end

end SupportAssistant.Observability.Logging
