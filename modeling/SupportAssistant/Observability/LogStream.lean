import SupportAssistant.Observability.Logging
import SupportAssistant.Storage.PayloadText

/-!
# The log as text

Every line is one JSON object: the time, the level and the event, the ticket
when a run is bound to one, and then the fields of the event, which never
replace what stands before them.  The stream can be read back line by line,
and what was written before a crash can be read however the last line was
torn.
-/

namespace SupportAssistant.Observability.LogStream

open SupportAssistant.Enums
open SupportAssistant.Runtime
open SupportAssistant.Runtime.Dumps
open SupportAssistant.Tracing.Models
open SupportAssistant.Text.JsonText
open SupportAssistant.Storage.Sqlite
open SupportAssistant.Storage.Codec
open SupportAssistant.Storage.PayloadText
open SupportAssistant.Api.Schemas
open SupportAssistant.Observability.Logging

/-! ## Formatting -/

/-- `levelname.lower()`. -/
def Level.text : Level → String
  | .info => "info"
  | .warning => "warning"

/-- `entries.setdefault(key, value)`. -/
def setDefault (entries : List (String × Json)) (entry : String × Json) :
    List (String × Json) :=
  if entries.any (·.1 == entry.1) then entries else entries ++ [entry]

/-- What stands before the fields; a time of its own is not empty. -/
def heading (formatTime : LogLine → String) (line : LogLine) :
    List (String × Json) :=
  [("ts", .string (if line.ts = "" then formatTime line else line.ts)),
    ("level", .string (Level.text line.level)),
    ("event", .string line.event)] ++
  line.ticketId.toList.map fun id => ("ticket_id", .string id)

/-- `JsonLogFormatter.format`, before it is written out. -/
def format (formatTime : LogLine → String) (line : LogLine) :
    List (String × Json) :=
  line.fields.foldl setDefault (heading formatTime line)

/-- The stream that lines are written to. -/
def stream (formatTime : LogLine → String) (lines : List LogLine) :
    List Char :=
  writeLines (lines.map fun line => docOf (.object (format formatTime line)))

/-- The objects that a stream holds, one for each line. -/
def readStream (text : List Char) : Option (List Json) :=
  (readLines text).map fun docs => docs.map jsonOf

/-- The ticket that a line is bound to. -/
def ticketOf : Json → Option String
  | .object entries => (Json.get? entries "ticket_id").bind stringOf?
  | _ => none

/-! ## The fields of a line -/

/-- Fields of a step, none twice, that can be written out. -/
structure Tidy (fields : List (String × Json)) : Prop where
  nodup : (fields.map Prod.fst).Nodup
  named : ∀ entry ∈ fields, entry.1 ∈ fieldNames
  proper : ∀ entry ∈ fields, ProperJson entry.2

theorem Tidy.withoutEmpty {fields : List (String × Json)}
    (tidy : Tidy fields) : Tidy (withoutEmpty fields) where
  nodup := tidy.nodup.sublist (List.filter_sublist.map Prod.fst)
  named entry member := tidy.named entry (List.mem_of_mem_filter member)
  proper entry member := tidy.proper entry (List.mem_of_mem_filter member)

theorem dumpPayload_tidy {py : PyText} {payload : Payload}
    (proper : ProperValues py payload) :
    ∃ fields, dumpPayload py payload = some fields ∧ Tidy fields := by
  rcases dumpPayload_proper proper with ⟨fields, dumped, isProper⟩
  rcases properJson_object.mp isProper with ⟨nodup, values⟩
  exact ⟨fields, dumped, nodup, named_dumpPayload dumped, values⟩

theorem describe_tidy {py : PyText} {payload : Payload}
    (proper : ProperValues py payload) :
    ∃ event level fields,
      describe py payload = some (event, level, fields) ∧ Tidy fields := by
  rcases dumpPayload_tidy proper with ⟨fields, dumped, tidy⟩
  have errors : ∀ error : Option ToolError,
      ProperJson (jsonOption (.string ∘ ToolError.type) error) :=
    properJson_option fun error => properJson_string error.type
  have reasons : ∀ reason : Option HandoffReason,
      ProperJson (jsonOption (.string ∘ HandoffReason.value) reason) :=
    properJson_option fun reason => properJson_string reason.value
  simp only [describe, dumped, Option.map_some, Option.bind_eq_bind,
    Option.bind_some]
  split
  · exact ⟨_, _, _, rfl, by simp, by simp [fieldNames], by simp⟩
  · exact ⟨_, _, _, rfl, by simp, by simp [fieldNames],
      by simpa using errors _⟩
  · cases dumped
    exact ⟨_, _, _, rfl, by simp [setField, withoutEmpty, isNull],
      by simp [setField, withoutEmpty, isNull, fieldNames],
      by simp [setField, withoutEmpty, isNull]⟩
  · exact ⟨_, _, _, rfl, by simp, by simp [fieldNames],
      by simpa using
        ⟨reasons _, properJson_option properJson_string _⟩⟩
  · exact ⟨_, _, _, rfl, tidy.withoutEmpty⟩

/-! ## Reading the stream -/

theorem foldl_setDefault {entries fields : List (String × Json)}
    (nodup : (fields.map Prod.fst).Nodup)
    (fresh : ∀ entry ∈ fields, ∀ other ∈ entries, other.1 ≠ entry.1) :
    fields.foldl setDefault entries = entries ++ fields := by
  induction fields generalizing entries with
  | nil => simp
  | cons field fields induction =>
      rw [List.map_cons, List.nodup_cons] at nodup
      rw [List.forall_mem_cons] at fresh
      have missing : entries.any (·.1 == field.1) = false := by
        rw [List.any_eq_false]
        intro other member same
        exact fresh.1 other member (by simpa using same)
      rw [List.foldl_cons, setDefault, missing, if_neg (by simp),
        induction nodup.2]
      · simp
      · intro entry member other inEntries same
        rcases List.mem_append.mp inEntries with before | isField
        · exact fresh.2 entry member other before same
        · obtain rfl := List.mem_singleton.mp isField
          exact nodup.1 (same ▸ List.mem_map_of_mem member)

section

variable (formatTime : LogLine → String) {line : LogLine}

theorem heading_names : ∀ other ∈ heading formatTime line,
    other.1 ∈ ["ts", "level", "event", "ticket_id"] := by
  cases bound : line.ticketId <;> simp [heading, bound]

/-- The fields of a step stand behind the heading as they are. -/
theorem format_eq (tidy : Tidy line.fields) :
    format formatTime line = heading formatTime line ++ line.fields := by
  apply foldl_setDefault tidy.nodup
  intro entry member other inHeading same
  have apart : ∀ name ∈ fieldNames,
      name ∉ ["ts", "level", "event", "ticket_id"] := by
    decide
  exact apart entry.1 (tidy.named entry member)
    (same ▸ heading_names formatTime other inHeading)

theorem proper_format (tidy : Tidy line.fields) :
    ProperJson (.object (format formatTime line)) := by
  rw [properJson_object, format_eq formatTime tidy]
  constructor
  · rw [List.map_append, List.nodup_append]
    refine ⟨?_, tidy.nodup, ?_⟩
    · cases bound : line.ticketId <;> simp [heading, bound]
    · intro name inHeading other inFields same
      rcases List.mem_map.mp inHeading with ⟨first, member, rfl⟩
      rcases List.mem_map.mp inFields with ⟨second, member', rfl⟩
      have apart : ∀ name ∈ fieldNames,
          name ∉ ["ts", "level", "event", "ticket_id"] := by
        decide
      exact apart second.1 (tidy.named second member')
        (same ▸ heading_names formatTime first member)
  · intro entry member
    rcases List.mem_append.mp member with inHeading | inFields
    · cases bound : line.ticketId <;> simp [heading, bound] at inHeading
      · rcases inHeading with rfl | rfl | rfl <;>
          exact properJson_string _
      · rcases inHeading with rfl | rfl | rfl | rfl <;>
          exact properJson_string _
    · exact tidy.proper entry inFields

/-- What is in a line: the heading, and the fields of the step. -/
def recordOf (line : LogLine) : Json :=
  .object (heading formatTime line ++ line.fields)

/-- A record names the ticket that its line is bound to. -/
theorem ticketOf_recordOf (tidy : Tidy line.fields) :
    ticketOf (recordOf formatTime line) = line.ticketId := by
  have unnamed : Json.get? line.fields "ticket_id" = none := by
    rw [Json.get?, List.find?_eq_none.mpr, Option.map_none]
    intro entry member named
    have known := tidy.named entry member
    rw [beq_iff_eq.mp named] at known
    exact absurd known (by decide)
  rw [recordOf, ticketOf, get?_append, unnamed]
  cases bound : line.ticketId <;>
    simp [heading, bound, Json.get?, stringOf?]

/-- The documents that tidy lines are written as. -/
theorem docs_of_tidy {lines : List LogLine}
    (tidy : ∀ line ∈ lines, Tidy line.fields) :
    (∀ doc ∈ lines.map fun line => docOf (.object (format formatTime line)),
        Proper doc) ∧
      ((lines.map fun line =>
          docOf (.object (format formatTime line))).map jsonOf) =
        lines.map (recordOf formatTime) := by
  constructor
  · intro doc member
    rcases List.mem_map.mp member with ⟨line, isLine, rfl⟩
    exact proper_format formatTime (tidy line isLine)
  · rw [List.map_map]
    apply List.map_congr_left
    intro line member
    rw [Function.comp, jsonOf_docOf,
      format_eq formatTime (tidy line member)]
    rfl

/-- The stream is read back, one object for each line. -/
theorem readStream_stream {lines : List LogLine}
    (tidy : ∀ line ∈ lines, Tidy line.fields) :
    readStream (stream formatTime lines) =
      some (lines.map (recordOf formatTime)) := by
  rcases docs_of_tidy formatTime tidy with ⟨proper, records⟩
  rw [readStream, stream, readLines_writeLines proper, Option.map_some,
    records]

/-- A stream that was cut off anywhere holds its first lines. -/
theorem readStream_take {lines : List LogLine}
    (tidy : ∀ line ∈ lines, Tidy line.fields) (size : Nat) :
    ∃ count, readStream ((stream formatTime lines).take size) =
      some ((lines.take count).map (recordOf formatTime)) := by
  rcases docs_of_tidy formatTime tidy with ⟨proper, records⟩
  rcases readLines_take proper size with ⟨count, read⟩
  exact ⟨count, by
    rw [readStream, stream, read, Option.map_some, List.map_take, records,
      List.map_take]⟩

end

end SupportAssistant.Observability.LogStream
