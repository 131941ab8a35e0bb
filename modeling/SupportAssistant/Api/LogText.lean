import SupportAssistant.Api.Chronicle
import SupportAssistant.Observability.LogStream

/-!
# From the text of the log to the served traces

The lines of all tickets are interleaved in one stream.  Read back and picked
out by their ticket, they are the lines of the trace that is served, in its
order: the log and the trace tell of the same steps.
-/

namespace SupportAssistant.Api.LogText

open SupportAssistant.Runtime
open SupportAssistant.Runtime.Ascii
open SupportAssistant.Runtime.Written
open SupportAssistant.Effects.Mapping
open SupportAssistant.Tracing.Models
open SupportAssistant.Storage.Sqlite
open SupportAssistant.Storage.PayloadText
open SupportAssistant.Observability.Logging
open SupportAssistant.Observability.LogStream
open SupportAssistant.Api.Routes
open SupportAssistant.Api.Process
open SupportAssistant.Api.Chronicle

section

variable (py : PyText) (time : TimeText) (formatTime : LogLine → String)

/-- The text of a log, unless the hook raises. -/
def logText (threshold : Nat) (log : List (String × TraceStep)) :
    Option (List Char) :=
  (emitted py time threshold log).map (stream formatTime)

/-! ## Picking out a ticket -/

theorem tidy_of_lineOf {entry : String × TraceStep} {line : LogLine}
    (proper : ProperValues py entry.2.payload)
    (isLine : lineOf py time entry = some line) : Tidy line.fields := by
  rcases describe_tidy proper with ⟨event, level, fields, described, tidy⟩
  rw [lineOf, logStep, described] at isLine
  cases isLine
  exact tidy

theorem tidy_of_emitted {threshold : Nat}
    {log : List (String × TraceStep)} {lines : List LogLine}
    (proper : ∀ entry ∈ log, ProperValues py entry.2.payload)
    (areLines : emitted py time threshold log = some lines) :
    ∀ line ∈ lines, Tidy line.fields := by
  rcases Option.map_eq_some_iff.mp areLines with ⟨written, mapped, rfl⟩
  intro line member
  rcases mem_of_mapM_some mapped (List.mem_of_mem_filter member) with
    ⟨entry, logged, isLine⟩
  exact tidy_of_lineOf py time (proper entry logged) isLine

/-- The records of a ticket are those of its own lines. -/
theorem records_bound {lines : List LogLine}
    (tidy : ∀ line ∈ lines, Tidy line.fields) (id : String) :
    (lines.map (recordOf formatTime)).filter
        (fun record => ticketOf record == some id) =
      (boundLines id lines).map (recordOf formatTime) := by
  rw [List.filter_map, boundLines]
  congr 1
  apply List.filter_congr
  intro line member
  rw [Function.comp, ticketOf_recordOf formatTime (tidy line member)]

end

/-- A step with proper values that can be sent can be logged. -/
theorem loggable_of_proper {py : PyText} {payload : Payload}
    (proper : ProperValues py payload) (sendable : SendableValues py payload)
    (few : FewViolations payload) : Loggable py payload := by
  rcases dumpPayload_proper proper with ⟨fields, dumped, -⟩
  exact loggable_of_writes
    ⟨fields, dumped, short_of_sendable (sendable fields dumped)⟩ few

section

variable {py : PyText} {pydantic : Pydantic} {time : TimeText}
variable {world : World}

/--
In every reachable world whose steps are JSON that can be sent, the log has a
text, which can be read back, and up to its last whole line if it was cut off
anywhere; and for every settled view, the records with its ticket are those of
its trace, in order, as far as the level lets them through.
-/
theorem log_text_shows_every_trace (formatTime : LogLine → String)
    (threshold : Nat)
    (reached : Reachable py pydantic time world)
    (proper : ∀ entry ∈ world.log, ProperValues py entry.2.payload)
    (sendable : ∀ entry ∈ world.log, SendableValues py entry.2.payload)
    (few : ∀ entry ∈ world.log, FewViolations entry.2.payload) :
    ∃ text records,
      logText py time formatTime threshold world.log = some text ∧
      readStream text = some records ∧
        (∀ size, ∃ count,
          readStream (text.take size) = some (records.take count)) ∧
          ∀ id view,
            readTicket py pydantic time world.database id =
                .ok (some view) →
              Settled view →
                ∃ lines, Tells py time threshold id view.trace lines ∧
                  records.filter (fun record => ticketOf record == some id) =
                    lines.map (recordOf formatTime) := by
  have loggable := fun entry member => loggable_of_proper
    (proper entry member) (sendable entry member) (few entry member)
  rcases emitted_of_loggable time threshold loggable with
    ⟨all, areAll, areEmitted⟩
  have tidy := tidy_of_emitted py time proper areEmitted
  refine ⟨_, _, by rw [logText, areEmitted]; rfl,
    readStream_stream formatTime tidy, ?_, ?_⟩
  · intro size
    rcases readStream_take formatTime tidy size with ⟨count, read⟩
    rw [List.map_take] at read
    exact ⟨count, read⟩
  · intro id view read settles
    exact ⟨_, tells_of_settled reached read settles areAll threshold,
      records_bound formatTime tidy id⟩

theorem settledWorld_sendable :
    ∀ entry ∈ settledWorld.log,
      ProperValues asciiText entry.2.payload ∧
        SendableValues asciiText entry.2.payload ∧
          FewViolations entry.2.payload := by
  intro entry member
  have payload : entry.2.payload ∈
      settledWorld.log.map (fun entry => entry.2.payload) :=
    List.mem_map_of_mem member
  have sent : ∀ payload ∈ settledWorld.log.map
      (fun entry => entry.2.payload),
        (dumpPayload asciiText payload).all
          (fun fields => (Json.object fields).sendable asciiText) = true := by
    rw [settledWorld_payloads]
    decide +kernel
  have sendable : SendableValues asciiText entry.2.payload := by
    intro fields dumped
    have shown := sent _ payload
    rwa [dumped] at shown
  refine ⟨?_, sendable, ?_⟩ <;>
    · rw [settledWorld_payloads] at payload
      simp only [List.mem_cons, List.not_mem_nil, or_false] at payload
      rcases payload with same | same | same <;>
        simp [same, ProperValues, FewViolations]

theorem settledWorld_log_text :
    ∃ text records,
      logText asciiText tallyTime LogLine.event Level.info.number
          settledWorld.log = some text ∧
        readStream text = some records ∧
          (∀ size, ∃ count,
            readStream (text.take size) = some (records.take count)) ∧
            ∀ id view,
              readTicket asciiText plainPydantic tallyTime
                  settledWorld.database id = .ok (some view) →
                Settled view →
                  ∃ lines,
                    Tells asciiText tallyTime Level.info.number id view.trace
                        lines ∧
                      records.filter
                          (fun record => ticketOf record == some id) =
                        lines.map (recordOf LogLine.event) :=
  log_text_shows_every_trace LogLine.event Level.info.number
    (postedWorld_reached.trans settledWorld_later)
    (fun entry member => (settledWorld_sendable entry member).1)
    (fun entry member => (settledWorld_sendable entry member).2.1)
    (fun entry member => (settledWorld_sendable entry member).2.2)

end

end SupportAssistant.Api.LogText
