import Mathlib.Data.String.Basic
import SupportAssistant.Text.Alternation
import SupportAssistant.Tracing.Summarise
import SupportAssistant.Tools.Registry

/-!
# The deterministic model

Intent is keyword matching over subject and body, scored by distinct keywords;
a tie is `unknown`.  The next step is a state machine over the history: fetch
the user, then the data the intent needs, then reply.
-/

namespace SupportAssistant.Llm.Fake

open SupportAssistant.Text.Backtracking
open SupportAssistant.Text.Scan
open SupportAssistant.Text.WholeWords
open SupportAssistant.Text.Alternation
open SupportAssistant.Enums
open SupportAssistant.Runtime
open SupportAssistant.Domain
open SupportAssistant.Tracing.Summarise

def billingKeywords : List String :=
  ["invoice", "bill", "billing", "payment", "paid", "charge", "charged",
    "refund", "receipt", "cost", "price", "euro"]

def chargingKeywords : List String :=
  ["charging", "charger", "station", "session", "kwh", "plug", "connector",
    "stopped", "interrupted"]

/-- Whole-word alternation, in the order the keywords are listed. -/
def keywordPattern (keywords : List String) : Regex :=
  delimited (anyOf (keywords.map fun keyword =>
    spelled exactly keyword.toList))

/-- `sorted(set(pattern.findall(text)))`. -/
def keywordsIn (py : PyText) (keywords : List String) (text : String) :
    List String :=
  ((findall ((keywordPattern keywords).matcher py.isWord) text.toList).map
    String.ofList).dedup.insertionSort (· ≤ ·)

/-- The intent, and the keywords that produced it. -/
def classifyIntent (py : PyText) (ticket : Ticket) : Classification :=
  let text := py.lower (ticket.subject ++ "\n" ++ ticket.body)
  let billing := keywordsIn py billingKeywords text
  let charging := keywordsIn py chargingKeywords text
  if charging.length < billing.length then
    { intent := .billingQuestion, matchedKeywords := billing }
  else if billing.length < charging.length then
    { intent := .chargingSessionProblem, matchedKeywords := charging }
  else { intent := .unknown, matchedKeywords := [] }

def userTool : String := "get_user"

/-- The tool that fetches the data an intent needs. -/
def dataTool : Intent → String
  | .billingQuestion => "get_invoices"
  | _ => "get_charging_sessions"

/-- A call with the one argument that the tools take. -/
def callFor (tool userId : String) : ToolCall :=
  { tool, args := [("user_id", .json (.string userId))] }

/-- A call of a tool for one user, if the tool is registered. -/
def toolCall (py : PyText) (tool userId : String) : Except Exc Step :=
  if Tools.Registry.registered.contains tool then
    .ok (.toolCall (callFor tool userId))
  else
    .error (runtimeError py
      ("FakeLLM would call unregistered tool " ++ py.repr tool))

def resultFor (py : PyText) (history : List Observation) (tool : String) :
    Except Exc ToolResult :=
  match history.find? (·.step.tool == tool) with
  | some observation => .ok observation.result
  | none =>
      .error (runtimeError py
        ("no " ++ tool ++ " observation in history"))

/-- `record.status`, as its text. -/
def statusOf (py : PyText) (record : Record) : Except Exc String :=
  match recordStatus record with
  | some status => .ok status
  | none => .error (attributeError py record "status")

/-- The template that the gathered statuses imply. -/
def templateFor (py : PyText) (intent : Intent)
    (history : List Observation) : Except Exc ReplyTemplate := do
  let result ← resultFor py history (dataTool intent)
  if intent = .billingQuestion then
    let statuses ← result.records.mapM (statusOf py)
    if statuses.contains InvoiceStatus.failed.value then
      .ok .billingFailed
    else if statuses.contains InvoiceStatus.pending.value then
      .ok .billingPending
    else .ok .billingAllPaid
  else
    match result.records with
    | [] => .error (indexError py "list index out of range")
    | .session session :: _ =>
        if session.status = .completed then .ok .sessionCompleted
        else .ok .sessionInterrupted
    | .invoice _ :: _ => .ok .sessionInterrupted
    | record :: _ => .error (attributeError py record "status")

/-- The next action, given what has been gathered so far. -/
def decideNextStep (py : PyText) (ticket : Ticket)
    (history : List Observation) : Except Exc Step :=
  let intent := (classifyIntent py ticket).intent
  let called := history.map (·.step.tool)
  if intent = .unknown then
    .error (valueError py
      ("decide_next_step called for an unknown intent; the pipeline hands " ++
        "those off before entering the loop"))
  else if !called.contains userTool then
    toolCall py userTool ticket.userId
  else if !called.contains (dataTool intent) then
    toolCall py (dataTool intent) ticket.userId
  else do
    let template ← templateFor py intent history
    .ok (.reply template)

end SupportAssistant.Llm.Fake
