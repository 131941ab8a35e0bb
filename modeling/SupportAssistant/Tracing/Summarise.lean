import SupportAssistant.Domain

/-!
# Tool-result summaries

`tool_result` records a summary, never the payload: the count, the statuses in
the order their enumeration declares them, and the identifiers returned.
-/

namespace SupportAssistant.Tracing.Summarise

open SupportAssistant.Enums
open SupportAssistant.Runtime
open SupportAssistant.Domain

/-- The text of the status of a collection record. -/
def recordStatus : Record → Option String
  | .user _ => none
  | .session session => some session.status.value
  | .invoice invoice => some invoice.status.value

/-- `record.<attribute>` of a record that does not have it. -/
def attributeError (py : PyText) (record : Record) (name : String) : Exc :=
  .plain py "AttributeError" .other
    (py.repr record.typeName ++ " object has no attribute " ++ py.repr name)

def invoiceIdOf (py : PyText) : Record → Except Exc String
  | .invoice invoice => .ok invoice.invoiceId
  | record => .error (attributeError py record "invoice_id")

def sessionIdOf (py : PyText) : Record → Except Exc String
  | .session session => .ok session.sessionId
  | record => .error (attributeError py record "session_id")

/-- The statuses that occur, with their counts, in declaration order. -/
def statusCounts (members : List String) (records : List Record) :
    List (String × Json) :=
  members.filterMap fun member =>
    let count := records.countP fun record =>
      recordStatus record == some member
    if count = 0 then none else some (member, .int count)

def summariseUser (py : PyText) (result : ToolResult) : Except Exc Dict :=
  match result.records with
  | [] => .error (indexError py "list index out of range")
  | .user user :: _ =>
      .ok
        [("found", .json (.bool true)), ("plan", .json (.string user.plan))]
  | record :: _ =>
      .error (valueError py
        ("get_user returned a " ++ record.typeName ++ ", not a User"))

def summariseCollection
    (result : ToolResult) (members : List String)
    (idOf : Record → Except Exc String) : Except Exc Dict := do
  let records := result.records.filter fun record =>
    (recordStatus record).isSome
  let referenced ← records.mapM idOf
  .ok
    [("count", .json (.int records.length)),
      ("statuses", .json (.object (statusCounts members records))),
      ("referenced", .json (.list (referenced.map .string)))]

def summariseInvoices (py : PyText) (result : ToolResult) :
    Except Exc Dict :=
  summariseCollection result
    (InvoiceStatus.members.map InvoiceStatus.value) (invoiceIdOf py)

def summariseSessions (py : PyText) (result : ToolResult) :
    Except Exc Dict :=
  summariseCollection result
    (SessionStatus.members.map SessionStatus.value) (sessionIdOf py)

/-- Summarise one tool call's result by the rule of its tool. -/
def summarise (py : PyText) (result : ToolResult) : Except Exc Dict :=
  if result.tool = "get_user" then summariseUser py result
  else if result.tool = "get_invoices" then summariseInvoices py result
  else if result.tool = "get_charging_sessions" then
    summariseSessions py result
  else
    .error (valueError py
      ("no summariser for tool " ++ py.repr result.tool))

end SupportAssistant.Tracing.Summarise
