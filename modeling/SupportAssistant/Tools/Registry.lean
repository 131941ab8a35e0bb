import SupportAssistant.Tools.Loaders

/-!
# The dispatch of tools

A tool is reached by its registered name, with arguments that its schema
accepts.  What a tool itself raises passes through.
-/

namespace SupportAssistant.Tools.Registry

open SupportAssistant.Runtime
open SupportAssistant.Domain
open SupportAssistant.Tools.Loaders

/-- A field of type `str` among the arguments of a call. -/
def AnyValue.string? : AnyValue → Option String
  | .json (.string value) => some value
  | .json _ => none
  | .other _ asString => asString

/-- `_UserIdArgs`: exactly one argument, a nonempty user id. -/
def validateUserIdArgs (args : Dict) : Except (List String) String :=
  let userId := ((args.find? (·.1 == "user_id")).bind fun entry =>
    AnyValue.string? entry.2).filter fun userId => 1 ≤ userId.length
  let extra := (args.map Prod.fst).filter (· != "user_id")
  match userId, extra with
  | some userId, [] => .ok userId
  | some _, extra => .error extra
  | none, extra => .error ("user_id" :: extra)

/-- The tool names the loop may dispatch. -/
def registered : List String :=
  ["get_user", "get_charging_sessions", "get_invoices"]

/-- The records of a registered tool for one user. -/
def dispatch (py : PyText) (pydantic : Pydantic) (fixtures : Fixtures)
    (name userId : String) : Except Exc (List Record) :=
  if name = "get_user" then do
    let user ← getUser py fixtures userId
    .ok [.user user]
  else if name = "get_charging_sessions" then do
    let sessions ← getChargingSessions py pydantic fixtures userId
    .ok (sessions.map .session)
  else do
    let invoices ← getInvoices py pydantic fixtures userId
    .ok (invoices.map .invoice)

/-- Dispatch a call by name, and wrap what the tool returned. -/
def run (py : PyText) (pydantic : Pydantic) (fixtures : Fixtures)
    (name : String) (args : Dict) : Except Exc ToolResult :=
  if registered.contains name then
    match validateUserIdArgs args with
    | .error failed =>
        .error (toolExecutionError py
          (name ++ " called with invalid arguments: " ++
            failedFields failed))
    | .ok userId => do
        let records ← dispatch py pydantic fixtures name userId
        .ok { tool := name, records := records }
  else
    .error (toolExecutionError py ("no tool named " ++ py.repr name))

end SupportAssistant.Tools.Registry
