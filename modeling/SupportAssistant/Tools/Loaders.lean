import Mathlib.Data.List.Sort
import SupportAssistant.Domain

/-!
# The three tools

Each tool filters a fixture file to the rows of one user, validates what it
kept, and returns it newest first.  The files are read afresh by every call,
so a call takes the content of the three files as it finds them.
-/

namespace SupportAssistant.Tools.Loaders

open SupportAssistant.Enums
open SupportAssistant.Runtime
open SupportAssistant.Domain

/-! ## The typed failures -/

def userNotFound (py : PyText) (message : String) : Exc :=
  .plain py "UserNotFound" .userNotFound message

def noDataAvailable (py : PyText) (message : String) : Exc :=
  .plain py "NoDataAvailable" .noDataAvailable message

def toolExecutionError (py : PyText) (message : String) : Exc :=
  .plain py "ToolExecutionError" .other message

/-- The dotted paths of the fields that failed, comma-joined. -/
def failedFields (paths : List String) : String :=
  join ", " paths

/-! ## Reading -/

/-- A row of a fixture file. -/
abbrev Row := List (String × Json)

/-- What reading and parsing a fixture file comes to. -/
inductive FileContent where
  | osError
  | jsonDecodeError
  /-- Any other exception of the two calls, which nothing here catches. -/
  | otherError (exc : Exc)
  | parsed (value : Json)

/-- The three fixture files. -/
structure Fixtures where
  users : FileContent
  sessions : FileContent
  invoices : FileContent

def isObject : Json → Option Row
  | .object entries => some entries
  | _ => none

/-- Parse one fixture file into a list of rows. -/
def readRows (py : PyText) (filename : String) :
    FileContent → Except Exc (List Row)
  | .osError =>
      .error (toolExecutionError py ("could not read fixture " ++ filename))
  | .jsonDecodeError =>
      .error (toolExecutionError py
        ("fixture " ++ filename ++ " is not valid JSON"))
  | .otherError exc => .error exc
  | .parsed value =>
      let failed :=
        toolExecutionError py
          ("fixture " ++ filename ++ " is not a JSON array of objects")
      match value with
      | .list items =>
          match items.mapM isObject with
          | some rows => .ok rows
          | none => .error failed
      | _ => .error failed

def filterKey : String := "user_id"

/-- `row.get("user_id") == user_id`. -/
def belongsTo (userId : String) (row : Row) : Bool :=
  match Json.get? row filterKey with
  | some (.string owner) => owner == userId
  | _ => false

/-- Every row for one user. -/
def rowsFor (py : PyText) (filename : String) (content : FileContent)
    (userId : String) : Except Exc (List Row) := do
  let rows ← readRows py filename content
  .ok (rows.filter (belongsTo userId))

/-! ## Validation -/

/-- A field of type `str`. -/
def stringField (row : Row) (key : String) : Option String :=
  match Json.get? row key with
  | some (.string value) => some value
  | _ => none

/-- The failed fields of a model, in declaration order, then the extra keys. -/
def failures (checks : List (String × Bool)) (row : Row) : List String :=
  (checks.filter fun check => !check.2).map Prod.fst ++
    (row.map Prod.fst).filter fun key =>
      !(checks.map Prod.fst).contains key

def validateUser (row : Row) : Except (List String) User :=
  let userId := stringField row "user_id"
  let name := stringField row "name"
  let language := stringField row "language"
  let plan := stringField row "plan"
  let failed := failures
    [("user_id", userId.isSome), ("name", name.isSome),
      ("language", language.isSome), ("plan", plan.isSome)] row
  match userId, name, language, plan, failed with
  | some userId, some name, some language, some plan, [] =>
      .ok { userId, name, language, plan }
  | _, _, _, _, failed => .error failed

def validateSession (pydantic : Pydantic) (row : Row) :
    Except (List String) ChargingSession :=
  let sessionId := stringField row "session_id"
  let station := stringField row "station"
  let kwh := (Json.get? row "kwh").bind pydantic.decimal
  let cost := (Json.get? row "cost").bind pydantic.decimal
  let status := (stringField row "status").bind SessionStatus.ofValue?
  let startedAt := (Json.get? row "started_at").bind pydantic.datetime
  let failed := failures
    [("session_id", sessionId.isSome), ("station", station.isSome),
      ("kwh", kwh.isSome), ("cost", cost.isSome),
      ("status", status.isSome), ("started_at", startedAt.isSome)] row
  match sessionId, station, kwh, cost, status, startedAt, failed with
  | some sessionId, some station, some kwh, some cost, some status,
      some startedAt, [] =>
      .ok { sessionId, station, kwh, cost, status, startedAt }
  | _, _, _, _, _, _, failed => .error failed

def validateInvoice (pydantic : Pydantic) (row : Row) :
    Except (List String) Invoice :=
  let invoiceId := stringField row "invoice_id"
  let amount := (Json.get? row "amount").bind pydantic.decimal
  let currency := stringField row "currency"
  let status := (stringField row "status").bind InvoiceStatus.ofValue?
  let issuedAt := (Json.get? row "issued_at").bind pydantic.datetime
  let failed := failures
    [("invoice_id", invoiceId.isSome), ("amount", amount.isSome),
      ("currency", currency.isSome), ("status", status.isSome),
      ("issued_at", issuedAt.isSome)] row
  match invoiceId, amount, currency, status, issuedAt, failed with
  | some invoiceId, some amount, some currency, some status, some issuedAt,
      [] =>
      .ok { invoiceId, amount, currency, status, issuedAt }
  | _, _, _, _, _, failed => .error failed

/-- Raise a failed validation as a tool failure that names the locator. -/
def validated {R : Type} (py : PyText) (locator : String) :
    Except (List String) R → Except Exc R
  | .ok record => .ok record
  | .error failed =>
      .error (toolExecutionError py
        (locator ++ " failed validation: " ++ failedFields failed))

/-! ## The tools -/

/-- The one user for an id. -/
def getUser (py : PyText) (fixtures : Fixtures) (userId : String) :
    Except Exc User := do
  let rows ← rowsFor py "users.json" fixtures.users userId
  match rows with
  | [] => .error (userNotFound py ("no user " ++ userId))
  | row :: _ => validated py ("user " ++ userId) (validateUser row)

/-- `sorted(records, key=sort_key, reverse=True)`. -/
def newestFirst {R : Type} (py : PyText) (sortKey : R → DateTime)
    (records : List R) : Except Exc (List R) :=
  if (records.all fun record => (sortKey record).aware) ||
      records.all fun record => !(sortKey record).aware then
    .ok (records.insertionSort fun first second =>
      (sortKey second).instant ≤ (sortKey first).instant)
  else
    .error (typeError py
      "can't compare offset-naive and offset-aware datetimes")

/-- `f"{noun} {row.get(id_field, '?')} for {user_id}"`. -/
def locatorFor (py : PyText) (noun idField userId : String) (row : Row) :
    String :=
  let named :=
    match Json.get? row idField with
    | some value => value.str py
    | none => "?"
  noun ++ " " ++ named ++ " for " ++ userId

/-- The shared body of the two collection tools. -/
def collection {R : Type} (py : PyText) (fixtures : Fixtures)
    (validate : Row → Except (List String) R)
    (filename : String) (content : FileContent) (userId : String)
    (noun idField : String) (sortKey : R → DateTime) :
    Except Exc (List R) := do
  let _ ← getUser py fixtures userId
  let rows ← rowsFor py filename content userId
  if rows.isEmpty then
    .error (noDataAvailable py
      ("user " ++ userId ++ " has no " ++ noun ++ "s"))
  else
    let records ← rows.mapM fun row =>
      validated py (locatorFor py noun idField userId row)
        (validate (row.filter fun entry => entry.1 != filterKey))
    newestFirst py sortKey records

def getChargingSessions (py : PyText) (pydantic : Pydantic)
    (fixtures : Fixtures) (userId : String) :
    Except Exc (List ChargingSession) :=
  collection py fixtures (validateSession pydantic)
    "sessions.json" fixtures.sessions userId
    "charging session" "session_id" ChargingSession.startedAt

def getInvoices (py : PyText) (pydantic : Pydantic)
    (fixtures : Fixtures) (userId : String) :
    Except Exc (List Invoice) :=
  collection py fixtures (validateInvoice pydantic)
    "invoices.json" fixtures.invoices userId
    "invoice" "invoice_id" Invoice.issuedAt

end SupportAssistant.Tools.Loaders
