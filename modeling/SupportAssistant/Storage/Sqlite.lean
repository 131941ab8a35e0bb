import Mathlib.Data.List.Sort
import SupportAssistant.Effects.Outcomes
import SupportAssistant.Storage.Protocol

/-!
# The SQLite repository

Two tables, the `CHECK` of the first, the primary keys of both, and the three
operations as transactions.  A step is stored as its `seq`, `ts` and `type`
columns and a JSON payload, and read back through the step union.

A JSON column holds the JSON value itself: writing and parsing its text are
inverse to each other.
-/

namespace SupportAssistant.Storage.Sqlite

open SupportAssistant.Enums
open SupportAssistant.Runtime
open SupportAssistant.Tracing.Models
open SupportAssistant.Domain
open SupportAssistant.Storage.Protocol

/-! ## The schema -/

/-- A row of `tickets`. -/
structure TicketRow where
  id : String
  userId : String
  subject : String
  body : String
  status : String
  reply : Option String
  handoffReason : Option String
  createdAt : String
  updatedAt : String
deriving DecidableEq, Repr

/-- A row of `trace_steps`. -/
structure StepRow where
  ticketId : String
  seq : Int
  ts : String
  type : String
  payload : List (String × Json)
deriving Repr

structure Database where
  tickets : List TicketRow
  traceSteps : List StepRow
deriving Repr

def Database.empty : Database :=
  { tickets := [], traceSteps := [] }

/-- `CHECK (status IN ('processing', 'replied', 'handed_off'))`. -/
def statusCheck (status : String) : Bool :=
  ["processing", "replied", "handed_off"].contains status

/--
The reply/handoff invariant of the table.  `status` is `NOT NULL`, so that
every condition has one of the two truth values.
-/
def pairingCheck (status : String) (reply handoffReason : Option String) :
    Bool :=
  (status == "processing" && reply.isNone && handoffReason.isNone) ||
    (status == "replied" && reply.isSome && handoffReason.isNone) ||
    (status == "handed_off" && reply.isNone && handoffReason.isSome)

def TicketRow.check (row : TicketRow) : Bool :=
  statusCheck row.status &&
    pairingCheck row.status row.reply row.handoffReason

def integrityError (py : PyText) (message : String) : Exc :=
  .plain py "IntegrityError" .other message

def checkFailed (py : PyText) : Exc :=
  integrityError py
    ("CHECK constraint failed: (status = 'processing'  AND reply IS NULL" ++
      "     AND handoff_reason IS NULL)\n     OR (status = 'replied'     " ++
      "AND reply IS NOT NULL AND handoff_reason IS NULL)\n     OR " ++
      "(status = 'handed_off'  AND reply IS NULL     AND " ++
      "handoff_reason IS NOT NULL)")

def uniqueFailed (py : PyText) (columns : String) : Exc :=
  integrityError py ("UNIQUE constraint failed: " ++ columns)

def overflowError (py : PyText) : Exc :=
  .plain py "OverflowError" .other
    "Python int too large to convert to SQLite INTEGER"

/-- Run a transaction: what raised leaves the database as it was. -/
def transaction {α : Type} (body : EStateM Exc Database α) :
    EStateM Exc Database α :=
  fun database =>
    match body database with
    | .ok value after => .ok value after
    | .error exc _ => .error exc database

/-! ## Steps as rows -/

def jsonOption {α : Type} (toJson : α → Json) : Option α → Json
  | none => .null
  | some value => toJson value

/-- What a value is serialised as, if it is one that can be. -/
def serialised : AnyValue → Option Json
  | .json value => some value
  | .other dumped _ => dumped

/--
What serialising a value yields.  One that is nested too deep is taken for a
circular reference.
-/
def dumpValue (py : PyText) (value : AnyValue) : Option Json :=
  (serialised value).filter fun json => json.depth ≤ py.dumpDepth

def dumpDict (py : PyText) (dict : Dict) : Option (List (String × Json)) :=
  dict.mapM fun (key, value) => (dumpValue py value).map (key, ·)

def dumpViolation (violation : Violation) : Json :=
  .object
    [("literal", .string violation.literal),
      ("class", .string violation.literalClass.value),
      ("reason", .string violation.reason)]

def dumpToolError (error : ToolError) : Json :=
  .object
    [("type", .string error.type), ("message", .string error.message)]

/-- The fields of a kind of step, in the order the model declares them. -/
def dumpPayload (py : PyText) : Payload → Option (List (String × Json))
  | .intentClassified intent matchedKeywords =>
      some
        [("intent", .string intent.value),
          ("matched_keywords", .list (matchedKeywords.map .string))]
  | .llmDecision iteration decision tool =>
      some
        [("iteration", .int iteration),
          ("decision", .string decision.value),
          ("tool", jsonOption .string tool)]
  | .toolCall tool args => do
      let args ← dumpDict py args
      some [("tool", .string tool), ("args", .object args)]
  | .toolResult tool ok summary error => do
      let summary ←
        match summary with
        | none => some Json.null
        | some summary => (dumpDict py summary).map .object
      some
        [("tool", .string tool), ("ok", .bool ok), ("summary", summary),
          ("error", jsonOption dumpToolError error)]
  | .groundingCheck passed literalsChecked violations =>
      some
        [("passed", .bool passed),
          ("literals_checked", .int literalsChecked),
          ("violations", .list (violations.map dumpViolation))]
  | .finalDecision outcome reason detail =>
      some
        [("outcome", .string outcome.value),
          ("reason", jsonOption (fun reason =>
            .string (HandoffReason.value reason)) reason),
          ("detail", jsonOption .string detail)]

/-- The library's text also says what it met, which `AnyValue` forgets. -/
def serializationError (py : PyText) : Exc :=
  .plain py "PydanticSerializationError" .other
    "Unable to serialize unknown type"

/-- A step as an object: the fields every step has, then those of its kind. -/
def dumpStep (py : PyText) (time : TimeText) (step : TraceStep) :
    Option (List (String × Json)) :=
  (dumpPayload py step.payload).map fun fields =>
    ("seq", .int step.seq) :: ("ts", .string (time.dumped step.ts)) ::
      ("type", .string step.type) :: fields

/-- The step fields that are columns rather than payload. -/
def promoted : List String := ["seq", "ts", "type"]

def withoutPromoted (data : List (String × Json)) : List (String × Json) :=
  data.filter fun entry => !promoted.contains entry.1

/-- One step as its row; `json.dumps` refuses an integer that is too long. -/
def stepToRow (py : PyText) (time : TimeText) (ticketId : String)
    (step : TraceStep) : Except Exc StepRow :=
  match dumpStep py time step with
  | none => .error (serializationError py)
  | some data =>
      if (Json.object (withoutPromoted data)).short then
        .ok
          { ticketId
            seq := step.seq
            ts := time.dumped step.ts
            type := step.type
            payload := withoutPromoted data }
      else .error (digitsError py)

/-! ## Rows as steps -/

def stringOf? : Json → Option String
  | .string value => some value
  | _ => none

def intOf? : Json → Option Int
  | .int value => some value
  | _ => none

def boolOf? : Json → Option Bool
  | .bool value => some value
  | _ => none

def listOf? {α : Type} (item : Json → Option α) : Json → Option (List α)
  | .list items => items.mapM item
  | _ => none

def objectOf? : Json → Option (List (String × Json))
  | .object entries => some entries
  | _ => none

/-- A field that may be null. -/
def optionOf? {α : Type} (item : Json → Option α) :
    Json → Option (Option α)
  | .null => some none
  | value => (item value).map some

/-- A dictionary of JSON values. -/
def dictOf? (value : Json) : Option Dict :=
  (objectOf? value).map fun entries =>
    entries.map fun (key, value) => (key, .json value)

/-- The object has no other keys: extra fields are forbidden. -/
def onlyKeys (fields : List String) (entries : List (String × Json)) :
    Bool :=
  entries.all fun entry => fields.contains entry.1

/-- A required field of an object. -/
def field? {α : Type} (entries : List (String × Json)) (key : String)
    (item : Json → Option α) : Option α :=
  (Json.get? entries key).bind item

/-- A field of an object that may be missing. -/
def fieldOr? {α : Type} (entries : List (String × Json)) (key : String)
    (item : Json → Option α) (default : α) : Option α :=
  match Json.get? entries key with
  | none => some default
  | some value => item value

def violationOf? (value : Json) : Option Violation := do
  let entries ← objectOf? value
  if onlyKeys ["literal", "class", "reason"] entries then
    let literal ← field? entries "literal" stringOf?
    let literalClass ← field? entries "class" fun value =>
      (stringOf? value).bind LiteralClass.ofValue?
    let reason ← field? entries "reason" stringOf?
    some { literal, literalClass, reason }
  else none

def toolErrorOf? (value : Json) : Option ToolError := do
  let entries ← objectOf? value
  if onlyKeys ["type", "message"] entries then
    let type ← field? entries "type" stringOf?
    let message ← field? entries "message" stringOf?
    some { type, message }
  else none

def Decision.ofValue? (text : String) : Option Decision :=
  [Decision.toolCall, .reply, .handoff].find? (·.value == text)

/--
Validation of the fields of a step against the model its type selects.  Values
are read in the forms that `dumpPayload` writes; nothing is coerced.
-/
def loadPayload (type : String) (entries : List (String × Json)) :
    Option Payload :=
  if type = "intent_classified" then
    if onlyKeys ["intent", "matched_keywords"] entries then do
      let intent ← field? entries "intent" fun value =>
        (stringOf? value).bind Intent.ofValue?
      let matchedKeywords ←
        field? entries "matched_keywords" (listOf? stringOf?)
      some (.intentClassified intent matchedKeywords)
    else none
  else if type = "llm_decision" then
    if onlyKeys ["iteration", "decision", "tool"] entries then do
      let iteration ← field? entries "iteration" intOf?
      let decision ← field? entries "decision" fun value =>
        (stringOf? value).bind Decision.ofValue?
      let tool ← fieldOr? entries "tool" (optionOf? stringOf?) none
      some (.llmDecision iteration decision tool)
    else none
  else if type = "tool_call" then
    if onlyKeys ["tool", "args"] entries then do
      let tool ← field? entries "tool" stringOf?
      let args ← field? entries "args" dictOf?
      some (.toolCall tool args)
    else none
  else if type = "tool_result" then
    if onlyKeys ["tool", "ok", "summary", "error"] entries then do
      let tool ← field? entries "tool" stringOf?
      let ok ← field? entries "ok" boolOf?
      let summary ← fieldOr? entries "summary" (optionOf? dictOf?) none
      let error ← fieldOr? entries "error" (optionOf? toolErrorOf?) none
      some (.toolResult tool ok summary error)
    else none
  else if type = "grounding_check" then
    if onlyKeys ["passed", "literals_checked", "violations"] entries then do
      let passed ← field? entries "passed" boolOf?
      let literalsChecked ← field? entries "literals_checked" intOf?
      let violations ← fieldOr? entries "violations" (listOf? violationOf?) []
      some (.groundingCheck passed literalsChecked violations)
    else none
  else if type = "final_decision" then
    if onlyKeys ["outcome", "reason", "detail"] entries then do
      let outcome ← field? entries "outcome" fun value =>
        (stringOf? value).bind TicketStatus.ofValue?
      let reason ← fieldOr? entries "reason" (optionOf? fun value =>
        (stringOf? value).bind HandoffReason.ofValue?) none
      let detail ← fieldOr? entries "detail" (optionOf? stringOf?) none
      some (.finalDecision outcome reason detail)
    else none
  else none

/-- `data[key] = value`. -/
def assign (data : List (String × Json)) (entry : String × Json) :
    List (String × Json) :=
  if data.any (·.1 == entry.1) then
    data.map fun other => if other.1 == entry.1 then entry else other
  else data ++ [entry]

/-- The promoted columns back into the payload. -/
def dataOf (row : StepRow) : List (String × Json) :=
  [("seq", .int row.seq), ("ts", .string row.ts),
    ("type", .string row.type)].foldl assign row.payload

/-- Validation of an object through the step union. -/
def validateStep (time : TimeText) (data : List (String × Json)) :
    Option TraceStep := do
  let type ← field? data "type" stringOf?
  let payload ← loadPayload type (withoutPromoted data)
  let seq ← field? data "seq" intOf?
  let ts ← field? data "ts" fun value => (stringOf? value).bind time.parse
  TraceStep.validate? seq ts payload

def stepFromRow (time : TimeText) (row : StepRow) : Option TraceStep :=
  validateStep time (dataOf row)

/-! ## The operations -/

section Operations

variable (py : PyText) (pydantic : Pydantic) (time : TimeText)

/-- The row of a ticket. -/
def ticketRow (ticket : Ticket) : TicketRow :=
  { id := ticket.id
    userId := ticket.userId
    subject := ticket.subject
    body := ticket.body
    status := ticket.status.value
    reply := ticket.reply
    handoffReason := ticket.handoffReason.map HandoffReason.value
    createdAt := time.isoformat ticket.createdAt
    updatedAt := time.isoformat ticket.updatedAt }

/--
The texts of a row that come from outside.  The others, names of members of
enumerations and times, are ASCII.
-/
def TicketRow.texts (row : TicketRow) : List String :=
  [row.id, row.userId, row.subject, row.body] ++ row.reply.toList

/-- Bind texts to a statement; they are encoded before it runs. -/
def bindTexts (texts : List String) : EStateM Exc Database Unit :=
  if texts.all py.encodes then pure ()
  else throw (unicodeEncodeError py)

/-- `INSERT INTO tickets`; checks come before the primary key. -/
def insertTicket (row : TicketRow) : EStateM Exc Database Unit := do
  let database ← get
  if !row.check then throw (checkFailed py)
  else if database.tickets.any (·.id == row.id) then
    throw (ticketAlreadyExists py row.id)
  else set { database with tickets := database.tickets ++ [row] }

def create (ticket : Ticket) : EStateM Exc Database Unit :=
  transaction do
    bindTexts py (ticketRow time ticket).texts
    insertTicket py (ticketRow time ticket)

/-- The steps of a ticket, `ORDER BY seq`. -/
def Database.stepsOf (database : Database) (ticketId : String) :
    List StepRow :=
  (database.traceSteps.filter (·.ticketId == ticketId)).insertionSort
    fun first second => first.seq ≤ second.seq

/-- What a stored text that is no member of its enumeration raises. -/
def notAMember (enumeration text : String) : Exc :=
  valueError py (py.repr text ++ " is not a valid " ++ enumeration)

def handoffReasonOf (text : Option String) :
    Except Exc (Option HandoffReason) :=
  match text with
  | none => .ok none
  | some text =>
      match HandoffReason.ofValue? text with
      | some reason => .ok (some reason)
      | none => .error (notAMember py "HandoffReason" text)

/-- The ticket of a row and its steps. -/
def ticketOfRow (row : TicketRow) (steps : List StepRow) :
    Except Exc Ticket := do
  let status ←
    match TicketStatus.ofValue? row.status with
    | some status => .ok status
    | none => .error (notAMember py "TicketStatus" row.status)
  let handoffReason ← handoffReasonOf py row.handoffReason
  let trace ←
    match steps.mapM (stepFromRow time) with
    | some trace => .ok trace
    | none => .error (validationError py pydantic "TraceStep")
  match time.parse row.createdAt, time.parse row.updatedAt with
  | some createdAt, some updatedAt =>
      match Ticket.validate? row.id row.userId row.subject row.body status
          row.reply handoffReason createdAt updatedAt trace with
      | some ticket => .ok ticket
      | none => .error (validationError py pydantic "Ticket")
  | _, _ => .error (validationError py pydantic "Ticket")

def getTicket (database : Database) (ticketId : String) :
    Except Exc (Option Ticket) :=
  match database.tickets.find? (·.id == ticketId) with
  | none => .ok none
  | some row =>
      (ticketOfRow py pydantic time row (database.stepsOf ticketId)).map some

/-- A row with a terminal state written into it. -/
def TicketRow.finalised (row : TicketRow) (updatedAt : String)
    (call : FinaliseCall) : TicketRow :=
  { row with
    status := call.status.value
    reply := call.reply
    handoffReason := call.handoffReason.map HandoffReason.value
    updatedAt }

def Database.rewritten (database : Database) (updatedAt : String)
    (call : FinaliseCall) : Database :=
  { database with
    tickets := database.tickets.map fun row =>
      if row.id == call.ticketId then row.finalised updatedAt call
      else row }

/-- `UPDATE tickets`, raising when a check fails or no row has the id. -/
def updateTicket (updatedAt : String) (call : FinaliseCall) :
    EStateM Exc Database Unit := do
  let database ← get
  let matching := database.tickets.filter (·.id == call.ticketId)
  let rewritten := matching.map fun row => row.finalised updatedAt call
  if !rewritten.all TicketRow.check then throw (checkFailed py)
  else if matching.isEmpty then throw (ticketNotFound py call.ticketId)
  else set (database.rewritten updatedAt call)

/-- `DELETE FROM trace_steps`. -/
def deleteSteps (ticketId : String) : EStateM Exc Database Unit :=
  modify fun database =>
    { database with
      traceSteps :=
        database.traceSteps.filter (·.ticketId != ticketId) }

def insertStep (row : StepRow) : EStateM Exc Database Unit := do
  let database ← get
  if 2 ^ 63 ≤ row.seq then throw (overflowError py)
  else if database.traceSteps.any fun other =>
      other.ticketId == row.ticketId && other.seq == row.seq then
    throw (uniqueFailed py "trace_steps.ticket_id, trace_steps.seq")
  else set { database with traceSteps := database.traceSteps ++ [row] }

def insertSteps : List StepRow → EStateM Exc Database Unit
  | [] => pure ()
  | row :: rows => do
      insertStep py row
      insertSteps rows

/-- The texts that are bound when a ticket is rewritten. -/
def boundTexts (call : FinaliseCall) : List String :=
  call.reply.toList ++ [call.ticketId]

/-- Write the terminal state and the trace in a single transaction. -/
def finalise (now : DateTime) (call : FinaliseCall) :
    EStateM Exc Database Unit :=
  transaction do
    bindTexts py (boundTexts call)
    updateTicket py (time.isoformat now) call
    deleteSteps call.ticketId
    let rows ← Effects.Outcomes.answer
      (call.trace.mapM (stepToRow py time call.ticketId))
    insertSteps py rows

/-- `SqliteTicketRepository`. -/
def sqliteRepository : TicketRepository Database where
  create := create py time
  get ticketId := do
    bindTexts py [ticketId]
    let database ← get
    Effects.Outcomes.answer (getTicket py pydantic time database ticketId)
  finalise := finalise py time

end Operations

end SupportAssistant.Storage.Sqlite
