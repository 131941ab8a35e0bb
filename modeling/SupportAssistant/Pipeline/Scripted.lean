import SupportAssistant.Pipeline.Collaborators
import SupportAssistant.Runtime.Ascii
import SupportAssistant.Storage.Memory
import SupportAssistant.Tools.Registry

/-!
# Scripted collaborators

A model that follows a script, wired to the default templates over an ASCII
runtime, and a ticket that waits for it.  Statements about every model are
tried on these.
-/

namespace SupportAssistant.Pipeline.Scripted

open SupportAssistant.Enums
open SupportAssistant.Runtime
open SupportAssistant.Runtime.Ascii
open SupportAssistant.Domain
open SupportAssistant.Llm.Templates
open SupportAssistant.Tools.Loaders
open SupportAssistant.Tools.Registry
open SupportAssistant.Storage.Memory
open SupportAssistant.Pipeline.Collaborators

/-- A model with one intent, which takes the next step of its script. -/
def scriptedModel (intent : Intent) (script : List Step) : LLMClient where
  classifyIntent _ _ := .ok { intent, matchedKeywords := [] }
  decideNextStep _ _ history :=
    match script[history.length]? with
    | some step => .ok step
    | none => .error (runtimeError asciiText "the script has ended")

/-- The default templates and cap; a clock that stands at the epoch. -/
def wiringOf (llm : LLMClient)
    (tools : String → Dict → Except Exc ToolResult) : Wiring where
  py := asciiText
  pydantic := plainPydantic
  llm
  tools _ := tools
  resolveTemplate _ name := .ok (specFor asciiText name)
  clock _ := atEpoch
  maxIterations := 5

/-- The clock of the repository. -/
def standingClock : List Event → Reading :=
  fun _ => atEpoch

/-- A ticket that waits for its run. -/
def waitingTicket : Ticket where
  id := "t1"
  userId := "u_anna"
  subject := "Invoice"
  body := "Please check my invoice."
  status := .processing
  reply := none
  handoffReason := none
  createdAt := epoch
  updatedAt := epoch
  trace := []
  userIdOk := rfl
  subjectOk := rfl
  bodyOk := rfl
  agrees := processing_agrees

/-- A store that holds the waiting ticket. -/
def waitingStore : Store :=
  [(waitingTicket.id, waitingTicket)]

/-! ## Fixture files -/

def userRow (userId name : String) : Json :=
  .object
    [("user_id", .string userId), ("name", .string name),
      ("language", .string "en"), ("plan", .string "basic")]

def invoiceRow (userId invoiceId amount status : String) (issuedAt : Int) :
    Json :=
  .object
    [("user_id", .string userId), ("invoice_id", .string invoiceId),
      ("amount", .string amount), ("currency", .string "EUR"),
      ("status", .string status), ("issued_at", .int issuedAt)]

/-- Anna has a failed invoice of this amount and a paid one, Ben a paid one. -/
def sampleFixtures (amount : String) : Fixtures where
  users := .parsed (.list [userRow "u_anna" "Anna", userRow "u_ben" "Ben"])
  sessions := .parsed (.list [])
  invoices :=
    .parsed (.list
      [invoiceRow "u_anna" "inv_102" amount "failed" 2,
        invoiceRow "u_anna" "inv_101" "22.75" "paid" 1,
        invoiceRow "u_ben" "inv_203" "38.90" "paid" 1])

/-- The default registry over the sample files. -/
def sampleTools (amount : String) (tool : String) (args : Dict) :
    Except Exc ToolResult :=
  run asciiText plainPydantic (sampleFixtures amount) tool args

end SupportAssistant.Pipeline.Scripted
