import SupportAssistant.Guardrails.Facts

/-!
# The reply templates

A template is its prose with named fields, the selection that fills the fields
from a fact set, and the literals its prose may contain.
-/

namespace SupportAssistant.Llm.Templates

open SupportAssistant.Enums
open SupportAssistant.Runtime
open SupportAssistant.Domain
open SupportAssistant.Guardrails.Facts

/-- A part of a format string. -/
inductive Segment where
  | text (text : String)
  | field (name : String)
deriving DecidableEq, Repr

/-- The fields of a rendered template, by name. -/
abbrev Context := List (String × String)

structure Template where
  name : ReplyTemplate
  body : List Segment
  context : FactSet → Except Exc Context
  templateSafeLiterals : List String

/-- `segment.format(**context)`. -/
def formatSegment (py : PyText) (context : Context) :
    Segment → Except Exc String
  | .text text => .ok text
  | .field name =>
      match context.lookup name with
      | some value => .ok value
      | none => .error (keyError py name)

/-- `body.format(**context)`. -/
def format (py : PyText) (body : List Segment) (context : Context) :
    Except Exc String := do
  let parts ← body.mapM (formatSegment py context)
  .ok (join "" parts)

/-- The prose of the template, every field filled from the facts. -/
def Template.render (py : PyText) (template : Template)
    (facts : FactSet) : Except Exc String := do
  let context ← template.context facts
  format py template.body context

/-! ## Field selection -/

section Selection

variable (py : PyText)

def nameOf (facts : FactSet) : Except Exc String :=
  match facts.userName with
  | some name =>
      if name = "" then
        .error (valueError py
          "a reply template needs the user's name, but the FactSet has none")
      else .ok name
  | none =>
      .error (valueError py
        "a reply template needs the user's name, but the FactSet has none")

/-- The first invoice with the given status. -/
def firstInvoice (invoices : List InvoiceFact) (status : InvoiceStatus) :
    Except Exc InvoiceFact :=
  match invoices.find? (·.status = status) with
  | some invoice => .ok invoice
  | none =>
      .error (valueError py
        ("a reply template needs an invoice with status " ++
          status.value ++ ", but the FactSet has none"))

def nameOnly (facts : FactSet) : Except Exc Context := do
  let name ← nameOf py facts
  .ok [("name", name)]

def invoiceWith (status : InvoiceStatus) (facts : FactSet) :
    Except Exc Context := do
  let invoice ← firstInvoice py facts.invoices status
  let name ← nameOf py facts
  .ok
    [("name", name), ("invoice_id", invoice.invoiceId),
      ("amount", formatAmount invoice.amount),
      ("currency", invoice.currency)]

def failedInvoice (facts : FactSet) : Except Exc Context :=
  invoiceWith py .failed facts

def pendingInvoice (facts : FactSet) : Except Exc Context :=
  invoiceWith py .pending facts

def latestSession (facts : FactSet) : Except Exc Context :=
  match facts.sessions with
  | [] =>
      .error (valueError py
        "a reply template needs a charging session, but the FactSet has none")
  | session :: _ => do
      let name ← nameOf py facts
      .ok
        [("name", name), ("station", session.station),
          ("status", session.status.value),
          ("kwh", formatAmount session.kwh),
          ("cost", formatAmount session.cost)]

end Selection

/-! ## The bodies -/

def billingAllPaid : List Segment :=
  [.text "Hi ", .field "name",
    .text ",\n\nThanks for getting in touch. I've checked your account and ",
    .text "every invoice on it is paid, with nothing outstanding.\n\n",
    .text "If something still looks wrong, reply to this message and we'll ",
    .text "take another look.\n\nBest regards,\nSupport\n"]

def billingFailed : List Segment :=
  [.text "Hi ", .field "name",
    .text ",\n\nThanks for getting in touch. Invoice ", .field "invoice_id",
    .text " for ", .field "amount", .text " ", .field "currency",
    .text " has a failed payment, so that amount is still outstanding.\n\n",
    .text "You can retry it from the billing section of the app. If it ",
    .text "keeps failing, reply here and we'll help sort it out.\n\n",
    .text "Best regards,\nSupport\n"]

def billingPending : List Segment :=
  [.text "Hi ", .field "name",
    .text ",\n\nThanks for getting in touch. Invoice ", .field "invoice_id",
    .text " for ", .field "amount", .text " ", .field "currency",
    .text " is still pending and has not been collected yet.\n\n",
    .text "Pending invoices are normally settled automatically within 3 ",
    .text "business days. If it is still pending after that, reply here ",
    .text "and we'll take a look.\n\nBest regards,\nSupport\n"]

def sessionCompleted : List Segment :=
  [.text "Hi ", .field "name",
    .text ",\n\nThanks for getting in touch. Your most recent charging ",
    .text "session at ",
    .field "station", .text " completed normally: it delivered ",
    .field "kwh", .text " kWh, charged at ", .field "cost",
    .text ".\n\nIf your app shows something different, reply here with ",
    .text "the details and we'll investigate.\n\nBest regards,\nSupport\n"]

def sessionInterrupted : List Segment :=
  [.text "Hi ", .field "name",
    .text ",\n\nThanks for getting in touch. Your most recent charging ",
    .text "session at ",
    .field "station", .text " ended early with a status of ",
    .field "status", .text ", after delivering ", .field "kwh",
    .text " kWh.\n\nYou were charged ", .field "cost",
    .text " for the energy actually delivered. If that does not look ",
    .text "right, reply here and we'll review the session and correct any ",
    .text "overcharge.\n\nBest regards,\nSupport\n"]

/-- The template of a `ReplyTemplate`, for rendering and for checking. -/
def specFor (py : PyText) : ReplyTemplate → Template
  | .billingAllPaid =>
      { name := .billingAllPaid
        body := billingAllPaid
        context := nameOnly py
        templateSafeLiterals := [] }
  | .billingFailed =>
      { name := .billingFailed
        body := billingFailed
        context := failedInvoice py
        templateSafeLiterals := [] }
  | .billingPending =>
      { name := .billingPending
        body := billingPending
        context := pendingInvoice py
        templateSafeLiterals := ["3"] }
  | .sessionCompleted =>
      { name := .sessionCompleted
        body := sessionCompleted
        context := latestSession py
        templateSafeLiterals := [] }
  | .sessionInterrupted =>
      { name := .sessionInterrupted
        body := sessionInterrupted
        context := latestSession py
        templateSafeLiterals := [] }

end SupportAssistant.Llm.Templates
