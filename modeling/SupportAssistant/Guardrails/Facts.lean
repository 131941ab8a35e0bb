import Mathlib.Data.List.Induction
import SupportAssistant.Domain

/-!
# The fact set

Tool results projected into the facts a reply may be built from.  The
projection keeps names, identifiers, amounts, currencies, statuses and counts,
and drops dates, plan and language.

Python sets are lists here; nothing below depends on their order or on
repetitions.
-/

namespace SupportAssistant.Guardrails.Facts

open SupportAssistant.Numeric.DecimalFloat
open SupportAssistant.Enums
open SupportAssistant.Domain

/-- One invoice, reduced to the fields a reply may cite. -/
structure InvoiceFact where
  invoiceId : String
  amount : Finite
  currency : String
  status : InvoiceStatus
deriving DecidableEq, Repr

/-- One charging session, reduced to the fields a reply may cite. -/
structure SessionFact where
  sessionId : String
  station : String
  kwh : Finite
  cost : Finite
  status : SessionStatus
deriving DecidableEq, Repr

/-- The complete set of facts a reply may be built from. -/
structure FactSet where
  userName : Option String
  userId : Option String
  invoices : List InvoiceFact
  sessions : List SessionFact
deriving DecidableEq, Repr

def FactSet.empty : FactSet :=
  { userName := none, userId := none, invoices := [], sessions := [] }

def invoiceFact (invoice : Invoice) : InvoiceFact :=
  { invoiceId := invoice.invoiceId
    amount := invoice.amount
    currency := invoice.currency
    status := invoice.status }

def sessionFact (session : ChargingSession) : SessionFact :=
  { sessionId := session.sessionId
    station := session.station
    kwh := session.kwh
    cost := session.cost
    status := session.status }

/-- The facts after one more record. -/
def FactSet.project (facts : FactSet) : Record → FactSet
  | .user user =>
      { facts with userName := some user.name, userId := some user.userId }
  | .invoice invoice =>
      { facts with invoices := facts.invoices ++ [invoiceFact invoice] }
  | .session session =>
      { facts with sessions := facts.sessions ++ [sessionFact session] }

/-- Project every tool result of the history, in order. -/
def FactSet.fromObservations (history : List Observation) : FactSet :=
  (history.flatMap fun observation => observation.result.records).foldl
    FactSet.project FactSet.empty

/-- `Decimal(n)`. -/
def decimalOfNat (count : Nat) : Finite :=
  { negative := false, coefficient := count, exponent := 0 }

theorem value_decimalOfNat (count : Nat) :
    (decimalOfNat count).value = count := by
  simp [decimalOfNat, Finite.value, Finite.signed]

/-- Numeric facts, row counts included. -/
def FactSet.allowedNumbers (facts : FactSet) : List Finite :=
  facts.invoices.map InvoiceFact.amount ++
    facts.sessions.flatMap (fun session => [session.kwh, session.cost]) ++
    (if facts.invoices.isEmpty then []
      else [decimalOfNat facts.invoices.length]) ++
    (if facts.sessions.isEmpty then []
      else [decimalOfNat facts.sessions.length])

/-- The user id and every invoice and session id. -/
def FactSet.allowedIdentifiers (facts : FactSet) : List String :=
  facts.invoices.map InvoiceFact.invoiceId ++
    facts.sessions.map SessionFact.sessionId ++
    facts.userId.toList.filter (· != "")

/-- The open-vocabulary strings that are facts: stations and the name. -/
def FactSet.allowedEntities (facts : FactSet) : List String :=
  facts.sessions.map SessionFact.station ++
    facts.userName.toList.filter (· != "")

/-- The status words present. -/
def FactSet.allowedStatuses (facts : FactSet) : List String :=
  facts.invoices.map (fun invoice => invoice.status.value) ++
    facts.sessions.map (fun session => session.status.value)

/-! ## The projection in closed form -/

private theorem foldl_project
    (facts : FactSet) (records : List Record) :
    (records.foldl FactSet.project facts).invoices =
        facts.invoices ++
          (records.filterMap Record.invoice?).map invoiceFact ∧
      (records.foldl FactSet.project facts).sessions =
        facts.sessions ++
          (records.filterMap Record.session?).map sessionFact := by
  induction records generalizing facts with
  | nil => simp
  | cons record records induction =>
      have step := induction (facts.project record)
      rw [List.foldl_cons]
      cases record <;>
        simpa [FactSet.project, List.filterMap_cons, Record.invoice?,
          Record.session?] using step

/-- The invoices of the fact set are those of the history, in order. -/
theorem FactSet.invoices_fromObservations (history : List Observation) :
    (FactSet.fromObservations history).invoices =
      ((history.flatMap (·.result.records)).filterMap
        Record.invoice?).map invoiceFact :=
  (foldl_project FactSet.empty _).1

/-- The sessions of the fact set are those of the history, in order. -/
theorem FactSet.sessions_fromObservations (history : List Observation) :
    (FactSet.fromObservations history).sessions =
      ((history.flatMap (·.result.records)).filterMap
        Record.session?).map sessionFact :=
  (foldl_project FactSet.empty _).2

/-! ## What is allowed, record by record -/

/-- Every record of the history, in order. -/
def recordsOf (history : List Observation) : List Record :=
  history.flatMap fun observation => observation.result.records

/-- The ids of the invoices and sessions. -/
def recordIds (records : List Record) : List String :=
  (records.filterMap Record.invoice?).map Invoice.invoiceId ++
    (records.filterMap Record.session?).map ChargingSession.sessionId

def stations (records : List Record) : List String :=
  (records.filterMap Record.session?).map ChargingSession.station

def statuses (records : List Record) : List String :=
  (records.filterMap Record.invoice?).map (·.status.value) ++
    (records.filterMap Record.session?).map (·.status.value)

/-- The user of the facts is the last one returned. -/
def lastUser (records : List Record) : Option User :=
  (records.filterMap Record.user?).getLast?

/-- The text is there and not empty. -/
def Stated (text : Option String) (word : String) : Prop :=
  text = some word ∧ word ≠ ""

section

variable (history : List Observation)

/-- The user of the facts after more records. -/
theorem user_foldl_project (facts : FactSet) (records : List Record) :
    (records.foldl FactSet.project facts).userName =
        ((lastUser records).map User.name).or facts.userName ∧
      (records.foldl FactSet.project facts).userId =
        ((lastUser records).map User.userId).or facts.userId := by
  induction records using List.reverseRecOn with
  | nil => simp [lastUser]
  | append_singleton records record induction =>
      rw [List.foldl_append, lastUser, List.filterMap_append,
        List.foldl_cons, List.foldl_nil]
      cases record <;>
        simp [FactSet.project, Record.user?, induction, lastUser]

theorem mem_allowedIdentifiers (identifier : String) :
    identifier ∈ (FactSet.fromObservations history).allowedIdentifiers ↔
      identifier ∈ recordIds (recordsOf history) ∨
        Stated ((lastUser (recordsOf history)).map User.userId)
          identifier := by
  have userId :
      (FactSet.fromObservations history).userId =
        (lastUser (recordsOf history)).map User.userId :=
    (user_foldl_project FactSet.empty _).2.trans (Option.or_none)
  rw [FactSet.allowedIdentifiers, userId,
    FactSet.invoices_fromObservations, FactSet.sessions_fromObservations]
  simp [recordIds, recordsOf, Stated, invoiceFact, sessionFact, or_assoc]

theorem mem_allowedEntities (entity : String) :
    entity ∈ (FactSet.fromObservations history).allowedEntities ↔
      entity ∈ stations (recordsOf history) ∨
        Stated ((lastUser (recordsOf history)).map User.name) entity := by
  have userName :
      (FactSet.fromObservations history).userName =
        (lastUser (recordsOf history)).map User.name :=
    (user_foldl_project FactSet.empty _).1.trans (Option.or_none)
  rw [FactSet.allowedEntities, userName, FactSet.sessions_fromObservations]
  simp [stations, recordsOf, Stated, sessionFact]

theorem mem_allowedStatuses (status : String) :
    status ∈ (FactSet.fromObservations history).allowedStatuses ↔
      status ∈ statuses (recordsOf history) := by
  rw [FactSet.allowedStatuses, FactSet.invoices_fromObservations,
    FactSet.sessions_fromObservations]
  simp [statuses, recordsOf, invoiceFact, sessionFact]

end

end SupportAssistant.Guardrails.Facts
