import SupportAssistant.Llm.Ollama
import SupportAssistant.Numeric.DecimalText
import SupportAssistant.Runtime.Dumps
import SupportAssistant.Text.Listings
import SupportAssistant.Tools.Ownership

/-!
# What a prompt tells the model

The prompt for a decision lists the results of the tools behind the words of
the customer.  It is a listing, so the results are read back from its end,
and every record passes the validation that it had passed when it was loaded.
-/

namespace SupportAssistant.Llm.Prompts

open SupportAssistant.Numeric.DecimalFloat
open SupportAssistant.Enums
open SupportAssistant.Runtime
open SupportAssistant.Runtime.Dumps
open SupportAssistant.Text.JsonText
open SupportAssistant.Text.Listings
open SupportAssistant.Domain
open SupportAssistant.Llm.Ollama
open SupportAssistant.Tools.Loaders
open SupportAssistant.Tools.Registry
open SupportAssistant.Tools.Ownership

/-! ## The dumped records -/

section

variable (datetimeText : DateTime → String)

def decimalText (number : Finite) : String :=
  String.ofList number.text

def dumpUser (user : User) : Row :=
  [("user_id", .string user.userId), ("name", .string user.name),
    ("language", .string user.language), ("plan", .string user.plan)]

def dumpSession (session : ChargingSession) : Row :=
  [("session_id", .string session.sessionId),
    ("station", .string session.station),
    ("kwh", .string (decimalText session.kwh)),
    ("cost", .string (decimalText session.cost)),
    ("status", .string session.status.value),
    ("started_at", .string (datetimeText session.startedAt))]

def dumpInvoice (invoice : Invoice) : Row :=
  [("invoice_id", .string invoice.invoiceId),
    ("amount", .string (decimalText invoice.amount)),
    ("currency", .string invoice.currency),
    ("status", .string invoice.status.value),
    ("issued_at", .string (datetimeText invoice.issuedAt))]

/-- `record.model_dump(mode="json")`. -/
def dumpRecord : Record → Row
  | .user user => dumpUser user
  | .session session => dumpSession datetimeText session
  | .invoice invoice => dumpInvoice datetimeText invoice

def dumpRecords (records : List Record) : Json :=
  .list (records.map fun record => .object (dumpRecord datetimeText record))

/-- The libraries, with `json.dumps` of the dumped records. -/
def dumping (libraries : Libraries) : Libraries where
  __ := libraries
  dumps records := dumps (dumpRecords datetimeText records)

theorem properJson_dumpRecords (records : List Record) :
    ProperJson (dumpRecords datetimeText records) := by
  rw [dumpRecords, properJson_list, List.forall_mem_map]
  intro record _
  rw [properJson_object]
  cases record <;>
    simp [dumpRecord, dumpUser, dumpSession, dumpInvoice]

end

/-! ## Reading a prompt -/

section

variable (pydantic : Pydantic)

/-- Validation of a record as what the tool returns. -/
def readRecord (tool : String) : Json → Option Record
  | .object row =>
      if tool = "get_user" then
        (validateUser row).toOption.map .user
      else if tool = "get_charging_sessions" then
        (validateSession pydantic row).toOption.map .session
      else if tool = "get_invoices" then
        (validateInvoice pydantic row).toOption.map .invoice
      else none
  | _ => none

def readResult (entry : List Char × Doc) : Option (String × List Record) :=
  let tool := String.ofList entry.1
  match jsonOf entry.2 with
  | .list items => (items.mapM (readRecord pydantic tool)).map (tool, ·)
  | _ => none

/-- What stands in front of the tool results, and the results. -/
def readPrompt (prompt : String) :
    Option (String × List (String × List Record)) := do
  let (opening, entries) ← readListing 2 prompt.toList
  let results ← entries.mapM (readResult pydantic)
  some (String.ofList opening, results)

end

/-! ## A record is validated once more -/

/--
The validation library reads the text of a decimal as the standard library
does, and the text of a timestamp that it has read as that timestamp.
-/
structure ReadsTexts (alphabet : Alphabet) (datetimeText : DateTime → String)
    (pydantic : Pydantic) : Prop where
  decimal : ∀ text number,
    inRange number.coefficient number.exponent = true →
      ofText alphabet text.toList = some (.finite number) →
        pydantic.decimal (.string text) = some number
  bounded : ∀ value number, pydantic.decimal value = some number →
    inRange number.coefficient number.exponent = true
  datetime : ∀ value time, pydantic.datetime value = some time →
    pydantic.datetime (.string (datetimeText time)) = some time

section

variable {alphabet : Alphabet} {datetimeText : DateTime → String}
variable {pydantic : Pydantic}

theorem ReadsTexts.decimalText
    (reads : ReadsTexts alphabet datetimeText pydantic)
    {value : Json} {number : Finite}
    (loaded : pydantic.decimal value = some number) :
    pydantic.decimal (.string (decimalText number)) = some number := by
  have bounded := reads.bounded value number loaded
  apply reads.decimal _ _ bounded
  rw [Prompts.decimalText, String.toList_ofList,
    Finite.ofText_text alphabet bounded]

theorem validateUser_dumpUser (user : User) :
    validateUser (dumpUser user) = .ok user := by
  simp [validateUser, dumpUser, stringField, Json.get?, failures]

theorem validateSession_dumpSession
    (reads : ReadsTexts alphabet datetimeText pydantic)
    {row : Row} {session : ChargingSession}
    (valid : validateSession pydantic row = .ok session) :
    validateSession pydantic (dumpSession datetimeText session) =
      .ok session := by
  simp only [validateSession] at valid
  split at valid
  · rename_i isKwh isCost _ isStart _
    cases valid
    rcases Option.bind_eq_some_iff.mp isKwh with ⟨_, -, kwh⟩
    rcases Option.bind_eq_some_iff.mp isCost with ⟨_, -, cost⟩
    rcases Option.bind_eq_some_iff.mp isStart with ⟨_, -, start⟩
    simp [validateSession, dumpSession, stringField, Json.get?, failures,
      reads.decimalText kwh, reads.decimalText cost,
      reads.datetime _ _ start]
  · cases valid

theorem validateInvoice_dumpInvoice
    (reads : ReadsTexts alphabet datetimeText pydantic)
    {row : Row} {invoice : Invoice}
    (valid : validateInvoice pydantic row = .ok invoice) :
    validateInvoice pydantic (dumpInvoice datetimeText invoice) =
      .ok invoice := by
  simp only [validateInvoice] at valid
  split at valid
  · rename_i isAmount _ _ isIssued _
    cases valid
    rcases Option.bind_eq_some_iff.mp isAmount with ⟨_, -, amount⟩
    rcases Option.bind_eq_some_iff.mp isIssued with ⟨_, -, issued⟩
    simp [validateInvoice, dumpInvoice, stringField, Json.get?, failures,
      reads.decimalText amount, reads.datetime _ _ issued]
  · cases valid

/-- What a registered tool returned is read back from its dump. -/
theorem readRecord_dumpRecord
    (reads : ReadsTexts alphabet datetimeText pydantic)
    {py : PyText} {fixtures : Fixtures} {userId tool : String}
    {records : List Record}
    (dispatched : @Dispatched py pydantic fixtures userId tool records) :
    ∀ record ∈ records,
      readRecord pydantic tool (.object (dumpRecord datetimeText record)) =
        some record := by
  intro record member
  cases dispatched with
  | user owned =>
      cases List.mem_singleton.mp member
      show (validateUser (dumpUser _)).toOption.map Record.user = _
      rw [validateUser_dumpUser]
      rfl
  | sessions _ owned =>
      rcases List.mem_map.mp member with ⟨session, isSession, rfl⟩
      cases owned session isSession with
      | session held valid =>
          show (validateSession pydantic
            (dumpSession datetimeText session)).toOption.map
              Record.session = _
          rw [validateSession_dumpSession reads valid]
          rfl
  | invoices _ owned =>
      rcases List.mem_map.mp member with ⟨invoice, isInvoice, rfl⟩
      cases owned invoice isInvoice with
      | invoice held valid =>
          show (validateInvoice pydantic
            (dumpInvoice datetimeText invoice)).toOption.map
              Record.invoice = _
          rw [validateInvoice_dumpInvoice reads valid]
          rfl

end

/-! ## A prompt is read back -/

/-- The result of a tool, as the model is shown it. -/
def shown (observation : Observation) : String × List Record :=
  (observation.step.tool, observation.result.records)

/-- The customer's part of a prompt. -/
def opening (ticket : Ticket) : String :=
  "User id: " ++ ticket.userId ++ "\n\n" ++ ticketText ticket ++ "\n"

def heading (history : List Observation) : String :=
  if history.isEmpty then "No tools have run yet."
  else "Tool results so far:"

def entryOf (datetimeText : DateTime → String) (observation : Observation) :
    List Char × Doc :=
  (observation.step.tool.toList,
    docOf (dumpRecords datetimeText observation.result.records))

/-- The observation is of a registered tool that returned. -/
def FromRegistry (py : PyText) (pydantic : Pydantic)
    (observation : Observation) : Prop :=
  ∃ fixtures userId,
    @Dispatched py pydantic fixtures userId observation.step.tool
      observation.result.records

section

variable {py : PyText} {datetimeText : DateTime → String}
variable {pydantic : Pydantic} {observation : Observation}

theorem toList_dashed (observation : Observation) :
    ("- " ++ observation.step.tool ++ ": " ++
        dumps (dumpRecords datetimeText
          observation.result.records)).toList =
      item (entryOf datetimeText observation) := by
  simp [dumps, item, entryOf]

theorem decidePrompt_eq_listing
    (libraries : Libraries) (ticket : Ticket) (history : List Observation) :
    (decidePrompt (dumping datetimeText libraries) ticket history).toList =
      listing (opening ticket).toList (heading history).toList
        (history.map (entryOf datetimeText))
        [[], "Reply with the next JSON decision.".toList] := by
  have lines : ∀ results : List String,
      results.map String.toList =
          (heading history).toList ::
            (history.map (entryOf datetimeText)).map item →
        (join "\n"
            (["User id: " ++ ticket.userId, "", ticketText ticket, ""] ++
              results ++
              ["", "Reply with the next JSON decision."])).toList =
          listing (opening ticket).toList (heading history).toList
            (history.map (entryOf datetimeText))
            [[], "Reply with the next JSON decision.".toList] := by
    intro results same
    rw [join, String.toList_intercalate, List.map_append, List.map_append,
      same]
    simp [listing, opening]
  apply lines
  cases history with
  | nil => rfl
  | cons observation history =>
      have dashed := @toList_dashed datetimeText
      simp [heading, dumping, List.map_map, dashed]

theorem listed_entryOf
    (fromRegistry : FromRegistry py pydantic observation) :
    Listed (entryOf datetimeText observation) := by
  rcases fromRegistry with ⟨fixtures, userId, dispatched⟩
  have named : '\n' ∉ observation.step.tool.toList ∧
      ':' ∉ observation.step.tool.toList := by
    generalize observation.step.tool = tool at dispatched
    generalize observation.result.records = records at dispatched
    cases dispatched <;> decide
  exact ⟨named.1, named.2, properJson_dumpRecords datetimeText _⟩

theorem readResult_entryOf
    (reads : ReadsTexts py.toAlphabet datetimeText pydantic)
    (fromRegistry : FromRegistry py pydantic observation) :
    readResult pydantic (entryOf datetimeText observation) =
      some (shown observation) := by
  rcases fromRegistry with ⟨fixtures, userId, dispatched⟩
  have each := readRecord_dumpRecord reads dispatched
  have items :
      (observation.result.records.map fun record =>
          Json.object (dumpRecord datetimeText record)).mapM
        (readRecord pydantic observation.step.tool) =
          some observation.result.records := by
    conv_rhs => rw [← List.map_id observation.result.records]
    exact mapM_map_eq_some each
  simp only [readResult, entryOf, String.ofList_toList, jsonOf_docOf,
    dumpRecords]
  rw [items]
  rfl

/--
From the prompt alone, whatever the customer wrote, the results of the tools
are read back in their order, and in front of them the customer's words.
-/
theorem readPrompt_decidePrompt
    (reads : ReadsTexts py.toAlphabet datetimeText pydantic)
    (libraries : Libraries) (ticket : Ticket) {history : List Observation}
    (fromRegistry :
      ∀ observation ∈ history, FromRegistry py pydantic observation) :
    readPrompt pydantic
        (decidePrompt (dumping datetimeText libraries) ticket history) =
      some (opening ticket, history.map shown) := by
  have isHeading : isItem (heading history).toList = false ∧
      '\n' ∉ (heading history).toList := by
    rw [heading]
    split <;> decide
  have results :
      (history.map (entryOf datetimeText)).mapM (readResult pydantic) =
        some (history.map shown) :=
    mapM_map_eq_some fun observation member =>
      readResult_entryOf reads (fromRegistry observation member)
  have read := readListing_listing (opening ticket).toList isHeading.1
    isHeading.2
    (List.forall_mem_map.mpr fun observation member =>
      @listed_entryOf py datetimeText pydantic observation
        (fromRegistry observation member))
    (by decide :
      ∀ line ∈ [[], "Reply with the next JSON decision.".toList],
        '\n' ∉ line)
  simp only [readPrompt, decidePrompt_eq_listing]
  rw [show (2 : Nat) =
    [[], "Reply with the next JSON decision.".toList].length from rfl, read]
  simp only [Option.bind_eq_bind, Option.bind_some, results,
    String.ofList_toList]

end

end SupportAssistant.Llm.Prompts
