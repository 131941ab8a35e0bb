import SupportAssistant.Pipeline.FakeRun
import SupportAssistant.Tools.Rows

/-!
# The decision table of the default wiring

What a run of the deterministic model over the registry comes to, as a
function of the intent and the rows that the three files hold for the owner.
The table is stated on the rows; the run reaches it through the classifier,
the tools, the projection into facts and the selection of the template.
-/

namespace SupportAssistant.Pipeline.DecisionTable

open SupportAssistant.Effects.Mapping
open SupportAssistant.Effects.Outcomes
open SupportAssistant.Ordering.Latest
open SupportAssistant.Enums
open SupportAssistant.Runtime
open SupportAssistant.Runtime.Ascii
open SupportAssistant.Tracing.Models
open SupportAssistant.Tracing.Summarise
open SupportAssistant.Domain
open SupportAssistant.Guardrails.Facts
open SupportAssistant.Guardrails.Grounding
open SupportAssistant.Llm.Templates
open SupportAssistant.Llm.Fake
open SupportAssistant.Tools.Loaders
open SupportAssistant.Tools.Registry
open SupportAssistant.Tools.Rows
open SupportAssistant.Storage.Protocol
open SupportAssistant.Storage.Memory
open SupportAssistant.Pipeline.Collaborators
open SupportAssistant.Pipeline.Orchestrator
open SupportAssistant.Pipeline.Accounts
open SupportAssistant.Pipeline.RunSpec
open SupportAssistant.Pipeline.Handover
open SupportAssistant.Pipeline.Scripted
open SupportAssistant.Pipeline.Replies
open SupportAssistant.Pipeline.DefaultWiring
open SupportAssistant.Pipeline.FakeRun

/-! ## The table -/

/-- What a run comes to. -/
inductive Verdict where
  /-- A handoff, after so many tool calls. -/
  | handedOff (reason : HandoffReason) (toolCalls : Nat)
  /-- A template for the user, with these fields beside the name. -/
  | rendering (user : User) (name : ReplyTemplate) (fields : Context)

def newestInvoice (status : InvoiceStatus) : List Invoice → Option Invoice :=
  latest (fun invoice => invoice.issuedAt.instant)
    (fun invoice => invoice.status == status)

def newestSession : List ChargingSession → Option ChargingSession :=
  latest (fun session => session.startedAt.instant) (fun _ => true)

def invoiceFields (invoice : Invoice) : Context :=
  [("invoice_id", invoice.invoiceId),
    ("amount", formatAmount invoice.amount), ("currency", invoice.currency)]

def sessionFields (session : ChargingSession) : Context :=
  [("station", session.station), ("status", session.status.value),
    ("kwh", formatAmount session.kwh), ("cost", formatAmount session.cost)]

def billingVerdict (user : User) (invoices : List Invoice) : Verdict :=
  match newestInvoice .failed invoices with
  | some invoice => .rendering user .billingFailed (invoiceFields invoice)
  | none =>
      match newestInvoice .pending invoices with
      | some invoice =>
          .rendering user .billingPending (invoiceFields invoice)
      | none => .rendering user .billingAllPaid []

def chargingVerdict (user : User) (sessions : List ChargingSession) :
    Verdict :=
  match newestSession sessions with
  | some session =>
      .rendering user (sessionTemplate session) (sessionFields session)
  | none => .handedOff .dataNotFound 2

/-- The part of the table that an intent's own file decides. -/
def collectionVerdict {R : Type} (validate : Row → Except (List String) R)
    (userId : String) (rows : List Row) (judge : List R → Verdict) :
    Verdict :=
  match ownRows userId rows with
  | [] => .handedOff .dataNotFound 2
  | own =>
      match own.mapM fun row => validate (withoutOwner row) with
      | .error _ => .handedOff .toolError 2
      | .ok records => judge records

/-- The table, in the order in which its rows take precedence. -/
def tableVerdict (pydantic : Pydantic) (tables : Tables) (intent : Intent)
    (userId : String) : Verdict :=
  if intent = .unknown then .handedOff .unsupportedIntent 0
  else
    match ownRows userId tables.users with
    | [] => .handedOff .userNotFound 1
    | row :: _ =>
        match validateUser row with
        | .error _ => .handedOff .toolError 1
        | .ok user =>
            if intent = .billingQuestion then
              collectionVerdict (validateInvoice pydantic) userId
                tables.invoices (billingVerdict user)
            else
              collectionVerdict (validateSession pydantic) userId
                tables.sessions (chargingVerdict user)

/-! ## What it says of a run -/

def Payload.isToolCall : Payload → Bool
  | .toolCall _ _ => true
  | _ => false

def toolCalls (payloads : List Payload) : Nat :=
  payloads.countP Payload.isToolCall

def Payload.llmDecision? :
    Payload → Option (Int × Decision × Option String)
  | .llmDecision iteration decision tool => some (iteration, decision, tool)
  | _ => none

def llmDecisions (payloads : List Payload) :
    List (Int × Decision × Option String) :=
  payloads.filterMap Payload.llmDecision?

/-- The fields of a rendering, or the refusal to address no one. -/
def namedContext (py : PyText) (user : User) (fields : Context) :
    Except Exc Context :=
  if user.name = "" then
    .error (valueError py
      "a reply template needs the user's name, but the FactSet has none")
  else .ok (("name", user.name) :: fields)

/-- The run asked for user and data, and then for this rendering. -/
structure Rendering (py : PyText) (intent : Intent) (call : FinaliseCall)
    (events : List Event) (user : User) (name : ReplyTemplate)
    (fields : Context) : Prop where
  decisions : llmDecisions (call.trace.map TraceStep.payload) =
    [(1, .toolCall, some userTool), (2, .toolCall, some (dataTool intent)),
      (3, .reply, none)]
  resolved : resolutions events = [(name, .ok (specFor py name))]
  selected :
    (specFor py name).context (factsOf events) = namedContext py user fields
  replies : ∀ reply, call.reply = some reply →
    format py (specFor py name).body (("name", user.name) :: fields) =
      .ok reply

/-- The run came to what the table says. -/
def Follows (py : PyText) (intent : Intent) (call : FinaliseCall)
    (events : List Event) : Verdict → Prop
  | .handedOff reason count =>
      call.status = .handedOff ∧ call.handoffReason = some reason ∧
        toolCalls (call.trace.map TraceStep.payload) = count
  | .rendering user name fields =>
      Rendering py intent call events user name fields

/-! ## The answers of the wiring -/

section

variable {wiring : Wiring} {ticket : Ticket} {history : List Observation}

theorem decided_eq
    (faked : Faked wiring) {result : Except Exc Step}
    (decided : Decided wiring ticket history result) :
    result = decideNextStep wiring.py ticket history := by
  rcases decided with ⟨events, decided⟩
  rw [faked, fakeLlm_decideNextStep] at decided
  exact decided.symm

theorem run_callFor
    {py : PyText} {pydantic : Pydantic} {fixtures : Fixtures}
    {tool userId : String} (isRegistered : registered.contains tool = true)
    (valid : userIdValid userId = true) :
    run py pydantic fixtures tool (callFor tool userId).args =
      (dispatch py pydantic fixtures tool userId).map fun records =>
        { tool, records } := by
  simp only [run, isRegistered, if_true, validateUserIdArgs_callFor valid]
  cases dispatch py pydantic fixtures tool userId <;> rfl

/-- Over fixed files, a call of the model is answered in one way. -/
theorem answered_callFor
    {fixtures : Fixtures}
    (registry : OverRegistry (fun _ => fixtures) wiring)
    {tool : String} (isRegistered : registered.contains tool = true)
    {result : Except Exc ToolResult}
    (answered : ToolAnswered wiring (callFor tool ticket.userId) result) :
    result =
      (dispatch wiring.py wiring.pydantic fixtures tool ticket.userId).map
        fun records => { tool, records } := by
  rcases answered with ⟨events, answered⟩
  rw [registry] at answered
  exact answered.symm.trans (run_callFor isRegistered ticket.userIdOk)

/-! ## The loop, when its answers are known -/

variable {left : Nat} {rounds : List Round} {ending : Ending}

theorem looped_raised
    {call : ToolCall} {exc : Exc} {message : String}
    (decides : ∀ result, Decided wiring ticket history result →
      result = .ok (.toolCall call))
    (raises : ∀ result, ToolAnswered wiring call result →
      result = .error exc)
    (printed : exc.str = .ok message)
    (looped :
      Looped wiring ticket history (left + 1) rounds ending) :
    rounds = [] ∧ ending = .toolRaised call (.error exc) exc message := by
  have own : ∀ {other : Exc},
      ToolFailed wiring.py (.error exc) other → other = exc := by
    rintro other (same | ⟨returned, impossible, -⟩)
    · exact (Except.error.inj same).symm
    · simp at impossible
  cases looped with
  | modelRaised decided => simpa using decides _ decided
  | gaveUp decided => simpa using decides _ decided
  | toolRaised decided answered failed printed' =>
      cases decides _ decided
      cases raises _ answered
      cases own failed
      rw [printed, Except.ok.injEq] at printed'
      rw [printed']
      exact ⟨rfl, rfl⟩
  | toolUnprintable decided answered failed unprinted =>
      cases decides _ decided
      cases raises _ answered
      cases own failed
      simp [printed] at unprinted
  | resolveRaised decided => simpa using decides _ decided
  | renderRaised decided => simpa using decides _ decided
  | verifyRaised decided => simpa using decides _ decided
  | checked decided => simpa using decides _ decided
  | round decided answered =>
      cases decides _ decided
      simpa using raises _ answered

theorem looped_answered
    {call : ToolCall} {answer : ToolResult} {summary : Dict}
    (decides : ∀ result, Decided wiring ticket history result →
      result = .ok (.toolCall call))
    (answers : ∀ result, ToolAnswered wiring call result →
      result = .ok answer)
    (summarised : summarise wiring.py answer = .ok summary)
    (looped :
      Looped wiring ticket history (left + 1) rounds ending) :
    ∃ later, rounds = ⟨call, answer, summary⟩ :: later ∧
      Looped wiring ticket (history ++ [⟨call, answer⟩]) left later
        ending := by
  have answered_summarised : ∀ {exc : Exc},
      ¬ ToolFailed wiring.py (.ok answer) exc := by
    rintro exc (impossible | ⟨returned, same, unsummarised⟩)
    · simp at impossible
    · cases same
      simp [summarised] at unsummarised
  cases looped with
  | modelRaised decided => simpa using decides _ decided
  | gaveUp decided => simpa using decides _ decided
  | toolRaised decided answered failed printed =>
      cases decides _ decided
      cases answers _ answered
      exact absurd failed answered_summarised
  | toolUnprintable decided answered failed unprinted =>
      cases decides _ decided
      cases answers _ answered
      exact absurd failed answered_summarised
  | resolveRaised decided => simpa using decides _ decided
  | renderRaised decided => simpa using decides _ decided
  | verifyRaised decided => simpa using decides _ decided
  | checked decided => simpa using decides _ decided
  | round decided answered summarised' later =>
      cases decides _ decided
      cases answers _ answered
      rw [summarised, Except.ok.injEq] at summarised'
      subst summarised'
      exact ⟨_, rfl, later⟩

/-- Where a loop ends that renders this template. -/
inductive Renders (py : PyText) (facts : FactSet) (name : ReplyTemplate)
    (template : Template) : Ending → Prop where
  | renderRaised {exc} (rendered : template.render py facts = .error exc) :
      Renders py facts name template (.renderRaised name template exc)
  | verifyRaised {reply exc}
      (rendered : template.render py facts = .ok reply)
      (verified : verify py reply facts template.templateSafeLiterals =
        .error exc) :
      Renders py facts name template (.verifyRaised name template exc)
  | checked {reply result}
      (rendered : template.render py facts = .ok reply) :
      Renders py facts name template (.checked name template reply result)

theorem looped_replies
    {name : ReplyTemplate} {template : Template}
    (decides : ∀ result, Decided wiring ticket history result →
      result = .ok (.reply name))
    (resolves : ∀ result, Resolved wiring name result →
      result = .ok template)
    (looped :
      Looped wiring ticket history (left + 1) rounds ending) :
    rounds = [] ∧
      Renders wiring.py (FactSet.fromObservations history) name template
        ending := by
  cases looped with
  | modelRaised decided => simpa using decides _ decided
  | gaveUp decided => simpa using decides _ decided
  | toolRaised decided => simpa using decides _ decided
  | toolUnprintable decided => simpa using decides _ decided
  | round decided => simpa using decides _ decided
  | resolveRaised decided resolved =>
      cases decides _ decided
      simpa using resolves _ resolved
  | renderRaised decided resolved rendered =>
      cases decides _ decided
      cases resolves _ resolved
      exact ⟨rfl, .renderRaised rendered⟩
  | verifyRaised decided resolved rendered verified =>
      cases decides _ decided
      cases resolves _ resolved
      exact ⟨rfl, .verifyRaised rendered verified⟩
  | checked decided resolved rendered verified =>
      cases decides _ decided
      cases resolves _ resolved
      exact ⟨rfl, .checked rendered⟩

end

/-! ## The choices of the model -/

section

variable {py : PyText} {ticket : Ticket}

@[simp]
theorem callFor_tool (tool userId : String) :
    (callFor tool userId).tool = tool := rfl

theorem toolCall_dataTool (intent : Intent) (userId : String) :
    Llm.Fake.toolCall py (dataTool intent) userId =
      .ok (.toolCall (callFor (dataTool intent) userId)) := by
  cases intent <;> rfl

variable (known : (classifyIntent py ticket).intent ≠ .unknown)

include known

theorem decideNextStep_first :
    decideNextStep py ticket [] =
      .ok (.toolCall (callFor userTool ticket.userId)) := by
  simp only [decideNextStep, if_neg known]
  rfl

theorem decideNextStep_second (user : ToolResult) :
    decideNextStep py ticket [⟨callFor userTool ticket.userId, user⟩] =
      .ok (.toolCall
        (callFor (dataTool (classifyIntent py ticket).intent)
          ticket.userId)) := by
  have different := dataTool_ne (classifyIntent py ticket).intent
  rw [← @toolCall_dataTool py, decideNextStep]
  generalize (classifyIntent py ticket).intent = intent at known different ⊢
  simp [known, different]

theorem decideNextStep_third
    (user data : ToolResult) {name : ReplyTemplate}
    (implied :
      templateFor py (classifyIntent py ticket).intent
          (ownHistory py ticket user data) =
        .ok name) :
    decideNextStep py ticket (ownHistory py ticket user data) =
      .ok (.reply name) := by
  rw [decideNextStep, ownHistory] at *
  generalize (classifyIntent py ticket).intent = intent at known implied ⊢
  simp [known, implied, bind, Except.bind]

end

/-! ## The selection of the template and its record -/

section

variable {py : PyText}

theorem nameOf_some
    {facts : FactSet} {user : User} (named : facts.userName = some user.name)
    (fields : Context) :
    (do
      let name ← nameOf py facts
      .ok (("name", name) :: fields)) =
      namedContext py user fields := by
  simp only [nameOf, named, namedContext]
  split <;> rfl

/-- The facts of a user and the invoices of a result. -/
def billingFacts (user : User) (invoices : List Invoice) : FactSet :=
  { userName := some user.name
    userId := some user.userId
    invoices := invoices.map invoiceFact
    sessions := [] }

/-- The facts of a user and the sessions of a result. -/
def chargingFacts (user : User) (sessions : List ChargingSession) :
    FactSet :=
  { userName := some user.name
    userId := some user.userId
    invoices := []
    sessions := sessions.map sessionFact }

/-- Invoices, newest first. -/
def sortedInvoices (invoices : List Invoice) : List Invoice :=
  latestFirst (fun invoice => invoice.issuedAt.instant) invoices

/-- Sessions, newest first. -/
def sortedSessions (sessions : List ChargingSession) :
    List ChargingSession :=
  latestFirst (fun session => session.startedAt.instant) sessions

theorem any_eq_isSome_find? {α : Type} (passes : α → Bool) (items : List α) :
    items.any passes = (items.find? passes).isSome := by
  rw [Bool.eq_iff_iff, List.find?_isSome, List.any_eq_true]

theorem any_sortedInvoices (status : InvoiceStatus) (invoices : List Invoice) :
    (sortedInvoices invoices).any (·.status == status) =
      (newestInvoice status invoices).isSome := by
  rw [any_eq_isSome_find?, sortedInvoices, find?_latestFirst]
  rfl

/-- The template cites the newest invoice of its status. -/
theorem invoiceWith_newest
    {status : InvoiceStatus} {invoices : List Invoice} {invoice : Invoice}
    (user : User)
    (newest : newestInvoice status invoices = some invoice) :
    invoiceWith py status (billingFacts user (sortedInvoices invoices)) =
      namedContext py user (invoiceFields invoice) := by
  have found :
      ((sortedInvoices invoices).map invoiceFact).find?
          (·.status = status) =
        some (invoiceFact invoice) := by
    rw [newestInvoice, ← find?_latestFirst] at newest
    rw [List.find?_map, sortedInvoices]
    have same : ((fun fact : InvoiceFact => decide (fact.status = status)) ∘
        invoiceFact) = fun invoice => invoice.status == status := by
      funext invoice
      rfl
    rw [same, newest]
    rfl
  simp only [invoiceWith, firstInvoice, billingFacts, found]
  exact nameOf_some rfl (invoiceFields invoice)

theorem billing_rendering (user : User) (invoices : List Invoice) :
    ∃ name fields,
      billingVerdict user invoices = .rendering user name fields ∧
        billingTemplate (sortedInvoices invoices) = name ∧
          (specFor py name).context
              (billingFacts user (sortedInvoices invoices)) =
            namedContext py user fields := by
  rw [billingTemplate, any_sortedInvoices, any_sortedInvoices,
    billingVerdict]
  cases failed : newestInvoice .failed invoices with
  | some invoice =>
      exact ⟨_, _, rfl, rfl, invoiceWith_newest user failed⟩
  | none =>
      cases pending : newestInvoice .pending invoices with
      | some invoice =>
          exact ⟨_, _, rfl, rfl, invoiceWith_newest user pending⟩
      | none => exact ⟨_, _, rfl, rfl, nameOf_some rfl []⟩

theorem charging_rendering
    (user : User) {sessions : List ChargingSession} (some : sessions ≠ []) :
    ∃ latest earlier fields,
      sortedSessions sessions = latest :: earlier ∧
        chargingVerdict user sessions =
            .rendering user (sessionTemplate latest) fields ∧
          (specFor py (sessionTemplate latest)).context
              (chargingFacts user (sortedSessions sessions)) =
            namedContext py user fields := by
  have head := @head?_latestFirst _ _ _
    (fun session : ChargingSession => session.startedAt.instant) sessions
  cases sorted : sortedSessions sessions with
  | nil =>
      have length := List.length_insertionSort
        (fun first second : ChargingSession =>
          second.startedAt.instant ≤ first.startedAt.instant) sessions
      rw [sortedSessions, latestFirst] at sorted
      rw [sorted] at length
      exact absurd (List.eq_nil_of_length_eq_zero length.symm) some
  | cons latest earlier =>
      rw [sortedSessions] at sorted
      rw [sorted] at head
      refine ⟨latest, earlier, sessionFields latest, rfl, ?_, ?_⟩
      · rw [chargingVerdict, newestSession, ← head]
        rfl
      · have context (facts : FactSet) :
            (specFor py (sessionTemplate latest)).context facts =
              latestSession py facts := by
          unfold sessionTemplate
          split <;> rfl
        rw [context]
        exact nameOf_some rfl (sessionFields latest)

end

/-! ## Every account is in the table -/

/-- What `get_user` returned. -/
def userResult (user : User) : ToolResult :=
  { tool := userTool, records := [.user user] }

/-- What the tool of an intent returned. -/
def dataResult (intent : Intent) (records : List Record) : ToolResult :=
  { tool := dataTool intent, records }

theorem summarise_user (py : PyText) (user : User) :
    ∃ summary, summarise py (userResult user) = .ok summary :=
  ⟨_, rfl⟩

/-- A collection of records that all have an identifier has a summary. -/
theorem summariseCollection_ok
    {result : ToolResult} (members : List String)
    {idOf : Record → Except Exc String}
    (identified : ∀ record ∈ result.records, ∃ id, idOf record = .ok id) :
    ∃ summary, summariseCollection result members idOf = .ok summary := by
  have referenced : ∀ record ∈ result.records.filter
      fun record => (recordStatus record).isSome,
      ∃ id, idOf record = .ok id :=
    fun record member => identified record (List.mem_of_mem_filter member)
  rcases mapM_ok_iff.mpr referenced with ⟨ids, areIds⟩
  rw [summariseCollection, areIds]
  exact ⟨_, rfl⟩

theorem summarise_invoices (py : PyText) (invoices : List Invoice) :
    ∃ summary,
      summarise py
          { tool := "get_invoices", records := invoices.map .invoice } =
        .ok summary := by
  apply summariseCollection_ok
  intro record member
  rcases List.mem_map.mp member with ⟨invoice, -, rfl⟩
  exact ⟨_, rfl⟩

theorem summarise_sessions (py : PyText) (sessions : List ChargingSession) :
    ∃ summary,
      summarise py
          { tool := "get_charging_sessions"
            records := sessions.map .session } =
        .ok summary := by
  apply summariseCollection_ok
  intro record member
  rcases List.mem_map.mp member with ⟨session, -, rfl⟩
  exact ⟨_, rfl⟩

/-- The accounts that a row of the table stands for. -/
inductive Matches (py : PyText) (intent : Intent) :
    Verdict → Account → Prop where
  | unsupported (classification : Classification) :
      Matches py intent (.handedOff .unsupportedIntent 0)
        (.unsupported classification)
  | firstFailed (classification : Classification) (call : ToolCall)
      {exc : Exc} {message : String} (printable : exc.Printable) :
      Matches py intent (.handedOff (clauseReason exc.clause) 1)
        (.looped classification []
          (.toolRaised call (.error exc) exc message))
  | secondFailed (classification : Classification) (round : Round)
      (call : ToolCall) {exc : Exc} {message : String}
      (printable : exc.Printable) :
      Matches py intent (.handedOff (clauseReason exc.clause) 2)
        (.looped classification [round]
          (.toolRaised call (.error exc) exc message))
  | rendered (classification : Classification) {first second : Round}
      {ending : Ending} {user : User} {name : ReplyTemplate}
      {fields : Context}
      (asked : first.call.tool = userTool)
      (fetched : second.call.tool = dataTool intent)
      (selected :
        (specFor py name).context
            (FactSet.fromObservations
              [first.observation, second.observation]) =
          namedContext py user fields)
      (renders :
        Renders py
          (FactSet.fromObservations
            [first.observation, second.observation])
          name (specFor py name) ending) :
      Matches py intent (.rendering user name fields)
        (.looped classification [first, second] ending)

section

variable {wiring : Wiring} {ticket : Ticket} {tables : Tables}
variable (faked : Faked wiring)
variable (registry : OverRegistry (fun _ => tables.fixtures) wiring)
variable (known : (classifyIntent wiring.py ticket).intent ≠ .unknown)
variable {left : Nat} {rounds : List Round} {ending : Ending}
variable (classification : Classification)

include faked registry known

theorem matches_firstFailed
    {name message : String} {clause : Clause}
    (failed :
      getUser wiring.py tables.fixtures ticket.userId =
        .error (.plain wiring.py name clause message))
    (looped : Looped wiring ticket [] (left + 1) rounds ending) :
    Matches wiring.py (classifyIntent wiring.py ticket).intent
      (.handedOff (clauseReason clause) 1)
      (.looped classification rounds ending) := by
  have decides : ∀ result, Decided wiring ticket [] result →
      result = .ok (.toolCall (callFor userTool ticket.userId)) :=
    fun result decided =>
      (decided_eq faked decided).trans (decideNextStep_first known)
  have raises : ∀ result,
      ToolAnswered wiring (callFor userTool ticket.userId) result →
        result = .error (.plain wiring.py name clause message) := by
    intro result answered
    rw [answered_callFor registry rfl answered]
    simp only [dispatch, userTool, if_true, failed]
    rfl
  rcases looped_raised decides raises rfl looped with ⟨rfl, rfl⟩
  exact .firstFailed classification _ (printable_plain ..)

variable {user : User}
variable (found :
  getUser wiring.py tables.fixtures ticket.userId = .ok user)

include found

/-- Once the user is known, the first round is over and the second begins. -/
theorem looped_second
    (looped : Looped wiring ticket [] (left + 1) rounds ending) :
    ∃ first later, rounds = first :: later ∧
      first.observation =
          ⟨callFor userTool ticket.userId, userResult user⟩ ∧
        Looped wiring ticket [first.observation] left later ending ∧
          ∀ result, Decided wiring ticket [first.observation] result →
            result = .ok (.toolCall
              (callFor
                (dataTool (classifyIntent wiring.py ticket).intent)
                ticket.userId)) := by
  have decides : ∀ result, Decided wiring ticket [] result →
      result = .ok (.toolCall (callFor userTool ticket.userId)) :=
    fun result decided =>
      (decided_eq faked decided).trans (decideNextStep_first known)
  have answers : ∀ result,
      ToolAnswered wiring (callFor userTool ticket.userId) result →
        result = .ok (userResult user) := by
    intro result answered
    rw [answered_callFor registry rfl answered]
    simp only [dispatch, userTool, if_true, found]
    rfl
  rcases summarise_user wiring.py user with ⟨summary, summarised⟩
  rcases looped_answered decides answers summarised looped with
    ⟨later, rfl, rest⟩
  exact ⟨_, later, rfl, rfl, rest, fun result decided =>
    (decided_eq faked decided).trans (decideNextStep_second known _)⟩

theorem matches_secondFailed
    {name message : String} {clause : Clause}
    (failed :
      dispatch wiring.py wiring.pydantic tables.fixtures
          (dataTool (classifyIntent wiring.py ticket).intent)
          ticket.userId =
        .error (.plain wiring.py name clause message))
    (looped : Looped wiring ticket [] (left + 2) rounds ending) :
    Matches wiring.py (classifyIntent wiring.py ticket).intent
      (.handedOff (clauseReason clause) 2)
      (.looped classification rounds ending) := by
  rcases looped_second faked registry known found looped with
    ⟨first, later, rfl, -, rest, decides⟩
  have isRegistered :
      registered.contains
        (dataTool (classifyIntent wiring.py ticket).intent) = true := by
    cases (classifyIntent wiring.py ticket).intent <;> rfl
  have raises : ∀ result,
      ToolAnswered wiring
          (callFor (dataTool (classifyIntent wiring.py ticket).intent)
            ticket.userId) result →
        result = .error (.plain wiring.py name clause message) := by
    intro result answered
    rw [answered_callFor registry isRegistered answered, failed]
    rfl
  rcases looped_raised decides raises rfl rest with ⟨rfl, rfl⟩
  exact .secondFailed classification first _ (printable_plain ..)

theorem matches_rendered
    (templates : DefaultTemplates wiring.py wiring)
    {records : List Record} {summary : Dict} {name : ReplyTemplate}
    {fields : Context}
    (dispatched :
      dispatch wiring.py wiring.pydantic tables.fixtures
          (dataTool (classifyIntent wiring.py ticket).intent)
          ticket.userId =
        .ok records)
    (summarised :
      summarise wiring.py
          (dataResult (classifyIntent wiring.py ticket).intent records) =
        .ok summary)
    (implied : ∀ user,
      templateFor wiring.py (classifyIntent wiring.py ticket).intent
          (ownHistory wiring.py ticket user
            (dataResult (classifyIntent wiring.py ticket).intent records)) =
        .ok name)
    (selected :
      (specFor wiring.py name).context
          (records.foldl FactSet.project
            { userName := some user.name
              userId := some user.userId
              invoices := []
              sessions := [] }) =
        namedContext wiring.py user fields)
    (looped : Looped wiring ticket [] (left + 3) rounds ending) :
    Matches wiring.py (classifyIntent wiring.py ticket).intent
      (.rendering user name fields)
      (.looped classification rounds ending) := by
  rcases looped_second faked registry known found looped with
    ⟨first, later, rfl, isFirst, rest, decides⟩
  have isRegistered :
      registered.contains
        (dataTool (classifyIntent wiring.py ticket).intent) = true := by
    cases (classifyIntent wiring.py ticket).intent <;> rfl
  have answers : ∀ result,
      ToolAnswered wiring
          (callFor (dataTool (classifyIntent wiring.py ticket).intent)
            ticket.userId) result →
        result =
          .ok
            (dataResult (classifyIntent wiring.py ticket).intent
              records) := by
    intro result answered
    rw [answered_callFor registry isRegistered answered, dispatched]
    rfl
  rcases looped_answered decides answers summarised rest with
    ⟨later, rfl, last⟩
  rw [isFirst] at last
  have replies : ∀ result,
      Decided wiring ticket
          (ownHistory wiring.py ticket (userResult user)
            (dataResult (classifyIntent wiring.py ticket).intent records))
          result →
        result = .ok (.reply name) :=
    fun result decided =>
      (decided_eq faked decided).trans
        (decideNextStep_third known _ _ (implied _))
  have resolves : ∀ result, Resolved wiring name result →
      result = .ok (specFor wiring.py name) := by
    rintro result ⟨events, resolved⟩
    exact resolved.symm.trans (templates.2 events name)
  rcases looped_replies replies resolves last with ⟨rfl, renders⟩
  refine .rendered classification ?_ rfl ?_ ?_
  · exact congrArg (fun observation => observation.step.tool) isFirst
  · rw [isFirst]
    change (specFor wiring.py name).context
      (FactSet.fromObservations
        (ownHistory wiring.py ticket (userResult user)
          (dataResult (classifyIntent wiring.py ticket).intent records))) = _
    rw [fromObservations_ownHistory]
    exact selected
  · rw [isFirst]
    exact renders

/-- The part of the table that the intent's own file decides. -/
theorem matches_collection
    (templates : DefaultTemplates wiring.py wiring)
    {R : Type} {validate : Row → Except (List String) R}
    {filename noun idField : String} {rows : List Row}
    {sortKey : R → DateTime} {wrap : R → Record} {judge : List R → Verdict}
    (dispatched :
      dispatch wiring.py wiring.pydantic tables.fixtures
          (dataTool (classifyIntent wiring.py ticket).intent)
          ticket.userId =
        (collection wiring.py tables.fixtures validate filename
            (fileOf rows) ticket.userId noun idField sortKey).map
          (List.map wrap))
    (summarised : ∀ records : List R, ∃ summary,
      summarise wiring.py
          (dataResult (classifyIntent wiring.py ticket).intent
            (records.map wrap)) =
        .ok summary)
    (comparable : Comparable validate sortKey rows)
    (judged : ∀ records : List R, records ≠ [] → ∃ name fields,
      judge records = .rendering user name fields ∧
        (∀ user,
          templateFor wiring.py (classifyIntent wiring.py ticket).intent
              (ownHistory wiring.py ticket user
                (dataResult (classifyIntent wiring.py ticket).intent
                  ((latestFirst (fun record => (sortKey record).instant)
                    records).map wrap))) =
            .ok name) ∧
          (specFor wiring.py name).context
              (((latestFirst (fun record => (sortKey record).instant)
                  records).map wrap).foldl FactSet.project
                { userName := some user.name
                  userId := some user.userId
                  invoices := []
                  sessions := [] }) =
            namedContext wiring.py user fields)
    (looped : Looped wiring ticket [] (left + 3) rounds ending) :
    Matches wiring.py (classifyIntent wiring.py ticket).intent
      (collectionVerdict validate ticket.userId rows judge)
      (.looped classification rounds ending) := by
  unfold collectionVerdict
  split
  · rename_i none
    rcases collection_none found filename noun idField none with
      ⟨message, isNone⟩
    rw [isNone] at dispatched
    exact matches_secondFailed faked registry known classification found
      dispatched looped
  · rename_i some
    split
    · rename_i failed invalid
      rcases collection_invalid found filename noun idField some invalid with
        ⟨message, isInvalid⟩
      rw [isInvalid] at dispatched
      exact matches_secondFailed faked registry known classification found
        dispatched looped
    · rename_i records valid
      have someRecords : records ≠ [] := by
        intro none
        have length := length_of_mapM valid
        rw [none] at length
        exact some (List.eq_nil_of_length_eq_zero length.symm)
      rw [collection_valid found filename noun idField some valid
        comparable] at dispatched
      rcases judged records someRecords with
        ⟨name, fields, isVerdict, implied, selected⟩
      rcases summarised _ with ⟨summary, isSummary⟩
      rw [isVerdict]
      exact matches_rendered faked registry known classification found
        templates dispatched isSummary implied selected looped

theorem matches_billing
    (templates : DefaultTemplates wiring.py wiring)
    (isBilling : (classifyIntent wiring.py ticket).intent = .billingQuestion)
    (comparable :
      Comparable (validateInvoice wiring.pydantic) Invoice.issuedAt
        tables.invoices)
    (looped : Looped wiring ticket [] (left + 3) rounds ending) :
    Matches wiring.py (classifyIntent wiring.py ticket).intent
      (collectionVerdict (validateInvoice wiring.pydantic) ticket.userId
        tables.invoices (billingVerdict user))
      (.looped classification rounds ending) := by
  have dispatched :
      dispatch wiring.py wiring.pydantic tables.fixtures
          (dataTool (classifyIntent wiring.py ticket).intent)
          ticket.userId =
        (getInvoices wiring.py wiring.pydantic tables.fixtures
            ticket.userId).map (List.map .invoice) := by
    rw [isBilling, dispatch, if_neg (by decide), if_neg (by decide)]
    cases getInvoices wiring.py wiring.pydantic tables.fixtures
      ticket.userId <;> rfl
  apply matches_collection faked registry known classification found
    templates dispatched _ comparable _ looped
  · intro invoices
    rw [isBilling]
    exact summarise_invoices wiring.py invoices
  · intro invoices _
    rcases @billing_rendering wiring.py user invoices with
      ⟨name, fields, isVerdict, isTemplate, selected⟩
    refine ⟨name, fields, isVerdict, ?_, ?_⟩
    · intro asked
      rw [← isTemplate]
      exact templateFor_billing asked isBilling rfl
    · rw [← selected, foldl_invoices]
      rfl

theorem matches_charging
    (templates : DefaultTemplates wiring.py wiring)
    (isCharging :
      (classifyIntent wiring.py ticket).intent ≠ .billingQuestion)
    (comparable :
      Comparable (validateSession wiring.pydantic) ChargingSession.startedAt
        tables.sessions)
    (looped : Looped wiring ticket [] (left + 3) rounds ending) :
    Matches wiring.py (classifyIntent wiring.py ticket).intent
      (collectionVerdict (validateSession wiring.pydantic) ticket.userId
        tables.sessions (chargingVerdict user))
      (.looped classification rounds ending) := by
  have isTool :
      dataTool (classifyIntent wiring.py ticket).intent =
        "get_charging_sessions" := by
    revert isCharging
    cases (classifyIntent wiring.py ticket).intent <;> simp [dataTool]
  have dispatched :
      dispatch wiring.py wiring.pydantic tables.fixtures
          (dataTool (classifyIntent wiring.py ticket).intent)
          ticket.userId =
        (getChargingSessions wiring.py wiring.pydantic tables.fixtures
            ticket.userId).map (List.map .session) := by
    rw [isTool, dispatch, if_neg (by decide), if_pos rfl]
    cases getChargingSessions wiring.py wiring.pydantic tables.fixtures
      ticket.userId <;> rfl
  apply matches_collection faked registry known classification found
    templates dispatched _ comparable _ looped
  · intro sessions
    rw [dataResult, isTool]
    exact summarise_sessions wiring.py sessions
  · intro sessions some
    rcases @charging_rendering wiring.py user _ some with
      ⟨latest, earlier, fields, sorted, isVerdict, selected⟩
    refine ⟨_, fields, isVerdict, ?_, ?_⟩
    · intro asked
      apply templateFor_charging asked isCharging
      · exact congrArg (List.map Record.session) sorted
    · rw [← selected, foldl_sessions]
      rfl

end

section

variable {wiring : Wiring} {ticket : Ticket} {tables : Tables}

/-- What a run can end in is what the table says. -/
theorem account_matches
    (faked : Faked wiring)
    (registry : OverRegistry (fun _ => tables.fixtures) wiring)
    (templates : DefaultTemplates wiring.py wiring)
    (invoicesComparable :
      Comparable (validateInvoice wiring.pydantic) Invoice.issuedAt
        tables.invoices)
    (sessionsComparable :
      Comparable (validateSession wiring.pydantic) ChargingSession.startedAt
        tables.sessions)
    (cap : 3 ≤ wiring.maxIterations)
    {account : Account} (holds : account.Holds wiring ticket) :
    Matches wiring.py (classifyIntent wiring.py ticket).intent
      (tableVerdict wiring.pydantic tables
        (classifyIntent wiring.py ticket).intent ticket.userId)
      account := by
  have asks : ∀ {events : List Event} {result : Except Exc Classification},
      wiring.llm.classifyIntent events ticket = result →
        result = .ok (classifyIntent wiring.py ticket) := by
    intro events result asked
    rw [faked] at asked
    exact asked.symm
  cases holds with
  | classifyRaised asked =>
      rcases asked with ⟨events, asked⟩
      simpa using asks asked
  | unsupported asked unknown =>
      rcases asked with ⟨events, asked⟩
      cases asks asked
      rw [tableVerdict, if_pos unknown]
      exact .unsupported _
  | @looped classification rounds ending asked known ran =>
      rcases asked with ⟨events, asked⟩
      cases asks asked
      rcases Nat.exists_eq_add_of_le (show 3 ≤ wiring.maxIterations.toNat by
        omega) with ⟨left, isLeft⟩
      rw [isLeft, Nat.add_comm 3 left] at ran
      unfold tableVerdict
      rw [if_neg known]
      split
      · rename_i missing
        exact matches_firstFailed faked registry known _
          (getUser_missing missing) ran
      · rename_i row rows found
        split
        · rename_i failed invalid
          rcases getUser_invalid found invalid with ⟨message, isInvalid⟩
          exact matches_firstFailed faked registry known _ isInvalid ran
        · rename_i user valid
          have isUser :
              getUser wiring.py tables.fixtures ticket.userId = .ok user :=
            getUser_valid found valid
          split
          · rename_i isBilling
            exact matches_billing faked registry known _ isUser templates
              isBilling invoicesComparable ran
          · rename_i isCharging
            exact matches_charging faked registry known _ isUser templates
              isCharging sessionsComparable ran

/-! ## Every run follows the table -/

/-- A tool that failed is the reason of a handoff. -/
theorem outcome_of_toolRaised
    (classification : Classification) (rounds : List Round)
    (call : ToolCall) {exc : Exc} (message : String)
    (printable : exc.Printable) (maxIterations : Int) :
    ∃ detail,
      (Account.looped classification rounds
          (.toolRaised call (.error exc) exc message)).outcome
          maxIterations =
        .ok (handedOff (clauseReason exc.clause) detail) := by
  rcases failedClosed_ok printable (some call.tool) with ⟨outcome, closed⟩
  rcases failedClosed_handedOff closed with ⟨detail, rfl⟩
  exact ⟨detail, closed⟩

/-- A rendering ends in an outcome, whose reply is what was rendered. -/
theorem outcome_of_renders
    {py : PyText} {facts : FactSet} {name : ReplyTemplate} {ending : Ending}
    (renders : Renders py facts name (specFor py name) ending)
    (classification : Classification) (rounds : List Round)
    (maxIterations : Int) :
    ∃ outcome,
      (Account.looped classification rounds ending).outcome maxIterations =
          .ok outcome ∧
        ∀ reply, outcome.reply = some reply →
          (specFor py name).render py facts = .ok reply := by
  have silent : ∀ {exc : Exc}, exc.Printable →
      ∃ outcome, failedClosed none exc = .ok outcome ∧
        ∀ reply, outcome.reply = some reply →
          (specFor py name).render py facts = .ok reply := by
    intro exc printable
    rcases failedClosed_ok printable none with ⟨outcome, closed⟩
    rcases failedClosed_handedOff closed with ⟨detail, rfl⟩
    exact ⟨_, closed, by simp [handedOff]⟩
  cases renders with
  | renderRaised rendered =>
      exact silent
        (render_printable (fun _ => specFor_printable) rendered)
  | verifyRaised rendered verified => exact silent (verify_printable verified)
  | @checked reply result rendered =>
      refine ⟨verdict reply result, rfl, ?_⟩
      intro said
      unfold verdict
      split
      · rintro ⟨⟩
        exact rendered
      · simp [handedOff]

/-- A run with a matching account does what the table says. -/
theorem follows_of_matches
    {ρ : Type} {ticketId : String} {before after : Service ρ}
    {events : List Event} {expected : Verdict} {account : Account}
    {intent : Intent}
    (run : RunOf wiring ticketId ticket before after account events)
    (isMatch : Matches wiring.py intent expected account) :
    ∃ call, HandedOver before after call ∧
      Follows wiring.py intent call events expected := by
  have exchanges := run.exchanges
  cases isMatch with
  | unsupported classification =>
      rcases run.handed _ rfl with ⟨call, handed, isCall⟩
      refine ⟨call, handed, isCall.status, isCall.reason, ?_⟩
      rw [isCall.trace.payloads]
      rfl
  | @firstFailed classification failedCall exc message printable =>
      rcases outcome_of_toolRaised classification [] failedCall message
        printable wiring.maxIterations with ⟨detail, concluded⟩
      rcases run.handed _ concluded with ⟨call, handed, isCall⟩
      refine ⟨call, handed, isCall.status, isCall.reason, ?_⟩
      rw [isCall.trace.payloads]
      rfl
  | @secondFailed classification round failedCall exc message printable =>
      rcases outcome_of_toolRaised classification [round] failedCall message
        printable wiring.maxIterations with ⟨detail, concluded⟩
      rcases run.handed _ concluded with ⟨call, handed, isCall⟩
      refine ⟨call, handed, isCall.status, isCall.reason, ?_⟩
      rw [isCall.trace.payloads]
      rfl
  | @rendered classification first second ending user name fields asked
      fetched selected renders =>
      rcases outcome_of_renders renders classification [first, second]
        wiring.maxIterations with ⟨outcome, concluded, said⟩
      rcases run.handed _ concluded with ⟨call, handed, isCall⟩
      have noTool : observations (ending.exchanges []) = [] := by
        cases renders <;> rfl
      refine ⟨call, handed,
        { decisions := ?_
          resolved := ?_
          selected := ?_
          replies := ?_ }⟩
      · rw [isCall.trace.payloads, ← asked, ← fetched]
        cases renders <;> rfl
      · rw [resolutions_looped exchanges]
        cases renders <;> rfl
      · rw [factsOf_looped exchanges noTool]
        exact selected
      · intro reply replied
        rw [isCall.reply] at replied
        have rendered := said reply replied
        simp only [Template.render, selected, namedContext, bind,
          Except.bind] at rendered
        split at rendered
        · simp at rendered
        · rename_i context isNamed
          split at isNamed
          · simp at isNamed
          · cases isNamed
            exact rendered

/--
A run of the deterministic model over the registry, on files that parse as
arrays of objects with comparable timestamps and with a cap of at least three,
does what the table says.
-/
theorem run_follows_table
    {ρ : Type} (repository : TicketRepository ρ)
    (storeClock : List Event → Reading)
    (faked : Faked wiring)
    (registry : OverRegistry (fun _ => tables.fixtures) wiring)
    (templates : DefaultTemplates wiring.py wiring)
    (invoicesComparable :
      Comparable (validateInvoice wiring.pydantic) Invoice.issuedAt
        tables.invoices)
    (sessionsComparable :
      Comparable (validateSession wiring.pydantic) ChargingSession.startedAt
        tables.sessions)
    (cap : 3 ≤ wiring.maxIterations)
    {ticketId : String} {service : Service ρ} {store : ρ}
    (found :
      repository.get ticketId service.store = .ok (some ticket) store) :
    ∃ call events,
      HandedOver service
          (finalState
            (runPipeline repository wiring storeClock ticketId) service)
          call ∧
        (finalState
            (runPipeline repository wiring storeClock ticketId)
            service).events = service.events ++ events ∧
          Follows wiring.py (classifyIntent wiring.py ticket).intent call
            events
            (tableVerdict wiring.pydantic tables
              (classifyIntent wiring.py ticket).intent ticket.userId) := by
  rcases ends_finalState
    (runPipeline_ends repository wiring storeClock found) with
    ⟨account, events, run⟩
  rcases follows_of_matches run
    (account_matches faked registry templates invoicesComparable
      sessionsComparable cap run.holds) with ⟨call, handed, follows⟩
  exact ⟨call, events, handed, run.eventsAdded, follows⟩

end

/-! ## The table on the sample files -/

/-- The rows of the sample files. -/
def sampleTables (amount : String) : Tables where
  users :=
    [[("user_id", .string "u_anna"), ("name", .string "Anna"),
        ("language", .string "en"), ("plan", .string "basic")],
      [("user_id", .string "u_ben"), ("name", .string "Ben"),
        ("language", .string "en"), ("plan", .string "basic")]]
  sessions := []
  invoices :=
    [[("user_id", .string "u_anna"), ("invoice_id", .string "inv_102"),
        ("amount", .string amount), ("currency", .string "EUR"),
        ("status", .string "failed"), ("issued_at", .int 2)],
      [("user_id", .string "u_anna"), ("invoice_id", .string "inv_101"),
        ("amount", .string "22.75"), ("currency", .string "EUR"),
        ("status", .string "paid"), ("issued_at", .int 1)],
      [("user_id", .string "u_ben"), ("invoice_id", .string "inv_203"),
        ("amount", .string "38.90"), ("currency", .string "EUR"),
        ("status", .string "paid"), ("issued_at", .int 1)]]

theorem sample_overRegistry :
    OverRegistry (fun _ => (sampleTables "42.10").fixtures)
      (sampleWiring (fakeLlm asciiText) "42.10") :=
  sampleWiring_overRegistry (fakeLlm asciiText) "42.10"

theorem sample_comparable :
    Comparable (validateInvoice plainPydantic) Invoice.issuedAt
        (sampleTables "42.10").invoices ∧
      Comparable (validateSession plainPydantic) ChargingSession.startedAt
        (sampleTables "42.10").sessions := by
  constructor
  · apply comparable_of_aware
    decide +kernel
  · apply comparable_of_aware
    rfl

theorem waitingTicket_isBilling :
    (classifyIntent asciiText waitingTicket).intent = .billingQuestion := by
  decide +kernel

theorem sample_verdict :
    tableVerdict plainPydantic (sampleTables "42.10") .billingQuestion
        "u_anna" =
      .rendering anna .billingFailed
        [("invoice_id", "inv_102"), ("amount", "42.10"),
          ("currency", "EUR")] := by
  rfl

theorem sample_follows_table :
    ∃ call events,
      HandedOver waitingService
          (sampleRun (fakeLlm asciiText) "42.10") call ∧
        (sampleRun (fakeLlm asciiText) "42.10").events =
            waitingService.events ++ events ∧
          Follows asciiText .billingQuestion call events
            (.rendering anna .billingFailed
              [("invoice_id", "inv_102"), ("amount", "42.10"),
                ("currency", "EUR")]) := by
  rw [← sample_verdict, ← waitingTicket_isBilling]
  exact run_follows_table (memoryRepository asciiText plainPydantic)
    standingClock (sampleWiring_faked "42.10") sample_overRegistry
    ⟨rfl, fun _ _ => rfl⟩ sample_comparable.1 sample_comparable.2 (by decide)
    billing_found

end SupportAssistant.Pipeline.DecisionTable
