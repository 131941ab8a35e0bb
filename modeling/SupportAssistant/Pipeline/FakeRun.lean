import SupportAssistant.Pipeline.DefaultWiring

/-!
# Runs of the deterministic model

It calls `get_user` and the tool its intent needs, both for the owner of the
ticket, and then replies.  Over the registry, a reply is rendered from the
owner's profile and a nonempty collection, and its template is the one that
the statuses of the collection imply.
-/

namespace SupportAssistant.Pipeline.FakeRun

open SupportAssistant.Enums
open SupportAssistant.Runtime
open SupportAssistant.Domain
open SupportAssistant.Guardrails.Facts
open SupportAssistant.Llm.Fake
open SupportAssistant.Tools.Loaders
open SupportAssistant.Tools.Ownership
open SupportAssistant.Pipeline.Collaborators
open SupportAssistant.Pipeline.Accounts
open SupportAssistant.Pipeline.RunSpec
open SupportAssistant.Pipeline.Replies
open SupportAssistant.Pipeline.DefaultWiring

/-! ## Its steps -/

section

variable {py : PyText} {ticket : Ticket} {history : List Observation}

/-- The tools of the history. -/
def called (history : List Observation) : List String :=
  history.map (·.step.tool)

/-- What the deterministic model can answer, and when. -/
inductive Chosen (py : PyText) (ticket : Ticket)
    (history : List Observation) : Step → Prop where
  | user (fresh : userTool ∉ called history) :
      Chosen py ticket history (.toolCall (callFor userTool ticket.userId))
  | data (known : userTool ∈ called history)
      (fresh : dataTool (classifyIntent py ticket).intent ∉ called history) :
      Chosen py ticket history
        (.toolCall (callFor (dataTool (classifyIntent py ticket).intent)
          ticket.userId))
  | reply {name : ReplyTemplate}
      (known : userTool ∈ called history)
      (fetched :
        dataTool (classifyIntent py ticket).intent ∈ called history)
      (implied :
        templateFor py (classifyIntent py ticket).intent history =
          .ok name) :
      Chosen py ticket history (.reply name)

theorem toolCall_ok
    {tool userId : String} {step : Step}
    (ran : toolCall py tool userId = .ok step) :
    step = .toolCall (callFor tool userId) := by
  unfold toolCall at ran
  split at ran
  · exact (Except.ok.inj ran).symm
  · simp at ran

theorem decideNextStep_ok
    {step : Step}
    (ran : decideNextStep py ticket history = .ok step) :
    Chosen py ticket history step := by
  unfold decideNextStep at ran
  dsimp only at ran
  split at ran
  · simp at ran
  · split at ran
    · rename_i fresh
      rw [toolCall_ok ran]
      exact .user (by simpa [called] using fresh)
    · rename_i known
      have known : userTool ∈ called history := by
        simpa [called] using known
      split at ran
      · rename_i fresh
        rw [toolCall_ok ran]
        exact .data known (by simpa [called] using fresh)
      · rename_i fetched
        cases implied : templateFor py (classifyIntent py ticket).intent
            history with
        | error exc => simp [implied, bind, Except.bind] at ran
        | ok name =>
            simp only [implied, bind, Except.bind, Except.ok.injEq] at ran
            subst ran
            exact .reply known (by simpa [called] using fetched) implied

theorem dataTool_ne (intent : Intent) : dataTool intent ≠ userTool := by
  cases intent <;> decide

theorem decided_faked
    {wiring : Wiring} (faked : Faked wiring) {step : Step}
    (decided : Decided wiring ticket history (.ok step)) :
    Chosen wiring.py ticket history step := by
  rcases decided with ⟨events, decided⟩
  rw [faked, fakeLlm_decideNextStep] at decided
  exact decideNextStep_ok decided

/-- The two calls of a run, and what they returned. -/
def ownHistory (py : PyText) (ticket : Ticket) (user data : ToolResult) :
    List Observation :=
  [⟨callFor userTool ticket.userId, user⟩,
    ⟨callFor (dataTool (classifyIntent py ticket).intent) ticket.userId,
      data⟩]

/-- It calls for the owner alone, and a tool it has not called before. -/
theorem Chosen.call
    {call : ToolCall} (chosen : Chosen py ticket history (.toolCall call)) :
    (userTool ∉ called history ∧ call = callFor userTool ticket.userId) ∨
      (userTool ∈ called history ∧
        dataTool (classifyIntent py ticket).intent ∉ called history ∧
          call =
            callFor (dataTool (classifyIntent py ticket).intent)
              ticket.userId) := by
  generalize isCall : Step.toolCall call = step at chosen
  cases chosen with
  | user fresh =>
      cases isCall
      exact Or.inl ⟨fresh, rfl⟩
  | data known fresh =>
      cases isCall
      exact Or.inr ⟨known, fresh, rfl⟩
  | reply => cases isCall

theorem Chosen.replied
    {name : ReplyTemplate}
    (chosen : Chosen py ticket history (.reply name)) :
    dataTool (classifyIntent py ticket).intent ∈ called history ∧
      templateFor py (classifyIntent py ticket).intent history =
        .ok name := by
  cases chosen with
  | reply known fetched implied => exact ⟨fetched, implied⟩

theorem called_append (round : Round) :
    called (history ++ [round.observation]) =
      called history ++ [round.call.tool] := by
  simp [called, Round.observation]

/-- A round of its run: its choice, the answer, and the rounds to come. -/
theorem faked_round
    {wiring : Wiring} (faked : Faked wiring)
    {left : Nat} {round : Round} {rounds : List Round} {ending : Ending}
    (looped :
      Looped wiring ticket history left (round :: rounds) ending) :
    Chosen wiring.py ticket history (.toolCall round.call) ∧
      ToolAnswered wiring round.call (.ok round.result) ∧
        ∃ rest, Looped wiring ticket (history ++ [round.observation]) rest
          rounds ending := by
  cases looped with
  | round decided answered summarised later =>
      exact ⟨decided_faked faked decided, answered, _, later⟩

/-- The deterministic model replies after two calls, and only then. -/
theorem faked_history
    {wiring : Wiring} (faked : Faked wiring)
    {left : Nat} {rounds : List Round} {ending : Ending}
    {name : ReplyTemplate}
    (looped : Looped wiring ticket [] left rounds ending)
    (replies : ∀ history rest, Looped wiring ticket history rest [] ending →
      Decided wiring ticket history (.ok (.reply name))) :
    ∃ user data,
      rounds.map Round.observation =
          ownHistory wiring.py ticket user data ∧
        ToolAnswered wiring (callFor userTool ticket.userId) (.ok user) ∧
          ToolAnswered wiring
              (callFor (dataTool (classifyIntent wiring.py ticket).intent)
                ticket.userId) (.ok data) ∧
            templateFor wiring.py (classifyIntent wiring.py ticket).intent
                (ownHistory wiring.py ticket user data) =
              .ok name := by
  have different := dataTool_ne (classifyIntent wiring.py ticket).intent
  -- in the state before a round, what was called decides the call
  cases rounds with
  | nil =>
      have fetched := (decided_faked faked (replies _ _ looped)).replied.1
      simp [called] at fetched
  | cons first rounds =>
      rcases faked_round faked looped with
        ⟨chosen, answeredUser, rest, looped⟩
      have firstCall : first.call = callFor userTool ticket.userId := by
        rcases chosen.call with ⟨-, isUser⟩ | ⟨known, -⟩
        · exact isUser
        · simp [called] at known
      cases rounds with
      | nil =>
          have fetched :=
            (decided_faked faked (replies _ _ looped)).replied.1
          rw [called_append, firstCall] at fetched
          simp [called, callFor, different] at fetched
      | cons second rounds =>
          rcases faked_round faked looped with
            ⟨chosen, answeredData, rest, looped⟩
          have secondCall : second.call =
              callFor (dataTool (classifyIntent wiring.py ticket).intent)
                ticket.userId := by
            rcases chosen.call with ⟨fresh, -⟩ | ⟨-, -, isData⟩
            · rw [called_append, firstCall] at fresh
              simp [callFor] at fresh
            · exact isData
          have own : [] ++ [first.observation] ++ [second.observation] =
              ownHistory wiring.py ticket first.result second.result := by
            simp only [List.nil_append, List.cons_append, Round.observation,
              firstCall, secondCall, ownHistory]
          cases rounds with
          | nil =>
              have implied :=
                (decided_faked faked (replies _ _ looped)).replied.2
              rw [firstCall] at answeredUser
              rw [secondCall] at answeredData
              rw [own] at implied
              exact ⟨first.result, second.result, own, answeredUser,
                answeredData, implied⟩
          | cons third rounds =>
              rcases faked_round faked looped with ⟨chosen, -, -⟩
              rw [own] at chosen
              rcases chosen.call with ⟨fresh, -⟩ | ⟨-, fresh, -⟩
              · simp [called, ownHistory, callFor] at fresh
              · simp [called, ownHistory, callFor] at fresh

/-! ## The template it picks -/

/-- The template that the statuses of the invoices imply. -/
def billingTemplate (invoices : List Invoice) : ReplyTemplate :=
  if invoices.any (·.status == .failed) then .billingFailed
  else if invoices.any (·.status == .pending) then .billingPending
  else .billingAllPaid

/-- The template that the status of the newest session implies. -/
def sessionTemplate (session : ChargingSession) : ReplyTemplate :=
  if session.status = .completed then .sessionCompleted
  else .sessionInterrupted

theorem resultFor_data (user data : ToolResult) :
    resultFor py (ownHistory py ticket user data)
        (dataTool (classifyIntent py ticket).intent) =
      .ok data := by
  have different := dataTool_ne (classifyIntent py ticket).intent
  have skips :
      (userTool == dataTool (classifyIntent py ticket).intent) = false := by
    simpa using different.symm
  simp [resultFor, ownHistory, callFor, skips]

theorem mapM_statusOf (py : PyText) (invoices : List Invoice) :
    (invoices.map Record.invoice).mapM (statusOf py) =
      .ok (invoices.map fun invoice => invoice.status.value) := by
  induction invoices with
  | nil => rfl
  | cons invoice invoices induction =>
      rw [List.map_cons, List.mapM_cons, induction]
      rfl

theorem contains_status_iff
    (invoices : List Invoice) (status : InvoiceStatus) :
    (invoices.map fun invoice => invoice.status.value).contains
        status.value =
      invoices.any (·.status == status) := by
  have same : ∀ left right : InvoiceStatus,
      (right.value == left.value) = (left == right) := by
    intro left right
    cases left <;> cases right <;> rfl
  rw [List.contains_eq_any_beq, List.any_map]
  congr 1
  funext invoice
  exact same invoice.status status

theorem templateFor_billing
    {invoices : List Invoice} (user : ToolResult) {data : ToolResult}
    (isBilling : (classifyIntent py ticket).intent = .billingQuestion)
    (records : data.records = invoices.map .invoice) :
    templateFor py (classifyIntent py ticket).intent
        (ownHistory py ticket user data) =
      .ok (billingTemplate invoices) := by
  rw [templateFor, resultFor_data]
  simp only [bind, Except.bind, isBilling, if_true, records, mapM_statusOf,
    contains_status_iff, billingTemplate]
  split
  · rfl
  · split <;> rfl

theorem templateFor_charging
    {latest : ChargingSession} {earlier : List ChargingSession}
    (user : ToolResult) {data : ToolResult}
    (isCharging : (classifyIntent py ticket).intent ≠ .billingQuestion)
    (records : data.records = (latest :: earlier).map .session) :
    templateFor py (classifyIntent py ticket).intent
        (ownHistory py ticket user data) =
      .ok (sessionTemplate latest) := by
  rw [templateFor, resultFor_data]
  simp only [bind, Except.bind, if_neg isCharging, records, List.map_cons,
    sessionTemplate]
  split <;> rfl

/-! ## The facts it replies from -/

/-- The facts that a reply of the deterministic model is rendered from. -/
inductive OwnFacts : FactSet → ReplyTemplate → Prop where
  | billing (user : User) {invoices : List Invoice}
      (some : invoices ≠ []) :
      OwnFacts
        { userName := user.name
          userId := user.userId
          invoices := invoices.map invoiceFact
          sessions := [] }
        (billingTemplate invoices)
  | charging (user : User) (latest : ChargingSession)
      (earlier : List ChargingSession) :
      OwnFacts
        { userName := user.name
          userId := user.userId
          invoices := []
          sessions := (latest :: earlier).map sessionFact }
        (sessionTemplate latest)

theorem foldl_invoices (facts : FactSet) (invoices : List Invoice) :
    (invoices.map Record.invoice).foldl FactSet.project facts =
      { facts with
        invoices := facts.invoices ++ invoices.map invoiceFact } := by
  induction invoices generalizing facts with
  | nil => simp
  | cons invoice invoices induction =>
      rw [List.map_cons, List.foldl_cons, induction]
      simp [FactSet.project]

theorem foldl_sessions (facts : FactSet) (sessions : List ChargingSession) :
    (sessions.map Record.session).foldl FactSet.project facts =
      { facts with
        sessions := facts.sessions ++ sessions.map sessionFact } := by
  induction sessions generalizing facts with
  | nil => simp
  | cons session sessions induction =>
      rw [List.map_cons, List.foldl_cons, induction]
      simp [FactSet.project]

/-- The facts of its history are those of the two results, in order. -/
theorem fromObservations_ownHistory (user data : ToolResult) :
    FactSet.fromObservations (ownHistory py ticket user data) =
      data.records.foldl FactSet.project
        (user.records.foldl FactSet.project FactSet.empty) := by
  simp [FactSet.fromObservations, ownHistory, List.foldl_append]

theorem records_of_userTool
    {pydantic : Pydantic} {fixtures : Fixtures} {userId : String}
    {records : List Record}
    (dispatched :
      @Dispatched py pydantic fixtures userId userTool records) :
    ∃ user, records = [.user user] := by
  generalize isUser : userTool = tool at dispatched
  cases dispatched with
  | @user user owned => exact ⟨user, rfl⟩
  | sessions => exact absurd isUser (by decide)
  | invoices => exact absurd isUser (by decide)

theorem ownFacts_of_implied
    {pydantic : Pydantic} {fixtures fixtures' : Fixtures} {userId : String}
    {user data : ToolResult} {name : ReplyTemplate}
    (fetchedUser :
      @Dispatched py pydantic fixtures userId userTool user.records)
    (fetchedData :
      @Dispatched py pydantic fixtures' userId
        (dataTool (classifyIntent py ticket).intent) data.records)
    (implied :
      templateFor py (classifyIntent py ticket).intent
          (ownHistory py ticket user data) =
        .ok name) :
    OwnFacts
      (FactSet.fromObservations (ownHistory py ticket user data)) name := by
  rcases records_of_userTool fetchedUser with ⟨owner, isOwner⟩
  rw [fromObservations_ownHistory, isOwner]
  generalize isTool : dataTool (classifyIntent py ticket).intent = tool
    at fetchedData
  generalize isRecords : data.records = records at fetchedData
  have notUser : tool ≠ userTool := by
    rw [← isTool]
    exact dataTool_ne _
  cases fetchedData with
  | user => exact absurd rfl notUser
  | @sessions sessions some owned =>
      have isCharging :
          (classifyIntent py ticket).intent ≠ .billingQuestion := by
        intro isBilling
        rw [isBilling] at isTool
        exact absurd isTool (by decide)
      cases sessions with
      | nil => exact absurd rfl some
      | cons latest earlier =>
          rw [templateFor_charging user isCharging isRecords,
            Except.ok.injEq] at implied
          rw [← implied, foldl_sessions]
          exact .charging owner latest earlier
  | @invoices invoices some owned =>
      have isBilling :
          (classifyIntent py ticket).intent = .billingQuestion := by
        cases intent : (classifyIntent py ticket).intent with
        | billingQuestion => rfl
        | chargingSessionProblem =>
            rw [intent] at isTool
            exact absurd isTool (by decide)
        | unknown =>
            rw [intent] at isTool
            exact absurd isTool (by decide)
      rw [templateFor_billing user isBilling isRecords,
        Except.ok.injEq] at implied
      rw [← implied, foldl_invoices]
      exact .billing owner some

/-- Over the registry, its reply comes from the owner's records. -/
theorem faked_run
    {fixtures : List Event → Fixtures} {wiring : Wiring}
    (faked : Faked wiring) (registry : OverRegistry fixtures wiring)
    {events : List Event} {classification : Classification}
    {rounds : List Round} {ending : Ending} {name : ReplyTemplate}
    (replies : ∀ history rest, Looped wiring ticket history rest [] ending →
      Decided wiring ticket history (.ok (.reply name)))
    (noTool : observations (ending.exchanges []) = [])
    (holds :
      (Account.looped classification rounds ending).Holds wiring ticket)
    (exchanges :
      exchangesOf events =
        (Account.looped classification rounds ending).exchanges) :
    (∃ user data,
        observations events = ownHistory wiring.py ticket user data) ∧
      OwnFacts (factsOf events) name := by
  cases holds with
  | looped asked known ran =>
      rcases faked_history faked ran replies with
        ⟨user, data, own, answeredUser, answeredData, implied⟩
      have observed :
          observations events = ownHistory wiring.py ticket user data := by
        rw [observations_looped exchanges, own, noTool, List.append_nil]
      rcases dispatched_of_callFor registry answeredUser with
        ⟨before, fetchedUser⟩
      rcases dispatched_of_callFor registry answeredData with
        ⟨later, fetchedData⟩
      constructor
      · exact ⟨user, data, observed⟩
      · rw [factsOf, observed]
        exact ownFacts_of_implied fetchedUser fetchedData implied

end

end SupportAssistant.Pipeline.FakeRun
