import SupportAssistant.Effects.Mapping
import SupportAssistant.Llm.Keywords
import SupportAssistant.Llm.Ollama

/-!
# Which answers of the model server are accepted

An answer is accepted if it is a success whose body holds, in the content of
its message, an object of one of the expected shapes.  Every other answer
raises the one protocol error, unless a document is nested so deeply that
parsing it ends with an exception the client does not catch.
-/

namespace SupportAssistant.Llm.Answers

open SupportAssistant.Effects.Mapping
open SupportAssistant.Enums
open SupportAssistant.Runtime
open SupportAssistant.Runtime.Ascii
open SupportAssistant.Domain
open SupportAssistant.Llm.Ollama

/-! ## The expected shapes -/

/-- The response is a success, and the content of its message a JSON object. -/
inductive Carries (libraries : Libraries) :
    Exchange → List (String × Json) → Prop where
  | content {status : Nat} {body : List UInt8}
      {outer message entries : List (String × Json)} {text : String}
      (success : 200 ≤ status ∧ status ≤ 299)
      (isOuter : libraries.loadsBytes body = .value (.object outer))
      (isMessage : Json.get? outer "message" = some (.object message))
      (isContent : Json.get? message "content" = some (.string text))
      (isInner : libraries.loads text = .value (.object entries)) :
      Carries libraries (.response status body) entries

/-- The object has no other keys. -/
def Only (keys : List String) (entries : List (String × Json)) : Prop :=
  ∀ entry ∈ entries, entry.1 ∈ keys

/-- The object is one of the three decisions, with the values of the step. -/
inductive Decides (entries : List (String × Json)) : Step → Prop where
  | toolCall {tool : String} {args : List (String × Json)}
      (decision : Json.get? entries "decision" = some (.string "tool_call"))
      (isTool : Json.get? entries "tool" = some (.string tool))
      (isArgs : Json.get? entries "args" = some (.object args))
      (only : Only ["decision", "tool", "args"] entries) :
      Decides entries (.toolCall
        { tool, args := args.map fun entry => (entry.1, .json entry.2) })
  | reply {template : ReplyTemplate}
      (decision : Json.get? entries "decision" = some (.string "reply"))
      (isTemplate :
        Json.get? entries "template" = some (.string template.value))
      (only : Only ["decision", "template"] entries) :
      Decides entries (.reply template)
  | handoff {reason : HandoffReason}
      (decision : Json.get? entries "decision" = some (.string "handoff"))
      (isReason : Json.get? entries "reason" = some (.string reason.value))
      (only : Only ["decision", "reason"] entries) :
      Decides entries (.handoff reason)

/-- The object names an intent; whatever else it has does not matter. -/
def Classifies (entries : List (String × Json))
    (classification : Classification) : Prop :=
  ∃ intent : Intent,
    Json.get? entries "intent" = some (.string intent.value) ∧
      classification = { intent, matchedKeywords := [] }

/-! ## Validation accepts the expected shapes -/

theorem noOther_iff {keys : List String} {entries : List (String × Json)} :
    noOther keys entries = true ↔ Only keys entries := by
  rw [noOther, Only, List.all_eq_true]
  simp only [List.contains_iff_mem]

/-- A member that is found by its text is written as that text. -/
theorem value_of_find?
    {α : Type} {members : List α} {value : α → String} {text : String}
    {member : α} (found : members.find? (value · == text) = some member) :
    value member = text :=
  beq_iff_eq.mp (@List.find?_some α (value · == text) member members found)

theorem validateClassification_iff
    {entries : List (String × Json)} {classification : Classification} :
    validateClassification entries = some classification ↔
      Classifies entries classification := by
  rw [validateClassification, Classifies]
  constructor
  · intro valid
    split at valid
    · rename_i text isText
      rcases Option.map_eq_some_iff.mp valid with ⟨intent, found, rfl⟩
      have isValue : intent.value = text := value_of_find? found
      rw [← isValue] at isText
      exact ⟨intent, isText, rfl⟩
    · cases valid
  · rintro ⟨intent, isIntent, rfl⟩
    rw [isIntent]
    simp

theorem validateStep_of_decides
    {entries : List (String × Json)} {step : Step}
    (decides : Decides entries step) :
    validateStep entries = some step := by
  cases decides with
  | toolCall decision isTool isArgs only =>
      simp only [validateStep, decision, validateToolCall, isTool, isArgs,
        noOther_iff.mpr only, if_true]
  | reply decision isTemplate only =>
      simp only [validateStep, decision, validateReply, isTemplate,
        noOther_iff.mpr only, if_true, ReplyTemplate.ofValue?_value,
        Option.map_some]
  | handoff decision isReason only =>
      simp only [validateStep, decision, validateHandoff, isReason,
        noOther_iff.mpr only, if_true, HandoffReason.ofValue?_value,
        Option.map_some]

theorem decides_of_validateStep
    {entries : List (String × Json)} {step : Step}
    (valid : validateStep entries = some step) :
    Decides entries step := by
  rw [validateStep] at valid
  split at valid
  · rename_i decision
    rw [validateToolCall] at valid
    split at valid
    · rename_i tool args isTool isArgs
      split at valid
      · rename_i only
        cases valid
        exact .toolCall decision isTool isArgs (noOther_iff.mp only)
      · cases valid
    · cases valid
  · rename_i decision
    rw [validateReply] at valid
    split at valid
    · rename_i text isText
      split at valid
      · rename_i only
        rcases Option.map_eq_some_iff.mp valid with ⟨template, found, rfl⟩
        have isValue : template.value = text := value_of_find? found
        rw [← isValue] at isText
        exact .reply decision isText (noOther_iff.mp only)
      · cases valid
    · cases valid
  · rename_i decision
    rw [validateHandoff] at valid
    split at valid
    · rename_i text isText
      split at valid
      · rename_i only
        rcases Option.map_eq_some_iff.mp valid with ⟨reason, found, rfl⟩
        have isValue : reason.value = text := value_of_find? found
        rw [← isValue] at isText
        exact .handoff decision isText (noOther_iff.mp only)
      · cases valid
    · cases valid
  · cases valid

theorem validateStep_iff
    {entries : List (String × Json)} {step : Step} :
    validateStep entries = some step ↔ Decides entries step :=
  ⟨decides_of_validateStep, validateStep_of_decides⟩

/-! ## The round trip -/

/-- Neither document that is parsed is nested too deeply. -/
def Shallow (libraries : Libraries) : Exchange → Prop
  | .httpError _ => True
  | .response status body =>
      200 ≤ status ∧ status ≤ 299 →
        libraries.loadsBytes body ≠ .recursionError ∧
          ∀ outer message text,
            libraries.loadsBytes body = .value (.object outer) →
              Json.get? outer "message" = some (.object message) →
                Json.get? message "content" = some (.string text) →
                  libraries.loads text ≠ .recursionError

section

variable {py : PyText} {libraries : Libraries}

theorem run_ok_iff {parsed : Parsed} {value : Json} :
    parsed.run = .ok value ↔ parsed = .value value := by
  cases parsed <;> simp [Parsed.run]

theorem run_recursion_iff {parsed : Parsed} :
    parsed.run = .error .recursionError ↔ parsed = .recursionError := by
  cases parsed <;> simp [Parsed.run]

theorem subscript_ok_iff {value : Json} {key : String} {found : Json} :
    subscript py value key = .ok found ↔
      ∃ entries, value = .object entries ∧
        Json.get? entries key = some found := by
  cases value with
  | object entries =>
      cases present : Json.get? entries key <;>
        simp [subscript, present]
  | _ => simp [subscript]

theorem subscript_not_recursion {value : Json} {key : String} :
    subscript py value key ≠ .error .recursionError := by
  cases value with
  | object entries =>
      cases present : Json.get? entries key <;>
        simp [subscript, present]
  | _ => simp [subscript, wrongType]

theorem loadsValue_ok_iff {value result : Json} :
    loadsValue py libraries value = .ok result ↔
      ∃ text, value = .string text ∧ libraries.loads text = .value result := by
  cases value <;> simp [loadsValue, run_ok_iff]

theorem loadsValue_recursion_iff {value : Json} :
    loadsValue py libraries value = .error .recursionError ↔
      ∃ text, value = .string text ∧
        libraries.loads text = .recursionError := by
  cases value <;> simp [loadsValue, run_recursion_iff, wrongType]

theorem isSuccess_iff {status : Nat} :
    isSuccess status = true ↔ 200 ≤ status ∧ status ≤ 299 := by
  simp [isSuccess]

/-- An object is parsed exactly when the response carries it. -/
theorem parseExchange_object_iff
    {exchange : Exchange} {entries : List (String × Json)} :
    parseExchange py libraries exchange = .ok (.object entries) ↔
      Carries libraries exchange entries := by
  cases exchange with
  | httpError repr =>
      constructor
      · intro parsed
        cases parsed
      · intro carries
        cases carries
  | response status body =>
      by_cases success : isSuccess status = true
      · simp only [parseExchange, success, if_true, bind_ok_iff, run_ok_iff,
          subscript_ok_iff, loadsValue_ok_iff]
        constructor
        · rintro ⟨_, isOuter, _, ⟨outer, rfl, isMessage⟩, _,
            ⟨message, rfl, isContent⟩, text, rfl, isInner⟩
          exact .content (isSuccess_iff.mp success) isOuter isMessage
            isContent isInner
        · rintro ⟨-, isOuter, isMessage, isContent, isInner⟩
          exact ⟨_, isOuter, _, ⟨_, rfl, isMessage⟩, _, ⟨_, rfl, isContent⟩,
            _, rfl, isInner⟩
      · simp only [parseExchange, success, Bool.false_eq_true, if_false]
        constructor
        · intro parsed
          cases parsed
        · rintro ⟨isSuccessful, -⟩
          exact absurd (isSuccess_iff.mpr isSuccessful) success

/-- What is not caught is raised exactly when a document is too deep. -/
theorem parseExchange_recursion_iff {exchange : Exchange} :
    parseExchange py libraries exchange = .error .recursionError ↔
      ¬ Shallow libraries exchange := by
  cases exchange with
  | httpError repr => simp [parseExchange, Shallow]
  | response status body =>
      by_cases success : isSuccess status = true
      · have inRange := isSuccess_iff.mp success
        simp only [parseExchange, success, if_true, bind_error_iff,
          run_recursion_iff, subscript_not_recursion, false_or, run_ok_iff,
          subscript_ok_iff, loadsValue_recursion_iff]
        constructor
        · rintro (tooDeep | ⟨_, isOuter, _, ⟨outer, rfl, isMessage⟩, _,
            ⟨message, rfl, isContent⟩, text, rfl, tooDeep⟩) shallow
          · exact (shallow inRange).1 tooDeep
          · exact (shallow inRange).2 outer message text isOuter isMessage
              isContent tooDeep
        · intro deep
          by_contra none
          push Not at none
          apply deep
          intro _
          constructor
          · exact none.1
          · intro outer message text isOuter isMessage isContent
            exact none.2 _ isOuter _ ⟨outer, rfl, isMessage⟩ _
              ⟨message, rfl, isContent⟩ text rfl
      · simp only [parseExchange, success, Bool.false_eq_true, if_false]
        constructor
        · intro parsed
          cases parsed
        · intro deep
          apply absurd _ deep
          intro inRange
          exact absurd (isSuccess_iff.mpr inRange) success

/-! ## Exactly when the client is closed -/

/--
The client returns the accepted values and raises the protocol error in every
other case.
-/
structure Closed {A : Type} (py : PyText) (libraries : Libraries)
    (Accepts : List (String × Json) → A → Prop) (exchange : Exchange)
    (result : Except Exc A) : Prop where
  returns : ∀ value, result = .ok value ↔
    ∃ entries, Carries libraries exchange entries ∧ Accepts entries value
  raises : ∀ exc, result = .error exc → ∃ message,
    exc = protocolError py message

theorem chat_ok_iff
    {client : OllamaLLM} {messages : List Message}
    {entries : List (String × Json)} :
    chat py libraries client messages = .ok entries ↔
      Carries libraries (client.post messages) entries := by
  rw [← @parseExchange_object_iff py, chat]
  cases parsed : parseExchange py libraries (client.post messages) with
  | error raised => simp
  | ok value => cases value <;> simp

theorem chat_error
    {client : OllamaLLM} {messages : List Message} {exc : Exc}
    (failed : chat py libraries client messages = .error exc) :
    (∃ message, exc = protocolError py message) ∨
      parseExchange py libraries (client.post messages) =
        .error .recursionError := by
  rw [chat] at failed
  cases parsed : parseExchange py libraries (client.post messages) with
  | error raised =>
      rw [parsed] at failed
      have isWrapped := Except.error.inj failed
      cases raised with
      | recursionError => exact Or.inr rfl
      | _ => exact Or.inl ⟨_, isWrapped.symm⟩
  | ok value =>
      rw [parsed] at failed
      cases value with
      | object entries => cases failed
      | _ => exact Or.inl ⟨_, (Except.error.inj failed).symm⟩

theorem chat_deep
    {client : OllamaLLM} {messages : List Message}
    (deep : parseExchange py libraries (client.post messages) =
      .error .recursionError) :
    chat py libraries client messages = .error (recursionError py) := by
  rw [chat, deep]
  rfl

/-- Validating the answer of a round trip is closed over shallow answers. -/
theorem closed_iff
    {A : Type} {validate : List (String × Json) → Option A}
    {Accepts : List (String × Json) → A → Prop}
    (accepts : ∀ entries value,
      validate entries = some value ↔ Accepts entries value)
    (client : OllamaLLM) (messages : List Message) (report : String) :
    Closed py libraries Accepts (client.post messages)
        (chat py libraries client messages >>= fun answer =>
          orProtocolError py report (validate answer)) ↔
      Shallow libraries (client.post messages) := by
  constructor
  · intro closed
    by_contra deep
    have tooDeep := chat_deep (@parseExchange_recursion_iff py _ _ |>.mpr deep)
    rw [tooDeep] at closed
    rcases closed.raises (recursionError py) rfl with ⟨message, same⟩
    have name := congrArg Exc.name same
    simp [recursionError, protocolError, Exc.plain, Exc.name] at name
  · intro shallow
    have notDeep : parseExchange py libraries (client.post messages) ≠
        .error .recursionError :=
      fun tooDeep => parseExchange_recursion_iff.mp tooDeep shallow
    cases answered : chat py libraries client messages with
    | error exc =>
        constructor
        · intro value
          simp [← @chat_ok_iff py, answered, bind, Except.bind]
        · intro other failed
          cases failed
          exact (chat_error answered).resolve_right notDeep
    | ok entries =>
        cases valid : validate entries with
        | some value =>
            constructor
            · intro other
              simp [← @chat_ok_iff py, ← accepts, answered, bind,
                Except.bind, orProtocolError, valid]
            · intro exc failed
              simp [bind, Except.bind, orProtocolError, valid] at failed
        | none =>
            constructor
            · intro other
              simp [← @chat_ok_iff py, ← accepts, answered, bind,
                Except.bind, orProtocolError, valid]
            · intro exc failed
              simp only [bind, Except.bind, orProtocolError, valid,
                Except.error.injEq] at failed
              exact ⟨report, failed.symm⟩

end

/--
Whatever the server answers, both calls of the client return exactly the
values of the answers that are accepted and raise the protocol error
otherwise, if and only if no document is nested too deeply to be parsed.
-/
theorem client_closed_iff
    (py : PyText) (libraries : Libraries) (pydantic : Pydantic)
    (client : OllamaLLM) (ticket : Ticket) (history : List Observation) :
    (Closed py libraries Decides
        (client.post (decideMessages libraries ticket history))
        (Ollama.decideNextStep py libraries pydantic client ticket history) ↔
      Shallow libraries
        (client.post (decideMessages libraries ticket history))) ∧
    (Closed py libraries Classifies (client.post (classifyMessages ticket))
        (Ollama.classifyIntent py libraries pydantic client ticket) ↔
      Shallow libraries (client.post (classifyMessages ticket))) :=
  ⟨closed_iff (fun _ _ => validateStep_iff) client _ _,
    closed_iff (fun _ _ => validateClassification_iff) client _ _⟩

/-! ## A document of a million brackets -/

def brackets (count : Nat) : List UInt8 :=
  List.replicate count 0x5b

/-- A parser that gives up behind half a million opening brackets. -/
def deepLibraries : Libraries where
  loads _ := .valueError "JSONDecodeError('Expecting value')"
  loadsBytes body :=
    if 500000 ≤ (body.takeWhile (· == 0x5b)).length then .recursionError
    else .valueError "JSONDecodeError('Expecting value')"
  dumps _ := "[]"
  statusError _ := "HTTPStatusError('')"

theorem loadsBytes_brackets {count : Nat} (deep : 500000 ≤ count) :
    deepLibraries.loadsBytes (brackets count) = .recursionError := by
  apply if_pos
  simpa [brackets] using deep

def deepServer : OllamaLLM where
  baseUrl := "http://ollama.test"
  post _ := .response 200 (brackets 1000000)

/-- The error of the parser is not caught. -/
theorem deep_answer_escapes :
    ¬ Closed asciiText deepLibraries Decides
      (deepServer.post (decideMessages deepLibraries Keywords.chargeInBody []))
      (Ollama.decideNextStep asciiText deepLibraries plainPydantic deepServer
        Keywords.chargeInBody []) := by
  intro closed
  have shallow : Shallow deepLibraries (deepServer.post
      (decideMessages deepLibraries Keywords.chargeInBody [])) :=
    (closed_iff (fun _ _ => validateStep_iff) deepServer _ _).mp closed
  exact (shallow ⟨by decide, by decide⟩).1 (loadsBytes_brackets (by decide))

end SupportAssistant.Llm.Answers
