import SupportAssistant.Domain

/-!
# The optional model server

The client asks a chat endpoint in JSON mode and validates the answer onto the
domain types.  The server is a function of the messages: whatever it answers,
with whatever status, or that it cannot be reached.  Parsing JSON is a
parameter, with the three ways in which it ends.
-/

namespace SupportAssistant.Llm.Ollama

open SupportAssistant.Enums
open SupportAssistant.Runtime
open SupportAssistant.Domain

/-! ## The libraries -/

/-- How parsing a JSON document ends. -/
inductive Parsed where
  | value (value : Json)
  /-- No JSON, no text in a known encoding, or an integer too long. -/
  | valueError (repr : String)
  /-- Nested deeper than the interpreter recurses. -/
  | recursionError

/-- Parsing and serialising JSON, and what a failed request prints as. -/
structure Libraries where
  /-- `json.loads` of a text. -/
  loads : String → Parsed
  /-- `json.loads` of the bytes of a response. -/
  loadsBytes : List UInt8 → Parsed
  /-- `json.dumps` of the dumped records. -/
  dumps : List Record → String
  /-- `repr` of the `HTTPStatusError` of a status. -/
  statusError : Nat → String

/-- How a request ends. -/
inductive Exchange where
  | httpError (repr : String)
  | response (status : Nat) (body : List UInt8)

/-- A message of the conversation. -/
structure Message where
  role : String
  content : String

/-- The client: where its server is, and what the server answers. -/
structure OllamaLLM where
  baseUrl : String
  post : List Message → Exchange

/-! ## The prompts -/

def toolCatalogue : String :=
  "get_user(user_id): the ticket user's profile -- name, language, plan.\n" ++
  "get_invoices(user_id): the user's invoices, newest first.\n" ++
  "get_charging_sessions(user_id): the user's charging sessions, " ++
  "newest first."

def classifySystem : String :=
  "You classify EV-charging customer support tickets. Reply with a JSON " ++
  "object \x7b\"intent\": \"...\"\x7d and nothing else. The intent is " ++
  "exactly one of: billing_question (payments, invoices, refunds, " ++
  "charges); charging_session_problem (a charging session or station that " ++
  "failed or misbehaved); unknown (anything else, or a ticket genuinely " ++
  "about both). When in doubt answer unknown -- a wrong guess is worse " ++
  "than a handoff to a human."

def decideSystem : String :=
  "You drive a bounded tool-calling loop that answers one support ticket. " ++
  "On each turn reply with exactly one JSON object, one of:\n" ++
  "\x7b\"decision\": \"tool_call\", \"tool\": \"<name>\", \"args\": " ++
  "\x7b\"user_id\": \"<id>\"\x7d\x7d -- gather more data;\n" ++
  "\x7b\"decision\": \"reply\", \"template\": \"<name>\"\x7d -- finish " ++
  "with a templated reply;\n" ++
  "\x7b\"decision\": \"handoff\", \"reason\": \"<REASON>\"\x7d -- give " ++
  "up, a human takes the ticket.\n\n" ++
  "Tools:\n" ++ toolCatalogue ++ "\n\n" ++
  "Reply templates (name only -- the system fills them from the gathered " ++
  "data): " ++ join ", " (ReplyTemplate.members.map ReplyTemplate.value) ++
  ".\nHandoff reasons: " ++
  join ", " (HandoffReason.members.map HandoffReason.value) ++ ".\n\n" ++
  "Always fetch the user before replying -- the reply is addressed by " ++
  "name. Then fetch the data the ticket's intent needs. Name a reply " ++
  "template only once the gathered data supports it; otherwise hand off."

def ticketText (ticket : Ticket) : String :=
  "Subject: " ++ ticket.subject ++ "\n\n" ++ ticket.body

def decidePrompt (libraries : Libraries) (ticket : Ticket)
    (history : List Observation) : String :=
  let results :=
    if history.isEmpty then ["No tools have run yet."]
    else
      "Tool results so far:" :: history.map fun observation =>
        "- " ++ observation.step.tool ++ ": " ++
          libraries.dumps observation.result.records
  join "\n"
    (["User id: " ++ ticket.userId, "", ticketText ticket, ""] ++ results ++
      ["", "Reply with the next JSON decision."])

def classifyMessages (ticket : Ticket) : List Message :=
  [⟨"system", classifySystem⟩, ⟨"user", ticketText ticket⟩]

def decideMessages (libraries : Libraries) (ticket : Ticket)
    (history : List Observation) : List Message :=
  [⟨"system", decideSystem⟩,
    ⟨"user", decidePrompt libraries ticket history⟩]

/-! ## The round trip -/

/-- An exception in a round trip, as the `except` clause tells them apart. -/
inductive Raised where
  | httpError (repr : String)
  | valueError (repr : String)
  | keyError (repr : String)
  | typeError (repr : String)
  | recursionError

/-- `type(value).__name__`. -/
def typeName : Json → String
  | .null => "NoneType"
  | .bool _ => "bool"
  | .int _ => "int"
  | .float _ => "float"
  | .string _ => "str"
  | .list _ => "list"
  | .object _ => "dict"

def Parsed.run : Parsed → Except Raised Json
  | .value found => .ok found
  | .valueError repr => .error (.valueError repr)
  | .recursionError => .error .recursionError

section

variable (py : PyText) (libraries : Libraries)

def wrongType (message : String) : Raised :=
  .typeError ("TypeError(" ++ py.repr message ++ ")")

/-- `value[key]`. -/
def subscript (value : Json) (key : String) : Except Raised Json :=
  match value with
  | .object entries =>
      match Json.get? entries key with
      | some found => .ok found
      | none => .error (.keyError ("KeyError(" ++ py.repr key ++ ")"))
  | .list _ =>
      .error (wrongType py "list indices must be integers or slices, not str")
  | .string _ =>
      .error (wrongType py "string indices must be integers, not 'str'")
  | other =>
      .error (wrongType py
        ("'" ++ typeName other ++ "' object is not subscriptable"))

/-- `json.loads(value)`. -/
def loadsValue : Json → Except Raised Json
  | .string text => (libraries.loads text).run
  | other =>
      .error (wrongType py
        ("the JSON object must be str, bytes or bytearray, not " ++
          typeName other))

/-- `response.is_success`. -/
def isSuccess (status : Nat) : Bool :=
  decide (200 ≤ status) && decide (status ≤ 299)

/-- The parsed `message.content` of the response. -/
def parseExchange : Exchange → Except Raised Json
  | .httpError repr => .error (.httpError repr)
  | .response status body =>
      if isSuccess status then do
        let outer ← (libraries.loadsBytes body).run
        let message ← subscript py outer "message"
        let content ← subscript py message "content"
        loadsValue py libraries content
      else .error (.httpError (libraries.statusError status))

def protocolError (message : String) : Exc :=
  .plain py "OllamaProtocolError" .other message

def recursionError : Exc :=
  .plain py "RecursionError" .other "maximum recursion depth exceeded"

/-- `except (httpx.HTTPError, ValueError, KeyError, TypeError)`. -/
def wrapped (baseUrl : String) : Raised → Exc
  | .httpError repr | .valueError repr | .keyError repr | .typeError repr =>
      protocolError py
        ("chat call to " ++ baseUrl ++ " returned no well-formed answer: " ++
          repr)
  | .recursionError => recursionError py

/-- One round trip in JSON mode. -/
def chat (client : OllamaLLM) (messages : List Message) :
    Except Exc (List (String × Json)) :=
  match parseExchange py libraries (client.post messages) with
  | .error raised => .error (wrapped py client.baseUrl raised)
  | .ok (.object entries) => .ok entries
  | .ok other =>
      .error (protocolError py
        ("model returned a JSON " ++ typeName other ++ ", not an object"))

/-! ## Validation -/

/-- `Classification.model_validate` of the intent alone. -/
def validateClassification (answer : List (String × Json)) :
    Option Classification :=
  match Json.get? answer "intent" with
  | some (.string text) =>
      (Intent.ofValue? text).map fun intent =>
        { intent, matchedKeywords := [] }
  | _ => none

/-- `extra="forbid"`. -/
def noOther (keys : List String) (answer : List (String × Json)) : Bool :=
  answer.all fun entry => keys.contains entry.1

def validateToolCall (answer : List (String × Json)) : Option Step :=
  match Json.get? answer "tool", Json.get? answer "args" with
  | some (.string tool), some (.object args) =>
      if noOther ["decision", "tool", "args"] answer then
        some (.toolCall
          { tool, args := args.map fun entry => (entry.1, .json entry.2) })
      else none
  | _, _ => none

def validateReply (answer : List (String × Json)) : Option Step :=
  match Json.get? answer "template" with
  | some (.string text) =>
      if noOther ["decision", "template"] answer then
        (ReplyTemplate.ofValue? text).map .reply
      else none
  | _ => none

def validateHandoff (answer : List (String × Json)) : Option Step :=
  match Json.get? answer "reason" with
  | some (.string text) =>
      if noOther ["decision", "reason"] answer then
        (HandoffReason.ofValue? text).map .handoff
      else none
  | _ => none

/-- The union of the three decisions, discriminated on `decision`. -/
def validateStep (answer : List (String × Json)) : Option Step :=
  match Json.get? answer "decision" with
  | some (.string "tool_call") => validateToolCall answer
  | some (.string "reply") => validateReply answer
  | some (.string "handoff") => validateHandoff answer
  | _ => none

/-! ## The protocol -/

/-- `except ValidationError`. -/
def orProtocolError {A : Type} (message : String) :
    Option A → Except Exc A
  | some value => .ok value
  | none => .error (protocolError py message)

variable (pydantic : Pydantic) (client : OllamaLLM)

def classifyIntent (ticket : Ticket) : Except Exc Classification := do
  let answer ← chat py libraries client (classifyMessages ticket)
  orProtocolError py
    ("model returned a classification that does not validate: " ++
      pydantic.report "Classification")
    (validateClassification answer)

def decideNextStep (ticket : Ticket) (history : List Observation) :
    Except Exc Step := do
  let answer ← chat py libraries client
    (decideMessages libraries ticket history)
  orProtocolError py
    ("model returned a decision that does not validate: " ++
      pydantic.report "tagged-union[ToolCall,Reply,Handoff]")
    (validateStep answer)

end

end SupportAssistant.Llm.Ollama
