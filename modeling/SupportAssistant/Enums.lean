import Mathlib.Logic.Basic

/-!
# The shared enumerations

The closed vocabularies that the whole service agrees on, each with the text
its members are written as.  A stored text is read back with `ofValue?`.
-/

namespace SupportAssistant.Enums

/-- The kind of question a ticket is asking. -/
inductive Intent where
  | billingQuestion
  | chargingSessionProblem
  | unknown
deriving DecidableEq, Repr

/-- `processing`, and the two terminal states. -/
inductive TicketStatus where
  | processing
  | replied
  | handedOff
deriving DecidableEq, Repr

/-- The reply the pipeline renders. -/
inductive ReplyTemplate where
  | billingAllPaid
  | billingFailed
  | billingPending
  | sessionCompleted
  | sessionInterrupted
deriving DecidableEq, Repr

inductive SessionStatus where
  | completed
  | interrupted
  | failed
deriving DecidableEq, Repr

inductive InvoiceStatus where
  | paid
  | pending
  | failed
deriving DecidableEq, Repr

/-- Why a ticket was handed to a human. -/
inductive HandoffReason where
  | userNotFound
  | dataNotFound
  | unsupportedIntent
  | toolError
  | iterationCapExceeded
  | ungroundedReply
deriving DecidableEq, Repr

/-- How a literal in a reply was extracted. -/
inductive LiteralClass where
  | number
  | identifier
  | status
deriving DecidableEq, Repr

def Intent.value : Intent → String
  | .billingQuestion => "billing_question"
  | .chargingSessionProblem => "charging_session_problem"
  | .unknown => "unknown"

def TicketStatus.value : TicketStatus → String
  | .processing => "processing"
  | .replied => "replied"
  | .handedOff => "handed_off"

def ReplyTemplate.value : ReplyTemplate → String
  | .billingAllPaid => "billing_all_paid"
  | .billingFailed => "billing_failed"
  | .billingPending => "billing_pending"
  | .sessionCompleted => "session_completed"
  | .sessionInterrupted => "session_interrupted"

def SessionStatus.value : SessionStatus → String
  | .completed => "completed"
  | .interrupted => "interrupted"
  | .failed => "failed"

def InvoiceStatus.value : InvoiceStatus → String
  | .paid => "paid"
  | .pending => "pending"
  | .failed => "failed"

def HandoffReason.value : HandoffReason → String
  | .userNotFound => "USER_NOT_FOUND"
  | .dataNotFound => "DATA_NOT_FOUND"
  | .unsupportedIntent => "UNSUPPORTED_INTENT"
  | .toolError => "TOOL_ERROR"
  | .iterationCapExceeded => "ITERATION_CAP_EXCEEDED"
  | .ungroundedReply => "UNGROUNDED_REPLY"

def LiteralClass.value : LiteralClass → String
  | .number => "number"
  | .identifier => "identifier"
  | .status => "status"

/-! ## Members, in the order of declaration -/

def Intent.members : List Intent :=
  [.billingQuestion, .chargingSessionProblem, .unknown]

def TicketStatus.members : List TicketStatus :=
  [.processing, .replied, .handedOff]

def ReplyTemplate.members : List ReplyTemplate :=
  [.billingAllPaid, .billingFailed, .billingPending, .sessionCompleted,
    .sessionInterrupted]

def SessionStatus.members : List SessionStatus :=
  [.completed, .interrupted, .failed]

def InvoiceStatus.members : List InvoiceStatus :=
  [.paid, .pending, .failed]

def HandoffReason.members : List HandoffReason :=
  [.userNotFound, .dataNotFound, .unsupportedIntent, .toolError,
    .iterationCapExceeded, .ungroundedReply]

def LiteralClass.members : List LiteralClass :=
  [.number, .identifier, .status]

/-! ## Reading a member back from its text -/

def Intent.ofValue? (text : String) : Option Intent :=
  Intent.members.find? (·.value == text)

def TicketStatus.ofValue? (text : String) : Option TicketStatus :=
  TicketStatus.members.find? (·.value == text)

def ReplyTemplate.ofValue? (text : String) : Option ReplyTemplate :=
  ReplyTemplate.members.find? (·.value == text)

def SessionStatus.ofValue? (text : String) : Option SessionStatus :=
  SessionStatus.members.find? (·.value == text)

def InvoiceStatus.ofValue? (text : String) : Option InvoiceStatus :=
  InvoiceStatus.members.find? (·.value == text)

def HandoffReason.ofValue? (text : String) : Option HandoffReason :=
  HandoffReason.members.find? (·.value == text)

def LiteralClass.ofValue? (text : String) : Option LiteralClass :=
  LiteralClass.members.find? (·.value == text)

@[simp]
theorem Intent.ofValue?_value (intent : Intent) :
    Intent.ofValue? intent.value = some intent := by
  cases intent <;> rfl

@[simp]
theorem TicketStatus.ofValue?_value (status : TicketStatus) :
    TicketStatus.ofValue? status.value = some status := by
  cases status <;> rfl

@[simp]
theorem ReplyTemplate.ofValue?_value (template : ReplyTemplate) :
    ReplyTemplate.ofValue? template.value = some template := by
  cases template <;> rfl

@[simp]
theorem SessionStatus.ofValue?_value (status : SessionStatus) :
    SessionStatus.ofValue? status.value = some status := by
  cases status <;> rfl

@[simp]
theorem InvoiceStatus.ofValue?_value (status : InvoiceStatus) :
    InvoiceStatus.ofValue? status.value = some status := by
  cases status <;> rfl

@[simp]
theorem HandoffReason.ofValue?_value (reason : HandoffReason) :
    HandoffReason.ofValue? reason.value = some reason := by
  cases reason <;> rfl

@[simp]
theorem LiteralClass.ofValue?_value (literalClass : LiteralClass) :
    LiteralClass.ofValue? literalClass.value = some literalClass := by
  cases literalClass <;> rfl

theorem SessionStatus.mem_members (status : SessionStatus) :
    status ∈ SessionStatus.members := by
  cases status <;> simp [SessionStatus.members]

theorem InvoiceStatus.mem_members (status : InvoiceStatus) :
    status ∈ InvoiceStatus.members := by
  cases status <;> simp [InvoiceStatus.members]

end SupportAssistant.Enums
