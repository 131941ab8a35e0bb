import SupportAssistant.Api.Routes
import SupportAssistant.Api.Sendable
import SupportAssistant.Storage.Filing

/-!
# The responses

A view is sent when every step of its trace can be serialised once more, and
the whole can be written as JSON and encoded; anything that raises on the way
is a `500`.  Of a ticket that was stored, only the trace can stand in the way.
-/

namespace SupportAssistant.Api.Responses

open SupportAssistant.Enums
open SupportAssistant.Runtime
open SupportAssistant.Runtime.Written
open SupportAssistant.Effects.Mapping
open SupportAssistant.Tracing.Models
open SupportAssistant.Domain
open SupportAssistant.Storage.Sqlite
open SupportAssistant.Storage.Codec
open SupportAssistant.Storage.Compact
open SupportAssistant.Storage.Finality
open SupportAssistant.Storage.Filing
open SupportAssistant.Api.Routes
open SupportAssistant.Api.Schemas
open SupportAssistant.Api.Sendable

/-- `TicketAccepted`. -/
def acceptedBody (id : String) : Json :=
  .object
    [("id", .string id), ("status", .string TicketStatus.processing.value)]

section

variable (py : PyText) (pydantic : Pydantic) (time : TimeText)

/-- `TicketView`, if every step of its trace can be serialised. -/
def servedView (view : TicketView) : Option Json := do
  let trace ← view.trace.mapM (servedStep py time)
  some
    (.object
      [("id", .string view.id), ("user_id", .string view.userId),
        ("status", .string view.status.value),
        ("reply", jsonOption .string view.reply),
        ("handoff_reason", jsonOption (fun reason =>
          .string (HandoffReason.value reason)) view.handoffReason),
        ("created_at", .string (time.dumped view.createdAt)),
        ("updated_at", .string (time.dumped view.updatedAt)),
        ("trace", .list (trace.map .object))])

/-- The body that a view is sent as, if it can be written and encoded. -/
def sentBody (view : TicketView) : Option Json :=
  (servedView py time view).filter fun body => body.sendable py

/-- What a reader is answered: a view and its body, `404` or `500`. -/
inductive Response where
  | ok (view : TicketView) (body : Json)
  | notFound
  | serverError

def Response.isServerError : Response → Bool
  | .serverError => true
  | _ => false

/-- `GET /tickets/{id}`. -/
def respond (database : Database) (ticketId : String) : Response :=
  match (sqliteRepository py pydantic time).get ticketId database with
  | .error _ _ => .serverError
  | .ok none _ => .notFound
  | .ok (some ticket) _ =>
      match sentBody py time (viewOf ticket) with
      | some body => .ok (viewOf ticket) body
      | none => .serverError

theorem respond_of_found {database : Database} {ticketId : String}
    (bound : py.encodes ticketId = true) {ticket : Ticket}
    (found : getTicket py pydantic time database ticketId =
      .ok (some ticket)) :
    respond py pydantic time database ticketId =
      match sentBody py time (viewOf ticket) with
      | some body => .ok (viewOf ticket) body
      | none => .serverError := by
  rw [respond, sqlite_get py pydantic time bound, found]

theorem respond_of_unknown {database : Database} {ticketId : String}
    (bound : py.encodes ticketId = true)
    (missing : getTicket py pydantic time database ticketId = .ok none) :
    respond py pydantic time database ticketId = .notFound := by
  rw [respond, sqlite_get py pydantic time bound, missing]

/-- Nothing is answered under an id that cannot be bound. -/
theorem encodes_of_respond {database : Database} {ticketId : String}
    {view : TicketView} {body : Json}
    (answered : respond py pydantic time database ticketId =
      .ok view body) :
    py.encodes ticketId = true := by
  by_contra unbound
  rw [Bool.not_eq_true] at unbound
  rw [respond, sqlite_get_unbound py pydantic time database unbound]
    at answered
  simp at answered

/-- A view that was answered is that of the stored ticket, with its body. -/
theorem ticket_of_respond {database : Database} {ticketId : String}
    {view : TicketView} {body : Json}
    (answered : respond py pydantic time database ticketId =
      .ok view body) :
    ∃ ticket,
      getTicket py pydantic time database ticketId = .ok (some ticket) ∧
        view = viewOf ticket ∧ sentBody py time view = some body := by
  have bound := encodes_of_respond py pydantic time answered
  rw [respond, sqlite_get py pydantic time bound] at answered
  cases found : getTicket py pydantic time database ticketId with
  | error exc => simp [found] at answered
  | ok held =>
      cases held with
      | none => simp [found] at answered
      | some ticket =>
          cases isBody : sentBody py time (viewOf ticket) with
          | none => simp [found, isBody] at answered
          | some sent =>
              simp only [found, isBody, Response.ok.injEq] at answered
              rcases answered with ⟨rfl, rfl⟩
              exact ⟨ticket, rfl, rfl, isBody⟩

/-- What was answered is what is stored, and the body says it. -/
theorem read_of_respond {database : Database} {ticketId : String}
    {view : TicketView} {body : Json}
    (answered : respond py pydantic time database ticketId =
      .ok view body) :
    readTicket py pydantic time database ticketId = .ok (some view) ∧
      servedView py time view = some body := by
  rcases ticket_of_respond py pydantic time answered with
    ⟨ticket, found, rfl, isBody⟩
  rw [sentBody, Option.filter_eq_some_iff] at isBody
  exact ⟨by rw [readTicket, found]; rfl, isBody.1⟩

end

/-! ## Stored steps -/

theorem dumpDict_storedDict (py : PyText) (dict : Dict) :
    dumpDict py (storedDict dict) = dumpDict py dict := by
  have each : ∀ entry : String × AnyValue,
      dumpValue py (storedValue entry.2) = dumpValue py entry.2 := by
    rintro ⟨key, value⟩
    cases value with
    | json value => rfl
    | other dumped asString => cases dumped <;> rfl
  simp only [dumpDict, storedDict, List.mapM_map]
  congr 1
  funext entry
  exact congrArg (Option.map (entry.1, ·)) (each entry)

/-- A stored step is serialised as the step that was recorded. -/
theorem dumpPayload_storedPayload (py : PyText) (payload : Payload) :
    dumpPayload py (storedPayload payload) = dumpPayload py payload := by
  cases payload with
  | toolCall tool args =>
      simp only [storedPayload, dumpPayload, dumpDict_storedDict]
  | toolResult tool ok summary error =>
      cases summary with
      | none => rfl
      | some summary =>
          simp only [storedPayload, dumpPayload, Option.map_some,
            dumpDict_storedDict]
  | _ => rfl

theorem allJson_storedDict {py : PyText} {dict : Dict}
    {entries : List (String × Json)}
    (dumped : dumpDict py dict = some entries) :
    AllJson (storedDict dict) := by
  have read := dictOf_dumpDict dumped
  simp only [dictOf?, objectOf_object, Option.map_some, Option.some.injEq]
    at read
  rw [← read]
  intro entry member
  rcases List.mem_map.mp member with ⟨⟨name, value⟩, -, rfl⟩
  exact ⟨value, rfl⟩

/-- The values of a step that was written are JSON once it is stored. -/
theorem jsonValued_storedPayload {py : PyText} {payload : Payload}
    (written : Writes py payload) :
    JsonValued (storedPayload payload) := by
  rcases written with ⟨fields, dumped, -⟩
  cases payload with
  | toolCall tool args =>
      rcases Option.bind_eq_some_iff.mp dumped with ⟨entries, argsDumped, -⟩
      exact allJson_storedDict argsDumped
  | toolResult tool ok summary error =>
      cases summary with
      | none => simp [storedPayload, JsonValued]
      | some summary =>
          rcases Option.bind_eq_some_iff.mp dumped with
            ⟨object, summaryDumped, -⟩
          rcases Option.map_eq_some_iff.mp summaryDumped with
            ⟨entries, entriesDumped, -⟩
          rintro dict ⟨⟩
          exact allJson_storedDict entriesDumped
  | _ => trivial

/-! ## Views of stored tickets -/

/-- A view of what was bound to a row and written under it. -/
structure FiledView (py : PyText) (view : TicketView) : Prop where
  id : py.encodes view.id = true
  userId : py.encodes view.userId = true
  reply : ∀ reply ∈ view.reply, py.encodes reply = true
  trace : ∀ step ∈ view.trace,
    JsonValued step.payload ∧ Writes py step.payload ∧
      shortInt step.seq = true

theorem filedView_of_ticket {py : PyText} {time : TimeText}
    {ticket : Ticket} (filed : FiledTicket py time ticket) :
    FiledView py (viewOf ticket) where
  id := filed.id
  userId := filed.userId
  reply := filed.reply
  trace step member := by
    rcases filed.trace step member with ⟨original, rfl, written, small⟩
    have same := dumpPayload_storedPayload py original.payload
    have positive := original.seqPositive
    refine ⟨jsonValued_storedPayload written, ?_,
      shortInt_of_lt (by change (0 : Int) ≤ original.seq; omega) small⟩
    rcases written with ⟨fields, dumped, short⟩
    exact ⟨fields, same.trans dumped, short⟩

/-- Beside its trace, a view of a stored ticket can be sent. -/
theorem sendable_view_iff {py : PyText} {time : TimeText}
    {view : TicketView} (filed : FiledView py view)
    (trace : List (List (String × Json))) :
    (Json.object
      [("id", .string view.id), ("user_id", .string view.userId),
        ("status", .string view.status.value),
        ("reply", jsonOption .string view.reply),
        ("handoff_reason", jsonOption (fun reason =>
          .string (HandoffReason.value reason)) view.handoffReason),
        ("created_at", .string (time.dumped view.createdAt)),
        ("updated_at", .string (time.dumped view.updatedAt)),
        ("trace", .list (trace.map .object))]).sendable py = true ↔
      ∀ step ∈ trace, (Json.object step).sendable py = true := by
  have names : ∀ name ∈ ["id", "user_id", "status", "reply",
      "handoff_reason", "created_at", "updated_at", "trace"],
      py.encodes name = true := by
    have ascii : ["id", "user_id", "status", "reply",
        "handoff_reason", "created_at", "updated_at", "trace"].all fun name =>
        name.toList.all (·.toNat < 128) := by
      decide
    exact fun name known =>
      encodes_of_all py (List.all_eq_true.mp ascii name known)
  simp only [List.forall_mem_cons, List.not_mem_nil, false_implies,
    implies_true, and_true] at names
  have reply : (jsonOption Json.string view.reply).sendable py = true := by
    cases isReply : view.reply with
    | none => rfl
    | some reply =>
        simpa [jsonOption] using filed.reply reply isReply
  have reason : (jsonOption (fun reason =>
      Json.string (HandoffReason.value reason)) view.handoffReason).sendable
        py = true := by
    cases view.handoffReason with
    | none => rfl
    | some reason => simpa [jsonOption] using encodes_handoffReason py reason
  have createdAt : py.encodes (time.dumped view.createdAt) = true :=
    encodes_of_ascii py (time.dumped_ascii view.createdAt)
  have updatedAt : py.encodes (time.dumped view.updatedAt) = true :=
    encodes_of_ascii py (time.dumped_ascii view.updatedAt)
  simp only [sendable_object, List.forall_mem_cons, sendable_string, names,
    filed.id, filed.userId, encodes_ticketStatus py view.status, reply,
    reason, createdAt, updatedAt, sendable_list, List.forall_mem_map,
    List.not_mem_nil, false_implies, implies_true, and_true, true_and]

/-- A stored ticket can be sent exactly if every step of its trace can. -/
theorem sentBody_isSome_iff {py : PyText} {time : TimeText}
    {view : TicketView} (filed : FiledView py view) :
    (∃ body, sentBody py time view = some body) ↔
      ∀ step ∈ view.trace, CanBeSent py step.payload := by
  have steps : (∃ trace, view.trace.mapM (servedStep py time) = some trace ∧
      ∀ served ∈ trace, (Json.object served).sendable py = true) ↔
        ∀ step ∈ view.trace, CanBeSent py step.payload := by
    rw [exists_mapM_iff]
    apply forall₂_congr
    intro step member
    rcases filed.trace step member with ⟨json, written, counted⟩
    exact sent_iff json written counted
  rw [← steps]
  simp only [sentBody, Option.filter_eq_some_iff, servedView,
    Option.bind_eq_bind, Option.bind_eq_some_iff, Option.some.injEq]
  constructor
  · rintro ⟨-, ⟨trace, served, rfl⟩, sendable⟩
    exact ⟨trace, served, (sendable_view_iff filed trace).mp sendable⟩
  · rintro ⟨trace, served, sendable⟩
    exact ⟨_, ⟨trace, served, rfl⟩,
      (sendable_view_iff filed trace).mpr sendable⟩

end SupportAssistant.Api.Responses
