import SupportAssistant.Demo.Coherence
import SupportAssistant.Observability.Stored

/-!
# What the page counts as demonstrated

The panel counts what the page has been told so far, also under ids that it
no longer lists.  It counts no ticket twice and nothing that the database does
not hold.
-/

namespace SupportAssistant.Demo.Coverage

open SupportAssistant.Enums
open SupportAssistant.Runtime
open SupportAssistant.Runtime.Ascii
open SupportAssistant.Domain
open SupportAssistant.Storage.Sqlite
open SupportAssistant.Storage.Finality
open SupportAssistant.Observability.Stored
open SupportAssistant.Api.Routes
open SupportAssistant.Api.Responses
open SupportAssistant.Api.Process
open SupportAssistant.Api.ServedViews
open SupportAssistant.Demo.Seeding
open SupportAssistant.Demo.App
open SupportAssistant.Demo.Coherence

/-- Rows that pass and have different keys are counted once each. -/
theorem length_le_countP {α β : Type} {rows : List α} {passes : α → Bool}
    (key : α → Option β) {keys : List β} (nodup : keys.Nodup)
    (found : ∀ wanted ∈ keys, ∃ row ∈ rows,
      passes row = true ∧ key row = some wanted) :
    keys.length ≤ rows.countP passes := by
  rw [List.countP_eq_length_filter]
  refine le_trans (nodup.length_le_of_subset ?_)
    (List.length_filterMap_le key _)
  intro wanted member
  rcases found wanted member with ⟨row, isRow, isPassing, isKey⟩
  exact List.mem_filterMap.mpr
    ⟨row, List.mem_filter.mpr ⟨isRow, isPassing⟩, isKey⟩

section

variable {py : PyText} {pydantic : Pydantic} {time : TimeText}
variable {world : World} {id : String} {ticket : Json}

/-! ## From a view to its row -/

/-- The row that a view was read from. -/
structure RowOf (id : String) (view : TicketView) (row : TicketRow) :
    Prop where
  id : row.id = id
  status : row.status = view.status.value
  reply : row.reply = view.reply
  reason : row.handoffReason = view.handoffReason.map HandoffReason.value
  agrees : statusReplyAndReasonAgree view.status view.reply
    view.handoffReason = true

theorem reason_of_text {text : Option String}
    {reason : Option HandoffReason}
    (read : handoffReasonOf py text = .ok reason) :
    text = reason.map HandoffReason.value := by
  cases text with
  | none =>
      rw [← Except.ok.inj read]
      rfl
  | some text =>
      simp only [handoffReasonOf] at read
      split at read
      · rename_i found isMember
        unfold HandoffReason.ofValue? at isMember
        have isText : found.value = text := by
          simpa using List.find?_some isMember
        rw [← Except.ok.inj read, Option.map_some, isText]
      · simp at read

theorem exists_row {database : Database} {view : TicketView}
    (read : readTicket py pydantic time database id = .ok (some view)) :
    ∃ row ∈ database.tickets, RowOf id view row := by
  rcases getTicket_of_read read with ⟨served, got, isView⟩
  rcases Option.map_eq_some_iff.mp isView with ⟨ticket, rfl, rfl⟩
  rcases (getTicket_some_iff py pydantic time).mp got with ⟨row, found, reads⟩
  have isRow : database.tickets.find? (·.id == id) = some row := found
  have columns := (ticketOfRow_iff py pydantic time).mp reads
  have isMember := columns.status
  unfold TicketStatus.ofValue? at isMember
  have isStatus : ticket.status.value = row.status := by
    simpa using List.find?_some isMember
  exact ⟨row, List.mem_of_find?_eq_some isRow,
    { id := by simpa using List.find?_some isRow
      status := isStatus.symm
      reply := columns.reply.symm
      reason := reason_of_text columns.reason
      agrees := ticket.agrees }⟩

/-! ## What is counted -/

theorem parsed_text (text : Option String) :
    parsed (jsonOption .string text) = jsonOption .string text := by
  cases text <;> rfl

theorem member_of_served {view : TicketView} {body : Json}
    (isBody : servedView py time view = some body) :
    member (parsed body) "reply" = some (jsonOption .string view.reply) ∧
      member (parsed body) "handoff_reason" =
        some (jsonOption (fun reason => .string (HandoffReason.value reason))
          view.handoffReason) := by
  rcases Option.bind_eq_some_iff.mp isBody with ⟨trace, -, isObject⟩
  obtain rfl := Option.some.inj isObject
  constructor <;> rw [member_parsed]
  · exact congrArg some (parsed_text view.reply)
  · cases view.handoffReason <;> rfl

/-- A ticket that is shown with a reason or a reply has settled. -/
theorem view_of_counted
    (shows : Shows py pydantic time world id ticket)
    (counted : (replyOf ticket).isSome = true ∨
      ∃ reason, memberIs ticket "handoff_reason" reason = true) :
    ∃ view body, readTicket py pydantic time world.database id =
        .ok (some view) ∧
      servedView py time view = some body ∧ ticket = parsed body := by
  cases shows with
  | placeholder accepted =>
      simp [replyOf, memberIs, member, Page.placeholder, Json.get?]
        at counted
  | @waiting view _ _ isBody waits read same =>
      rcases member_of_served isBody with ⟨reply, reason⟩
      simp [replyOf, memberIs, reply, reason, waits.reply, waits.reason,
        jsonOption, Seed.same] at counted
  | @settled view body settles answered =>
      rcases read_of_respond py pydantic time answered with ⟨read, isBody⟩
      exact ⟨view, body, read, isBody, rfl⟩

theorem row_of_reason {reason : HandoffReason}
    (shows : Shows py pydantic time world id ticket)
    (given : memberIs ticket "handoff_reason" reason.value = true) :
    ∃ row ∈ world.database.tickets,
      (row.handoffReason == some reason.value) = true ∧
        some row.id = some id := by
  rcases view_of_counted shows (Or.inr ⟨_, given⟩) with
    ⟨view, body, read, isBody, rfl⟩
  rcases exists_row read with ⟨row, isRow, columns⟩
  rw [memberIs, (member_of_served isBody).2] at given
  simp only [same_reason, decide_eq_true_eq] at given
  refine ⟨row, isRow, ?_, congrArg some columns.id⟩
  rw [columns.reason, given, beq_self_eq_true]

theorem row_of_reply {reply : String}
    (shows : Shows py pydantic time world id ticket)
    (sent : replyOf ticket = some reply) :
    ∃ row ∈ world.database.tickets,
      (row.status == TicketStatus.replied.value) = true ∧
        row.reply = some reply := by
  rcases view_of_counted shows (Or.inl (by simp [sent])) with
    ⟨view, body, read, isBody, rfl⟩
  rcases exists_row read with ⟨row, isRow, columns⟩
  have replied : view.reply = some reply := by
    rw [replyOf, (member_of_served isBody).1] at sent
    cases isReply : view.reply with
    | none => simp [isReply, jsonOption] at sent
    | some text =>
        simp only [isReply, jsonOption] at sent
        split at sent
        · simp at sent
        · exact sent
  refine ⟨row, isRow, ?_, columns.reply.trans replied⟩
  have agrees := columns.agrees
  rw [replied] at agrees
  rw [columns.status]
  cases status : view.status with
  | replied => exact beq_self_eq_true _
  | processing => simp [status, statusReplyAndReasonAgree] at agrees
  | handedOff => simp [status, statusReplyAndReasonAgree] at agrees

/-! ## The panel -/

variable {storage : Option Json} {system : System}

/-- What is in the map is shown. -/
theorem shows_of_entry (used : Used py pydantic time storage system)
    {entry : Sigma fun _ : String => Json}
    (member : entry ∈ system.page.tickets.entries) :
    Shows py pydantic time system.world entry.1 entry.2 :=
  (coherent_of_used used).truthful.tickets entry.1 entry.2
    (AList.mem_lookup_iff.mpr member)

theorem seen_le_stored (used : Used py pydantic time storage system)
    (reason : HandoffReason) :
    seen system.page.tickets reason ≤
      stored time system.world.database (.handoffs reason) := by
  let given : (Sigma fun _ : String => Json) → Bool :=
    fun entry => memberIs entry.2 "handoff_reason" reason.value
  have distinct :
      ((system.page.tickets.entries.filter given).map Sigma.fst).Nodup :=
    List.Nodup.sublist (List.filter_sublist.map Sigma.fst)
      system.page.tickets.keys_nodup
  rw [seen, List.countP_eq_length_filter, ← List.length_map Sigma.fst]
  apply length_le_countP (fun row : TicketRow => some row.id) distinct
  intro id member
  rcases List.mem_map.mp member with ⟨entry, isGiven, rfl⟩
  rcases List.mem_filter.mp isGiven with ⟨isEntry, isReason⟩
  exact row_of_reason (shows_of_entry used isEntry) isReason

theorem replies_le_stored (used : Used py pydantic time storage system) :
    (replies system.page.tickets).length ≤
      stored time system.world.database (.tickets .replied) := by
  apply length_le_countP TicketRow.reply (List.nodup_dedup _)
  intro reply member
  rw [List.mem_dedup] at member
  rcases List.mem_filterMap.mp member with ⟨entry, isEntry, isReply⟩
  exact row_of_reply (shows_of_entry used isEntry) isReply

/--
Whatever the page has been told and has forgotten, in whatever order: no count
of its panel exceeds what the database holds, a reason is only marked as seen
if a ticket was handed off for it, and the replies are only complete if there
are as many tickets that were replied to.
-/
theorem panel_counts_what_is_stored
    (used : Used py pydantic time storage system) :
    (∀ row ∈ (renderCoverage system.page.tickets).rows,
        row.count ≤
            stored time system.world.database (.handoffs row.reason) ∧
          (row.mark = .seen →
            0 < stored time system.world.database
              (.handoffs row.reason))) ∧
      (renderCoverage system.page.tickets).replies ≤
          stored time system.world.database (.tickets .replied) ∧
        ((renderCoverage system.page.tickets).complete = true →
          templateCount ≤
            stored time system.world.database (.tickets .replied)) := by
  have replied := replies_le_stored used
  refine ⟨?_, replied, ?_⟩
  · intro row member
    rcases List.mem_map.mp member with ⟨⟨reason, unreachable⟩, -, rfl⟩
    have counted := seen_le_stored used reason
    refine ⟨counted, fun marked => lt_of_lt_of_le ?_ counted⟩
    rw [Nat.pos_iff_ne_zero]
    intro unseen
    simp only [unseen, ne_eq, not_true_eq_false, if_false] at marked
    split at marked <;> simp at marked
  · intro complete
    rw [← beq_iff_eq.mp (show (replies system.page.tickets).length ==
      templateCount from complete)]
    exact replied

end

/-- The resting page counts the one hand-off. -/
theorem restingPage_counts :
    seen restingPage.tickets .unsupportedIntent = 1 ∧
      (∀ row ∈ (renderCoverage restingPage.tickets).rows,
          row.count ≤
              stored tallyTime settledWorld.database (.handoffs row.reason) ∧
            (row.mark = .seen →
              0 < stored tallyTime settledWorld.database
                (.handoffs row.reason))) ∧
        (renderCoverage restingPage.tickets).replies ≤
            stored tallyTime settledWorld.database (.tickets .replied) ∧
          ((renderCoverage restingPage.tickets).complete = true →
            templateCount ≤
              stored tallyTime settledWorld.database
                (.tickets .replied)) :=
  ⟨by decide, panel_counts_what_is_stored restingPage_used⟩

end SupportAssistant.Demo.Coverage
