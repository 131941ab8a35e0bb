import Mathlib.Data.List.AList
import SupportAssistant.Demo.Seed

/-!
# The demo page

A page in a browser.  It posts tickets, asks for each of them until it is no
longer processing, and keeps what it was last told under each id.  The ids
that it was given outlive it in the storage of the browser, which may refuse
to keep them: then the call that stores them raises.

Whatever the page awaits, a response or a timer, is pending until it completes
or fails, in no particular order.  Of what is drawn, the model has the status
of each ticket and the panel that counts what has been demonstrated.  Beside
what the page holds, it notes what has happened since it was loaded.
-/

namespace SupportAssistant.Demo.App

open SupportAssistant.Enums
open SupportAssistant.Runtime
open SupportAssistant.Demo.Seed

/-! ## Values -/

/--
The nearest number with 53 significant bits, and of two that are as near the
one that is even.
-/
def roundToDouble (value : Nat) : Nat :=
  let unit := 2 ^ (value.log2 + 1 - 53)
  let kept := value / unit
  let rest := value % unit
  if unit < 2 * rest ∨ unit = 2 * rest ∧ kept % 2 = 1 then (kept + 1) * unit
  else kept * unit

example : roundToDouble 9007199254740993 = 9007199254740992 := by
  decide +kernel

/-- No finite double has more bits. -/
def maxDoubleBits : Nat := 1024

/-- The double that an integer is read as. -/
def toDouble (value : Int) : Json :=
  let rounded := roundToDouble value.natAbs
  if rounded < 2 ^ maxDoubleBits then .int (value.sign * rounded)
  else .float (if value < 0 then "-Infinity" else "Infinity")

mutual

/--
`JSON.parse` of the text of a value: every number becomes a double.  The text
of a float stands for one already.
-/
def parsed : Json → Json
  | .int value => toDouble value
  | .list items => .list (parsedItems items)
  | .object entries => .object (parsedEntries entries)
  | value => value

def parsedItems : List Json → List Json
  | [] => []
  | item :: items => parsed item :: parsedItems items

def parsedEntries : List (String × Json) → List (String × Json)
  | [] => []
  | (key, value) :: entries => (key, parsed value) :: parsedEntries entries

end

/-- `value.key`, where `none` is `undefined`. -/
def member (value : Json) (key : String) : Option Json :=
  match value with
  | .object entries => Json.get? entries key
  | _ => none

/-- `value.key === text`. -/
def memberIs (value : Json) (key text : String) : Bool :=
  match member value key with
  | some found => same (some text) found
  | none => false

/-- `ticket.status === "processing"`. -/
def isProcessing (ticket : Json) : Bool :=
  memberIs ticket "status" "processing"

theorem get?_parsedEntries (entries : List (String × Json)) (key : String) :
    Json.get? (parsedEntries entries) key =
      (Json.get? entries key).map parsed := by
  induction entries with
  | nil => rfl
  | cons entry entries induction =>
      rcases entry with ⟨name, value⟩
      simp only [parsedEntries, Json.get?, List.find?_cons] at induction ⊢
      cases name == key with
      | true => rfl
      | false => exact induction

/-- What stands under a key is parsed with the rest. -/
theorem member_parsed (value : Json) (key : String) :
    member (parsed value) key = (member value key).map parsed := by
  cases value with
  | object entries => exact get?_parsedEntries entries key
  | int value =>
      rw [parsed, toDouble]
      split <;> rfl
  | _ => rfl

/-! ## What is awaited -/

/-- A ticket to be sent, and the label it is listed under. -/
structure Submission where
  userId : String
  subject : String
  body : String
  label : String

def Submission.payload (submission : Submission) : List (String × Json) :=
  [("user_id", .string submission.userId),
    ("subject", .string submission.subject),
    ("body", .string submission.body)]

/-- Who called `poll`. -/
inductive Caller where
  /-- `start`, which forgets the id if the first read fails. -/
  | start
  /-- `send`, with what the loop of the seeding button still has to send. -/
  | send (rest : List Submission)
  | timer

structure Poll where
  id : String
  attempt : Nat
  caller : Caller

/-- A call of `readTicket`. -/
inductive Read where
  | poll (poll : Poll)
  /-- The button that opens a ticket by its id. -/
  | lookup (id : String)

def Read.id : Read → String
  | .poll asked => asked.id
  | .lookup id => id

inductive Pending where
  /-- The request for the scenarios. -/
  | loading
  | posting (submission : Submission) (rest : List Submission)
  /-- The service has accepted a ticket, and this response is on its way. -/
  | accepted (response : Json) (label : String) (rest : List Submission)
  | reading (read : Read)
  /-- The service has answered, and this ticket is on its way. -/
  | answered (read : Read) (ticket : Json)
  | sleeping (id : String) (attempt : Nat)

/-- The id that is polled, and how often it has been asked for before. -/
def Pending.polls : Pending → Option (String × Nat)
  | .reading (.poll poll) => some (poll.id, poll.attempt)
  | .answered (.poll poll) _ => some (poll.id, poll.attempt)
  | .sleeping id attempt => some (id, attempt)
  | _ => none

theorem polls_answered (read : Read) (ticket : Json) :
    (Pending.answered read ticket).polls = (Pending.reading read).polls := by
  cases read <;> rfl

/-- What has become of what was awaited. -/
inductive Happening where
  | notLoaded
  | polled (id : String) (attempt : Nat) (ticket : Json)
  | pollFailed (id : String)
  | opened (id : String) (ticket : Json)
  /-- The id is listed, but the storage did not keep it. -/
  | notStored (id : String)

/-! ## The page -/

structure Held where
  id : String
  label : Json

/-- The `Map` from ids to tickets. -/
abbrev Tickets := AList fun _ : String => Json

structure Page where
  held : List Held
  tickets : Tickets
  selected : Option String
  /-- What is in `localStorage`, if it is there and can be parsed. -/
  storage : Option Json
  /-- The last write to the storage raised. -/
  unsaved : Bool
  pending : List Pending
  history : List Happening

def pollLimit : Nat := 40

def Held.toJson (entry : Held) : Json :=
  .object [("id", .string entry.id), ("label", entry.label)]

/-- An item of the storage, if it has an id. -/
def heldOf (item : Json) : Option Held :=
  match member item "id" with
  | some (.string id) => some ⟨id, (member item "label").getD .null⟩
  | _ => none

def restore : Option Json → List Held
  | some (.list items) => items.filterMap heldOf
  | _ => []

namespace Page

/-- The page as it is loaded: `wire`, and `start` up to its first response. -/
def load (storage : Option Json) : Page where
  held := restore storage
  tickets := ∅
  selected := none
  storage := storage
  unsaved := false
  pending := [.loading]
  history := []

def await (page : Page) (awaited : Pending) : Page :=
  { page with pending := page.pending ++ [awaited] }

def note (page : Page) (happening : Happening) : Page :=
  { page with history := page.history ++ [happening] }

/-- `held` is assigned, and stored if the browser does not raise. -/
def keep (page : Page) (held : List Held) (stores : Bool) : Page :=
  if stores then
    { page with
      held, storage := some (.list (held.map Held.toJson)), unsaved := false }
  else { page with held, unsaved := true }

def remember (page : Page) (id label : String) (stores : Bool) : Page :=
  page.keep (page.held ++ [⟨id, .string label⟩]) stores

def forget (page : Page) (id : String) (stores : Bool) : Page :=
  { page.keep (page.held.filter (·.id != id)) stores with
    tickets := page.tickets.erase id
    selected := if page.selected = some id then none else page.selected }

def forgetAll (page : Page) (stores : Bool) : Page :=
  { page with
    held := []
    tickets := ∅
    selected := none
    storage := if stores then none else page.storage
    unsaved := !stores }

/-- `tickets.set`. -/
def setTicket (page : Page) (id : String) (ticket : Json) : Page :=
  { page with tickets := page.tickets.insert id ticket }

/-! ## Completion -/

/-- The rest of `start`. -/
def started (page : Page) : Page :=
  { page with
    pending := page.pending ++ page.held.map fun entry =>
      .reading (.poll ⟨entry.id, 0, .start⟩) }

/-- The rest of `poll`. -/
def told (page : Page) (poll : Poll) (ticket : Json) : Page :=
  let shown := (page.setTicket poll.id ticket).note
    (.polled poll.id poll.attempt ticket)
  if isProcessing ticket && decide (poll.attempt < pollLimit) then
    shown.await (.sleeping poll.id (poll.attempt + 1))
  else shown

/-- The rest of `poll`, and of the loop that may have called it. -/
def polled (page : Page) (poll : Poll) (ticket : Json) : Page :=
  match poll.caller with
  | .send (submission :: rest) =>
      (page.told poll ticket).await (.posting submission rest)
  | _ => page.told poll ticket

/-- What is shown of a ticket before it has been read. -/
def placeholder (id status : Json) : Json :=
  .object [("id", id), ("status", status), ("trace", .list [])]

/-- The rest of `send`, up to its poll; it ends where `remember` raises. -/
def sent (page : Page) (response : Json) (label : String)
    (rest : List Submission) (stores : Bool) : Option Page :=
  match member response "id", member response "status" with
  | some (.string id), some status =>
      let remembered := page.remember id label stores
      if stores then
        some (({ remembered with selected := some id }.setTicket id
            (placeholder (.string id) status)).await
          (.reading (.poll ⟨id, 0, .send rest⟩)))
      else some (remembered.note (.notStored id))
  | _, _ => none

/-- What is shown of a ticket that was opened by its id. -/
def shown (page : Page) (id : String) (ticket : Json) : Page :=
  { (page.setTicket id ticket).note (.opened id ticket) with
    selected := some id }

/-- The rest of opening a ticket by its id, which is listed if need be. -/
def opened (page : Page) (id : String) (ticket : Json) (stores : Bool) :
    Page :=
  if page.held.any (·.id == id) then page.shown id ticket
  else if stores then
    (page.remember id "Opened by id" stores).shown id ticket
  else (page.remember id "Opened by id" stores).note (.notStored id)

/-- What was awaited has come, and is no longer pending. -/
def complete (page : Page) (stores : Bool) : Pending → Option Page
  | .loading => some page.started
  | .accepted response label rest => page.sent response label rest stores
  | .answered (.poll poll) ticket => some (page.polled poll ticket)
  | .answered (.lookup id) ticket => some (page.opened id ticket stores)
  | .sleeping id attempt =>
      some (page.await (.reading (.poll ⟨id, attempt, .timer⟩)))
  -- only the service can answer these
  | .posting .. | .reading _ => none

/-- A poll has raised. -/
def pollRaised (page : Page) (poll : Poll) (stores : Bool) : Page :=
  match poll.caller with
  | .start => page.forget poll.id stores
  | _ => page.note (.pollFailed poll.id)

/-- What was awaited has failed, and is no longer pending. -/
def fail (page : Page) (stores : Bool) : Pending → Option Page
  | .loading => some (page.note .notLoaded)
  | .posting .. | .accepted .. => some page
  | .reading (.poll poll) | .answered (.poll poll) _ =>
      some (page.pollRaised poll stores)
  | .reading (.lookup _) | .answered (.lookup _) _ => some page
  | .sleeping .. => none

/-- What the page does by itself or for its user. -/
inductive Acts : Page → Page → Prop where
  /-- The form, or the seeding button with its shuffled scenarios. -/
  | submitted {page : Page} (submission : Submission)
      (rest : List Submission) :
      Acts page (page.await (.posting submission rest))
  | typed {page : Page} (id : String) :
      Acts page (page.await (.reading (.lookup id)))
  | clicked {page : Page} (id : String) :
      Acts page { page with selected := some id }
  | forgot {page : Page} (stores : Bool) : Acts page (page.forgetAll stores)
  | reloaded {page : Page} : Acts page (load page.storage)
  | completed {page next : Page} {before after : List Pending}
      {awaited : Pending} (stores : Bool)
      (isPending : page.pending = before ++ awaited :: after)
      (completes : { page with pending := before ++ after }.complete
        stores awaited = some next) :
      Acts page next
  | failed {page next : Page} {before after : List Pending}
      {awaited : Pending} (stores : Bool)
      (isPending : page.pending = before ++ awaited :: after)
      (fails : { page with pending := before ++ after }.fail stores
        awaited = some next) :
      Acts page next

/-! ## What is drawn -/

/-- The status that `renderTickets` draws beside an id. -/
def status (page : Page) (id : String) : Option Json :=
  match page.tickets.lookup id with
  | some ticket => member ticket "status"
  | none => some (.string "processing")

end Page

/-- The reasons, and whether the page says that they cannot be reached. -/
def reasons : List (HandoffReason × Bool) :=
  [(.userNotFound, false), (.dataNotFound, false),
    (.unsupportedIntent, false), (.toolError, false),
    (.iterationCapExceeded, true), (.ungroundedReply, true)]

def templateCount : Nat := 5

/-- How many tickets have this reason. -/
def seen (tickets : Tickets) (reason : HandoffReason) : Nat :=
  tickets.entries.countP fun entry =>
    memberIs entry.2 "handoff_reason" reason.value

/-- The reply of a ticket, unless it is falsy. -/
def replyOf (ticket : Json) : Option String :=
  match member ticket "reply" with
  | some (.string reply) => if reply = "" then none else some reply
  | _ => none

def replies (tickets : Tickets) : List String :=
  (tickets.entries.filterMap fun entry => replyOf entry.2).dedup

inductive Mark where
  | seen
  | unreachable
  | unseen
deriving DecidableEq

structure CoverageRow where
  reason : HandoffReason
  mark : Mark
  count : Nat

structure Coverage where
  rows : List CoverageRow
  replies : Nat
  complete : Bool

def renderCoverage (tickets : Tickets) : Coverage where
  rows := reasons.map fun (reason, unreachable) =>
    let count := seen tickets reason
    { reason
      mark :=
        if count ≠ 0 then .seen
        else if unreachable then .unreachable else .unseen
      count }
  replies := (replies tickets).length
  complete := (replies tickets).length == templateCount

end SupportAssistant.Demo.App
