import SupportAssistant.Api.ServedViews
import SupportAssistant.Demo.Seed

/-!
# Seeding a running service

The requests of the seeder reach the service between its other moments, among
those of other clients, and any of them may fail on the way.  Whatever it
reports is then so: where a ticket landed as expected it stays, and where it
did not, it has settled elsewhere or was asked for in vain.
-/

namespace SupportAssistant.Demo.Seeding

open SupportAssistant.Enums
open SupportAssistant.Runtime
open SupportAssistant.Runtime.Ascii
open SupportAssistant.Effects.Outcomes
open SupportAssistant.Tracing.Models
open SupportAssistant.Domain
open SupportAssistant.Storage.Sqlite
open SupportAssistant.Storage.Finality
open SupportAssistant.Api.Routes
open SupportAssistant.Api.Visibility
open SupportAssistant.Api.Responses
open SupportAssistant.Api.Process
open SupportAssistant.Api.Lifecycle
open SupportAssistant.Api.ServedViews
open SupportAssistant.Demo.Seed

/-! ## What the seeder and the service say -/

/-- The body of a `POST`. -/
def requestBody (payload : CreateTicketRequest) : List (String × Json) :=
  [("user_id", .string payload.userId),
    ("subject", .string payload.subject), ("body", .string payload.body)]

section

variable (py : PyText) (pydantic : Pydantic) (time : TimeText)
variable (baseUrl : String)

/-- The service after it has accepted a ticket. -/
def World.posted (world : World) (database : Database) (id : String)
    (now : Reading) : World :=
  { (world.advance id .scheduled).read now with
    database, accepted := world.accepted ++ [id] }

/-- A request of the seeder, and what the service does about it. -/
inductive Exchanged : Exchange → World → World → Prop where
  | posted {world : World} {database : Database}
      (payload : CreateTicketRequest) (id : String) (now : Reading)
      (created : create py time (newTicket payload id now) world.database =
        .ok ⟨⟩ database) :
      Exchanged
        (⟨baseUrl ++ "/tickets", some (requestBody payload)⟩,
          .answered (acceptedBody id))
        world (World.posted world database id now)
  | served {world : World} {view : TicketView} {body : Json} (id : String)
      (answered : respond py pydantic time world.database id =
        .ok view body) :
      Exchanged
        (⟨baseUrl ++ "/tickets/" ++ id, none⟩, .answered body) world world
  /--
  A `404`, a `422`, a `500`, or no response at all.  A ticket that was posted
  without a response is among the service's other moments.
  -/
  | failed {world : World} {reply : Reply} (request : Request)
      (nothing : ∀ body, reply ≠ .answered body) :
      Exchanged (request, reply) world world

/-- What the service may do while it has these exchanges. -/
inductive Told : List Exchange → World → World → Prop where
  | quiet {world next : World}
      (later : Later py pydantic time world next) :
      Told [] world next
  | next {exchange : Exchange} {exchanges : List Exchange}
      {world before after last : World}
      (later : Later py pydantic time world before)
      (exchanged : Exchanged py pydantic time baseUrl exchange before after)
      (told : Told exchanges after last) :
      Told (exchange :: exchanges) world last

end

section

variable {py : PyText} {pydantic : Pydantic} {time : TimeText}
variable {baseUrl : String} {world next last : World}

theorem Exchanged.later {exchange : Exchange}
    (exchanged : Exchanged py pydantic time baseUrl exchange world next) :
    Later py pydantic time world next := by
  cases exchanged with
  | posted payload id now created =>
      exact .single (.posted payload id now created)
  | served id answered => exact .refl
  | failed request nothing => exact .refl

theorem Told.later {exchanges : List Exchange}
    (told : Told py pydantic time baseUrl exchanges world last) :
    Later py pydantic time world last := by
  induction told with
  | quiet later => exact later
  | next later exchanged told induction =>
      exact (later.trans exchanged.later).trans induction

theorem Told.split {exchanges others : List Exchange}
    (told : Told py pydantic time baseUrl (exchanges ++ others) world last) :
    ∃ middle, Told py pydantic time baseUrl exchanges world middle ∧
      Told py pydantic time baseUrl others middle last := by
  induction exchanges generalizing world with
  | nil => exact ⟨world, .quiet .refl, told⟩
  | cons exchange exchanges induction =>
      cases told with
      | next later exchanged told =>
          rcases induction told with ⟨middle, first, second⟩
          exact ⟨middle, .next later exchanged first, second⟩

/-! ## What the seeder makes of a view -/

theorem item_accepted (id : String) :
    item py (acceptedBody id) "id" = .ok (.string id) := rfl

theorem item_served {view : TicketView} {body : Json}
    (isBody : servedView py time view = some body) :
    item py body "status" = .ok (.string view.status.value) ∧
      item py body "handoff_reason" =
        .ok (jsonOption (fun reason => .string (HandoffReason.value reason))
          view.handoffReason) := by
  rcases Option.bind_eq_some_iff.mp isBody with ⟨trace, -, isObject⟩
  obtain rfl := Option.some.inj isObject
  exact ⟨rfl, rfl⟩

theorem same_text (expected text : String) :
    same (some expected) (.string text) = decide (text = expected) := by
  rw [Bool.eq_iff_iff, same, beq_iff_eq, decide_eq_true_eq,
    Option.some.injEq]
  exact eq_comm

theorem same_reason (expected : Option String)
    (reason : Option HandoffReason) :
    same expected (jsonOption (fun reason =>
        .string (HandoffReason.value reason)) reason) =
      decide (reason.map HandoffReason.value = expected) := by
  cases reason with
  | none => cases expected <;> simp [jsonOption, same]
  | some reason =>
      cases expected with
      | none => simp [jsonOption, same]
      | some expected =>
          rw [jsonOption, same_text, Option.map_some]
          simp only [Option.some.injEq]

/-- The view is where the scenario expects its ticket. -/
def LandsAs (scenario : Scenario) (view : TicketView) : Prop :=
  view.status.value = scenario.status ∧
    view.handoffReason.map HandoffReason.value = scenario.handoffReason

theorem matched_served {view : TicketView} {body : Json}
    (isBody : servedView py time view = some body) (scenario : Scenario)
    {isMatch : Bool} (isMatched : matched py scenario body = .ok isMatch) :
    isMatch = true ↔ LandsAs scenario view := by
  rcases @item_served py time view body isBody with ⟨status, reason⟩
  rw [matched, status] at isMatched
  simp only [bind, Except.bind, same_text, decide_eq_true_eq] at isMatched
  unfold LandsAs
  split at isMatched
  · rename_i lands
    rw [reason] at isMatched
    simp only [same_reason] at isMatched
    rw [← Except.ok.inj isMatched, decide_eq_true_eq]
    exact ⟨fun holds => ⟨lands, holds⟩, fun holds => holds.2⟩
  · rename_i elsewhere
    rw [← Except.ok.inj isMatched]
    simp [elsewhere]

theorem waits_served {view : TicketView} {body : Json}
    (isBody : servedView py time view = some body) :
    Waits py body ↔ view.status = .processing := by
  rcases @item_served py time view body isBody with ⟨status, -⟩
  rw [Waits, status]
  cases view.status <;> simp [same_text, TicketStatus.value]

/-! ## One scenario -/

theorem read_of_posted {payload : CreateTicketRequest} {id : String}
    {now : Reading} {database : Database}
    (reached : Reachable py pydantic time world)
    (created : create py time (newTicket payload id now) world.database =
      .ok ⟨⟩ database) :
    id ∉ world.accepted ∧ readTicket py pydantic time database id =
      .ok (some (waitingView payload id now)) := by
  have lawful := reachable_lawful reached
  rcases posted_entry lawful created with ⟨unknown, inserted, -⟩
  constructor
  · rw [lawful.known id, show entry id world.database = _ from
      congrArg Facts.found unknown]
    simp
  · exact read_posted py pydantic time inserted

theorem Exchanged.of_post {url : String} {fields : List (String × Json)}
    {body : Json}
    (exchanged : Exchanged py pydantic time baseUrl
      (⟨url, some fields⟩, .answered body) world next) :
    ∃ database payload id now, fields = requestBody payload ∧
      body = acceptedBody id ∧
        create py time (newTicket payload id now) world.database =
            .ok ⟨⟩ database ∧
          next = World.posted world database id now := by
  generalize same : (Request.mk url (some fields), Reply.answered body) =
    exchange at exchanged
  cases exchanged with
  | @posted world database payload id now created =>
      simp only [Prod.mk.injEq, Request.mk.injEq, Option.some.injEq,
        Reply.answered.injEq] at same
      exact ⟨database, payload, id, now, same.1.2, same.2, created, rfl⟩
  | served id answered => simp at same
  | failed request nothing =>
      exact absurd (Prod.ext_iff.mp same).2.symm (nothing body)

theorem Exchanged.of_get {url : String} {body : Json}
    (exchanged : Exchanged py pydantic time baseUrl
      (⟨url, none⟩, .answered body) world next) :
    ∃ id view, url = baseUrl ++ "/tickets/" ++ id ∧
      readTicket py pydantic time next.database id = .ok (some view) ∧
        servedView py time view = some body := by
  generalize same : (Request.mk url none, Reply.answered body) =
    exchange at exchanged
  cases exchanged with
  | posted payload id now created => simp at same
  | @served world view body' id answered =>
      simp only [Prod.mk.injEq, Request.mk.injEq, Reply.answered.injEq]
        at same
      rw [← same.2] at answered
      exact ⟨id, view, same.1.1, read_of_respond py pydantic time answered⟩
  | failed request nothing =>
      exact absurd (Prod.ext_iff.mp same).2.symm (nothing body)

/-- The ticket was asked for as often as it may be, and never was ready. -/
def AskedInVain (py : PyText) (baseUrl : String) (exchanges : List Exchange)
    (id : String) : Prop :=
  ∃ polls, List.Sublist polls exchanges ∧ polls.length = pollAttempts ∧
    ∀ exchange ∈ polls, ∃ body,
      exchange = (⟨baseUrl ++ "/tickets/" ++ id, none⟩, .answered body) ∧
        Waits py body

theorem AskedInVain.among {exchanges others : List Exchange} {id : String}
    (inVain : AskedInVain py baseUrl exchanges id)
    (among : List.Sublist exchanges others) :
    AskedInVain py baseUrl others id := by
  rcases inVain with ⟨polls, asked, many, wait⟩
  exact ⟨polls, asked.trans among, many, wait⟩

/-- Polls that end with a ticket that waits have all been in vain. -/
theorem askedInVain_of_polled {id : String} {ticket : Json}
    {polls : List Exchange}
    (polled : Polled py (baseUrl ++ "/tickets/" ++ id) pollAttempts ticket
      polls)
    (waits : Waits py ticket) : AskedInVain py baseUrl polls id := by
  refine ⟨polls, .refl polls, polled.patient waits, ?_⟩
  rcases polled.asked with ⟨earlier, rfl, wait⟩
  intro exchange member
  rcases List.mem_append.mp member with inEarlier | isLast
  · exact wait exchange inEarlier
  · exact ⟨ticket, List.mem_singleton.mp isLast, waits⟩

/-- The last poll of a ticket, in the world that it was answered in. -/
structure LastSeen (py : PyText) (pydantic : Pydantic) (time : TimeText)
    (baseUrl : String) (exchanges : List Exchange) (scenario : Scenario)
    (world middle : World) (id : String) (view : TicketView)
    (ticket : Json) : Prop where
  fresh : id ∉ world.accepted
  read : readTicket py pydantic time middle.database id = .ok (some view)
  user : view.userId = scenario.userId
  served : servedView py time view = some ticket
  patient : Waits py ticket → AskedInVain py baseUrl exchanges id

theorem lastSeen_of_submitted {scenario : Scenario} {ticket : Json}
    {exchanges : List Exchange}
    (reached : Reachable py pydantic time world)
    (told : Told py pydantic time baseUrl exchanges world next)
    (submitted : Submitted py baseUrl scenario ticket exchanges) :
    ∃ middle id view,
      Later py pydantic time world middle ∧
        Later py pydantic time middle next ∧
          LastSeen py pydantic time baseUrl exchanges scenario world middle
            id view ticket := by
  rcases submitted.shape with ⟨accepted, idOf, polls, rfl, isId, polled⟩
  rcases polled.asked with ⟨earlier, rfl, -⟩
  cases told with
  | @next _ _ _ asked posted _ before exchanged told =>
      rcases exchanged.of_post with
        ⟨database, payload, id, now, fields, rfl, created, rfl⟩
      have reachedAsked := reached.trans before
      rcases read_of_posted reachedAsked created with ⟨unknown, waits⟩
      have reachedPosted := reachedAsked.trans exchanged.later
      rcases told.split with ⟨_, waiting, last⟩
      cases last with
      | @next _ _ _ asked' seen _ soon polledLast rest =>
          rcases polledLast.of_get with ⟨other, view, url, read, served⟩
          have isText : .string id = idOf :=
            Except.ok.inj ((item_accepted id).symm.trans isId)
          subst isText
          obtain rfl : other = id :=
            (String.append_right_inj _).mp url.symm
          have between : Later py pydantic time
              (World.posted asked database other now) seen :=
            (waiting.later.trans soon).trans polledLast.later
          refine ⟨seen, other, view,
            (before.trans exchanged.later).trans between, rest.later,
            ⟨fun known => unknown (accepted_later before known), read, ?_,
              served, fun waits => (askedInVain_of_polled polled waits).among
                (List.sublist_cons_self _ _)⟩⟩
          have user : payload.userId = scenario.userId := by
            simp only [Scenario.payload, requestBody, List.cons.injEq,
              Prod.mk.injEq, Json.string.injEq, true_and] at fields
            exact fields.1.symm
          rcases waiting_later reachedPosted between
            (show readTicket py pydantic time
              (World.posted asked database other now).database other = _
              from waits) (waits_waitingView payload other now) with
            still | ⟨after, isRead, -, sameTicket⟩
          · obtain rfl := Option.some.inj (Except.ok.inj
              (read.symm.trans still))
            exact user
          · obtain rfl := Option.some.inj (Except.ok.inj
              (read.symm.trans isRead))
            exact sameTicket.userId.trans user

/-- Where a ticket of the seeder is, and whether that was reported as right. -/
structure Landed (py : PyText) (pydantic : Pydantic) (time : TimeText)
    (baseUrl : String) (exchanges : List Exchange) (world : World)
    (scenario : Scenario) (landing : String × Bool) : Prop where
  found : ∃ view,
    readTicket py pydantic time world.database landing.1 =
        .ok (some view) ∧
      view.userId = scenario.userId ∧
        (landing.2 = true →
          (Settled view ∧ LandsAs scenario view) ∨
            scenario.status = TicketStatus.processing.value ∧
              AskedInVain py baseUrl exchanges landing.1) ∧
          (landing.2 = false →
            (Settled view ∧ ¬ LandsAs scenario view) ∨
              AskedInVain py baseUrl exchanges landing.1)

theorem landed_of_lastSeen {exchanges others : List Exchange}
    {scenario : Scenario} {middle : World} {id : String} {view : TicketView}
    {ticket : Json} {isMatch : Bool}
    (reached : Reachable py pydantic time middle)
    (seen : LastSeen py pydantic time baseUrl exchanges scenario world middle
      id view ticket)
    (among : List.Sublist exchanges others)
    (isMatched : matched py scenario ticket = .ok isMatch)
    (later : Later py pydantic time middle last) :
    Landed py pydantic time baseUrl others last scenario
      (id, isMatch) := by
  have lands := matched_served seen.served scenario isMatched
  rcases presentable_of_served (served_of_reachable reached id) seen.read
    with waits | settles
  · have inVain := (seen.patient
      ((waits_served seen.served).mpr waits.status)).among among
    have waiting : isMatch = true →
        scenario.status = TicketStatus.processing.value := by
      intro isRight
      rw [← (lands.mp isRight).1, waits.status]
    rcases waiting_later reached later seen.read waits with
      same | ⟨after, read, -, sameTicket⟩
    · exact ⟨view, same, seen.user,
        fun isRight => Or.inr ⟨waiting isRight, inVain⟩,
        fun _ => Or.inr inVain⟩
    · exact ⟨after, read, sameTicket.userId.trans seen.user,
        fun isRight => Or.inr ⟨waiting isRight, inVain⟩,
        fun _ => Or.inr inVain⟩
  · refine ⟨view, settled_later reached later seen.read settles, seen.user,
      fun isRight => Or.inl ⟨settles, lands.mp isRight⟩,
      fun isWrong => Or.inl ⟨settles, ?_⟩⟩
    rw [← lands, show isMatch = false from isWrong]
    simp

/-! ## All scenarios -/

theorem landings_of_visits {visits : List (List Exchange × Bool)}
    {scenarios : List Scenario} {exchanges : List Exchange}
    (visited : List.Forall₂ (Visit py baseUrl) scenarios visits)
    (among : List.Sublist (visits.map Prod.fst).flatten exchanges)
    (reached : Reachable py pydantic time world)
    (told : Told py pydantic time baseUrl (visits.map Prod.fst).flatten world
      next)
    (later : Later py pydantic time next last) :
    ∃ landings : List (String × Bool),
      landings.map Prod.snd = visits.map Prod.snd ∧
        (landings.map Prod.fst).Nodup ∧
          (∀ landing ∈ landings, landing.1 ∉ world.accepted) ∧
            List.Forall₂
              (Landed py pydantic time baseUrl exchanges last)
              scenarios landings := by
  induction visited generalizing world with
  | nil => exact ⟨[], rfl, List.nodup_nil, by simp, .nil⟩
  | @cons scenario visit scenarios visits isVisit visited induction =>
      rcases isVisit with ⟨ticket, submitted, isMatched⟩
      rw [List.map_cons, List.flatten_cons] at told among
      rcases told.split with ⟨middle, own, others⟩
      rcases lastSeen_of_submitted reached own submitted with
        ⟨seenIn, id, view, before, after, seen⟩
      have reachedMiddle := reached.trans own.later
      rcases induction ((List.sublist_append_right _ _).trans among)
        reachedMiddle others with ⟨landings, agree, nodup, fresh, landed⟩
      have landedFirst := landed_of_lastSeen (reached.trans before) seen
        ((List.sublist_append_left _ _).trans among) isMatched
        ((after.trans others.later).trans later)
      have known : id ∈ middle.accepted :=
        accepted_later after
          (accepted_of_read (reached.trans before) seen.read)
      refine ⟨(id, visit.2) :: landings, ?_, ?_, ?_,
        .cons landedFirst landed⟩
      · rw [List.map_cons, List.map_cons, agree]
      · rw [List.map_cons, List.nodup_cons]
        refine ⟨?_, nodup⟩
        intro again
        rcases List.mem_map.mp again with ⟨landing, member, isId⟩
        exact fresh landing member (isId ▸ known)
      · rw [List.forall_mem_cons]
        refine ⟨seen.fresh, ?_⟩
        intro landing member accepted
        exact fresh landing member (accepted_later own.later accepted)

/-- What the seeder has asked when it ends. -/
def askedOf : EStateM.Result Fault (List Exchange) Nat → List Exchange
  | .ok _ asked => asked
  | .error _ asked => asked

/-- How the seeder ends, given where the tickets landed that it has seen. -/
inductive Ending (scenarios : List Scenario)
    (landings : List (String × Bool)) :
    EStateM.Result Fault (List Exchange) Nat → Prop where
  /-- It has seen them all. -/
  | finished (all : landings.length = scenarios.length)
      (asked : List Exchange) :
      Ending scenarios landings
        (.ok (if landings.all Prod.snd then 0 else 1) asked)
  /-- It could not reach the service. -/
  | unreached (left : landings.length < scenarios.length)
      (asked : List Exchange) :
      Ending scenarios landings (.ok 2 asked)
  /-- An exception escapes, and ends the process with the status 1. -/
  | escaped (left : landings.length < scenarios.length) (exc : Exc)
      (asked : List Exchange) :
      Ending scenarios landings (.error (.other exc) asked)

/-- A run of the seeder sees its tickets one after the other. -/
theorem visits_of_run {network : Network} {inOrder : Bool}
    {scenarios shuffled : List Scenario}
    {result : EStateM.Result Fault (List Exchange) Nat}
    (ran : main py network baseUrl inOrder scenarios shuffled [] = result) :
    ∃ visits, CameTo py (rstripSlashes baseUrl)
        (if inOrder then scenarios else shuffled) [] (askedOf result)
        visits ∧
      ∀ landings : List (String × Bool),
        landings.map Prod.snd = visits.map Prod.snd →
          Ending (if inOrder then scenarios else shuffled) landings
            result := by
  have ends := main_ends py network baseUrl inOrder scenarios shuffled
  have counts : ∀ {landings : List (String × Bool)}
      {visits : List (List Exchange × Bool)},
      landings.map Prod.snd = visits.map Prod.snd →
        landings.length = visits.length := by
    intro landings visits agree
    simpa using congrArg List.length agree
  cases result with
  | ok code asked =>
      rcases returned_of_ok ends ran with
        ⟨visits, came, ⟨rfl, left⟩ | ⟨all, rfl⟩⟩
      · exact ⟨visits, came, fun landings agree =>
          .unreached (counts agree ▸ left) asked⟩
      · refine ⟨visits, came, fun landings agree => ?_⟩
        have same : exitCode 0 visits =
            if landings.all Prod.snd then 0 else 1 := by
          have agreeing := congrArg (List.all · id) agree
          rw [List.all_map, List.all_map] at agreeing
          rw [exitCode, beq_self_eq_true, Bool.true_and]
          exact congrArg (fun all => if all = true then 0 else 1)
            agreeing.symm
        rw [same]
        exact .finished ((counts agree).trans all) asked
  | error fault asked =>
      rcases raised_of_error ends ran with ⟨visits, came, left, exc, rfl⟩
      exact ⟨visits, came, fun landings agree =>
        .escaped (counts agree ▸ left) exc asked⟩

end

/-! ## A scenario that lands -/

/-- The scenario of the ticket that is answered with a hand-off. -/
def quittingScenario : Scenario where
  userId := invoiceRequest.userId
  subject := invoiceRequest.subject
  body := invoiceRequest.body
  status := TicketStatus.handedOff.value
  handoffReason := some HandoffReason.unsupportedIntent.value

/-- The body that is sent of the view that it lands as. -/
def quittingBody : Json :=
  (servedView asciiText tallyTime quittingView).getD .null

theorem quittingView_answered :
    respond asciiText plainPydantic tallyTime settledWorld.database "t1" =
      .ok quittingView quittingBody :=
  respond_of_sent (by decide) quittingView_read.1 (by decide +kernel)

def quittingNetwork : Network
  | [], _ => .answered (acceptedBody "t1")
  | _, _ => .answered quittingBody

/-- What the seeder and the service say to each other about it. -/
def quittingExchanges (baseUrl : String) : List Exchange :=
  [(⟨rstripSlashes baseUrl ++ "/tickets", some quittingScenario.payload⟩,
      .answered (acceptedBody "t1")),
    (⟨rstripSlashes baseUrl ++ "/tickets/" ++ "t1", none⟩,
      .answered quittingBody)]

theorem quittingExchanges_told (baseUrl : String) :
    Told asciiText plainPydantic tallyTime (rstripSlashes baseUrl)
      (quittingExchanges baseUrl) World.start settledWorld :=
  .next .refl (.posted invoiceRequest "t1" atEpoch rfl)
    (.next settledWorld_later (.served "t1" quittingView_answered)
      (.quiet .refl))

end SupportAssistant.Demo.Seeding
