import SupportAssistant.Demo.Attention
import SupportAssistant.Demo.Seeding

/-!
# The page and the service

The page's requests reach the service among those of other clients, and what
the service answers reaches the page at any later moment, in any order, or
never.  Whatever is shown of a ticket was served of that ticket; a settled one
is what is served now, and a page at rest shows every ticket that it lists as
it is served, unless it has given the ticket up.
-/

namespace SupportAssistant.Demo.Coherence

open SupportAssistant.Enums
open SupportAssistant.Runtime
open SupportAssistant.Runtime.Ascii
open SupportAssistant.Storage.Sqlite
open SupportAssistant.Api.Routes
open SupportAssistant.Api.Responses
open SupportAssistant.Api.Visibility
open SupportAssistant.Api.Process
open SupportAssistant.Api.ServedViews
open SupportAssistant.Demo.Seed
open SupportAssistant.Demo.Seeding
open SupportAssistant.Demo.App
open SupportAssistant.Demo.Attention

structure System where
  world : World
  page : Page

section

variable (py : PyText) (pydantic : Pydantic) (time : TimeText)

/-- One moment of the service, of the page, or between them. -/
inductive Step : System → System → Prop where
  | served {world next : World} {page : Page}
      (moved : Api.Process.Step py pydantic time world next) :
      Step ⟨world, page⟩ ⟨next, page⟩
  | acted {world : World} {page next : Page}
      (acts : Page.Acts page next) :
      Step ⟨world, page⟩ ⟨world, next⟩
  | accepted {world : World} {page : Page} {before after : List Pending}
      {submission : Submission} {rest : List Submission}
      {database : Database} (payload : CreateTicketRequest) (id : String)
      (now : Reading)
      (isPending : page.pending =
        before ++ .posting submission rest :: after)
      (received : requestBody payload = submission.payload)
      (created : create py time (newTicket payload id now) world.database =
        .ok ⟨⟩ database) :
      Step ⟨world, page⟩
        ⟨World.posted world database id now,
          { page with
            pending := before ++
              .accepted (parsed (acceptedBody id)) submission.label rest ::
                after }⟩
  | answered {world : World} {page : Page} {before after : List Pending}
      {read : Read} {view : TicketView} {body : Json}
      (isPending : page.pending = before ++ .reading read :: after)
      (isAnswer : respond py pydantic time world.database read.id =
        .ok view body) :
      Step ⟨world, page⟩
        ⟨world,
          { page with
            pending := before ++ .answered read (parsed body) :: after }⟩

/-- What can become of a service and of a page that was just loaded. -/
def Used (storage : Option Json) (system : System) : Prop :=
  ∃ first, Reachable py pydantic time first ∧
    Relation.ReflTransGen (Step py pydantic time)
      ⟨first, .load storage⟩ system

/-! ## What is shown -/

/-- What the page may show under an id: a body as it is parsed. -/
inductive Shows (world : World) (id : String) : Json → Prop where
  | placeholder (accepted : id ∈ world.accepted) :
      Shows world id (Page.placeholder (.string id)
        (.string TicketStatus.processing.value))
  /-- It was served while it waited, and `now` is served. -/
  | waiting {view now : TicketView} {body : Json}
      (isBody : servedView py time view = some body) (waits : Waiting view)
      (read : readTicket py pydantic time world.database id =
        .ok (some now))
      (same : SameTicket view now) :
      Shows world id (parsed body)
  | settled {view : TicketView} {body : Json} (settles : Settled view)
      (answered : respond py pydantic time world.database id =
        .ok view body) :
      Shows world id (parsed body)

/-- What is on its way to the page is so. -/
def Answers (world : World) : Pending → Prop
  | .accepted response _ _ =>
      ∃ id ∈ world.accepted, response = parsed (acceptedBody id)
  | .answered read ticket => Shows py pydantic time world read.id ticket
  | _ => True

/-- The page shows what it was told, and will be told what is so. -/
structure Truthful (world : World) (page : Page) : Prop where
  tickets : ∀ id ticket, page.tickets.lookup id = some ticket →
    Shows py pydantic time world id ticket
  pending : ∀ awaited ∈ page.pending, Answers py pydantic time world awaited

end

section

variable {py : PyText} {pydantic : Pydantic} {time : TimeText}
variable {world next : World} {page after : Page} {id : String}

theorem shows_answered {view : TicketView} {body : Json}
    (reached : Reachable py pydantic time world)
    (answered : respond py pydantic time world.database id =
      .ok view body) :
    Shows py pydantic time world id (parsed body) := by
  rcases read_of_respond py pydantic time answered with ⟨read, isBody⟩
  rcases presentable_of_served (served_of_reachable reached id) read with
    waits | settles
  · exact .waiting isBody waits read ⟨rfl, rfl, rfl⟩
  · exact .settled settles answered

/-- What may be shown may be shown later. -/
theorem Shows.later {ticket : Json}
    (shows : Shows py pydantic time world id ticket)
    (reached : Reachable py pydantic time world)
    (later : Later py pydantic time world next) :
    Shows py pydantic time next id ticket := by
  cases shows with
  | placeholder accepted =>
      exact .placeholder (accepted_later later accepted)
  | waiting isBody waits read same =>
      rcases presentable_of_served (served_of_reachable reached id) read with
        stillWaits | settles
      · rcases waiting_later reached later read stillWaits with
          still | ⟨after, isRead, -, sameTicket⟩
        · exact .waiting isBody waits still same
        · exact .waiting isBody waits isRead (same.trans sameTicket)
      · exact .waiting isBody waits
          (settled_later reached later read settles) same
  | settled settles answered =>
      exact .settled settles (answered_later reached later answered settles)

theorem status_of_served {view : TicketView} {body : Json}
    (isBody : servedView py time view = some body) :
    member (parsed body) "status" = some (.string view.status.value) := by
  rcases Option.bind_eq_some_iff.mp isBody with ⟨trace, -, isObject⟩
  obtain rfl := Option.some.inj isObject
  rfl

/-- A ticket that is not processing is shown as it is served. -/
theorem Shows.isServed {ticket : Json}
    (shows : Shows py pydantic time world id ticket)
    (done : isProcessing ticket = false) :
    ∃ view body, respond py pydantic time world.database id =
        .ok view body ∧
      Settled view ∧ ticket = parsed body := by
  cases shows with
  | placeholder accepted => simp [isProcessing, memberIs, member,
      Page.placeholder, Json.get?, same, TicketStatus.value] at done
  | @waiting view _ _ isBody waits read same =>
      rw [isProcessing, memberIs, status_of_served isBody, waits.status]
        at done
      simp [TicketStatus.value, Seed.same] at done
  | settled settles answered => exact ⟨_, _, answered, settles, rfl⟩

/-! ## The service moves -/

theorem Truthful.later (truthful : Truthful py pydantic time world page)
    (reached : Reachable py pydantic time world)
    (later : Later py pydantic time world next) :
    Truthful py pydantic time next page where
  tickets id ticket found :=
    (truthful.tickets id ticket found).later reached later
  pending := by
    intro awaited member
    have answers := truthful.pending awaited member
    cases awaited with
    | accepted response label rest =>
        rcases answers with ⟨id, accepted, isBody⟩
        exact ⟨id, accepted_later later accepted, isBody⟩
    | answered read ticket => exact Shows.later answers reached later
    | _ => trivial

/-! ## The page acts -/

theorem Truthful.await {awaited : Pending}
    (truthful : Truthful py pydantic time world page)
    (answers : Answers py pydantic time world awaited) :
    Truthful py pydantic time world (page.await awaited) where
  tickets := truthful.tickets
  pending := List.forall_mem_append.mpr
    ⟨truthful.pending, List.forall_mem_singleton.mpr answers⟩

theorem Truthful.setTicket {ticket : Json}
    (truthful : Truthful py pydantic time world page)
    (shows : Shows py pydantic time world id ticket) :
    Truthful py pydantic time world (page.setTicket id ticket) where
  tickets := by
    intro other isTicket found
    by_cases same : other = id
    · subst same
      rw [show (page.setTicket other ticket).tickets.lookup other = _ from
        AList.lookup_insert page.tickets, Option.some.injEq] at found
      exact found ▸ shows
    · exact truthful.tickets other isTicket
        ((AList.lookup_insert_ne same).symm.trans found)
  pending := truthful.pending

/-- The page with another list, whether or not it is stored. -/
theorem Truthful.keep (truthful : Truthful py pydantic time world page)
    (held : List Held) (stores : Bool) :
    Truthful py pydantic time world (page.keep held stores) := by
  have keeps := kept page held stores
  constructor
  · rw [keeps.tickets]
    exact truthful.tickets
  · rw [keeps.pending]
    exact truthful.pending

theorem Truthful.forget (truthful : Truthful py pydantic time world page)
    (id : String) (stores : Bool) :
    Truthful py pydantic time world (page.forget id stores) where
  tickets := by
    intro other ticket found
    have different : other ≠ id := by
      rintro rfl
      rw [show (page.forget other stores).tickets.lookup other = none from
        AList.lookup_erase other page.tickets] at found
      simp at found
    exact truthful.tickets other ticket
      ((AList.lookup_erase_ne different).symm.trans found)
  pending := (truthful.keep _ stores).pending

theorem Truthful.told {poll : Poll} {ticket : Json}
    (truthful : Truthful py pydantic time world page)
    (shows : Shows py pydantic time world poll.id ticket) :
    Truthful py pydantic time world (page.told poll ticket) := by
  have shown := truthful.setTicket shows
  unfold Page.told
  split
  · exact Truthful.await ⟨shown.tickets, shown.pending⟩ trivial
  · exact ⟨shown.tickets, shown.pending⟩

theorem Truthful.shown {ticket : Json}
    (truthful : Truthful py pydantic time world page)
    (shows : Shows py pydantic time world id ticket) :
    Truthful py pydantic time world (page.shown id ticket) :=
  ⟨(truthful.setTicket shows).tickets, truthful.pending⟩

theorem truthful_sent {label : String}
    {rest : List Submission} {stores : Bool}
    (truthful : Truthful py pydantic time world page)
    (accepted : id ∈ world.accepted)
    (sends : page.sent (parsed (acceptedBody id)) label rest stores =
      some after) :
    Truthful py pydantic time world after := by
  have remembered := truthful.keep (page.held ++ [⟨id, .string label⟩]) stores
  cases stores with
  | true =>
      obtain rfl := Option.some.inj sends
      have placed := remembered.setTicket
        (@Shows.placeholder py pydantic time world id accepted)
      exact Truthful.await ⟨placed.tickets, placed.pending⟩ trivial
  | false =>
      obtain rfl := Option.some.inj sends
      exact ⟨remembered.tickets, remembered.pending⟩

theorem truthful_opened {ticket : Json} {stores : Bool}
    (truthful : Truthful py pydantic time world page)
    (shows : Shows py pydantic time world id ticket) :
    Truthful py pydantic time world (page.opened id ticket stores) := by
  have remembered := truthful.keep
    (page.held ++ [⟨id, .string "Opened by id"⟩])
  unfold Page.opened
  split
  · exact truthful.shown shows
  · split
    · exact (remembered stores).shown shows
    · exact ⟨(remembered stores).tickets, (remembered stores).pending⟩

theorem truthful_complete {awaited : Pending} {stores : Bool}
    (truthful : Truthful py pydantic time world page)
    (answers : Answers py pydantic time world awaited)
    (completes : page.complete stores awaited = some after) :
    Truthful py pydantic time world after := by
  unfold Page.complete at completes
  split at completes
  · obtain rfl := Option.some.inj completes
    refine ⟨truthful.tickets, ?_⟩
    intro other member
    rcases List.mem_append.mp member with earlier | isNew
    · exact truthful.pending other earlier
    · rcases List.mem_map.mp isNew with ⟨entry, -, rfl⟩
      trivial
  · rename_i response label rest
    rcases answers with ⟨id, accepted, rfl⟩
    exact truthful_sent truthful accepted completes
  · rename_i poll ticket
    obtain rfl := Option.some.inj completes
    have told := @Truthful.told py pydantic time world page poll ticket
      truthful answers
    unfold Page.polled
    split
    · exact told.await trivial
    · exact told
  · obtain rfl := Option.some.inj completes
    exact truthful_opened truthful answers
  · obtain rfl := Option.some.inj completes
    exact truthful.await trivial
  · simp at completes
  · simp at completes

theorem truthful_pollRaised (truthful : Truthful py pydantic time world page)
    (poll : Poll) (stores : Bool) :
    Truthful py pydantic time world (page.pollRaised poll stores) := by
  unfold Page.pollRaised
  split
  · exact truthful.forget poll.id stores
  · exact ⟨truthful.tickets, truthful.pending⟩

theorem truthful_fail {awaited : Pending} {stores : Bool}
    (truthful : Truthful py pydantic time world page)
    (fails : page.fail stores awaited = some after) :
    Truthful py pydantic time world after := by
  unfold Page.fail at fails
  split at fails <;> try obtain rfl := Option.some.inj fails
  · exact ⟨truthful.tickets, truthful.pending⟩
  · exact truthful
  · exact truthful
  · exact truthful_pollRaised truthful _ _
  · exact truthful_pollRaised truthful _ _
  · exact truthful
  · exact truthful
  · simp at fails

theorem truthful_load (storage : Option Json) :
    Truthful py pydantic time world (.load storage) where
  tickets := by
    intro id ticket found
    rw [show (Page.load storage).tickets.lookup id = none from
      AList.lookup_empty id] at found
    simp at found
  pending := by
    intro awaited member
    rw [List.mem_singleton.mp member]
    trivial

/-- What is no longer pending was so, and so is the rest. -/
theorem Truthful.without {before rest : List Pending} {awaited : Pending}
    (truthful : Truthful py pydantic time world page)
    (isPending : page.pending = before ++ awaited :: rest) :
    Answers py pydantic time world awaited ∧
      Truthful py pydantic time world
        { page with pending := before ++ rest } := by
  have pending := truthful.pending
  rw [isPending] at pending
  simp only [List.forall_mem_append, List.forall_mem_cons] at pending
  refine ⟨pending.2.1, truthful.tickets, ?_⟩
  rw [List.forall_mem_append]
  exact ⟨pending.1, pending.2.2⟩

theorem truthful_acts (truthful : Truthful py pydantic time world page)
    (acts : Page.Acts page after) :
    Truthful py pydantic time world after := by
  cases acts with
  | submitted submission rest => exact truthful.await trivial
  | typed id => exact truthful.await trivial
  | clicked id => exact ⟨truthful.tickets, truthful.pending⟩
  | forgot stores =>
      exact ⟨(@truthful_load py pydantic time world none).tickets,
        truthful.pending⟩
  | reloaded => exact truthful_load page.storage
  | completed stores isPending completes =>
      rcases truthful.without isPending with ⟨answers, rest⟩
      exact truthful_complete rest answers completes
  | failed stores isPending fails =>
      exact truthful_fail (truthful.without isPending).2 fails

/-- An answer that is so takes the place of what was asked. -/
theorem Truthful.answer {before rest : List Pending}
    {awaited answer : Pending}
    (truthful : Truthful py pydantic time world page)
    (isPending : page.pending = before ++ awaited :: rest)
    (answers : Answers py pydantic time world answer) :
    Truthful py pydantic time world
      { page with pending := before ++ answer :: rest } := by
  have others := (truthful.without isPending).2.pending
  rw [List.forall_mem_append] at others
  refine ⟨truthful.tickets, ?_⟩
  rw [List.forall_mem_append, List.forall_mem_cons]
  exact ⟨others.1, answers, others.2⟩

/-! ## Every moment -/

/-- What holds of a service and of a page that uses it. -/
structure Coherent (py : PyText) (pydantic : Pydantic) (time : TimeText)
    (system : System) : Prop where
  reached : Reachable py pydantic time system.world
  truthful : Truthful py pydantic time system.world system.page
  attentive : Attentive system.page

theorem coherent_step {system later : System}
    (coherent : Coherent py pydantic time system)
    (step : Step py pydantic time system later) :
    Coherent py pydantic time later := by
  have reached := coherent.reached
  cases step with
  | served moved =>
      exact ⟨reached.tail moved,
        coherent.truthful.later reached (.single moved),
        coherent.attentive⟩
  | acted acts =>
      exact ⟨reached, truthful_acts coherent.truthful acts,
        attentive_acts coherent.attentive acts⟩
  | accepted payload id now isPending received created =>
      have moved : Later py pydantic time _ _ :=
        .single (.posted payload id now created)
      refine ⟨reached.trans moved, ?_,
        coherent.attentive.answer isPending rfl (by simp)⟩
      refine (coherent.truthful.later reached moved).answer isPending ?_
      exact ⟨id, List.mem_append_right _ (List.mem_singleton.mpr rfl), rfl⟩
  | answered isPending isAnswer =>
      exact ⟨reached,
        coherent.truthful.answer isPending
          (shows_answered reached isAnswer),
        coherent.attentive.answer isPending (polls_answered _ _) (by simp)⟩

theorem coherent_of_used {storage : Option Json} {system : System}
    (used : Used py pydantic time storage system) :
    Coherent py pydantic time system := by
  rcases used with ⟨first, reached, steps⟩
  induction steps with
  | refl => exact ⟨reached, truthful_load storage, attentive_load storage⟩
  | tail earlier step induction => exact coherent_step induction step

/-- The service moves on while the page does nothing. -/
theorem served_later (later : Later py pydantic time world next)
    (page : Page) :
    Relation.ReflTransGen (Step py pydantic time) ⟨world, page⟩
      ⟨next, page⟩ := by
  induction later with
  | refl => exact .refl
  | tail earlier moved induction => exact induction.tail (.served moved)

/--
Whatever has become of the service and the page, everything that is shown of a
ticket was served of that ticket, and is served now if it has settled; the
page lists what it would list if it were loaded again, unless the storage has
refused its last write; and once nothing is awaited, each ticket that is
listed is shown and drawn settled, as it is served, unless the page has given
it up.  What is shown of a body is what a browser makes of it.
-/
theorem page_shows_what_is_served {storage : Option Json} {system : System}
    (used : Used py pydantic time storage system) :
    (∀ id ticket, system.page.tickets.lookup id = some ticket →
        Shows py pydantic time system.world id ticket) ∧
      (system.page.unsaved = false →
        restore system.page.storage = system.page.held) ∧
        (system.page.pending = [] →
          ∀ entry ∈ system.page.held,
            (∃ view body,
              respond py pydantic time system.world.database entry.id =
                  .ok view body ∧
                Settled view ∧
                  system.page.tickets.lookup entry.id =
                      some (parsed body) ∧
                    system.page.status entry.id =
                      some (.string view.status.value)) ∨
              GivenUp system.page.history entry.id) := by
  have coherent := coherent_of_used used
  refine ⟨coherent.truthful.tickets, coherent.attentive.stored, ?_⟩
  intro atRest entry member
  rcases coherent.attentive.atRest atRest member with
    ⟨ticket, found, done⟩ | givenUp
  · rcases (coherent.truthful.tickets entry.id ticket found).isServed done
      with ⟨view, body, answered, settles, rfl⟩
    have isBody := (read_of_respond py pydantic time answered).2
    refine Or.inl ⟨view, body, answered, settles, found, ?_⟩
    simp only [Page.status, found]
    exact status_of_served isBody
  · exact Or.inr givenUp

end

/-! ## A ticket that is sent, asked for twice and shown -/

def sampleSubmission : Submission where
  userId := invoiceRequest.userId
  subject := invoiceRequest.subject
  body := invoiceRequest.body
  label := "An invoice"

def waitingBody : Json :=
  (servedView asciiText tallyTime
    (waitingView invoiceRequest "t1" atEpoch)).getD .null

/-- The page without tickets, once it has the scenarios. -/
def emptyPage : Page :=
  { Page.load none with pending := [] }

/-- The page when the service has accepted the ticket. -/
def sentPage : Page :=
  (emptyPage.sent (parsed (acceptedBody "t1")) "An invoice" [] true).getD
    emptyPage

/-- The page when it has asked for the ticket once. -/
def waitingPage : Page :=
  { sentPage with pending := [] }.polled ⟨"t1", 0, .send []⟩
    (parsed waitingBody)

/-- The page when it has asked for the ticket twice. -/
def restingPage : Page :=
  { waitingPage with pending := [] }.polled ⟨"t1", 1, .timer⟩
    (parsed quittingBody)

theorem waitingView_answered :
    respond asciiText plainPydantic tallyTime postedWorld.database "t1" =
      .ok (waitingView invoiceRequest "t1" atEpoch) waitingBody :=
  respond_of_sent (by decide) rfl (by decide +kernel)

theorem sentPage_used :
    Used asciiText plainPydantic tallyTime none ⟨postedWorld, sentPage⟩ := by
  refine ⟨World.start, .refl, ?_⟩
  have loaded : Page.Acts (Page.load none) emptyPage :=
    @Page.Acts.completed _ _ [] [] .loading true rfl rfl
  have submitted := @Page.Acts.submitted emptyPage sampleSubmission []
  have accepted := @Step.accepted asciiText plainPydantic tallyTime
    World.start _ [] [] sampleSubmission [] postedDatabase invoiceRequest "t1"
    atEpoch (show (emptyPage.await _).pending = _ from rfl) rfl rfl
  have sent : Page.Acts
      { emptyPage.await (.posting sampleSubmission []) with
        pending := [.accepted (parsed (acceptedBody "t1")) "An invoice" []] }
      sentPage :=
    @Page.Acts.completed _ _ [] [] _ true rfl rfl
  exact (((Relation.ReflTransGen.single (.acted loaded)).tail
    (.acted submitted)).tail accepted).tail (.acted sent)

theorem waitingPage_used :
    Used asciiText plainPydantic tallyTime none
      ⟨postedWorld, waitingPage⟩ := by
  rcases sentPage_used with ⟨first, reached, steps⟩
  have answered := @Step.answered asciiText plainPydantic tallyTime
    postedWorld sentPage [] [] (.poll ⟨"t1", 0, .send []⟩) _ _ rfl
    waitingView_answered
  exact ⟨first, reached, (steps.tail answered).tail
    (.acted (@Page.Acts.completed _ _ [] [] _ true rfl rfl))⟩

theorem restingPage_used :
    Used asciiText plainPydantic tallyTime none
      ⟨settledWorld, restingPage⟩ := by
  rcases waitingPage_used with ⟨first, reached, steps⟩
  have settled := served_later settledWorld_later waitingPage
  have woken : Page.Acts waitingPage
      ({ waitingPage with pending := [] }.await
        (.reading (.poll ⟨"t1", 1, .timer⟩))) :=
    @Page.Acts.completed _ _ [] [] (.sleeping "t1" 1) true rfl rfl
  have answered := @Step.answered asciiText plainPydantic tallyTime
    settledWorld
    ({ waitingPage with pending := [] }.await
      (.reading (.poll ⟨"t1", 1, .timer⟩)))
    [] [] (.poll ⟨"t1", 1, .timer⟩) _ _ rfl quittingView_answered
  exact ⟨first, reached,
    (((steps.trans settled).tail (.acted woken)).tail answered).tail
      (.acted (@Page.Acts.completed _ _ [] [] _ true rfl rfl))⟩

theorem restingPage_shows :
    restingPage.pending = [] ∧ restingPage.held.map Held.id = ["t1"] ∧
      (∀ id ticket, restingPage.tickets.lookup id = some ticket →
          Shows asciiText plainPydantic tallyTime settledWorld id ticket) ∧
        (restingPage.unsaved = false →
          restore restingPage.storage = restingPage.held) ∧
          (restingPage.pending = [] →
            ∀ entry ∈ restingPage.held,
              (∃ view body,
                respond asciiText plainPydantic tallyTime
                    settledWorld.database entry.id = .ok view body ∧
                  Settled view ∧
                    restingPage.tickets.lookup entry.id =
                        some (parsed body) ∧
                      restingPage.status entry.id =
                        some (.string view.status.value)) ∨
                GivenUp restingPage.history entry.id) :=
  ⟨rfl, rfl, page_shows_what_is_served restingPage_used⟩

end SupportAssistant.Demo.Coherence
