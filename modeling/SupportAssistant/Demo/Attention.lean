import SupportAssistant.Demo.App

/-!
# What the page attends to

Every ticket that is listed as processing is being asked for, unless the page
has given it up: a read of it failed, it was opened by its id, it was asked
for as often as the page asks, or the page was never loaded.  And the storage
lists what the page lists.
-/

namespace SupportAssistant.Demo.Attention

open SupportAssistant.Runtime
open SupportAssistant.Demo.App

/-! ## Giving up -/

/-- The poll with this number was answered, and the ticket was processing. -/
def Asked (history : List Happening) (id : String) (attempt : Nat) : Prop :=
  ∃ ticket, .polled id attempt ticket ∈ history ∧ isProcessing ticket = true

/-- Why a page may leave a ticket processing. -/
inductive GivenUp (history : List Happening) (id : String) : Prop where
  | notLoaded (happened : .notLoaded ∈ history)
  | failed (happened : .pollFailed id ∈ history)
  | opened {ticket : Json} (happened : .opened id ticket ∈ history)
      (processing : isProcessing ticket = true)
  | exhausted (asked : ∀ attempt ≤ pollLimit, Asked history id attempt)
  | notStored (happened : .notStored id ∈ history)

theorem Asked.mono {history more : List Happening} {id : String}
    {attempt : Nat} (asked : Asked history id attempt)
    (grows : history ⊆ more) : Asked more id attempt := by
  rcases asked with ⟨ticket, happened, processing⟩
  exact ⟨ticket, grows happened, processing⟩

theorem GivenUp.mono {history more : List Happening} {id : String}
    (givenUp : GivenUp history id) (grows : history ⊆ more) :
    GivenUp more id := by
  cases givenUp with
  | notLoaded happened => exact .notLoaded (grows happened)
  | failed happened => exact .failed (grows happened)
  | opened happened processing => exact .opened (grows happened) processing
  | exhausted asked =>
      exact .exhausted fun attempt few => (asked attempt few).mono grows
  | notStored happened => exact .notStored (grows happened)

/-! ## Attending -/

/-- The id is about to be asked for. -/
def Pending.Asks (awaited : Pending) (id : String) : Prop :=
  awaited = .loading ∨ ∃ attempt, awaited.polls = some (id, attempt)

/-- The page need not do more about the id than it will do. -/
inductive Attended (page : Page) (id : String) : Prop where
  | asks {awaited : Pending} (isPending : awaited ∈ page.pending)
      (asks : Pending.Asks awaited id)
  | done {ticket : Json} (found : page.tickets.lookup id = some ticket)
      (done : isProcessing ticket = false)
  | givenUp (givenUp : GivenUp page.history id)

/-- A poll has been made after all those before it. -/
def Patient (history : List Happening) (awaited : Pending) : Prop :=
  ∀ id attempt, awaited.polls = some (id, attempt) →
    ∀ earlier < attempt, Asked history id earlier

structure Attentive (page : Page) : Prop where
  patient : ∀ awaited ∈ page.pending, Patient page.history awaited
  attended : ∀ entry ∈ page.held, Attended page entry.id
  stored : page.unsaved = false → restore page.storage = page.held

/-- An attentive page, but for one that is no longer pending. -/
structure AttentiveBut (awaited : Pending) (page : Page) : Prop where
  own : Patient page.history awaited
  patient : ∀ other ∈ page.pending, Patient page.history other
  attended : ∀ entry ∈ page.held,
    Attended page entry.id ∨ Pending.Asks awaited entry.id
  stored : page.unsaved = false → restore page.storage = page.held

section

variable {page next : Page} {id : String} {awaited : Pending}

theorem Attended.mono (attended : Attended page id)
    (pending : page.pending ⊆ next.pending)
    (history : page.history ⊆ next.history)
    (found : next.tickets.lookup id = page.tickets.lookup id) :
    Attended next id := by
  cases attended with
  | asks isPending asks => exact .asks (pending isPending) asks
  | done isFound done => exact .done (found.trans isFound) done
  | givenUp givenUp => exact .givenUp (givenUp.mono history)

/-- One id that is attended to, and the others that are. -/
theorem attended_all {held : List Held} (own : Attended page id)
    (others : ∀ entry ∈ held, entry.id ≠ id → Attended page entry.id) :
    ∀ entry ∈ held, Attended page entry.id := by
  intro entry member
  by_cases same : entry.id = id
  · rw [same]
    exact own
  · exact others entry member same

theorem Patient.mono {history more : List Happening}
    (patient : Patient history awaited) (grows : history ⊆ more) :
    Patient more awaited := by
  intro id attempt polls earlier before
  exact (patient id attempt polls earlier before).mono grows

theorem patient_of_polls_none {history : List Happening}
    (silent : awaited.polls = none) : Patient history awaited := by
  intro id attempt polls
  rw [silent] at polls
  simp at polls

theorem patient_first {history : List Happening}
    (first : awaited.polls = some (id, 0)) : Patient history awaited := by
  intro other attempt polls earlier before
  rw [first, Option.some.injEq, Prod.mk.injEq] at polls
  omega

theorem Attentive.but {before after : List Pending}
    (attentive : Attentive page)
    (isPending : page.pending = before ++ awaited :: after) :
    AttentiveBut awaited { page with pending := before ++ after } where
  own := attentive.patient awaited (by simp [isPending])
  patient := by
    intro other member
    apply attentive.patient other
    rw [isPending]
    simp only [List.mem_append, List.mem_cons] at member ⊢
    tauto
  attended := by
    intro entry member
    cases attentive.attended entry member with
    | @asks other isOther asks =>
        rw [isPending, List.mem_append, List.mem_cons] at isOther
        by_cases same : other = awaited
        · exact Or.inr (same ▸ asks)
        · have isPending : other ∈ before ++ after := by
            rw [List.mem_append]
            tauto
          exact Or.inl (.asks isPending asks)
    | done found done => exact Or.inl (.done found done)
    | givenUp givenUp => exact Or.inl (.givenUp givenUp)
  stored := attentive.stored

theorem Attentive.await (attentive : Attentive page)
    (patient : Patient page.history awaited) :
    Attentive (page.await awaited) where
  patient := List.forall_mem_append.mpr
    ⟨attentive.patient, List.forall_mem_singleton.mpr patient⟩
  attended entry member := (attentive.attended entry member).mono
    (List.subset_append_left _ _) (List.Subset.refl _) rfl
  stored := attentive.stored

/-! ## The storage -/

theorem heldOf_toJson (entry : Held) : heldOf entry.toJson = some entry := rfl

/-- What is kept is listed again when the page is loaded. -/
theorem restore_toJson (held : List Held) :
    restore (some (.list (held.map Held.toJson))) = held := by
  change (held.map Held.toJson).filterMap heldOf = held
  rw [List.filterMap_map]
  exact (List.filterMap_congr fun entry _ => heldOf_toJson entry).trans
    List.filterMap_some

/-- Whether or not the list is kept, nothing else changes. -/
structure Kept (page next : Page) (entries : List Held) : Prop where
  held : next.held = entries
  tickets : next.tickets = page.tickets
  pending : next.pending = page.pending
  history : next.history = page.history
  stored : next.unsaved = false → restore next.storage = entries

theorem kept (page : Page) (entries : List Held) (stores : Bool) :
    Kept page (page.keep entries stores) entries := by
  cases stores with
  | true => exact ⟨rfl, rfl, rfl, rfl, fun _ => restore_toJson entries⟩
  | false => exact ⟨rfl, rfl, rfl, rfl, fun saved => by cases saved⟩

/-! ## Completion -/

theorem attentive_load (storage : Option Json) :
    Attentive (Page.load storage) where
  patient := by
    intro awaited member
    rw [List.mem_singleton.mp member]
    exact patient_of_polls_none rfl
  attended _ _ := .asks (List.mem_singleton.mpr rfl) (Or.inl rfl)
  stored _ := rfl

/-- Nothing but one id was asked for by what is no longer pending. -/
theorem AttentiveBut.other (but : AttentiveBut awaited page)
    {entry : Held} (member : entry ∈ page.held) {attempt : Nat}
    (polls : awaited.polls = some (id, attempt)) (other : entry.id ≠ id) :
    Attended page entry.id := by
  rcases but.attended entry member with attended | rfl | ⟨_, same⟩
  · exact attended
  · simp [Pending.polls] at polls
  · rw [polls, Option.some.injEq, Prod.mk.injEq] at same
    exact absurd same.1.symm other

theorem AttentiveBut.silent (but : AttentiveBut awaited page)
    (silent : awaited.polls = none) (loaded : awaited ≠ .loading) :
    Attentive page where
  patient := but.patient
  attended := by
    intro entry member
    rcases but.attended entry member with attended | isLoading | ⟨_, polls⟩
    · exact attended
    · exact absurd isLoading loaded
    · rw [silent] at polls
      simp at polls
  stored := but.stored

theorem attentive_started (but : AttentiveBut .loading page) :
    Attentive page.started where
  patient := by
    intro other member
    rcases List.mem_append.mp member with earlier | isNew
    · exact but.patient other earlier
    · rcases List.mem_map.mp isNew with ⟨entry, -, rfl⟩
      exact patient_first rfl
  attended entry member :=
    .asks (List.mem_append_right _ (List.mem_map_of_mem member))
      (Or.inr ⟨0, rfl⟩)
  stored := but.stored

/-- The polls of an id up to one that was answered. -/
theorem asked_upTo {history : List Happening} {poll : Poll} {ticket : Json}
    (patient : ∀ earlier < poll.attempt, Asked history poll.id earlier)
    (processing : isProcessing ticket = true) :
    ∀ earlier < poll.attempt + 1,
      Asked (history ++ [.polled poll.id poll.attempt ticket]) poll.id
        earlier := by
  intro earlier before
  rcases Nat.lt_succ_iff_lt_or_eq.mp before with less | rfl
  · exact (patient earlier less).mono (List.subset_append_left _ _)
  · exact ⟨ticket, by simp, processing⟩

theorem attentive_told {poll : Poll} {ticket : Json}
    (but : AttentiveBut (.answered (.poll poll) ticket) page) :
    Attentive (page.told poll ticket) := by
  have asked := @asked_upTo page.history poll ticket (but.own _ _ rfl)
  have others : ∀ entry ∈ page.held, entry.id ≠ poll.id →
      Attended ((page.setTicket poll.id ticket).note
        (.polled poll.id poll.attempt ticket)) entry.id :=
    fun entry member other => (but.other member rfl other).mono
      (List.Subset.refl _) (List.subset_append_left _ _)
      (AList.lookup_insert_ne other)
  have patient : ∀ other ∈ page.pending,
      Patient (page.history ++ [.polled poll.id poll.attempt ticket]) other :=
    fun other member => (but.patient other member).mono
      (List.subset_append_left _ _)
  unfold Page.told
  split
  · rename_i goesOn
    rw [Bool.and_eq_true] at goesOn
    constructor
    · refine List.forall_mem_append.mpr
        ⟨patient, List.forall_mem_singleton.mpr ?_⟩
      intro id attempt polls
      obtain ⟨rfl, rfl⟩ : poll.id = id ∧ poll.attempt + 1 = attempt := by
        simpa [Pending.polls] using polls
      exact asked goesOn.1
    · apply attended_all
      · exact .asks (List.mem_append_right _ (List.mem_singleton.mpr rfl))
          (Or.inr ⟨_, rfl⟩)
      · intro entry member other
        exact (others entry member other).mono
          (List.subset_append_left _ _) (List.Subset.refl _) rfl
    · exact but.stored
  · rename_i stops
    refine ⟨patient, attended_all ?_ others, but.stored⟩
    -- no timer is set: the ticket is done, or this was the last poll
    cases processing : isProcessing ticket with
    | false => exact .done (AList.lookup_insert page.tickets) processing
    | true =>
        simp only [processing, Bool.true_and, decide_eq_true_eq,
          not_lt] at stops
        exact .givenUp (.exhausted fun attempt few =>
          asked processing attempt (by omega))

theorem attentive_polled {poll : Poll} {ticket : Json}
    (but : AttentiveBut (.answered (.poll poll) ticket) page) :
    Attentive (page.polled poll ticket) := by
  have told := attentive_told but
  unfold Page.polled
  split
  · exact told.await (patient_of_polls_none rfl)
  · exact told

/-- A listed id that was shown last. -/
theorem attended_append {held : List Held} {added : Held}
    (earlier : ∀ entry ∈ held, entry.id ≠ added.id → Attended next entry.id)
    (last : Attended next added.id) :
    ∀ entry ∈ held ++ [added], Attended next entry.id := by
  apply attended_all last
  intro entry member other
  rcases List.mem_append.mp member with isEarlier | isLast
  · exact earlier entry isEarlier other
  · exact absurd (congrArg Held.id (List.mem_singleton.mp isLast)) other

/-- The page lists one id more, and has given it up. -/
theorem attentive_notStored {label : String} (attentive : Attentive page) :
    Attentive ((page.remember id label false).note (.notStored id)) where
  patient other member :=
    (attentive.patient other member).mono (List.subset_append_left _ _)
  attended := by
    apply attended_append
    · intro entry member other
      exact (attentive.attended entry member).mono (List.Subset.refl _)
        (List.subset_append_left _ _) rfl
    · exact .givenUp (.notStored (List.mem_append_right _
        (List.mem_singleton.mpr rfl)))
  stored saved := by cases saved

theorem attentive_sent {response : Json} {label : String}
    {rest : List Submission} {stores : Bool} (attentive : Attentive page)
    (sends : page.sent response label rest stores = some next) :
    Attentive next := by
  unfold Page.sent at sends
  split at sends
  · cases stores with
    | true =>
        obtain rfl := Option.some.inj sends
        constructor
        · exact List.forall_mem_append.mpr ⟨attentive.patient,
            List.forall_mem_singleton.mpr (patient_first rfl)⟩
        · apply attended_append
          · intro entry member other
            exact (attentive.attended entry member).mono
              (List.subset_append_left _ _) (List.Subset.refl _)
              (AList.lookup_insert_ne other)
          · exact .asks
              (List.mem_append_right _ (List.mem_singleton.mpr rfl))
              (Or.inr ⟨0, rfl⟩)
        · exact (kept page _ true).stored
    | false =>
        obtain rfl := Option.some.inj sends
        exact attentive_notStored attentive
  · simp at sends

/-- A ticket that was opened is shown, and is done or given up. -/
theorem attentive_shown {ticket : Json} {listed : Page}
    (patient : ∀ awaited ∈ listed.pending, Patient listed.history awaited)
    (others : ∀ entry ∈ listed.held, entry.id ≠ id →
      Attended listed entry.id)
    (stored : listed.unsaved = false →
      restore listed.storage = listed.held) :
    Attentive (listed.shown id ticket) where
  patient other member :=
    (patient other member).mono (List.subset_append_left _ _)
  attended := by
    apply attended_all
    · cases processing : isProcessing ticket with
      | false => exact .done (AList.lookup_insert listed.tickets) processing
      | true => exact .givenUp (.opened (List.mem_append_right _
          (List.mem_singleton.mpr rfl)) processing)
    · intro entry member other
      exact (others entry member other).mono (List.Subset.refl _)
        (List.subset_append_left _ _) (AList.lookup_insert_ne other)
  stored := stored

theorem attentive_opened {ticket : Json} {stores : Bool}
    (attentive : Attentive page) :
    Attentive (page.opened id ticket stores) := by
  unfold Page.opened
  split
  · exact attentive_shown attentive.patient
      (fun entry member _ => attentive.attended entry member)
      attentive.stored
  · split
    · rename_i stores
      subst stores
      refine attentive_shown attentive.patient ?_ (kept page _ true).stored
      intro entry member other
      rcases List.mem_append.mp member with isHeld | isNew
      · exact (attentive.attended entry isHeld).mono (List.Subset.refl _)
          (List.Subset.refl _) rfl
      · exact absurd (congrArg Held.id (List.mem_singleton.mp isNew)) other
    · rename_i refuses
      rw [Bool.not_eq_true] at refuses
      subst refuses
      exact attentive_notStored attentive

theorem attentive_complete {stores : Bool}
    (but : AttentiveBut awaited page)
    (completes : page.complete stores awaited = some next) :
    Attentive next := by
  unfold Page.complete at completes
  split at completes
  · obtain rfl := Option.some.inj completes
    exact attentive_started but
  · exact attentive_sent (but.silent rfl (by simp)) completes
  · obtain rfl := Option.some.inj completes
    exact attentive_polled but
  · obtain rfl := Option.some.inj completes
    exact attentive_opened (but.silent rfl (by simp))
  · rename_i id attempt
    obtain rfl := Option.some.inj completes
    constructor
    · exact List.forall_mem_append.mpr
        ⟨but.patient, List.forall_mem_singleton.mpr but.own⟩
    · apply attended_all
      · exact .asks (List.mem_append_right _ (List.mem_singleton.mpr rfl))
          (Or.inr ⟨attempt, rfl⟩)
      · intro entry member other
        exact (but.other member rfl other).mono
          (List.subset_append_left _ _) (List.Subset.refl _) rfl
    · exact but.stored
  · simp at completes
  · simp at completes

/-! ## Failure -/

theorem attentive_note {happening : Happening} (but : AttentiveBut awaited page)
    (excused : ∀ entry ∈ page.held, Pending.Asks awaited entry.id →
      GivenUp (page.history ++ [happening]) entry.id) :
    Attentive (page.note happening) where
  patient other member :=
    (but.patient other member).mono (List.subset_append_left _ _)
  attended := by
    intro entry member
    rcases but.attended entry member with attended | asks
    · exact attended.mono (List.Subset.refl _)
        (List.subset_append_left _ _) rfl
    · exact .givenUp (excused entry member asks)
  stored := but.stored

theorem attentive_pollRaised {poll : Poll} {stores : Bool}
    (polls : awaited.polls = some (poll.id, poll.attempt))
    (but : AttentiveBut awaited page) :
    Attentive (page.pollRaised poll stores) := by
  unfold Page.pollRaised
  split
  · have keeps := kept page (page.held.filter (·.id != poll.id)) stores
    unfold Page.forget
    generalize page.keep (page.held.filter (·.id != poll.id)) stores = next
      at keeps
    constructor
    · intro other member
      rw [show Page.history _ = page.history from keeps.history]
      exact but.patient other (keeps.pending ▸ member)
    · intro entry member
      rw [show Page.held _ = _ from keeps.held] at member
      rcases List.mem_filter.mp member with ⟨isHeld, other⟩
      rw [bne_iff_ne] at other
      exact (but.other isHeld polls other).mono
        (fun _ isPending => keeps.pending ▸ isPending)
        (fun _ happened => keeps.history ▸ happened)
        (AList.lookup_erase_ne other)
    · intro saved
      exact (keeps.stored saved).trans keeps.held.symm
  · apply attentive_note but
    rintro entry - (rfl | ⟨attempt, same⟩)
    · simp [Pending.polls] at polls
    · rw [polls, Option.some.injEq, Prod.mk.injEq] at same
      rw [← same.1]
      exact .failed (by simp)

theorem attentive_fail {stores : Bool} (but : AttentiveBut awaited page)
    (fails : page.fail stores awaited = some next) : Attentive next := by
  unfold Page.fail at fails
  split at fails <;> try obtain rfl := Option.some.inj fails
  · exact attentive_note but fun entry member asks =>
      .notLoaded (by simp)
  · exact but.silent rfl (by simp)
  · exact but.silent rfl (by simp)
  · exact attentive_pollRaised rfl but
  · exact attentive_pollRaised rfl but
  · exact but.silent rfl (by simp)
  · exact but.silent rfl (by simp)
  · simp at fails

/-! ## Every act -/

theorem attentive_acts (attentive : Attentive page)
    (acts : Page.Acts page next) : Attentive next := by
  cases acts with
  | submitted submission rest =>
      exact attentive.await (patient_of_polls_none rfl)
  | typed id => exact attentive.await (patient_of_polls_none rfl)
  | clicked id =>
      exact ⟨attentive.patient, fun entry member =>
        (attentive.attended entry member).mono (List.Subset.refl _)
          (List.Subset.refl _) rfl, attentive.stored⟩
  | forgot stores =>
      refine ⟨attentive.patient, by simp [Page.forgetAll], ?_⟩
      intro saved
      cases stores with
      | true => rfl
      | false => cases saved
  | reloaded => exact attentive_load page.storage
  | completed stores isPending completes =>
      exact attentive_complete (attentive.but isPending) completes
  | failed stores isPending fails =>
      exact attentive_fail (attentive.but isPending) fails

/-- The service has taken up what was awaited. -/
theorem Attentive.answer {before after : List Pending} {answer : Pending}
    (attentive : Attentive page)
    (isPending : page.pending = before ++ awaited :: after)
    (polls : answer.polls = awaited.polls) (loaded : awaited ≠ .loading) :
    Attentive { page with pending := before ++ answer :: after } := by
  have but := attentive.but isPending
  constructor
  · intro other member
    rcases List.mem_append.mp member with isBefore | member
    · exact but.patient other (List.mem_append_left _ isBefore)
    · rcases List.mem_cons.mp member with rfl | isAfter
      · exact fun id attempt isPoll => but.own id attempt (polls ▸ isPoll)
      · exact but.patient other (List.mem_append_right _ isAfter)
  · intro entry member
    rcases but.attended entry member with attended | isLoading | ⟨_, isPoll⟩
    · refine attended.mono ?_ (List.Subset.refl _) rfl
      exact List.append_subset.mpr ⟨List.subset_append_left _ _,
        fun _ isAfter => List.mem_append_right _
          (List.mem_cons_of_mem _ isAfter)⟩
    · exact absurd isLoading loaded
    · exact .asks (List.mem_append_right _ List.mem_cons_self)
        (Or.inr ⟨_, polls.trans isPoll⟩)
  · exact but.stored

/-- On a page at rest, each ticket is done or given up. -/
theorem Attentive.atRest (attentive : Attentive page)
    (atRest : page.pending = []) {entry : Held}
    (member : entry ∈ page.held) :
    (∃ ticket, page.tickets.lookup entry.id = some ticket ∧
      isProcessing ticket = false) ∨ GivenUp page.history entry.id := by
  cases attentive.attended entry member with
  | asks isPending asks => simp [atRest] at isPending
  | done found done => exact Or.inl ⟨_, found, done⟩
  | givenUp givenUp => exact Or.inr givenUp

end

end SupportAssistant.Demo.Attention
