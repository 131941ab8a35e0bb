import SupportAssistant.Api.ServedViews

/-!
# What a deployment runs its tickets with

A process hands every run what it was started with.  `deployed` says which
wirings those are.  Whatever the runs of the other tickets do and whenever the
process dies, a ticket that is not processing any more holds the verdict of
one run of its own, over one of these wirings.
-/

namespace SupportAssistant.Api.Deployment

open SupportAssistant.Enums
open SupportAssistant.Runtime
open SupportAssistant.Effects.Outcomes
open SupportAssistant.Tracing.Models
open SupportAssistant.Domain
open SupportAssistant.Storage.Sqlite
open SupportAssistant.Storage.SqliteSpec
open SupportAssistant.Storage.Interchange
open SupportAssistant.Storage.Finality
open SupportAssistant.Pipeline.Collaborators
open SupportAssistant.Pipeline.Orchestrator
open SupportAssistant.Pipeline.DefaultWiring
open SupportAssistant.Pipeline.Conclusions
open SupportAssistant.Api.Routes
open SupportAssistant.Api.Visibility
open SupportAssistant.Api.Process
open SupportAssistant.Api.Lifecycle
open SupportAssistant.Api.ServedViews

section

variable (py : PyText) (pydantic : Pydantic) (time : TimeText)
variable (deployed : Wiring → Prop)

/-- A moment of a service that begins every run with a deployed wiring. -/
structure DeployedStep (world next : World) : Prop where
  step : Step py pydantic time world next
  begins : ∀ id events verdict,
    world.stage id = .scheduled →
      next.stage id = .running events verdict →
        ∃ wiring ticket before,
          deployed wiring ∧ DefaultTemplates py wiring ∧
            getTicket py pydantic time world.database id =
              .ok (some ticket) ∧
              (events, verdict) = runEvents wiring ticket before

/-- The worlds that a deployed service can be in. -/
def Deployed (world : World) : Prop :=
  Relation.ReflTransGen (DeployedStep py pydantic time deployed)
    World.start world

variable {py pydantic time deployed}

theorem Deployed.reachable {world : World}
    (reached : Deployed py pydantic time deployed world) :
    Reachable py pydantic time world := by
  induction reached with
  | refl => exact .refl
  | tail earlier moment induction => exact induction.tail moment.step

/-- The verdict is what a run of the ticket concluded with. -/
def Came (py : PyText) (deployed : Wiring → Prop) (ticket : Ticket)
    (verdict : Verdict) : Prop :=
  ∃ wiring before, deployed wiring ∧ DefaultTemplates py wiring ∧
    (runEvents wiring ticket before).2 = some verdict

/-- The verdict that a stage is on its way to write. -/
def Stage.verdict : Stage → Option Verdict
  | .running _ verdict => verdict
  | .writing verdict => some verdict
  | _ => none

/-- Whatever verdict there is of a ticket is the verdict of a run of it. -/
structure Sourced (py : PyText) (pydantic : Pydantic) (time : TimeText)
    (deployed : Wiring → Prop) (world : World) (id : String) : Prop where
  carried : ∀ verdict, Stage.verdict (world.stage id) = some verdict →
    ∃ payload created,
      entry id world.database =
          (some (postedRow time id payload created), []) ∧
        Came py deployed (newTicket payload id created) verdict
  stored : ∀ ticket,
    getTicket py pydantic time world.database id = .ok (some ticket) →
      ticket.status ≠ .processing →
        ∃ payload created updated verdict,
          ∃ concluding : Concluding (Prod.fst verdict) (Prod.snd verdict),
            ticket = settledTicket time payload id created updated
                concluding ∧
              Came py deployed (newTicket payload id created) verdict

variable {world next : World} {id : String}

/-- A ticket whose row and stage did not change is as sourced as it was. -/
theorem Sourced.same
    (sourced : Sourced py pydantic time deployed world id)
    (found : entry id next.database = entry id world.database)
    (stage : Stage.verdict (next.stage id) = none ∨
      Stage.verdict (next.stage id) = Stage.verdict (world.stage id)) :
    Sourced py pydantic time deployed next id where
  carried verdict isVerdict := by
    rcases stage with none | same
    · rw [isVerdict] at none
      simp at none
    · rw [found]
      exact sourced.carried verdict (same ▸ isVerdict)
  stored ticket isRead := by
    rw [getTicket_congr py pydantic time found] at isRead
    exact sourced.stored ticket isRead

/-- A ticket that was just posted has no verdict yet. -/
theorem sourced_posted {payload : CreateTicketRequest} {created : Reading}
    (found : entry id next.database =
      (some (postedRow time id payload created), []))
    (carried : ∀ verdict, Stage.verdict (next.stage id) = some verdict →
      Came py deployed (newTicket payload id created) verdict) :
    Sourced py pydantic time deployed next id where
  carried verdict isVerdict :=
    ⟨payload, created, found, carried verdict isVerdict⟩
  stored ticket isRead terminal := by
    rw [getTicket_posted py pydantic time found] at isRead
    obtain rfl := Option.some.inj (Except.ok.inj isRead)
    exact absurd rfl terminal

/-- A verdict that is written is stored. -/
theorem sourced_kept {readings : List DateTime}
    {payload : CreateTicketRequest} {created updated : Reading}
    {verdict : Verdict}
    (kept : Kept py time id readings payload created updated verdict
      (entry id next.database))
    (came : Came py deployed (newTicket payload id created) verdict)
    (silent : Stage.verdict (next.stage id) = none) :
    Sourced py pydantic time deployed next id where
  carried other isVerdict := by
    rw [silent] at isVerdict
    simp at isVerdict
  stored ticket isRead terminal := by
    rcases verdict with ⟨outcome, steps⟩
    rw [getTicket_kept pydantic kept] at isRead
    obtain rfl := Option.some.inj (Except.ok.inj isRead)
    exact ⟨payload, created, updated, (outcome, steps), kept.concluding,
      rfl, came⟩

/-- The other tickets are as sourced as they were. -/
theorem sourced_touched
    (sourced : ∀ id, Sourced py pydantic time deployed world id)
    {moved : String} {stage : Stage}
    (others : ∀ other, other ≠ moved →
      entry other next.database = entry other world.database)
    (stages : next.stage = Function.update world.stage moved stage)
    (own : next.stage moved = stage →
      Sourced py pydantic time deployed next moved) :
    ∀ id, Sourced py pydantic time deployed next id := by
  intro id
  by_cases same : id = moved
  · subst same
    apply own
    rw [stages, Function.update_self]
  · apply (sourced id).same (others id same)
    rw [stages, Function.update_of_ne same]
    exact Or.inr rfl

/-- A run that moves on and leaves the rows alone. -/
theorem Sourced.advanced
    (sourced : ∀ id, Sourced py pydantic time deployed world id)
    {moved : String} {stage : Stage}
    (database : next.database = world.database)
    (stages : next.stage = Function.update world.stage moved stage)
    (keeps : Stage.verdict stage = none ∨
      Stage.verdict stage = Stage.verdict (world.stage moved)) :
    ∀ id, Sourced py pydantic time deployed next id := by
  apply sourced_touched sourced (fun _ _ => by rw [database]) stages
  intro isStage
  apply (sourced moved).same (by rw [database])
  rw [isStage]
  exact keeps

/-- A run that begins carries the verdict of a run of its ticket. -/
theorem sourced_began (lawful : Lawful py time world)
    (sourced : ∀ id, Sourced py pydantic time deployed world id)
    (begins : ∀ id events verdict,
      world.stage id = .scheduled →
        next.stage id = .running events verdict →
          ∃ wiring ticket before,
            deployed wiring ∧ DefaultTemplates py wiring ∧
              getTicket py pydantic time world.database id =
                .ok (some ticket) ∧
                (events, verdict) = runEvents wiring ticket before)
    {id : String} {events : List Event} {verdict : Option Verdict}
    (scheduled : world.stage id = .scheduled)
    (database : next.database = world.database)
    (stages : next.stage =
      Function.update world.stage id (.running events verdict)) :
    ∀ id, Sourced py pydantic time deployed next id := by
  rcases (lawful.stands id).of_scheduled scheduled with
    ⟨payload, created, facts, -⟩
  have posted : entry id world.database = _ := congrArg Facts.found facts
  apply sourced_touched sourced (fun _ _ => by rw [database]) stages
  intro running
  apply sourced_posted (by rw [database]; exact posted)
  intro other isVerdict
  rcases begins id _ _ scheduled running with
    ⟨handed, run, earlier, isDeployed, default, isRead, ran⟩
  rw [getTicket_posted py pydantic time posted] at isRead
  obtain rfl := Option.some.inj (Except.ok.inj isRead)
  rw [running] at isVerdict
  exact ⟨handed, earlier, isDeployed, default,
    (congrArg Prod.snd ran).symm.trans isVerdict⟩

/-- The verdict that is written is the one that was carried. -/
theorem sourced_wrote (lawful : Lawful py time world)
    (sourced : ∀ id, Sourced py pydantic time deployed world id)
    {id : String} {outcome : Outcome} {steps : List TraceStep}
    {database : Database} {now : Reading} {stage : Stage}
    (writes : world.stage id = .writing (outcome, steps))
    (written : finalise py time now (finaliseCall id outcome steps)
      world.database = .ok ⟨⟩ database)
    (isDatabase : next.database = database)
    (stages : next.stage = Function.update world.stage id stage)
    (silent : Stage.verdict stage = none) :
    ∀ id, Sourced py pydantic time deployed next id := by
  rcases (lawful.stands id).of_writing writes with
    ⟨payload, created, facts, concluding, orderly, inOrder⟩
  have found : entry id world.database = _ := congrArg Facts.found facts
  rcases wrote_entry found written with ⟨stored, others⟩
  rcases (sourced id).carried _ (congrArg Stage.verdict writes) with
    ⟨payload', created', found', came⟩
  have same := (getTicket_posted py pydantic time found).symm.trans
    (getTicket_posted py pydantic time found')
  rw [← Option.some.inj (Except.ok.inj same)] at came
  apply sourced_touched sourced
    (fun other different => by rw [isDatabase]; exact others other different)
    stages
  intro isStage
  exact sourced_kept
    { concluding
      orderly
      stored := by rw [isDatabase]; exact stored
      inOrder := inOrder.append (List.Sublist.refl [now.val]) }
    came (isStage ▸ silent)

theorem sourced_step (lawful : Lawful py time world)
    (moment : DeployedStep py pydantic time deployed world next)
    (sourced : ∀ id, Sourced py pydantic time deployed world id) :
    ∀ id, Sourced py pydantic time deployed next id := by
  have begins := moment.begins
  cases moment.step with
  | posted payload id now created =>
      rcases posted_entry lawful created with ⟨unknown, inserted, others⟩
      apply sourced_touched sourced others rfl
      intro isStage
      apply sourced_posted inserted
      intro verdict isVerdict
      rw [isStage] at isVerdict
      simp [Stage.verdict] at isVerdict
  | refused payload id now raised =>
      have same := raised_of_error (create_ends py time _ _) raised
      intro other
      exact (sourced other).same (congrArg (entry other) same)
        (Or.inr rfl)
  | began wiring templates before scheduled found =>
      exact sourced_began lawful sourced begins scheduled rfl rfl
  | missed scheduled missing =>
      exact Sourced.advanced sourced rfl rfl (Or.inl rfl)
  | @happened id event ahead verdict runs =>
      apply Sourced.advanced sourced
      · cases event <;> rfl
      · cases event <;> rfl
      · exact Or.inr (congrArg Stage.verdict runs).symm
  | concluded runs =>
      exact Sourced.advanced sourced rfl rfl
        (Or.inr (congrArg Stage.verdict runs).symm)
  | escaped runs => exact Sourced.advanced sourced rfl rfl (Or.inl rfl)
  | wrote now writes written =>
      exact sourced_wrote lawful sourced writes written rfl rfl rfl
  | failed now writes =>
      exact Sourced.advanced sourced rfl rfl (Or.inl rfl)
  | counted counts => exact Sourced.advanced sourced rfl rfl (Or.inl rfl)
  | done counts => exact Sourced.advanced sourced rfl rfl (Or.inl rfl)
  | restarted =>
      intro id
      exact (sourced id).same rfl (Or.inl rfl)

/-- In a deployed service every verdict is that of a run of its ticket. -/
theorem deployed_sourced
    (reached : Deployed py pydantic time deployed world) :
    ∀ id, Sourced py pydantic time deployed world id := by
  induction reached with
  | refl =>
      intro id
      refine ⟨?_, ?_⟩
      · intro verdict isVerdict
        exact absurd isVerdict (by simp [World.start, Stage.verdict])
      · intro ticket isRead
        exact absurd isRead (by simp [World.start, getTicket, Database.empty])
  | tail earlier moment induction =>
      exact sourced_step (reachable_lawful (Deployed.reachable earlier)) moment
        induction

/-! ## A ticket that a deployment answers -/

theorem deployed_of_step (step : Step py pydantic time world next)
    (none : ∀ id, world.stage id ≠ .scheduled) :
    DeployedStep py pydantic time deployed world next where
  step := step
  begins id _ _ scheduled _ := absurd scheduled (none id)

theorem advance_notScheduled {moved : String} {stage : Stage}
    (others : ∀ id, id ≠ moved → world.stage id ≠ .scheduled)
    (own : stage ≠ .scheduled) :
    ∀ id, (world.advance moved stage).stage id ≠ .scheduled := by
  intro id
  by_cases same : id = moved
  · subst same
    rw [advance_stage_same]
    exact own
  · rw [advance_stage_other world same]
    exact others id same

theorem deployed_alone {events : List Event} {verdict : Verdict}
    (runs : world.stage id = .running events (some verdict))
    (none : ∀ id, world.stage id ≠ .scheduled) :
    Relation.ReflTransGen (DeployedStep py pydantic time deployed) world
      ((world.witnessAll id events).advance id (.writing verdict)) := by
  induction events generalizing world with
  | nil => exact .single (deployed_of_step (.concluded runs) none)
  | cons event events induction =>
      have stages : (world.witness id event).stage = world.stage := by
        cases event <;> rfl
      have rest := induction
        (advance_stage_same (world.witness id event) id
          (.running events (some verdict)))
        (advance_notScheduled (fun other _ => stages ▸ none other)
          (by simp))
      rw [witnessAll_advance, advance_advance] at rest
      exact .head (deployed_of_step (.happened runs) none) rest

theorem witnessAll_keeps (world : World) (id : String)
    (events : List Event) :
    (world.witnessAll id events).database = world.database ∧
      (world.witnessAll id events).stage = world.stage := by
  induction events generalizing world with
  | nil => exact ⟨rfl, rfl⟩
  | cons event events induction =>
      have rest := induction (world.witness id event)
      cases event <;> exact rest

/-- A ticket that is posted alone, and run up to its write. -/
theorem exists_writing {payload : CreateTicketRequest} {wiring : Wiring}
    (isDeployed : deployed wiring) (templates : DefaultTemplates py wiring)
    {now : Reading} {posted : Database}
    (created : create py time (newTicket payload id now) Database.empty =
      .ok ⟨⟩ posted)
    (found : getTicket py pydantic time posted id =
      .ok (some (newTicket payload id now)))
    {verdict : Verdict}
    (ran : (runEvents wiring (newTicket payload id now) []).2 =
      some verdict) :
    ∃ world, Deployed py pydantic time deployed world ∧
      world.database = posted ∧ world.stage id = .writing verdict ∧
        ∀ other, world.stage other ≠ .scheduled := by
  let waits : World :=
    { (World.start.advance id .scheduled).read now with
      database := posted, accepted := [id] }
  let events := (runEvents wiring (newTicket payload id now) []).1
  have isPosted : DeployedStep py pydantic time deployed World.start waits :=
    deployed_of_step (.posted payload id now created) (by simp [World.start])
  have only : ∀ other, other ≠ id → waits.stage other ≠ .scheduled := by
    intro other different
    rw [show waits.stage other = .absent from
      advance_stage_other World.start different _]
    simp
  have begins : DeployedStep py pydantic time deployed waits
      (waits.advance id (.running events (some verdict))) := by
    have began := @Step.began py pydantic time waits id _ wiring templates
      [] (advance_stage_same World.start id _) found
    rw [ran] at began
    refine ⟨began, ?_⟩
    intro other ahead concluded scheduled running
    by_cases same : other = id
    · subst same
      rw [advance_stage_same, Stage.running.injEq] at running
      exact ⟨wiring, _, [], isDeployed, templates, found,
        Prod.ext running.1.symm (running.2.symm.trans ran.symm)⟩
    · exact absurd scheduled (only other same)
  have alone := @deployed_alone py pydantic time deployed _ id events
    verdict (advance_stage_same waits id _)
    (advance_notScheduled only (by simp))
  rw [witnessAll_advance, advance_advance] at alone
  have kept := witnessAll_keeps waits id events
  refine ⟨_, ((Relation.ReflTransGen.single isPosted).tail begins).trans
    alone, kept.1, advance_stage_same _ id _, ?_⟩
  apply advance_notScheduled
  · rw [kept.2]
    exact only
  · simp

/-- A ticket that is posted alone, run, and written. -/
theorem exists_answered {payload : CreateTicketRequest} {wiring : Wiring}
    (isDeployed : deployed wiring) (templates : DefaultTemplates py wiring)
    {now : Reading} {posted database : Database}
    (created : create py time (newTicket payload id now) Database.empty =
      .ok ⟨⟩ posted)
    {verdict : Verdict}
    (ran : (runEvents wiring (newTicket payload id now) []).2 =
      some verdict)
    (written : finalise py time now (finaliseCall id verdict.1 verdict.2)
      posted = .ok ⟨⟩ database) :
    ∃ world ticket, Deployed py pydantic time deployed world ∧
      world.database = database ∧
        getTicket py pydantic time world.database id = .ok (some ticket) ∧
          ticket.status ≠ .processing ∧ ticket.userId = payload.userId ∧
            ticket.subject = payload.subject ∧
              ticket.body = payload.body := by
  have found : getTicket py pydantic time posted id =
      .ok (some (newTicket payload id now)) :=
    getTicket_posted py pydantic time
      (posted_entry (lawful_start py time) created).2.1
  rcases exists_writing isDeployed templates created found ran with
    ⟨world, reached, rows, writing, none⟩
  have writes : Step py pydantic time world _ :=
    .wrote now writing ((congrArg (finalise py time now _) rows).trans written)
  rcases ((reachable_lawful reached.reachable).stands id).of_writing
    writing with ⟨payload', created', facts, concluding, orderly, inOrder⟩
  have stood : entry id posted =
      (some (postedRow time id payload' created'), []) :=
    (congrArg (entry id) rows).symm.trans (congrArg Facts.found facts)
  have same := found.symm.trans (getTicket_posted py pydantic time stood)
  have words := Option.some.inj (Except.ok.inj same)
  rcases verdict with ⟨outcome, steps⟩
  have stored : Kept py time id _ payload' created' now (outcome, steps)
      (entry id database) :=
    { concluding
      orderly
      stored := (wrote_entry stood written).1
      inOrder := inOrder.append (List.Sublist.refl [now.val]) }
  exact ⟨_, _, reached.tail (deployed_of_step writes none), rfl,
    getTicket_kept pydantic stored, (read_kept pydantic stored).2.terminal,
    (congrArg Ticket.userId words).symm, (congrArg Ticket.subject words).symm,
    (congrArg Ticket.body words).symm⟩

end

end SupportAssistant.Api.Deployment
