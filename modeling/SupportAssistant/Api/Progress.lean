import Mathlib.Data.Prod.Lex
import SupportAssistant.Api.Chronicle
import SupportAssistant.Effects.Runs

/-!
# Every ticket comes to rest

Every moment of a background task takes it closer to its end.  So if no task
is neglected for ever, every accepted ticket comes to rest: what is stored and
what is answered of it no longer changes.  It has settled by then, unless its
run was lost on the way.
-/

namespace SupportAssistant.Api.Progress

open SupportAssistant.Runtime
open SupportAssistant.Runtime.Ascii
open SupportAssistant.Effects.Runs
open SupportAssistant.Observability.Metrics
open SupportAssistant.Storage.Finality
open SupportAssistant.Api.Routes
open SupportAssistant.Api.Sendable
open SupportAssistant.Api.Responses
open SupportAssistant.Api.Process
open SupportAssistant.Api.Lifecycle
open SupportAssistant.Api.ServedViews
open SupportAssistant.Api.Chronicle

/-! ## How far a task is from its end -/

/-- The part of the run that is under way, and the length of what is left. -/
def Stage.ahead : Stage → Nat ×ₗ Nat
  | .absent => toLex (0, 0)
  | .scheduled => toLex (4, 0)
  | .running ahead _ => toLex (3, ahead.length)
  | .writing _ => toLex (2, 0)
  | .counting updates => toLex (1, updates.length)

section

variable {py : PyText} {pydantic : Pydantic} {time : TimeText}
variable {world next : World} {id : String}

theorem advance_lower {moved : String} {before stage : Stage}
    (was : world.stage moved = before)
    (lower : Stage.ahead stage < Stage.ahead before) :
    (world.advance moved stage).stage id = world.stage id ∨
      Stage.ahead ((world.advance moved stage).stage id) <
        Stage.ahead (world.stage id) := by
  by_cases same : id = moved
  · subst same
    rw [advance_stage_same, was]
    exact Or.inr lower
  · exact Or.inl (advance_stage_other world same stage)

/-- A moment leaves the task of a known ticket alone, or takes it further. -/
theorem stage_moves (lawful : Lawful py time world)
    (step : Step py pydantic time world next)
    (known : (entry id world.database).1.isSome = true) :
    next.stage id = world.stage id ∨
      Stage.ahead (next.stage id) < Stage.ahead (world.stage id) := by
  -- a later part of the run, or the same part with less to do
  have later : ∀ {part part' left left' : Nat},
      part' < part ∨ part' = part ∧ left' < left →
        toLex (part', left') < toLex (part, left) :=
    fun shown => Prod.Lex.toLex_lt_toLex.mpr shown
  cases step with
  | @posted database payload moved now created =>
      rcases posted_entry lawful created with ⟨unknown, -, -⟩
      have different : id ≠ moved := by
        rintro rfl
        rw [show entry id world.database = _ from
          congrArg Facts.found unknown] at known
        simp at known
      exact Or.inl (advance_stage_other world different _)
  | refused payload moved now raised => exact Or.inl rfl
  | began wiring templates before scheduled found =>
      exact advance_lower scheduled (later (by simp))
  | missed scheduled missing =>
      exact advance_lower scheduled (later (by simp))
  | @happened moved event ahead verdict runs =>
      have stages : (world.witness moved event).stage = world.stage := by
        cases event <;> rfl
      rw [← stages] at runs ⊢
      exact advance_lower runs (later (by simp))
  | concluded runs => exact advance_lower runs (later (by simp))
  | escaped runs => exact advance_lower runs (later (by simp))
  | wrote now writes written => exact advance_lower writes (later (by simp))
  | failed now writes => exact advance_lower writes (later (by simp))
  | counted counts => exact advance_lower counts (later (by simp))
  | done counts => exact advance_lower counts (later (by simp))
  | restarted =>
      cases world.stage id with
      | absent => exact Or.inl rfl
      | _ => exact Or.inr (later (by simp))

/-- A task begins when its ticket is accepted. -/
theorem scheduled_of_accepted (step : Step py pydantic time world next)
    (unknown : id ∉ world.accepted) (accepted : id ∈ next.accepted) :
    next.stage id = .scheduled := by
  cases step with
  | posted payload moved now created =>
      have isMoved : id = moved := by
        simpa [unknown] using accepted
      rw [isMoved]
      exact advance_stage_same world moved _
  | @happened moved event ahead verdict runs =>
      cases event <;> exact absurd accepted unknown
  | _ => exact absurd accepted unknown

/-! ## Rest -/

/-- The run of a ticket is lost before its write. -/
def Loses (world next : World) (id : String) : Prop :=
  ¬ Stage.Over (world.stage id) ∧ next.stage id = .absent

/-- A ticket whose write is being counted has settled. -/
theorem settled_of_counting (reached : Reachable py pydantic time world)
    {updates : List MetricUpdate}
    (counts : world.stage id = .counting updates) :
    ∃ view, readTicket py pydantic time world.database id =
        .ok (some view) ∧ Settled view := by
  have stands := (reachable_lawful reached).stands id
  generalize facts : factsOf world id = its at stands
  have stage : its.stage = .counting updates :=
    (congrArg Facts.stage facts).symm.trans counts
  cases stands with
  | @kept payload created updated verdict found stage kept ended =>
      have isFound : entry id world.database = found :=
        congrArg Facts.found facts
      rw [← isFound] at kept
      exact ⟨_, read_kept pydantic kept⟩
  | _ => cases stage

variable {run : Nat → World}

theorem reachable_at (isRun : IsRun (Process.Step py pydantic time) run)
    (starts : run 0 = World.start) (n : Nat) :
    Reachable py pydantic time (run n) := by
  have later := isRun.later (Nat.zero_le n)
  rw [starts] at later
  exact later

/-- A ticket without a task has settled, or its run was lost. -/
theorem settled_or_lost (isRun : IsRun (Process.Step py pydantic time) run)
    (starts : run 0 = World.start) (n : Nat) (accepted : id ∈ (run n).accepted)
    (idle : (run n).stage id = .absent) :
    (∃ k, k < n ∧ Loses (run k) (run (k + 1)) id) ∨
      ∃ view, readTicket py pydantic time (run n).database id =
          .ok (some view) ∧ Settled view := by
  induction n with
  | zero =>
      rw [starts] at accepted
      exact absurd accepted List.not_mem_nil
  | succ n induction =>
      have reached := reachable_at isRun starts n
      -- what was so before is so still
      have carried : (run n).stage id = .absent → id ∈ (run n).accepted →
          (∃ k, k < n + 1 ∧ Loses (run k) (run (k + 1)) id) ∨
            ∃ view, readTicket py pydantic time (run (n + 1)).database id =
                .ok (some view) ∧ Settled view := by
        intro wasOver wasAccepted
        rcases induction wasAccepted wasOver with
          ⟨k, before, loses⟩ | ⟨view, read, settles⟩
        · exact Or.inl ⟨k, Nat.lt_succ_of_lt before, loses⟩
        · have later := isRun.later (Nat.le_succ n)
          exact Or.inr ⟨view, settled_later reached later read settles,
            settles⟩
      rcases isRun n with same | moved
      · exact carried (same ▸ idle) (same ▸ accepted)
      · by_cases wasAccepted : id ∈ (run n).accepted
        · cases stage : (run n).stage id with
          | absent => exact carried stage wasAccepted
          | counting updates =>
              rcases settled_of_counting reached stage with
                ⟨view, read, settles⟩
              exact Or.inr ⟨view,
                settled_later reached (.single moved) read settles, settles⟩
          | _ =>
              refine Or.inl ⟨n, Nat.lt_succ_self n, ?_, idle⟩
              rw [stage]
              exact not_false
        · have begins := scheduled_of_accepted moved wasAccepted accepted
          rw [idle] at begins
          cases begins

/-- No task is left alone for ever while it can be taken further. -/
def Fair (run : Nat → World) : Prop :=
  ∀ id n, (run n).stage id ≠ .absent →
    ∃ m, n < m ∧ (run m).stage id ≠ (run n).stage id

/-- What is answered of a ticket once it rests. -/
inductive LastAnswer (py : PyText) (view : TicketView) : Response → Prop where
  | sent (body : Json) : LastAnswer py view (.ok view body)
  | withheld (settles : Settled view)
      (unsendable : ∃ step ∈ view.trace, ¬ CanBeSent py step.payload) :
      LastAnswer py view .serverError

/--
In a run that neglects no task, every ticket that `POST` has recorded comes to
rest.  From then on one view of it is stored and every request for it is
answered alike: with this view, or with an error if it has settled with a step
that cannot be sent.  The view is settled unless a moment of the run has lost
the task of the ticket; then it waits for ever.
-/
theorem every_ticket_comes_to_rest
    (isRun : IsRun (Process.Step py pydantic time) run)
    (starts : run 0 = World.start) (fair : Fair run) {n : Nat}
    (accepted : id ∈ (run n).accepted) :
    ∃ m view answer, n ≤ m ∧
      (∀ k, m ≤ k → (run k).stage id = .absent ∧
        readTicket py pydantic time (run k).database id =
            .ok (some view) ∧
          respond py pydantic time (run k).database id = answer) ∧
        LastAnswer py view answer ∧
          (Settled view ∨ Waiting view ∧
            ∃ k, k < m ∧ Loses (run k) (run (k + 1)) id) := by
  have moves : ∀ k, (run (n + (k + 1))).stage id = (run (n + k)).stage id ∨
      Stage.ahead ((run (n + (k + 1))).stage id) <
        Stage.ahead ((run (n + k)).stage id) := by
    intro k
    rcases isRun (n + k) with same | moved
    · exact Or.inl (congrArg (World.stage · id) same)
    · have lawful := reachable_lawful (reachable_at isRun starts (n + k))
      have still := accepted_later (isRun.later (Nat.le_add_right n k)) accepted
      exact stage_moves lawful moved ((lawful.known id).mp still)
  have further : ∀ k, ¬ (run (n + k)).stage id = .absent →
      ∃ m, k < m ∧ (run (n + m)).stage id ≠ (run (n + k)).stage id := by
    intro k active
    rcases fair id (n + k) active with ⟨m, after, moved⟩
    refine ⟨m - n, by omega, ?_⟩
    rw [show n + (m - n) = m by omega]
    exact moved
  rcases @comes_to_rest _ _ _ Stage.ahead
    (fun k => (run (n + k)).stage id) (· = .absent) _ moves further 0 with
    ⟨k, -, idle⟩
  have still := accepted_later (isRun.later (Nat.le_add_right n k)) accepted
  have reached := reachable_at isRun starts (n + k)
  have filed := reachable_filed reached
  have bound := encodes_of_found filed
    (((reachable_lawful reached).known id).mp still)
  rcases read_of_accepted reached still with ⟨view, read, presentable⟩
  refine ⟨n + k, view, respond py pydantic time (run (n + k)).database id,
    Nat.le_add_right n k, ?_, ?_, ?_⟩
  · intro later after
    have lawful := reachable_lawful reached
    have facts := stage_absent_later lawful (isRun.later after)
      ((lawful.known id).mp still) idle
    have found := congrArg Facts.found facts
    exact ⟨(congrArg Facts.stage facts).trans idle,
      (readTicket_congr found).trans read, respond_congr bound found⟩
  · cases answered_of_read filed bound read with
    | sent sendable body isBody =>
        rw [isBody]
        exact .sent body
    | withheld step recorded unsendable fails =>
        rw [fails]
        refine .withheld ?_ ⟨step, recorded, unsendable⟩
        rcases presentable with waits | settles
        · rw [waits.trace] at recorded
          simp at recorded
        · exact settles
  · rcases presentable with waits | settles
    · right
      rcases settled_or_lost isRun starts (n + k) still idle with
        lost | ⟨other, isRead, settles⟩
      · exact ⟨waits, lost⟩
      · obtain rfl := Option.some.inj
          (Except.ok.inj (read.symm.trans isRead))
        exact absurd waits.status settles.terminal
    · exact Or.inl settles

end

/-- A run that ends in a world without tasks neglects none. -/
theorem fair_of_ends {run : Nat → World} {last : World} {length : Nat}
    (ends : ∀ n, length ≤ n → run n = last)
    (idle : ∀ id, last.stage id = .absent) : Fair run := by
  intro id n active
  refine ⟨max (n + 1) length, by omega, ?_⟩
  rw [ends _ (Nat.le_max_right _ _), idle id]
  exact Ne.symm active

theorem settled_ticket_rests :
    ∃ (run : Nat → World) (n : Nat), "t1" ∈ (run n).accepted ∧
      ∃ m view answer, n ≤ m ∧
        (∀ k, m ≤ k → (run k).stage "t1" = .absent ∧
          readTicket asciiText plainPydantic tallyTime (run k).database
              "t1" = .ok (some view) ∧
            respond asciiText plainPydantic tallyTime (run k).database "t1" =
              answer) ∧
          LastAnswer asciiText view answer ∧
            (Settled view ∨ Waiting view ∧
              ∃ k, k < m ∧ Loses (run k) (run (k + 1)) "t1") := by
  have path := (postedWorld_reached.trans settledWorld_later).tail .restarted
  rcases exists_run path with ⟨run, length, isRun, starts, ends⟩
  have fair : Fair run := fair_of_ends ends fun _ => rfl
  have wasAccepted : "t1" ∈ postedWorld.accepted := by simp [postedWorld]
  have accepted : "t1" ∈ (run length).accepted := by
    rw [ends length (le_refl length)]
    exact accepted_later (settledWorld_later.tail .restarted) wasAccepted
  exact ⟨run, length, accepted,
    every_ticket_comes_to_rest isRun starts fair accepted⟩

end SupportAssistant.Api.Progress
