import SupportAssistant.Effects.Outcomes

/-!
# Two computations in lockstep

A relation between two states is kept by two computations that run side by
side: both return the same value or both raise the same exception, and the
states they leave behind are related again.  The rules follow the constructs
of the language, so that a two-run property of a program is assembled from
those of its parts.
-/

namespace SupportAssistant.Effects.Lockstep

open SupportAssistant.Effects.Outcomes

variable {ε σ τ α β : Type}

/-- Two results that differ in the states alone, and there as related. -/
inductive Tied (related : σ → τ → Prop) :
    EStateM.Result ε σ α → EStateM.Result ε τ α → Prop where
  | returned {value : α} {left : σ} {right : τ}
      (holds : related left right) :
      Tied related (.ok value left) (.ok value right)
  | raised {exc : ε} {left : σ} {right : τ}
      (holds : related left right) :
      Tied related (.error exc left) (.error exc right)

/-- From related states, the two computations end tied. -/
def InLockstep (related : σ → τ → Prop)
    (first : EStateM ε σ α) (second : EStateM ε τ α) : Prop :=
  ∀ left right, related left right → Tied related (first left) (second right)

section Rules

variable {related : σ → τ → Prop}

theorem lockstep_pure (value : α) :
    InLockstep related (pure value : EStateM ε σ α)
      (pure value : EStateM ε τ α) :=
  fun _ _ holds => .returned holds

theorem lockstep_throw (exc : ε) :
    InLockstep related (throw exc : EStateM ε σ α)
      (throw exc : EStateM ε τ α) :=
  fun _ _ holds => .raised holds

theorem lockstep_answer (result : Except ε α) :
    InLockstep related (answer result) (answer result) := by
  cases result with
  | ok value => exact lockstep_pure value
  | error exc => exact lockstep_throw exc

theorem lockstep_modify
    {update : σ → σ} {update' : τ → τ}
    (keeps : ∀ left right, related left right →
      related (update left) (update' right)) :
    InLockstep related (modify update : EStateM ε σ PUnit)
      (modify update' : EStateM ε τ PUnit) :=
  fun left right holds => .returned (keeps left right holds)

theorem lockstep_set {left : σ} {right : τ} (holds : related left right) :
    InLockstep related (set left : EStateM ε σ PUnit)
      (set right : EStateM ε τ PUnit) :=
  fun _ _ _ => .returned holds

/-- Sequencing: the second parts start on the value both first parts gave. -/
theorem lockstep_bind
    {first : EStateM ε σ β} {first' : EStateM ε τ β}
    {second : β → EStateM ε σ α} {second' : β → EStateM ε τ α}
    (starts : InLockstep related first first')
    (continues : ∀ value, InLockstep related (second value) (second' value)) :
    InLockstep related (first >>= second) (first' >>= second') := by
  intro left right holds
  have tied := starts left right holds
  simp only [bind, EStateM.bind]
  cases ran : first left with
  | ok value after =>
      rw [ran] at tied
      generalize first' right = other at tied
      cases tied with
      | returned holds => exact continues value _ _ holds
  | error exc after =>
      rw [ran] at tied
      generalize first' right = other at tied
      cases tied with
      | raised holds => exact .raised holds

/-- Using the answer that both have, and knowing where it is from. -/
theorem lockstep_answer_bind {result : Except ε β}
    {second : β → EStateM ε σ α} {second' : β → EStateM ε τ α}
    (continues : ∀ value, result = .ok value →
      InLockstep related (second value) (second' value)) :
    InLockstep related (answer result >>= second)
      (answer result >>= second') := by
  cases result with
  | ok value => exact continues value rfl
  | error exc => exact fun _ _ holds => .raised holds

/-- Catching: the handlers start on the exception both bodies raised. -/
theorem lockstep_tryCatch
    {body : EStateM ε σ α} {body' : EStateM ε τ α}
    {handler : ε → EStateM ε σ α} {handler' : ε → EStateM ε τ α}
    (tries : InLockstep related body body')
    (handles : ∀ exc, InLockstep related (handler exc) (handler' exc)) :
    InLockstep related (tryCatch body handler) (tryCatch body' handler') := by
  intro left right holds
  have tied := tries left right holds
  change Tied related (EStateM.tryCatch body handler left)
    (EStateM.tryCatch body' handler' right)
  delta EStateM.tryCatch
  cases ran : body left with
  | ok value after =>
      rw [ran] at tied
      generalize body' right = other at tied
      cases tied with
      | returned holds => exact .returned holds
  | error exc after =>
      rw [ran] at tied
      generalize body' right = other at tied
      cases tied with
      | raised holds => exact handles exc _ _ holds

/-- Reading the state: the two may go on from related states differently. -/
theorem lockstep_get_bind
    {next : σ → EStateM ε σ α} {next' : τ → EStateM ε τ α}
    (continues : ∀ left right, related left right →
      InLockstep related (next left) (next' right)) :
    InLockstep related (get >>= next) (get >>= next') :=
  fun left right holds => continues left right holds left right holds

/-- However the two end, what they leave behind is related. -/
theorem InLockstep.finalState
    {first : EStateM ε σ α} {second : EStateM ε τ α}
    (lockstep : InLockstep related first second)
    {left : σ} {right : τ} (holds : related left right) :
    related (finalState first left) (finalState second right) := by
  have tied := lockstep left right holds
  rw [Outcomes.finalState, Outcomes.finalState]
  generalize first left = result at tied
  generalize second right = result' at tied
  cases tied with
  | returned holds => exact holds
  | raised holds => exact holds

end Rules

end SupportAssistant.Effects.Lockstep
