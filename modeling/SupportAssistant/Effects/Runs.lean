import Mathlib.Logic.Relation
import Mathlib.Order.WellFounded

/-!
# Runs without end

A run lists the states of a system, one after the other; at any time it may
pause.  What only moves down a well-founded order, and is moved whenever it
has not come to rest, comes to rest.
-/

namespace SupportAssistant.Effects.Runs

variable {σ β α : Type} {step : σ → σ → Prop} {run : Nat → σ}

/-- Each state is the one before it, or a step further. -/
def IsRun (step : σ → σ → Prop) (run : Nat → σ) : Prop :=
  ∀ n, run (n + 1) = run n ∨ step (run n) (run (n + 1))

theorem IsRun.later (isRun : IsRun step run) {n m : Nat} (le : n ≤ m) :
    Relation.ReflTransGen step (run n) (run m) := by
  induction le with
  | refl => exact .refl
  | @step m le induction =>
      rcases isRun m with same | moved
      · rw [show run m.succ = run m from same]
        exact induction
      · exact induction.tail moved

/-- Any finite run, paused at its end for ever. -/
theorem exists_run {first last : σ}
    (path : Relation.ReflTransGen step first last) :
    ∃ run length, IsRun step run ∧ run 0 = first ∧
      ∀ n, length ≤ n → run n = last := by
  induction path using Relation.ReflTransGen.head_induction_on with
  | refl => exact ⟨fun _ => last, 0, fun _ => Or.inl rfl, rfl, fun _ _ => rfl⟩
  | @head first next moved later induction =>
      rcases induction with ⟨run, length, isRun, starts, ends⟩
      refine ⟨fun n => n.casesOn first run, length + 1, ?_, rfl, ?_⟩
      · intro n
        cases n with
        | zero =>
            right
            show step first (run 0)
            rw [starts]
            exact moved
        | succ n => exact isRun n
      · intro n beyond
        cases n with
        | zero => exact absurd beyond (by simp)
        | succ n => exact ends n (Nat.le_of_succ_le_succ beyond)

section Rank

variable [Preorder α] {rank : β → α} {values : Nat → β} {rests : β → Prop}

/-- What never moves up is where it was, or lower. -/
theorem same_or_lower
    (moves : ∀ n, values (n + 1) = values n ∨
      rank (values (n + 1)) < rank (values n))
    {n m : Nat} (le : n ≤ m) :
    values m = values n ∨ rank (values m) < rank (values n) := by
  induction le with
  | refl => exact Or.inl rfl
  | @step m le induction =>
      rcases moves m with same | lower
      · rw [show values m.succ = values m from same]
        exact induction
      · right
        rcases induction with same | lower'
        · rw [← same]
          exact lower
        · exact lower.trans lower'

/-- What only moves down, and does not stay put above, comes to rest. -/
theorem comes_to_rest [WellFoundedLT α]
    (moves : ∀ n, values (n + 1) = values n ∨
      rank (values (n + 1)) < rank (values n))
    (fair : ∀ n, ¬ rests (values n) → ∃ m, n < m ∧ values m ≠ values n)
    (n : Nat) : ∃ m, n ≤ m ∧ rests (values m) := by
  have down : ∀ level n, rank (values n) = level →
      ∃ m, n ≤ m ∧ rests (values m) := by
    intro level
    induction level using WellFoundedLT.induction with
    | ind level induction =>
        intro n isLevel
        by_cases resting : rests (values n)
        · exact ⟨n, le_refl n, resting⟩
        · rcases fair n resting with ⟨m, after, moved⟩
          have lower : rank (values m) < level := by
            rcases same_or_lower moves after.le with same | lower
            · exact absurd same moved
            · rw [← isLevel]
              exact lower
          rcases induction _ lower m rfl with ⟨last, beyond, resting⟩
          exact ⟨last, after.le.trans beyond, resting⟩
  exact down _ n rfl

end Rank

end SupportAssistant.Effects.Runs
