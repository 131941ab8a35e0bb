import Mathlib.Data.List.Basic

/-!
# Operations that keep to their key

A machine answers operations, each of which is about one key.  It is local if
an operation sees and changes nothing but what there is under its own key.
Then the operations on one key are answered as if there were no others.
-/

namespace SupportAssistant.Effects.Locality

variable {σ ω α κ ν : Type}

/-- Each operation, with its answer. -/
def transcript (step : σ → ω → α × σ) : σ → List ω → List (ω × α)
  | _, [] => []
  | state, operation :: operations =>
      (operation, (step state operation).1) ::
        transcript step (step state operation).2 operations

/-- An operation sees and changes what is under its key, and nothing else. -/
structure Local (step : σ → ω → α × σ) (key : ω → κ) (view : κ → σ → ν) :
    Prop where
  others : ∀ state operation other, key operation ≠ other →
    view other (step state operation).2 = view other state
  own : ∀ state state' operation,
    view (key operation) state = view (key operation) state' →
      (step state operation).1 = (step state' operation).1 ∧
        view (key operation) (step state operation).2 =
          view (key operation) (step state' operation).2

variable [DecidableEq κ] {step : σ → ω → α × σ} {key : ω → κ}
variable {view : κ → σ → ν}

/--
What is answered to the operations on a key, among any others, is what these
operations alone are answered.
-/
theorem Local.transcript_filter (isLocal : Local step key view) (chosen : κ)
    {state state' : σ} (same : view chosen state = view chosen state')
    (operations : List ω) :
    (transcript step state operations).filter
        (fun pair => decide (key pair.1 = chosen)) =
      transcript step state'
        (operations.filter fun operation =>
          decide (key operation = chosen)) := by
  induction operations generalizing state state' with
  | nil => rfl
  | cons operation operations induction =>
      by_cases isOwn : key operation = chosen
      · subst isOwn
        rcases isLocal.own state state' operation same with
          ⟨answered, after⟩
        rw [transcript, List.filter_cons_of_pos (by simp),
          List.filter_cons_of_pos (by simp), transcript, answered,
          induction after]
      · have kept := isLocal.others state operation chosen isOwn
        rw [transcript, List.filter_cons_of_neg (by simpa using isOwn),
          List.filter_cons_of_neg (by simpa using isOwn),
          induction (kept.trans same)]

end SupportAssistant.Effects.Locality
