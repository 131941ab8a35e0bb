import Mathlib.Data.List.Basic

/-!
# A register under a sequence of steps

A state takes steps; some of them write to a place that can be looked at.  If
every other step leaves what is seen there alone, then after any sequence of
steps one sees what the last write left, or what was there before.
-/

namespace SupportAssistant.Effects.LastWrite

variable {σ ω w v : Type}

/-- The state after a sequence of steps. -/
def after (next : σ → ω → σ) (state : σ) (steps : List ω) : σ :=
  steps.foldl next state

/-- What the steps write, in order, each seen from the state it starts in. -/
def writes (next : σ → ω → σ) (write : σ → ω → Option w) :
    σ → List ω → List w
  | _, [] => []
  | state, step :: steps =>
      (write state step).toList ++ writes next write (next state step) steps

section

variable {next : σ → ω → σ} {write : σ → ω → Option w}

@[simp]
theorem after_cons (state : σ) (step : ω) (steps : List ω) :
    after next state (step :: steps) =
      after next (next state step) steps := rfl

/-- The steps may also be restricted, one by one. -/
theorem after_induction_of
    {holds : σ → Prop} {allowed : ω → Prop}
    (preserved : ∀ state step, allowed step → holds state →
      holds (next state step))
    {state : σ} (start : holds state) {steps : List ω}
    (all : ∀ step ∈ steps, allowed step) :
    holds (after next state steps) := by
  induction steps generalizing state with
  | nil => exact start
  | cons step steps induction =>
      exact induction
        (preserved state step (all step (by simp)) start)
        fun later member => all later (by simp [member])

/-- What is seen after the steps, as far as a last write determines it. -/
def SeenAfter (settles : w → v → Prop) (before now : v) :
    Option w → Prop
  | none => now = before
  | some written => settles written now

/-- The last write decides what is seen. -/
theorem seenAfter_after
    (holds : σ → Prop) {look : σ → v} {settles : w → v → Prop}
    (preserved : ∀ state step, holds state → holds (next state step))
    (frame : ∀ state step, holds state → write state step = none →
      look (next state step) = look state)
    (writing : ∀ state step written, holds state →
      write state step = some written →
        settles written (look (next state step)))
    {state : σ} (start : holds state) (steps : List ω) :
    SeenAfter settles (look state) (look (after next state steps))
      (writes next write state steps).getLast? := by
  induction steps generalizing state with
  | nil => rfl
  | cons step steps induction =>
      have later := induction (preserved state step start)
      rw [after_cons, writes]
      cases last : (writes next write (next state step) steps).getLast? with
      | some written =>
          rw [List.getLast?_append, last]
          rw [last] at later
          exact later
      | none =>
          rw [last] at later
          rw [List.getLast?_append, last]
          cases here : write state step with
          | none =>
              exact (show look _ = look _ from later).trans
                (frame state step start here)
          | some written =>
              have settled := writing state step written start here
              rw [← (show look _ = look _ from later)] at settled
              exact settled

end

end SupportAssistant.Effects.LastWrite
