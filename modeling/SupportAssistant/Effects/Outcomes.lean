import Mathlib.Logic.Basic

/-!
# Both ways a computation can end

A computation in `EStateM` returns a value or raises, and in either case it
leaves a state behind.  `Ends` states what holds in both cases.  The rules
below follow the constructs of the language, so that a property of a program
is assembled from the properties of its parts.
-/

namespace SupportAssistant.Effects.Outcomes

variable {ε σ α β : Type}

/-- The computation returns into `returned`, or raises into `raised`. -/
def Ends
    (computation : EStateM ε σ α)
    (state : σ)
    (returned : α → σ → Prop)
    (raised : ε → σ → Prop) : Prop :=
  match computation state with
  | .ok value after => returned value after
  | .error exc after => raised exc after

section Rules

variable {returned : α → σ → Prop} {raised : ε → σ → Prop}
variable {state : σ}

theorem ends_iff {computation : EStateM ε σ α} :
    Ends computation state returned raised ↔
      (∀ value after, computation state = .ok value after →
        returned value after) ∧
      (∀ exc after, computation state = .error exc after →
        raised exc after) := by
  unfold Ends
  cases computation state <;> simp

theorem ends_pure {value : α} (holds : returned value state) :
    Ends (pure value) state returned raised :=
  holds

theorem ends_throw {exc : ε} (holds : raised exc state) :
    Ends (throw exc : EStateM ε σ α) state returned raised :=
  holds

theorem ends_modify
    {update : σ → σ}
    (returned : PUnit → σ → Prop)
    (holds : returned ⟨⟩ (update state)) :
    Ends (modify update : EStateM ε σ PUnit) state returned raised :=
  holds

theorem ends_set
    {state' : σ}
    {returned : PUnit → σ → Prop}
    (holds : returned ⟨⟩ state') :
    Ends (set state' : EStateM ε σ PUnit) state returned raised :=
  holds

theorem ends_mono
    {computation : EStateM ε σ α}
    {weaker : α → σ → Prop} {weakerRaised : ε → σ → Prop}
    (ends : Ends computation state returned raised)
    (returns : ∀ value after, returned value after → weaker value after)
    (raises : ∀ exc after, raised exc after → weakerRaised exc after) :
    Ends computation state weaker weakerRaised := by
  rw [ends_iff] at ends ⊢
  exact ⟨fun value after equal => returns value after (ends.1 value after equal),
    fun exc after equal => raises exc after (ends.2 exc after equal)⟩

/-- What a computation ends in, given how it ended. -/
theorem returned_of_ok
    {computation : EStateM ε σ α} {value : α} {after : σ}
    (ends : Ends computation state returned raised)
    (ran : computation state = .ok value after) :
    returned value after :=
  (ends_iff.mp ends).1 value after ran

theorem raised_of_error
    {computation : EStateM ε σ α} {exc : ε} {after : σ}
    (ends : Ends computation state returned raised)
    (ran : computation state = .error exc after) :
    raised exc after :=
  (ends_iff.mp ends).2 exc after ran

/-- Sequencing: the second part starts where the first one returned. -/
theorem ends_bind
    {first : EStateM ε σ β} {second : β → EStateM ε σ α}
    (middle : β → σ → Prop)
    (starts : Ends first state middle raised)
    (continues : ∀ value after, middle value after →
      Ends (second value) after returned raised) :
    Ends (first >>= second) state returned raised := by
  unfold Ends at starts ⊢
  simp only [bind, EStateM.bind]
  cases ran : first state with
  | ok value after =>
      rw [ran] at starts
      exact continues value after starts
  | error exc after =>
      rw [ran] at starts
      exact starts

/-- Catching: the handler starts where the body raised. -/
theorem ends_tryCatch
    {body : EStateM ε σ α} {handler : ε → EStateM ε σ α}
    (middle : ε → σ → Prop)
    (tries : Ends body state returned middle)
    (handles : ∀ exc after, middle exc after →
      Ends (handler exc) after returned raised) :
    Ends (tryCatch body handler) state returned raised := by
  unfold Ends at tries ⊢
  change match EStateM.tryCatch body handler state with
    | .ok value after => returned value after
    | .error exc after => raised exc after
  delta EStateM.tryCatch
  cases ran : body state with
  | ok value after =>
      rw [ran] at tries
      exact tries
  | error exc after =>
      rw [ran] at tries
      exact handles exc after tries

end Rules

/-- The state a computation leaves behind, however it ends. -/
def finalState (computation : EStateM ε σ α) (state : σ) : σ :=
  match computation state with
  | .ok _ after => after
  | .error _ after => after

theorem ends_finalState
    {computation : EStateM ε σ α} {state : σ} {holds : σ → Prop}
    (ends : Ends computation state (fun _ => holds) (fun _ => holds)) :
    holds (finalState computation state) := by
  unfold Ends at ends
  unfold finalState
  cases ran : computation state with
  | ok value after =>
      rw [ran] at ends
      exact ends
  | error exc after =>
      rw [ran] at ends
      exact ends

/-- Whether the computation returns, and with a value that passes. -/
def returns (computation : EStateM ε σ α) (state : σ)
    (passes : α → Bool) : Bool :=
  match computation state with
  | .ok value _ => passes value
  | .error _ _ => false

theorem ok_of_returns {computation : EStateM ε σ α} {state : σ}
    {passes : α → Bool} (isTrue : returns computation state passes = true) :
    ∃ value, passes value = true ∧
      computation state = .ok value (finalState computation state) := by
  unfold returns at isTrue
  unfold finalState
  cases ran : computation state with
  | ok value after =>
      rw [ran] at isTrue
      exact ⟨value, isTrue, rfl⟩
  | error exc after =>
      rw [ran] at isTrue
      simp at isTrue

/-- An answer that is already there: return it or raise it. -/
def answer : Except ε α → EStateM ε σ α
  | .ok value => pure value
  | .error exc => throw exc

theorem ends_answer
    {result : Except ε α} {state : σ}
    {returned : α → σ → Prop} {raised : ε → σ → Prop}
    (returns : ∀ value, result = .ok value → returned value state)
    (raises : ∀ exc, result = .error exc → raised exc state) :
    Ends (answer result) state returned raised := by
  cases result with
  | ok value => exact returns value rfl
  | error exc => exact raises exc rfl

theorem get_bind (next : σ → EStateM ε σ α) (state : σ) :
    (get >>= next) state = next state state := rfl

/-- Reading the state and going on from there. -/
theorem ends_get_bind
    {next : σ → EStateM ε σ α} {state : σ}
    {returned : α → σ → Prop} {raised : ε → σ → Prop}
    (continues : Ends (next state) state returned raised) :
    Ends (get >>= next) state returned raised :=
  continues

/-- Using an answer and going on from there, or raising it. -/
theorem ends_answer_bind
    {result : Except ε β} {next : β → EStateM ε σ α} {state : σ}
    {returned : α → σ → Prop} {raised : ε → σ → Prop}
    (continues : ∀ value, result = .ok value →
      Ends (next value) state returned raised)
    (raises : ∀ exc, result = .error exc → raised exc state) :
    Ends (answer result >>= next) state returned raised := by
  cases result with
  | ok value => exact continues value rfl
  | error exc => exact raises exc rfl

end SupportAssistant.Effects.Outcomes
