import SupportAssistant.Effects.Outcomes

/-!
# Properties of the state that a computation keeps

`Keeps` says that a property of the state is there after a computation if it
was there before, whether the computation returned or raised.  The rules
follow the constructs of the language.
-/

namespace SupportAssistant.Effects.Invariants

open SupportAssistant.Effects.Outcomes

variable {ε σ α β : Type}

/-- The property of the state survives the computation, however it ends. -/
def Keeps (invariant : σ → Prop) (computation : EStateM ε σ α) : Prop :=
  ∀ state, invariant state →
    Ends computation state (fun _ => invariant) (fun _ => invariant)

section Rules

variable {invariant : σ → Prop}

theorem keeps_pure (value : α) :
    Keeps invariant (pure value : EStateM ε σ α) :=
  fun _ holds => ends_pure holds

theorem keeps_throw (exc : ε) :
    Keeps invariant (throw exc : EStateM ε σ α) :=
  fun _ holds => ends_throw holds

theorem keeps_answer (result : Except ε α) :
    Keeps invariant (answer result : EStateM ε σ α) :=
  fun _ holds => ends_answer (fun _ _ => holds) (fun _ _ => holds)

theorem keeps_modify {update : σ → σ}
    (keeps : ∀ state, invariant state → invariant (update state)) :
    Keeps invariant (modify update : EStateM ε σ PUnit) :=
  fun state holds => ends_modify _ (keeps state holds)

/-- Reading the state, and going on from what was read. -/
theorem keeps_get_bind {next : σ → EStateM ε σ α}
    (keeps : ∀ state, invariant state →
      Ends (next state) state (fun _ => invariant) (fun _ => invariant)) :
    Keeps invariant (get >>= next) :=
  fun state holds => ends_get_bind (keeps state holds)

theorem keeps_bind
    {first : EStateM ε σ β} {second : β → EStateM ε σ α}
    (starts : Keeps invariant first)
    (continues : ∀ value, Keeps invariant (second value)) :
    Keeps invariant (first >>= second) :=
  fun state holds =>
    ends_bind (fun _ => invariant) (starts state holds)
      fun value after => continues value after

theorem keeps_tryCatch
    {body : EStateM ε σ α} {handler : ε → EStateM ε σ α}
    (tries : Keeps invariant body)
    (handles : ∀ exc, Keeps invariant (handler exc)) :
    Keeps invariant (tryCatch body handler) :=
  fun state holds =>
    ends_tryCatch (fun _ => invariant) (tries state holds)
      fun exc after => handles exc after

/-- A computation that keeps the property leaves it behind. -/
theorem Keeps.finalState {computation : EStateM ε σ α}
    (keeps : Keeps invariant computation) {state : σ}
    (holds : invariant state) :
    invariant (finalState computation state) :=
  ends_finalState (keeps state holds)

end Rules

end SupportAssistant.Effects.Invariants
