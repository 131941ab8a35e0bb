import SupportAssistant.Effects.Outcomes

/-!
# Going on where another computation stops

Of two computations, the longer one does what the shorter one does, unless the
shorter one comes to a certain value, which stands for having stopped early.
From there the longer one goes on.  The rules follow the constructs of the
language.
-/

namespace SupportAssistant.Effects.Prolonging

open SupportAssistant.Effects.Outcomes

variable {ε σ α β : Type}

/--
The second computation ends as the first one does, or the first one stops, and
the second one goes on from there with one of the rests.
-/
def Prolongs (stop : α) (rest : EStateM ε σ α → Prop)
    (shorter longer : EStateM ε σ α) : Prop :=
  ∀ state, longer state = shorter state ∨
    ∃ after more, rest more ∧ shorter state = .ok stop after ∧
      longer state = more after

section Rules

variable {stop : α} {rest : EStateM ε σ α → Prop}

theorem prolongs_refl (computation : EStateM ε σ α) :
    Prolongs stop rest computation computation :=
  fun _ => Or.inl rfl

/-- Where the first one stops, the second one may do anything that is left. -/
theorem prolongs_stop {more : EStateM ε σ α} (left : rest more) :
    Prolongs stop rest (pure stop) more :=
  fun state => Or.inr ⟨state, more, left, rfl, rfl⟩

/-- The two part after a common beginning. -/
theorem prolongs_bind {first : EStateM ε σ β}
    {second second' : β → EStateM ε σ α}
    (continues : ∀ value,
      Prolongs stop rest (second value) (second' value)) :
    Prolongs stop rest (first >>= second) (first >>= second') := by
  intro state
  simp only [bind, EStateM.bind]
  cases first state with
  | ok value after => exact continues value after
  | error exc after => exact Or.inl rfl

/-- A common handler sees what the bodies raise. -/
theorem prolongs_tryCatch {body body' : EStateM ε σ α}
    {handler : ε → EStateM ε σ α}
    (tries : Prolongs stop rest body body') :
    Prolongs stop
      (fun more => ∃ inner, rest inner ∧ more = tryCatch inner handler)
      (tryCatch body handler) (tryCatch body' handler) := by
  intro state
  change EStateM.tryCatch body' handler state =
      EStateM.tryCatch body handler state ∨ _
  rcases tries state with same | ⟨after, more, left, stopped, went⟩
  · left
    delta EStateM.tryCatch
    rw [same]
  · refine Or.inr ⟨after, tryCatch more handler, ⟨more, left, rfl⟩, ?_, ?_⟩
    · change EStateM.tryCatch body handler state = _
      delta EStateM.tryCatch
      rw [stopped]
    · change EStateM.tryCatch body' handler state =
        EStateM.tryCatch more handler after
      delta EStateM.tryCatch
      rw [went]

end Rules

end SupportAssistant.Effects.Prolonging
