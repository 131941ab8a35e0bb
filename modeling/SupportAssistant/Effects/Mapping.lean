import Mathlib.Data.List.Forall2

/-!
# Mapping a computation over a list

`mapM` over computations that return or raise, or that yield or do not: it
returns exactly when each of them does, item by item.
-/

namespace SupportAssistant.Effects.Mapping

variable {ε α β : Type}

theorem bind_ok_iff
    {first : Except ε α} {next : α → Except ε β} {result : β} :
    first >>= next = .ok result ↔
      ∃ value, first = .ok value ∧ next value = .ok result := by
  cases first <;> simp [bind, Except.bind]

theorem bind_error_iff
    {first : Except ε α} {next : α → Except ε β} {exc : ε} :
    first >>= next = .error exc ↔
      first = .error exc ∨
        ∃ value, first = .ok value ∧ next value = .error exc := by
  cases first <;> simp [bind, Except.bind]

/-! ## Returning or raising -/

section

variable {f : α → Except ε β} {items : List α} {results : List β}

theorem mapM_cons_ok {item : α} :
    (item :: items).mapM f = .ok results ↔
      ∃ head tail, f item = .ok head ∧ items.mapM f = .ok tail ∧
        results = head :: tail := by
  rw [List.mapM_cons]
  cases first : f item with
  | error exc => simp [bind, Except.bind]
  | ok head =>
      cases rest : items.mapM f with
      | error exc => simp [bind, Except.bind]
      | ok tail =>
          simp [bind, Except.bind, pure, Except.pure, eq_comm]

/-- The results are those of the items, in order. -/
theorem mapM_ok_iff_forall₂ :
    items.mapM f = .ok results ↔
      List.Forall₂ (fun item result => f item = .ok result) items
        results := by
  induction items generalizing results with
  | nil => simp [pure, Except.pure, eq_comm]
  | cons item items induction =>
      rw [mapM_cons_ok, List.forall₂_cons_left_iff]
      constructor
      · rintro ⟨head, tail, first, rest, rfl⟩
        exact ⟨head, tail, first, induction.mp rest, rfl⟩
      · rintro ⟨head, tail, first, rest, rfl⟩
        exact ⟨head, tail, first, induction.mpr rest, rfl⟩

theorem length_of_mapM (ran : items.mapM f = .ok results) :
    results.length = items.length :=
  (mapM_ok_iff_forall₂.mp ran).length_eq.symm

/-- Every result is the result for some item. -/
theorem mem_of_mapM
    (ran : items.mapM f = .ok results) {result : β}
    (member : result ∈ results) :
    ∃ item ∈ items, f item = .ok result := by
  have each := mapM_ok_iff_forall₂.mp ran
  clear ran
  induction each with
  | nil => simp at member
  | cons first rest induction =>
      rcases List.mem_cons.mp member with rfl | later
      · exact ⟨_, List.mem_cons_self, first⟩
      · rcases induction later with ⟨item, isItem, equal⟩
        exact ⟨item, List.mem_cons_of_mem _ isItem, equal⟩

/-- The result for every item is among the results. -/
theorem mem_mapM
    (ran : items.mapM f = .ok results)
    {item : α} (member : item ∈ items) {result : β}
    (isResult : f item = .ok result) :
    result ∈ results := by
  have each := mapM_ok_iff_forall₂.mp ran
  clear ran
  induction each with
  | nil => simp at member
  | cons first rest induction =>
      rcases List.mem_cons.mp member with rfl | later
      · rw [first, Except.ok.injEq] at isResult
        rw [isResult]
        exact List.mem_cons_self
      · exact List.mem_cons_of_mem _ (induction later)

theorem mapM_ok_iff :
    (∃ results, items.mapM f = .ok results) ↔
      ∀ item ∈ items, ∃ result, f item = .ok result := by
  induction items with
  | nil => exact ⟨by simp, fun _ => ⟨[], rfl⟩⟩
  | cons item items induction =>
      rw [List.forall_mem_cons, ← induction]
      constructor
      · rintro ⟨results, ran⟩
        rcases mapM_cons_ok.mp ran with ⟨head, tail, first, rest, -⟩
        exact ⟨⟨head, first⟩, tail, rest⟩
      · rintro ⟨⟨head, first⟩, tail, rest⟩
        exact ⟨head :: tail,
          mapM_cons_ok.mpr ⟨head, tail, first, rest, rfl⟩⟩

/-- What it raises, one of the items raised. -/
theorem mapM_error {exc : ε} (failed : items.mapM f = .error exc) :
    ∃ item ∈ items, f item = .error exc := by
  induction items with
  | nil => simp [pure, Except.pure] at failed
  | cons item items induction =>
      rw [List.mapM_cons] at failed
      cases first : f item with
      | error other =>
          simp only [first, bind, Except.bind, Except.error.injEq] at failed
          exact ⟨item, List.mem_cons_self, by rw [first, failed]⟩
      | ok value =>
          simp only [first, bind, Except.bind] at failed
          cases later : items.mapM f with
          | ok values => simp [later, pure, Except.pure] at failed
          | error other =>
              simp only [later, Except.error.injEq] at failed
              rcases induction (by rw [later, failed]) with
                ⟨found, member, equal⟩
              exact ⟨found, List.mem_cons_of_mem _ member, equal⟩

end

/-! ## Yielding or not -/

theorem mapM_of_forall
    {read : α → Option β} {items : List α}
    (reads : ∀ item ∈ items, ∃ value, read item = some value) :
    ∃ values, items.mapM read = some values := by
  induction items with
  | nil => exact ⟨[], rfl⟩
  | cons item items induction =>
      rcases List.forall_mem_cons.mp reads with ⟨⟨value, found⟩, later⟩
      rcases induction later with ⟨values, rest⟩
      exact ⟨value :: values, by simp [found, rest]⟩

/-- What is yielded is yielded item by item, in order. -/
theorem mapM_some_iff_forall₂
    {read : α → Option β} {items : List α} {values : List β} :
    items.mapM read = some values ↔
      List.Forall₂ (fun item value => read item = some value) items
        values := by
  induction items generalizing values with
  | nil => simp [eq_comm]
  | cons item items induction =>
      rw [List.mapM_cons, List.forall₂_cons_left_iff]
      simp only [Option.bind_eq_bind, Option.bind_eq_some_iff, induction]
      constructor
      · rintro ⟨value, first, rest, later, same⟩
        cases same
        exact ⟨value, rest, first, later, rfl⟩
      · rintro ⟨value, rest, first, later, rfl⟩
        exact ⟨value, first, rest, later, rfl⟩

/-- What each of the written items is read as. -/
theorem mapM_map_some
    {γ : Type} {write : α → β} {read : β → Option γ} {result : α → γ}
    {items : List α}
    (reads : ∀ item ∈ items, read (write item) = some (result item)) :
    (items.map write).mapM read = some (items.map result) := by
  induction items with
  | nil => rfl
  | cons item items induction =>
      rcases List.forall_mem_cons.mp reads with ⟨first, later⟩
      simp [first, induction later]

/-- Reading what was written, one by one. -/
theorem mapM_written
    {write : α → β} {read : β → Option α}
    (reads : ∀ value, read (write value) = some value)
    (values : List α) :
    values.mapM (read ∘ write) = some values := by
  induction values with
  | nil => rfl
  | cons value values induction => simp [reads, induction]

/-- Every value that was mapped to is that of some value. -/
theorem mem_of_mapM_some {α β : Type} {f : α → Option β} {values : List α}
    {mapped : List β} (ran : values.mapM f = some mapped) {result : β}
    (member : result ∈ mapped) :
    ∃ value ∈ values, f value = some result := by
  have each := mapM_some_iff_forall₂.mp ran
  clear ran
  induction each with
  | nil => simp at member
  | cons first rest induction =>
      rcases List.mem_cons.mp member with rfl | later
      · exact ⟨_, List.mem_cons_self, first⟩
      · rcases induction later with ⟨value, isValue, equal⟩
        exact ⟨value, List.mem_cons_of_mem _ isValue, equal⟩

/-- All values are mapped to ones with a property if each of them is. -/
theorem exists_mapM_iff {α β : Type} {f : α → Option β} {holds : β → Prop}
    {values : List α} :
    (∃ mapped, values.mapM f = some mapped ∧ ∀ value ∈ mapped, holds value) ↔
      ∀ value ∈ values, ∃ mapped, f value = some mapped ∧ holds mapped := by
  induction values with
  | nil => simp
  | cons value values induction =>
      rw [List.forall_mem_cons, ← induction]
      simp only [List.mapM_cons, Option.bind_eq_bind, Option.bind_eq_some_iff,
        Option.pure_def, Option.some.injEq]
      constructor
      · rintro ⟨-, ⟨first, isFirst, rest, isRest, rfl⟩, holds⟩
        rw [List.forall_mem_cons] at holds
        exact ⟨⟨first, isFirst, holds.1⟩, rest, isRest, holds.2⟩
      · rintro ⟨⟨first, isFirst, holdsFirst⟩, rest, isRest, holdsRest⟩
        exact ⟨_, ⟨first, isFirst, rest, isRest, rfl⟩,
          List.forall_mem_cons.mpr ⟨holdsFirst, holdsRest⟩⟩

end SupportAssistant.Effects.Mapping
