import SupportAssistant.Guardrails.Facts

/-!
# Repeating a tool call

The fact set concatenates the records of all observations.  Repeating one adds
no amount, status, station or record id, but it counts its rows again, and its
user becomes the user of the facts.  What may be said is unchanged exactly when
the row counts and the user make no difference.
-/

namespace SupportAssistant.Guardrails.Repetition

open SupportAssistant.Numeric.DecimalFloat
open SupportAssistant.Domain
open SupportAssistant.Guardrails.Facts

/-! ## What may be said -/

/-- The number is among the allowed ones, up to representation. -/
def Sayable (facts : FactSet) (value : ℚ) : Prop :=
  ∃ number ∈ facts.allowedNumbers, number.value = value

/-- The two fact sets allow the same numbers and words. -/
structure SameAllowed (before after : FactSet) : Prop where
  numbers : ∀ value, Sayable before value ↔ Sayable after value
  identifiers : ∀ identifier,
    identifier ∈ before.allowedIdentifiers ↔
      identifier ∈ after.allowedIdentifiers
  statuses : ∀ status,
    status ∈ before.allowedStatuses ↔ status ∈ after.allowedStatuses
  entities : ∀ entity,
    entity ∈ before.allowedEntities ↔ entity ∈ after.allowedEntities

/-- Amounts, energies and costs. -/
def amountsIn (records : List Record) : List Finite :=
  (records.filterMap Record.invoice?).map Invoice.amount ++
    (records.filterMap Record.session?).flatMap fun session =>
      [session.kwh, session.cost]

def IsAmount (records : List Record) (value : ℚ) : Prop :=
  ∃ amount ∈ amountsIn records, amount.value = value

/-- The row counts that are facts. -/
def rowCounts (records : List Record) : List Nat :=
  [(records.filterMap Record.invoice?).length,
    (records.filterMap Record.session?).length].filter (0 < ·)

theorem exists_rowCount_iff {R : Type} (records : List R) (value : ℚ) :
    (∃ number ∈ (if records.isEmpty then []
        else [decimalOfNat records.length]), number.value = value) ↔
      0 < records.length ∧ (records.length : ℚ) = value := by
  cases records with
  | nil => simp
  | cons record records =>
      simp only [List.isEmpty_cons, Bool.false_eq_true, if_false,
        List.mem_singleton, exists_eq_left, value_decimalOfNat,
        List.length_cons, Nat.zero_lt_succ, true_and]

section

variable (history : List Observation)

theorem sayable_iff (value : ℚ) :
    Sayable (FactSet.fromObservations history) value ↔
      IsAmount (recordsOf history) value ∨
        ∃ count ∈ rowCounts (recordsOf history), (count : ℚ) = value := by
  have invoices := FactSet.invoices_fromObservations history
  have sessions := FactSet.sessions_fromObservations history
  have amounts :
      (FactSet.fromObservations history).invoices.map InvoiceFact.amount ++
          (FactSet.fromObservations history).sessions.flatMap
            (fun session => [session.kwh, session.cost]) =
        amountsIn (recordsOf history) := by
    rw [invoices, sessions, List.map_map, List.flatMap_map]
    rfl
  have counts :
      (∃ count ∈ rowCounts (recordsOf history), (count : ℚ) = value) ↔
        (0 < (FactSet.fromObservations history).invoices.length ∧
            ((FactSet.fromObservations history).invoices.length : ℚ) =
              value) ∨
          (0 < (FactSet.fromObservations history).sessions.length ∧
            ((FactSet.fromObservations history).sessions.length : ℚ) =
              value) := by
    simp only [rowCounts, recordsOf, invoices, sessions, List.length_map,
      List.mem_filter, List.mem_cons, List.not_mem_nil, or_false,
      decide_eq_true_eq, or_and_right, exists_or, and_assoc, exists_eq_left]
  rw [counts, ← exists_rowCount_iff, ← exists_rowCount_iff, IsAmount,
    ← amounts]
  simp only [Sayable, FactSet.allowedNumbers, List.mem_append, or_and_right,
    exists_or, or_assoc]

end

/-! ## When repeating makes no difference -/

/--
A row count, with the repeated rows or without them, is also an amount, or a
row count both ways.
-/
def CountsStay (records repeated : List Record) : Prop :=
  ∀ count : Nat, ¬ IsAmount records count →
    (count ∈ rowCounts records ↔ count ∈ rowCounts (records ++ repeated))

/-- The two texts are the same, or differ only in what is allowed anyway. -/
def Interchangeable (allowed : List String) (left right : String) : Prop :=
  ∀ word, word ∉ allowed → word ≠ "" → (word = left ↔ word = right)

/-- The last user of the repeated rows is as good as the last user so far. -/
def UserStays (records repeated : List Record) : Prop :=
  ∀ known user, lastUser records = some known →
    lastUser repeated = some user →
      Interchangeable (recordIds records) known.userId user.userId ∧
        Interchangeable (stations records) known.name user.name

section

variable {records repeated : List Record}

theorem isAmount_append (known : repeated ⊆ records) (value : ℚ) :
    IsAmount (records ++ repeated) value ↔ IsAmount records value := by
  have same (amount : Finite) :
      amount ∈ amountsIn (records ++ repeated) ↔
        amount ∈ amountsIn records := by
    simp only [amountsIn, List.mem_append, List.mem_map, List.mem_flatMap,
      List.mem_filterMap]
    grind
  simp only [IsAmount, same]

theorem mem_recordIds_append
    (known : repeated ⊆ records) (identifier : String) :
    identifier ∈ recordIds (records ++ repeated) ↔
      identifier ∈ recordIds records := by
  simp only [recordIds, List.mem_append, List.mem_map, List.mem_filterMap]
  grind

theorem mem_stations_append
    (known : repeated ⊆ records) (station : String) :
    station ∈ stations (records ++ repeated) ↔
      station ∈ stations records := by
  simp only [stations, List.mem_append, List.mem_map, List.mem_filterMap]
  grind

theorem mem_statuses_append
    (known : repeated ⊆ records) (status : String) :
    status ∈ statuses (records ++ repeated) ↔
      status ∈ statuses records := by
  simp only [statuses, List.mem_append, List.mem_map, List.mem_filterMap]
  grind

theorem lastUser_append (records repeated : List Record) :
    lastUser (records ++ repeated) =
      (lastUser repeated).or (lastUser records) := by
  rw [lastUser, List.filterMap_append, List.getLast?_append]
  rfl

/-- A user among the repeated rows was there before. -/
theorem exists_lastUser
    (known : repeated ⊆ records) {user : User}
    (isLast : lastUser repeated = some user) :
    ∃ before, lastUser records = some before := by
  have member : user ∈ records.filterMap Record.user? :=
    List.filterMap_subset _ known (List.mem_of_getLast? isLast)
  exact ⟨_, List.getLast?_eq_some_getLast (List.ne_nil_of_mem member)⟩

theorem or_iff_or_same {shared left right : Prop} :
    (shared ∨ left ↔ shared ∨ right) ↔ (¬ shared → (left ↔ right)) := by
  by_cases holds : shared <;> simp [holds]

theorem interchangeable_iff (allowed : List String) (left right : String) :
    (∀ word, word ∉ allowed →
        (Stated (some left) word ↔ Stated (some right) word)) ↔
      Interchangeable allowed left right := by
  simp only [Interchangeable, Stated, Option.some.injEq]
  constructor
  · intro same word outside nonempty
    have iff := same word outside
    simp only [nonempty, ne_eq, not_false_eq_true, and_true] at iff
    rw [eq_comm, iff, eq_comm]
  · intro same word outside
    constructor
    · rintro ⟨rfl, nonempty⟩
      exact ⟨((same _ outside nonempty).mp rfl).symm, nonempty⟩
    · rintro ⟨rfl, nonempty⟩
      exact ⟨((same _ outside nonempty).mpr rfl).symm, nonempty⟩

end

section

variable {history : List Observation} {observation : Observation}

theorem recordsOf_append :
    recordsOf (history ++ [observation]) =
      recordsOf history ++ observation.result.records := by
  simp [recordsOf]

theorem records_subset (member : observation ∈ history) :
    observation.result.records ⊆ recordsOf history :=
  fun _ isRecord => List.mem_flatMap.mpr ⟨_, member, isRecord⟩

theorem numbers_iff (member : observation ∈ history) :
    (∀ value, Sayable (FactSet.fromObservations history) value ↔
        Sayable (FactSet.fromObservations (history ++ [observation]))
          value) ↔
      CountsStay (recordsOf history) observation.result.records := by
  simp only [sayable_iff, recordsOf_append,
    isAmount_append (records_subset member), or_iff_or_same]
  constructor
  · intro stay count notAmount
    simpa using stay count notAmount
  · intro stay value notAmount
    constructor
    · rintro ⟨count, counted, rfl⟩
      exact ⟨count, (stay count notAmount).mp counted, rfl⟩
    · rintro ⟨count, counted, rfl⟩
      exact ⟨count, (stay count notAmount).mpr counted, rfl⟩

theorem words_iff (member : observation ∈ history) :
    ((∀ identifier,
          identifier ∈
              (FactSet.fromObservations history).allowedIdentifiers ↔
            identifier ∈ (FactSet.fromObservations
              (history ++ [observation])).allowedIdentifiers) ∧
        ∀ entity,
          entity ∈ (FactSet.fromObservations history).allowedEntities ↔
            entity ∈ (FactSet.fromObservations
              (history ++ [observation])).allowedEntities) ↔
      UserStays (recordsOf history) observation.result.records := by
  have known := records_subset member
  simp only [mem_allowedIdentifiers, mem_allowedEntities, recordsOf_append,
    mem_recordIds_append known, mem_stations_append known, or_iff_or_same,
    lastUser_append, UserStays]
  cases isLast : lastUser observation.result.records with
  | none => simp
  | some user =>
      rcases exists_lastUser known isLast with ⟨before, wasLast⟩
      simp only [wasLast, Option.map_some, Option.some_or,
        interchangeable_iff, Option.some.injEq]
      constructor
      · rintro both _ _ rfl rfl
        exact both
      · intro both
        exact both _ _ rfl rfl

/--
Repeating a tool call leaves what may be said unchanged exactly when the row
counts and the user make no difference.
-/
theorem repetition_adds_nothing_iff (member : observation ∈ history) :
    SameAllowed (FactSet.fromObservations history)
        (FactSet.fromObservations (history ++ [observation])) ↔
      CountsStay (recordsOf history) observation.result.records ∧
        UserStays (recordsOf history) observation.result.records := by
  rw [← numbers_iff member, ← words_iff member]
  constructor
  · intro allowed
    exact ⟨allowed.numbers, allowed.identifiers, allowed.entities⟩
  · rintro ⟨numbers, identifiers, entities⟩
    refine ⟨numbers, identifiers, ?_, entities⟩
    intro status
    rw [mem_allowedStatuses, mem_allowedStatuses, recordsOf_append,
      mem_statuses_append (records_subset member)]

end

/-! ## Three invoices, asked for twice -/

def paidInvoice (invoiceId : String) (cents : Nat) : Invoice where
  invoiceId
  amount := { negative := false, coefficient := cents, exponent := -2 }
  currency := "EUR"
  status := .paid
  issuedAt := { wall := 0, offset := some 0 }

/-- A call that returned three paid invoices. -/
def threeInvoices : Observation where
  step :=
    { tool := "get_invoices"
      args := [("user_id", .json (.string "u_anna"))] }
  result :=
    { tool := "get_invoices"
      records :=
        [.invoice (paidInvoice "inv_1" 1250),
          .invoice (paidInvoice "inv_2" 2275),
          .invoice (paidInvoice "inv_3" 3890)] }

/-- A call that returned the customer. -/
def oneUser : Observation where
  step :=
    { tool := "get_user"
      args := [("user_id", .json (.string "u_anna"))] }
  result :=
    { tool := "get_user"
      records :=
        [.user
          { userId := "u_anna", name := "Anna", language := "en"
            plan := "basic" }] }

/-- The customer can be asked for twice. -/
theorem customer_repeated :
    SameAllowed (FactSet.fromObservations [threeInvoices, oneUser])
      (FactSet.fromObservations ([threeInvoices, oneUser] ++ [oneUser])) := by
  rw [repetition_adds_nothing_iff (by simp)]
  constructor
  · intro count _
    rfl
  · intro known user isKnown isLast
    have same : known = user :=
      Option.some.inj (isKnown.symm.trans isLast)
    rw [same]
    exact ⟨fun _ _ _ => Iff.rfl, fun _ _ _ => Iff.rfl⟩

/-- Asked twice, three invoices count as six, and no longer as three. -/
theorem three_not_sayable :
    Sayable (FactSet.fromObservations [threeInvoices]) 3 ∧
      ¬ Sayable
        (FactSet.fromObservations ([threeInvoices] ++ [threeInvoices])) 3 ∧
      ¬ Sayable (FactSet.fromObservations [threeInvoices]) 6 ∧
      Sayable
        (FactSet.fromObservations ([threeInvoices] ++ [threeInvoices])) 6 := by
  simp [sayable_iff, IsAmount, amountsIn, rowCounts, recordsOf,
    threeInvoices, paidInvoice, Record.invoice?, Record.session?,
    Finite.value, Finite.signed]
  norm_num

end SupportAssistant.Guardrails.Repetition
