import SupportAssistant.Guardrails.Grounding
import SupportAssistant.Runtime.Ascii
import SupportAssistant.Text.Blanking

/-!
# What masking may hide

The checker blanks station names and the user's name before it looks for
numbers and status words.  A name that stands inside a number takes a part of
the number with it, and what is left may happen to be sourced.  For a reply
and the names of a fact set, no unsourced literal outside the names gets past
the checker exactly when every such literal can still be read once the names
are blanked; it can whenever no blanked name cuts a number or a word.
-/

namespace SupportAssistant.Guardrails.Masking

open SupportAssistant.Numeric.DecimalFloat
open SupportAssistant.Text.Scan
open SupportAssistant.Text.Tokens
open SupportAssistant.Text.Blanking
open SupportAssistant.Text.WholeWords
open SupportAssistant.Text.Alternation
open SupportAssistant.Text.Numerals
open SupportAssistant.Enums
open SupportAssistant.Runtime
open SupportAssistant.Runtime.Ascii
open SupportAssistant.Guardrails.Facts
open SupportAssistant.Guardrails.Grounding

/-! ## Literals and the names around them -/

section

variable (py : PyText)

def numbersOf (text : List Char) : List Occurrence :=
  finditer (numberMatcher py) text

def statusesOf (text : List Char) : List Occurrence :=
  finditer (statusMatcher py) text

/-- The text with the names blanked. -/
def without (entities : List String) (text : List Char) : List Char :=
  mask py text entities

/-- The stretch lies inside one occurrence of a name. -/
def inside (entities : List String) (text : List Char)
    (found : Occurrence) : Bool :=
  entities.any fun entity =>
    (List.range (found.start + 1)).any fun start =>
      entity.toList.isPrefixOf (text.drop start) &&
        decide (found.stop ≤ start + entity.toList.length)

/-- The two texts spell the same number. -/
def SameNumber (left right : List Char) : Prop :=
  ∃ number other,
    asDecimal py (String.ofList left) = some (.finite number) ∧
      asDecimal py (String.ofList right) = some (.finite other) ∧
        number.value = other.value

/-- The number is a fact, or one of the safe numbers. -/
def NumberSourced (facts : FactSet) (safe : List Decimal)
    (word : List Char) : Prop :=
  ∃ value, asDecimal py (String.ofList word) = some value ∧
    decimalIsIn value (allowedNumbers facts safe) = true

/-- The status word is a fact. -/
def StatusSourced (facts : FactSet) (word : List Char) : Prop :=
  py.lower (String.ofList word) ∈ facts.allowedStatuses

/--
If the checker has no objection, every literal outside the names of the fact
set is sourced.
-/
def NothingHidden (reply : String) (facts : FactSet)
    (templateSafeLiterals : List String) : Prop :=
  ∀ safe literals,
    safeNumbers py templateSafeLiterals = .ok safe →
      verify py reply facts templateSafeLiterals = .ok ⟨literals, []⟩ →
        (∀ number ∈ numbersOf py (blanked py reply),
            inside facts.allowedEntities (blanked py reply) number = false →
              NumberSourced py facts safe number.word) ∧
          ∀ status ∈ statusesOf py (blanked py reply),
            inside facts.allowedEntities (blanked py reply) status = false →
              StatusSourced py facts status.word

/-- Every literal outside the names can be read once they are blanked. -/
structure StillRead (entities : List String) (text : List Char) : Prop where
  numbers : ∀ number ∈ numbersOf py text,
    inside entities text number = false →
      ∃ other ∈ numbersOf py (without py entities text),
        SameNumber py number.word other.word
  statuses : ∀ status ∈ statusesOf py text,
    inside entities text status = false →
      ∃ other ∈ statusesOf py (without py entities text),
        py.lower (String.ofList other.word) =
          py.lower (String.ofList status.word)

/--
Once the names are blanked, a status word can be read that is the lower case
of no status: under `re.IGNORECASE`, an `i` also matches the dotless and the
dotted one.
-/
def NoStatus (entities : List String) (text : List Char) : Prop :=
  ∃ status ∈ statusesOf py (without py entities text),
    py.lower (String.ofList status.word) ∉ statusWords

/-- The names of the fact set are these. -/
def Names (facts : FactSet) (entities : List String) : Prop :=
  ∀ entity, entity ∈ facts.allowedEntities ↔ entity ∈ entities

/-! ## What the checker reads -/

theorem mask_congr
    {left right : List String}
    (same : ∀ entity, entity ∈ left ↔ entity ∈ right)
    (text : List Char) :
    mask py text left = mask py text right := by
  have sameTexts : ∀ word : List Char,
      word ∈ left.map String.toList ↔ word ∈ right.map String.toList := by
    intro word
    simp only [List.mem_map, same]
  have sameEmpty : left.isEmpty = right.isEmpty := by
    rw [Bool.eq_iff_iff, List.isEmpty_iff, List.isEmpty_iff,
      List.eq_nil_iff_forall_not_mem, List.eq_nil_iff_forall_not_mem]
    simp only [same]
  unfold mask
  rw [sameEmpty, sub, sub, maskMatcher, maskMatcher,
    scan_alternation_congr py.isWord sameTexts]

theorem inside_congr
    {left right : List String}
    (same : ∀ entity, entity ∈ left ↔ entity ∈ right)
    (text : List Char) (found : Occurrence) :
    inside left text found = inside right text found := by
  rw [Bool.eq_iff_iff, inside, inside, List.any_eq_true, List.any_eq_true]
  simp only [same]

theorem mem_findall_iff {matcher : Text.Backtracking.Matcher}
    {text word : List Char} :
    word ∈ findall matcher text ↔
      ∃ found ∈ finditer matcher text, found.word = word := by
  rw [findall, ← map_word_occurrences 0, List.mem_map]
  rfl

/-- The checker's reading of a reply, by class. -/
theorem forall_extract_iff
    {facts : FactSet} {entities : List String} (names : Names facts entities)
    {reply : String} {holds : Literal → Prop} :
    (∀ literal ∈ extract py reply facts, holds literal) ↔
      (∀ word ∈ findall (identifierMatcher py) reply.toList,
          holds ⟨String.ofList word, .identifier⟩) ∧
        (∀ number ∈
            numbersOf py (without py entities (blanked py reply)),
          holds ⟨String.ofList number.word, .number⟩) ∧
          ∀ status ∈
              statusesOf py (without py entities (blanked py reply)),
            holds ⟨String.ofList status.word, .status⟩ := by
  rw [extract, mask_congr py names]
  simp only [List.forall_mem_append, literalsOf, List.forall_mem_map,
    mem_findall_iff, numbersOf, statusesOf, without, forall_exists_index,
    and_imp, and_assoc, forall_apply_eq_imp_iff₂]

/-! ## What a numeral spells -/

theorem isDigit_ne_comma {char : Char} (isDigit : py.isDigit char = true) :
    char ≠ ',' := by
  rintro rfl
  rw [PyText.isDigit, py.ascii ',' (by decide)] at isDigit
  exact absurd isDigit (by decide)

theorem comma_map_digits
    {digits : List Char} (areDigits : ∀ char ∈ digits, py.isDigit char = true) :
    (digits.map fun char => if char == ',' then '.' else char) = digits := by
  conv_rhs => rw [← List.map_id digits]
  apply List.map_congr_left
  intro char member
  have notComma := isDigit_ne_comma py (areDigits char member)
  simp [notComma]

/-- A numeral spells a number, and not a negative one. -/
theorem asDecimal_isNumeral
    {word : List Char} (isNumeral : IsNumeral py.isDigit isSeparator word) :
    ∃ coefficient exponent,
      asDecimal py (String.ofList word) =
        some (.finite ⟨false, coefficient, exponent⟩) := by
  unfold asDecimal
  rw [String.toList_ofList]
  cases isNumeral with
  | digits nonempty areDigits =>
      rw [comma_map_digits py areDigits,
        ofText_digits py.toAlphabet nonempty areDigits]
      exact ⟨_, _, rfl⟩
  | @fraction whole fraction separator nonempty areDigits separates more =>
      have point : (if separator == ',' then '.' else separator) = '.' := by
        rcases Bool.or_eq_true_iff.mp separates with isPoint | isComma
        · rw [beq_iff_eq.mp isPoint]
          rfl
        · rw [if_pos isComma]
      rw [List.map_append, List.map_cons, point,
        comma_map_digits py areDigits, comma_map_digits py more,
        ofText_fraction py.toAlphabet nonempty areDigits more]
      exact ⟨_, _, rfl⟩

theorem asDecimal_number
    {text : List Char} {number : Occurrence}
    (found : number ∈ numbersOf py text) :
    ∃ value, asDecimal py (String.ofList number.word) =
      some (.finite value) ∧ 0 ≤ value.value := by
  have isNumeral : IsNumeral py.isDigit isSeparator number.word := by
    apply @isNumeral_of_token _ _ text
    rw [← scan_numeral py.isWord]
    exact word_mem_of_occurrence found
  rcases asDecimal_isNumeral py isNumeral with ⟨coefficient, exponent, read⟩
  refine ⟨_, read, ?_⟩
  rw [Finite.value, Finite.signed]
  simp only [Bool.false_eq_true, if_false]
  positivity

theorem decimalIsIn_iff
    {number : Finite} {numbers : List Decimal} :
    decimalIsIn (.finite number) numbers = true ↔
      ∃ other, .finite other ∈ numbers ∧ number.value = other.value :=
  Finite.isIn_iff number numbers

theorem grounded_number_iff
    {facts : FactSet} {safe : List Decimal} {word : List Char} :
    grounded py facts (allowedNumbers facts safe)
        ⟨String.ofList word, .number⟩ = true ↔
      NumberSourced py facts safe word := by
  rw [grounded, NumberSourced]
  cases asDecimal py (String.ofList word) <;> simp

/-! ## Nothing is hidden where every literal can still be read -/

theorem statusWords_of_allowed
    {facts : FactSet} {word : String}
    (allowed : word ∈ facts.allowedStatuses) :
    word ∈ statusWords := by
  rw [FactSet.allowedStatuses, List.mem_append, List.mem_map, List.mem_map]
    at allowed
  rw [statusWords, List.mem_append, List.mem_map, List.mem_map]
  rcases allowed with ⟨invoice, -, rfl⟩ | ⟨session, -, rfl⟩
  · exact Or.inl ⟨invoice.status, InvoiceStatus.mem_members _, rfl⟩
  · exact Or.inr ⟨session.status, SessionStatus.mem_members _, rfl⟩

theorem nothingHidden_of_stillRead
    {reply : String} {facts : FactSet} {entities : List String}
    {templateSafeLiterals : List String}
    (names : Names facts entities)
    (still : StillRead py entities (blanked py reply)) :
    NothingHidden py reply facts templateSafeLiterals := by
  intro safe literals safeOk verified
  rcases verify_ok verified with ⟨values, valuesOk, -, clean⟩
  cases Except.ok.inj (valuesOk.symm.trans safeOk)
  rcases (forall_extract_iff py names).mp (clean.mp rfl) with
    ⟨-, numbers, statuses⟩
  constructor
  · intro number found notInside
    rw [inside_congr names] at notInside
    rcases still.numbers number found notInside with
      ⟨other, otherFound, value, otherValue, read, otherRead, same⟩
    have sourced := numbers other otherFound
    refine ⟨.finite value, read, ?_⟩
    simp only [grounded, otherRead] at sourced
    rw [decimalIsIn, Finite.isIn_congr same]
    exact sourced
  · intro status found notInside
    rw [inside_congr names] at notInside
    rcases still.statuses status found notInside with
      ⟨other, otherFound, same⟩
    have sourced := statuses other otherFound
    rw [StatusSourced, ← same]
    exact List.contains_iff_mem.mp sourced

theorem nothingHidden_of_noStatus
    {reply : String} {facts : FactSet} {entities : List String}
    {templateSafeLiterals : List String}
    (names : Names facts entities)
    (noStatus : NoStatus py entities (blanked py reply)) :
    NothingHidden py reply facts templateSafeLiterals := by
  intro safe literals safeOk verified
  rcases verify_ok verified with ⟨values, valuesOk, -, clean⟩
  rcases (forall_extract_iff py names).mp (clean.mp rfl) with
    ⟨-, -, statuses⟩
  rcases noStatus with ⟨status, found, unknown⟩
  exact (unknown (statusWords_of_allowed
    (List.contains_iff_mem.mp (statuses status found)))).elim

/-! ## Facts that hide a literal -/

def minusOne : Finite :=
  { negative := true, coefficient := 1, exponent := 0 }

/-- A session at every place, with every status but one. -/
def sessionsWithout (lost : String) (stations : List String) :
    List SessionFact :=
  stations.flatMap fun station =>
    (SessionStatus.members.filter (·.value != lost)).map fun status =>
      { sessionId := "", station, kwh := minusOne, cost := minusOne, status }

/-- An invoice for every id, with every status but one. -/
def invoicesWithout (lost : String) (ids : List String) :
    List InvoiceFact :=
  ids.flatMap fun invoiceId =>
    (InvoiceStatus.members.filter (·.value != lost)).map fun status =>
      { invoiceId, amount := minusOne, currency := "", status }

/-- The facts have all that is asked of them, and lack one status and number. -/
structure Lacking (facts : FactSet) (entities : List String)
    (identifiers : List String) (lost : String) (number : ℚ) : Prop where
  names : Names facts entities
  identifiers : ∀ word ∈ identifiers, word ∈ facts.allowedIdentifiers
  statuses : ∀ word ∈ statusWords, word ≠ lost →
    word ∈ facts.allowedStatuses
  lost : lost ∉ facts.allowedStatuses
  numbers : ∀ other ∈ facts.allowedNumbers, other.value ≠ number

theorem exists_session_status (lost : String) :
    ∃ status ∈ SessionStatus.members, status.value ≠ lost := by
  by_cases isFailed : SessionStatus.failed.value = lost
  · subst isFailed
    exact ⟨.completed, by decide, by decide⟩
  · exact ⟨.failed, by decide, isFailed⟩

theorem exists_invoice_status (lost : String) :
    ∃ status ∈ InvoiceStatus.members, status.value ≠ lost := by
  by_cases isFailed : InvoiceStatus.failed.value = lost
  · subst isFailed
    exact ⟨.paid, by decide, by decide⟩
  · exact ⟨.failed, by decide, isFailed⟩

theorem mem_sessionsWithout
    {lost : String} {stations : List String} {session : SessionFact} :
    session ∈ sessionsWithout lost stations ↔
      session.station ∈ stations ∧ session.status.value ≠ lost ∧
        session.sessionId = "" ∧ session.kwh = minusOne ∧
          session.cost = minusOne := by
  simp only [sessionsWithout, List.mem_flatMap, List.mem_map,
    List.mem_filter, bne_iff_ne, SessionStatus.mem_members, true_and]
  constructor
  · rintro ⟨station, isStation, status, kept, rfl⟩
    exact ⟨isStation, kept, rfl, rfl, rfl⟩
  · rcases session with ⟨sessionId, station, kwh, cost, status⟩
    rintro ⟨isStation, kept, rfl, rfl, rfl⟩
    exact ⟨station, isStation, status, kept, rfl⟩

theorem mem_invoicesWithout
    {lost : String} {ids : List String} {invoice : InvoiceFact} :
    invoice ∈ invoicesWithout lost ids ↔
      invoice.invoiceId ∈ ids ∧ invoice.status.value ≠ lost ∧
        invoice.amount = minusOne ∧ invoice.currency = "" := by
  simp only [invoicesWithout, List.mem_flatMap, List.mem_map,
    List.mem_filter, bne_iff_ne, InvoiceStatus.mem_members, true_and]
  constructor
  · rintro ⟨invoiceId, isId, status, kept, rfl⟩
    exact ⟨isId, kept, rfl, rfl⟩
  · rcases invoice with ⟨invoiceId, amount, currency, status⟩
    rintro ⟨isId, kept, rfl, rfl⟩
    exact ⟨invoiceId, isId, status, kept, rfl⟩

/-- Repeating a list changes its length and no member. -/
theorem exists_length_ne {α : Type} {list : List α}
    (nonempty : list ≠ []) (number : ℚ) :
    ∃ longer : List α, (∀ item, item ∈ longer ↔ item ∈ list) ∧
      (longer.length : ℚ) ≠ number := by
  by_cases same : (list.length : ℚ) = number
  · refine ⟨list ++ list, by simp, ?_⟩
    have positive : 0 < list.length := List.length_pos_iff.mpr nonempty
    rw [← same, List.length_append]
    intro equal
    have lengths := Nat.cast_injective equal
    omega
  · exact ⟨list, fun _ => Iff.rfl, same⟩

theorem value_minusOne_lt : minusOne.value < 0 := by
  simp [minusOne, Finite.value, Finite.signed]

theorem exists_lacking
    {entities : List String} (nonempty : entities ≠ [])
    (identifiers : List String) (lost : String)
    {number : ℚ} (notNegative : 0 ≤ number) :
    ∃ facts, Lacking facts entities identifiers lost number := by
  rcases exists_session_status lost with ⟨ended, -, endedKept⟩
  rcases exists_invoice_status lost with ⟨stands, -, standsKept⟩
  rcases List.exists_mem_of_ne_nil entities nonempty with
    ⟨place, isPlace⟩
  have sessionsNonempty : sessionsWithout lost entities ≠ [] :=
    List.ne_nil_of_mem ((@mem_sessionsWithout lost entities
      ⟨"", place, minusOne, minusOne, ended⟩).mpr
        ⟨isPlace, endedKept, rfl, rfl, rfl⟩)
  have invoicesNonempty : invoicesWithout lost ("" :: identifiers) ≠ [] :=
    List.ne_nil_of_mem ((@mem_invoicesWithout lost ("" :: identifiers)
      ⟨"", minusOne, "", stands⟩).mpr
        ⟨List.mem_cons_self, standsKept, rfl, rfl⟩)
  rcases exists_length_ne sessionsNonempty number with
    ⟨sessions, sameSessions, sessionCount⟩
  rcases exists_length_ne invoicesNonempty number with
    ⟨invoices, sameInvoices, invoiceCount⟩
  have isSession : ∀ session, session ∈ sessions ↔ _ :=
    fun session => (sameSessions session).trans mem_sessionsWithout
  have isInvoice : ∀ invoice, invoice ∈ invoices ↔ _ :=
    fun invoice => (sameInvoices invoice).trans mem_invoicesWithout
  have below : minusOne.value ≠ number :=
    (value_minusOne_lt.trans_le notNegative).ne
  refine ⟨{ userName := none, userId := none, invoices, sessions },
    { names := ?_
      identifiers := ?_
      statuses := ?_
      lost := ?_
      numbers := ?_ }⟩
  · intro entity
    simp only [FactSet.allowedEntities, Option.toList_none, List.filter_nil,
      List.append_nil, List.mem_map]
    constructor
    · rintro ⟨session, member, rfl⟩
      exact ((isSession session).mp member).1
    · intro isEntity
      exact ⟨⟨"", entity, minusOne, minusOne, ended⟩,
        (isSession _).mpr ⟨isEntity, endedKept, rfl, rfl, rfl⟩, rfl⟩
  · intro word member
    rw [FactSet.allowedIdentifiers, List.append_assoc]
    apply List.mem_append_left
    rw [List.mem_map]
    exact ⟨⟨word, minusOne, "", stands⟩,
      (isInvoice _).mpr
        ⟨List.mem_cons_of_mem _ member, standsKept, rfl, rfl⟩, rfl⟩
  · intro word isStatus kept
    rw [statusWords, List.mem_append, List.mem_map, List.mem_map] at isStatus
    rw [FactSet.allowedStatuses, List.mem_append, List.mem_map, List.mem_map]
    rcases isStatus with ⟨status, -, rfl⟩ | ⟨status, -, rfl⟩
    · exact Or.inl ⟨⟨"", minusOne, "", status⟩,
        (isInvoice _).mpr ⟨List.mem_cons_self, kept, rfl, rfl⟩, rfl⟩
    · exact Or.inr ⟨⟨"", place, minusOne, minusOne, status⟩,
        (isSession _).mpr ⟨isPlace, kept, rfl, rfl, rfl⟩, rfl⟩
  · intro allowed
    rw [FactSet.allowedStatuses, List.mem_append, List.mem_map, List.mem_map]
      at allowed
    rcases allowed with ⟨invoice, member, same⟩ | ⟨session, member, same⟩
    · exact ((isInvoice invoice).mp member).2.1 same
    · exact ((isSession session).mp member).2.1 same
  · intro other allowed
    simp only [FactSet.allowedNumbers, List.mem_append, List.mem_map,
      List.mem_flatMap, List.mem_cons, List.not_mem_nil, or_false]
      at allowed
    rcases allowed with
      ((⟨invoice, member, rfl⟩ | ⟨session, member, rfl | rfl⟩) | counted) |
        counted
    · rw [((isInvoice invoice).mp member).2.2.1]
      exact below
    · rw [((isSession session).mp member).2.2.2.1]
      exact below
    · rw [((isSession session).mp member).2.2.2.2]
      exact below
    · split at counted
      · simp at counted
      · rw [List.mem_singleton.mp counted, value_decimalOfNat]
        exact invoiceCount
    · split at counted
      · simp at counted
      · rw [List.mem_singleton.mp counted, value_decimalOfNat]
        exact sessionCount

/-- The numbers that can be read once the names are blanked. -/
def readableNumbers (entities : List String) (text : List Char) :
    List String :=
  (numbersOf py (without py entities text)).map fun number =>
    String.ofList number.word

theorem safeNumbers_readable (entities : List String) (text : List Char) :
    safeNumbers py (readableNumbers py entities text) =
      .ok ((readableNumbers py entities text).filterMap (asDecimal py)) := by
  apply if_neg
  rw [List.contains_iff_mem, List.mem_filterMap]
  rintro ⟨literal, isReadable, read⟩
  rcases List.mem_map.mp isReadable with ⟨number, found, rfl⟩
  rcases asDecimal_number py found with ⟨value, readValue, -⟩
  rw [readValue] at read
  simp at read

/-- With its readable numbers declared safe, the reply passes. -/
theorem verify_of_lacking
    {reply : String} {entities : List String} {facts : FactSet}
    {lost : String} {number : ℚ}
    (lacking : Lacking facts entities
      ((findall (identifierMatcher py) reply.toList).map String.ofList)
      lost number)
    (statuses : ∀ status ∈
      statusesOf py (without py entities (blanked py reply)),
        py.lower (String.ofList status.word) ∈ statusWords ∧
          py.lower (String.ofList status.word) ≠ lost) :
    verify py reply facts
        (readableNumbers py entities (blanked py reply)) =
      .ok ⟨extract py reply facts, []⟩ := by
  apply verify_of_grounded (safeNumbers_readable py entities _)
  rw [forall_extract_iff py lacking.names]
  refine ⟨?_, ?_, ?_⟩
  · intro word found
    exact List.contains_iff_mem.mpr
      (lacking.identifiers _ (List.mem_map_of_mem found))
  · intro found isFound
    rcases asDecimal_number py isFound with ⟨value, read, -⟩
    simp only [grounded, read]
    apply decimalIsIn_iff.mpr
    refine ⟨value, List.mem_append_right _ ?_, rfl⟩
    exact List.mem_filterMap.mpr ⟨_, List.mem_map_of_mem isFound, read⟩
  · intro status found
    have known := statuses status found
    exact List.contains_iff_mem.mpr (lacking.statuses _ known.1 known.2)

/-- A number that cannot be read any more can be hidden. -/
theorem number_read
    {reply : String} {entities : List String}
    (nonempty : entities ≠ [])
    (nothingHidden : ∀ facts templateSafeLiterals, Names facts entities →
      NothingHidden py reply facts templateSafeLiterals)
    (known : ∀ status ∈
      statusesOf py (without py entities (blanked py reply)),
        py.lower (String.ofList status.word) ∈ statusWords)
    {number : Occurrence}
    (found : number ∈ numbersOf py (blanked py reply))
    (exposed : inside entities (blanked py reply) number = false) :
    ∃ other ∈ numbersOf py (without py entities (blanked py reply)),
      SameNumber py number.word other.word := by
  rcases asDecimal_number py found with ⟨value, read, notNegative⟩
  rcases exists_lacking nonempty
    ((findall (identifierMatcher py) reply.toList).map String.ofList) ""
    notNegative with ⟨facts, lacking⟩
  have verified := verify_of_lacking py lacking fun status isFound =>
    ⟨known status isFound,
      ne_of_mem_of_not_mem (known status isFound) (by decide)⟩
  have sourced := (nothingHidden facts _ lacking.names _ _
    (safeNumbers_readable py entities _) verified).1 number found
      (by rw [inside_congr lacking.names]; exact exposed)
  rcases sourced with ⟨decimal, readAgain, isIn⟩
  cases Option.some.inj (readAgain.symm.trans read)
  rcases decimalIsIn_iff.mp isIn with ⟨other, member, same⟩
  rcases List.mem_append.mp member with fact | safe
  · rcases List.mem_map.mp fact with ⟨allowed, isAllowed, equal⟩
    cases equal
    exact (lacking.numbers _ isAllowed same.symm).elim
  · rcases List.mem_filterMap.mp safe with ⟨literal, readable, otherRead⟩
    rcases List.mem_map.mp readable with ⟨left, isLeft, rfl⟩
    exact ⟨left, isLeft, value, other, read, otherRead, same⟩

/-- A status word that cannot be read any more can be hidden. -/
theorem status_read
    {reply : String} {entities : List String}
    (nonempty : entities ≠ [])
    (nothingHidden : ∀ facts templateSafeLiterals, Names facts entities →
      NothingHidden py reply facts templateSafeLiterals)
    (known : ∀ status ∈
      statusesOf py (without py entities (blanked py reply)),
        py.lower (String.ofList status.word) ∈ statusWords)
    {status : Occurrence}
    (found : status ∈ statusesOf py (blanked py reply))
    (exposed : inside entities (blanked py reply) status = false) :
    ∃ other ∈ statusesOf py (without py entities (blanked py reply)),
      py.lower (String.ofList other.word) =
        py.lower (String.ofList status.word) := by
  by_contra unread
  rcases exists_lacking nonempty
    ((findall (identifierMatcher py) reply.toList).map String.ofList)
    (py.lower (String.ofList status.word)) (le_refl (0 : ℚ)) with
    ⟨facts, lacking⟩
  have verified := verify_of_lacking py lacking fun other isFound =>
    ⟨known other isFound, fun same => unread ⟨other, isFound, same⟩⟩
  have sourced := (nothingHidden facts _ lacking.names _ _
    (safeNumbers_readable py entities _) verified).2 status found
      (by rw [inside_congr lacking.names]; exact exposed)
  exact lacking.lost sourced

theorem stillRead_nil (text : List Char) : StillRead py [] text where
  numbers := by
    intro number found _
    rcases asDecimal_number py found with ⟨value, read, -⟩
    exact ⟨number, found, value, value, read, read, rfl⟩
  statuses := fun status found _ => ⟨status, found, rfl⟩

/-! ## Names that cut nothing -/

/-- The blanked names. -/
def blankedNames (entities : List String) (text : List Char) :
    List Occurrence :=
  finditer (maskMatcher py entities) text

/-- No blanked name begins or ends strictly inside a number or a word. -/
structure CutsNothing (entities : List String) (text : List Char) :
    Prop where
  numbers : Uncut (blankedNames py entities text) (numbersOf py text)
  words : Uncut (blankedNames py entities text)
    (occurrences 0 (tokens (wordMunch py.isWord) text))

/-- A stretch inside a blanked name is inside an occurrence of the name. -/
theorem inside_of_blanked
    {entities : List String} {text : List Char} {found hit : Occurrence}
    (isHit : hit ∈ blankedNames py entities text)
    (begins : hit.start ≤ found.start) (ends : found.stop ≤ hit.stop) :
    inside entities text found = true := by
  rcases List.mem_map.mp (mem_of_occurrence isHit) with
    ⟨entity, isEntity, spelt⟩
  have stands := occurrence_source isHit
  rw [source_scan, Nat.sub_zero, List.drop_zero] at stands
  rw [inside, List.any_eq_true]
  refine ⟨entity, isEntity, ?_⟩
  rw [List.any_eq_true]
  refine ⟨hit.start, by rw [List.mem_range]; omega, ?_⟩
  rw [spelt, Bool.and_eq_true, List.isPrefixOf_iff_prefix]
  exact ⟨stands, decide_eq_true ends⟩

theorem outside_of_exposed
    {entities : List String} {text : List Char} {found : Occurrence}
    {tokens : List Occurrence}
    (uncut : Uncut (blankedNames py entities text) tokens)
    (isFound : found ∈ tokens)
    (exposed : inside entities text found = false) :
    outside (blankedNames py entities text) found = true := by
  by_contra notOutside
  rcases inside_of_not_outside uncut isFound notOutside with
    ⟨hit, isHit, begins, ends⟩
  rw [inside_of_blanked py isHit begins ends] at exposed
  simp at exposed

theorem blank_separates_numerals :
    Separates (numeralMunch py.isDigit isSeparator) ' ' := by
  apply numeralMunch_separates
  · rw [PyText.isDigit, py.ascii ' ' (by decide)]
    rfl
  · rfl

theorem blank_separates_words :
    Separates (wordMunch py.isWord) ' ' := by
  apply wordMunch_separates
  rw [py.asciiWord ' ' (by decide)]
  rfl

theorem numbersOf_eq (text : List Char) :
    numbersOf py text =
      occurrences 0 (tokens (numeralMunch py.isDigit isSeparator) text) := by
  rw [numbersOf, finditer, numberMatcher, numberPattern, scan_numeral]

/-- An ASCII letter or digit, as which it is a word character. -/
def isPlain (char : Char) : Bool :=
  decide (char.toNat < 128) && char.isAlphanum

theorem isWord_of_isPlain {char : Char} (plain : isPlain char = true) :
    py.isWord char = true := by
  rw [isPlain, Bool.and_eq_true, decide_eq_true_eq] at plain
  rw [py.asciiWord char plain.1, plain.2]
  rfl

theorem isWord_of_ignoreCase
    {letter char : Char} (lower : isPlain letter = true)
    (upper : isPlain letter.toUpper = true)
    (same : ignoreCase letter char = true) :
    py.isWord char = true := by
  simp only [ignoreCase, Bool.or_eq_true, Bool.and_eq_true, beq_iff_eq]
    at same
  rcases same with
    (((rfl | rfl) | ⟨-, isI | isI⟩) | ⟨-, isS⟩) | ⟨-, isK⟩
  · exact isWord_of_isPlain py lower
  · exact isWord_of_isPlain py upper
  · exact py.folded_isWord char (by simp [foldedLetters, isI])
  · exact py.folded_isWord char (by simp [foldedLetters, isI])
  · exact py.folded_isWord char (by simp [foldedLetters, isS])
  · exact py.folded_isWord char (by simp [foldedLetters, isK])

/-- The status words of a text are whole words of it. -/
theorem statusesOf_eq (text : List Char) :
    statusesOf py text =
      (occurrences 0 (tokens (wordMunch py.isWord) text)).filter
        fun token => fullmatch py.isWord statusBody token.word := by
  have letters : ∀ word ∈ statusWords.map String.toList,
      word ≠ [] ∧
        (word.all fun char => isPlain char && isPlain char.toUpper) =
          true := by
    decide
  rw [statusesOf, finditer, statusMatcher, statusPattern, scan_delimited]
  · exact occurrences_wholeWord py.isWord _ text
  · apply wordOnly_alternation
    intro word isStatus char member next same
    have plain := List.all_eq_true.mp (letters word isStatus).2 char member
    rw [Bool.and_eq_true] at plain
    exact isWord_of_ignoreCase py plain.1 plain.2 same
  · apply consumes_alternation
    intro word isStatus
    exact (letters word isStatus).1

/-- To blank no names is to change nothing. -/
theorem without_eq (entities : List String) (text : List Char) :
    without py entities text =
      replaced [' '] (scan (maskMatcher py entities) 0 none text) := by
  rw [without, mask]
  split
  · rename_i empty
    rw [List.isEmpty_iff] at empty
    subst empty
    have none : findall (maskMatcher py []) text = [] := by
      rw [findall, ← map_word_occurrences 0, List.map_eq_nil_iff,
        List.eq_nil_iff_forall_not_mem]
      intro hit isHit
      simpa using mem_of_occurrence isHit
    exact (sub_of_no_match none [' ']).symm
  · rfl

/-- Blanking names that cut no token leaves the tokens outside them. -/
theorem words_without
    {munch : Munch} (stable : Stable munch) (separates : Separates munch ' ')
    {entities : List String} {text : List Char}
    (uncut : Uncut (blankedNames py entities text)
      (occurrences 0 (tokens munch text))) :
    words (tokens munch (without py entities text)) =
      ((occurrences 0 (tokens munch text)).filter
        (outside (blankedNames py entities text))).map Occurrence.word := by
  have whole : source (scan (maskMatcher py entities) 0 none text) = text := by
    rw [source_scan, List.drop_zero]
  have tokensLeft := @words_tokens_replaced munch stable ' ' separates
    (scan (maskMatcher py entities) 0 none text) [] 0
  rw [List.nil_append, List.nil_append, whole] at tokensLeft
  rw [without_eq]
  exact tokensLeft uncut

/-- A token outside the blanked names is still there. -/
theorem exists_word_without
    {munch : Munch} (stable : Stable munch) (separates : Separates munch ' ')
    {entities : List String} {text : List Char}
    (uncut : Uncut (blankedNames py entities text)
      (occurrences 0 (tokens munch text)))
    {found : Occurrence}
    (isFound : found ∈ occurrences 0 (tokens munch text))
    (exposed : inside entities text found = false) :
    ∃ other ∈ occurrences 0 (tokens munch (without py entities text)),
      other.word = found.word := by
  rw [← List.mem_map, map_word_occurrences,
    words_without py stable separates uncut]
  exact List.mem_map_of_mem (List.mem_filter.mpr
    ⟨isFound, outside_of_exposed py uncut isFound exposed⟩)

/-- Names that cut nothing leave everything outside them readable. -/
theorem stillRead_of_cutsNothing
    {entities : List String} {text : List Char}
    (cutsNothing : CutsNothing py entities text) :
    StillRead py entities text := by
  constructor
  · intro number found exposed
    have uncut := cutsNothing.numbers
    rw [numbersOf_eq] at uncut found
    rcases exists_word_without py numeralMunch_stable
      (blank_separates_numerals py) uncut found exposed with
      ⟨other, isOther, same⟩
    rw [← numbersOf_eq] at isOther
    rcases asDecimal_number py isOther with ⟨value, read, -⟩
    refine ⟨other, isOther, value, value, ?_, read, rfl⟩
    rw [← same]
    exact read
  · intro status found exposed
    rw [statusesOf_eq, List.mem_filter] at found
    rcases exists_word_without py (wordMunch_stable py.isWord)
      (blank_separates_words py) cutsNothing.words found.1 exposed with
      ⟨other, isOther, same⟩
    refine ⟨other, ?_, by rw [same]⟩
    rw [statusesOf_eq, List.mem_filter, same]
    exact ⟨isOther, found.2⟩

/--
For a reply and a set of names, no unsourced literal outside the names passes,
whatever the facts with these names and the safe literals are, exactly when
every such literal can still be read once the names are blanked, or a status
word can be read that no facts hold.  The first is so when no name cuts a
number or a word.
-/
theorem nothing_hidden_iff (reply : String) (entities : List String) :
    ((∀ facts templateSafeLiterals, Names facts entities →
          NothingHidden py reply facts templateSafeLiterals) ↔
        StillRead py entities (blanked py reply) ∨
          NoStatus py entities (blanked py reply)) ∧
      (CutsNothing py entities (blanked py reply) →
        StillRead py entities (blanked py reply)) := by
  refine ⟨⟨?_, ?_⟩, stillRead_of_cutsNothing py⟩
  · intro nothingHidden
    by_cases noStatus : NoStatus py entities (blanked py reply)
    · exact Or.inr noStatus
    · left
      have known : ∀ status ∈
          statusesOf py (without py entities (blanked py reply)),
          py.lower (String.ofList status.word) ∈ statusWords := by
        intro status found
        by_contra unknown
        exact noStatus ⟨status, found, unknown⟩
      by_cases nonempty : entities = []
      · subst nonempty
        exact stillRead_nil py _
      · exact
          { numbers := fun _ found exposed =>
              number_read py nonempty nothingHidden known found exposed
            statuses := fun _ found exposed =>
              status_read py nonempty nothingHidden known found exposed }
  · rintro (still | noStatus) facts templateSafeLiterals names
    · exact nothingHidden_of_stillRead py names still
    · exact nothingHidden_of_noStatus py names noStatus

end

/-! ## A name that hides an amount -/

/-- One session, at a station whose name is a digit. -/
def digitStation : FactSet where
  userName := none
  userId := none
  invoices := []
  sessions :=
    [{ sessionId := "sess_1001"
       station := "5"
       kwh := { negative := false, coefficient := 400, exponent := -2 }
       cost := { negative := false, coefficient := 160, exponent := -2 }
       status := .completed }]

/--
The station takes the second digit of an invented amount with it; the first
one is left, and passes as the number of sessions.
-/
theorem station_hides_amount :
    ¬ NothingHidden asciiText "You owe 15 EUR." digitStation [] := by
  intro nothingHidden
  have passes : verify asciiText "You owe 15 EUR." digitStation [] =
      .ok ⟨extract asciiText "You owe 15 EUR." digitStation, []⟩ :=
    verify_of_grounded rfl (by decide +kernel)
  have sourced := (nothingHidden [] _ rfl passes).1 ⟨8, ['1', '5']⟩
    (by decide +kernel) (by decide +kernel)
  rcases sourced with ⟨value, read, isIn⟩
  have spelt : asDecimal asciiText (String.ofList ['1', '5']) =
      some (.finite ⟨false, 15, 0⟩) := by
    decide +kernel
  cases Option.some.inj (read.symm.trans spelt)
  exact absurd isIn (by decide +kernel)

end SupportAssistant.Guardrails.Masking
