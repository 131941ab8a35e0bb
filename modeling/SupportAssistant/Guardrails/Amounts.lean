import SupportAssistant.Guardrails.Rendered

/-!
# What an amount in a reply reads as

An amount is written with a sign and rounded to two places, and read without
the sign.  Wherever it stands in a reply by itself, the checker reads one
number from it, and that number is the amount exactly when the amount is not
negative and a whole number of cents.
-/

namespace SupportAssistant.Guardrails.Amounts

open SupportAssistant.Numeric.DecimalFloat
open SupportAssistant.Text.Backtracking
open SupportAssistant.Text.Scan
open SupportAssistant.Text.Tokens
open SupportAssistant.Text.Numerals
open SupportAssistant.Runtime
open SupportAssistant.Runtime.Ascii
open SupportAssistant.Domain
open SupportAssistant.Guardrails.Facts
open SupportAssistant.Guardrails.Grounding
open SupportAssistant.Guardrails.Masking
open SupportAssistant.Guardrails.Rendered

/-! ## Words that are not masked -/

/--
Blanking the matches of a pattern leaves the word between `front` and `back`
as it is, and makes these two into `newFront` and `newBack`.
-/
def PassedOver (matcher : Matcher)
    (front word back newFront newBack : List Char) : Prop :=
  ∃ left right,
    scan matcher 0 none (front ++ (word ++ back)) =
        left ++ (word.map .kept ++ right) ∧
      source left = front ∧ source right = back ∧
        replaced [' '] left = newFront ∧ replaced [' '] right = newBack

/-- Neither an identifier nor a name is blanked in the word. -/
def Unmasked (py : PyText) (entities : List String)
    (front word back newFront newBack : List Char) : Prop :=
  ∃ betweenFront betweenBack,
    PassedOver (identifierMatcher py) front word back betweenFront
        betweenBack ∧
      PassedOver (maskMatcher py entities) betweenFront word betweenBack
        newFront newBack

/-- The last character of the text, if there is one. -/
def EndsIn (P : Char → Prop) (text : List Char) : Prop :=
  ∀ earlier char, text = earlier ++ [char] → P char

/-- The first character of the text, if there is one. -/
def BeginsWith (P : Char → Prop) (text : List Char) : Prop :=
  ∀ char later, text = char :: later → P char

section

variable {P : Char → Prop}

/-- What a text ends in once the matches are blanked. -/
theorem EndsIn.replaced
    {pieces : List Piece} (ends : EndsIn P (source pieces)) (blank : P ' ') :
    EndsIn P (replaced [' '] pieces) := by
  rcases List.eq_nil_or_concat' pieces with rfl | ⟨front, last, rfl⟩
  · intro earlier char empty
    simp at empty
  · intro earlier char split
    rw [replaced_append] at split
    cases last with
    | kept own =>
        have same : own = char := by
          simpa [Piece.replaced] using congrArg List.getLast? split
        refine same ▸ ends (source front) own ?_
        rw [source_append]
        rfl
    | hit word =>
        have same : ' ' = char := by
          simpa [Piece.replaced] using congrArg List.getLast? split
        exact same ▸ blank

/-- What a text begins with once the matches are blanked. -/
theorem BeginsWith.replaced
    {pieces : List Piece} (begins : BeginsWith P (source pieces))
    (blank : P ' ') :
    BeginsWith P (replaced [' '] pieces) := by
  cases pieces with
  | nil =>
      intro char later empty
      simp at empty
  | cons first rest =>
      intro char later split
      cases first with
      | kept own =>
          have same : own = char := (List.cons.inj split).1
          exact same ▸ begins own (source rest) rfl
      | hit word =>
          have same : ' ' = char := (List.cons.inj split).1
          exact same ▸ blank

theorem PassedOver.ends
    {matcher : Matcher} {front word back newFront newBack : List Char}
    (passed : PassedOver matcher front word back newFront newBack)
    (ends : EndsIn P front) (blank : P ' ') :
    EndsIn P newFront := by
  rcases passed with ⟨left, right, -, rfl, -, rfl, -⟩
  exact ends.replaced blank

theorem PassedOver.begins
    {matcher : Matcher} {front word back newFront newBack : List Char}
    (passed : PassedOver matcher front word back newFront newBack)
    (begins : BeginsWith P back) (blank : P ' ') :
    BeginsWith P newBack := by
  rcases passed with ⟨left, right, -, -, rfl, -, rfl⟩
  exact begins.replaced blank

theorem PassedOver.replaced_eq
    {matcher : Matcher} {front word back newFront newBack : List Char}
    (passed : PassedOver matcher front word back newFront newBack) :
    replaced [' '] (scan matcher 0 none (front ++ (word ++ back))) =
      newFront ++ (word ++ newBack) := by
  rcases passed with ⟨left, right, cut, -, -, rfl, rfl⟩
  rw [cut, replaced_append, replaced_append, replaced_map_kept]

end

/-! ## The number in an amount -/

/-- The occurrence shares a character with the stretch. -/
def overlaps (start length : Nat) (found : Occurrence) : Bool :=
  decide (found.start < start + length) && decide (start < found.stop)

section

variable {py : PyText}

theorem magnitude_nonempty (value : Finite) :
    0 < (value.magnitude 2).length := by
  rw [Finite.magnitude, List.length_append, List.length_cons]
  omega

/-- No number begins before an amount and reaches into it. -/
theorem endsBefore_of_endsIn
    {front : List Char}
    (ends : EndsIn
      (fun char => py.isDigit char = false ∧ isSeparator char = false)
      front) :
    EndsBefore py.isDigit isSeparator front := by
  constructor
  · intro earlier char split
    exact (ends earlier char split).1
  · intro earlier char separator split separates
    have last := (ends (earlier ++ [char]) separator (by simp [split])).2
    rw [separates] at last
    exact Bool.noConfusion last

theorem tokens_around
    (value : Finite) {front back : List Char}
    (ends : EndsIn
      (fun char => py.isDigit char = false ∧ isSeparator char = false) front)
    (begins : BeginsWith (fun char => py.isDigit char = false) back) :
    tokens (numeralMunch py.isDigit isSeparator)
        (front ++ ((formatAmount value).toList ++ back)) =
      tokens (numeralMunch py.isDigit isSeparator) front ++
        ((signOf value).map .kept ++
          .hit (value.magnitude 2) ::
            tokens (numeralMunch py.isDigit isSeparator) back) := by
  have stops : EndsBefore py.isDigit isSeparator front :=
    endsBefore_of_endsIn ends
  rw [tokens_of_tails numeralMunch_stable
      (fun tail nonempty isTail =>
        (stops.tail isTail).munch_le nonempty
          ((formatAmount value).toList ++ back)),
    tokens_amount value begins]

/-- What is read of an amount, in a text with this much before it. -/
def readFrom (start : Nat) (value : Finite) : Occurrence :=
  ⟨start + (signOf value).length, value.magnitude 2⟩

/-- Exactly one number shares a character with an amount that stands alone. -/
theorem numbers_overlapping
    (value : Finite) {front back : List Char}
    (ends : EndsIn
      (fun char => py.isDigit char = false ∧ isSeparator char = false) front)
    (begins : BeginsWith (fun char => py.isDigit char = false) back) :
    (numbersOf py (front ++ ((formatAmount value).toList ++ back))).filter
        (overlaps front.length (formatAmount value).toList.length) =
      [readFrom front.length value] := by
  have length :
      (formatAmount value).toList.length =
        (signOf value).length + (value.magnitude 2).length := by
    rw [toList_formatAmount, List.length_append]
  have nonempty := magnitude_nonempty value
  have before :
      (occurrences 0
          (tokens (numeralMunch py.isDigit isSeparator) front)).filter
        (overlaps front.length (formatAmount value).toList.length) = [] := by
    rw [List.filter_eq_nil_iff]
    intro found isFound
    have bounds := (occurrence_bounds isFound).2
    rw [source_tokens] at bounds
    simp only [overlaps, Bool.and_eq_true, decide_eq_true_eq]
    omega
  have behind :
      (occurrences
          (front.length + (signOf value).length +
            (value.magnitude 2).length)
          (tokens (numeralMunch py.isDigit isSeparator) back)).filter
        (overlaps front.length (formatAmount value).toList.length) = [] := by
    rw [List.filter_eq_nil_iff]
    intro found isFound
    have bounds := (occurrence_bounds isFound).1
    simp only [overlaps, Bool.and_eq_true, decide_eq_true_eq]
    omega
  have own :
      overlaps front.length (formatAmount value).toList.length
          (readFrom front.length value) = true := by
    have starts : front.length + (signOf value).length <
        front.length + (formatAmount value).toList.length := by
      omega
    have stops : front.length <
        front.length + (signOf value).length +
          (value.magnitude 2).length := by
      omega
    exact Bool.and_eq_true_iff.mpr
      ⟨decide_eq_true starts, decide_eq_true stops⟩
  rw [numbersOf_eq, tokens_around value ends begins, occurrences_append,
    List.filter_append, before, List.nil_append, source_tokens,
    occurrences_append, occurrences_map_kept, List.nil_append,
    source_map_kept, occurrences, Nat.zero_add]
  rw [readFrom] at own
  rw [List.filter_cons_of_pos own, behind]
  rfl

/-- The number read of an amount is its rounded magnitude. -/
theorem value_of_magnitude (value : Finite) :
    (Finite.mk false (value.units 2) (-2)).value = value.units 2 / 100 := by
  rw [Finite.value, Finite.signed]
  norm_num [zpow_neg]
  ring

/-- It is the amount itself when that is a whole number of cents. -/
theorem read_exactly_iff (value : Finite) :
    (Finite.mk false (value.units 2) (-2)).value = value.value ↔
      0 ≤ value.value ∧ ∃ cents : Int, 100 * value.value = cents := by
  constructor
  · intro same
    rw [← same, value_of_magnitude]
    constructor
    · exact div_nonneg (Nat.cast_nonneg _) (by norm_num)
    · refine ⟨(value.units 2 : Int), ?_⟩
      push_cast
      ring
  · rintro ⟨notNegative, cents, whole⟩
    have positive : 0 ≤ cents := by
      have scaled : (0 : ℚ) ≤ cents := by
        rw [← whole]
        exact mul_nonneg (by norm_num) notNegative
      exact_mod_cast scaled
    have counted : value.value * 10 ^ 2 = (cents.toNat : ℚ) := by
      have natural : ((cents.toNat : Int) : ℚ) = (cents : ℚ) := by
        rw [Int.toNat_of_nonneg positive]
      rw [Int.cast_natCast] at natural
      rw [natural, ← whole]
      ring
    exact Finite.value_of_units counted

/-! ## Amounts in a reply -/

/-- What the checker reads numbers and status words from. -/
theorem Unmasked.masked_eq
    {entities : List String} {reply : String}
    {front word back newFront newBack : List Char}
    (unmasked :
      Unmasked py entities front word back newFront newBack)
    (stands : reply.toList = front ++ (word ++ back)) :
    mask py (blanked py reply) entities = newFront ++ (word ++ newBack) := by
  rcases unmasked with ⟨betweenFront, betweenBack, identifiers, names⟩
  have between : blanked py reply = betweenFront ++ (word ++ betweenBack) := by
    rw [blanked, stands]
    exact identifiers.replaced_eq
  have masked := without_eq py entities (blanked py reply)
  rw [between, names.replaced_eq] at masked
  rw [between]
  exact masked

/-- A number that is read from the masked reply is extracted. -/
theorem extracted_of_number
    {facts : FactSet} {reply : String} {number : Occurrence}
    (isNumber :
      number ∈
        numbersOf py (mask py (blanked py reply) facts.allowedEntities)) :
    ⟨String.ofList number.word, .number⟩ ∈ extract py reply facts := by
  have found : number.word ∈
      findall (numberMatcher py)
        (mask py (blanked py reply) facts.allowedEntities) :=
    mem_findall_iff.mpr ⟨number, isNumber, rfl⟩
  rw [extract, List.mem_append, List.mem_append]
  exact Or.inl (Or.inr (List.mem_map_of_mem found))

/--
Where an amount stands in a reply, behind nothing that a number could begin
with, before no further digit, and not masked, exactly one number is extracted
from it.  That number is the amount exactly when the amount is not negative
and a whole number of cents.
-/
theorem amount_read_exactly_iff
    (value : Finite) (facts : FactSet) {reply : String}
    {front back newFront newBack : List Char}
    (stands : reply.toList = front ++ ((formatAmount value).toList ++ back))
    (ends : EndsIn
      (fun char => py.isDigit char = false ∧ isSeparator char = false) front)
    (begins : BeginsWith (fun char => py.isDigit char = false) back)
    (unmasked : Unmasked py facts.allowedEntities front
      (formatAmount value).toList back newFront newBack) :
    mask py (blanked py reply) facts.allowedEntities =
        newFront ++ ((formatAmount value).toList ++ newBack) ∧
      ∃ number read,
        (numbersOf py
              (mask py (blanked py reply) facts.allowedEntities)).filter
            (overlaps newFront.length (formatAmount value).toList.length) =
          [number] ∧
        newFront.length ≤ number.start ∧
        number.stop ≤ newFront.length + (formatAmount value).toList.length ∧
        ⟨String.ofList number.word, .number⟩ ∈ extract py reply facts ∧
        asDecimal py (String.ofList number.word) = some (.finite read) ∧
        (read.value = value.value ↔
          0 ≤ value.value ∧ ∃ cents : Int, 100 * value.value = cents) := by
  have blankDigit : py.isDigit ' ' = false := by
    rw [PyText.isDigit, py.ascii ' ' (by decide)]
    rfl
  have masked := unmasked.masked_eq stands
  rcases unmasked with ⟨betweenFront, betweenBack, identifiers, names⟩
  have newEnds := names.ends
    (identifiers.ends ends ⟨blankDigit, rfl⟩) ⟨blankDigit, rfl⟩
  have newBegins := names.begins
    (identifiers.begins begins blankDigit) blankDigit
  have only := numbers_overlapping value newEnds newBegins
  have length :
      (formatAmount value).toList.length =
        (signOf value).length + (value.magnitude 2).length := by
    rw [toList_formatAmount, List.length_append]
  refine ⟨masked, readFrom newFront.length value,
    ⟨false, value.units 2, -2⟩, ?_, ?_, ?_, ?_, ?_, ?_⟩
  · rw [masked]
    exact only
  · exact Nat.le_add_right _ _
  · show newFront.length + (signOf value).length +
        (value.magnitude 2).length ≤ _
    omega
  · apply extracted_of_number
    rw [masked]
    apply List.mem_of_mem_filter
    rw [only]
    exact List.mem_singleton.mpr rfl
  · exact asDecimal_magnitude value
  · exact read_exactly_iff value

end

/-! ## An amount behind a name and an identifier -/

/-- The user is called Ana. -/
def anasFacts : FactSet :=
  { FactSet.empty with userName := some "Ana", userId := some "u_7" }

/-- `42.1`, which is written with the trailing zero. -/
def fortyTwoTen : Finite :=
  { negative := false, coefficient := 421, exponent := -1 }

theorem ana_unmasked :
    Unmasked asciiText anasFacts.allowedEntities
      ("Ana, u_7 owes".toList ++ [' ']) (formatAmount fortyTwoTen).toList ".5".toList
      " ,   owes ".toList ".5".toList :=
  ⟨"Ana,   owes ".toList, ".5".toList,
    ⟨"Ana, ".toList.map .kept ++
        .hit "u_7".toList :: " owes ".toList.map .kept,
      ".5".toList.map .kept, by decide +kernel⟩,
    ⟨.hit "Ana".toList :: ",   owes ".toList.map .kept,
      ".5".toList.map .kept, by decide +kernel⟩⟩

theorem ana_owes_read :
    ∃ number read,
      (numbersOf asciiText
            (mask asciiText (blanked asciiText "Ana, u_7 owes 42.10.5")
              anasFacts.allowedEntities)).filter
          (overlaps 10 5) = [number] ∧
        asDecimal asciiText (String.ofList number.word) =
          some (.finite read) ∧
        read.value = fortyTwoTen.value := by
  have exactly := amount_read_exactly_iff fortyTwoTen anasFacts
    (by decide +kernel :
      "Ana, u_7 owes 42.10.5".toList =
        ("Ana, u_7 owes".toList ++ [' ']) ++
          ((formatAmount fortyTwoTen).toList ++ ".5".toList))
    (by
      intro earlier char split
      cases (List.append_inj' split rfl).2
      decide)
    (by
      intro char later split
      cases (List.cons.inj split).1
      decide)
    ana_unmasked
  rcases exactly with ⟨-, number, read, only, -, -, -, reads, iff⟩
  refine ⟨number, read, only, reads, iff.mpr ⟨?_, 4210, ?_⟩⟩
  · norm_num [Finite.value, Finite.signed, fortyTwoTen]
  · norm_num [Finite.value, Finite.signed, fortyTwoTen, zpow_neg]

end SupportAssistant.Guardrails.Amounts
