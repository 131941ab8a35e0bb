import SupportAssistant.Guardrails.Literals
import SupportAssistant.Text.Assembly

/-!
# Numerals of many groups

The number pattern reads two groups of digits at a time.  A numeral of three
or more groups is read in pieces, and each piece is looked up by itself: an
invented amount is withheld only if one of its pieces is no fact.
-/

namespace SupportAssistant.Guardrails.Fragments

open SupportAssistant.Numeric.DecimalFloat
open SupportAssistant.Text.Scan
open SupportAssistant.Text.Tokens
open SupportAssistant.Text.Blanking
open SupportAssistant.Text.Assembly
open SupportAssistant.Text.Alternation
open SupportAssistant.Text.Numerals
open SupportAssistant.Runtime
open SupportAssistant.Runtime.Ascii
open SupportAssistant.Guardrails.Facts
open SupportAssistant.Guardrails.Grounding
open SupportAssistant.Guardrails.Masking
open SupportAssistant.Guardrails.Literals

/-- Three or more groups of digits, joined by single separators. -/
structure Multipart (py : PyText) where
  first : List Char
  rest : List (Char × List Char)
  isFirst : IsGroup py.isDigit first
  areGroups : ∀ next ∈ rest,
    isSeparator next.1 = true ∧ IsGroup py.isDigit next.2
  several : 2 ≤ rest.length

namespace Multipart

variable {py : PyText} (numeral : Multipart py)

def text : List Char :=
  joined numeral.first numeral.rest

/-- Every separator but the last read as digit grouping. -/
def reading : List Char :=
  numeral.first ++ numeral.rest.dropLast.flatMap Prod.snd ++
    match numeral.rest.getLast? with
    | some (separator, group) => separator :: group
    | none => []

/-- The groups two at a time. -/
def pieces : List (List Char) :=
  taken numeral.first numeral.rest

end Multipart

section

variable (py : PyText)

/--
The numeral stands in the text by itself, where no occurrence of a name
reaches.
-/
def Stands (entities : List String) (text : List Char)
    (numeral : Multipart py) : Prop :=
  ∃ front back, text = front ++ (numeral.text ++ back) ∧
    EndsBefore py.isDigit isSeparator front ∧
      BeginsBehind py.isDigit isSeparator back ∧
        ∀ entity ∈ entities, ∀ position,
          entity.toList <+: text.drop position →
            position + entity.toList.length ≤ front.length ∨
              front.length + numeral.text.length ≤ position

/--
If the numeral is neither a fact nor safe as it reads, no reply in which it
stands passes.
-/
def FailsClosed (facts : FactSet) (templateSafeLiterals : List String)
    (numeral : Multipart py) : Prop :=
  ∀ safe, safeNumbers py templateSafeLiterals = .ok safe →
    ¬ NumberSourced py facts safe numeral.reading →
      ∀ reply,
        Stands py facts.allowedEntities (blanked py reply) numeral →
          ∀ result,
            verify py reply facts templateSafeLiterals = .ok result →
              result.violations ≠ []

variable {py}

/-! ## The pieces of a numeral in a reply -/

theorem separators_apart (char : Char)
    (separates : isSeparator char = true) :
    py.isDigit char = false := by
  rcases Bool.or_eq_true_iff.mp separates with isPoint | isComma
  · rw [beq_iff_eq.mp isPoint, PyText.isDigit, py.ascii '.' (by decide)]
    rfl
  · rw [beq_iff_eq.mp isComma, PyText.isDigit, py.ascii ',' (by decide)]
    rfl

theorem words_tokens_text (numeral : Multipart py) :
    words (tokens (numeralMunch py.isDigit isSeparator) numeral.text) =
      numeral.pieces :=
  words_tokens_joined separators_apart _ _ numeral.isFirst numeral.areGroups

theorem text_numeric (numeral : Multipart py) :
    Numeric py numeral.text := by
  intro char member
  rcases List.mem_append.mp member with inFirst | inRest
  · exact Or.inl (numeral.isFirst.areDigits char inFirst)
  · rcases List.mem_flatMap.mp inRest with ⟨next, isNext, inNext⟩
    have isGroup := numeral.areGroups next isNext
    rcases List.mem_cons.mp inNext with rfl | inGroup
    · exact Or.inr isGroup.1
    · exact Or.inl (isGroup.2.areDigits char inGroup)

theorem two_le_length (numeral : Multipart py) :
    2 ≤ numeral.text.length := by
  have positive := List.length_pos_iff.mpr numeral.isFirst.nonempty
  have several := numeral.several
  have some : 0 < numeral.rest.length := by omega
  rcases List.exists_cons_of_length_pos some with ⟨next, rest, isRest⟩
  rw [Multipart.text, joined, isRest, List.flatMap_cons, List.length_append,
    List.length_append, List.length_cons]
  omega

/-- The pieces are tokens of any text in which the numeral stands. -/
theorem piece_of_standing
    {front back : List Char} {numeral : Multipart py}
    (ends : EndsBefore py.isDigit isSeparator front)
    (begins : BeginsBehind py.isDigit isSeparator back)
    {piece : List Char} (isPiece : piece ∈ numeral.pieces) :
    piece ∈ words (tokens (numeralMunch py.isDigit isSeparator)
      (front ++ (numeral.text ++ back))) := by
  rw [tokens_standing ends begins, words_append, words_append,
    words_tokens_text]
  simp [isPiece]

/-- The numeral is kept whole when the names are blanked. -/
theorem kept_whole
    {entities : List String} {numeral : Multipart py}
    {front back : List Char}
    (apart : ∀ entity ∈ entities, ∀ position,
      entity.toList <+: (front ++ (numeral.text ++ back)).drop position →
        position + entity.toList.length ≤ front.length ∨
          front.length + numeral.text.length ≤ position) :
    ∃ left right,
      scan (maskMatcher py entities) 0 none
          (front ++ (numeral.text ++ back)) =
        left ++ (numeral.text.map .kept ++ right) ∧
      source left = front ∧ source right = back := by
  have whole : source (scan (maskMatcher py entities) 0 none
      (front ++ (numeral.text ++ back))) =
        front ++ (numeral.text ++ back) := by
    rw [source_scan, List.drop_zero]
  have long := two_le_length numeral
  have hits : ∀ hit ∈ occurrences 0 (scan (maskMatcher py entities) 0 none
        (front ++ (numeral.text ++ back))),
      hit.word ≠ [] ∧
        (hit.stop ≤ front.length ∨
          front.length + numeral.text.length ≤ hit.start) := by
    intro hit isHit
    rcases List.mem_map.mp (mem_of_occurrence isHit) with
      ⟨entity, isEntity, spelt⟩
    have stands := occurrence_source isHit
    rw [whole, Nat.sub_zero, ← spelt] at stands
    constructor
    · -- the empty name stands everywhere, also inside the numeral
      intro empty
      rw [empty] at spelt
      have inside := apart entity isEntity (front.length + 1)
        (by rw [spelt]; exact List.nil_prefix)
      rw [spelt, List.length_nil] at inside
      omega
    · rw [Occurrence.stop, ← spelt]
      exact apart entity isEntity hit.start stands
  generalize scan (maskMatcher py entities) 0 none
    (front ++ (numeral.text ++ back)) = cut at whole hits
  rcases @exists_split cut 0 front.length
    (by rw [whole, List.length_append]; omega)
    (by
      intro hit isHit crosses
      have := (hits hit isHit).2
      simp only [Crosses] at crosses
      omega) with ⟨left, rest, rfl, leftLength⟩
  rw [source_append] at whole
  rcases List.append_inj whole leftLength with ⟨isFront, isRest⟩
  rw [occurrences_append, isFront, Nat.zero_add] at hits
  have hits := fun hit isHit => hits hit (List.mem_append_right _ isHit)
  rcases @exists_split rest front.length numeral.text.length
    (by rw [isRest, List.length_append]; omega)
    (by
      intro hit isHit crosses
      have := (hits hit isHit).2
      simp only [Crosses] at crosses
      omega) with ⟨middle, right, rfl, middleLength⟩
  rw [source_append] at isRest
  rcases List.append_inj isRest middleLength with ⟨isMiddle, isBack⟩
  have none : words middle = [] := by
    rw [← map_word_occurrences front.length, List.map_eq_nil_iff,
      List.eq_nil_iff_forall_not_mem]
    intro hit isHit
    have bounds := occurrence_bounds isHit
    have clear := hits hit (by
      rw [occurrences_append]
      exact List.mem_append_left _ isHit)
    have nonempty := List.length_pos_iff.mpr clear.1
    have stops : hit.stop = hit.start + hit.word.length := rfl
    rw [isMiddle] at bounds
    omega
  refine ⟨left, right, ?_, isFront, isBack⟩
  rw [← isMiddle, ← eq_map_kept none]

/-- Once the names are blanked, the pieces are still read. -/
theorem piece_read
    {entities : List String} {text : List Char} {numeral : Multipart py}
    (stands : Stands py entities text numeral)
    {piece : List Char} (isPiece : piece ∈ numeral.pieces) :
    ∃ number ∈ numbersOf py (without py entities text),
      number.word = piece := by
  rcases stands with ⟨front, back, rfl, ends, begins, apart⟩
  rw [← List.mem_map, numbersOf_eq, map_word_occurrences]
  rcases kept_whole apart with ⟨left, right, cut, isFront, isBack⟩
  have inStretch := @words_tokens_stretches _
    (@numeralMunch_stable py.isDigit isSeparator) _
    (blank_separates_numerals py)
    (left ++ (numeral.text.map .kept ++ right)) []
  rw [List.nil_append] at inStretch
  rw [without_eq, cut, inStretch, List.mem_flatMap]
  rcases exists_stretch [] left numeral.text right with
    ⟨before, behind, isTail, isHead, isStretch⟩
  rw [List.nil_append, isFront] at isTail
  rw [isBack] at isHead
  exact ⟨_, isStretch,
    piece_of_standing (ends.tail isTail) (begins.head isHead) isPiece⟩

/-- No name occurs in a numeral that stands by itself. -/
theorem clear_of_stands
    {entities : List String} {text : List Char} {numeral : Multipart py}
    (stands : Stands py entities text numeral) {entity : String}
    (isEntity : entity ∈ entities) :
    ¬ entity.toList <:+: numeral.text := by
  rintro ⟨before, behind, occurs⟩
  rcases stands with ⟨front, back, rfl, -, -, apart⟩
  have long := two_le_length numeral
  have length := congrArg List.length occurs
  rw [List.length_append, List.length_append] at length
  by_cases empty : entity.toList = []
  · have inside := apart entity isEntity (front.length + 1)
      (by rw [empty]; exact List.nil_prefix)
    rw [empty, List.length_nil] at inside
    omega
  · have positive := List.length_pos_iff.mpr empty
    have inside := apart entity isEntity (front.length + before.length) (by
      rw [← occurs, List.drop_length_add_append, List.append_assoc,
        List.append_assoc, List.drop_left]
      exact List.prefix_append _ _)
    omega

/-! ## A reply that is the numeral -/

/-- The numeral by itself, where no name occurs in it. -/
theorem stands_alone
    {entities : List String} {numeral : Multipart py}
    (clear : ∀ entity ∈ entities, ¬ entity.toList <:+: numeral.text) :
    Stands py entities numeral.text numeral := by
  refine ⟨[], [], by simp, ?_, ?_, ?_⟩
  · constructor <;> simp
  · constructor <;> simp
  · intro entity isEntity position stands
    exact absurd
      (stands.isInfix.trans (List.drop_suffix _ _).isInfix)
      (clear entity isEntity)

theorem mask_of_clear
    {entities : List String} {text : List Char}
    (clear : ∀ entity ∈ entities, ¬ entity.toList <:+: text) :
    mask py text entities = text := by
  have none : findall (maskMatcher py entities) text = [] := by
    rw [findall, List.eq_nil_iff_forall_not_mem]
    intro word found
    have stands := infix_of_word found
    rw [source_scan, List.drop_zero] at stands
    rw [← map_word_occurrences 0] at found
    rcases List.mem_map.mp found with ⟨hit, isHit, rfl⟩
    rcases List.mem_map.mp (mem_of_occurrence isHit) with
      ⟨entity, isEntity, spelt⟩
    rw [← spelt] at stands
    exact clear entity isEntity stands
  unfold mask
  split
  · rfl
  · exact sub_of_no_match none [' ']

/-- The reply that is the numeral is read as its pieces. -/
theorem extract_numeral
    {facts : FactSet} {numeral : Multipart py}
    (clear : ∀ entity ∈ facts.allowedEntities,
      ¬ entity.toList <:+: numeral.text) :
    extract py (String.ofList numeral.text) facts =
      numeral.pieces.map fun piece => ⟨String.ofList piece, .number⟩ := by
  have numeric := text_numeric numeral
  have identifiers := numeric.no_identifiers
  have statuses : findall (statusMatcher py) numeral.text = [] := by
    rw [findall, ← map_word_occurrences 0]
    exact List.map_eq_nil_iff.mpr numeric.no_statuses
  have numbers : findall (numberMatcher py) numeral.text =
      numeral.pieces := by
    rw [findall, numberMatcher, numberPattern, scan_numeral,
      words_tokens_text]
  simp only [extract, literalsOf, numeric.blanked_eq, mask_of_clear clear,
    String.toList_ofList, identifiers, statuses, numbers, List.map_nil,
    List.nil_append, List.append_nil]

/-! ## Exactly when a numeral fails closed -/

theorem failsClosed_of_unsourced
    {facts : FactSet} {templateSafeLiterals : List String}
    {safe : List Decimal}
    (safeOk : safeNumbers py templateSafeLiterals = .ok safe)
    {numeral : Multipart py} {piece : List Char}
    (isPiece : piece ∈ numeral.pieces)
    (unsourced : ¬ NumberSourced py facts safe piece)
    {reply : String}
    (stands : Stands py facts.allowedEntities (blanked py reply) numeral)
    {result : GroundingResult}
    (verified : verify py reply facts templateSafeLiterals = .ok result) :
    result.violations ≠ [] := by
  intro clean
  rcases verify_ok verified with ⟨values, valuesOk, -, sourced⟩
  cases Except.ok.inj (valuesOk.symm.trans safeOk)
  rcases piece_read stands isPiece with ⟨number, isNumber, isWord⟩
  have all := (forall_extract_iff py (fun _ => Iff.rfl)).mp
    (sourced.mp clean)
  have read := all.2.1 number isNumber
  rw [isWord] at read
  exact unsourced ((grounded_number_iff py).mp read)

/--
A numeral of three or more groups fails closed exactly when it is sourced as
it reads, or a name occurs in it, or one of the pieces it is read in is not
sourced.
-/
theorem fails_closed_iff
    (facts : FactSet) (templateSafeLiterals : List String)
    (numeral : Multipart py) :
    FailsClosed py facts templateSafeLiterals numeral ↔
      ∀ safe, safeNumbers py templateSafeLiterals = .ok safe →
        NumberSourced py facts safe numeral.reading ∨
          (∃ entity ∈ facts.allowedEntities,
            entity.toList <:+: numeral.text) ∨
          ∃ piece ∈ numeral.pieces, ¬ NumberSourced py facts safe piece := by
  constructor
  · intro failsClosed safe safeOk
    by_contra otherwise
    push Not at otherwise
    rcases otherwise with ⟨unsourced, clear, sourced⟩
    have passes : verify py (String.ofList numeral.text) facts
          templateSafeLiterals =
        .ok ⟨extract py (String.ofList numeral.text) facts, []⟩ := by
      apply verify_of_grounded safeOk
      rw [extract_numeral clear]
      intro literal member
      rcases List.mem_map.mp member with ⟨piece, isPiece, rfl⟩
      exact (grounded_number_iff py).mpr (sourced piece isPiece)
    have stands : Stands py facts.allowedEntities
        (blanked py (String.ofList numeral.text)) numeral := by
      rw [(text_numeric numeral).blanked_eq]
      exact stands_alone clear
    exact failsClosed safe safeOk unsourced _ stands _ passes rfl
  · intro holdsWhen safe safeOk unsourced reply stands result verified
    rcases holdsWhen safe safeOk with
      sourced | ⟨entity, isEntity, occurs⟩ | ⟨piece, isPiece, unknown⟩
    · exact absurd sourced unsourced
    · exact absurd occurs (clear_of_stands stands isEntity)
    · exact failsClosed_of_unsourced safeOk isPiece unknown stands verified

end

/-! ## An invented amount that passes -/

/-- Two invoices, one of 1.50. -/
def twoInvoices : FactSet where
  userName := none
  userId := none
  invoices :=
    [{ invoiceId := "inv_1"
       amount := { negative := false, coefficient := 150, exponent := -2 }
       currency := "EUR"
       status := .paid },
      { invoiceId := "inv_2"
        amount := { negative := false, coefficient := 275, exponent := -2 }
        currency := "EUR"
        status := .paid }]
  sessions := []

/-- `1.50.2`, which reads as 150.2. -/
def invented : Multipart asciiText where
  first := ['1']
  rest := [('.', ['5', '0']), ('.', ['2'])]
  isFirst := ⟨by decide, List.all_eq_true.mp (by decide)⟩
  areGroups := by
    intro next member
    simp only [List.mem_cons, List.not_mem_nil, or_false] at member
    rcases member with rfl | rfl <;>
      exact ⟨by decide, ⟨by decide, List.all_eq_true.mp (by decide)⟩⟩
  several := by decide

/-- Its pieces are an amount and the number of invoices. -/
theorem invented_passes :
    ¬ FailsClosed asciiText twoInvoices [] invented := by
  intro failsClosed
  have passes : verify asciiText "1.50.2" twoInvoices [] =
      .ok ⟨extract asciiText "1.50.2" twoInvoices, []⟩ :=
    verify_of_grounded rfl (by decide +kernel)
  have unsourced :
      ¬ NumberSourced asciiText twoInvoices [] invented.reading := by
    rintro ⟨value, read, isIn⟩
    have spelt : asDecimal asciiText (String.ofList invented.reading) =
        some (.finite ⟨false, 1502, -1⟩) := by
      decide +kernel
    cases Option.some.inj (read.symm.trans spelt)
    exact absurd isIn (by decide +kernel)
  have stands : Stands asciiText twoInvoices.allowedEntities
      (blanked asciiText "1.50.2") invented := by
    have isBlanked : blanked asciiText "1.50.2" = invented.text := by
      decide +kernel
    rw [isBlanked]
    exact stands_alone (by simp [FactSet.allowedEntities, twoInvoices])
  exact failsClosed [] rfl unsourced "1.50.2" stands _ passes rfl

end SupportAssistant.Guardrails.Fragments
