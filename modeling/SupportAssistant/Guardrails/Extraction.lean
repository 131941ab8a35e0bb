import SupportAssistant.Guardrails.Fragments
import SupportAssistant.Text.MaximalWords

/-!
# What the checker extracts

A tokeniser that knows no patterns: the text is cut into its maximal words,
the words that are identifiers are set aside, numerals are read from the text
between them, and the remaining words are compared with the status words.
Where no name occurs, the checker extracts exactly these literals.
-/

namespace SupportAssistant.Guardrails.Extraction

open SupportAssistant.Text.Backtracking
open SupportAssistant.Text.Scan
open SupportAssistant.Text.Tokens
open SupportAssistant.Text.Assembly
open SupportAssistant.Text.WholeWords
open SupportAssistant.Text.Alternation
open SupportAssistant.Text.Numerals
open SupportAssistant.Text.MaximalWords
open SupportAssistant.Runtime
open SupportAssistant.Runtime.Ascii
open SupportAssistant.Tracing.Models
open SupportAssistant.Guardrails.Facts
open SupportAssistant.Guardrails.Grounding
open SupportAssistant.Guardrails.Masking
open SupportAssistant.Guardrails.Literals
open SupportAssistant.Guardrails.Fragments

/-! ## The tokeniser -/

/-- One of the prefixes, an underscore, and at least one more character. -/
def isIdentifier (word : List Char) : Bool :=
  identifierPrefixes.any fun start =>
    let opening := start.toList ++ ['_']
    opening.isPrefixOf word && decide (opening.length < word.length)

/-- A status word, whatever the case of its letters. -/
def isStatus (word : List Char) : Bool :=
  statusWords.any fun status =>
    status.toList.length == word.length &&
      (status.toList.zip word).all fun (letter, char) =>
        ignoreCase letter char

section

variable (py : PyText) (text : List Char)

def identifiers : List (List Char) :=
  (maximalWords py.isWord text).filter isIdentifier

/-- The text between the identifiers. -/
def gaps : List (List Char) :=
  stretches [] (cutAt py.isWord isIdentifier text)

/-- The numerals between the identifiers, each the longest where it begins. -/
def numbers : List (List Char) :=
  (gaps py text).flatMap fun gap =>
    words (tokens (numeralMunch py.isDigit isSeparator) gap)

/-- The status words among the words that are no identifiers. -/
def statuses : List (List Char) :=
  (maximalWords py.isWord text).filter fun word =>
    !isIdentifier word && isStatus word

/-- The text with a blank for each identifier. -/
def withoutIdentifiers : List Char :=
  replaced [' '] (cutAt py.isWord isIdentifier text)

/-- The literals of the text, with its own spelling. -/
def tokenised : List Literal :=
  ((identifiers py text).map fun word =>
      ⟨String.ofList word, .identifier⟩) ++
    ((numbers py text).map fun word => ⟨String.ofList word, .number⟩) ++
      (statuses py text).map fun word => ⟨String.ofList word, .status⟩

end

/-! ## Which words the patterns take -/

theorem spells_iff_zip
    {same : Char → Char → Bool} {text word : List Char} :
    spells same text word = true ∧ text.length = word.length ↔
      (text.length == word.length &&
        (text.zip word).all fun (letter, char) => same letter char) =
          true := by
  induction text generalizing word with
  | nil => simp [spells]
  | cons letter text induction =>
      cases word with
      | nil => simp [spells]
      | cons char word =>
          simp only [Bool.and_eq_true, beq_iff_eq] at induction
          simp only [spells, List.length_cons, List.zip_cons_cons,
            List.all_cons, Bool.and_eq_true, beq_iff_eq,
            Nat.add_right_cancel_iff]
          rw [and_assoc, induction]
          exact and_left_comm

theorem fullmatch_status (isWord : Char → Bool) (word : List Char) :
    fullmatch isWord statusBody word = isStatus word := by
  rw [Bool.eq_iff_iff, statusBody, fullmatch_alternation, isStatus,
    List.any_eq_true]
  simp only [List.mem_map, spells_iff_zip]
  constructor
  · rintro ⟨_, ⟨status, isWord, rfl⟩, spelt⟩
    exact ⟨status, isWord, spelt⟩
  · rintro ⟨status, isWord, spelt⟩
    exact ⟨_, ⟨status, isWord, rfl⟩, spelt⟩

section

variable {py : PyText}

theorem fullmatch_isIdentifier
    {word : List Char} (inside : ∀ char ∈ word, py.isWord char = true) :
    fullmatch py.isWord (identifierBody py) word = isIdentifier word := by
  rw [Bool.eq_iff_iff, fullmatch_identifier, isIdentifier, List.any_eq_true]
  apply exists_congr
  intro start
  apply and_congr_right
  intro _
  simp only [Bool.and_eq_true, List.isPrefixOf_iff_prefix, decide_eq_true_eq]
  constructor
  · rintro ⟨rest, rfl, nonempty, -⟩
    have positive := List.length_pos_iff.mpr nonempty
    constructor
    · exact ⟨rest, by simp⟩
    · simp only [List.length_append, List.length_cons, List.length_nil]
      omega
  · rintro ⟨⟨rest, rfl⟩, longer⟩
    refine ⟨rest, by simp, ?_, ?_⟩
    · rintro rfl
      simp at longer
    · exact fun char member => inside char (List.mem_append_right _ member)

/-- The identifier pattern cuts the text at its identifiers. -/
theorem scan_identifiers_eq (text : List Char) :
    scan (identifierMatcher py) 0 none text =
      cutAt py.isWord isIdentifier text := by
  rw [scan_identifiers, cutAt]
  apply List.flatMap_congr
  intro piece isPiece
  cases piece with
  | kept char => rfl
  | hit word =>
      have found : word ∈ maximalWords py.isWord text := by
        rw [← words_tokens_wordMunch]
        exact List.mem_filterMap.mpr ⟨_, isPiece, rfl⟩
      rw [passed, passed,
        fullmatch_isIdentifier (inside_of_maximalWord found)]

/-- What the checker blanks are the identifiers. -/
theorem blanked_eq (reply : String) :
    blanked py reply = withoutIdentifiers py reply.toList := by
  rw [blanked, sub, scan_identifiers_eq, withoutIdentifiers]

theorem findall_identifiers (text : List Char) :
    findall (identifierMatcher py) text = identifiers py text := by
  rw [findall, scan_identifiers_eq, words_cutAt, identifiers]

/-- The numerals of the blanked text are those of the gaps. -/
theorem findall_numbers (text : List Char) :
    findall (numberMatcher py) (withoutIdentifiers py text) =
      numbers py text := by
  have inGaps := words_tokens_stretches
    (@numeralMunch_stable py.isDigit isSeparator)
    (blank_separates_numerals py) (cutAt py.isWord isIdentifier text) []
  rw [List.nil_append] at inGaps
  rw [findall, numberMatcher, numberPattern, scan_numeral,
    withoutIdentifiers, inGaps]
  rfl

/-- The status words of the blanked text are those that are no identifiers. -/
theorem findall_statuses (text : List Char) :
    findall (statusMatcher py) (withoutIdentifiers py text) =
      statuses py text := by
  have blank : py.isWord ' ' = false := by
    rw [py.asciiWord ' ' (by decide)]
    rfl
  have kept : (fun word : List Char =>
      isStatus word && !isIdentifier word) =
        fun word => !isIdentifier word && isStatus word :=
    funext fun word => Bool.and_comm _ _
  have found : findall (statusMatcher py) (withoutIdentifiers py text) =
      (statusesOf py (withoutIdentifiers py text)).map Occurrence.word := by
    rw [statusesOf, finditer, map_word_occurrences, findall]
  have ofWords : ((occurrences 0 (tokens (wordMunch py.isWord)
        (withoutIdentifiers py text))).filter fun token =>
          fullmatch py.isWord statusBody token.word).map Occurrence.word =
      (maximalWords py.isWord (withoutIdentifiers py text)).filter
        isStatus := by
    rw [← words_tokens_wordMunch, ← map_word_occurrences 0, List.filter_map,
      ← funext (fullmatch_status py.isWord)]
    rfl
  rw [found, statusesOf_eq, ofWords, withoutIdentifiers,
    maximalWords_blanked blank, List.filter_filter, kept, statuses]

/-! ## Exactly what is extracted, and what is withheld -/

/-- No name of the fact set occurs once the identifiers are blanked. -/
def NoNames (py : PyText) (reply : String) (facts : FactSet) : Prop :=
  ∀ entity ∈ facts.allowedEntities,
    ¬ entity.toList <:+: withoutIdentifiers py reply.toList

theorem extract_eq
    {reply : String} {facts : FactSet} (noNames : NoNames py reply facts) :
    extract py reply facts = tokenised py reply.toList := by
  have clear := @mask_of_clear py facts.allowedEntities
    (withoutIdentifiers py reply.toList) noNames
  simp only [extract, literalsOf, blanked_eq, clear, findall_identifiers,
    findall_numbers, findall_statuses, tokenised]

/-- The violation that a literal without a source is reported as. -/
def violationOf (literal : Literal) : Violation where
  literal := literal.text
  literalClass := literal.kind
  reason := unsourced

/--
Where no name occurs, the checker extracts the literals of the tokeniser, and
the violations are those of them that are not sourced, in the same order.
-/
theorem extraction_exact
    (reply : String) (facts : FactSet) (noNames : NoNames py reply facts) :
    extract py reply facts = tokenised py reply.toList ∧
      ∀ templateSafeLiterals,
        verify py reply facts templateSafeLiterals =
          (safeNumbers py templateSafeLiterals).map fun safe =>
            { literals := tokenised py reply.toList
              violations :=
                ((tokenised py reply.toList).filter fun literal =>
                  !grounded py facts (allowedNumbers facts safe)
                    literal).map violationOf } := by
  constructor
  · exact extract_eq noNames
  · intro templateSafeLiterals
    rw [verify, extract_eq noNames]
    cases safeNumbers py templateSafeLiterals <;> rfl

end

/-- The facts of a user with a name. -/
def namedFacts : FactSet :=
  { twoInvoices with userName := some "Ana" }

theorem namedFacts_noNames :
    NoNames asciiText "inv_9 is Paid: 2_paid 12,50." namedFacts := by
  intro entity isEntity occurs
  have isAna : entity = "Ana" := by
    simpa [FactSet.allowedEntities, namedFacts, twoInvoices] using isEntity
  have letter : 'A' ∈ withoutIdentifiers asciiText
      "inv_9 is Paid: 2_paid 12,50.".toList := by
    apply occurs.subset
    rw [isAna]
    decide
  exact absurd letter (by decide +kernel)

theorem extraction_exact_named :
    verify asciiText "inv_9 is Paid: 2_paid 12,50." namedFacts [] =
      .ok
        { literals :=
            [⟨"inv_9", .identifier⟩, ⟨"2", .number⟩, ⟨"12,50", .number⟩,
              ⟨"Paid", .status⟩]
          violations :=
            [violationOf ⟨"inv_9", .identifier⟩,
              violationOf ⟨"12,50", .number⟩] } :=
  ((extraction_exact _ namedFacts namedFacts_noNames).2 []).trans
    (congrArg Except.ok (by decide +kernel))

end SupportAssistant.Guardrails.Extraction
