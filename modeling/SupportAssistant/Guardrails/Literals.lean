import SupportAssistant.Guardrails.Masking

/-!
# What the patterns take

The identifiers of a text are the whole words with one of the prefixes; a
text of digits and separators holds none of them, and no status word.
-/

namespace SupportAssistant.Guardrails.Literals

open SupportAssistant.Text.Backtracking
open SupportAssistant.Text.Scan
open SupportAssistant.Text.Tokens
open SupportAssistant.Text.WholeWords
open SupportAssistant.Text.Alternation
open SupportAssistant.Enums
open SupportAssistant.Runtime
open SupportAssistant.Guardrails.Grounding
open SupportAssistant.Guardrails.Masking

/-! ## Identifiers -/

/-- A greedy class takes a whole text of its characters. -/
theorem any_runMany1 (accepts : Char → Bool) (text : List Char) :
    ((runMany1 accepts text).any fun after => after.rest.isEmpty) = true ↔
      text ≠ [] ∧ ∀ char ∈ text, accepts char = true := by
  induction text with
  | nil => simp [runMany1]
  | cons char text induction =>
      by_cases accepted : accepts char
      · rw [runMany1, if_pos accepted, List.any_append, Bool.or_eq_true,
          induction]
        cases text with
        | nil => simp [accepted]
        | cons next text => simp [accepted]
      · simp [runMany1, accepted]

variable (py : PyText)

theorem any_identifierRest (text : List Char) (before : Option Char) :
    (((Regex.seq (.charClass (· == '_')) (.many1 py.isWord)).run py.isWord
        ⟨before, text⟩).any fun after => after.rest.isEmpty) = true ↔
      ∃ rest, text = '_' :: rest ∧ rest ≠ [] ∧
        ∀ char ∈ rest, py.isWord char = true := by
  cases text with
  | nil => simp [Regex.run]
  | cons char rest =>
      by_cases isLine : char = '_'
      · subst isLine
        simpa [Regex.run] using any_runMany1 py.isWord rest
      · simp [Regex.run, isLine]

/-- A prefix, an underscore, and at least one more word character. -/
theorem fullmatch_identifier (word : List Char) :
    fullmatch py.isWord (identifierBody py) word = true ↔
      ∃ start ∈ identifierPrefixes, ∃ rest,
        word = start.toList ++ '_' :: rest ∧
          rest ≠ [] ∧ ∀ char ∈ rest, py.isWord char = true := by
  rw [fullmatch, identifierBody, Regex.run, run_anyOf, List.flatMap_map,
    List.flatMap_assoc, List.any_flatMap, List.any_eq_true]
  apply exists_congr
  intro start
  apply and_congr_right
  intro _
  rw [run_spelled]
  by_cases spelt : spells exactly start.toList word = true
  · rcases spells_exactly.mp spelt with ⟨tail, rfl⟩
    rw [if_pos spelt, List.flatMap_singleton, List.drop_left,
      any_identifierRest]
    simp
  · rw [if_neg spelt]
    have other : ∀ rest, word ≠ start.toList ++ rest := by
      rintro rest rfl
      exact spelt (spells_exactly.mpr (List.prefix_append _ _))
    simp [other]

theorem identifierBody_wordOnly :
    WordOnly py.isWord (identifierBody py) := by
  have letters : ∀ word ∈ identifierPrefixes,
      word.toList.all isPlain = true := by
    decide
  refine ⟨?_, ?_, fun _ accepted => accepted⟩
  · apply wordOnly_anyOf
    intro pattern member
    rcases List.mem_map.mp member with ⟨word, isPrefix, rfl⟩
    apply wordOnly_spelled
    intro char inWord next same
    have same : char = next := by simpa [exactly] using same
    rw [← same]
    exact isWord_of_isPlain py
      (List.all_eq_true.mp (letters word isPrefix) char inWord)
  · intro char isLine
    have isLine : char = '_' := by simpa using isLine
    rw [isLine, py.asciiWord '_' (by decide)]
    rfl

/-- The identifiers of a text are whole words of it. -/
theorem scan_identifiers (text : List Char) :
    scan (identifierMatcher py) 0 none text =
      (tokens (wordMunch py.isWord) text).flatMap
        (passed (fullmatch py.isWord (identifierBody py))) := by
  rw [identifierMatcher, identifierPattern,
    scan_delimited (identifierBody_wordOnly py) rfl]
  exact scan_wholeWord py.isWord _ none text (Or.inl rfl)

/-- A text without an underscore has no identifiers. -/
theorem no_identifiers {text : List Char} (noLine : '_' ∉ text) :
    findall (identifierMatcher py) text = [] := by
  rw [findall, scan_identifiers, ← map_word_occurrences 0,
    occurrences_passed, List.map_eq_nil_iff, List.filter_eq_nil_iff]
  intro token found matched
  rcases (fullmatch_identifier py _).mp matched with
    ⟨start, -, rest, isWord, -⟩
  have stands := infix_of_word (word_mem_of_occurrence found)
  rw [source_tokens] at stands
  apply noLine
  apply stands.subset
  rw [isWord]
  simp

/-! ## Texts of digits and separators -/

/-- Every character is a digit or a separator. -/
def Numeric (text : List Char) : Prop :=
  ∀ char ∈ text, py.isDigit char = true ∨ isSeparator char = true

variable {py}

/-- An ASCII letter or an underscore does not stand in such a text. -/
theorem Numeric.not_mem
    {text : List Char} (numeric : Numeric py text) {char : Char}
    (isAscii : char.toNat < 128) (notDigit : char.isDigit = false)
    (notSeparator : isSeparator char = false) :
    char ∉ text := by
  intro member
  rcases numeric char member with digit | separator
  · rw [PyText.isDigit, py.ascii char isAscii] at digit
    simp [notDigit] at digit
  · rw [notSeparator] at separator
    exact Bool.noConfusion separator

theorem Numeric.no_identifiers
    {text : List Char} (numeric : Numeric py text) :
    findall (identifierMatcher py) text = [] :=
  Literals.no_identifiers py
    (numeric.not_mem (by decide) (by decide) (by decide))

/-- The second letter of a status word, in either case. -/
def secondLetters : List Char :=
  ['a', 'A', 'e', 'E', 'o', 'O', 'n', 'N']

theorem secondLetter_of_status
    {word : List Char}
    (matched : fullmatch py.isWord statusBody word = true) :
    ∃ char ∈ word, char ∈ secondLetters := by
  rcases (fullmatch_alternation ..).mp matched with
    ⟨status, isStatus, spelt, -⟩
  have second : ∃ first letter rest, status = first :: letter :: rest ∧
      letter ∈ ['a', 'e', 'o', 'n'] := by
    simp only [statusWords, InvoiceStatus.members, SessionStatus.members,
      List.map_cons, List.map_nil, List.cons_append, List.nil_append,
      List.mem_cons, List.not_mem_nil, or_false] at isStatus
    rcases isStatus with rfl | rfl | rfl | rfl | rfl | rfl <;>
      exact ⟨_, _, _, rfl, by decide⟩
  rcases second with ⟨first, letter, rest, rfl, isLetter⟩
  rcases word with _ | ⟨one, _ | ⟨two, word⟩⟩
  · simp [spells] at spelt
  · simp [spells] at spelt
  · refine ⟨two, by simp, ?_⟩
    have same : ignoreCase letter two = true := by
      simp only [spells, Bool.and_eq_true] at spelt
      exact spelt.2.1
    simp only [List.mem_cons, List.not_mem_nil, or_false] at isLetter
    rcases isLetter with rfl | rfl | rfl | rfl <;>
      · simp [ignoreCase] at same
        rcases same with rfl | rfl <;> decide

theorem Numeric.no_statuses
    {text : List Char} (numeric : Numeric py text) :
    statusesOf py text = [] := by
  rw [statusesOf_eq, List.filter_eq_nil_iff]
  intro token found matched
  rcases secondLetter_of_status matched with ⟨char, inWord, isLetter⟩
  have letters : (secondLetters.all fun char =>
      decide (char.toNat < 128 ∧ char.isDigit = false ∧
        isSeparator char = false)) = true := by
    decide
  rcases of_decide_eq_true (List.all_eq_true.mp letters char isLetter) with
    ⟨isAscii, notDigit, notSeparator⟩
  have stands := infix_of_word (word_mem_of_occurrence found)
  rw [source_tokens] at stands
  exact numeric.not_mem isAscii notDigit notSeparator
    (stands.subset inWord)

theorem Numeric.blanked_eq
    {text : List Char} (numeric : Numeric py text) :
    blanked py (String.ofList text) = text := by
  rw [blanked, String.toList_ofList]
  exact sub_of_no_match numeric.no_identifiers [' ']

end SupportAssistant.Guardrails.Literals
