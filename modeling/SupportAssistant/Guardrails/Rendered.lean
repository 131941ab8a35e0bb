import Mathlib.Data.List.Infix
import SupportAssistant.Guardrails.Literals
import SupportAssistant.Llm.Filled

/-!
# Replies that read as their facts

The prose of a template states nothing but what the template implies, so the
checker passes a rendered reply exactly when the fields that were filled in
read as facts.  They need not: an amount is written with a sign that is not
read again, and a name may hold anything.
-/

namespace SupportAssistant.Guardrails.Rendered

open SupportAssistant.Numeric.DecimalFloat
open SupportAssistant.Text.Backtracking
open SupportAssistant.Text.Scan
open SupportAssistant.Text.Tokens
open SupportAssistant.Text.WholeWords
open SupportAssistant.Text.Alternation
open SupportAssistant.Text.Numerals
open SupportAssistant.Text.Assembly
open SupportAssistant.Enums
open SupportAssistant.Runtime
open SupportAssistant.Domain
open SupportAssistant.Guardrails.Facts
open SupportAssistant.Guardrails.Grounding
open SupportAssistant.Guardrails.Masking
open SupportAssistant.Guardrails.Literals
open SupportAssistant.Llm.Templates
open SupportAssistant.Llm.Filled

/-! ## What the prose of a template states -/

/-- The statuses that the prose of a template implies. -/
def impliedStatuses : ReplyTemplate → List String
  | .billingAllPaid => ["paid"]
  | .billingFailed => ["failed"]
  | .billingPending => ["pending"]
  | .sessionCompleted => ["completed"]
  | .sessionInterrupted => []

/-- The digits in the prose of a template. -/
def statedDigits : ReplyTemplate → List Char
  | .billingPending => ['3']
  | _ => []

/-- ASCII without an underscore, and without other digits. -/
def plainLetters (digits : List Char) (text : List Char) : Bool :=
  text.all fun char =>
    decide (char.toNat < 128) && char != '_' &&
      (!char.isDigit || digits.contains char)

/-- Every digit is followed by a gap. -/
def loneDigits (text : List Char) : Bool :=
  (text.zip text.tail).all fun pair => !pair.1.isDigit || isGap pair.2

/-- No other status can be read in any part of the text. -/
def statesOnly (statuses : List String) (text : List Char) : Bool :=
  statusWords.all fun status =>
    statuses.contains status ||
      (text.map Char.toLower).tails.all fun tail =>
        !status.toList.isPrefixOf tail

def plain (name : ReplyTemplate) (text : List Char) : Bool :=
  plainLetters (statedDigits name) text && loneDigits text &&
    statesOnly (impliedStatuses name) text

theorem plain_specFor (py : PyText) (name : ReplyTemplate) :
    AllProse (plain name) (specFor py name).body := by
  cases name <;>
    · repeat' first
        | apply AllProse.text
        | apply AllProse.field
        | apply AllProse.nil
      all_goals decide +kernel

/-! ## What the checker reads in prose -/

theorem mem_zip_tail {first second : Char} {text : List Char}
    (together : [first, second] <:+: text) :
    (first, second) ∈ text.zip text.tail := by
  rcases together with ⟨front, back, rfl⟩
  induction front with
  | nil => simp
  | cons char front induction =>
      rw [List.cons_append, List.cons_append, List.tail_cons]
      cases front with
      | nil => simp
      | cons next front =>
          rw [List.cons_append, List.cons_append] at induction ⊢
          rw [List.zip_cons_cons]
          exact List.mem_cons_of_mem _ induction

/-- A numeral begins with a digit, and digits and separators follow. -/
theorem exists_of_isNumeral
    {isDigit isSeparator : Char → Bool} {word : List Char}
    (isNumeral : IsNumeral isDigit isSeparator word) :
    ∃ first rest, word = first :: rest ∧ isDigit first = true ∧
      ∀ char ∈ rest, isDigit char = true ∨ isSeparator char = true := by
  cases isNumeral with
  | digits nonempty areDigits =>
      rcases List.exists_cons_of_ne_nil nonempty with ⟨first, rest, rfl⟩
      exact ⟨first, rest, rfl, areDigits first List.mem_cons_self,
        fun char member =>
          Or.inl (areDigits char (List.mem_cons_of_mem _ member))⟩
  | @fraction whole fraction separator nonempty areDigits separates more =>
      rcases List.exists_cons_of_ne_nil nonempty with ⟨first, rest, rfl⟩
      refine ⟨first, _, rfl, areDigits first List.mem_cons_self, ?_⟩
      intro char member
      rcases List.mem_append.mp member with inWhole | inFraction
      · exact Or.inl (areDigits char (List.mem_cons_of_mem _ inWhole))
      · rcases List.mem_cons.mp inFraction with rfl | inFraction
        · exact Or.inr separates
        · exact Or.inl (more char inFraction)

/-- In ASCII, ignoring case is lowering it. -/
theorem map_toLower_of_spells
    {status word : List Char}
    (lowered : ∀ letter ∈ status,
      letter.toLower = letter ∧ letter.toUpper.toLower = letter)
    (isAscii : ∀ char ∈ word, char.toNat < 128)
    (spelt : spells ignoreCase status word = true)
    (length : status.length = word.length) :
    word.map Char.toLower = status := by
  induction status generalizing word with
  | nil =>
      rw [List.eq_nil_of_length_eq_zero length.symm]
      rfl
  | cons letter status induction =>
      cases word with
      | nil => simp at length
      | cons char word =>
          rw [List.forall_mem_cons] at lowered isAscii
          rw [spells, Bool.and_eq_true] at spelt
          have rest := induction lowered.2 isAscii.2 spelt.2 (by
            rw [List.length_cons, List.length_cons] at length
            omega)
          have same : char = letter ∨ char = letter.toUpper := by
            have ascii := isAscii.1
            have matched := spelt.1
            simp only [ignoreCase, Bool.or_eq_true, Bool.and_eq_true,
              beq_iff_eq] at matched
            rcases matched with
              (((isLetter | isUpper) | ⟨-, code⟩) | ⟨-, code⟩) | ⟨-, code⟩
            · exact Or.inl isLetter
            · exact Or.inr isUpper
            -- the other matches are not in ASCII
            all_goals omega
          rw [List.map_cons, rest]
          rcases same with rfl | rfl
          · rw [lowered.1.1]
          · rw [lowered.1.2]

section

variable {py : PyText} {name : ReplyTemplate} {text word : List Char}

theorem ascii_of_plain (isPlain : plain name text = true) :
    ∀ char ∈ text, char.toNat < 128 := by
  intro char member
  simp only [plain, Bool.and_eq_true] at isPlain
  have letters := List.all_eq_true.mp isPlain.1.1 char member
  simp only [Bool.and_eq_true, decide_eq_true_eq] at letters
  exact letters.1.1

theorem no_line_of_plain (isPlain : plain name text = true) :
    '_' ∉ text := by
  intro member
  simp only [plain, Bool.and_eq_true] at isPlain
  have letters := List.all_eq_true.mp isPlain.1.1 '_' member
  simp at letters

/-- A number in the prose is one of its digits. -/
theorem number_of_plain
    (isPlain : plain name text = true) (stands : word <:+: text)
    (isNumeral : IsNumeral py.isDigit isSeparator word) :
    ∃ digit ∈ statedDigits name, word = [digit] := by
  have isAscii := ascii_of_plain isPlain
  simp only [plain, Bool.and_eq_true] at isPlain
  rcases exists_of_isNumeral isNumeral with
    ⟨first, rest, rfl, isDigit, follow⟩
  have member : first ∈ text := stands.subset List.mem_cons_self
  rw [PyText.isDigit, py.ascii first (isAscii first member)] at isDigit
  have isDigit : first.isDigit = true := by
    by_contra notDigit
    simp [notDigit] at isDigit
  have letters := List.all_eq_true.mp isPlain.1.1 first member
  simp only [Bool.and_eq_true, isDigit, Bool.not_true, Bool.false_or,
    List.contains_iff_mem] at letters
  refine ⟨first, letters.2, ?_⟩
  cases rest with
  | nil => rfl
  | cons next rest =>
      -- what follows a digit of the prose continues no number
      have together : [first, next] <:+: text :=
        (List.prefix_append [first, next] rest).isInfix.trans stands
      have gap := List.all_eq_true.mp isPlain.1.2 _ (mem_zip_tail together)
      simp only [isDigit, Bool.not_true, Bool.false_or] at gap
      rcases follow next List.mem_cons_self with digit | separator
      · rw [isDigit_of_notWord py (isWord_gap py gap)] at digit
        exact Bool.noConfusion digit
      · rw [isSeparator_gap gap] at separator
        exact Bool.noConfusion separator

/-- A status in the prose is one that it implies. -/
theorem status_of_plain
    (isPlain : plain name text = true) (stands : word <:+: text)
    (matched : fullmatch py.isWord statusBody word = true) :
    py.lower (String.ofList word) ∈ impliedStatuses name := by
  have isAscii : ∀ char ∈ word, char.toNat < 128 := fun char member =>
    ascii_of_plain isPlain char (stands.subset member)
  simp only [plain, Bool.and_eq_true] at isPlain
  have letters : ∀ status ∈ statusWords,
      (status.toList.all fun letter =>
        decide (letter.toLower = letter ∧
          letter.toUpper.toLower = letter)) = true := by
    decide
  rcases (fullmatch_alternation ..).mp matched with
    ⟨_, isStatus, spelt, length⟩
  rcases List.mem_map.mp isStatus with ⟨status, isWord, rfl⟩
  have lowered := map_toLower_of_spells
    (fun letter member => of_decide_eq_true
      (List.all_eq_true.mp (letters status isWord) letter member))
    isAscii spelt length
  have reads : py.lower (String.ofList word) = status := by
    rw [py.asciiLower _ (by simpa using isAscii), String.toList_ofList,
      lowered, String.ofList_toList]
  rw [reads]
  have occurs : status.toList <:+: text.map Char.toLower := by
    rw [← lowered]
    exact stands.map Char.toLower
  rcases List.infix_iff_prefix_suffix.mp occurs with ⟨tail, isHead, isTail⟩
  have stated := List.all_eq_true.mp isPlain.2 status isWord
  rcases Bool.or_eq_true_iff.mp stated with implied | absent
  · exact List.contains_iff_mem.mp implied
  · have notHead := List.all_eq_true.mp absent tail
      ((List.mem_tails _ _).mpr isTail)
    rw [List.isPrefixOf_iff_prefix.mpr isHead] at notHead
    exact Bool.noConfusion notHead

end

/-! ## What the cited fields read as -/

/-- The fields of a reply: the name, and those of the record it cites. -/
def fieldsOf (facts : FactSet) (name : ReplyTemplate) : Context :=
  let user := facts.userName.getD ""
  match name with
  | .billingAllPaid => [("name", user)]
  | .billingFailed =>
      (facts.invoices.find? (·.status = .failed)).elim []
        (invoiceContext user)
  | .billingPending =>
      (facts.invoices.find? (·.status = .pending)).elim []
        (invoiceContext user)
  | .sessionCompleted => facts.sessions.head?.elim [] (sessionContext user)
  | .sessionInterrupted => facts.sessions.head?.elim [] (sessionContext user)

section

variable (py : PyText) (facts : FactSet) (name : ReplyTemplate)

/-- The reply in parts. -/
def partsOf : List Part :=
  filled (valueOf (fieldsOf facts name)) (specFor py name).body

/-- The parts with the identifiers blanked in the fields. -/
def blankedParts : List Part :=
  filled
    (fun field =>
      sub (identifierMatcher py) [' '] (valueOf (fieldsOf facts name) field))
    (specFor py name).body

/-- What is left of the parts when the names are blanked as well. -/
def leftOver : List Part :=
  remaining (blankedParts py facts name)
    (scan (maskMatcher py facts.allowedEntities) 0 none
      (assembled (blankedParts py facts name)))

/-- The numbers that the template may state. -/
def safeOf : List Decimal :=
  (specFor py name).templateSafeLiterals.filterMap (asDecimal py)

/--
The fields read as facts: an identifier in them is one of the facts, and what
is left of them, when identifiers and names are blanked, holds no other
numbers and statuses than the facts do.
-/
structure Legible : Prop where
  identifiers : ∀ text, .field text ∈ partsOf py facts name →
    ∀ word ∈ findall (identifierMatcher py) text,
      String.ofList word ∈ facts.allowedIdentifiers
  numbers : ∀ text, .field text ∈ leftOver py facts name →
    ∀ number ∈ numbersOf py text,
      NumberSourced py facts (safeOf py name) number.word
  statuses : ∀ text, .field text ∈ leftOver py facts name →
    ∀ status ∈ statusesOf py text, StatusSourced py facts status.word

end

/-! ## What the checker reads in a reply -/

section

variable {py : PyText} {facts : FactSet} {name : ReplyTemplate}

theorem fieldsOf_eq
    {context : Context}
    (selected : (specFor py name).context facts = .ok context) :
    context = fieldsOf facts name := by
  have ofInvoice : ∀ status, invoiceWith py status facts = .ok context →
      context = (facts.invoices.find? (·.status = status)).elim []
        (invoiceContext (facts.userName.getD "")) := by
    intro status chosen
    rcases invoiceWith_ok chosen with ⟨user, invoice, named, found, rfl⟩
    rw [found, named.1]
    rfl
  have ofSession : latestSession py facts = .ok context →
      context = facts.sessions.head?.elim []
        (sessionContext (facts.userName.getD "")) := by
    intro chosen
    rcases latestSession_ok chosen with ⟨user, session, named, first, rfl⟩
    rw [first, named.1]
    rfl
  cases name with
  | billingAllPaid =>
      rcases nameOnly_ok selected with ⟨user, named, rfl⟩
      rw [fieldsOf, named.1]
      rfl
  | billingFailed => exact ofInvoice .failed selected
  | billingPending => exact ofInvoice .pending selected
  | sessionCompleted => exact ofSession selected
  | sessionInterrupted => exact ofSession selected

/-- A rendered reply is made of its parts. -/
theorem toList_of_render
    {reply : String}
    (rendered : (specFor py name).render py facts = .ok reply) :
    reply.toList = assembled (partsOf py facts name) := by
  rcases render_ok rendered with ⟨context, selected, formatted⟩
  rw [partsOf, ← fieldsOf_eq selected]
  exact format_ok formatted

/-- The identifiers of an assembled text are those of its parts. -/
theorem scan_assembled
    {parts : List Part} (framed : Framed (wordMunch py.isWord) parts) :
    scan (identifierMatcher py) 0 none (assembled parts) =
      parts.flatMap fun part =>
        scan (identifierMatcher py) 0 none part.text := by
  rw [scan_identifiers,
    tokens_assembled (wordMunch_stable py.isWord) framed, List.flatMap_assoc]
  apply List.flatMap_congr
  intro part _
  rw [scan_identifiers]

theorem framed_partsOf :
    Framed (wordMunch py.isWord) (partsOf py facts name) :=
  framed_words py _ name

theorem no_identifiers_in_prose
    {text : String} (isProse : .text text ∈ (specFor py name).body) :
    findall (identifierMatcher py) text.toList = [] :=
  no_identifiers py
    (no_line_of_plain ((plain_specFor py name).passes isProse))

theorem forall_identifiers_iff {P : List Char → Prop} :
    (∀ word ∈ findall (identifierMatcher py)
        (assembled (partsOf py facts name)), P word) ↔
      ∀ text, .field text ∈ partsOf py facts name →
        ∀ word ∈ findall (identifierMatcher py) text, P word := by
  have split : findall (identifierMatcher py)
      (assembled (partsOf py facts name)) =
        (partsOf py facts name).flatMap fun part =>
          findall (identifierMatcher py) part.text := by
    rw [findall, scan_assembled framed_partsOf, words,
      List.filterMap_flatMap]
    rfl
  rw [split]
  constructor
  · intro all text isField word found
    exact all word (List.mem_flatMap.mpr ⟨_, isField, found⟩)
  · intro all word found
    rcases List.mem_flatMap.mp found with ⟨part, isPart, inPart⟩
    rcases List.mem_map.mp isPart with ⟨segment, isSegment, rfl⟩
    cases segment with
    | text prose =>
        have none := no_identifiers_in_prose isSegment
        rw [filledSegment, Part.text, none] at inPart
        simp at inPart
    | field field => exact all _ isPart word inPart

/-- Blanking the identifiers of a reply blanks those of its fields. -/
theorem blanked_parts :
    sub (identifierMatcher py) [' '] (assembled (partsOf py facts name)) =
      assembled (blankedParts py facts name) := by
  rw [sub, scan_assembled framed_partsOf, replaced,
    List.flatMap_assoc, assembled, partsOf, blankedParts, filled, filled,
    List.flatMap_map, List.flatMap_map]
  apply List.flatMap_congr
  intro segment isSegment
  cases segment with
  | text prose =>
      exact sub_of_no_match (no_identifiers_in_prose isSegment) [' ']
  | field field => rfl

theorem forall_numbers_iff {text : List Char} {P : List Char → Prop} :
    (∀ number ∈ numbersOf py text, P number.word) ↔
      ∀ word ∈ words (tokens (numeralMunch py.isDigit isSeparator) text),
        P word := by
  rw [numbersOf_eq, ← map_word_occurrences 0, List.forall_mem_map]

theorem forall_statuses_iff {text : List Char} {P : List Char → Prop} :
    (∀ status ∈ statusesOf py text, P status.word) ↔
      ∀ word ∈ words (tokens (wordMunch py.isWord) text),
        fullmatch py.isWord statusBody word = true → P word := by
  rw [statusesOf_eq, ← map_word_occurrences 0, List.forall_mem_map]
  simp only [List.mem_filter, and_imp]

/-- The tokens left in a reply are those left in its parts. -/
theorem words_left
    {munch : Munch} (stable : Stable munch) (separates : Separates munch ' ')
    (framed : Framed munch (blankedParts py facts name)) :
    words (tokens munch
        (without py facts.allowedEntities
          (assembled (blankedParts py facts name)))) =
      (leftOver py facts name).flatMap fun part =>
        words (tokens munch part.text) := by
  rw [without_eq]
  apply words_tokens_remaining stable separates framed
  rw [source_scan, List.drop_zero]

/-- What is left of the prose is a stretch of the template's own. -/
theorem prose_left
    {text : List Char} (isLeft : .prose text ∈ leftOver py facts name) :
    ∃ prose : List Char, plain name prose = true ∧ text <:+: prose := by
  rcases exists_cut isLeft with ⟨whole, isPart, skip, count, isCut⟩
  rcases List.mem_map.mp isPart with ⟨segment, isSegment, rfl⟩
  cases segment with
  | text prose =>
      refine ⟨prose.toList, (plain_specFor py name).passes isSegment, ?_⟩
      rw [Part.prose.inj isCut]
      exact (List.take_prefix _ _).isInfix.trans
        (List.drop_suffix _ _).isInfix
  | field field => simp [filledSegment, Part.cut] at isCut

end

/-! ## Exactly when a rendered reply passes -/

section

variable {py : PyText} {facts : FactSet} {name : ReplyTemplate}

theorem asDecimal_three :
    ∃ value, asDecimal py "3" = some (.finite value) := by
  have isNumeral : IsNumeral py.isDigit isSeparator ['3'] := by
    apply IsNumeral.digits (by simp)
    intro char member
    rw [List.mem_singleton.mp member, PyText.isDigit,
      py.ascii '3' (by decide)]
    rfl
  rcases asDecimal_isNumeral py isNumeral with ⟨coefficient, exponent, read⟩
  exact ⟨_, read⟩

theorem safeNumbers_specFor :
    safeNumbers py (specFor py name).templateSafeLiterals =
      .ok (safeOf py name) := by
  cases name with
  | billingPending =>
      rcases @asDecimal_three py with ⟨value, read⟩
      simp [safeNumbers, safeOf, specFor, read]
  | _ => rfl

/-- The digits of the prose are among the safe literals. -/
theorem digit_sourced {digit : Char} (stated : digit ∈ statedDigits name) :
    NumberSourced py facts (safeOf py name) [digit] := by
  cases name with
  | billingPending =>
      rcases @asDecimal_three py with ⟨value, read⟩
      cases List.mem_singleton.mp stated
      refine ⟨_, read, decimalIsIn_iff.mpr ⟨value, ?_, rfl⟩⟩
      apply List.mem_append_right
      simp [safeOf, specFor, read]
  | _ => simp [statedDigits] at stated

theorem numbers_left_iff :
    (∀ number ∈ numbersOf py (without py facts.allowedEntities
        (assembled (blankedParts py facts name))),
      NumberSourced py facts (safeOf py name) number.word) ↔
      ∀ text, .field text ∈ leftOver py facts name →
        ∀ number ∈ numbersOf py text,
          NumberSourced py facts (safeOf py name) number.word := by
  rw [forall_numbers_iff, words_left numeralMunch_stable
    (blank_separates_numerals py) (framed_numerals py _ name)]
  simp only [forall_numbers_iff]
  constructor
  · intro all text isLeft word found
    exact all word (List.mem_flatMap.mpr ⟨_, isLeft, found⟩)
  · intro all word found
    rcases List.mem_flatMap.mp found with ⟨part, isLeft, inPart⟩
    cases part with
    | field text => exact all text isLeft word inPart
    | prose text =>
        rcases prose_left isLeft with ⟨prose, isPlain, stands⟩
        have inText := infix_of_word inPart
        rw [source_tokens] at inText
        rcases number_of_plain isPlain (inText.trans stands)
          (isNumeral_of_token inPart) with ⟨digit, stated, rfl⟩
        exact digit_sourced stated

theorem statuses_left_iff
    (fits : ∀ status ∈ impliedStatuses name,
      status ∈ facts.allowedStatuses) :
    (∀ status ∈ statusesOf py (without py facts.allowedEntities
        (assembled (blankedParts py facts name))),
      StatusSourced py facts status.word) ↔
      ∀ text, .field text ∈ leftOver py facts name →
        ∀ status ∈ statusesOf py text,
          StatusSourced py facts status.word := by
  rw [forall_statuses_iff, words_left (wordMunch_stable py.isWord)
    (blank_separates_words py) (framed_words py _ name)]
  simp only [forall_statuses_iff]
  constructor
  · intro all text isLeft word found
    exact all word (List.mem_flatMap.mpr ⟨_, isLeft, found⟩)
  · intro all word found matched
    rcases List.mem_flatMap.mp found with ⟨part, isLeft, inPart⟩
    cases part with
    | field text => exact all text isLeft word inPart matched
    | prose text =>
        rcases prose_left isLeft with ⟨prose, isPlain, stands⟩
        have inText := infix_of_word inPart
        rw [source_tokens] at inText
        exact fits _
          (status_of_plain isPlain (inText.trans stands) matched)

/--
Where the template fits the facts, its reply passes the checker exactly when
the fields read as facts.
-/
theorem verified_iff
    {reply : String}
    (fits : ∀ status ∈ impliedStatuses name, status ∈ facts.allowedStatuses)
    (rendered : (specFor py name).render py facts = .ok reply) :
    (∃ literals,
        verify py reply facts (specFor py name).templateSafeLiterals =
          .ok ⟨literals, []⟩) ↔
      Legible py facts name := by
  have parts := toList_of_render rendered
  have passes : (∃ literals,
        verify py reply facts (specFor py name).templateSafeLiterals =
          .ok ⟨literals, []⟩) ↔
      ∀ literal ∈ extract py reply facts,
        grounded py facts (allowedNumbers facts (safeOf py name)) literal =
          true := by
    constructor
    · rintro ⟨literals, verified⟩
      rcases verify_ok verified with ⟨safe, safeOk, -, sourced⟩
      cases Except.ok.inj (safeOk.symm.trans safeNumbers_specFor)
      exact sourced.mp rfl
    · intro sourced
      exact ⟨_, verify_of_grounded safeNumbers_specFor sourced⟩
  rw [passes, forall_extract_iff py (fun _ => Iff.rfl), blanked, parts,
    blanked_parts]
  simp only [grounded_number_iff]
  constructor
  · rintro ⟨identifiers, numbers, statuses⟩
    exact
      { identifiers := forall_identifiers_iff.mp fun word found =>
          List.contains_iff_mem.mp (identifiers word found)
        numbers := numbers_left_iff.mp numbers
        statuses := (statuses_left_iff fits).mp fun status found =>
          List.contains_iff_mem.mp (statuses status found) }
  · intro legible
    refine ⟨?_, numbers_left_iff.mpr legible.numbers, ?_⟩
    · intro word found
      exact List.contains_iff_mem.mpr
        (forall_identifiers_iff.mpr legible.identifiers word found)
    · intro status found
      exact List.contains_iff_mem.mpr
        ((statuses_left_iff fits).mpr legible.statuses status found)

end

/-! ## What a whole amount reads as -/

section

variable {py : PyText}

theorem isGroup_of_isDigit
    {text : List Char} (nonempty : text ≠ [])
    (all : ∀ char ∈ text, char.isDigit = true) :
    IsGroup py.isDigit text where
  nonempty := nonempty
  areDigits := isDigits_of_isDigit py.toAlphabet all

theorem magnitude_groups (value : Finite) :
    ∃ whole fraction, value.magnitude 2 = whole ++ '.' :: fraction ∧
      IsGroup py.isDigit whole ∧ IsGroup py.isDigit fraction := by
  have small : value.units 2 % 10 ^ 2 < 10 ^ 2 :=
    Nat.mod_lt _ (by positivity)
  refine ⟨_, _, rfl, ?_, ?_⟩
  · apply isGroup_of_isDigit Nat.toDigits_ne_nil
    intro char member
    exact isDigit_toDigits member
  · apply isGroup_of_isDigit
    · apply List.ne_nil_of_length_pos
      rw [length_padded small (by decide)]
      decide
    · intro char member
      exact isDigit_padded member

/-- The sign that an amount is written with. -/
def signOf (value : Finite) : List Char :=
  if value.negative then ['-'] else []

theorem toList_formatAmount (value : Finite) :
    (formatAmount value).toList = signOf value ++ value.magnitude 2 := by
  rw [formatAmount, String.toList_ofList,
    Finite.fixed_eq_magnitude (by decide), signOf]

/-- The digits of an amount are one token, whatever follows that is no digit. -/
theorem tokens_magnitude
    (value : Finite) {back : List Char}
    (stops : ∀ char later, back = char :: later → py.isDigit char = false) :
    tokens (numeralMunch py.isDigit isSeparator)
        (value.magnitude 2 ++ back) =
      .hit (value.magnitude 2) ::
        tokens (numeralMunch py.isDigit isSeparator) back := by
  have apart : ∀ char, isSeparator char = true → py.isDigit char = false := by
    intro char separates
    exact isDigit_of_notWord py (isWord_separator py separates)
  rcases @magnitude_groups py value with
    ⟨whole, fraction, isMagnitude, isWhole, isFraction⟩
  rw [isMagnitude]
  exact tokens_two_groups apart isWhole isFraction rfl stops

/-- Behind its sign, an amount is one token. -/
theorem tokens_amount
    (value : Finite) {back : List Char}
    (stops : ∀ char later, back = char :: later → py.isDigit char = false) :
    tokens (numeralMunch py.isDigit isSeparator)
        ((formatAmount value).toList ++ back) =
      (signOf value).map .kept ++
        .hit (value.magnitude 2) ::
          tokens (numeralMunch py.isDigit isSeparator) back := by
  rw [toList_formatAmount, List.append_assoc, signOf]
  split
  · have notDigit : py.isDigit '-' = false := by
      rw [PyText.isDigit, py.ascii '-' (by decide)]
      rfl
    have separates := @numeralMunch_separates py.isDigit isSeparator '-'
      notDigit rfl
    have split := tokens_separated numeralMunch_stable separates []
      (value.magnitude 2 ++ back)
    rw [List.nil_append, tokens_nil, List.nil_append] at split
    rw [List.singleton_append, split, tokens_magnitude value stops]
    rfl
  · rw [List.nil_append, tokens_magnitude value stops]
    rfl

theorem asDecimal_magnitude (value : Finite) :
    asDecimal py (String.ofList (value.magnitude 2)) =
      some (.finite ⟨false, value.units 2, -2⟩) := by
  rcases @magnitude_groups py value with
    ⟨whole, fraction, isMagnitude, isWhole, isFraction⟩
  have read := Finite.ofText_magnitude py.toAlphabet (by decide : 0 < 2) value
  rw [asDecimal, String.toList_ofList, isMagnitude, List.map_append,
    List.map_cons, comma_map_digits py isWhole.areDigits,
    comma_map_digits py isFraction.areDigits]
  rw [isMagnitude] at read
  exact read

end

end SupportAssistant.Guardrails.Rendered
