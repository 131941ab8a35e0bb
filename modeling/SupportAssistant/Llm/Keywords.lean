import SupportAssistant.Guardrails.Masking
import SupportAssistant.Llm.Fake
import SupportAssistant.Runtime.Ascii
import SupportAssistant.Text.MaximalWords

/-!
# Which keywords the classifier finds

The two keyword patterns take the keywords that are maximal words of the
lower-cased text, although some keywords begin with others.  So the
classification depends on nothing but which keywords are words of the text.
-/

namespace SupportAssistant.Llm.Keywords

open SupportAssistant.Text.Backtracking
open SupportAssistant.Text.Scan
open SupportAssistant.Text.WholeWords
open SupportAssistant.Text.Alternation
open SupportAssistant.Text.MaximalWords
open SupportAssistant.Runtime
open SupportAssistant.Runtime.Ascii
open SupportAssistant.Domain
open SupportAssistant.Guardrails.Masking
open SupportAssistant.Llm.Fake

/-! ## The specification -/

/-- The text that is searched for keywords. -/
def searched (py : PyText) (ticket : Ticket) : List Char :=
  (py.lower (ticket.subject ++ "\n" ++ ticket.body)).toList

/-- The keyword is a word of the lower-cased subject and body. -/
def Occurs (py : PyText) (ticket : Ticket) (keyword : String) : Prop :=
  keyword.toList ∈ maximalWords py.isWord (searched py ticket)

instance (py : PyText) (ticket : Ticket) :
    DecidablePred (Occurs py ticket) :=
  fun keyword =>
    inferInstanceAs (Decidable
      (keyword.toList ∈ maximalWords py.isWord (searched py ticket)))

/-- The keywords that occur, in alphabetical order. -/
def occurring (py : PyText) (ticket : Ticket) (keywords : List String) :
    List String :=
  (keywords.filter fun keyword => Occurs py ticket keyword).insertionSort
    (· ≤ ·)

/-- The intent with more of its keywords, and these; or neither. -/
def specified (py : PyText) (ticket : Ticket) : Classification :=
  let billing := occurring py ticket billingKeywords
  let charging := occurring py ticket chargingKeywords
  if billing.length > charging.length then
    { intent := .billingQuestion, matchedKeywords := billing }
  else if charging.length > billing.length then
    { intent := .chargingSessionProblem, matchedKeywords := charging }
  else { intent := .unknown, matchedKeywords := [] }

/-! ## What the pattern takes -/

/-- An alternation in any order matches the words one of its texts spells. -/
theorem fullmatch_anyOf
    (isWord : Char → Bool) (same : Char → Char → Bool)
    (texts : List (List Char)) (word : List Char) :
    fullmatch isWord (anyOf (texts.map (spelled same))) word = true ↔
      ∃ text ∈ texts, spells same text word = true ∧
        text.length = word.length := by
  rw [fullmatch, run_anyOf, List.flatMap_map, List.any_flatMap,
    List.any_eq_true]
  apply exists_congr
  intro text
  apply and_congr_right
  intro _
  rw [run_spelled]
  by_cases spelt : spells same text word = true
  · rw [if_pos spelt, List.any_cons, List.any_nil, Bool.or_false,
      List.isEmpty_iff, List.drop_eq_nil_iff]
    constructor
    · intro long
      exact ⟨spelt, Nat.le_antisymm (spells_length_le spelt) long⟩
    · rintro ⟨-, length⟩
      exact length.ge
  · rw [if_neg spelt]
    simp [spelt]

theorem fullmatch_keywords
    (isWord : Char → Bool) (keywords : List String) (word : List Char) :
    fullmatch isWord
        (anyOf (keywords.map fun keyword => spelled exactly keyword.toList))
        word =
      keywords.contains (String.ofList word) := by
  have asTexts : (keywords.map fun keyword =>
      spelled exactly keyword.toList) =
        (keywords.map String.toList).map (spelled exactly) := by
    rw [List.map_map]
    rfl
  rw [asTexts, Bool.eq_iff_iff, fullmatch_anyOf, List.contains_iff_mem]
  constructor
  · rintro ⟨_, isText, spelt, length⟩
    rcases List.mem_map.mp isText with ⟨keyword, isKeyword, rfl⟩
    rw [← (spells_exactly.mp spelt).eq_of_length length,
      String.ofList_toList]
    exact isKeyword
  · intro isKeyword
    refine ⟨word, List.mem_map.mpr ⟨_, isKeyword, String.toList_ofList⟩, ?_,
      rfl⟩
    exact spells_exactly.mpr (List.prefix_refl word)

variable (py : PyText)

/-- A pattern of plain keywords takes the words that are keywords. -/
theorem findall_keywords
    {keywords : List String}
    (plain : (keywords.all fun keyword =>
      !keyword.toList.isEmpty && keyword.toList.all isPlain) = true)
    (text : List Char) :
    findall ((keywordPattern keywords).matcher py.isWord) text =
      (maximalWords py.isWord text).filter fun word =>
        keywords.contains (String.ofList word) := by
  have each : ∀ keyword ∈ keywords,
      keyword.toList ≠ [] ∧ ∀ char ∈ keyword.toList, isPlain char = true := by
    intro keyword isKeyword
    have both := List.all_eq_true.mp plain keyword isKeyword
    rw [Bool.and_eq_true, Bool.not_eq_true', List.isEmpty_eq_false_iff,
      List.all_eq_true] at both
    exact both
  rw [findall, keywordPattern, scan_delimited, ← words_cutAt,
    scan_wholeWord _ _ _ _ (Or.inl rfl)]
  · rw [cutAt, funext (fullmatch_keywords py.isWord keywords)]
  · apply wordOnly_anyOf
    intro pattern member
    rcases List.mem_map.mp member with ⟨keyword, isKeyword, rfl⟩
    apply wordOnly_spelled
    intro char inKeyword next same
    have same : char = next := by simpa [exactly] using same
    rw [← same]
    exact isWord_of_isPlain py ((each keyword isKeyword).2 char inKeyword)
  · apply consumes_anyOf
    intro pattern member
    rcases List.mem_map.mp member with ⟨keyword, isKeyword, rfl⟩
    cases letters : keyword.toList with
    | nil => exact absurd letters (each keyword isKeyword).1
    | cons char rest => rfl

/-- Lists with the same items, and no item twice, are sorted alike. -/
theorem insertionSort_congr
    {left right : List String} (nodup : left.Nodup) (nodup' : right.Nodup)
    (same : ∀ text, text ∈ left ↔ text ∈ right) :
    left.insertionSort (· ≤ ·) = right.insertionSort (· ≤ ·) := by
  have permuted : left.Perm right :=
    (List.perm_ext_iff_of_nodup nodup nodup').mpr same
  have sorted := (List.perm_insertionSort (· ≤ ·) left).trans
    (permuted.trans (List.perm_insertionSort (· ≤ ·) right).symm)
  exact sorted.eq_of_pairwise' (List.pairwise_insertionSort _ _)
    (List.pairwise_insertionSort _ _)

theorem keywordsIn_eq
    {keywords : List String} (nodup : keywords.Nodup)
    (plain : (keywords.all fun keyword =>
      !keyword.toList.isEmpty && keyword.toList.all isPlain) = true)
    (ticket : Ticket) :
    keywordsIn py keywords (py.lower (ticket.subject ++ "\n" ++ ticket.body)) =
      occurring py ticket keywords := by
  rw [keywordsIn, occurring, findall_keywords py plain]
  apply insertionSort_congr
  · exact List.nodup_dedup _
  · exact nodup.filter _
  · intro keyword
    rw [List.mem_dedup, List.mem_map, List.mem_filter, decide_eq_true_eq]
    constructor
    · rintro ⟨word, found, rfl⟩
      rcases List.mem_filter.mp found with ⟨isWord, isKeyword⟩
      refine ⟨List.contains_iff_mem.mp isKeyword, ?_⟩
      rw [Occurs, String.toList_ofList]
      exact isWord
    · rintro ⟨isKeyword, occurs⟩
      refine ⟨keyword.toList, List.mem_filter.mpr ⟨occurs, ?_⟩,
        String.ofList_toList⟩
      rw [String.ofList_toList]
      exact List.contains_iff_mem.mpr isKeyword

theorem classifyIntent_eq (ticket : Ticket) :
    classifyIntent py ticket = specified py ticket := by
  have billing := keywordsIn_eq py (by decide : billingKeywords.Nodup)
    (by decide) ticket
  have charging := keywordsIn_eq py (by decide : chargingKeywords.Nodup)
    (by decide) ticket
  simp only [classifyIntent, specified, billing, charging, gt_iff_lt]

/-- The classification depends on which keywords occur. -/
theorem specified_congr
    {ticket other : Ticket}
    (same : ∀ keyword ∈ billingKeywords ++ chargingKeywords,
      (Occurs py ticket keyword ↔ Occurs py other keyword)) :
    specified py ticket = specified py other := by
  have alike : ∀ keywords : List String,
      (∀ keyword ∈ keywords,
        keyword ∈ billingKeywords ++ chargingKeywords) →
        occurring py ticket keywords = occurring py other keywords := by
    intro keywords known
    rw [occurring, occurring]
    congr 1
    apply List.filter_congr
    intro keyword isKeyword
    exact decide_eq_decide.mpr (same keyword (known keyword isKeyword))
  rw [specified, specified,
    alike billingKeywords fun _ => List.mem_append_left _,
    alike chargingKeywords fun _ => List.mem_append_right _]

/-! ## Texts between blanks -/

/-- The blanks that separate the texts a ticket is written in. -/
def isBlank (char : Char) : Bool :=
  char == ' ' || char == '\n'

/-- The texts between the blanks of the subject and of the body. -/
def pieces (ticket : Ticket) : List (List Char) :=
  ticket.subject.toList.splitOnP isBlank ++
    ticket.body.toList.splitOnP isBlank

/-- The words of a text once it is lower-cased. -/
def lowered (piece : List Char) : List (List Char) :=
  maximalWords py.isWord (py.lower (String.ofList piece)).toList

/-- Lower-cased, the text has a keyword among its words. -/
def HasKeyword (piece : List Char) : Prop :=
  ∃ keyword ∈ billingKeywords ++ chargingKeywords,
    keyword.toList ∈ lowered py piece

instance : DecidablePred (HasKeyword py) :=
  fun piece =>
    inferInstanceAs (Decidable
      (∃ keyword ∈ billingKeywords ++ chargingKeywords,
        keyword.toList ∈ lowered py piece))

/-- Lower-casing a text is lower-casing what stands between its blanks. -/
def LowersPiecewise : Prop :=
  ∀ left blank right, isBlank blank = true →
    (py.lower (String.ofList (left ++ blank :: right))).toList =
      (py.lower (String.ofList left)).toList ++
        blank :: (py.lower (String.ofList right)).toList

variable {py}

theorem isWord_blank {char : Char} (blank : isBlank char = true) :
    py.isWord char = false := by
  rw [isBlank, Bool.or_eq_true, beq_iff_eq, beq_iff_eq] at blank
  rcases blank with rfl | rfl
  · rw [py.asciiWord ' ' (by decide)]
    rfl
  · rw [py.asciiWord '\n' (by decide)]
    rfl

/-- The words of a text are those of the texts between its blanks. -/
theorem lowered_append
    (piecewise : LowersPiecewise py) (pending text : List Char)
    (unbroken : ∀ char ∈ pending, isBlank char = false) :
    lowered py (pending ++ text) =
      ((pending ++ text).splitOnP isBlank).flatMap (lowered py) := by
  induction text generalizing pending with
  | nil =>
      rw [List.append_nil, List.splitOnP_eq_singleton unbroken,
        List.flatMap_singleton]
  | cons char text induction =>
      by_cases blank : isBlank char = true
      · rw [List.splitOnP_append_cons_of_forall_mem unbroken char blank,
          List.flatMap_cons, lowered, piecewise _ _ _ blank,
          maximalWords_separated (isWord_blank blank)]
        have later := induction [] (by simp)
        rw [List.nil_append] at later
        rw [← later]
        rfl
      · have longer := induction (pending ++ [char]) (by
          intro other member
          rcases List.mem_append.mp member with inPending | last
          · exact unbroken other inPending
          · rw [List.mem_singleton.mp last]
            simpa using blank)
        rwa [List.append_assoc, List.singleton_append] at longer

theorem occurs_iff_piece
    (piecewise : LowersPiecewise py) (ticket : Ticket) (keyword : String) :
    Occurs py ticket keyword ↔
      ∃ piece ∈ pieces ticket, keyword.toList ∈ lowered py piece := by
  have inPieces := lowered_append piecewise []
    (ticket.subject ++ "\n" ++ ticket.body).toList (by simp)
  have split : (ticket.subject ++ "\n" ++ ticket.body).toList.splitOnP
      isBlank = pieces ticket := by
    rw [String.toList_append, String.toList_append, List.append_assoc]
    exact List.splitOnP_append_cons _ _ (by decide)
  rw [List.nil_append, lowered, String.ofList_toList, split] at inPieces
  rw [Occurs, searched, inPieces, List.mem_flatMap]

/--
The classification is the specified one.  It does not change as long as the
same keywords are words of the lower-cased text, in particular if the texts
between the blanks are repeated, permuted or moved between subject and body,
or others without a keyword are added.
-/
theorem classification_spec (py : PyText) (ticket : Ticket) :
    classifyIntent py ticket = specified py ticket ∧
      (∀ other,
        (∀ keyword ∈ billingKeywords ++ chargingKeywords,
          (Occurs py ticket keyword ↔ Occurs py other keyword)) →
        classifyIntent py other = classifyIntent py ticket) ∧
      (LowersPiecewise py → ∀ other,
        (∀ piece, HasKeyword py piece →
          (piece ∈ pieces ticket ↔ piece ∈ pieces other)) →
        classifyIntent py other = classifyIntent py ticket) := by
  have ofKeywords : ∀ other,
      (∀ keyword ∈ billingKeywords ++ chargingKeywords,
        (Occurs py ticket keyword ↔ Occurs py other keyword)) →
      classifyIntent py other = classifyIntent py ticket := by
    intro other same
    rw [classifyIntent_eq, classifyIntent_eq]
    exact (specified_congr py same).symm
  refine ⟨classifyIntent_eq py ticket, ofKeywords, ?_⟩
  intro piecewise other same
  apply ofKeywords
  intro keyword isKeyword
  rw [occurs_iff_piece piecewise, occurs_iff_piece piecewise]
  constructor
  · rintro ⟨piece, isPiece, found⟩
    exact ⟨piece, (same piece ⟨keyword, isKeyword, found⟩).mp isPiece, found⟩
  · rintro ⟨piece, isPiece, found⟩
    exact ⟨piece, (same piece ⟨keyword, isKeyword, found⟩).mpr isPiece, found⟩

theorem ascii_lowersPiecewise : LowersPiecewise asciiText := by
  intro left blank right isGap
  have kept : blank.toLower = blank := by
    rw [isBlank, Bool.or_eq_true, beq_iff_eq, beq_iff_eq] at isGap
    rcases isGap with rfl | rfl <;> rfl
  simp [asciiText, kept]

def ticketSaying (subject body : String) (subjectOk : subjectValid subject)
    (bodyOk : bodyValid body) : Ticket where
  id := "t1"
  userId := "u_1"
  subject := subject
  body := body
  status := .processing
  reply := none
  handoffReason := none
  createdAt := epoch
  updatedAt := epoch
  trace := []
  userIdOk := rfl
  subjectOk := subjectOk
  bodyOk := bodyOk
  agrees := processing_agrees

theorem invoiceSubject_valid : subjectValid "Invoice" = true := rfl

theorem chargeBody_valid : bodyValid "a charge, for charging" = true := rfl

def chargeInBody : Ticket :=
  ticketSaying "Invoice" "a charge, for charging" invoiceSubject_valid
    chargeBody_valid

theorem chargeSubject_valid :
    subjectValid "please charging charge," = true :=
  rfl

theorem invoiceBody_valid : bodyValid "Invoice Invoice" = true := rfl

def chargeInSubject : Ticket :=
  ticketSaying "please charging charge," "Invoice Invoice"
    chargeSubject_valid invoiceBody_valid

theorem same_keyword_pieces :
    ∀ piece, HasKeyword asciiText piece →
      (piece ∈ pieces chargeInBody ↔ piece ∈ pieces chargeInSubject) := by
  have forward : ((pieces chargeInBody).all fun piece =>
      (pieces chargeInSubject).contains piece ||
        !decide (HasKeyword asciiText piece)) = true := by
    decide +kernel
  have backward : ((pieces chargeInSubject).all fun piece =>
      (pieces chargeInBody).contains piece ||
        !decide (HasKeyword asciiText piece)) = true := by
    decide +kernel
  intro piece hasKeyword
  constructor
  · intro isPiece
    have found := List.all_eq_true.mp forward piece isPiece
    simpa [hasKeyword] using found
  · intro isPiece
    have found := List.all_eq_true.mp backward piece isPiece
    simpa [hasKeyword] using found

theorem classification_moved :
    classifyIntent asciiText chargeInSubject =
        classifyIntent asciiText chargeInBody ∧
      classifyIntent asciiText chargeInBody =
        { intent := .billingQuestion
          matchedKeywords := ["charge", "invoice"] } :=
  ⟨(classification_spec asciiText chargeInBody).2.2 ascii_lowersPiecewise
      chargeInSubject same_keyword_pieces,
    (classification_spec asciiText chargeInBody).1.trans (by decide +kernel)⟩

end SupportAssistant.Llm.Keywords
