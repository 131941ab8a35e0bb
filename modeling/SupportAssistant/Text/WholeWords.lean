import SupportAssistant.Text.Tokens

/-!
# Patterns that match whole words

A pattern `\bbody\b` whose body accepts nothing but word characters can only
match a maximal run of word characters.  `scan_delimited` and `scan_wholeWord`
say that scanning for it is the same as cutting the text into its words and
keeping those that the body matches from end to end.
-/

namespace SupportAssistant.Text.WholeWords

open SupportAssistant.Text.Backtracking
open SupportAssistant.Text.Scan
open SupportAssistant.Text.Tokens

/-- `\bbody\b`. -/
def delimited (body : Regex) : Regex :=
  .seq .wordBoundary (.seq body .wordBoundary)

/-- The pattern accepts word characters only, and looks at nothing else. -/
def WordOnly (isWord : Char → Bool) : Regex → Prop
  | .empty => True
  | .charClass accepts => ∀ char, accepts char = true → isWord char = true
  | .many1 accepts => ∀ char, accepts char = true → isWord char = true
  | .wordBoundary => False
  | .seq first second => WordOnly isWord first ∧ WordOnly isWord second
  | .alt first second => WordOnly isWord first ∧ WordOnly isWord second
  | .opt body => WordOnly isWord body

/-- The body matches the word from end to end. -/
def fullmatch (isWord : Char → Bool) (body : Regex)
    (word : List Char) : Bool :=
  (body.run isWord ⟨none, word⟩).any fun after => after.rest.isEmpty

/-- The length of the word a text begins with. -/
def wordMunch (isWord : Char → Bool) : Munch :=
  fun text => (text.takeWhile isWord).length

/-- The matcher that takes the accepted words of a text. -/
def wholeWord (isWord : Char → Bool) (accept : List Char → Bool) :
    Matcher :=
  fun before rest =>
    let word := rest.takeWhile isWord
    if !wordSide isWord before && !word.isEmpty && accept word then
      [word.length]
    else []

/-! ## Words as tokens -/

theorem wordMunch_stable (isWord : Char → Bool) :
    Stable (wordMunch isWord) where
  length_le text := (List.takeWhile_sublist _).length_le
  append text rest bound := by
    simp only [wordMunch, List.takeWhile_append] at bound ⊢
    split
    · rename_i whole
      rw [if_pos whole, List.length_append] at bound
      rw [List.length_append]
      omega
    · rfl

theorem drop_wordMunch (isWord : Char → Bool) (text : List Char) :
    text.drop (wordMunch isWord text) = text.dropWhile isWord := by
  have whole : text = text.takeWhile isWord ++ text.dropWhile isWord :=
    List.takeWhile_append_dropWhile.symm
  have dropped := congrArg (List.drop (wordMunch isWord text)) whole
  rwa [wordMunch, List.drop_left] at dropped

theorem wordMunch_separates
    {isWord : Char → Bool} {char : Char}
    (notWord : isWord char = false) :
    Separates (wordMunch isWord) char := by
  intro text rest
  simp only [wordMunch, List.takeWhile_append, List.takeWhile_cons, notWord]
  split
  · simp
  · exact (List.takeWhile_sublist _).length_le

/-! ## Runs of a word pattern -/

/-- A match consumes a prefix of the text and nothing else. -/
theorem run_consumes
    (isWord : Char → Bool) (pattern : Regex)
    {before : Option Char} {rest : List Char} {after : Cursor}
    (matched : after ∈ pattern.run isWord ⟨before, rest⟩) :
    ∃ count ≤ rest.length,
      after = ⟨beforeAfter before rest count, rest.drop count⟩ := by
  induction pattern generalizing before rest after with
  | empty =>
      simp only [Regex.run, List.mem_singleton] at matched
      exact ⟨0, by simp, by simp [matched]⟩
  | charClass accepts =>
      cases rest with
      | nil => simp [Regex.run] at matched
      | cons char rest =>
          simp only [Regex.run] at matched
          split at matched
          · exact ⟨1, by simp, by
              simpa [beforeAfter] using List.mem_singleton.mp matched⟩
          · simp at matched
  | many1 accepts =>
      simp only [Regex.run] at matched
      induction rest generalizing before with
      | nil => simp [runMany1] at matched
      | cons char rest induction =>
          simp only [runMany1] at matched
          split at matched
          · rcases List.mem_append.mp matched with longer | single
            · obtain ⟨count, bound, equal⟩ :=
                induction longer
              exact ⟨count + 1, by simpa using bound, by
                rw [equal, beforeAfter_succ_cons, List.drop_succ_cons]⟩
            · exact ⟨1, by simp, by
                simpa [beforeAfter] using List.mem_singleton.mp single⟩
          · simp at matched
  | wordBoundary =>
      simp only [Regex.run] at matched
      split at matched
      · exact ⟨0, by simp, by simpa using matched⟩
      · simp at matched
  | seq first second firstInduction secondInduction =>
      simp only [Regex.run, List.mem_flatMap] at matched
      obtain ⟨middle, inFirst, inSecond⟩ := matched
      obtain ⟨firstCount, firstBound, rfl⟩ := firstInduction inFirst
      obtain ⟨secondCount, secondBound, rfl⟩ := secondInduction inSecond
      rw [List.length_drop] at secondBound
      refine ⟨firstCount + secondCount, by omega, ?_⟩
      rw [List.drop_drop]
      congr 1
      cases secondCount with
      | zero => simp
      | succ secondCount => simp [beforeAfter, List.getElem?_drop]
  | alt first second firstInduction secondInduction =>
      rcases List.mem_append.mp matched with left | right
      · exact firstInduction left
      · exact secondInduction right
  | opt body induction =>
      rcases List.mem_append.mp matched with taken | skipped
      · exact induction taken
      · exact ⟨0, by simp, by simpa using skipped⟩

/-- Every match of the pattern consumes a character. -/
def consumes : Regex → Bool
  | .empty => false
  | .charClass _ => true
  | .many1 _ => true
  | .wordBoundary => false
  | .seq first second => consumes first || consumes second
  | .alt first second => consumes first && consumes second
  | .opt _ => false

theorem length_rest_le
    {isWord : Char → Bool} {pattern : Regex} {cursor after : Cursor}
    (matched : after ∈ pattern.run isWord cursor) :
    after.rest.length ≤ cursor.rest.length := by
  obtain ⟨count, bound, rfl⟩ := run_consumes isWord pattern matched
  simp

theorem length_rest_lt
    {isWord : Char → Bool} {pattern : Regex}
    (advances : consumes pattern = true)
    {cursor after : Cursor}
    (matched : after ∈ pattern.run isWord cursor) :
    after.rest.length < cursor.rest.length := by
  induction pattern generalizing cursor after with
  | empty => simp [consumes] at advances
  | charClass accepts =>
      obtain ⟨before, rest⟩ := cursor
      cases rest with
      | nil => simp [Regex.run] at matched
      | cons char rest =>
          simp only [Regex.run] at matched
          split at matched <;> simp_all
  | many1 accepts =>
      obtain ⟨before, rest⟩ := cursor
      simp only [Regex.run] at matched
      induction rest with
      | nil => simp [runMany1] at matched
      | cons char rest induction =>
          simp only [runMany1] at matched
          split at matched
          · rcases List.mem_append.mp matched with longer | single
            · have := induction longer
              simp only [List.length_cons] at this ⊢
              omega
            · simp_all
          · simp at matched
  | wordBoundary => simp [consumes] at advances
  | seq first second firstInduction secondInduction =>
      simp only [Regex.run, List.mem_flatMap] at matched
      obtain ⟨middle, inFirst, inSecond⟩ := matched
      have firstLe := length_rest_le inFirst
      have secondLe := length_rest_le inSecond
      simp only [consumes, Bool.or_eq_true] at advances
      rcases advances with firstAdvances | secondAdvances
      · have := firstInduction firstAdvances inFirst
        omega
      · have := secondInduction secondAdvances inSecond
        omega
  | alt first second firstInduction secondInduction =>
      simp only [consumes, Bool.and_eq_true] at advances
      rcases List.mem_append.mp matched with left | right
      · exact firstInduction advances.1 left
      · exact secondInduction advances.2 right
  | opt body => simp [consumes] at advances

/-- A word pattern sees no further than the end of the word. -/
theorem run_append
    {isWord : Char → Bool} {pattern : Regex}
    (wordOnly : WordOnly isWord pattern)
    {word rest : List Char}
    (ends : wordSide isWord rest.head? = false)
    (before : Option Char) :
    pattern.run isWord ⟨before, word ++ rest⟩ =
      (pattern.run isWord ⟨before, word⟩).map fun after =>
        ⟨after.before, after.rest ++ rest⟩ := by
  have stops : ∀ accepts : Char → Bool,
      (∀ char, accepts char = true → isWord char = true) →
      ∀ char, rest.head? = some char → accepts char = false := by
    intro accepts words char head
    rw [head] at ends
    cases accepted : accepts char with
    | false => rfl
    | true => simp [words char accepted] at ends
  induction pattern generalizing before word with
  | empty => simp [Regex.run]
  | charClass accepts =>
      cases word with
      | cons char word =>
          simp only [Regex.run, List.cons_append]
          split <;> simp
      | nil =>
          cases rest with
          | nil => simp [Regex.run]
          | cons char rest =>
              have rejected := stops accepts wordOnly char rfl
              simp [Regex.run, rejected]
  | many1 accepts =>
      simp only [Regex.run]
      induction word generalizing before with
      | nil =>
          cases rest with
          | nil => simp [runMany1]
          | cons char rest =>
              have rejected := stops accepts wordOnly char rfl
              simp [runMany1, rejected]
      | cons char word induction =>
          simp only [List.cons_append, runMany1]
          split
          · simp [induction (some char)]
          · rfl
  | wordBoundary => exact absurd wordOnly (by simp [WordOnly])
  | seq first second firstInduction secondInduction =>
      simp only [Regex.run]
      rw [firstInduction wordOnly.1, List.flatMap_map, List.map_flatMap]
      congr 1
      funext middle
      exact secondInduction wordOnly.2 middle.before
  | alt first second firstInduction secondInduction =>
      simp only [Regex.run]
      rw [firstInduction wordOnly.1, secondInduction wordOnly.2,
        List.map_append]
  | opt body induction =>
      simp only [Regex.run]
      rw [induction wordOnly, List.map_append]
      rfl

/-! ## Scanning for whole words -/

/-- Two lists of lengths of which only one value occurs agree on their head. -/
private theorem head?_eq_some_congr
    {left right : List Nat} {value : Nat}
    (same : ∀ length, length ∈ left ↔ length ∈ right)
    (single : ∀ length ∈ right, length = value)
    (length : Nat) :
    left.head? = some length ↔ right.head? = some length := by
  have constant : ∀ list : List Nat, (∀ other ∈ list, other = value) →
      (list.head? = some length ↔ length ∈ list) := by
    intro list values
    cases list with
    | nil => simp
    | cons first others =>
        have firstValue := values first List.mem_cons_self
        constructor
        · intro head
          simpa using Or.inl (Option.some.inj head).symm
        · intro member
          rw [values length member, firstValue]
          rfl
  rw [constant left fun other member => single other ((same other).mp member),
    constant right single, same]

private theorem find?_congr
    {left right : List Nat} {value : Nat}
    (same : ∀ length, length ∈ left ↔ length ∈ right)
    (single : ∀ length ∈ right, length = value)
    (wanted : Nat → Bool) :
    left.find? wanted = right.find? wanted := by
  have constant : ∀ list : List Nat, (∀ other ∈ list, other = value) →
      list.find? wanted =
        if value ∈ list ∧ wanted value then some value else none := by
    intro list values
    split
    · rename_i found
      cases located : list.find? wanted with
      | none =>
          have := List.find?_eq_none.mp located value found.1
          exact absurd found.2 this
      | some other => rw [values other (List.mem_of_find?_eq_some located)]
    · rename_i missing
      rw [List.find?_eq_none]
      intro other member isWanted
      obtain rfl := values other member
      exact missing ⟨member, isWanted⟩
  rw [constant left fun other member => single other ((same other).mp member),
    constant right single]
  simp only [same]

theorem takeWhile_append_ends
    {isWord : Char → Bool} {word rest : List Char}
    (inside : ∀ char ∈ word, isWord char = true)
    (ends : wordSide isWord rest.head? = false) :
    (word ++ rest).takeWhile isWord = word := by
  rw [List.takeWhile_append_of_pos inside]
  cases rest with
  | nil => simp
  | cons char rest =>
      have rejected : isWord char = false := by simpa using ends
      simp [rejected]

theorem head?_dropWhile_ends (isWord : Char → Bool) (text : List Char) :
    wordSide isWord (text.dropWhile isWord).head? = false := by
  induction text with
  | nil => rfl
  | cons char text induction =>
      by_cases accepted : isWord char
      · simpa [accepted] using induction
      · simp [accepted]

/-- Inside a word there is no boundary, at its end there is one. -/
private theorem boundary_after
    {isWord : Char → Bool} {word rest : List Char}
    (inside : ∀ char ∈ word, isWord char = true)
    (ends : wordSide isWord rest.head? = false)
    (before : Option Char) {count : Nat}
    (positive : 0 < count) (bound : count ≤ word.length) :
    atBoundary isWord (beforeAfter before word count)
        (word.drop count ++ rest) =
      (word.drop count).isEmpty := by
  obtain ⟨last, here⟩ : ∃ last, word[count - 1]? = some last :=
    ⟨_, List.getElem?_eq_getElem (by omega)⟩
  have lastWord : isWord last = true :=
    inside last (List.mem_of_getElem? here)
  have left : wordSide isWord (beforeAfter before word count) = true := by
    rw [beforeAfter, if_neg (by omega), here]
    exact lastWord
  rw [atBoundary, left]
  cases dropped : word.drop count with
  | nil => simp [ends]
  | cons next more =>
      have nextWord : isWord next = true := by
        apply inside
        apply List.mem_of_mem_drop (i := count)
        simp [dropped]
      simp [nextWord]

/-- The matches of `\bbody\b` at the start of a word. -/
private theorem run_delimited
    {isWord : Char → Bool} {body : Regex}
    (wordOnly : WordOnly isWord body)
    (advances : consumes body = true)
    {word rest : List Char}
    (inside : ∀ char ∈ word, isWord char = true)
    (ends : wordSide isWord rest.head? = false)
    (before : Option Char) :
    ((body.run isWord ⟨before, word ++ rest⟩).flatMap fun after =>
        if atBoundary isWord after.before after.rest then [after] else []) =
      ((body.run isWord ⟨before, word⟩).filter
        (·.rest.isEmpty)).map fun after => ⟨after.before, rest⟩ := by
  rw [run_append wordOnly ends, List.flatMap_map]
  have each : ∀ after ∈ body.run isWord ⟨before, word⟩,
      (if atBoundary isWord after.before (after.rest ++ rest) then
          [(⟨after.before, after.rest ++ rest⟩ : Cursor)] else []) =
        if after.rest.isEmpty then
          [(⟨after.before, rest⟩ : Cursor)] else [] := by
    intro after matched
    obtain ⟨count, bound, rfl⟩ := run_consumes isWord body matched
    have positive : 0 < count := by
      rcases Nat.eq_zero_or_pos count with rfl | positive
      · simpa using length_rest_lt advances matched
      · exact positive
    simp only [boundary_after inside ends before positive bound]
    split
    · rename_i empty
      rw [List.isEmpty_iff.mp empty, List.nil_append]
    · rfl
  generalize body.run isWord ⟨before, word⟩ = results at each
  induction results with
  | nil => rfl
  | cons after results induction =>
      rw [List.flatMap_cons, each after List.mem_cons_self,
        induction fun other member =>
          each other (List.mem_cons_of_mem _ member),
        List.filter_cons]
      split <;> simp

/-- What a word pattern leaves over does not depend on what precedes it. -/
private theorem map_rest_run
    {isWord : Char → Bool} {pattern : Regex}
    (wordOnly : WordOnly isWord pattern)
    (before : Option Char) (text : List Char) :
    (pattern.run isWord ⟨before, text⟩).map Cursor.rest =
      (pattern.run isWord ⟨none, text⟩).map Cursor.rest := by
  induction pattern generalizing before text with
  | empty => rfl
  | charClass accepts => rfl
  | many1 accepts => rfl
  | wordBoundary => exact absurd wordOnly (by simp [WordOnly])
  | seq first second firstInduction secondInduction =>
      have throughRest : ∀ cursors : List Cursor,
          (cursors.flatMap (second.run isWord)).map Cursor.rest =
            (cursors.map Cursor.rest).flatMap fun rest =>
              (second.run isWord ⟨none, rest⟩).map Cursor.rest := by
        intro cursors
        rw [List.map_flatMap, List.flatMap_map]
        congr 1
        funext middle
        exact secondInduction wordOnly.2 middle.before middle.rest
      simp only [Regex.run]
      rw [throughRest, throughRest, firstInduction wordOnly.1]
  | alt first second firstInduction secondInduction =>
      simp only [Regex.run, List.map_append]
      rw [firstInduction wordOnly.1, secondInduction wordOnly.2]
  | opt body induction =>
      simp only [Regex.run, List.map_append, List.map_cons, List.map_nil]
      rw [induction wordOnly]

/-- `\bbody\b` matches exactly a whole word that the body matches. -/
theorem mem_matcher_delimited
    {isWord : Char → Bool} {body : Regex}
    (wordOnly : WordOnly isWord body)
    (advances : consumes body = true)
    (before : Option Char) (text : List Char) (length : Nat) :
    length ∈ (delimited body).matcher isWord before text ↔
      length ∈ wholeWord isWord (fullmatch isWord body) before text := by
  set word := text.takeWhile isWord with wordDef
  set rest := text.dropWhile isWord with restDef
  have whole : text = word ++ rest := List.takeWhile_append_dropWhile.symm
  have inside : ∀ char ∈ word, isWord char = true := by
    intro char member
    exact List.mem_takeWhile_imp member
  have ends : wordSide isWord rest.head? = false :=
    head?_dropWhile_ends isWord text
  have sameFull :
      (∃ after ∈ body.run isWord ⟨before, word⟩, after.rest = []) ↔
        fullmatch isWord body word = true := by
    have viaRest : ∀ start : Option Char,
        (∃ after ∈ body.run isWord ⟨start, word⟩, after.rest = []) ↔
          [] ∈ (body.run isWord ⟨start, word⟩).map Cursor.rest := by
      simp
    rw [viaRest before, map_rest_run wordOnly, ← viaRest none]
    simp [fullmatch]
  cases wordCase : word with
  | nil =>
      have noMatch :
          (delimited body).matcher isWord before text = [] := by
        rw [whole, wordCase]
        simp only [Regex.matcher, delimited, Regex.run]
        split
        · rw [List.flatMap_singleton,
            run_delimited wordOnly advances (List.forall_mem_nil _) ends]
          have none : body.run isWord ⟨before, []⟩ = [] := by
            apply List.eq_nil_iff_forall_not_mem.mpr
            intro after matched
            obtain ⟨count, bound, rfl⟩ := run_consumes isWord body matched
            obtain rfl : count = 0 := by simpa using bound
            simpa using length_rest_lt advances matched
          simp [none]
        · rfl
      simp [noMatch, wholeWord, ← wordDef, wordCase]
  | cons first others =>
      have boundary :
          atBoundary isWord before text = !wordSide isWord before := by
        have firstWord : isWord first = true := inside first (by simp [wordCase])
        rw [whole, wordCase]
        cases side : wordSide isWord before <;>
          simp [atBoundary, firstWord, side]
      simp only [Regex.matcher, delimited, Regex.run, boundary]
      cases side : wordSide isWord before with
      | true => simp [wholeWord, side]
      | false =>
          simp only [Bool.not_false, if_true, List.flatMap_singleton]
          rw [whole, run_delimited wordOnly advances inside ends before]
          simp only [wholeWord, takeWhile_append_ends inside ends, side]
          rw [List.map_map]
          have notEmpty : word.isEmpty = false := by simp [wordCase]
          constructor
          · intro member
            obtain ⟨after, matched, rfl⟩ := List.mem_map.mp member
            rw [List.mem_filter, List.isEmpty_iff] at matched
            have full := sameFull.mp ⟨after, matched⟩
            simp [full, notEmpty]
          · intro member
            split at member
            · rename_i accepted
              simp only [Bool.and_eq_true] at accepted
              obtain ⟨after, matched, empty⟩ := sameFull.mpr accepted.2
              rw [List.mem_singleton] at member
              subst member
              refine List.mem_map.mpr ⟨after, ?_, by simp⟩
              rw [List.mem_filter]
              exact ⟨matched, by simp [empty]⟩
            · simp at member

/-- Scanning for `\bbody\b` takes the words that the body matches. -/
theorem scan_delimited
    {isWord : Char → Bool} {body : Regex}
    (wordOnly : WordOnly isWord body)
    (advances : consumes body = true)
    (skip : Nat) (before : Option Char) (text : List Char) :
    scan ((delimited body).matcher isWord) skip before text =
      scan (wholeWord isWord (fullmatch isWord body)) skip before text := by
  have single : ∀ before rest length,
      length ∈ wholeWord isWord (fullmatch isWord body) before rest →
        length = (rest.takeWhile isWord).length := by
    intro before rest length member
    simp only [wholeWord] at member
    split at member <;> simp_all
  have member := fun before rest length =>
    mem_matcher_delimited wordOnly advances before rest length
  apply scan_congr
  · intro before rest
    simp only [emptyHits]
    congr 1
    exact propext (head?_eq_some_congr (member before rest)
      (single before rest) 0)
  · intro before rest
    simp only [firstNonempty]
    exact find?_congr (member before rest) (single before rest) _

private theorem scan_wholeWord_nil
    (isWord : Char → Bool) (accept : List Char → Bool)
    (before : Option Char) :
    scan (wholeWord isWord accept) 0 before [] = [] := by
  simp [scan, emptyHits, wholeWord]

private theorem scan_wholeWord_cons
    {isWord : Char → Bool} {accept : List Char → Bool}
    {before : Option Char} {char : Char} {rest : List Char}
    (unmatched : wholeWord isWord accept before (char :: rest) = []) :
    scan (wholeWord isWord accept) 0 before (char :: rest) =
      .kept char :: scan (wholeWord isWord accept) 0 (some char) rest := by
  simp [scan, emptyHits, firstNonempty, unmatched]

/-- A rejected word is passed over character by character. -/
private theorem scan_wholeWord_inside
    (isWord : Char → Bool) (accept : List Char → Bool)
    (word rest : List Char)
    (inside : ∀ char ∈ word, isWord char = true)
    (before : Option Char)
    (afterWord : wordSide isWord before = true) :
    ∃ last,
      scan (wholeWord isWord accept) 0 before (word ++ rest) =
        word.map .kept ++ scan (wholeWord isWord accept) 0 last rest := by
  induction word generalizing before with
  | nil => exact ⟨before, by simp⟩
  | cons char word induction =>
      have unmatched :
          wholeWord isWord accept before (char :: (word ++ rest)) = [] := by
        simp [wholeWord, afterWord]
      obtain ⟨last, equal⟩ :=
        induction (fun other member =>
            inside other (List.mem_cons_of_mem _ member))
          (some char) (inside char List.mem_cons_self)
      exact ⟨last, by
        rw [List.cons_append, scan_wholeWord_cons unmatched, equal,
          List.map_cons, List.cons_append]⟩

/-- A token, taken whole when its word is accepted. -/
def passed (accept : List Char → Bool) : Piece → List Piece
  | .kept char => [.kept char]
  | .hit word => if accept word then [.hit word] else word.map .kept

/-- The walk takes the accepted words and passes over everything else. -/
theorem scan_wholeWord
    (isWord : Char → Bool) (accept : List Char → Bool)
    (before : Option Char) (text : List Char)
    (atStart : wordSide isWord before = false ∨
      wordSide isWord text.head? = false) :
    scan (wholeWord isWord accept) 0 before text =
      (tokens (wordMunch isWord) text).flatMap (passed accept) := by
  induction length : text.length using Nat.strong_induction_on
    generalizing before text with
  | _ size induction =>
      cases text with
      | nil => simp [scan_wholeWord_nil]
      | cons char rest =>
          by_cases isWordChar : isWord char = true
          · set word := (char :: rest).takeWhile isWord with wordDef
            set behind := (char :: rest).dropWhile isWord with behindDef
            have whole : char :: rest = word ++ behind :=
              List.takeWhile_append_dropWhile.symm
            have wordCons : word = char :: rest.takeWhile isWord := by
              simp [wordDef, isWordChar]
            have restWhole : rest = rest.takeWhile isWord ++ behind := by
              have := whole
              rw [wordCons, List.cons_append] at this
              exact (List.cons.inj this).2
            have outer : wordSide isWord before = false := by
              simpa [isWordChar] using atStart
            have munched :
                wordMunch isWord (char :: rest) = word.length := rfl
            have positive : 0 < word.length := by simp [wordCons]
            have shorter : behind.length < size := by
              rw [← length, whole, List.length_append]
              omega
            have later := fun last =>
              induction _ shorter last behind
                (Or.inr (head?_dropWhile_ends isWord _)) rfl
            rw [tokens_of_pos (wordMunch_stable isWord)
                (by rw [munched]; exact positive),
              munched, whole, List.take_left, List.drop_left,
              List.flatMap_cons, ← whole, passed]
            cases accepted : accept word with
            | true =>
                have matched :
                    wholeWord isWord accept before (char :: rest) =
                      [word.length] := by
                  have notEmpty : word.isEmpty = false := by simp [wordCons]
                  simp [wholeWord, ← wordDef, outer, accepted, notEmpty]
                have within : word.length - 1 ≤ rest.length := by
                  have := congrArg List.length whole
                  simp only [List.length_cons, List.length_append] at this
                  omega
                have dropped : rest.drop (word.length - 1) = behind := by
                  have := congrArg (List.drop word.length) whole
                  rw [List.drop_left] at this
                  rw [← this, ← List.drop_succ_cons (a := char)]
                  congr 1
                  omega
                have taken : (char :: rest).take word.length = word := by
                  rw [whole, List.take_left]
                simp [scan, emptyHits, firstNonempty, matched, positive,
                  positive.ne', scan_skip _ _ within, dropped, taken, later]
            | false =>
                have unmatched :
                    wholeWord isWord accept before (char :: rest) = [] := by
                  simp [wholeWord, ← wordDef, accepted]
                obtain ⟨last, passedOver⟩ :=
                  scan_wholeWord_inside isWord accept
                    (rest.takeWhile isWord) behind
                    (fun other member => List.mem_takeWhile_imp member)
                    (some char) isWordChar
                rw [← restWhole] at passedOver
                rw [scan_wholeWord_cons unmatched, passedOver, later,
                  if_neg Bool.false_ne_true, wordCons, List.map_cons,
                  List.cons_append]
          · have notWord : isWord char = false := by simpa using isWordChar
            have unmatched :
                wholeWord isWord accept before (char :: rest) = [] := by
              simp [wholeWord, notWord]
            have noToken : wordMunch isWord (char :: rest) = 0 := by
              simp [wordMunch, notWord]
            rw [scan_wholeWord_cons unmatched, tokens_of_zero noToken,
              List.flatMap_cons,
              induction rest.length (by simp [← length])
                (some char) rest (Or.inl notWord) rfl]
            rfl

theorem occurrences_passed
    (accept : List Char → Bool) (start : Nat) (pieces : List Piece) :
    occurrences start (pieces.flatMap (passed accept)) =
      (occurrences start pieces).filter fun token => accept token.word := by
  induction pieces generalizing start with
  | nil => rfl
  | cons piece pieces induction =>
      rw [List.flatMap_cons, occurrences_append, induction]
      cases piece with
      | kept char => simp [passed, occurrences, Piece.source]
      | hit word =>
          cases accepted : accept word <;>
            simp [passed, accepted, occurrences, Piece.source]

/-- The accepted words of a text, where they stand. -/
theorem occurrences_wholeWord
    (isWord : Char → Bool) (accept : List Char → Bool)
    (text : List Char) :
    occurrences 0 (scan (wholeWord isWord accept) 0 none text) =
      (occurrences 0 (tokens (wordMunch isWord) text)).filter
        fun token => accept token.word := by
  rw [scan_wholeWord isWord accept none text (Or.inl rfl),
    occurrences_passed]

end SupportAssistant.Text.WholeWords
