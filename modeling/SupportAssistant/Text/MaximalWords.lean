import SupportAssistant.Text.Assembly
import SupportAssistant.Text.WholeWords

/-!
# The words of a text, without a pattern

The maximal words of a text are what is left between the characters that are
no word characters.  The walks over word tokens and over `\bbody\b` patterns
are read in these terms.
-/

namespace SupportAssistant.Text.MaximalWords

open SupportAssistant.Text.Backtracking
open SupportAssistant.Text.Scan
open SupportAssistant.Text.Tokens
open SupportAssistant.Text.WholeWords

/-- The maximal runs of word characters, from left to right. -/
def maximalWords (isWord : Char → Bool) (text : List Char) :
    List (List Char) :=
  (text.splitOnP fun char => !isWord char).filter fun run => !run.isEmpty

section

variable {isWord : Char → Bool}

@[simp]
theorem maximalWords_nil : maximalWords isWord [] = [] := rfl

/-- A character that is no word character stands between words. -/
theorem maximalWords_separated
    {char : Char} (notWord : isWord char = false)
    (left right : List Char) :
    maximalWords isWord (left ++ char :: right) =
      maximalWords isWord left ++ maximalWords isWord right := by
  rw [maximalWords, List.splitOnP_append_cons left right (by simp [notWord]),
    List.filter_append]
  rfl

theorem maximalWords_gap
    {char : Char} (notWord : isWord char = false) (rest : List Char) :
    maximalWords isWord (char :: rest) = maximalWords isWord rest :=
  maximalWords_separated notWord [] rest

/-- A run of word characters is one word. -/
theorem maximalWords_run
    {word : List Char} (nonempty : word ≠ [])
    (inside : ∀ char ∈ word, isWord char = true) :
    maximalWords isWord word = [word] := by
  have single : word.splitOnP (fun char => !isWord char) = [word] := by
    apply List.splitOnP_eq_singleton
    intro char member
    simp [inside char member]
  simp [maximalWords, single, nonempty]

/-- A run of word characters is cut off where it ends. -/
theorem maximalWords_append
    {word behind : List Char} (nonempty : word ≠ [])
    (inside : ∀ char ∈ word, isWord char = true)
    (ends : wordSide isWord behind.head? = false) :
    maximalWords isWord (word ++ behind) =
      word :: maximalWords isWord behind := by
  cases behind with
  | nil =>
      rw [List.append_nil, maximalWords_run nonempty inside, maximalWords_nil]
  | cons char behind =>
      have notWord : isWord char = false := ends
      rw [maximalWords_separated notWord, maximalWords_run nonempty inside,
        maximalWords_gap notWord]
      rfl

/-- A text is built of words that end where they do and of other characters. -/
@[elab_as_elim]
theorem word_induction
    {motive : List Char → Prop} (text : List Char)
    (nil : motive [])
    (run : ∀ word behind, word ≠ [] →
      (∀ char ∈ word, isWord char = true) →
        wordSide isWord behind.head? = false →
          motive behind → motive (word ++ behind))
    (gap : ∀ char rest, isWord char = false →
      motive rest → motive (char :: rest)) :
    motive text := by
  induction length : text.length using Nat.strong_induction_on
    generalizing text with
  | _ size induction =>
      cases text with
      | nil => exact nil
      | cons char rest =>
          by_cases isWordChar : isWord char = true
          · have nonempty : (char :: rest).takeWhile isWord ≠ [] := by
              simp [isWordChar]
            have whole := congrArg List.length
              (@List.takeWhile_append_dropWhile _ isWord (char :: rest))
            have positive := List.length_pos_iff.mpr nonempty
            rw [List.length_append, length] at whole
            rw [← @List.takeWhile_append_dropWhile _ isWord (char :: rest)]
            exact run _ _ nonempty
              (fun other member => List.mem_takeWhile_imp member)
              (head?_dropWhile_ends isWord _)
              (induction _ (by omega) _ rfl)
          · exact gap char rest (by simpa using isWordChar)
              (induction _ (by simp [← length]) rest rfl)

theorem tokens_run
    {word behind : List Char} (nonempty : word ≠ [])
    (inside : ∀ char ∈ word, isWord char = true)
    (ends : wordSide isWord behind.head? = false) :
    tokens (wordMunch isWord) (word ++ behind) =
      .hit word :: tokens (wordMunch isWord) behind := by
  have munched : wordMunch isWord (word ++ behind) = word.length := by
    rw [wordMunch, takeWhile_append_ends inside ends]
  have positive : 0 < wordMunch isWord (word ++ behind) := by
    rw [munched]
    exact List.length_pos_iff.mpr nonempty
  rw [tokens_of_pos (wordMunch_stable isWord) positive, munched,
    List.take_left, List.drop_left]

theorem tokens_gap
    {char : Char} (notWord : isWord char = false) (rest : List Char) :
    tokens (wordMunch isWord) (char :: rest) =
      .kept char :: tokens (wordMunch isWord) rest :=
  tokens_of_zero (by simp [wordMunch, notWord])

/-- The word tokens of a text are its maximal words. -/
theorem words_tokens_wordMunch (text : List Char) :
    words (tokens (wordMunch isWord) text) = maximalWords isWord text := by
  induction text using @word_induction isWord with
  | nil => simp
  | run word behind nonempty inside ends induction =>
      rw [tokens_run nonempty inside ends, words_hit, induction,
        maximalWords_append nonempty inside ends]
  | gap char rest notWord induction =>
      rw [tokens_gap notWord, words_kept, induction,
        maximalWords_gap notWord]

/-- A maximal word is a run of word characters. -/
theorem inside_of_maximalWord
    {text word : List Char} (found : word ∈ maximalWords isWord text) :
    ∀ char ∈ word, isWord char = true := by
  induction text using @word_induction isWord with
  | nil => simp at found
  | run first behind nonempty inside ends induction =>
      rw [maximalWords_append nonempty inside ends] at found
      rcases List.mem_cons.mp found with rfl | later
      · exact inside
      · exact induction later
  | gap char rest notWord induction =>
      rw [maximalWords_gap notWord] at found
      exact induction found

/-! ## Blanking some of the words -/

/-- The text, cut into the accepted words and all other characters. -/
def cutAt (isWord : Char → Bool) (accept : List Char → Bool)
    (text : List Char) : List Piece :=
  (tokens (wordMunch isWord) text).flatMap (passed accept)

variable {accept : List Char → Bool}

theorem words_passed (pieces : List Piece) :
    words (pieces.flatMap (passed accept)) =
      (words pieces).filter accept := by
  rw [← map_word_occurrences 0, occurrences_passed,
    ← map_word_occurrences 0, List.filter_map]
  rfl

theorem words_cutAt (text : List Char) :
    words (cutAt isWord accept text) =
      (maximalWords isWord text).filter accept := by
  rw [cutAt, words_passed, words_tokens_wordMunch]

/-- Blanking the accepted words leaves the others. -/
theorem maximalWords_blanked
    {blank : Char} (notWord : isWord blank = false) (text : List Char) :
    maximalWords isWord (replaced [blank] (cutAt isWord accept text)) =
      (maximalWords isWord text).filter fun word => !accept word := by
  induction text using @word_induction isWord with
  | nil => simp [cutAt]
  | gap char rest isGap induction =>
      rw [cutAt, tokens_gap isGap, List.flatMap_cons, replaced_append,
        maximalWords_gap isGap, ← induction]
      exact maximalWords_gap isGap _
  | run word behind nonempty inside ends induction =>
      rw [cutAt, tokens_run nonempty inside ends, List.flatMap_cons,
        replaced_append, maximalWords_append nonempty inside ends,
        List.filter_cons, ← induction]
      cases accepted : accept word with
      | true =>
          simp only [passed, accepted, if_true, Bool.not_true,
            Bool.false_eq_true, if_false]
          exact maximalWords_gap notWord _
      | false =>
          simp only [passed, accepted, Bool.false_eq_true, if_false,
            Bool.not_false, if_true, replaced_map_kept]
          -- what follows the word still begins with no word character
          apply maximalWords_append nonempty inside
          cases behind with
          | nil => simp
          | cons char rest =>
              rw [tokens_gap ends, List.flatMap_cons, replaced_append]
              exact ends

end

end SupportAssistant.Text.MaximalWords
