import Mathlib.Data.List.Basic

/-!
# Backtracking regular expressions

The patterns of a leftmost-first backtracking engine, with greedy repetition
of a character class, ordered alternation and the word boundary `\b`.  A
pattern is read at a cursor: the character just passed and the text still to
come.  `Regex.run` lists every way the pattern can match there, in the order
in which the engine tries them, so the engine's own match is the head of that
list.

`Matcher` forgets the syntax and keeps the lengths of those matches.  The
scanners of `SupportAssistant.Text.Scan` are written over matchers.
-/

namespace SupportAssistant.Text.Backtracking

/-- A pattern of the backtracking engine. -/
inductive Regex where
  | empty
  | charClass (accepts : Char → Bool)
  | many1 (accepts : Char → Bool)
  | wordBoundary
  | seq (first second : Regex)
  | alt (first second : Regex)
  | opt (body : Regex)

/-- A position in a text: the character before it and the characters after. -/
structure Cursor where
  before : Option Char
  rest : List Char
deriving DecidableEq, Repr

/-- The lengths of the matches at a position, the preferred one first. -/
abbrev Matcher := Option Char → List Char → List Nat

/-- Is the optional neighbouring character a word character? -/
def wordSide (isWord : Char → Bool) : Option Char → Bool
  | none => false
  | some char => isWord char

@[simp]
theorem wordSide_none (isWord : Char → Bool) :
    wordSide isWord none = false := rfl

@[simp]
theorem wordSide_some (isWord : Char → Bool) (char : Char) :
    wordSide isWord (some char) = isWord char := rfl

/-- `\b`: exactly one side of the position is a word character. -/
def atBoundary (isWord : Char → Bool)
    (before : Option Char) (rest : List Char) : Bool :=
  wordSide isWord before != wordSide isWord rest.head?

/-- Greedy `[...]+`: the longest run first, then every shorter one. -/
def runMany1 (accepts : Char → Bool) : List Char → List Cursor
  | [] => []
  | char :: rest =>
      if accepts char then
        runMany1 accepts rest ++ [⟨some char, rest⟩]
      else []

/-- Every match of a pattern at a cursor, in the order they are tried. -/
def Regex.run (isWord : Char → Bool) : Regex → Cursor → List Cursor
  | .empty, cursor => [cursor]
  | .charClass accepts, cursor =>
      match cursor.rest with
      | [] => []
      | char :: rest =>
          if accepts char then [⟨some char, rest⟩] else []
  | .many1 accepts, cursor => runMany1 accepts cursor.rest
  | .wordBoundary, cursor =>
      if atBoundary isWord cursor.before cursor.rest then [cursor] else []
  | .seq first second, cursor =>
      (first.run isWord cursor).flatMap (second.run isWord)
  | .alt first second, cursor =>
      first.run isWord cursor ++ second.run isWord cursor
  | .opt body, cursor => body.run isWord cursor ++ [cursor]

/-- The lengths of the matches of a pattern, preferred first. -/
def Regex.matcher (isWord : Char → Bool) (pattern : Regex) : Matcher :=
  fun before rest =>
    (pattern.run isWord ⟨before, rest⟩).map fun after =>
      rest.length - after.rest.length

/-- The pattern that spells out a text, each character up to `same`. -/
def spelled (same : Char → Char → Bool) : List Char → Regex
  | [] => .empty
  | char :: rest => .seq (.charClass (same char)) (spelled same rest)

/-- The pattern that matches nothing. -/
def nothing : Regex := .charClass fun _ => false

/-- Ordered alternation of a list of patterns. -/
def anyOf : List Regex → Regex
  | [] => nothing
  | pattern :: rest => .alt pattern (anyOf rest)

/-! ## What each construct matches -/

/-- How long a prefix of `rest` spells `word`, up to `same`. -/
def spells (same : Char → Char → Bool) : List Char → List Char → Bool
  | [], _ => true
  | _ :: _, [] => false
  | char :: word, next :: rest => same char next && spells same word rest

/-- The character before the position `count` characters further on. -/
def beforeAfter (before : Option Char) (rest : List Char) (count : Nat) :
    Option Char :=
  if count = 0 then before else rest[count - 1]?

@[simp]
theorem beforeAfter_zero (before : Option Char) (rest : List Char) :
    beforeAfter before rest 0 = before := by
  simp [beforeAfter]

theorem beforeAfter_succ_cons (before : Option Char) (char : Char)
    (rest : List Char) (count : Nat) :
    beforeAfter before (char :: rest) (count + 1) =
      beforeAfter (some char) rest count := by
  cases count <;> simp [beforeAfter]

theorem spells_length_le
    {same : Char → Char → Bool} {word rest : List Char}
    (matched : spells same word rest = true) :
    word.length ≤ rest.length := by
  induction word generalizing rest with
  | nil => simp
  | cons char word induction =>
      cases rest with
      | nil => simp [spells] at matched
      | cons next rest =>
          simp only [spells, Bool.and_eq_true] at matched
          have tailLe := induction matched.2
          simpa using tailLe

/-- Spelling out a text has at most one match, of the text's own length. -/
theorem run_spelled
    (isWord : Char → Bool) (same : Char → Char → Bool)
    (word : List Char) (before : Option Char) (rest : List Char) :
    (spelled same word).run isWord ⟨before, rest⟩ =
      if spells same word rest then
        [⟨beforeAfter before rest word.length, rest.drop word.length⟩]
      else [] := by
  induction word generalizing before rest with
  | nil => simp [spelled, Regex.run, spells]
  | cons char word induction =>
      cases rest with
      | nil => simp [spelled, Regex.run, spells]
      | cons next rest =>
          by_cases agrees : same char next
          · simp [spelled, Regex.run, spells, agrees, induction,
              beforeAfter_succ_cons]
          · simp [spelled, Regex.run, spells, agrees]

theorem run_anyOf
    (isWord : Char → Bool) (patterns : List Regex) (cursor : Cursor) :
    (anyOf patterns).run isWord cursor =
      patterns.flatMap fun pattern => pattern.run isWord cursor := by
  induction patterns with
  | nil =>
      cases rest : cursor.rest <;>
        simp [anyOf, nothing, Regex.run, rest]
  | cons pattern patterns induction =>
      simp [anyOf, Regex.run, induction]

/-- The engine tries the longest run of a greedy class first. -/
theorem runMany1_eq
    (accepts : Char → Bool) (char : Char) (rest : List Char)
    (accepted : accepts char = true) :
    ∃ shorter,
      runMany1 accepts (char :: rest) =
        ⟨(char :: rest)[(rest.takeWhile accepts).length]?,
          rest.dropWhile accepts⟩ :: shorter := by
  induction rest generalizing char with
  | nil => exact ⟨[], by simp [runMany1, accepted]⟩
  | cons next rest induction =>
      by_cases more : accepts next
      · obtain ⟨shorter, equal⟩ := induction next more
        refine ⟨shorter ++ [⟨some char, next :: rest⟩], ?_⟩
        rw [runMany1, if_pos accepted, equal]
        simp [more]
      · exact ⟨[], by simp [runMany1, accepted, more]⟩

end SupportAssistant.Text.Backtracking
