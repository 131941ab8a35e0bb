import Mathlib.Data.List.TakeWhile
import SupportAssistant.Text.Scan

/-!
# Maximal-munch tokens, and what substitution does to them

Many patterns look only forward: whether a token starts at a position, and how
long it is, depends on the text from there on.  Such a pattern is a `Munch`.
A stable munch does not change its mind about a token when the text behind
the token is cut off, so a text may be cut wherever no token is cut.

The main result compares the tokens of a text with the tokens left after some
stretches of it were blanked out.  If no blanked stretch cuts a token, the
tokens left are exactly those outside the stretches.
-/

namespace SupportAssistant.Text.Tokens

open SupportAssistant.Text.Backtracking
open SupportAssistant.Text.Scan

/-- The length of the token a text begins with, zero when there is none. -/
abbrev Munch := List Char → Nat

/-- The matcher that takes the token a position begins with. -/
def Munch.matcher (munch : Munch) : Matcher :=
  fun _ rest => if munch rest = 0 then [] else [munch rest]

/-- A text cut into tokens and the characters between them. -/
def tokens (munch : Munch) (text : List Char) : List Piece :=
  scan (Munch.matcher munch) 0 none text

/-- Cutting the text off behind a token leaves the token as it is. -/
structure Stable (munch : Munch) : Prop where
  length_le (text : List Char) : munch text ≤ text.length
  append (text rest : List Char) :
    munch (text ++ rest) ≤ text.length → munch text = munch (text ++ rest)

/-- No token that begins before the tail reaches into it. -/
def Breaks (munch : Munch) (tail : List Char) : Prop :=
  ∀ text, munch (text ++ tail) ≤ text.length

/-- No token contains the character. -/
def Separates (munch : Munch) (char : Char) : Prop :=
  ∀ text rest, munch (text ++ char :: rest) ≤ text.length

/-! ## Unfolding the walk -/

@[simp]
theorem emptyHits_matcher
    (munch : Munch) (before : Option Char) (rest : List Char) :
    emptyHits (Munch.matcher munch) before rest = [] := by
  unfold emptyHits Munch.matcher
  split <;> simp_all

theorem firstNonempty_matcher
    (munch : Munch) (before : Option Char) (rest : List Char) :
    firstNonempty (Munch.matcher munch) before rest =
      if munch rest = 0 then none else some (munch rest) := by
  unfold firstNonempty Munch.matcher
  split
  · rfl
  · simp [Nat.pos_of_ne_zero ‹_›]

/-- Tokens do not depend on the character before the text. -/
theorem scan_matcher_before
    (munch : Munch) (skip : Nat) (before : Option Char)
    (text : List Char) :
    scan (Munch.matcher munch) skip before text =
      scan (Munch.matcher munch) skip none text := by
  cases text with
  | nil => cases skip <;> simp [scan]
  | cons char rest =>
      cases skip <;> simp [scan, firstNonempty_matcher]

/-- A matcher that prefers the token cuts a text into its tokens. -/
theorem scan_eq_tokens
    {matcher : Matcher} {munch : Munch}
    (prefers : ∀ before rest, (matcher before rest).head? =
      if munch rest = 0 then none else some (munch rest))
    (text : List Char) :
    scan matcher 0 none text = tokens munch text := by
  have cases : ∀ before rest,
      (munch rest = 0 ∧ matcher before rest = []) ∨
        (munch rest ≠ 0 ∧ ∃ shorter,
          matcher before rest = munch rest :: shorter) := by
    intro before rest
    have head := prefers before rest
    by_cases none : munch rest = 0
    · rw [if_pos none] at head
      exact Or.inl ⟨none, List.head?_eq_none_iff.mp head⟩
    · rw [if_neg none] at head
      exact Or.inr ⟨none, List.head?_eq_some_iff.mp head⟩
  apply scan_congr
  · intro before rest
    rw [emptyHits_matcher]
    rcases cases before rest with ⟨-, empty⟩ | ⟨positive, shorter, equal⟩
    · simp [emptyHits, empty]
    · simp [emptyHits, equal, positive]
  · intro before rest
    rw [firstNonempty_matcher]
    rcases cases before rest with ⟨none, empty⟩ | ⟨positive, shorter, equal⟩
    · simp [firstNonempty, empty, none]
    · simp [firstNonempty, equal, positive, Nat.pos_of_ne_zero positive]

@[simp]
theorem tokens_nil (munch : Munch) : tokens munch [] = [] := by
  simp [tokens, scan]

theorem tokens_of_zero
    {munch : Munch} {char : Char} {rest : List Char}
    (none : munch (char :: rest) = 0) :
    tokens munch (char :: rest) = .kept char :: tokens munch rest := by
  rw [tokens, scan, firstNonempty_matcher, if_pos none]
  simp [tokens, scan_matcher_before munch 0 (some char)]

theorem tokens_of_pos
    {munch : Munch} (stable : Stable munch) {text : List Char}
    (positive : 0 < munch text) :
    tokens munch text =
      .hit (text.take (munch text)) ::
        tokens munch (text.drop (munch text)) := by
  cases text with
  | nil => simpa using Nat.lt_of_lt_of_le positive (stable.length_le [])
  | cons char rest =>
      have bound := stable.length_le (char :: rest)
      have within : munch (char :: rest) - 1 ≤ rest.length := by
        simp only [List.length_cons] at bound
        omega
      rw [tokens, scan, firstNonempty_matcher, if_neg (by omega)]
      simp only [emptyHits_matcher, List.nil_append, tokens]
      rw [scan_skip _ _ within, scan_matcher_before]
      congr 2
      obtain ⟨length, equal⟩ := Nat.exists_eq_add_of_lt positive
      simp [equal]

@[simp]
theorem source_tokens (munch : Munch) (text : List Char) :
    source (tokens munch text) = text := by
  simp [tokens, source_scan]

/-- Every token is one that some text begins with. -/
theorem exists_munch
    {munch : Munch} (stable : Stable munch) {text word : List Char}
    (found : word ∈ words (tokens munch text)) :
    ∃ rest, 0 < munch rest ∧ word = rest.take (munch rest) := by
  induction length : text.length using Nat.strong_induction_on
    generalizing text with
  | _ length induction =>
      cases text with
      | nil => simp at found
      | cons char rest =>
          by_cases none : munch (char :: rest) = 0
          · rw [tokens_of_zero none, words_kept] at found
            exact induction rest.length (by simp [← length]) found rfl
          · have positive := Nat.pos_of_ne_zero none
            have bound := stable.length_le (char :: rest)
            rw [tokens_of_pos stable positive, words_hit] at found
            rcases List.mem_cons.mp found with here | later
            · exact ⟨char :: rest, positive, here⟩
            · refine induction _ ?_ later rfl
              rw [← length, List.length_drop]
              omega

theorem token_pos
    {munch : Munch} (stable : Stable munch) {text word : List Char}
    (found : word ∈ words (tokens munch text)) :
    0 < word.length := by
  rcases exists_munch stable found with ⟨rest, positive, rfl⟩
  have bound := stable.length_le rest
  rw [List.length_take]
  omega

/-! ## Cutting a text between tokens -/

/-- A text cut between two of its tokens has the tokens of its two parts. -/
theorem tokens_of_split
    {munch : Munch} (stable : Stable munch)
    {left right : List Char} {front back : List Piece}
    (split : tokens munch (left ++ right) = front ++ back)
    (leftSource : source front = left) :
    tokens munch left = front ∧ tokens munch right = back := by
  induction front generalizing left with
  | nil =>
      obtain rfl : left = [] := by simpa using leftSource.symm
      exact ⟨by simp, by simpa using split⟩
  | cons piece front induction =>
      subst leftSource
      cases piece with
      | kept char =>
          simp only [source_cons, Piece.source, List.cons_append,
            List.nil_append] at split ⊢
          by_cases none : munch (char :: (source front ++ right)) = 0
          · rw [tokens_of_zero none] at split
            obtain ⟨frontTokens, backTokens⟩ :=
              induction (List.cons.inj split).2 rfl
            have leftNone : munch (char :: source front) = 0 := by
              rw [stable.append (char :: source front) right (by simp [none])]
              exact none
            exact ⟨by rw [tokens_of_zero leftNone, frontTokens], backTokens⟩
          · rw [tokens_of_pos stable (Nat.pos_of_ne_zero none)] at split
            simp at split
      | hit word =>
          simp only [source_cons, Piece.source, List.append_assoc,
            List.cons_append] at split ⊢
          by_cases none : munch (word ++ (source front ++ right)) = 0
          · cases whole : word ++ (source front ++ right) with
            | nil => simp [whole] at split
            | cons char rest =>
                rw [whole] at none split
                rw [tokens_of_zero none] at split
                simp at split
          · have positive := Nat.pos_of_ne_zero none
            rw [tokens_of_pos stable positive] at split
            obtain ⟨taken, rest⟩ := List.cons.inj split
            have wordTaken := Piece.hit.inj taken
            have bound :=
              stable.length_le (word ++ (source front ++ right))
            have length :
                munch (word ++ (source front ++ right)) = word.length := by
              have := congrArg List.length wordTaken
              rw [List.length_take] at this
              omega
            rw [length, List.drop_left] at rest
            obtain ⟨frontTokens, backTokens⟩ := induction rest rfl
            have same :
                munch (word ++ source front) = word.length := by
              rw [stable.append (word ++ source front) right, List.append_assoc,
                length]
              rw [List.append_assoc, length]
              simp
            refine ⟨?_, backTokens⟩
            rw [tokens_of_pos stable (by omega), same, List.take_left,
              List.drop_left, frontTokens]

/-- A text none of whose tails reaches into the next keeps its tokens. -/
theorem tokens_of_tails
    {munch : Munch} (stable : Stable munch) {left right : List Char}
    (breaks : ∀ tail, tail ≠ [] → tail <:+ left →
      munch (tail ++ right) ≤ tail.length) :
    tokens munch (left ++ right) = tokens munch left ++ tokens munch right := by
  induction length : left.length using Nat.strong_induction_on
    generalizing left with
  | _ length induction =>
      cases left with
      | nil => simp
      | cons first left =>
          have same := stable.append (first :: left) right
            (breaks _ (by simp) List.suffix_rfl)
          have bound := stable.length_le (first :: left)
          have later : ∀ rest, rest <:+ first :: left →
              rest.length < (first :: left).length →
              tokens munch (rest ++ right) =
                tokens munch rest ++ tokens munch right := by
            intro rest isTail shorter
            exact induction rest.length (by omega)
              (fun tail nonempty ends =>
                breaks tail nonempty (ends.trans isTail)) rfl
          by_cases none : munch (first :: left) = 0
          · have noneLong : munch (first :: (left ++ right)) = 0 := by
              rw [← none, same, List.cons_append]
            rw [List.cons_append, tokens_of_zero none,
              tokens_of_zero noneLong,
              later left (List.suffix_cons first left) (by simp),
              List.cons_append]
          · have positive := Nat.pos_of_ne_zero none
            rw [tokens_of_pos stable positive,
              tokens_of_pos stable (by omega), ← same,
              List.take_append_of_le_length bound,
              List.drop_append_of_le_length bound,
              later _ (List.drop_suffix _ _) (by
                rw [List.length_drop]
                omega),
              List.cons_append]

/-- A text followed by one that no token reaches into keeps its tokens. -/
theorem tokens_breaks
    {munch : Munch} (stable : Stable munch)
    {right : List Char} (breaks : Breaks munch right) (left : List Char) :
    tokens munch (left ++ right) = tokens munch left ++ tokens munch right :=
  tokens_of_tails stable fun tail _ _ => breaks tail

/-- A separator stands between the tokens of the texts on its two sides. -/
theorem tokens_separated
    {munch : Munch} (stable : Stable munch)
    {char : Char} (separates : Separates munch char)
    (left right : List Char) :
    tokens munch (left ++ char :: right) =
      tokens munch left ++ .kept char :: tokens munch right := by
  have none : munch (char :: right) = 0 := by
    simpa using separates [] right
  rw [tokens_breaks stable (fun text => separates text right),
    tokens_of_zero none]

end SupportAssistant.Text.Tokens
