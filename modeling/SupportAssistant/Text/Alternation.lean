import Mathlib.Data.List.Dedup
import Mathlib.Data.List.Sort
import SupportAssistant.Text.WholeWords

/-!
# Alternations of literal texts

An alternation of literal texts, the longest first.  Between word boundaries
it matches the whole words that one of the texts spells.  On its own it matches
at every position the longest text that stands there, so that what it matches
depends on the set of the texts alone.
-/

namespace SupportAssistant.Text.Alternation

open SupportAssistant.Text.Backtracking
open SupportAssistant.Text.Scan
open SupportAssistant.Text.WholeWords

/-- Ordering by length, the longer text first. -/
def Longer (first second : List Char) : Prop :=
  second.length ≤ first.length

instance : DecidableRel Longer :=
  fun first second => Nat.decLe second.length first.length

instance : Std.Total Longer :=
  ⟨fun first second => Nat.le_total second.length first.length⟩

instance : IsTrans (List Char) Longer :=
  ⟨fun _ _ _ firstLonger secondLonger =>
    Nat.le_trans secondLonger firstLonger⟩

/-- The distinct texts, longest first. -/
def longestFirst (texts : List (List Char)) : List (List Char) :=
  texts.dedup.insertionSort Longer

/-- The alternation of the texts, each character read up to `same`. -/
def alternation (same : Char → Char → Bool)
    (texts : List (List Char)) : Regex :=
  anyOf ((longestFirst texts).map (spelled same))

/-- Plain equality of characters. -/
def exactly (left right : Char) : Bool := left == right

@[simp]
theorem mem_longestFirst
    {texts : List (List Char)} {text : List Char} :
    text ∈ longestFirst texts ↔ text ∈ texts := by
  simp [longestFirst]

theorem spells_exactly {word rest : List Char} :
    spells exactly word rest = true ↔ word <+: rest := by
  induction word generalizing rest with
  | nil => simp [spells]
  | cons char word induction =>
      cases rest with
      | nil => simp [spells]
      | cons next rest => simp [spells, exactly, induction]

/-- The matches of an alternation, in the order of the texts. -/
theorem run_alternation
    (isWord : Char → Bool) (same : Char → Char → Bool)
    (texts : List (List Char)) (before : Option Char) (rest : List Char) :
    (alternation same texts).run isWord ⟨before, rest⟩ =
      ((longestFirst texts).filter fun text => spells same text rest).map
        fun text =>
          ⟨beforeAfter before rest text.length, rest.drop text.length⟩ := by
  rw [alternation, run_anyOf, List.flatMap_map]
  induction longestFirst texts with
  | nil => rfl
  | cons text texts induction =>
      rw [List.flatMap_cons, induction, run_spelled, List.filter_cons]
      split <;> simp

/-! ## Between word boundaries -/

theorem wordOnly_spelled
    {isWord : Char → Bool} {same : Char → Char → Bool}
    {text : List Char}
    (spelledByWords : ∀ char ∈ text, ∀ next,
      same char next = true → isWord next = true) :
    WordOnly isWord (spelled same text) := by
  induction text with
  | nil => trivial
  | cons char text induction =>
      exact ⟨spelledByWords char List.mem_cons_self,
        induction fun other member =>
          spelledByWords other (List.mem_cons_of_mem _ member)⟩

theorem wordOnly_anyOf
    {isWord : Char → Bool} {patterns : List Regex}
    (each : ∀ pattern ∈ patterns, WordOnly isWord pattern) :
    WordOnly isWord (anyOf patterns) := by
  induction patterns with
  | nil => simp [anyOf, nothing, WordOnly]
  | cons pattern patterns induction =>
      exact ⟨each pattern List.mem_cons_self,
        induction fun other member =>
          each other (List.mem_cons_of_mem _ member)⟩

theorem consumes_anyOf
    {patterns : List Regex}
    (each : ∀ pattern ∈ patterns, consumes pattern = true) :
    consumes (anyOf patterns) = true := by
  induction patterns with
  | nil => rfl
  | cons pattern patterns induction =>
      simp only [anyOf, consumes, Bool.and_eq_true]
      exact ⟨each pattern List.mem_cons_self,
        induction fun other member =>
          each other (List.mem_cons_of_mem _ member)⟩

theorem wordOnly_alternation
    {isWord : Char → Bool} {same : Char → Char → Bool}
    {texts : List (List Char)}
    (spelledByWords : ∀ text ∈ texts, ∀ char ∈ text, ∀ next,
      same char next = true → isWord next = true) :
    WordOnly isWord (alternation same texts) := by
  apply wordOnly_anyOf
  intro pattern member
  obtain ⟨text, isText, rfl⟩ := List.mem_map.mp member
  exact wordOnly_spelled (spelledByWords text (mem_longestFirst.mp isText))

theorem consumes_alternation
    {same : Char → Char → Bool} {texts : List (List Char)}
    (nonempty : ∀ text ∈ texts, text ≠ []) :
    consumes (alternation same texts) = true := by
  apply consumes_anyOf
  intro pattern member
  obtain ⟨text, isText, rfl⟩ := List.mem_map.mp member
  cases text with
  | nil => exact absurd rfl (nonempty [] (mem_longestFirst.mp isText))
  | cons char text => rfl

/-- An alternation matches the words that one of its texts spells. -/
theorem fullmatch_alternation
    (isWord : Char → Bool) (same : Char → Char → Bool)
    (texts : List (List Char)) (word : List Char) :
    fullmatch isWord (alternation same texts) word = true ↔
      ∃ text ∈ texts, spells same text word = true ∧
        text.length = word.length := by
  simp only [fullmatch, run_alternation, List.any_map, List.any_eq_true,
    Function.comp_apply, List.isEmpty_iff, List.drop_eq_nil_iff]
  constructor
  · rintro ⟨text, member, long⟩
    obtain ⟨isText, spelt⟩ := List.mem_filter.mp member
    exact ⟨text, mem_longestFirst.mp isText, spelt,
      Nat.le_antisymm (spells_length_le spelt) long⟩
  · rintro ⟨text, isText, spelt, length⟩
    exact ⟨text, List.mem_filter.mpr ⟨mem_longestFirst.mpr isText, spelt⟩,
      length.ge⟩

/-! ## On its own -/

theorem matcher_alternation
    (isWord : Char → Bool) (texts : List (List Char))
    (before : Option Char) (rest : List Char) :
    (alternation exactly texts).matcher isWord before rest =
      ((longestFirst texts).filter fun text =>
        spells exactly text rest).map List.length := by
  rw [Regex.matcher, run_alternation, List.map_map]
  apply List.map_congr_left
  intro text member
  have bound := spells_length_le (List.mem_filter.mp member).2
  simp only [Function.comp_apply, List.length_drop]
  omega

theorem matcher_alternation_sorted
    (isWord : Char → Bool) (texts : List (List Char))
    (before : Option Char) (rest : List Char) :
    ((alternation exactly texts).matcher isWord before rest).Pairwise
      (· ≥ ·) := by
  rw [matcher_alternation, List.pairwise_map]
  exact (List.pairwise_insertionSort Longer _).filter _

theorem mem_matcher_alternation
    {isWord : Char → Bool} {texts : List (List Char)}
    {before : Option Char} {rest : List Char} {length : Nat} :
    length ∈ (alternation exactly texts).matcher isWord before rest ↔
      ∃ text ∈ texts, text <+: rest ∧ text.length = length := by
  simp [matcher_alternation, spells_exactly, and_assoc]

private theorem head?_sorted_congr
    {left right : List Nat}
    (leftSorted : left.Pairwise (· ≥ ·))
    (rightSorted : right.Pairwise (· ≥ ·))
    (same : ∀ length, length ∈ left ↔ length ∈ right) :
    left.head? = right.head? := by
  cases left with
  | nil =>
      cases right with
      | nil => rfl
      | cons first others => simpa using same first
  | cons first others =>
      cases right with
      | nil => simpa using same first
      | cons other more =>
          have firstMem := (same first).mp List.mem_cons_self
          have otherMem := (same other).mpr List.mem_cons_self
          have firstLe : first ≤ other := by
            rcases List.mem_cons.mp firstMem with rfl | later
            · exact Nat.le_refl _
            · exact List.rel_of_pairwise_cons rightSorted later
          have otherLe : other ≤ first := by
            rcases List.mem_cons.mp otherMem with rfl | later
            · exact Nat.le_refl _
            · exact List.rel_of_pairwise_cons leftSorted later
          simp [Nat.le_antisymm firstLe otherLe]

/-- In a descending list the first positive length is the head, if any. -/
private theorem find?_pos_sorted
    {lengths : List Nat} (sorted : lengths.Pairwise (· ≥ ·)) :
    lengths.find? (0 < ·) = lengths.head?.filter (0 < ·) := by
  cases lengths with
  | nil => rfl
  | cons first others =>
      rcases Nat.eq_zero_or_pos first with rfl | positive
      · simp only [List.find?_cons, lt_self_iff_false, decide_false,
          List.head?_cons, Option.filter_some, Bool.false_eq_true, if_false]
        rw [List.find?_eq_none]
        intro other member
        have := List.rel_of_pairwise_cons sorted member
        simp only [decide_eq_true_eq]
        omega
      · simp [positive, Option.filter_some]

/-- What an alternation matches depends on the set of its texts alone. -/
theorem scan_alternation_congr
    (isWord : Char → Bool) {left right : List (List Char)}
    (same : ∀ text, text ∈ left ↔ text ∈ right)
    (skip : Nat) (before : Option Char) (text : List Char) :
    scan ((alternation exactly left).matcher isWord) skip before text =
      scan ((alternation exactly right).matcher isWord)
        skip before text := by
  have sameHead : ∀ before rest,
      ((alternation exactly left).matcher isWord before rest).head? =
        ((alternation exactly right).matcher isWord before rest).head? := by
    intro before rest
    apply head?_sorted_congr (matcher_alternation_sorted _ _ _ _)
      (matcher_alternation_sorted _ _ _ _)
    intro length
    simp only [mem_matcher_alternation, same]
  apply scan_congr
  · intro before rest
    simp only [emptyHits, sameHead]
  · intro before rest
    simp only [firstNonempty,
      find?_pos_sorted (matcher_alternation_sorted _ _ _ _), sameHead]

/-- Every match of an alternation is one of its texts. -/
theorem mem_of_occurrence
    {isWord : Char → Bool} {texts : List (List Char)}
    {text : List Char} {occurrence : Occurrence}
    (found : occurrence ∈
      finditer ((alternation exactly texts).matcher isWord) text) :
    occurrence.word ∈ texts := by
  obtain ⟨previous, behind, length, offered, word⟩ :=
    occurrence_matched found
  obtain ⟨entry, isEntry, stands, rfl⟩ :=
    mem_matcher_alternation.mp offered
  rw [word, ← List.prefix_iff_eq_take.mp stands]
  exact isEntry

end SupportAssistant.Text.Alternation
