import SupportAssistant.Text.Tokens

/-!
# The tokens that survive blanking

Matches of one pattern are replaced by a separator; the tokens of the result
are compared with the tokens of the original text.  Under the hypothesis that
no replaced match cuts a token, `words_tokens_replaced` identifies them: they
are the tokens outside the replaced matches, in the same order.
-/

namespace SupportAssistant.Text.Blanking

open SupportAssistant.Text.Scan
open SupportAssistant.Text.Tokens

/-- The position lies strictly inside the occurrence. -/
def Crosses (occurrence : Occurrence) (position : Nat) : Prop :=
  occurrence.start < position ∧ position < occurrence.stop

/-- Neither end of a blanked stretch lies strictly inside a token. -/
def Uncut (blanked found : List Occurrence) : Prop :=
  ∀ hit ∈ blanked, ∀ token ∈ found,
    ¬ Crosses token hit.start ∧ ¬ Crosses token hit.stop

/-- The token lies outside every blanked stretch. -/
def outside (blanked : List Occurrence) (token : Occurrence) : Bool :=
  blanked.all fun hit =>
    decide (token.stop ≤ hit.start) || decide (hit.stop ≤ token.start)

theorem outside_iff {blanked : List Occurrence} {token : Occurrence} :
    outside blanked token = true ↔
      ∀ hit ∈ blanked, token.stop ≤ hit.start ∨ hit.stop ≤ token.start := by
  simp [outside]

/-- An uncut token that is not outside the blanked stretches is inside one. -/
theorem inside_of_not_outside
    {blanked found : List Occurrence} {token : Occurrence}
    (uncut : Uncut blanked found)
    (isFound : token ∈ found)
    (notOutside : ¬ outside blanked token = true) :
    ∃ hit ∈ blanked, hit.start ≤ token.start ∧ token.stop ≤ hit.stop := by
  rw [outside_iff] at notOutside
  push Not at notOutside
  obtain ⟨hit, isHit, startBefore, stopBehind⟩ := notOutside
  have notCut := uncut hit isHit token isFound
  simp only [Crosses] at notCut
  exact ⟨hit, isHit, by omega, by omega⟩

/-! ## Splitting the pieces of a text at an uncrossed position -/

theorem exists_split
    {pieces : List Piece} {start position : Nat}
    (within : position ≤ (source pieces).length)
    (uncrossed : ∀ occurrence ∈ occurrences start pieces,
      ¬ Crosses occurrence (start + position)) :
    ∃ front back, pieces = front ++ back ∧
      (source front).length = position := by
  induction pieces generalizing start position with
  | nil => exact ⟨[], [], rfl, by simpa using within.antisymm' (Nat.zero_le _)⟩
  | cons piece pieces induction =>
      rcases Nat.eq_zero_or_pos position with rfl | positive
      · exact ⟨[], piece :: pieces, rfl, rfl⟩
      · have pieceLe : piece.source.length ≤ position := by
          cases piece with
          | kept char =>
              simp only [Piece.source, List.length_singleton]
              omega
          | hit word =>
              have notCut := uncrossed ⟨start, word⟩ (by simp [occurrences])
              simp only [Crosses, Occurrence.stop] at notCut
              simp only [Piece.source]
              omega
        have restUncrossed :
            ∀ occurrence ∈
              occurrences (start + piece.source.length) pieces,
              ¬ Crosses occurrence
                (start + piece.source.length +
                  (position - piece.source.length)) := by
          intro occurrence found
          have same :
              start + piece.source.length +
                (position - piece.source.length) =
                  start + position := by
            omega
          rw [same]
          apply uncrossed
          cases piece with
          | kept char => exact found
          | hit word => exact List.mem_cons_of_mem _ found
        have restWithin :
            position - piece.source.length ≤ (source pieces).length := by
          simp only [source_cons, List.length_append] at within
          omega
        obtain ⟨front, back, rfl, length⟩ :=
          induction restWithin restUncrossed
        refine ⟨piece :: front, back, rfl, ?_⟩
        simp only [source_cons, List.length_append, length]
        omega

/-- A text cut where no token is has the tokens of its two parts. -/
theorem tokens_append
    {munch : Munch} (stable : Stable munch)
    {start : Nat} {left right : List Char}
    (uncrossed : ∀ occurrence ∈
      occurrences start (tokens munch (left ++ right)),
      ¬ Crosses occurrence (start + left.length)) :
    tokens munch (left ++ right) =
      tokens munch left ++ tokens munch right := by
  obtain ⟨front, back, split, length⟩ :=
    exists_split (by simp) uncrossed
  have frontSource : source front = left := by
    have whole := congrArg source split
    rw [source_tokens, source_append] at whole
    exact (List.append_inj whole length.symm).1.symm
  obtain ⟨leftTokens, rightTokens⟩ :=
    tokens_of_split stable split frontSource
  rw [split, leftTokens, rightTokens]

/-! ## Tokens of a blanked text -/

theorem occurrence_length_pos
    {munch : Munch} (stable : Stable munch)
    {start : Nat} {text : List Char} {token : Occurrence}
    (found : token ∈ occurrences start (tokens munch text)) :
    token.start < token.stop := by
  have positive := token_pos stable (word_mem_of_occurrence found)
  simp only [Occurrence.stop]
  omega

/-- A blanked stretch hides the tokens in it and no other. -/
private theorem filter_outside_cons
    {munch : Munch} (stable : Stable munch)
    {start : Nat} {left word right : List Char}
    {later : List Occurrence}
    (behind : ∀ hit ∈ later,
      start + left.length + word.length ≤ hit.start) :
    (occurrences start
        (tokens munch left ++ (tokens munch word ++ tokens munch right))
      ).filter (outside (⟨start + left.length, word⟩ :: later)) =
      occurrences start (tokens munch left) ++
        (occurrences (start + left.length + word.length)
          (tokens munch right)).filter (outside later) := by
  rw [occurrences_append, occurrences_append, source_tokens, source_tokens,
    List.filter_append, List.filter_append]
  have leftKept :
      (occurrences start (tokens munch left)).filter
          (outside (⟨start + left.length, word⟩ :: later)) =
        occurrences start (tokens munch left) := by
    rw [List.filter_eq_self]
    intro token found
    have bounds := occurrence_bounds found
    rw [source_tokens] at bounds
    rw [outside_iff]
    intro hit isHit
    left
    rcases List.mem_cons.mp isHit with rfl | isLater
    · exact bounds.2
    · have := behind hit isLater
      omega
  have wordHidden :
      (occurrences (start + left.length) (tokens munch word)).filter
          (outside (⟨start + left.length, word⟩ :: later)) = [] := by
    rw [List.filter_eq_nil_iff]
    intro token found isOutside
    have bounds := occurrence_bounds found
    have positive := occurrence_length_pos stable found
    rw [source_tokens] at bounds
    have apart := outside_iff.mp isOutside _ List.mem_cons_self
    simp only [Occurrence.stop] at apart positive bounds
    omega
  have rightSame :
      (occurrences (start + left.length + word.length)
          (tokens munch right)).filter
          (outside (⟨start + left.length, word⟩ :: later)) =
        (occurrences (start + left.length + word.length)
          (tokens munch right)).filter (outside later) := by
    apply List.filter_congr
    intro token found
    have bounds := occurrence_bounds found
    have afterWord :
        (⟨start + left.length, word⟩ : Occurrence).stop ≤ token.start :=
      bounds.1
    simp [outside, afterWord]
  rw [leftKept, wordHidden, rightSame, List.nil_append]

/--
Blanking that cuts no token leaves exactly the tokens outside the blanked
stretches.  `pending` is the text already passed over since the last stretch.
-/
theorem words_tokens_replaced
    {munch : Munch} (stable : Stable munch)
    {blank : Char} (separates : Separates munch blank)
    (pieces : List Piece) (pending : List Char) (start : Nat)
    (uncut : Uncut (occurrences (start + pending.length) pieces)
      (occurrences start (tokens munch (pending ++ source pieces)))) :
    words (tokens munch (pending ++ replaced [blank] pieces)) =
      ((occurrences start (tokens munch (pending ++ source pieces))).filter
        (outside (occurrences (start + pending.length) pieces))).map
          Occurrence.word := by
  induction pieces generalizing pending start with
  | nil =>
      simp only [replaced_nil, source_nil, List.append_nil, occurrences]
      rw [List.filter_eq_self.mpr (by simp [outside]), map_word_occurrences]
  | cons piece pieces induction =>
      cases piece with
      | kept char =>
          have step := induction (pending ++ [char]) start
          simp only [List.length_append, List.length_singleton,
            List.append_assoc, List.singleton_append] at step
          exact step uncut
      | hit word =>
          have notCut := uncut _ List.mem_cons_self
          simp only [source_cons, Piece.source] at notCut uncut ⊢
          have cutLeft :
              tokens munch (pending ++ (word ++ source pieces)) =
                tokens munch pending ++
                  tokens munch (word ++ source pieces) :=
            tokens_append stable fun token found => (notCut token found).1
          have cutRight :
              tokens munch (word ++ source pieces) =
                tokens munch word ++ tokens munch (source pieces) := by
            refine @tokens_append _ stable (start + pending.length) _ _ ?_
            intro token found
            refine (notCut token ?_).2
            rw [cutLeft, occurrences_append, source_tokens]
            exact List.mem_append_right _ found
          have laterUncut :
              Uncut
                (occurrences (start + pending.length + word.length) pieces)
                (occurrences (start + pending.length + word.length)
                  (tokens munch (source pieces))) := by
            intro hit isHit token found
            refine uncut hit (List.mem_cons_of_mem _ isHit) token ?_
            rw [cutLeft, cutRight, occurrences_append, occurrences_append,
              source_tokens, source_tokens]
            exact List.mem_append_right _ (List.mem_append_right _ found)
          have later :=
            induction [] (start + pending.length + word.length)
              (by simpa using laterUncut)
          simp only [List.nil_append, List.length_nil, Nat.add_zero] at later
          rw [cutLeft, cutRight, occurrences]
          rw [filter_outside_cons stable fun hit isHit =>
            (occurrence_bounds isHit).1]
          simp only [replaced_cons, Piece.replaced, List.singleton_append]
          rw [tokens_separated stable separates, words_append, words_kept,
            later, List.map_append, map_word_occurrences]

end SupportAssistant.Text.Blanking
