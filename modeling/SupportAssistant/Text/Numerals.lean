import SupportAssistant.Text.Alternation

/-!
# Numerals

`[0-9]+(?:[sep][0-9]+)?` as a token: a run of digits, taken together with one
separated second run if there is one.
-/

namespace SupportAssistant.Text.Numerals

open SupportAssistant.Text.Backtracking
open SupportAssistant.Text.Scan
open SupportAssistant.Text.Tokens
open SupportAssistant.Text.WholeWords

/-- Digits, and optionally a separator and more digits. -/
def numeral (isDigit isSeparator : Char → Bool) : Regex :=
  .seq (.many1 isDigit)
    (.opt (.seq (.charClass isSeparator) (.many1 isDigit)))

/-- The length of the separated second run, separator included. -/
def fractionMunch (isDigit isSeparator : Char → Bool) : Munch
  | [] => 0
  | separator :: rest =>
      if isSeparator separator && 0 < wordMunch isDigit rest then
        1 + wordMunch isDigit rest
      else 0

/-- The length of the numeral a text begins with. -/
def numeralMunch (isDigit isSeparator : Char → Bool) : Munch :=
  fun text =>
    let whole := wordMunch isDigit text
    if whole = 0 then 0
    else whole + fractionMunch isDigit isSeparator (text.drop whole)

section

variable {isDigit isSeparator : Char → Bool}

theorem wordMunch_append_short
    {text : List Char}
    (short : wordMunch isDigit text < text.length)
    (rest : List Char) :
    wordMunch isDigit (text ++ rest) = wordMunch isDigit text := by
  rw [wordMunch] at short
  simp only [wordMunch, List.takeWhile_append]
  rw [if_neg (by omega)]

theorem wordMunch_append_full
    {text : List Char}
    (full : wordMunch isDigit text = text.length)
    (rest : List Char) :
    wordMunch isDigit (text ++ rest) =
      text.length + wordMunch isDigit rest := by
  rw [wordMunch] at full
  simp only [wordMunch, List.takeWhile_append]
  rw [if_pos full, List.length_append]

theorem fractionMunch_append_cons
    {separator : Char} {fraction rest : List Char}
    (short : fractionMunch isDigit isSeparator
      (separator :: fraction ++ rest) ≤ fraction.length + 1) :
    fractionMunch isDigit isSeparator (separator :: fraction) =
      fractionMunch isDigit isSeparator (separator :: fraction ++ rest) := by
  simp only [List.cons_append, fractionMunch] at short ⊢
  cases isSep : isSeparator separator with
  | false => simp
  | true =>
      rw [isSep] at short
      have same :
          wordMunch isDigit fraction = wordMunch isDigit (fraction ++ rest) := by
        apply (wordMunch_stable isDigit).append
        split at short
        · omega
        · rename_i noDigits
          simp only [Bool.true_and, decide_eq_true_eq] at noDigits
          omega
      rw [same]

theorem numeralMunch_stable :
    Stable (numeralMunch isDigit isSeparator) where
  length_le text := by
    have wholeLe := (wordMunch_stable isDigit).length_le text
    simp only [numeralMunch]
    split
    · exact Nat.zero_le _
    · cases behind : text.drop (wordMunch isDigit text) with
      | nil => simpa [fractionMunch] using wholeLe
      | cons separator fraction =>
          have fractionLe := (wordMunch_stable isDigit).length_le fraction
          have length := congrArg List.length behind
          rw [List.length_drop, List.length_cons] at length
          simp only [fractionMunch]
          split <;> omega
  append text rest bound := by
    rcases Nat.lt_or_ge (wordMunch isDigit text) text.length with short | full
    · have same := wordMunch_append_short short rest
      simp only [numeralMunch, same] at bound ⊢
      split
      · rfl
      · rename_i positive
        rw [if_neg positive] at bound
        have dropped :
            (text ++ rest).drop (wordMunch isDigit text) =
              text.drop (wordMunch isDigit text) ++ rest :=
          List.drop_append_of_le_length short.le
        rw [dropped] at bound ⊢
        cases behind : text.drop (wordMunch isDigit text) with
        | nil => simp at behind; omega
        | cons separator fraction =>
            have length := congrArg List.length behind
            rw [List.length_drop, List.length_cons] at length
            rw [behind] at bound
            rw [fractionMunch_append_cons]
            omega
    · have whole : wordMunch isDigit text = text.length :=
        Nat.le_antisymm ((wordMunch_stable isDigit).length_le text) full
      have longer := wordMunch_append_full whole rest
      simp only [numeralMunch, longer] at bound ⊢
      rw [whole]
      split at bound
      · rename_i empty
        rw [if_pos empty, if_pos (by omega)]
      · rename_i positive
        rw [if_neg positive]
        have noMore : wordMunch isDigit rest = 0 := by omega
        rw [noMore, Nat.add_zero] at bound positive ⊢
        rw [if_neg positive, List.drop_length, fractionMunch]
        omega

/-- A character that is neither digit nor separator ends a numeral. -/
theorem numeralMunch_separates
    {char : Char}
    (notDigit : isDigit char = false)
    (notSeparator : isSeparator char = false) :
    Separates (numeralMunch isDigit isSeparator) char := by
  intro text rest
  have digitsStop := wordMunch_separates notDigit
  have wholeLe := digitsStop text rest
  simp only [numeralMunch]
  split
  · exact Nat.zero_le _
  · rw [List.drop_append_of_le_length wholeLe]
    cases behind :
        text.drop (wordMunch isDigit (text ++ char :: rest)) with
    | nil => simpa [fractionMunch, notSeparator] using wholeLe
    | cons separator fraction =>
        have length := congrArg List.length behind
        have fractionLe := digitsStop fraction rest
        rw [List.length_drop, List.length_cons] at length
        simp only [List.cons_append, fractionMunch]
        split <;> omega

/-! ## The shape of a token -/

/-- A numeral is a run of digits, or two of them around a separator. -/
inductive IsNumeral (isDigit isSeparator : Char → Bool) :
    List Char → Prop where
  | digits {whole : List Char}
      (nonempty : whole ≠ [])
      (areDigits : ∀ char ∈ whole, isDigit char = true) :
      IsNumeral isDigit isSeparator whole
  | fraction {whole fraction : List Char} {separator : Char}
      (nonempty : whole ≠ [])
      (areDigits : ∀ char ∈ whole, isDigit char = true)
      (separates : isSeparator separator = true)
      (moreDigits : ∀ char ∈ fraction, isDigit char = true) :
      IsNumeral isDigit isSeparator (whole ++ separator :: fraction)

theorem take_wordMunch (text : List Char) :
    text.take (wordMunch isDigit text) = text.takeWhile isDigit := by
  have whole : text = text.takeWhile isDigit ++ text.dropWhile isDigit :=
    List.takeWhile_append_dropWhile.symm
  have taken := congrArg (List.take (wordMunch isDigit text)) whole
  rwa [wordMunch, List.take_left] at taken

theorem isNumeral_take
    {text : List Char} (positive : 0 < numeralMunch isDigit isSeparator text) :
    IsNumeral isDigit isSeparator
      (text.take (numeralMunch isDigit isSeparator text)) := by
  have all : ∀ word : List Char,
      ∀ char ∈ word.takeWhile isDigit, isDigit char = true :=
    fun word char member => List.mem_takeWhile_imp member
  simp only [numeralMunch] at positive ⊢
  split at positive
  · omega
  · rename_i some
    rw [if_neg some, List.take_add, take_wordMunch]
    have nonempty : text.takeWhile isDigit ≠ [] := by
      intro empty
      exact some (by rw [wordMunch, empty]; rfl)
    cases behind : text.drop (wordMunch isDigit text) with
    | nil =>
        rw [List.take_nil, List.append_nil]
        exact .digits nonempty (all text)
    | cons separator rest =>
        simp only [fractionMunch]
        split
        · rename_i both
          rw [Bool.and_eq_true] at both
          rw [Nat.add_comm, List.take_succ_cons, take_wordMunch]
          exact .fraction nonempty (all text) both.1 (all rest)
        · rw [List.take_zero, List.append_nil]
          exact .digits nonempty (all text)

theorem isNumeral_of_token
    {text word : List Char}
    (found : word ∈ words (tokens (numeralMunch isDigit isSeparator) text)) :
    IsNumeral isDigit isSeparator word := by
  rcases exists_munch numeralMunch_stable found with ⟨rest, positive, rfl⟩
  exact isNumeral_take positive

/-! ## The pattern takes the token -/

/-- The longest run of a greedy class is the one tried first. -/
theorem runMany1_head
    (accepts : Char → Bool) (text : List Char)
    (positive : wordMunch accepts text ≠ 0) :
    ∃ last shorter,
      runMany1 accepts text =
        ⟨last, text.drop (wordMunch accepts text)⟩ :: shorter := by
  cases text with
  | nil => simp [wordMunch] at positive
  | cons char rest =>
      have accepted : accepts char = true := by
        by_contra rejected
        simp [wordMunch, rejected] at positive
      obtain ⟨shorter, equal⟩ := runMany1_eq accepts char rest accepted
      exact ⟨(char :: rest)[(rest.takeWhile accepts).length]?, shorter, by
        rw [equal, drop_wordMunch, List.dropWhile_cons_of_pos accepted]⟩

theorem runMany1_empty
    (accepts : Char → Bool) (text : List Char)
    (none : wordMunch accepts text = 0) :
    runMany1 accepts text = [] := by
  cases text with
  | nil => rfl
  | cons char rest =>
      by_cases accepted : accepts char
      · simp [wordMunch, accepted] at none
      · simp [runMany1, accepted]

/-- The engine prefers the whole numeral. -/
theorem head?_numeral
    (isWord : Char → Bool) (before : Option Char) (text : List Char) :
    ((numeral isDigit isSeparator).matcher isWord before text).head? =
      if numeralMunch isDigit isSeparator text = 0 then none
      else some (numeralMunch isDigit isSeparator text) := by
  simp only [Regex.matcher, numeral, Regex.run]
  by_cases none : wordMunch isDigit text = 0
  · simp [runMany1_empty isDigit text none, numeralMunch, none]
  · obtain ⟨last, shorter, runs⟩ := runMany1_head isDigit text none
    have wholeLe := (wordMunch_stable isDigit).length_le text
    rw [runs, List.flatMap_cons]
    simp only [numeralMunch, if_neg none]
    rw [if_neg (by omega)]
    cases behind : text.drop (wordMunch isDigit text) with
    | nil =>
        have length := congrArg List.length behind
        rw [List.length_drop, List.length_nil] at length
        simp only [fractionMunch, List.nil_append, List.flatMap_nil,
          List.cons_append, List.map_cons, List.head?_cons,
          List.length_nil]
        congr 1
        omega
    | cons separator fraction =>
        have length := congrArg List.length behind
        rw [List.length_drop, List.length_cons] at length
        have fractionLe := (wordMunch_stable isDigit).length_le fraction
        by_cases isSep : isSeparator separator
        · simp only [fractionMunch, isSep, if_true, Bool.true_and,
            List.flatMap_singleton]
          by_cases digits : wordMunch isDigit fraction = 0
          · simp only [runMany1_empty isDigit fraction digits, digits,
              List.nil_append, List.cons_append, List.map_cons,
              List.head?_cons, List.length_cons, lt_self_iff_false,
              decide_false, Bool.false_eq_true, if_false]
            congr 1
            omega
          · obtain ⟨end_, others, more⟩ :=
              runMany1_head isDigit fraction digits
            simp only [more, List.cons_append, List.map_cons,
              List.head?_cons, List.length_drop,
              Nat.pos_of_ne_zero digits, decide_true, if_true]
            congr 1
            omega
        · simp only [fractionMunch, isSep, Bool.false_and,
            Bool.false_eq_true, if_false, List.flatMap_nil,
            List.nil_append, List.cons_append, List.map_cons,
            List.head?_cons, List.length_cons]
          congr 1
          omega

theorem scan_numeral
    (isWord : Char → Bool) (text : List Char) :
    scan ((numeral isDigit isSeparator).matcher isWord) 0 none text =
      tokens (numeralMunch isDigit isSeparator) text :=
  scan_eq_tokens (head?_numeral isWord) text

/-! ## Numerals of several groups -/

/-- A run of digits. -/
structure IsGroup (isDigit : Char → Bool) (text : List Char) : Prop where
  nonempty : text ≠ []
  areDigits : ∀ char ∈ text, isDigit char = true

/-- A text of groups of digits joined by single separators. -/
def joined (first : List Char) (rest : List (Char × List Char)) :
    List Char :=
  first ++ rest.flatMap fun next => next.1 :: next.2

/-- The groups taken two at a time, as a numeral takes them. -/
def taken : List Char → List (Char × List Char) → List (List Char)
  | first, [] => [first]
  | first, [(separator, group)] => [first ++ separator :: group]
  | first, (separator, group) :: (_, next) :: rest =>
      (first ++ separator :: group) :: taken next rest

/-- What stands before a numeral and is no part of it. -/
structure EndsBefore (isDigit isSeparator : Char → Bool)
    (front : List Char) : Prop where
  digit : ∀ earlier char, front = earlier ++ [char] → isDigit char = false
  join : ∀ earlier char separator, front = earlier ++ [char, separator] →
    isSeparator separator = true → isDigit char = false

/-- What stands behind a numeral and is no part of it. -/
structure BeginsBehind (isDigit isSeparator : Char → Bool)
    (back : List Char) : Prop where
  digit : ∀ char later, back = char :: later → isDigit char = false
  join : ∀ separator char later, back = separator :: char :: later →
    isSeparator separator = true → isDigit char = false

theorem EndsBefore.tail
    {front tail : List Char}
    (ends : EndsBefore isDigit isSeparator front) (isTail : tail <:+ front) :
    EndsBefore isDigit isSeparator tail := by
  rcases isTail with ⟨earlier, rfl⟩
  constructor
  · rintro first char rfl
    exact ends.digit (earlier ++ first) char (by simp)
  · rintro first char separator rfl
    exact ends.join (earlier ++ first) char separator (by simp)

theorem BeginsBehind.head
    {back head : List Char}
    (begins : BeginsBehind isDigit isSeparator back)
    (isHead : head <+: back) :
    BeginsBehind isDigit isSeparator head := by
  rcases isHead with ⟨later, rfl⟩
  constructor
  · rintro char rest rfl
    exact begins.digit char (rest ++ later) rfl
  · rintro separator char rest rfl
    exact begins.join separator char (rest ++ later) rfl

theorem wordMunch_group
    {group : List Char} (isGroup : IsGroup isDigit group) {back : List Char}
    (stops : ∀ char later, back = char :: later → isDigit char = false) :
    wordMunch isDigit (group ++ back) = group.length := by
  have whole : group.takeWhile isDigit = group :=
    List.takeWhile_eq_self_iff.mpr isGroup.areDigits
  have stopped : back.takeWhile isDigit = [] := by
    cases back with
    | nil => rfl
    | cons char later => simp [stops char later rfl]
  rw [wordMunch, List.takeWhile_append, whole, if_pos rfl, stopped,
    List.append_nil]

/-- A run of digits does not go on behind a text that ends otherwise. -/
theorem wordMunch_lt
    {text : List Char} (nonempty : text ≠ [])
    (ends : ∀ earlier char, text = earlier ++ [char] → isDigit char = false)
    (right : List Char) :
    wordMunch isDigit (text ++ right) < text.length := by
  rcases List.eq_nil_or_concat' text with rfl | ⟨earlier, char, rfl⟩
  · exact absurd rfl nonempty
  · have stops := wordMunch_separates (ends earlier char rfl) earlier right
    rw [List.append_assoc, List.singleton_append, List.length_append]
    simp only [List.length_singleton]
    omega

/-- A run of digits does not reach into a text that begins otherwise. -/
theorem wordMunch_breaks
    {back : List Char}
    (begins : ∀ char later, back = char :: later → isDigit char = false) :
    Breaks (wordMunch isDigit) back := by
  intro text
  cases back with
  | nil =>
      rw [List.append_nil]
      exact (wordMunch_stable isDigit).length_le text
  | cons char later =>
      exact wordMunch_separates (begins char later rfl) text later

/-- A numeral before such a text does not reach into it. -/
theorem BeginsBehind.breaks
    {back : List Char} (begins : BeginsBehind isDigit isSeparator back) :
    Breaks (numeralMunch isDigit isSeparator) back := by
  have digitsStop := wordMunch_breaks begins.digit
  intro text
  have wholeLe := digitsStop text
  simp only [numeralMunch]
  split
  · exact Nat.zero_le _
  · rw [List.drop_append_of_le_length wholeLe]
    cases behind : text.drop (wordMunch isDigit (text ++ back)) with
    | nil =>
        have none : fractionMunch isDigit isSeparator back = 0 := by
          rcases back with _ | ⟨separator, _ | ⟨char, later⟩⟩
          · rfl
          · simp [fractionMunch, wordMunch]
          · rw [fractionMunch, if_neg]
            rw [Bool.and_eq_true, decide_eq_true_eq]
            rintro ⟨separates, digits⟩
            have stops := begins.join separator char later rfl separates
            simp [wordMunch, stops] at digits
        rw [List.nil_append, none]
        exact wholeLe
    | cons separator fraction =>
        have length := congrArg List.length behind
        have fractionLe := digitsStop fraction
        rw [List.length_drop, List.length_cons] at length
        simp only [List.cons_append, fractionMunch]
        split <;> omega

/-- A numeral that begins in such a text does not reach behind it. -/
theorem EndsBefore.munch_le
    {front : List Char} (ends : EndsBefore isDigit isSeparator front)
    (nonempty : front ≠ []) (right : List Char) :
    numeralMunch isDigit isSeparator (front ++ right) ≤ front.length := by
  have wholeLt := wordMunch_lt nonempty ends.digit right
  simp only [numeralMunch]
  split
  · exact Nat.zero_le _
  · rename_i some
    rw [List.drop_append_of_le_length wholeLt.le]
    cases behind : front.drop (wordMunch isDigit (front ++ right)) with
    | nil =>
        have length := congrArg List.length behind
        rw [List.length_drop, List.length_nil] at length
        omega
    | cons separator fraction =>
        have length := congrArg List.length behind
        rw [List.length_drop, List.length_cons] at length
        simp only [List.cons_append, fractionMunch]
        split
        · rename_i both
          rw [Bool.and_eq_true, decide_eq_true_eq] at both
          have goesOn : fraction ≠ [] := by
            rintro rfl
            -- the text would end with a digit and a separator
            have digits :
                front.take (wordMunch isDigit (front ++ right)) =
                  (front ++ right).takeWhile isDigit := by
              rw [← take_wordMunch,
                List.take_append_of_le_length wholeLt.le]
            rcases List.eq_nil_or_concat'
              (front.take (wordMunch isDigit (front ++ right))) with
              empty | ⟨earlier, char, isLast⟩
            · rw [digits] at empty
              exact some (by rw [wordMunch, empty]; rfl)
            · have accepted : isDigit char = true := by
                apply List.mem_takeWhile_imp
                rw [← digits, isLast]
                exact List.mem_append_right _ List.mem_cons_self
              have whole := List.take_append_drop
                (wordMunch isDigit (front ++ right)) front
              rw [isLast, behind, List.append_assoc] at whole
              rw [ends.join earlier char separator whole.symm both.1]
                at accepted
              exact Bool.noConfusion accepted
          have isTail : fraction <:+ front := by
            have ended := List.drop_suffix
              (wordMunch isDigit (front ++ right)) front
            rw [behind] at ended
            exact (List.suffix_cons separator fraction).trans ended
          have fractionLt := wordMunch_lt goesOn (ends.tail isTail).digit
            right
          omega
        · omega

/-- A numeral of several groups, standing by itself, keeps its tokens. -/
theorem tokens_standing
    {front numeral back : List Char}
    (ends : EndsBefore isDigit isSeparator front)
    (begins : BeginsBehind isDigit isSeparator back) :
    tokens (numeralMunch isDigit isSeparator) (front ++ (numeral ++ back)) =
      tokens (numeralMunch isDigit isSeparator) front ++
        (tokens (numeralMunch isDigit isSeparator) numeral ++
          tokens (numeralMunch isDigit isSeparator) back) := by
  have before : ∀ tail, tail ≠ [] → tail <:+ front →
      numeralMunch isDigit isSeparator (tail ++ (numeral ++ back)) ≤
        tail.length :=
    fun tail nonempty isTail => (ends.tail isTail).munch_le nonempty _
  rw [tokens_of_tails numeralMunch_stable before,
    tokens_breaks numeralMunch_stable begins.breaks]

theorem tokens_group
    {group : List Char} (isGroup : IsGroup isDigit group) :
    tokens (numeralMunch isDigit isSeparator) group = [.hit group] := by
  have length : numeralMunch isDigit isSeparator group = group.length := by
    have whole := @wordMunch_group _ group isGroup [] (by simp)
    rw [List.append_nil] at whole
    have positive := List.length_pos_iff.mpr isGroup.nonempty
    simp [numeralMunch, whole, positive.ne', fractionMunch]
  rw [tokens_of_pos numeralMunch_stable (by
      rw [length]
      exact List.length_pos_iff.mpr isGroup.nonempty),
    length, List.take_length, List.drop_length, tokens_nil]

/-- Two groups are one token, and the separator behind them is in none. -/
theorem tokens_two_groups
    (apart : ∀ char, isSeparator char = true → isDigit char = false)
    {first second back : List Char} {separator : Char}
    (isFirst : IsGroup isDigit first) (isSecond : IsGroup isDigit second)
    (separates : isSeparator separator = true)
    (stops : ∀ char later, back = char :: later → isDigit char = false) :
    tokens (numeralMunch isDigit isSeparator)
        (first ++ separator :: second ++ back) =
      .hit (first ++ separator :: second) ::
        tokens (numeralMunch isDigit isSeparator) back := by
  have shape : first ++ separator :: second ++ back =
      first ++ (separator :: (second ++ back)) := by
    simp
  have whole : wordMunch isDigit (first ++ separator :: second ++ back) =
      first.length := by
    rw [shape]
    apply wordMunch_group isFirst
    rintro char later ⟨⟩
    exact apart _ separates
  have length :
      numeralMunch isDigit isSeparator
          (first ++ separator :: second ++ back) =
        (first ++ separator :: second).length := by
    have positive := List.length_pos_iff.mpr isFirst.nonempty
    have more := List.length_pos_iff.mpr isSecond.nonempty
    have both :
        (isSeparator separator && decide (0 < second.length)) = true := by
      simp [separates, more]
    simp only [numeralMunch, whole]
    rw [if_neg positive.ne', shape, List.drop_left, fractionMunch,
      wordMunch_group isSecond stops, if_pos both, List.length_append,
      List.length_cons, Nat.add_comm 1]
  rw [tokens_of_pos numeralMunch_stable (by
      rw [length, List.length_append, List.length_cons]
      omega),
    length, List.take_left, List.drop_left]

/-- A joined text is read two groups at a time. -/
theorem words_tokens_joined
    (apart : ∀ char, isSeparator char = true → isDigit char = false)
    (first : List Char) (rest : List (Char × List Char))
    (isFirst : IsGroup isDigit first)
    (areGroups : ∀ next ∈ rest,
      isSeparator next.1 = true ∧ IsGroup isDigit next.2) :
    words (tokens (numeralMunch isDigit isSeparator) (joined first rest)) =
      taken first rest := by
  induction first, rest using taken.induct with
  | case1 first =>
      rw [joined, List.flatMap_nil, List.append_nil, tokens_group isFirst]
      rfl
  | case2 first separator group =>
      have second := areGroups _ List.mem_cons_self
      have pair := @tokens_two_groups _ _ apart first group [] separator
        isFirst second.2 second.1 (by simp)
      rw [List.append_nil, tokens_nil] at pair
      simp [joined, taken, pair]
  | case3 first separator group separator' next rest induction =>
      have second := areGroups _ List.mem_cons_self
      have third := areGroups _
        (List.mem_cons_of_mem _ List.mem_cons_self)
      have pair := @tokens_two_groups _ _ apart first group
        (separator' :: joined next rest) separator isFirst second.2 second.1
        (by
          rintro char later ⟨⟩
          exact apart _ third.1)
      have shape : joined first
            ((separator, group) :: (separator', next) :: rest) =
          first ++ separator :: group ++ separator' :: joined next rest := by
        simp [joined]
      have between :
          numeralMunch isDigit isSeparator (separator' :: joined next rest) =
            0 := by
        simp [numeralMunch, wordMunch, apart _ third.1]
      rw [shape, pair, tokens_of_zero between, words_hit, words_kept,
        induction third.2 fun other member =>
          areGroups other (List.mem_cons_of_mem _
            (List.mem_cons_of_mem _ member)), taken]

end

end SupportAssistant.Text.Numerals
