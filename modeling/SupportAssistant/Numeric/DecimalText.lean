import SupportAssistant.Numeric.DecimalFloat

/-!
# The text of a decimal

The conversion of a decimal to a scientific string.  Without an exponent if
the point stands among the digits or closely in front of them, and with one
otherwise.  Sign, coefficient and exponent are read back from it as they were.
-/

namespace SupportAssistant.Numeric.DecimalFloat

/-! ## Writing -/

/-- The digits before the point and those after it. -/
def pointedAt (place : Int) (digits : List Char) : List Char × List Char :=
  if place ≤ 0 then
    (['0'], List.replicate (-place).toNat '0' ++ digits)
  else (digits.take place.toNat, digits.drop place.toNat)

/-- The fraction with its point, if there is one. -/
def fractionText (fraction : List Char) : List Char :=
  if fraction = [] then [] else '.' :: fraction

/-- `"E%+d"`, unless the exponent is zero. -/
def shiftText (shift : Int) : List Char :=
  if shift = 0 then []
  else
    'E' :: (if shift < 0 then '-' else '+') :: Nat.toDigits 10 shift.natAbs

/-- How many of the digits stand before the point of the number. -/
def Finite.leading (number : Finite) : Int :=
  number.exponent + (Nat.toDigits 10 number.coefficient).length

/-- How many of the digits are written before the point. -/
def Finite.place (number : Finite) : Int :=
  if number.exponent ≤ 0 ∧ -6 < number.leading then number.leading else 1

/-- The digits, point and exponent of a number. -/
def Finite.unsignedText (number : Finite) : List Char :=
  let (whole, fraction) :=
    pointedAt number.place (Nat.toDigits 10 number.coefficient)
  whole ++
    (fractionText fraction ++ shiftText (number.leading - number.place))

/-- `str(number)`. -/
def Finite.text (number : Finite) : List Char :=
  (if number.negative then ['-'] else []) ++ number.unsignedText

example :
    [Finite.mk true 4210 (-2), ⟨false, 5, -7⟩, ⟨false, 0, 3⟩].map
        (fun number => String.ofList number.text) =
      ["-42.10", "5E-7", "0E+3"] := by
  decide

/-! ## Reading the parts -/

/-- Behind the sign, a text that begins with a digit is a number. -/
theorem readUnsigned_of_digit
    (negative : Bool) {char : Char} {rest : List Char}
    (isDigit : char.isDigit = true) :
    readUnsigned negative (char :: rest) =
      (readNumber negative (char :: rest)).map .finite := by
  have unsigned : readUnsigned false (char :: rest) =
      (readNumber false (char :: rest)).map .finite := by
    rw [← readSigned_of_digit isDigit]
    unfold readSigned
    split
    · rename_i equal
      rcases List.cons.inj equal with ⟨rfl, -⟩
      exact absurd isDigit (by decide)
    · rename_i equal
      rcases List.cons.inj equal with ⟨rfl, -⟩
      exact absurd isDigit (by decide)
    · rfl
  have number : ∀ special,
      (readNumber false (char :: rest)).map Decimal.finite = some special →
        ∃ finite, special = .finite finite := by
    intro special isSpecial
    rcases Option.map_eq_some_iff.mp isSpecial with ⟨finite, -, rfl⟩
    exact ⟨finite, rfl⟩
  -- the name of a special value does not depend on the sign
  simp only [readUnsigned] at unsigned ⊢
  split_ifs at unsigned with infinite nan signalling
  · rcases number _ unsigned.symm with ⟨finite, same⟩
    cases same
  · rcases number _ unsigned.symm with ⟨finite, same⟩
    cases same
  · rcases number _ unsigned.symm with ⟨finite, same⟩
    cases same
  · rw [if_neg infinite, if_neg nan, if_neg signalling]

theorem readExponent_signed {shift : Int} :
    readExponent
        ((if shift < 0 then '-' else '+') ::
          Nat.toDigits 10 shift.natAbs) =
      some shift := by
  have digits : Nat.toDigits 10 shift.natAbs ≠ [] ∧
      (Nat.toDigits 10 shift.natAbs).all Char.isDigit = true :=
    ⟨Nat.toDigits_ne_nil,
      List.all_eq_true.mpr fun _ member => isDigit_toDigits member⟩
  have value : digitsValue (Nat.toDigits 10 shift.natAbs) = shift.natAbs :=
    Nat.ofDigitChars_ten_toDigits
  by_cases negative : shift < 0
  · rw [if_pos negative]
    simp only [readExponent]
    rw [if_pos digits, value]
    congr 1
    omega
  · rw [if_neg negative]
    simp only [readExponent]
    rw [if_pos digits, value]
    congr 1
    omega

/-- What stands behind the digits does not begin with one. -/
theorem span_digits
    {digits rest : List Char}
    (all : ∀ char ∈ digits, char.isDigit = true)
    (stops : ∀ char ∈ rest.head?, char.isDigit = false) :
    (digits ++ rest).takeWhile Char.isDigit = digits ∧
      (digits ++ rest).dropWhile Char.isDigit = rest := by
  rw [List.takeWhile_append_of_pos all, List.dropWhile_append_of_pos all]
  cases rest with
  | nil => simp
  | cons char rest =>
      have stop : char.isDigit = false := stops char rfl
      simp [stop]

theorem shiftText_stops (shift : Int) :
    ∀ char ∈ (shiftText shift).head?, char.isDigit = false := by
  intro char isHead
  rw [shiftText] at isHead
  split at isHead
  · cases isHead
  · cases Option.mem_some_iff.mp isHead
    rfl

theorem fractionText_stops (fraction : List Char) (shift : Int) :
    ∀ char ∈ (fractionText fraction ++ shiftText shift).head?,
      char.isDigit = false := by
  intro char isHead
  rw [fractionText] at isHead
  split at isHead
  · exact shiftText_stops shift char isHead
  · cases Option.mem_some_iff.mp isHead
    rfl

theorem readFraction_text
    {fraction : List Char}
    (all : ∀ char ∈ fraction, char.isDigit = true) (shift : Int) :
    readFraction (fractionText fraction ++ shiftText shift) =
      (fraction, shiftText shift) := by
  have spans := span_digits all (shiftText_stops shift)
  rw [fractionText]
  split
  · rename_i empty
    rw [empty, List.nil_append, shiftText]
    split <;> rfl
  · show ((fraction ++ shiftText shift).takeWhile Char.isDigit,
      (fraction ++ shiftText shift).dropWhile Char.isDigit) = _
    rw [spans.1, spans.2]

/-- The parts of a written number are read one by one. -/
theorem readNumber_text
    (negative : Bool) {whole fraction : List Char} {shift : Int}
    (begun : whole ≠ [])
    (wholeDigits : ∀ char ∈ whole, char.isDigit = true)
    (fractionDigits : ∀ char ∈ fraction, char.isDigit = true)
    (bounded :
      inRange (digitsValue (whole ++ fraction))
        (shift - fraction.length) = true) :
    readNumber negative
        (whole ++ (fractionText fraction ++ shiftText shift)) =
      some
        ⟨negative, digitsValue (whole ++ fraction),
          shift - fraction.length⟩ := by
  have spans := span_digits wholeDigits (fractionText_stops fraction shift)
  have nonempty : whole ++ fraction ≠ [] := by
    simp [begun]
  rw [readNumber, spans.1, spans.2, readFraction_text fractionDigits]
  simp only [if_neg nonempty]
  by_cases zero : shift = 0
  · rw [shiftText, if_pos zero, zero, Int.zero_sub]
  · rw [shiftText, if_neg zero]
    simp only [readExponent_signed, or_true, if_true, bounded]

/-! ## The written text is plain -/

/-- A character that normalising leaves as it is. -/
def Kept (char : Char) : Prop :=
  char.isDigit = true ∨ char ∈ ['-', '+', '.', 'E']

section

variable {alphabet : Alphabet}

theorem Kept.unchanged {char : Char} (kept : Kept char) :
    alphabet.isSpace char = false ∧ char ≠ '_' ∧
      toAscii alphabet char = char := by
  rcases kept with isDigit | isMark
  · have small := isDigit_lt_128 isDigit
    refine ⟨?_, ?_, toAscii_of_isDigit alphabet isDigit⟩
    · by_contra isSpace
      have noDigit :=
        alphabet.space_not_digit char (by simpa using isSpace)
      rw [alphabet.ascii char small, if_pos isDigit] at noDigit
      cases noDigit
    · rintro rfl
      exact absurd isDigit (by decide)
  · have mark : char.toNat < 128 ∧ char.isDigit = false ∧ char ≠ '_' ∧
        (char == ' ' || (9 ≤ char.toNat && char.toNat ≤ 13) ||
          (28 ≤ char.toNat && char.toNat ≤ 31)) = false := by
      simp only [List.mem_cons, List.not_mem_nil, or_false] at isMark
      rcases isMark with rfl | rfl | rfl | rfl <;> decide
    rcases mark with ⟨small, noDigit, noUnderscore, noSpace⟩
    refine ⟨?_, noUnderscore, ?_⟩
    · rw [alphabet.asciiSpace char small, noSpace]
    · rw [toAscii, alphabet.ascii char small, noDigit]
      rfl

theorem normalised_kept
    {text : List Char} (kept : ∀ char ∈ text, Kept char) :
    normalised alphabet text = text := by
  have unchanged := fun char member =>
    @Kept.unchanged alphabet char (kept char member)
  rw [normalised,
    strip_of_noSpace alphabet fun char member => (unchanged char member).1,
    List.filter_eq_self.mpr fun char member =>
      bne_iff_ne.mpr (unchanged char member).2.1]
  conv_rhs => rw [← List.map_id text]
  exact List.map_congr_left fun char member => (unchanged char member).2.2

end

/-! ## Reading back -/

theorem digitsValue_zeros (count : Nat) (digits : List Char) :
    digitsValue (List.replicate count '0' ++ digits) =
      digitsValue digits := by
  rw [digitsValue, Nat.ofDigitChars_append]
  simp [digitsValue]

/-- Placing the point moves no digit, and counts the places behind it. -/
theorem pointedAt_parts
    {digits whole fraction : List Char} {place : Int}
    (placed : pointedAt place digits = (whole, fraction))
    (begun : digits ≠ []) (all : ∀ char ∈ digits, char.isDigit = true)
    (within : place ≤ digits.length) :
    whole ≠ [] ∧ (∀ char ∈ whole ++ fraction, char.isDigit = true) ∧
      digitsValue (whole ++ fraction) = digitsValue digits ∧
        (fraction.length : Int) = digits.length - place := by
  rw [pointedAt] at placed
  split at placed
  · rename_i front
    cases placed
    refine ⟨List.cons_ne_nil _ _, ?_,
      digitsValue_zeros ((-place).toNat + 1) digits, ?_⟩
    · intro char member
      rcases List.mem_append.mp member with zero | behind
      · cases List.mem_singleton.mp zero
        rfl
      · rcases List.mem_append.mp behind with zero | digit
        · rw [List.eq_of_mem_replicate zero]
          rfl
        · exact all char digit
    · rw [List.length_append, List.length_replicate]
      omega
  · rename_i inside
    cases placed
    rw [List.take_append_drop, List.length_drop]
    refine ⟨?_, all, rfl, by omega⟩
    rw [Ne, List.take_eq_nil_iff]
    rintro (none | none)
    · omega
    · exact begun none

theorem Finite.place_le (number : Finite) :
    number.place ≤ (Nat.toDigits 10 number.coefficient).length := by
  have length : 0 < (Nat.toDigits 10 number.coefficient).length :=
    List.length_pos_iff.mpr Nat.toDigits_ne_nil
  rw [place, leading]
  split <;> omega

/-- The text consists of the digits and the exponent of the number. -/
theorem Finite.unsignedText_parts (number : Finite) :
    ∃ whole fraction shift,
      number.unsignedText =
          whole ++ (fractionText fraction ++ shiftText shift) ∧
        whole ≠ [] ∧ (∀ char ∈ whole ++ fraction, char.isDigit = true) ∧
          digitsValue (whole ++ fraction) = number.coefficient ∧
            shift - fraction.length = number.exponent := by
  generalize placed :
    pointedAt number.place (Nat.toDigits 10 number.coefficient) = parts
  rcases parts with ⟨whole, fraction⟩
  rcases pointedAt_parts placed Nat.toDigits_ne_nil
      (fun _ member => isDigit_toDigits member) number.place_le with
    ⟨begun, digits, same, places⟩
  refine ⟨whole, fraction, number.leading - number.place, ?_, begun,
    digits, same.trans Nat.ofDigitChars_ten_toDigits, ?_⟩
  · rw [unsignedText, placed]
  · rw [places, leading]
    ring

/-- A number within the range is read back from its text as it was. -/
theorem Finite.readNumber_unsignedText
    {number : Finite} (negative : Bool)
    (bounded : inRange number.coefficient number.exponent = true) :
    readNumber negative number.unsignedText =
      some ⟨negative, number.coefficient, number.exponent⟩ := by
  rcases number.unsignedText_parts with
    ⟨whole, fraction, shift, text, begun, digits, value, exponent⟩
  rw [← value, ← exponent] at bounded
  rw [text, readNumber_text negative begun
    (fun char member => digits char (List.mem_append_left _ member))
    (fun char member => digits char (List.mem_append_right _ member))
    bounded, value, exponent]

theorem kept_shiftText (shift : Int) :
    ∀ char ∈ shiftText shift, Kept char := by
  intro char member
  rw [shiftText] at member
  split at member
  · cases member
  · rcases List.mem_cons.mp member with rfl | behind
    · exact Or.inr (by decide)
    · rcases List.mem_cons.mp behind with rfl | digit
      · split <;> exact Or.inr (by decide)
      · exact Or.inl (isDigit_toDigits digit)

theorem kept_fractionText
    {fraction : List Char}
    (all : ∀ char ∈ fraction, char.isDigit = true) :
    ∀ char ∈ fractionText fraction, Kept char := by
  intro char member
  rw [fractionText] at member
  split at member
  · cases member
  · rcases List.mem_cons.mp member with rfl | digit
    · exact Or.inr (by decide)
    · exact Or.inl (all char digit)

theorem Finite.kept_unsignedText (number : Finite) :
    ∀ char ∈ number.unsignedText, Kept char := by
  rcases number.unsignedText_parts with
    ⟨whole, fraction, shift, text, -, digits, -⟩
  intro char member
  rw [text] at member
  rcases List.mem_append.mp member with isWhole | behind
  · exact Or.inl (digits char (List.mem_append_left _ isWhole))
  · rcases List.mem_append.mp behind with isFraction | isShift
    · exact kept_fractionText
        (fun char digit => digits char (List.mem_append_right _ digit))
        char isFraction
    · exact kept_shiftText shift char isShift

theorem Finite.kept_text (number : Finite) :
    ∀ char ∈ number.text, Kept char := by
  intro char member
  rcases List.mem_append.mp member with sign | behind
  · split at sign
    · cases List.mem_singleton.mp sign
      exact Or.inr (by decide)
    · cases sign
  · exact number.kept_unsignedText char behind

/-- `Decimal(str(number))` is the number, sign and exponent included. -/
theorem Finite.ofText_text
    (alphabet : Alphabet) {number : Finite}
    (bounded : inRange number.coefficient number.exponent = true) :
    ofText alphabet number.text = some (.finite number) := by
  have begins : ∃ char rest, number.unsignedText = char :: rest ∧
      char.isDigit = true := by
    rcases number.unsignedText_parts with
      ⟨whole, fraction, shift, text, begun, digits, -⟩
    cases whole with
    | nil => exact absurd rfl begun
    | cons char whole =>
        exact ⟨char, _, text, digits char (List.mem_cons_self)⟩
  rcases begins with ⟨char, rest, begins, isDigit⟩
  have unsigned : ∀ negative,
      readUnsigned negative number.unsignedText =
        some (.finite
          ⟨negative, number.coefficient, number.exponent⟩) := by
    intro negative
    rw [begins, readUnsigned_of_digit negative isDigit, ← begins,
      Finite.readNumber_unsignedText negative bounded]
    rfl
  rw [ofText, normalised_kept number.kept_text, text]
  cases negative : number.negative with
  | true =>
      show readUnsigned true number.unsignedText = _
      rw [unsigned, ← negative]
  | false =>
      show readSigned number.unsignedText = _
      rw [begins, readSigned_of_digit isDigit, ← begins,
        Finite.readNumber_unsignedText false bounded, ← negative]
      rfl

end SupportAssistant.Numeric.DecimalFloat
