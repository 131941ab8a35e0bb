import Mathlib.Algebra.Order.Ring.Rat
import Mathlib.Algebra.Order.Field.Power
import Mathlib.Data.List.TakeWhile
import Mathlib.Tactic.IntervalCases
import Mathlib.Tactic.Linarith
import Mathlib.Tactic.FieldSimp
import Mathlib.Tactic.Ring

/-!
# Decimal floating point

The decimal numbers of the general decimal arithmetic specification: a sign, a
coefficient and a power of ten, next to the infinities and the two kinds of
not-a-number.  Comparison is numeric, so one number has many
representations.  The module fixes the two conversions with text: reading a
numeric string, and writing a number with a fixed number of places, rounded
half to even.

Reading takes the digits of any script.  Which characters are digits and which
are blanks is an `Alphabet`.
-/

namespace SupportAssistant.Numeric.DecimalFloat

/-- A sign, a coefficient and a power of ten. -/
structure Finite where
  negative : Bool
  coefficient : Nat
  exponent : Int
deriving DecidableEq, Repr

/-- A decimal number, or one of the special values. -/
inductive Decimal where
  | finite (number : Finite)
  | infinite (negative : Bool)
  | nan
  | signallingNan
deriving DecidableEq, Repr

/-- The digits and blanks of a character set. -/
structure Alphabet where
  digit : Char → Option Nat
  isSpace : Char → Bool
  ascii (char : Char) :
    char.toNat < 128 →
      digit char =
        if char.isDigit then some (char.toNat - '0'.toNat) else none
  digit_lt_ten (char : Char) (value : Nat) :
    digit char = some value → value < 10
  space_not_digit (char : Char) :
    isSpace char = true → digit char = none
  asciiSpace (char : Char) :
    char.toNat < 128 →
      isSpace char =
        (char == ' ' || (9 ≤ char.toNat && char.toNat ≤ 13) ||
          (28 ≤ char.toNat && char.toNat ≤ 31))

/-! ## Numeric equality -/

def Finite.signed (number : Finite) : Int :=
  if number.negative then -(number.coefficient : Int) else number.coefficient

/-- The number as a multiple of a power of ten no greater than its own. -/
def Finite.scaled (number : Finite) (exponent : Int) : Int :=
  number.signed * 10 ^ (number.exponent - exponent).toNat

/-- Do the two representations stand for the same number? -/
def Finite.same (left right : Finite) : Bool :=
  let exponent := min left.exponent right.exponent
  left.scaled exponent == right.scaled exponent

/-- The number a representation stands for. -/
def Finite.value (number : Finite) : ℚ :=
  number.signed * (10 : ℚ) ^ number.exponent

/-- Does the number occur among the decimals, up to representation? -/
def Finite.isIn (number : Finite) (decimals : List Decimal) : Bool :=
  decimals.any fun
    | .finite other => number.same other
    | _ => false

theorem Finite.value_eq_scaled
    (number : Finite) {exponent : Int}
    (below : exponent ≤ number.exponent) :
    number.value = number.scaled exponent * (10 : ℚ) ^ exponent := by
  have split :
      number.exponent =
        ((number.exponent - exponent).toNat : Int) + exponent := by
    omega
  rw [Finite.value, Finite.scaled]
  conv_lhs => rw [split, zpow_add₀ (by norm_num), zpow_natCast]
  push_cast
  ring

theorem Finite.same_iff (left right : Finite) :
    left.same right = true ↔ left.value = right.value := by
  rw [Finite.same, beq_iff_eq,
    left.value_eq_scaled (min_le_left left.exponent right.exponent),
    right.value_eq_scaled (min_le_right left.exponent right.exponent)]
  have positive :
      (10 : ℚ) ^ min left.exponent right.exponent ≠ 0 :=
    zpow_ne_zero _ (by norm_num)
  rw [mul_left_inj' positive, Int.cast_inj]

theorem Finite.isIn_iff (number : Finite) (decimals : List Decimal) :
    number.isIn decimals = true ↔
      ∃ other, .finite other ∈ decimals ∧ number.value = other.value := by
  simp only [Finite.isIn, List.any_eq_true]
  constructor
  · rintro ⟨decimal, member, equal⟩
    cases decimal with
    | finite other => exact ⟨other, member, (same_iff _ _).mp equal⟩
    | infinite => simp at equal
    | nan => simp at equal
    | signallingNan => simp at equal
  · rintro ⟨other, member, equal⟩
    exact ⟨.finite other, member, (same_iff _ _).mpr equal⟩

theorem Finite.isIn_congr
    {left right : Finite} (equal : left.value = right.value)
    (decimals : List Decimal) :
    left.isIn decimals = right.isIn decimals := by
  rw [Bool.eq_iff_iff, isIn_iff, isIn_iff, equal]

/-! ## Reading numeric strings -/

/-- The text without the blanks at its ends. -/
def strip (alphabet : Alphabet) (text : List Char) : List Char :=
  ((text.dropWhile alphabet.isSpace).reverse.dropWhile
    alphabet.isSpace).reverse

/-- A digit of any script becomes the ASCII digit of the same value. -/
def toAscii (alphabet : Alphabet) (char : Char) : Char :=
  match alphabet.digit char with
  | some value => value.digitChar
  | none => char

/-- The string the numeric grammar is applied to. -/
def normalised (alphabet : Alphabet) (text : List Char) : List Char :=
  ((strip alphabet text).filter (· != '_')).map (toAscii alphabet)

def digitsValue (digits : List Char) : Nat :=
  Nat.ofDigitChars 10 digits 0

/-- The exponents for which a decimal can be represented. -/
def inRange (coefficient : Nat) (exponent : Int) : Bool :=
  -1999999999999999997 ≤ exponent &&
    exponent + (Nat.toDigits 10 coefficient).length - 1 ≤
      999999999999999999

/-- An optional sign and a nonempty run of digits. -/
def readExponent : List Char → Option Int
  | '-' :: digits =>
      if digits ≠ [] ∧ digits.all Char.isDigit then
        some (-(digitsValue digits : Int))
      else none
  | '+' :: digits =>
      if digits ≠ [] ∧ digits.all Char.isDigit then
        some (digitsValue digits)
      else none
  | digits =>
      if digits ≠ [] ∧ digits.all Char.isDigit then
        some (digitsValue digits)
      else none

/-- The fractional digits, and what follows them. -/
def readFraction : List Char → List Char × List Char
  | '.' :: rest => (rest.takeWhile Char.isDigit, rest.dropWhile Char.isDigit)
  | rest => ([], rest)

/-- An unsigned number: digits with an optional point and exponent. -/
def readNumber (negative : Bool) (text : List Char) : Option Finite :=
  let whole := text.takeWhile Char.isDigit
  let (fraction, rest) := readFraction (text.dropWhile Char.isDigit)
  let coefficient := digitsValue (whole ++ fraction)
  if whole ++ fraction = [] then none
  else
    match rest with
    -- without an exponent the text itself is too short to leave the range
    | [] => some ⟨negative, coefficient, -(fraction.length : Int)⟩
    | marker :: rest =>
        if marker = 'e' ∨ marker = 'E' then
          match readExponent rest with
          | none => none
          | some shift =>
              let exponent := shift - fraction.length
              if inRange coefficient exponent then
                some ⟨negative, coefficient, exponent⟩
              else none
        else none

/-- A number or the name of a special value, after the sign. -/
def readUnsigned (negative : Bool) (text : List Char) : Option Decimal :=
  let name := text.map Char.toLower
  if name = "inf".toList ∨ name = "infinity".toList then
    some (.infinite negative)
  else if name.take 3 = "nan".toList ∧ (name.drop 3).all Char.isDigit then
    some .nan
  else if name.take 4 = "snan".toList ∧ (name.drop 4).all Char.isDigit then
    some .signallingNan
  else (readNumber negative text).map .finite

def readSigned : List Char → Option Decimal
  | '-' :: rest => readUnsigned true rest
  | '+' :: rest => readUnsigned false rest
  | rest => readUnsigned false rest

/-- `Decimal(text)`; `none` stands for an invalid operation. -/
def ofText (alphabet : Alphabet) (text : List Char) : Option Decimal :=
  readSigned (normalised alphabet text)

/-! ## Writing with a fixed number of places -/

/-- The quotient rounded to the nearest integer, ties to the even one. -/
def roundHalfEven (numerator denominator : Nat) : Nat :=
  let quotient := numerator / denominator
  let twice := 2 * (numerator % denominator)
  if twice < denominator then quotient
  else if denominator < twice then quotient + 1
  else if quotient % 2 = 0 then quotient
  else quotient + 1

/-- The magnitude as a rounded number of units of `10 ^ (-places)`. -/
def Finite.units (places : Nat) (number : Finite) : Nat :=
  match number.exponent + places with
  | .ofNat shift => number.coefficient * 10 ^ shift
  | .negSucc shift => roundHalfEven number.coefficient (10 ^ (shift + 1))

/-- Exactly `places` digits, zeros in front. -/
def padded (places value : Nat) : List Char :=
  (Nat.toDigits 10 value).leftpad places '0'

/-- `format(number, ".<places>f")`. -/
def Finite.fixed (places : Nat) (number : Finite) : List Char :=
  let units := number.units places
  let sign := if number.negative then ['-'] else []
  let whole := Nat.toDigits 10 (units / 10 ^ places)
  if places = 0 then sign ++ whole
  else sign ++ whole ++ '.' :: padded places (units % 10 ^ places)

example :
    String.ofList ((Finite.mk false 42105 (-3)).fixed 2) = "42.10" := by
  decide

/-! ## Plain numerals -/

section Plain

variable (alphabet : Alphabet)

/-- Every character is a digit of some script. -/
def IsDigits (text : List Char) : Prop :=
  ∀ char ∈ text, (alphabet.digit char).isSome = true

theorem digitChar_isDigit {value : Nat} (small : value < 10) :
    value.digitChar.isDigit = true := by
  interval_cases value <;> rfl

theorem digitChar_of_isDigit {char : Char} (isDigit : char.isDigit = true) :
    (char.toNat - '0'.toNat).digitChar = char := by
  obtain ⟨low, high⟩ : 48 ≤ char.toNat ∧ char.toNat ≤ 57 := by
    simpa [Char.isDigit, UInt32.le_iff_toNat_le] using isDigit
  have recover : char = Char.ofNat char.toNat := by simp
  generalize char.toNat = code at *
  subst recover
  interval_cases code <;> rfl

theorem isDigit_lt_128 {char : Char} (isDigit : char.isDigit = true) :
    char.toNat < 128 := by
  obtain ⟨-, high⟩ : 48 ≤ char.toNat ∧ char.toNat ≤ 57 := by
    simpa [Char.isDigit, UInt32.le_iff_toNat_le] using isDigit
  omega

theorem toAscii_of_isDigit {char : Char} (isDigit : char.isDigit = true) :
    toAscii alphabet char = char := by
  simp only [toAscii, alphabet.ascii char (isDigit_lt_128 isDigit),
    isDigit, if_true, digitChar_of_isDigit isDigit]

theorem isDigit_toAscii
    {char : Char} (isDigit : (alphabet.digit char).isSome = true) :
    (toAscii alphabet char).isDigit = true := by
  obtain ⟨value, digit⟩ := Option.isSome_iff_exists.mp isDigit
  simp only [toAscii, digit]
  exact digitChar_isDigit (alphabet.digit_lt_ten char value digit)

theorem isDigits_of_isDigit
    {text : List Char} (all : ∀ char ∈ text, char.isDigit = true) :
    IsDigits alphabet text := by
  intro char member
  have isDigit := all char member
  simp [alphabet.ascii char (isDigit_lt_128 isDigit), isDigit]

theorem map_toAscii_of_isDigit
    {text : List Char} (all : ∀ char ∈ text, char.isDigit = true) :
    text.map (toAscii alphabet) = text := by
  conv_rhs => rw [← List.map_id text]
  apply List.map_congr_left
  intro char member
  exact toAscii_of_isDigit alphabet (all char member)

theorem strip_of_noSpace
    {text : List Char}
    (noSpace : ∀ char ∈ text, alphabet.isSpace char = false) :
    strip alphabet text = text := by
  have unchanged : ∀ list : List Char,
      (∀ char ∈ list, alphabet.isSpace char = false) →
        list.dropWhile alphabet.isSpace = list := by
    intro list none
    cases list with
    | nil => rfl
    | cons char list => simp [none char List.mem_cons_self]
  rw [strip, unchanged text noSpace,
    unchanged text.reverse (by simpa using noSpace), List.reverse_reverse]

/-- Digits, and points between them, are normalised one by one. -/
theorem normalised_plain
    {text : List Char}
    (plain : ∀ char ∈ text,
      (alphabet.digit char).isSome = true ∨ char = '.') :
    normalised alphabet text = text.map (toAscii alphabet) := by
  have noSpace : ∀ char ∈ text, alphabet.isSpace char = false := by
    intro char member
    rcases plain char member with isDigit | rfl
    · by_contra isSpace
      simp [alphabet.space_not_digit char (by simpa using isSpace)] at isDigit
    · rw [alphabet.asciiSpace '.' (by decide)]
      decide
  have noUnderscore : ∀ char ∈ text, (char != '_') = true := by
    intro char member
    rcases plain char member with isDigit | rfl
    · rw [bne_iff_ne]
      rintro rfl
      rw [alphabet.ascii '_' (by decide)] at isDigit
      simp at isDigit
    · rfl
  rw [normalised, strip_of_noSpace alphabet noSpace,
    List.filter_eq_self.mpr noUnderscore]

/-- A text that begins with a digit is no special value and has no sign. -/
theorem readSigned_of_digit
    {char : Char} {rest : List Char} (isDigit : char.isDigit = true) :
    readSigned (char :: rest) =
      (readNumber false (char :: rest)).map .finite := by
  have notLetter : ∀ letter : Char, letter.isDigit = false →
      char.toLower ≠ letter := by
    intro letter notDigit same
    have lower : char.toLower = char := by
      have bounds : 48 ≤ char.toNat ∧ char.toNat ≤ 57 := by
        simpa [Char.isDigit, UInt32.le_iff_toNat_le] using isDigit
      rw [← digitChar_of_isDigit isDigit]
      generalize char.toNat = code at bounds
      obtain ⟨low, high⟩ := bounds
      interval_cases code <;> rfl
    rw [lower] at same
    rw [same, notDigit] at isDigit
    exact Bool.false_ne_true isDigit
  have unsigned :
      readSigned (char :: rest) = readUnsigned false (char :: rest) := by
    unfold readSigned
    split
    · rename_i equal
      obtain ⟨rfl, -⟩ := List.cons.inj equal
      exact absurd isDigit (by decide)
    · rename_i equal
      obtain ⟨rfl, -⟩ := List.cons.inj equal
      exact absurd isDigit (by decide)
    · rfl
  rw [unsigned, readUnsigned]
  simp only [List.map_cons, List.take_succ_cons]
  rw [if_neg, if_neg, if_neg]
  all_goals simp [notLetter]

/-- The digits end here. -/
def NoDigit (rest : List Char) : Prop :=
  ∀ char ∈ rest.head?, char.isDigit = false

theorem takeWhile_digits
    {digits rest : List Char}
    (all : ∀ char ∈ digits, char.isDigit = true)
    (ends : NoDigit rest) :
    (digits ++ rest).takeWhile Char.isDigit = digits := by
  rw [List.takeWhile_append_of_pos all]
  cases rest with
  | nil => simp
  | cons first rest =>
      have stops : first.isDigit = false := ends first rfl
      simp [stops]

theorem dropWhile_digits
    {digits rest : List Char}
    (all : ∀ char ∈ digits, char.isDigit = true)
    (ends : NoDigit rest) :
    (digits ++ rest).dropWhile Char.isDigit = rest := by
  rw [List.dropWhile_append_of_pos all]
  cases rest with
  | nil => rfl
  | cons first rest =>
      have stops : first.isDigit = false := ends first rfl
      simp [stops]

/-- A run of digits of any script reads as the natural number it spells. -/
theorem ofText_digits
    {text : List Char} (nonempty : text ≠ [])
    (digits : IsDigits alphabet text) :
    ofText alphabet text =
      some (.finite
        ⟨false, digitsValue (text.map (toAscii alphabet)), 0⟩) := by
  have all : ∀ char ∈ text.map (toAscii alphabet), char.isDigit = true := by
    intro char member
    obtain ⟨original, isText, rfl⟩ := List.mem_map.mp member
    exact isDigit_toAscii alphabet (digits original isText)
  rw [ofText, normalised_plain alphabet fun char member =>
    Or.inl (digits char member)]
  cases text with
  | nil => exact absurd rfl nonempty
  | cons first others =>
      rw [List.map_cons, readSigned_of_digit (all _ (by simp)),
        ← List.map_cons, readNumber,
        List.takeWhile_eq_self_iff.mpr all,
        List.dropWhile_eq_nil_iff.mpr all]
      simp [readFraction]

/-- Two runs of digits with a point between them read as a fraction. -/
theorem ofText_fraction
    {whole fraction : List Char}
    (wholeNonempty : whole ≠ [])
    (wholeDigits : IsDigits alphabet whole)
    (fractionDigits : IsDigits alphabet fraction) :
    ofText alphabet (whole ++ '.' :: fraction) =
      some (.finite
        ⟨false,
          digitsValue ((whole ++ fraction).map (toAscii alphabet)),
          -(fraction.length : Int)⟩) := by
  have all : ∀ part : List Char, IsDigits alphabet part →
      ∀ char ∈ part.map (toAscii alphabet), char.isDigit = true := by
    intro part digits char member
    obtain ⟨original, isText, rfl⟩ := List.mem_map.mp member
    exact isDigit_toAscii alphabet (digits original isText)
  have point : toAscii alphabet '.' = '.' := by
    simp [toAscii, alphabet.ascii '.' (by decide)]
  have plain : ∀ char ∈ whole ++ '.' :: fraction,
      (alphabet.digit char).isSome = true ∨ char = '.' := by
    intro char member
    rcases List.mem_append.mp member with inWhole | behind
    · exact Or.inl (wholeDigits char inWhole)
    · rcases List.mem_cons.mp behind with rfl | inFraction
      · exact Or.inr rfl
      · exact Or.inl (fractionDigits char inFraction)
  have ends : NoDigit ('.' :: fraction.map (toAscii alphabet)) := by
    simp [NoDigit]
  have rest := all fraction fractionDigits
  have nonempty : whole.map (toAscii alphabet) ≠ [] := by
    simpa using wholeNonempty
  rw [ofText, normalised_plain alphabet plain, List.map_append,
    List.map_cons, point]
  have signed :
      readSigned
          (whole.map (toAscii alphabet) ++
            '.' :: fraction.map (toAscii alphabet)) =
        (readNumber false
          (whole.map (toAscii alphabet) ++
            '.' :: fraction.map (toAscii alphabet))).map .finite := by
    cases whole with
    | nil => exact absurd rfl wholeNonempty
    | cons first others =>
        exact readSigned_of_digit (all _ wholeDigits _ (by simp))
  rw [signed, readNumber, takeWhile_digits (all whole wholeDigits) ends,
    dropWhile_digits (all whole wholeDigits) ends]
  simp only [readFraction, List.takeWhile_eq_self_iff.mpr rest,
    List.dropWhile_eq_nil_iff.mpr rest]
  simp [wholeNonempty]

end Plain

/-! ## Rounding is exact on multiples of a unit -/

theorem roundHalfEven_mul (quotient : Nat) {denominator : Nat}
    (positive : 0 < denominator) :
    roundHalfEven (quotient * denominator) denominator = quotient := by
  simp [roundHalfEven, positive]

theorem Finite.natAbs_signed (number : Finite) :
    number.signed.natAbs = number.coefficient := by
  unfold signed
  split <;> simp

/-- A number with no digits beyond its places is written exactly. -/
theorem Finite.units_of_integral
    {number : Finite} {places count : Nat}
    (integral : number.value * 10 ^ places = count) :
    number.units places = count := by
  have shifted :
      (number.signed : ℚ) * (10 : ℚ) ^ (number.exponent + places) =
        count := by
    rw [zpow_add₀ (by norm_num), zpow_natCast, ← mul_assoc]
    exact integral
  unfold units
  cases shift : number.exponent + places with
  | ofNat power =>
      rw [shift, Int.ofNat_eq_natCast, zpow_natCast] at shifted
      have exact : number.signed * 10 ^ power = count := by
        exact_mod_cast shifted
      have magnitude := congrArg Int.natAbs exact
      simpa [Int.natAbs_mul, Int.natAbs_pow, natAbs_signed] using magnitude
  | negSucc power =>
      rw [shift, zpow_negSucc] at shifted
      have exact :
          number.signed = count * 10 ^ (power + 1) := by
        have cleared :
            (number.signed : ℚ) = count * 10 ^ (power + 1) := by
          rw [← shifted]
          field_simp
        exact_mod_cast cleared
      have magnitude := congrArg Int.natAbs exact
      rw [Int.natAbs_mul, Int.natAbs_pow, natAbs_signed,
        Int.natAbs_natCast] at magnitude
      simp only [magnitude]
      exact roundHalfEven_mul count (by positivity)

/-! ## Reading back what was written -/

theorem isDigit_toDigits {value : Nat} {char : Char}
    (member : char ∈ Nat.toDigits 10 value) :
    char.isDigit = true :=
  Nat.isDigit_of_mem_toDigits (by decide) (by decide) member

theorem length_padded {places value : Nat} (small : value < 10 ^ places)
    (positive : 0 < places) :
    (padded places value).length = places := by
  have bound :=
    (Nat.length_toDigits_le_iff (by decide : 1 < 10) positive).mpr small
  rw [padded, List.length_leftpad]
  omega

theorem isDigit_padded {places value : Nat} {char : Char}
    (member : char ∈ padded places value) :
    char.isDigit = true := by
  rw [padded, List.leftpad] at member
  rcases List.mem_append.mp member with zero | digit
  · rw [List.eq_of_mem_replicate zero]
    rfl
  · exact isDigit_toDigits digit

theorem digitsValue_append_padded
    {places whole value : Nat} (small : value < 10 ^ places)
    (positive : 0 < places) :
    digitsValue (Nat.toDigits 10 whole ++ padded places value) =
      whole * 10 ^ places + value := by
  have length := length_padded small positive
  have fraction : Nat.ofDigitChars 10 (padded places value) 0 = value := by
    rw [padded, List.leftpad, Nat.ofDigitChars_append]
    simp
  rw [digitsValue, Nat.ofDigitChars_append,
    Nat.ofDigitChars_eq_ofDigitChars_zero, fraction, length,
    Nat.ofDigitChars_ten_toDigits, Nat.mul_comm]

/-- The digits of a number written with a fixed number of places. -/
def Finite.magnitude (places : Nat) (number : Finite) : List Char :=
  Nat.toDigits 10 (number.units places / 10 ^ places) ++
    '.' :: padded places (number.units places % 10 ^ places)

theorem Finite.fixed_eq_magnitude
    {places : Nat} (positive : 0 < places) (number : Finite) :
    number.fixed places =
      (if number.negative then ['-'] else []) ++
        number.magnitude places := by
  rw [fixed, if_neg (by omega), magnitude, List.append_assoc]

/-- The digits written for a number read back as its rounded magnitude. -/
theorem Finite.ofText_magnitude
    (alphabet : Alphabet) {places : Nat} (positive : 0 < places)
    (number : Finite) :
    ofText alphabet (number.magnitude places) =
      some (.finite ⟨false, number.units places, -(places : Int)⟩) := by
  have small : number.units places % 10 ^ places < 10 ^ places :=
    Nat.mod_lt _ (by positivity)
  have wholeDigits :
      ∀ char ∈ Nat.toDigits 10 (number.units places / 10 ^ places),
        char.isDigit = true :=
    fun _ member => isDigit_toDigits member
  have fractionDigits :
      ∀ char ∈ padded places (number.units places % 10 ^ places),
        char.isDigit = true :=
    fun _ member => isDigit_padded member
  have allDigits :
      ∀ char ∈
        Nat.toDigits 10 (number.units places / 10 ^ places) ++
          padded places (number.units places % 10 ^ places),
        char.isDigit = true := by
    intro char member
    exact (List.mem_append.mp member).elim
      (wholeDigits char) (fractionDigits char)
  rw [magnitude, ofText_fraction alphabet Nat.toDigits_ne_nil
      (isDigits_of_isDigit alphabet wholeDigits)
      (isDigits_of_isDigit alphabet fractionDigits),
    map_toAscii_of_isDigit alphabet allDigits,
    digitsValue_append_padded small positive, length_padded small positive,
    Nat.div_add_mod']

/-- What was written reads back as the same number, if it was exact. -/
theorem Finite.value_of_units
    {number : Finite} {places count : Nat}
    (integral : number.value * 10 ^ places = count) :
    (Finite.mk false (number.units places) (-(places : Int))).value =
      number.value := by
  rw [units_of_integral integral, value, signed]
  have positive : (10 : ℚ) ^ places ≠ 0 := by positivity
  rw [eq_comm, zpow_neg, zpow_natCast, eq_mul_inv_iff_mul_eq₀ positive,
    integral]
  simp

end SupportAssistant.Numeric.DecimalFloat
