import SupportAssistant.Text.Exposition

/-!
# Numbers in JSON

A number has a sign, whole digits without a leading zero, a fraction and an
exponent; all but the digits may be missing.  Reading takes as much of each
part as there is.  A number that has neither fraction nor exponent is an
integer.
-/

namespace SupportAssistant.Text.JsonNumbers

open SupportAssistant.Numeric.DecimalFloat
open SupportAssistant.Text.Exposition

/-! ## Reading -/

/-- A minus sign, if there is one. -/
def signPart : List Char → List Char × List Char
  | [] => ([], [])
  | first :: rest =>
      if first = '-' then (['-'], rest) else ([], first :: rest)

/-- `0`, or digits that do not begin with it. -/
def wholePart : List Char → Option (List Char × List Char)
  | [] => none
  | first :: rest =>
      if first = '0' then some (['0'], rest)
      else if first.isDigit then
        some
          (first :: rest.takeWhile Char.isDigit, rest.dropWhile Char.isDigit)
      else none

/-- A point and digits, if there are any. -/
def fractionPart : List Char → List Char × List Char
  | [] => ([], [])
  | first :: rest =>
      if first = '.' ∧ rest.takeWhile Char.isDigit ≠ [] then
        ('.' :: rest.takeWhile Char.isDigit, rest.dropWhile Char.isDigit)
      else ([], first :: rest)

/-- The sign of an exponent, if there is one. -/
def exponentSign : List Char → List Char × List Char
  | [] => ([], [])
  | first :: rest =>
      if first = '-' ∨ first = '+' then ([first], rest)
      else ([], first :: rest)

/-- An `e`, a sign and digits, if there are any. -/
def exponentPart : List Char → List Char × List Char
  | [] => ([], [])
  | first :: rest =>
      if (first = 'e' ∨ first = 'E') ∧
          (exponentSign rest).2.takeWhile Char.isDigit ≠ [] then
        (first :: ((exponentSign rest).1 ++
            (exponentSign rest).2.takeWhile Char.isDigit),
          (exponentSign rest).2.dropWhile Char.isDigit)
      else ([], first :: rest)

/-- The text of a number, whether it is an integer, and what follows it. -/
def munchNumber (text : List Char) : Option (List Char × Bool × List Char) :=
  do
    let (sign, rest) := signPart text
    let (whole, rest) ← wholePart rest
    let (fraction, rest) := fractionPart rest
    let (exponent, rest) := exponentPart rest
    some
      (sign ++ (whole ++ (fraction ++ exponent)),
        fraction.isEmpty && exponent.isEmpty, rest)

/-! ## The grammar -/

inductive IsWhole : List Char → Prop where
  | zero : IsWhole ['0']
  | digits {first : Char} {rest : List Char} (positive : first ≠ '0')
      (digit : first.isDigit = true)
      (digits : ∀ char ∈ rest, char.isDigit = true) :
      IsWhole (first :: rest)

inductive IsFraction : List Char → Prop where
  | missing : IsFraction []
  | digits {digits : List Char} (some : digits ≠ [])
      (all : ∀ char ∈ digits, char.isDigit = true) :
      IsFraction ('.' :: digits)

inductive IsExponent : List Char → Prop where
  | missing : IsExponent []
  | digits {mark : Char} {sign digits : List Char}
      (marked : mark = 'e' ∨ mark = 'E')
      (signed : sign = [] ∨ sign = ['-'] ∨ sign = ['+'])
      (some : digits ≠ []) (all : ∀ char ∈ digits, char.isDigit = true) :
      IsExponent (mark :: (sign ++ digits))

/-- What may follow a number without being part of it. -/
def Follows (rest : List Char) : Prop :=
  ∀ char ∈ rest.head?,
    char.isDigit = false ∧ char ≠ '.' ∧ char ≠ 'e' ∧ char ≠ 'E'

section

variable {digits rest : List Char}

theorem wholePart_written {whole : List Char} (isWhole : IsWhole whole)
    (ends : NoDigit rest) :
    wholePart (whole ++ rest) = some (whole, rest) := by
  cases isWhole with
  | zero => rfl
  | digits positive digit digits =>
      simp only [List.cons_append, wholePart, if_neg positive, digit,
        if_true, takeWhile_digits digits ends, dropWhile_digits digits ends]

theorem fractionPart_written {fraction : List Char}
    (isFraction : IsFraction fraction) (ends : NoDigit rest)
    (unpointed : rest.head? ≠ some '.') :
    fractionPart (fraction ++ rest) = (fraction, rest) := by
  cases isFraction with
  | missing =>
      cases rest with
      | nil => rfl
      | cons first rest =>
          have other : first ≠ '.' := fun same => unpointed (by simp [same])
          simp [fractionPart, other]
  | digits nonempty all =>
      simp [fractionPart, takeWhile_digits all ends,
        dropWhile_digits all ends, nonempty]

theorem exponentSign_written {sign : List Char}
    (signed : sign = [] ∨ sign = ['-'] ∨ sign = ['+'])
    {digits : List Char} (nonempty : digits ≠ [])
    (all : ∀ char ∈ digits, char.isDigit = true) :
    exponentSign (sign ++ (digits ++ rest)) = (sign, digits ++ rest) := by
  rcases signed with rfl | rfl | rfl
  · cases digits with
    | nil => exact absurd rfl nonempty
    | cons first digits =>
        have digit := all first List.mem_cons_self
        have unsigned : ¬(first = '-' ∨ first = '+') := by
          rintro (rfl | rfl) <;> simp at digit
        simp [exponentSign, unsigned]
  · rfl
  · rfl

theorem exponentPart_written {exponent : List Char}
    (isExponent : IsExponent exponent) (ends : Follows rest) :
    exponentPart (exponent ++ rest) = (exponent, rest) := by
  cases isExponent with
  | missing =>
      cases rest with
      | nil => rfl
      | cons first rest =>
          have stops := ends first rfl
          simp [exponentPart, stops]
  | digits marked signed nonempty all =>
      have noDigit : NoDigit rest := fun char first => (ends char first).1
      simp only [List.cons_append, List.append_assoc, exponentPart, marked,
        exponentSign_written signed nonempty all, ne_eq, nonempty,
        takeWhile_digits all noDigit, dropWhile_digits all noDigit,
        not_false_eq_true, and_self, if_true]

end

/-- The parts of a number. -/
structure Parts where
  negative : Bool
  whole : List Char
  fraction : List Char
  exponent : List Char
  isWhole : IsWhole whole
  isFraction : IsFraction fraction
  isExponent : IsExponent exponent

def Parts.sign (parts : Parts) : List Char :=
  if parts.negative then ['-'] else []

def Parts.text (parts : Parts) : List Char :=
  parts.sign ++ (parts.whole ++ (parts.fraction ++ parts.exponent))

theorem signPart_written (parts : Parts) (rest : List Char) :
    signPart (parts.sign ++ (parts.whole ++ rest)) =
      (parts.sign, parts.whole ++ rest) := by
  rcases parts with ⟨negative, whole, fraction, exponent, isWhole, -, -⟩
  cases negative with
  | true => rfl
  | false =>
      cases isWhole with
      | zero => rfl
      | digits positive digit digits =>
          rename_i first behind
          have unsigned : first ≠ '-' := by
            rintro rfl
            simp at digit
          simp [Parts.sign, signPart, unsigned]

/-- Neither digits nor a point go on into an exponent. -/
theorem exponent_ends {exponent rest : List Char}
    (isExponent : IsExponent exponent) (ends : Follows rest) :
    NoDigit (exponent ++ rest) ∧ (exponent ++ rest).head? ≠ some '.' := by
  cases isExponent with
  | missing =>
      refine ⟨fun char first => (ends char first).1, ?_⟩
      intro point
      exact (ends '.' point).2.1 rfl
  | digits marked _ _ _ =>
      rcases marked with rfl | rfl <;> simp [NoDigit]

theorem fraction_ends {fraction rest : List Char}
    (isFraction : IsFraction fraction) (ends : NoDigit rest) :
    NoDigit (fraction ++ rest) := by
  cases isFraction with
  | missing => exact ends
  | digits _ _ => simp [NoDigit]

/-- A number reads as its text, up to whatever may follow it. -/
theorem munchNumber_written (parts : Parts) {rest : List Char}
    (ends : Follows rest) :
    munchNumber (parts.text ++ rest) =
      some
        (parts.text, parts.fraction.isEmpty && parts.exponent.isEmpty,
          rest) := by
  have exponentEnds := exponent_ends parts.isExponent ends
  have fractionEnds := fraction_ends parts.isFraction exponentEnds.1
  have split : parts.text ++ rest =
      parts.sign ++ (parts.whole ++
        (parts.fraction ++ (parts.exponent ++ rest))) := by
    simp [Parts.text]
  rw [munchNumber, split, signPart_written]
  simp only [wholePart_written parts.isWhole fractionEnds,
    fractionPart_written parts.isFraction exponentEnds.1 exponentEnds.2,
    exponentPart_written parts.isExponent ends, Option.bind_eq_bind,
    Option.bind_some, Parts.text]

/-! ## Integers -/

theorem isWhole_toDigits (value : Nat) : IsWhole (Nat.toDigits 10 value) := by
  induction value using Nat.strongRecOn with
  | ind value induction =>
      rcases Nat.lt_or_ge value 10 with small | large
      · rw [Nat.toDigits_of_lt_base small]
        rcases Nat.eq_zero_or_pos value with rfl | positive
        · exact .zero
        · refine .digits ?_ ?_ (by simp)
          · rw [ne_eq, Nat.digitChar_eq_zero]
            omega
          · rw [Nat.isDigit_digitChar]
            exact decide_eq_true small
      · have further : IsWhole (Nat.toDigits 10 (value / 10)) :=
          induction _ (by omega)
        have last : (Nat.digitChar (value % 10)).isDigit = true := by
          rw [Nat.isDigit_digitChar]
          exact decide_eq_true (Nat.mod_lt _ (by decide))
        rw [Nat.toDigits_of_base_le (by decide) large]
        generalize written : Nat.toDigits 10 (value / 10) = digits at further
        cases further with
        | zero =>
            have total := @Nat.ofDigitChars_ten_toDigits (value / 10)
            rw [written] at total
            have none : value / 10 = 0 := by
              rw [← total]
              rfl
            omega
        | digits positive digit digits =>
            refine .digits positive digit ?_
            intro char member
            rcases List.mem_append.mp member with earlier | isLast
            · exact digits char earlier
            · rw [List.mem_singleton.mp isLast]
              exact last

/-- The parts of an integer. -/
def intParts (value : Int) : Parts where
  negative := decide (value < 0)
  whole := Nat.toDigits 10 value.natAbs
  fraction := []
  exponent := []
  isWhole := isWhole_toDigits _
  isFraction := .missing
  isExponent := .missing

theorem text_intParts (value : Int) :
    (intParts value).text = (toString value).toList := by
  rw [toList_toString]
  by_cases natural : 0 ≤ value
  · have unsigned : ¬value < 0 := by omega
    have same : value.natAbs = value.toNat := by omega
    simp [Parts.text, Parts.sign, intParts, natural, unsigned, same]
  · have signed : value < 0 := by omega
    have same : value.natAbs = (-value).toNat := by omega
    simp [Parts.text, Parts.sign, intParts, natural, signed, same]

end SupportAssistant.Text.JsonNumbers
