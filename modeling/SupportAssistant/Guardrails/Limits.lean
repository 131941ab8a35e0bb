import SupportAssistant.Runtime

/-!
# The iteration cap value

`MAX_ITERATIONS` from the environment, or the default.  A value that is not a
positive integer stops the service at startup.
-/

namespace SupportAssistant.Guardrails.Limits

open SupportAssistant.Numeric.DecimalFloat
open SupportAssistant.Runtime

/-! ## Reading an integer -/

/-- The blanks that `int` skips; in ASCII those are the blanks of C. -/
def intSpace (alphabet : Alphabet) (char : Char) : Bool :=
  if char.toNat < 128 then
    char == ' ' || (9 ≤ char.toNat && char.toNat ≤ 13)
  else alphabet.isSpace char

/-- The text without the blanks at its ends, in ASCII digits. -/
def intText (alphabet : Alphabet) (text : List Char) : List Char :=
  (((text.dropWhile (intSpace alphabet)).reverse.dropWhile
    (intSpace alphabet)).reverse).map (toAscii alphabet)

/-- Digits, and single underscores between them. -/
def grouped : List Char → Bool
  | [] => false
  | [digit] => digit.isDigit
  | digit :: '_' :: rest => digit.isDigit && grouped rest
  | digit :: rest => digit.isDigit && grouped rest

/-- The value of an unsigned number. -/
def readDigits (text : List Char) : Option Nat :=
  let digits := text.filter (· != '_')
  if grouped text && decide (digits.length ≤ maxStrDigits) then
    some (digitsValue digits)
  else none

/-- `int(text)`; `none` stands for a `ValueError`. -/
def parseInt (alphabet : Alphabet) (text : String) : Option Int :=
  match intText alphabet text.toList with
  | '-' :: digits => (readDigits digits).map fun value => -(value : Int)
  | '+' :: digits => (readDigits digits).map fun value => (value : Int)
  | digits => (readDigits digits).map fun value => (value : Int)

/-! ## The cap -/

def defaultMaxIterations : Int := 5

def notAnInteger (py : PyText) (raw : String) : Exc :=
  valueError py ("MAX_ITERATIONS must be an integer, got " ++ py.repr raw)

def notPositive (py : PyText) (value : Int) : Exc :=
  valueError py ("MAX_ITERATIONS must be >= 1, got " ++ toString value)

/-- `MAX_ITERATIONS` from the environment, or the default. -/
def maxIterations (py : PyText) (environ : String → Option String) :
    Except Exc Int :=
  match environ "MAX_ITERATIONS" with
  | none => .ok defaultMaxIterations
  | some raw =>
      match parseInt py.toAlphabet raw with
      | none => .error (notAnInteger py raw)
      | some value =>
          if value < 1 then .error (notPositive py value) else .ok value

/-- The service does not start with a cap that disables the loop. -/
theorem maxIterations_positive {py : PyText}
    {environ : String → Option String} {cap : Int}
    (configured : maxIterations py environ = .ok cap) :
    1 ≤ cap := by
  unfold maxIterations at configured
  split at configured
  · cases configured
    decide
  · split at configured
    · cases configured
    · split at configured
      · cases configured
      · cases configured
        omega

/-! ## A number as it is written -/

theorem grouped_digits {text : List Char} (nonempty : text ≠ [])
    (digits : ∀ char ∈ text, char.isDigit = true) :
    grouped text = true := by
  induction text with
  | nil => exact absurd rfl nonempty
  | cons digit rest induction =>
      rw [List.forall_mem_cons] at digits
      cases rest with
      | nil => exact digits.1
      | cons next rest =>
          have isDigit := (List.forall_mem_cons.mp digits.2).1
          have notMark : next ≠ '_' := by
            rintro rfl
            exact absurd isDigit (by decide)
          have further := induction (by simp) digits.2
          rw [grouped.eq_4 digit (next :: rest) (by simp)
            (by rintro other ⟨⟩; exact notMark rfl), digits.1, further]
          rfl

theorem intText_digits {alphabet : Alphabet} {text : List Char}
    (digits : ∀ char ∈ text, char.isDigit = true) :
    intText alphabet text = text := by
  have noSpace : ∀ char : Char, char.isDigit = true →
      intSpace alphabet char = false := by
    intro char isDigit
    obtain ⟨low, high⟩ : 48 ≤ char.toNat ∧ char.toNat ≤ 57 := by
      simpa [Char.isDigit, UInt32.le_iff_toNat_le] using isDigit
    rw [intSpace, if_pos (isDigit_lt_128 isDigit)]
    have notBlank : char ≠ ' ' := by
      rintro rfl
      exact absurd low (by decide)
    simp only [Bool.or_eq_false_iff, beq_eq_false_iff_ne, ne_eq, notBlank,
      not_false_eq_true, Bool.and_eq_false_iff, decide_eq_false_iff_not]
    exact ⟨trivial, Or.inr (by omega)⟩
  have kept : ∀ list : List Char,
      (∀ char ∈ list, char.isDigit = true) →
        list.dropWhile (intSpace alphabet) = list := by
    intro list all
    cases list with
    | nil => rfl
    | cons char list =>
        rw [List.dropWhile_cons, noSpace char (all char List.mem_cons_self)]
        rfl
  rw [intText, kept text digits, kept text.reverse (by simpa using digits),
    List.reverse_reverse, map_toAscii_of_isDigit alphabet digits]

/-- A cap that is written as a number is the cap. -/
theorem maxIterations_written (py : PyText)
    {environ : String → Option String} {cap : Nat} (positive : 1 ≤ cap)
    (short : (Nat.toDigits 10 cap).length ≤ maxStrDigits)
    (written : environ "MAX_ITERATIONS" =
      some (String.ofList (Nat.toDigits 10 cap))) :
    maxIterations py environ = .ok (cap : Int) := by
  have digits : ∀ char ∈ Nat.toDigits 10 cap, char.isDigit = true :=
    fun char member => isDigit_toDigits member
  have nonempty : Nat.toDigits 10 cap ≠ [] := Nat.toDigits_ne_nil
  have noMarks : (Nat.toDigits 10 cap).filter (· != '_') =
      Nat.toDigits 10 cap := by
    rw [List.filter_eq_self]
    intro char member
    rw [bne_iff_ne]
    rintro rfl
    exact absurd (digits _ member) (by decide)
  have value : readDigits (Nat.toDigits 10 cap) = some cap := by
    rw [readDigits, noMarks, grouped_digits nonempty digits,
      decide_eq_true short]
    exact congrArg some Nat.ofDigitChars_ten_toDigits
  have parsed : parseInt py.toAlphabet
      (String.ofList (Nat.toDigits 10 cap)) = some (cap : Int) := by
    rw [parseInt, String.toList_ofList, intText_digits digits]
    split
    · rename_i rest begins
      exact absurd (digits '-' (begins ▸ List.mem_cons_self)) (by decide)
    · rename_i rest begins
      exact absurd (digits '+' (begins ▸ List.mem_cons_self)) (by decide)
    · rw [value]
      rfl
  rw [maxIterations, written]
  simp only [parsed, if_neg (show ¬ (cap : Int) < 1 by omega)]

end SupportAssistant.Guardrails.Limits
