import SupportAssistant.Runtime.Written

/-!
# A runtime for ASCII text

An instance of the parameters of the runtime.  On ASCII text it is the real
one, up to quotes and escapes in `repr`.  Of the timestamps, the epoch has its
real texts, and any other one is tallied.
-/

namespace SupportAssistant.Runtime.Ascii

open SupportAssistant.Numeric.DecimalFloat
open SupportAssistant.Runtime.Written

/-! ## Text -/

def asciiDigit (char : Char) : Option Nat :=
  if char.isDigit then some (char.toNat - '0'.toNat) else none

def asciiSpace (char : Char) : Bool :=
  char == ' ' || (9 ≤ char.toNat && char.toNat ≤ 13) ||
    (28 ≤ char.toNat && char.toNat ≤ 31)

theorem asciiDigit_lt_ten {char : Char} {value : Nat}
    (isDigit : asciiDigit char = some value) :
    value < 10 := by
  unfold asciiDigit at isDigit
  split at isDigit
  · rename_i digit
    simp only [Char.isDigit, Bool.and_eq_true, decide_eq_true_eq] at digit
    have upper : char.toNat ≤ 57 := digit.2
    simp only [Option.some.injEq, Char.reduceToNat] at isDigit
    omega
  · simp at isDigit

theorem asciiDigit_of_space {char : Char}
    (space : asciiSpace char = true) :
    asciiDigit char = none := by
  have low : char.toNat < 48 := by
    simp only [asciiSpace, Bool.or_eq_true, Bool.and_eq_true,
      decide_eq_true_eq, beq_iff_eq] at space
    rcases space with (rfl | bounds) | bounds
    · decide
    · omega
    · omega
  rw [asciiDigit, if_neg]
  intro digit
  simp only [Char.isDigit, Bool.and_eq_true, decide_eq_true_eq] at digit
  have lower : 48 ≤ char.toNat := digit.1
  omega

def asciiAlphabet : Alphabet where
  digit := asciiDigit
  isSpace := asciiSpace
  ascii _ _ := rfl
  digit_lt_ten _ _ := asciiDigit_lt_ten
  space_not_digit _ := asciiDigit_of_space
  asciiSpace _ _ := rfl

def asciiText : PyText where
  toAlphabet := asciiAlphabet
  isWord char :=
    char.isAlphanum || char == '_' || foldedLetters.contains char.toNat
  lower text := String.ofList (text.toList.map Char.toLower)
  repr text := "'" ++ text ++ "'"
  surrogate _ := false
  dumpDepth := 255
  asciiWord char ascii := by
    have notFolded : foldedLetters.contains char.toNat = false := by
      simp [foldedLetters]
      omega
    rw [notFolded, Bool.or_false]
  digit_isWord char isDigit := by
    have digit : char.isDigit = true := by
      by_contra notDigit
      simp [asciiAlphabet, asciiDigit, notDigit] at isDigit
    simp [Char.isAlphanum, digit]
  folded_isWord _ folded := by rw [folded, Bool.or_true]
  asciiLower _ _ := rfl
  asciiSurrogate _ _ := rfl
  two_le_dumpDepth := by decide

theorem encodes_asciiText (text : String) : asciiText.encodes text = true := by
  rw [PyText.encodes, List.all_eq_true]
  exact fun _ _ => rfl

/-- The same runtime, where one character stands for a lone surrogate. -/
def surrogateText : PyText :=
  { asciiText with
    surrogate := fun char => char == '\uFFFD'
    asciiSurrogate := by
      intro char ascii
      rw [beq_eq_false_iff_ne]
      rintro rfl
      revert ascii
      decide }

/-! ## Model validation -/

def finiteOfText (text : String) : Option Finite :=
  match ofText asciiAlphabet text.toList with
  | some (.finite number) => some number
  | _ => none

/-- Integers, and texts of numbers, are decimals; integers are times. -/
def plainPydantic : Pydantic where
  decimal
    | .int value =>
        some
          { negative := value < 0
            coefficient := value.natAbs
            exponent := 0 }
    | .float text => finiteOfText text
    | .string text => finiteOfText text
    | _ => none
  datetime
    | .int seconds => some { wall := seconds * 1000000, offset := some 0 }
    | _ => none
  report model := "1 validation error for " ++ model

/-! ## Timestamps -/

def epoch : DateTime :=
  { wall := 0, offset := some 0 }

/-- A clock that stands at the epoch reads this. -/
def atEpoch : Reading :=
  ⟨epoch, rfl⟩

def tally (time : DateTime) : String :=
  String.ofList
    ((if time.wall < 0 then '-' else '+') ::
      List.replicate time.wall.natAbs '|')

def readTally (text : String) : Option DateTime :=
  match text.toList with
  | '-' :: marks => some { wall := -(marks.length : Int), offset := some 0 }
  | '+' :: marks => some { wall := marks.length, offset := some 0 }
  | _ => none

def epochIso : String := "1970-01-01T00:00:00+00:00"

def epochDumped : String := "1970-01-01T00:00:00Z"

def readTime (text : String) : Option DateTime :=
  if text = epochIso ∨ text = epochDumped then some epoch
  else readTally text

theorem readTime_tally (time : DateTime) :
    readTime (tally time) = some { wall := time.wall, offset := some 0 } := by
  have fresh : ¬ (tally time = epochIso ∨ tally time = epochDumped) := by
    rintro (same | same) <;>
      · have first := congrArg (fun text => text.toList.head?) same
        simp only [tally, String.toList_ofList, List.head?_cons] at first
        split at first <;> exact absurd first (by decide)
  rw [readTime, if_neg fresh, readTally, tally, String.toList_ofList]
  by_cases negative : time.wall < 0
  · simp only [if_pos negative, List.length_replicate]
    congr 2
    omega
  · simp only [if_neg negative, List.length_replicate]
    congr 2
    omega

def textOf (epochText : String) (time : DateTime) : String :=
  if time = epoch then epochText else tally time

theorem readTime_textOf
    {epochText : String}
    (known : epochText = epochIso ∨ epochText = epochDumped)
    (time : DateTime) :
    ∃ read, readTime (textOf epochText time) = some read ∧
      (time.IsUtc → read = time) := by
  unfold textOf
  split
  · rename_i isEpoch
    exact ⟨epoch, if_pos known, fun _ => isEpoch.symm⟩
  · refine ⟨_, readTime_tally time, ?_⟩
    intro utc
    rw [← utc]

theorem tally_ascii (time : DateTime) :
    ∀ char ∈ (tally time).toList, char.toNat < 128 := by
  intro char member
  rw [tally, String.toList_ofList, List.mem_cons] at member
  rcases member with rfl | mark
  · split <;> decide
  · rw [List.eq_of_mem_replicate mark]
    decide

theorem textOf_ascii {epochText : String}
    (known : epochText = epochIso ∨ epochText = epochDumped)
    (time : DateTime) :
    ∀ char ∈ (textOf epochText time).toList, char.toNat < 128 := by
  unfold textOf
  split
  · apply ascii_of_all
    rcases known with rfl | rfl <;> decide
  · exact tally_ascii time

def tallyTime : TimeText where
  isoformat := textOf epochIso
  dumped := textOf epochDumped
  parse := readTime
  parse_isoformat time utc := by
    obtain ⟨read, parsed, same⟩ := readTime_textOf (Or.inl rfl) time
    rw [parsed, same utc]
  parse_dumped := readTime_textOf (Or.inr rfl)
  isoformat_ascii := textOf_ascii (Or.inl rfl)
  dumped_ascii := textOf_ascii (Or.inr rfl)

end SupportAssistant.Runtime.Ascii
