import SupportAssistant.Text.Exposition

/-!
# Strings in JSON

A string is written in printable ASCII: a character beyond it is escaped by
its code, one beyond the basic plane by a pair of surrogates.  Reading takes
every escape that the grammar has.  A surrogate that stands alone is no
character and is not read.
-/

namespace SupportAssistant.Text.JsonStrings

/-! ## Writing -/

/-- Four hexadecimal digits. -/
def hexFour (code : Nat) : List Char :=
  [Nat.digitChar (code / 4096 % 16), Nat.digitChar (code / 256 % 16),
    Nat.digitChar (code / 16 % 16), Nat.digitChar (code % 16)]

def writeUnit (code : Nat) : List Char :=
  '\\' :: 'u' :: hexFour code

/-- The escapes that are named by a letter, and what they stand for. -/
def shortEscapes : List (Char × Char) :=
  [('"', '"'), ('\\', '\\'), ('n', '\n'), ('r', '\r'), ('t', '\t'),
    ('f', Char.ofNat 0x0c), ('b', Char.ofNat 0x08)]

/-- One character of a string, as it is written. -/
def writeChar (char : Char) : List Char :=
  match shortEscapes.find? (·.2 == char) with
  | some (letter, _) => ['\\', letter]
  | none =>
      if 0x20 ≤ char.toNat ∧ char.toNat ≤ 0x7e then [char]
      else if char.toNat < 0x10000 then writeUnit char.toNat
      else
        writeUnit (0xd800 + (char.toNat - 0x10000) / 1024) ++
          writeUnit (0xdc00 + (char.toNat - 0x10000) % 1024)

def writeChars (chars : List Char) : List Char :=
  chars.flatMap writeChar

/-- A string with its quotes. -/
def writeString (text : String) : List Char :=
  '"' :: writeChars text.toList ++ ['"']

/-! ## Reading -/

def hexDigits : List Char :=
  ['0', '1', '2', '3', '4', '5', '6', '7', '8', '9',
    'a', 'b', 'c', 'd', 'e', 'f']

/-- The value of a hexadecimal digit, in either case. -/
def hexValue (char : Char) : Option Nat :=
  hexDigits.idxOf? char.toLower

def readHexFour : List Char → Option (Nat × List Char)
  | first :: second :: third :: fourth :: rest => do
      let first ← hexValue first
      let second ← hexValue second
      let third ← hexValue third
      let fourth ← hexValue fourth
      some (((first * 16 + second) * 16 + third) * 16 + fourth, rest)
  | _ => none

/-- The second half of a pair of surrogates. -/
def readLow : List Char → Option (Nat × List Char)
  | '\\' :: 'u' :: rest => do
      let (low, rest) ← readHexFour rest
      if 0xdc00 ≤ low ∧ low ≤ 0xdfff then some (low, rest) else none
  | _ => none

/-- A character that is given by its code. -/
def readUnicode (text : List Char) : Option (Char × List Char) := do
  let (code, rest) ← readHexFour text
  if 0xd800 ≤ code ∧ code ≤ 0xdbff then do
    let (low, rest) ← readLow rest
    some
      (Char.ofNat (0x10000 + (code - 0xd800) * 1024 + (low - 0xdc00)), rest)
  else if 0xdc00 ≤ code ∧ code ≤ 0xdfff then none
  else some (Char.ofNat code, rest)

/-- What follows a backslash. -/
def readEscape : List Char → Option (Char × List Char)
  | [] => none
  | letter :: rest =>
      if letter = 'u' then readUnicode rest
      else if letter = '/' then some ('/', rest)
      else
        (shortEscapes.find? (·.1 == letter)).map fun escape =>
          (escape.2, rest)

/-- One character of a string; a control character is not allowed. -/
def readChar : List Char → Option (Char × List Char)
  | [] => none
  | char :: rest =>
      if char = '\\' then readEscape rest
      else if char.toNat < 0x20 then none
      else some (char, rest)

/-- The characters up to the closing quote, and what follows it. -/
def readChars : Nat → List Char → Option (List Char × List Char)
  | 0, _ => none
  | _ + 1, [] => none
  | fuel + 1, char :: rest =>
      if char = '"' then some ([], rest)
      else do
        let (first, rest) ← readChar (char :: rest)
        let (chars, rest) ← readChars fuel rest
        some (first :: chars, rest)

/-- What follows an opening quote: the string, and what is behind it. -/
def readString (text : List Char) : Option (String × List Char) :=
  (readChars (text.length + 1) text).map fun read =>
    (String.ofList read.1, read.2)

/-! ## Reading what was written -/

theorem hexValue_digitChar {digit : Nat} (small : digit < 16) :
    hexValue (Nat.digitChar digit) = some digit := by
  have each : ∀ digit < 16, hexValue (Nat.digitChar digit) = some digit := by
    decide
  exact each digit small

theorem readHexFour_hexFour {code : Nat} (small : code < 0x10000)
    (rest : List Char) :
    readHexFour (hexFour code ++ rest) = some (code, rest) := by
  have digit (value : Nat) :
      hexValue (Nat.digitChar (value % 16)) = some (value % 16) :=
    hexValue_digitChar (Nat.mod_lt _ (by decide))
  have value : ((code / 4096 % 16 * 16 + code / 256 % 16) * 16 +
      code / 16 % 16) * 16 + code % 16 = code := by
    omega
  simp only [hexFour, List.cons_append, List.nil_append, readHexFour, digit,
    Option.bind_eq_bind, Option.bind_some, value]

/-- A character is not a surrogate. -/
theorem not_surrogate (char : Char) :
    char.toNat < 0xd800 ∨ 0xe000 ≤ char.toNat ∧ char.toNat < 0x110000 := by
  have valid : char.toNat < 0xd800 ∨
      0xdfff < char.toNat ∧ char.toNat < 0x110000 := char.valid
  omega

theorem readUnicode_basic {char : Char} (basic : char.toNat < 0x10000)
    (rest : List Char) :
    readUnicode (hexFour char.toNat ++ rest) = some (char, rest) := by
  have whole := not_surrogate char
  have high : ¬(0xd800 ≤ char.toNat ∧ char.toNat ≤ 0xdbff) := by omega
  have low : ¬(0xdc00 ≤ char.toNat ∧ char.toNat ≤ 0xdfff) := by omega
  simp [readUnicode, readHexFour_hexFour basic, high, low]

theorem readUnicode_surrogates {high low : Nat}
    (isHigh : 0xd800 ≤ high ∧ high ≤ 0xdbff)
    (isLow : 0xdc00 ≤ low ∧ low ≤ 0xdfff) (rest : List Char) :
    readUnicode (hexFour high ++ (writeUnit low ++ rest)) =
      some
        (Char.ofNat (0x10000 + (high - 0xd800) * 1024 + (low - 0xdc00)),
          rest) := by
  have smallHigh : high < 0x10000 := by omega
  have smallLow : low < 0x10000 := by omega
  have second : readLow (writeUnit low ++ rest) = some (low, rest) := by
    simp only [writeUnit, List.cons_append, readLow,
      readHexFour_hexFour smallLow, if_pos isLow, Option.bind_eq_bind,
      Option.bind_some]
  simp only [readUnicode, readHexFour_hexFour smallHigh, if_pos isHigh,
    second, Option.bind_eq_bind, Option.bind_some]

theorem readUnicode_pair {char : Char} (beyond : 0x10000 ≤ char.toNat)
    (rest : List Char) :
    readUnicode
        (hexFour (0xd800 + (char.toNat - 0x10000) / 1024) ++
          (writeUnit (0xdc00 + (char.toNat - 0x10000) % 1024) ++ rest)) =
      some (char, rest) := by
  have whole := not_surrogate char
  have value : 0x10000 +
      (0xd800 + (char.toNat - 0x10000) / 1024 - 0xd800) * 1024 +
        (0xdc00 + (char.toNat - 0x10000) % 1024 - 0xdc00) = char.toNat := by
    omega
  rw [readUnicode_surrogates (by omega) (by omega), value,
    Char.ofNat_toNat]

theorem readEscape_short :
    ∀ escape ∈ shortEscapes, ∀ rest : List Char,
      readEscape (escape.1 :: rest) = some (escape.2, rest) := by
  simp [shortEscapes, readEscape]

theorem readChar_writeChar (char : Char) (rest : List Char) :
    readChar (writeChar char ++ rest) = some (char, rest) := by
  unfold writeChar
  split
  · rename_i letter named found
    have member := List.mem_of_find?_eq_some found
    have same : named = char := by simpa using List.find?_some found
    have read := readEscape_short _ member rest
    simpa [readChar, same] using read
  · rename_i unescaped
    have notBackslash : char ≠ '\\' := by
      rintro rfl
      simp [shortEscapes] at unescaped
    split
    · rename_i printable
      have noControl : ¬char.toNat < 0x20 := by omega
      simp [readChar, notBackslash, noControl]
    · split
      · rename_i basic
        simpa [writeUnit, readChar, readEscape] using
          readUnicode_basic basic rest
      · rename_i beyond
        have pair := readUnicode_pair (Nat.le_of_not_lt beyond) rest
        rw [List.append_assoc]
        simpa [writeUnit, readChar, readEscape] using pair

/-- No character is written so that it begins with a quote. -/
theorem writeChar_cons (char : Char) :
    ∃ first rest, writeChar char = first :: rest ∧ first ≠ '"' := by
  unfold writeChar
  split
  · exact ⟨_, _, rfl, by decide⟩
  · rename_i unescaped
    split
    · refine ⟨_, _, rfl, ?_⟩
      rintro rfl
      simp [shortEscapes] at unescaped
    · split <;> exact ⟨_, _, rfl, by decide⟩

theorem readChars_writeChars (chars rest : List Char) {fuel : Nat}
    (enough : chars.length < fuel) :
    readChars fuel (writeChars chars ++ '"' :: rest) = some (chars, rest) := by
  induction chars generalizing fuel with
  | nil =>
      cases fuel with
      | zero => omega
      | succ fuel => simp [writeChars, readChars]
  | cons char chars induction =>
      cases fuel with
      | zero => omega
      | succ fuel =>
          rw [List.length_cons] at enough
          rcases writeChar_cons char with ⟨first, more, written, noQuote⟩
          have read := readChar_writeChar char
            (writeChars chars ++ '"' :: rest)
          rw [written, List.cons_append] at read
          have split : writeChars (char :: chars) ++ '"' :: rest =
              first :: (more ++ (writeChars chars ++ '"' :: rest)) := by
            simp [writeChars, written]
          rw [split, readChars, if_neg noQuote, read]
          simp only [Option.bind_eq_bind, Option.bind_some,
            induction (show chars.length < fuel by omega)]

theorem length_le_writeChars (chars : List Char) :
    chars.length ≤ (writeChars chars).length := by
  induction chars with
  | nil => simp
  | cons char chars induction =>
      rcases writeChar_cons char with ⟨first, more, written, -⟩
      rw [writeChars, List.flatMap_cons, written, List.length_append]
      rw [writeChars] at induction
      simp only [List.length_cons]
      omega

/-- A written string reads back, whatever is behind it. -/
theorem readString_writeString (text : String) (rest : List Char) :
    readString (writeChars text.toList ++ '"' :: rest) =
      some (text, rest) := by
  have long := length_le_writeChars text.toList
  rw [readString, readChars_writeChars, Option.map_some,
    String.ofList_toList]
  rw [List.length_append]
  omega

/-! ## Printable text -/

/-- The characters that JSON is written with. -/
abbrev Printable (char : Char) : Prop :=
  0x20 ≤ char.toNat ∧ char.toNat ≤ 0x7e

theorem printable_literal {chars : List Char}
    (each : chars.all (fun char => decide (Printable char)) = true) :
    ∀ char ∈ chars, Printable char := by
  simpa only [List.all_eq_true, decide_eq_true_eq] using each

theorem printable_digitChar {digit : Nat} (small : digit < 16) :
    Printable (Nat.digitChar digit) := by
  have each : ∀ digit < 16, 0x20 ≤ (Nat.digitChar digit).toNat ∧
      (Nat.digitChar digit).toNat ≤ 0x7e := by
    decide
  exact each digit small

theorem printable_writeUnit (code : Nat) :
    ∀ char ∈ writeUnit code, Printable char := by
  have digit (value : Nat) : Printable (Nat.digitChar (value % 16)) :=
    printable_digitChar (Nat.mod_lt _ (by decide))
  simp only [writeUnit, hexFour, List.forall_mem_cons]
  exact ⟨by decide, by decide, digit _, digit _, digit _, digit _,
    by simp⟩

theorem printable_writeChar (char : Char) :
    ∀ written ∈ writeChar char, Printable written := by
  unfold writeChar
  split
  · rename_i letter named found
    have letters : ∀ escape ∈ shortEscapes,
        0x20 ≤ escape.1.toNat ∧ escape.1.toNat ≤ 0x7e := by
      decide
    have letter := letters _ (List.mem_of_find?_eq_some found)
    simp only [List.forall_mem_cons]
    exact ⟨by decide, letter, by simp⟩
  · split
    · rename_i printable
      simpa using printable
    · split
      · exact printable_writeUnit _
      · intro written member
        rcases List.mem_append.mp member with high | low
        · exact printable_writeUnit _ _ high
        · exact printable_writeUnit _ _ low

theorem printable_writeChars (chars : List Char) :
    ∀ written ∈ writeChars chars, Printable written := by
  intro written member
  rcases List.mem_flatMap.mp member with ⟨char, -, inChar⟩
  exact printable_writeChar char written inChar

end SupportAssistant.Text.JsonStrings
