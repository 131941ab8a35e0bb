import SupportAssistant.Numeric.DecimalFloat

/-!
# The text exposition format

A sample line is the name of a metric, a set of labels in braces and a value.
A label value stands in double quotes; in it a backslash, a double quote and
a line feed are escaped by a backslash.

The reader takes what follows the name one character at a time.  Inside the
quotes it leaves them at a double quote only, and an escaped value contains
none that it could mistake for one.
-/

namespace SupportAssistant.Text.Exposition

open SupportAssistant.Numeric.DecimalFloat

/-! ## Escaping -/

/-- `text.replace(old, new)` for one character. -/
def replaceChar (old : Char) (new text : List Char) : List Char :=
  text.flatMap fun char => if char = old then new else [char]

/-- A character as it stands between quotes. -/
def escapedChar (char : Char) : List Char :=
  if char = '\\' then ['\\', '\\']
  else if char = '"' then ['\\', '"']
  else if char = '\n' then ['\\', 'n']
  else [char]

/--
Replacing the backslashes first, the other two replacements see none of the
backslashes that they write.
-/
theorem replaceChar_chain (text : List Char) :
    replaceChar '\n' ['\\', 'n']
        (replaceChar '"' ['\\', '"'] (replaceChar '\\' ['\\', '\\'] text)) =
      text.flatMap escapedChar := by
  rw [replaceChar, replaceChar, replaceChar, List.flatMap_assoc,
    List.flatMap_assoc]
  congr 1
  funext char
  by_cases backslash : char = '\\'
  · subst backslash
    rfl
  · by_cases quote : char = '"'
    · subst quote
      rfl
    · by_cases feed : char = '\n'
      · subst feed
        rfl
      · simp [escapedChar, backslash, quote, feed]

theorem lineFeed_notMem_escapedChar (char : Char) :
    '\n' ∉ escapedChar char := by
  intro member
  unfold escapedChar at member
  split_ifs at member with backslash quote feed
  · simp at member
  · simp at member
  · simp at member
  · exact feed (List.mem_singleton.mp member).symm

theorem lineFeed_notMem_escaped (text : List Char) :
    '\n' ∉ text.flatMap escapedChar := by
  intro member
  rcases List.mem_flatMap.mp member with ⟨char, -, within⟩
  exact lineFeed_notMem_escapedChar char within

/-! ## Reading a sample line -/

/-- The character that an escape stands for. -/
def unescaped (char : Char) : Option Char :=
  if char = '\\' then some '\\'
  else if char = '"' then some '"'
  else if char = 'n' then some '\n'
  else none

def isNameChar (char : Char) : Bool :=
  char.isAlphanum || char == '_'

/-- A label name: `[a-zA-Z_][a-zA-Z0-9_]*`. -/
def isLabelName : List Char → Bool
  | [] => false
  | first :: rest =>
      (first.isAlpha || first == '_') && rest.all isNameChar

/-- Where in a line the reader is. -/
inductive Place where
  /-- Behind the name of the metric. -/
  | metric
  | name (written : List Char)
  /-- Before the quote that opens a value. -/
  | opening (name : List Char)
  | quoted (name written : List Char)
  /-- Behind a backslash in a value. -/
  | escape (name written : List Char)
  /-- Behind the quote that closes a value. -/
  | closed
  /-- Behind the set of labels. -/
  | labelled
  | value (written : List Char)
deriving DecidableEq, Repr

/-- The labels read so far, and the place in the line. -/
structure Reading where
  labels : List (String × String)
  place : Place
deriving DecidableEq, Repr

def Reading.step (reading : Reading) (char : Char) : Option Reading :=
  match reading.place with
  | .metric =>
      if char = '{' then some { reading with place := .name [] }
      else if char = ' ' then some { reading with place := .value [] }
      else none
  | .name written =>
      if isNameChar char then
        some { reading with place := .name (written ++ [char]) }
      else if char = '=' then some { reading with place := .opening written }
      else none
  | .opening name =>
      if char = '"' then some { reading with place := .quoted name [] }
      else none
  | .quoted name written =>
      if char = '"' then
        some
          { labels :=
              reading.labels ++ [(String.ofList name, String.ofList written)]
            place := .closed }
      else if char = '\\' then
        some { reading with place := .escape name written }
      else if char = '\n' then none
      else some { reading with place := .quoted name (written ++ [char]) }
  | .escape name written =>
      (unescaped char).map fun original =>
        { reading with place := .quoted name (written ++ [original]) }
  | .closed =>
      if char = ',' then some { reading with place := .name [] }
      else if char = '}' then some { reading with place := .labelled }
      else none
  | .labelled =>
      if char = ' ' then some { reading with place := .value [] } else none
  | .value written =>
      if char = ' ' then none
      else some { reading with place := .value (written ++ [char]) }

def Reading.run (reading : Reading) (text : List Char) : Option Reading :=
  text.foldlM Reading.step reading

/-- The labels of a line and the text of its value. -/
abbrev Sample := List (String × String) × List Char

/-- A line without the name of the metric. -/
def readSample (text : List Char) : Option Sample :=
  match Reading.run { labels := [], place := .metric } text with
  | some { labels, place := .value (first :: rest) } =>
      some (labels, first :: rest)
  | _ => none

/-- The name on a `# TYPE` line: what stands before its last space. -/
def typedName (line : List Char) : Option (List Char) :=
  (line.dropPrefix? ['#', ' ', 'T', 'Y', 'P', 'E', ' ']).map fun rest =>
    (rest.reverse.dropWhile (· != ' ')).tail.reverse

/-- A line that begins with the name of the metric. -/
def readLine (name line : List Char) : Option Sample :=
  (line.dropPrefix? name).bind readSample

/-- A family: the help line, the type line, and a sample to each line. -/
def readFamily (text : List Char) : Option (List Sample) :=
  match text.splitOn '\n' with
  | _ :: type :: lines =>
      (typedName type).bind fun name => lines.mapM (readLine name)
  | _ => none

/-- An integer, as `str` writes it. -/
def readInt : List Char → Option Int
  | '-' :: digits =>
      if digits.isEmpty || !digits.all Char.isDigit then none
      else some (-(digitsValue digits : Int))
  | digits =>
      if digits.isEmpty || !digits.all Char.isDigit then none
      else some (digitsValue digits)

/-! ## What the reader makes of each part -/

@[simp]
theorem Reading.run_nil (reading : Reading) : reading.run [] = some reading :=
  rfl

theorem Reading.run_cons
    (reading : Reading) (char : Char) (text : List Char) :
    reading.run (char :: text) =
      (reading.step char).bind fun next => next.run text :=
  rfl

theorem Reading.run_append
    (reading : Reading) (first second : List Char) :
    reading.run (first ++ second) =
      (reading.run first).bind fun next => next.run second :=
  List.foldlM_append

variable (labels : List (String × String))

theorem run_escapedChar (name written : List Char) (char : Char) :
    Reading.run { labels, place := .quoted name written }
        (escapedChar char) =
      some { labels, place := .quoted name (written ++ [char]) } := by
  by_cases backslash : char = '\\'
  · subst backslash
    rfl
  · by_cases quote : char = '"'
    · subst quote
      rfl
    · by_cases feed : char = '\n'
      · subst feed
        rfl
      · simp [escapedChar, Reading.run_cons, Reading.step, backslash, quote,
          feed]

/-- Reading an escaped value neither leaves the quotes nor loses anything. -/
theorem run_escaped (name written value : List Char) :
    Reading.run { labels, place := .quoted name written }
        (value.flatMap escapedChar) =
      some { labels, place := .quoted name (written ++ value) } := by
  induction value generalizing written with
  | nil => simp
  | cons char value induction =>
      rw [List.flatMap_cons, Reading.run_append, run_escapedChar,
        Option.bind_some, induction, List.append_assoc, List.singleton_append]

theorem run_name {name : List Char} (valid : name.all isNameChar = true)
    (written : List Char) :
    Reading.run { labels, place := .name written } name =
      some { labels, place := .name (written ++ name) } := by
  induction name generalizing written with
  | nil => simp
  | cons char name induction =>
      rw [List.all_cons, Bool.and_eq_true] at valid
      have step :
          Reading.step { labels, place := .name written } char =
            some { labels, place := .name (written ++ [char]) } :=
        if_pos valid.1
      rw [Reading.run_cons, step, Option.bind_some, induction valid.2,
        List.append_assoc, List.singleton_append]

/-- A label as the format writes it. -/
def written (label : String × String) : List Char :=
  label.1.toList ++ '=' :: '"' :: label.2.toList.flatMap escapedChar ++ ['"']

theorem all_isNameChar {name : List Char} (valid : isLabelName name = true) :
    name.all isNameChar = true := by
  cases name with
  | nil => rfl
  | cons first rest =>
      rw [isLabelName, Bool.and_eq_true, Bool.or_eq_true] at valid
      rw [List.all_cons, Bool.and_eq_true]
      refine ⟨?_, valid.2⟩
      rcases valid.1 with letter | underscore
      · simp [isNameChar, Char.isAlphanum, letter]
      · simp [isNameChar, underscore]

theorem run_written {label : String × String}
    (valid : isLabelName label.1.toList = true) :
    Reading.run { labels, place := .name [] } (written label) =
      some { labels := labels ++ [label], place := .closed } := by
  rw [written, List.append_assoc, Reading.run_append,
    run_name labels (all_isNameChar valid), Option.bind_some, List.nil_append,
    List.cons_append, Reading.run_cons]
  have assign : Reading.step { labels, place := .name label.1.toList } '=' =
      some { labels, place := .opening label.1.toList } := rfl
  rw [assign, Option.bind_some, List.cons_append, Reading.run_cons]
  have opens : Reading.step { labels, place := .opening label.1.toList } '"' =
      some { labels, place := .quoted label.1.toList [] } := rfl
  rw [opens, Option.bind_some, Reading.run_append, run_escaped,
    Option.bind_some, List.nil_append, Reading.run_cons]
  have closes :
      Reading.step { labels, place := .quoted label.1.toList label.2.toList }
          '"' =
        some { labels := labels ++ [label], place := .closed } := by
    simp [Reading.step]
  rw [closes, Option.bind_some, Reading.run_nil]

/-- Behind a label, the further ones each follow a comma. -/
theorem run_further (further : List (String × String))
    (valid : ∀ label ∈ further, isLabelName label.1.toList = true) :
    Reading.run { labels, place := .closed }
        (further.flatMap fun label => ',' :: written label) =
      some { labels := labels ++ further, place := .closed } := by
  induction further generalizing labels with
  | nil => simp
  | cons label further induction =>
      rw [List.forall_mem_cons] at valid
      have comma : Reading.step { labels, place := .closed } ',' =
          some { labels, place := .name [] } := rfl
      rw [List.flatMap_cons, List.cons_append, Reading.run_cons, comma,
        Option.bind_some, Reading.run_append, run_written labels valid.1,
        Option.bind_some, induction _ valid.2, List.append_assoc,
        List.singleton_append]

theorem intercalate_cons_flatMap {α : Type} (separator : α) (first : List α)
    (rest : List (List α)) :
    [separator].intercalate (first :: rest) =
      first ++ rest.flatMap fun part => separator :: part := by
  induction rest generalizing first with
  | nil => simp
  | cons second rest induction =>
      rw [List.intercalate_cons_cons, induction]
      simp

theorem run_value {value : List Char} (unbroken : ' ' ∉ value)
    (before : List Char) :
    Reading.run { labels, place := .value before } value =
      some { labels, place := .value (before ++ value) } := by
  induction value generalizing before with
  | nil => simp
  | cons char value induction =>
      rw [List.mem_cons, not_or] at unbroken
      have step :
          Reading.step { labels, place := .value before } char =
            some { labels, place := .value (before ++ [char]) } :=
        if_neg (Ne.symm unbroken.1)
      rw [Reading.run_cons, step, Option.bind_some, induction unbroken.2,
        List.append_assoc, List.singleton_append]

/-- The set of labels as the format writes it; without any, nothing. -/
def labelSet : List (String × String) → List Char
  | [] => []
  | label :: labels =>
      '{' :: [','].intercalate ((label :: labels).map written) ++ ['}']

/-- Behind a set of labels, the value begins after a space. -/
theorem run_labelSet {labels : List (String × String)}
    (valid : ∀ label ∈ labels, isLabelName label.1.toList = true) :
    Reading.run { labels := [], place := .metric } (labelSet labels ++ [' ']) =
      some { labels, place := .value [] } := by
  cases labels with
  | nil => rfl
  | cons first further =>
      rw [List.forall_mem_cons] at valid
      have opens : Reading.step { labels := [], place := .metric } '{' =
          some { labels := [], place := .name [] } := rfl
      rw [labelSet, List.cons_append, List.cons_append, Reading.run_cons,
        opens, Option.bind_some, List.map_cons, intercalate_cons_flatMap,
        List.flatMap_map, List.append_assoc, List.append_assoc,
        Reading.run_append, run_written [] valid.1, Option.bind_some,
        Reading.run_append, run_further _ further valid.2]
      rfl

/-- What is written of a sample is what is read of it. -/
theorem readSample_written
    {labels : List (String × String)} {value : List Char}
    (valid : ∀ label ∈ labels, isLabelName label.1.toList = true)
    (nonempty : value ≠ []) (unbroken : ' ' ∉ value) :
    readSample (labelSet labels ++ ' ' :: value) = some (labels, value) := by
  have split : labelSet labels ++ ' ' :: value =
      (labelSet labels ++ [' ']) ++ value := by
    rw [List.append_assoc, List.singleton_append]
  rw [readSample, split, Reading.run_append, run_labelSet valid,
    Option.bind_some, run_value labels unbroken, List.nil_append]
  cases value with
  | nil => exact absurd rfl nonempty
  | cons first rest => rfl

/-! ## Lines -/

theorem lineFeed_notMem_labelSet {labels : List (String × String)}
    (valid : ∀ label ∈ labels, isLabelName label.1.toList = true) :
    '\n' ∉ labelSet labels := by
  have each : ∀ label ∈ labels, '\n' ∉ written label := by
    intro label member
    have name : '\n' ∉ label.1.toList := by
      intro feed
      have := List.all_eq_true.mp (all_isNameChar (valid label member)) _ feed
      revert this
      decide
    simp [written, name, lineFeed_notMem_escapedChar]
  cases labels with
  | nil => simp [labelSet]
  | cons first further =>
      rw [List.forall_mem_cons] at each
      rw [labelSet, List.map_cons, intercalate_cons_flatMap, List.flatMap_map]
      simpa [each.1] using each.2

theorem typedName_written {kind : List Char} (unbroken : ' ' ∉ kind)
    (name : List Char) :
    typedName (['#', ' ', 'T', 'Y', 'P', 'E', ' '] ++ (name ++ ' ' :: kind)) =
      some name := by
  have dropped :
      (['#', ' ', 'T', 'Y', 'P', 'E', ' '] ++ (name ++ ' ' :: kind)).dropPrefix?
          ['#', ' ', 'T', 'Y', 'P', 'E', ' '] =
        some (name ++ ' ' :: kind) :=
    List.dropPrefix?_eq_some_iff.mpr ⟨_, rfl, by simp⟩
  have kindless : ∀ char ∈ kind.reverse, (char != ' ') = true := by
    intro char member
    rw [bne_iff_ne]
    rintro rfl
    exact unbroken (List.mem_reverse.mp member)
  rw [typedName, dropped, Option.map_some, List.reverse_append,
    List.reverse_cons, List.append_assoc,
    List.dropWhile_append_of_pos kindless]
  simp

theorem readLine_written
    {name value : List Char} {labels : List (String × String)}
    (valid : ∀ label ∈ labels, isLabelName label.1.toList = true)
    (nonempty : value ≠ []) (unbroken : ' ' ∉ value) :
    readLine name (name ++ (labelSet labels ++ ' ' :: value)) =
      some (labels, value) := by
  have dropped :
      (name ++ (labelSet labels ++ ' ' :: value)).dropPrefix? name =
        some (labelSet labels ++ ' ' :: value) :=
    List.dropPrefix?_eq_some_iff.mpr ⟨name, rfl, by simp⟩
  rw [readLine, dropped, Option.bind_some,
    readSample_written valid nonempty unbroken]

/-! ## Integers -/

theorem toList_toString (value : Int) :
    (toString value).toList =
      if 0 ≤ value then Nat.toDigits 10 value.toNat
      else '-' :: Nat.toDigits 10 (-value).toNat := by
  rw [Int.toString_eq_repr, Int.repr_eq_if]
  split <;> simp

theorem all_isDigit_toDigits (value : Nat) :
    (Nat.toDigits 10 value).all Char.isDigit = true :=
  List.all_eq_true.mpr fun _ member => isDigit_toDigits member

theorem readInt_natural (value : Nat) :
    readInt (Nat.toDigits 10 value) = some (value : Int) := by
  have nonempty : Nat.toDigits 10 value ≠ [] := Nat.toDigits_ne_nil
  have digits := all_isDigit_toDigits value
  have total : digitsValue (Nat.toDigits 10 value) = value :=
    Nat.ofDigitChars_ten_toDigits
  cases written : Nat.toDigits 10 value with
  | nil => exact absurd written nonempty
  | cons first rest =>
      rw [written] at digits total
      have unsigned : first ≠ '-' := by
        rintro rfl
        simp at digits
      rw [readInt.eq_2 _ fun _ minus => unsigned (List.cons.inj minus).1,
        digits, total]
      rfl

theorem readInt_toString (value : Int) :
    readInt (toString value).toList = some value := by
  rw [toList_toString]
  split
  · rename_i natural
    rw [readInt_natural, Int.toNat_of_nonneg natural]
  · rename_i negative
    have total : digitsValue (Nat.toDigits 10 (-value).toNat) =
        (-value).toNat :=
      Nat.ofDigitChars_ten_toDigits
    have nonempty : (Nat.toDigits 10 (-value).toNat).isEmpty = false :=
      List.isEmpty_eq_false_iff.mpr Nat.toDigits_ne_nil
    have magnitude : ((-value).toNat : Int) = -value :=
      Int.toNat_of_nonneg (by omega)
    rw [readInt, all_isDigit_toDigits, nonempty, total, magnitude, neg_neg]
    rfl

theorem toString_nonempty (value : Int) : (toString value).toList ≠ [] := by
  rw [toList_toString]
  split
  · exact Nat.toDigits_ne_nil
  · exact List.cons_ne_nil _ _

/-- Neither a space nor a line feed is part of an integer. -/
theorem notMem_toString {char : Char} (notDigit : char.isDigit = false)
    (notMinus : char ≠ '-') (value : Int) :
    char ∉ (toString value).toList := by
  have notWritten (number : Nat) : char ∉ Nat.toDigits 10 number := by
    intro member
    rw [isDigit_toDigits member] at notDigit
    exact Bool.noConfusion notDigit
  rw [toList_toString]
  split
  · exact notWritten _
  · rw [List.mem_cons, not_or]
    exact ⟨notMinus, notWritten _⟩

end SupportAssistant.Text.Exposition
