import Mathlib.Data.List.Induction
import SupportAssistant.Text.JsonNumbers
import SupportAssistant.Text.JsonStrings

/-!
# JSON documents as text

Writing puts a document on one line of printable ASCII, with a space after
every comma and every colon.  Reading takes the whole grammar, with space
between the tokens; where an object names a key twice, the last value stands.
What is written is read back, so the text determines the document.

The limits that an interpreter puts on the depth of a document and on the
length of an integer are not part of this.
-/

namespace SupportAssistant.Text.JsonText

open SupportAssistant.Text.Exposition
open SupportAssistant.Text.JsonNumbers
open SupportAssistant.Text.JsonStrings

/-- A document.  A number that is no integer is kept as its text. -/
inductive Doc where
  | null
  | bool (value : Bool)
  | int (value : Int)
  | number (text : String)
  | string (value : String)
  | list (items : List Doc)
  | object (entries : List (String × Doc))

/-! ## Writing -/

mutual

def write : Doc → List Char
  | .null => ['n', 'u', 'l', 'l']
  | .bool true => ['t', 'r', 'u', 'e']
  | .bool false => ['f', 'a', 'l', 's', 'e']
  | .int value => (toString value).toList
  | .number text => text.toList
  | .string value => writeString value
  | .list [] => ['[', ']']
  | .list (item :: items) => '[' :: (write item ++ writeItems items)
  | .object [] => ['\x7b', '\x7d']
  | .object ((key, value) :: entries) =>
      '\x7b' :: (writeString key ++
        ':' :: ' ' :: (write value ++ writeEntries entries))

/-- The further items of a list, and its end. -/
def writeItems : List Doc → List Char
  | [] => [']']
  | item :: items => ',' :: ' ' :: (write item ++ writeItems items)

/-- The further entries of an object, and its end. -/
def writeEntries : List (String × Doc) → List Char
  | [] => ['\x7d']
  | (key, value) :: entries =>
      ',' :: ' ' :: (writeString key ++
        ':' :: ' ' :: (write value ++ writeEntries entries))

end

/-! ## Reading -/

def isSpace (char : Char) : Bool :=
  char == ' ' || char == '\t' || char == '\n' || char == '\r'

def skip (text : List Char) : List Char :=
  text.dropWhile isSpace

/-- The words of the grammar; the last three are numbers. -/
def vocabulary : List (List Char × Doc) :=
  [(['n', 'u', 'l', 'l'], .null), (['t', 'r', 'u', 'e'], .bool true),
    (['f', 'a', 'l', 's', 'e'], .bool false),
    (['N', 'a', 'N'], .number "NaN"),
    (['I', 'n', 'f', 'i', 'n', 'i', 't', 'y'], .number "Infinity"),
    (['-', 'I', 'n', 'f', 'i', 'n', 'i', 't', 'y'], .number "-Infinity")]

def readWord (text : List Char) : Option (Doc × List Char) :=
  vocabulary.findSome? fun word =>
    (text.dropPrefix? word.1).map fun rest => (word.2, rest)

def readNumber (text : List Char) : Option (Doc × List Char) := do
  let (number, integral, rest) ← munchNumber text
  if integral then (readInt number).map fun value => (.int value, rest)
  else some (.number (String.ofList number), rest)

/-- `entries[key] = value`. -/
def assign (entries : List (String × Doc)) (entry : String × Doc) :
    List (String × Doc) :=
  if entries.any (·.1 == entry.1) then
    entries.map fun other => if other.1 = entry.1 then entry else other
  else entries ++ [entry]

/-- The object that a list of pairs makes. -/
def dict (pairs : List (String × Doc)) : List (String × Doc) :=
  pairs.foldl assign []

mutual

def readValue : Nat → List Char → Option (Doc × List Char)
  | 0, _ => none
  | _ + 1, [] => none
  | fuel + 1, first :: rest =>
      if first = '"' then
        (readString rest).map fun read => (.string read.1, read.2)
      else if first = '[' then
        if (skip rest).head? = some ']' then
          some (.list [], (skip rest).tail)
        else
          (readItems fuel (skip rest)).map fun read =>
            (.list read.1, read.2)
      else if first = '\x7b' then
        if (skip rest).head? = some '\x7d' then
          some (.object [], (skip rest).tail)
        else
          (readEntries fuel (skip rest)).map fun read =>
            (.object (dict read.1), read.2)
      else (readWord (first :: rest)).or (readNumber (first :: rest))

/-- The items up to the end of a list. -/
def readItems : Nat → List Char → Option (List Doc × List Char)
  | 0, _ => none
  | fuel + 1, text => do
      let (item, rest) ← readValue fuel text
      match skip rest with
      | ']' :: rest => some ([item], rest)
      | ',' :: rest => do
          let (items, rest) ← readItems fuel (skip rest)
          some (item :: items, rest)
      | _ => none

/-- The entries up to the end of an object. -/
def readEntries : Nat → List Char → Option (List (String × Doc) × List Char)
  | 0, _ => none
  | fuel + 1, '"' :: text => do
      let (key, rest) ← readString text
      match skip rest with
      | ':' :: rest => do
          let (value, rest) ← readValue fuel (skip rest)
          match skip rest with
          | '\x7d' :: rest => some ([(key, value)], rest)
          | ',' :: rest => do
              let (entries, rest) ← readEntries fuel (skip rest)
              some ((key, value) :: entries, rest)
          | _ => none
      | _ => none
  | _ + 1, _ => none

end

/-- One document, with space around it. -/
def read (text : List Char) : Option Doc :=
  match readValue (text.length + 1) (skip text) with
  | some (doc, rest) => if (skip rest).isEmpty then some doc else none
  | none => none

/-! ## Proper documents -/

/-- The text of a number that is no integer. -/
def IsFloat (text : String) : Prop :=
  text = "NaN" ∨ text = "Infinity" ∨ text = "-Infinity" ∨
    ∃ parts : Parts, parts.text = text.toList ∧
      (parts.fraction.isEmpty && parts.exponent.isEmpty) = false

mutual

/-- No object has a key twice, and numbers are numbers. -/
def Proper : Doc → Prop
  | .null | .bool _ | .int _ | .string _ => True
  | .number text => IsFloat text
  | .list items => ProperItems items
  | .object entries =>
      (entries.map Prod.fst).Nodup ∧ ProperEntries entries

def ProperItems : List Doc → Prop
  | [] => True
  | item :: items => Proper item ∧ ProperItems items

def ProperEntries : List (String × Doc) → Prop
  | [] => True
  | (_, value) :: entries => Proper value ∧ ProperEntries entries

end

/-! ## How a document begins -/

/-- Begins what is not space, and not the end of a list. -/
def Opens (text : List Char) : Prop :=
  ∃ first rest, text = first :: rest ∧
    isSpace first = false ∧ first ≠ ']'

theorem skip_of_opens {text : List Char} (opens : Opens text)
    (rest : List Char) : skip (text ++ rest) = text ++ rest := by
  rcases opens with ⟨first, more, rfl, notSpace, -⟩
  simp [skip, notSpace]

/-- A number begins with a minus sign and a digit, or with a digit. -/
theorem parts_begin (parts : Parts) :
    ∃ digit rest, digit.isDigit = true ∧
      (parts.text = digit :: rest ∨ parts.text = '-' :: digit :: rest) := by
  have whole : ∃ digit rest, digit.isDigit = true ∧
      parts.whole = digit :: rest := by
    generalize parts.whole = whole, parts.isWhole = isWhole
    cases isWhole with
    | zero => exact ⟨_, _, rfl, rfl⟩
    | digits positive digit digits => exact ⟨_, _, digit, rfl⟩
  rcases whole with ⟨digit, rest, isDigit, same⟩
  refine ⟨digit, rest ++ (parts.fraction ++ parts.exponent), isDigit, ?_⟩
  rw [Parts.text, Parts.sign, same]
  cases parts.negative
  · exact Or.inl rfl
  · exact Or.inr rfl

theorem digit_opens {digit : Char} (isDigit : digit.isDigit = true) :
    isSpace digit = false ∧ digit ≠ ']' := by
  constructor
  · rw [isSpace]
    simp only [Bool.or_eq_false_iff, beq_eq_false_iff_ne]
    refine ⟨⟨⟨?_, ?_⟩, ?_⟩, ?_⟩ <;>
      · rintro rfl
        simp at isDigit
  · rintro rfl
    simp at isDigit

theorem parts_open (parts : Parts) : Opens parts.text := by
  rcases parts_begin parts with ⟨digit, rest, isDigit, same | same⟩
  · exact ⟨digit, rest, same, digit_opens isDigit⟩
  · exact ⟨'-', digit :: rest, same, by decide⟩

theorem write_opens {doc : Doc} (proper : Proper doc) :
    Opens (write doc) := by
  cases doc with
  | null => exact ⟨_, _, rfl, by decide⟩
  | bool value => cases value <;> exact ⟨_, _, rfl, by decide⟩
  | int value =>
      rw [write, ← text_intParts]
      exact parts_open _
  | number text =>
      rw [Proper] at proper
      rw [write]
      rcases proper with rfl | rfl | rfl | ⟨parts, same, -⟩
      · exact ⟨_, _, rfl, by decide⟩
      · exact ⟨_, _, rfl, by decide⟩
      · exact ⟨_, _, rfl, by decide⟩
      · rw [← same]
        exact parts_open parts
  | string value => exact ⟨_, _, rfl, by decide⟩
  | list items => cases items <;> exact ⟨_, _, rfl, by decide⟩
  | object entries =>
      cases entries with
      | nil => exact ⟨_, _, rfl, by decide⟩
      | cons entry entries => exact ⟨_, _, rfl, by decide⟩

/-! ## Reading what was written -/

/-- What may stand behind a value. -/
def Behind (rest : List Char) : Prop :=
  ∀ char ∈ rest.head?, char = ',' ∨ char = ']' ∨ char = '\x7d'

theorem follows_of_behind {rest : List Char} (behind : Behind rest) :
    Follows rest := by
  intro char first
  rcases behind char first with rfl | rfl | rfl <;> decide

theorem readWord_parts (parts : Parts) (rest : List Char) :
    readWord (parts.text ++ rest) = none := by
  have different : ∀ {digit other : Char}, digit.isDigit = true →
      other.isDigit = false → (digit == other) = false := by
    rintro digit other isDigit noDigit
    rw [beq_eq_false_iff_ne]
    rintro rfl
    rw [isDigit] at noDigit
    simp at noDigit
  rcases parts_begin parts with ⟨digit, more, isDigit, same | same⟩ <;>
    simp [readWord, vocabulary, same, List.dropPrefix?,
      different isDigit (show Char.isDigit 'n' = false from rfl),
      different isDigit (show Char.isDigit 't' = false from rfl),
      different isDigit (show Char.isDigit 'f' = false from rfl),
      different isDigit (show Char.isDigit 'N' = false from rfl),
      different isDigit (show Char.isDigit 'I' = false from rfl),
      different isDigit (show Char.isDigit '-' = false from rfl)]

/-- What is no string, list or object is a word or a number. -/
theorem readValue_plain {first : Char} {rest : List Char} (fuel : Nat)
    (plain : first ≠ '"' ∧ first ≠ '[' ∧ first ≠ '\x7b') :
    readValue (fuel + 1) (first :: rest) =
      (readWord (first :: rest)).or (readNumber (first :: rest)) := by
  rw [readValue, if_neg plain.1, if_neg plain.2.1, if_neg plain.2.2]

theorem readValue_word {word : List Char × Doc} (known : word ∈ vocabulary)
    (fuel : Nat) (rest : List Char) :
    readValue (fuel + 1) (word.1 ++ rest) = some (word.2, rest) := by
  simp only [vocabulary, List.mem_cons, List.not_mem_nil, or_false] at known
  rcases known with rfl | rfl | rfl | rfl | rfl | rfl <;>
    · rw [List.cons_append, readValue_plain fuel (by decide)]
      simp [readWord, vocabulary, List.dropPrefix?]

theorem readValue_parts (parts : Parts) {rest : List Char}
    (behind : Behind rest) (fuel : Nat) :
    readValue (fuel + 1) (parts.text ++ rest) =
      if parts.fraction.isEmpty && parts.exponent.isEmpty then
        (readInt parts.text).map fun value => (.int value, rest)
      else some (.number (String.ofList parts.text), rest) := by
  have isNumber : readNumber (parts.text ++ rest) = _ :=
    congrArg (· >>= _) (munchNumber_written parts (follows_of_behind behind))
  have noWord := readWord_parts parts rest
  have plain : ∀ digit : Char, digit.isDigit = true →
      digit ≠ '"' ∧ digit ≠ '[' ∧ digit ≠ '\x7b' := by
    intro digit isDigit
    refine ⟨?_, ?_, ?_⟩ <;>
      · rintro rfl
        simp at isDigit
  rcases parts_begin parts with ⟨digit, more, isDigit, same | same⟩
  · rw [same, List.cons_append] at noWord isNumber ⊢
    rw [readValue_plain fuel (plain digit isDigit), noWord, Option.none_or,
      isNumber]
    rfl
  · rw [same, List.cons_append] at noWord isNumber ⊢
    rw [readValue_plain fuel (by decide), noWord, Option.none_or, isNumber]
    rfl

/-- Whatever follows, enough fuel reads the document that was written. -/
def Reads (doc : Doc) : Prop :=
  ∀ fuel rest, (write doc).length < fuel → Behind rest →
    readValue fuel (write doc ++ rest) = some (doc, rest)

theorem reads_int (value : Int) : Reads (.int value) := by
  intro fuel rest enough behind
  cases fuel with
  | zero => omega
  | succ fuel =>
      rw [write, ← text_intParts, readValue_parts _ behind, text_intParts,
        readInt_toString]
      rfl

theorem reads_number {text : String} (isFloat : IsFloat text) :
    Reads (.number text) := by
  intro fuel rest enough behind
  cases fuel with
  | zero => omega
  | succ fuel =>
      rw [write]
      rcases isFloat with rfl | rfl | rfl | ⟨parts, same, fractional⟩
      · exact @readValue_word (['N', 'a', 'N'], .number "NaN")
          (by simp [vocabulary]) fuel rest
      · exact @readValue_word
          (['I', 'n', 'f', 'i', 'n', 'i', 't', 'y'], .number "Infinity")
          (by simp [vocabulary]) fuel rest
      · exact @readValue_word
          (['-', 'I', 'n', 'f', 'i', 'n', 'i', 't', 'y'],
            .number "-Infinity")
          (by simp [vocabulary]) fuel rest
      · rw [← same, readValue_parts _ behind, fractional]
        simp [same]

/-- The entries of a proper object are the object that they make. -/
theorem dict_of_nodup {entries : List (String × Doc)}
    (nodup : (entries.map Prod.fst).Nodup) : dict entries = entries := by
  induction entries using List.reverseRecOn with
  | nil => rfl
  | append_singleton entries entry induction =>
      rw [List.map_append, List.nodup_append] at nodup
      have fresh : entries.any (·.1 == entry.1) = false := by
        rw [List.any_eq_false]
        intro other member same
        exact nodup.2.2 other.1 (List.mem_map_of_mem member) entry.1
          (by simp) (by simpa using same)
      rw [dict, List.foldl_append, ← dict, induction nodup.1]
      simp [assign, fresh]

theorem behind_entries (entries : List (String × Doc)) (rest : List Char) :
    Behind (writeEntries entries ++ rest) := by
  cases entries with
  | nil => simp [writeEntries, Behind]
  | cons entry entries => simp [writeEntries, Behind]

/-! A closing bracket, a comma or a colon is not passed over. -/

@[simp]
theorem skip_bracket (rest : List Char) : skip (']' :: rest) = ']' :: rest :=
  rfl

@[simp]
theorem skip_brace (rest : List Char) :
    skip ('\x7d' :: rest) = '\x7d' :: rest := rfl

@[simp]
theorem skip_comma (rest : List Char) : skip (',' :: rest) = ',' :: rest :=
  rfl

@[simp]
theorem skip_colon (rest : List Char) : skip (':' :: rest) = ':' :: rest :=
  rfl

/-- The one space that is written behind a comma or a colon is. -/
theorem skip_space_opens {text : List Char} (opens : Opens text)
    (rest : List Char) : skip (' ' :: (text ++ rest)) = text ++ rest :=
  skip_of_opens opens rest

theorem string_opens (text : String) : Opens (writeString text) :=
  ⟨_, _, rfl, by decide⟩

/-- The last item of a list. -/
theorem readItems_last {item : Doc} (reads : Reads item) {fuel : Nat}
    (enough : (write item).length < fuel) (rest : List Char) :
    readItems (fuel + 1) (write item ++ ']' :: rest) =
      some ([item], rest) := by
  rw [readItems, reads fuel (']' :: rest) enough (by simp [Behind])]
  simp

/-- An item that others follow. -/
theorem readItems_more {item next : Doc} (reads : Reads item)
    (proper : Proper next) {fuel : Nat}
    (enough : (write item).length < fuel) {text rest : List Char}
    {items : List Doc}
    (further : readItems fuel (write next ++ text) =
      some (items, rest)) :
    readItems (fuel + 1) (write item ++ ',' :: ' ' :: (write next ++ text)) =
      some (item :: items, rest) := by
  rw [readItems, reads fuel _ enough (by simp [Behind])]
  simp [skip_space_opens (write_opens proper), further]

theorem readValue_list {item : Doc} (proper : Proper item) {fuel : Nat}
    {text rest : List Char} {items : List Doc}
    (inside : readItems fuel (write item ++ text) = some (items, rest)) :
    readValue (fuel + 1) ('[' :: (write item ++ text)) =
      some (.list items, rest) := by
  have opens := write_opens proper
  have notEnd : (write item ++ text).head? ≠ some ']' := by
    rcases opens with ⟨char, more, same, -, different⟩
    rw [same]
    simpa using different
  rw [readValue, skip_of_opens opens, if_neg (by decide), if_pos rfl,
    if_neg notEnd, inside]
  rfl

/-- The key of an entry, and what its value is read from. -/
theorem readEntries_key (key : String) {value : Doc} (proper : Proper value)
    (reads : Reads value) {fuel : Nat}
    (enough : (write value).length < fuel) {text : List Char}
    (behind : Behind text) :
    readEntries (fuel + 1)
        (writeString key ++ ':' :: ' ' :: (write value ++ text)) =
      match skip text with
      | '\x7d' :: rest => some ([(key, value)], rest)
      | ',' :: rest => do
          let (entries, rest) ← readEntries fuel (skip rest)
          some ((key, value) :: entries, rest)
      | _ => none := by
  have isKey := readString_writeString key
    (':' :: ' ' :: (write value ++ text))
  simp only [writeString, List.cons_append, List.append_assoc,
    List.nil_append, readEntries, isKey, Option.bind_eq_bind,
    Option.bind_some, skip_colon, skip_space_opens (write_opens proper),
    reads fuel text enough behind]

theorem readValue_object (key : String) {fuel : Nat}
    {text rest : List Char} {entries : List (String × Doc)}
    (nodup : (entries.map Prod.fst).Nodup)
    (inside : readEntries fuel (writeString key ++ text) =
      some (entries, rest)) :
    readValue (fuel + 1) ('\x7b' :: (writeString key ++ text)) =
      some (.object entries, rest) := by
  have notEnd : (writeString key ++ text).head? ≠ some '\x7d' := by
    simp [writeString]
  rw [readValue, skip_of_opens (string_opens key), if_neg (by decide),
    if_neg (by decide), if_pos rfl, if_neg notEnd, inside, Option.map_some,
    dict_of_nodup nodup]

mutual

theorem reads_write : ∀ doc, Proper doc → Reads doc
  | .null, _ => by
      intro fuel rest enough behind
      cases fuel with
      | zero => omega
      | succ fuel =>
          exact @readValue_word (_, .null) (by simp [vocabulary]) fuel rest
  | .bool value, _ => by
      intro fuel rest enough behind
      cases fuel with
      | zero => omega
      | succ fuel =>
          cases value with
          | true =>
              exact @readValue_word (_, .bool true) (by simp [vocabulary])
                fuel rest
          | false =>
              exact @readValue_word (_, .bool false) (by simp [vocabulary])
                fuel rest
  | .int value, _ => reads_int value
  | .number text, proper => reads_number proper
  | .string value, _ => by
      intro fuel rest enough behind
      cases fuel with
      | zero => omega
      | succ fuel =>
          have string := readString_writeString value rest
          simp [write, writeString, readValue, string]
  | .list [], _ => by
      intro fuel rest enough behind
      cases fuel with
      | zero => omega
      | succ fuel => simp [write, readValue]
  | .list (item :: items), proper => by
      intro fuel rest enough behind
      rcases proper with ⟨first, further⟩
      cases fuel with
      | zero => omega
      | succ fuel =>
          simp only [write, List.length_cons] at enough
          have inside := reads_items items further item
            (reads_write item first) fuel rest (by omega)
          simp only [write, List.cons_append, List.append_assoc]
          exact readValue_list first inside
  | .object [], _ => by
      intro fuel rest enough behind
      cases fuel with
      | zero => omega
      | succ fuel => simp [write, readValue]
  | .object ((key, value) :: entries), proper => by
      intro fuel rest enough behind
      rcases proper with ⟨nodup, first, further⟩
      cases fuel with
      | zero => omega
      | succ fuel =>
          simp only [write, List.length_cons] at enough
          have inside := reads_entries entries further key value first
            (reads_write value first) fuel rest (by omega)
          simp only [write, List.cons_append, List.append_assoc]
          exact readValue_object key nodup inside

theorem reads_items : ∀ items, ProperItems items → ∀ item, Reads item →
    ∀ fuel rest, (write item ++ writeItems items).length < fuel →
      readItems fuel (write item ++ (writeItems items ++ rest)) =
        some (item :: items, rest)
  | [], _, item, reads, fuel, rest, enough => by
      cases fuel with
      | zero => omega
      | succ fuel =>
          simp only [writeItems, List.length_append, List.length_cons]
            at enough
          exact readItems_last reads (by omega) rest
  | next :: items, ⟨proper, further⟩, item, reads, fuel, rest, enough => by
      cases fuel with
      | zero => omega
      | succ fuel =>
          simp only [writeItems, List.length_append, List.length_cons]
            at enough
          have inside := reads_items items further next
            (reads_write next proper) fuel rest (by
              rw [List.length_append]
              omega)
          simp only [writeItems, List.cons_append, List.append_assoc]
          exact readItems_more reads proper (by omega) inside

theorem reads_entries : ∀ entries, ProperEntries entries →
    ∀ key value, Proper value → Reads value → ∀ fuel rest,
      (writeString key ++
        ':' :: ' ' :: (write value ++ writeEntries entries)).length < fuel →
      readEntries fuel
          (writeString key ++ ':' :: ' ' ::
            (write value ++ (writeEntries entries ++ rest))) =
        some ((key, value) :: entries, rest)
  | [], _, key, value, proper, reads, fuel, rest, enough => by
      cases fuel with
      | zero => omega
      | succ fuel =>
          simp only [writeEntries, List.length_append, List.length_cons]
            at enough
          rw [readEntries_key key proper reads (by omega)
            (behind_entries [] rest)]
          rfl
  | (next, doc) :: entries, ⟨first, further⟩, key, value, proper, reads,
      fuel, rest, enough => by
      cases fuel with
      | zero => omega
      | succ fuel =>
          simp only [writeEntries, List.length_append, List.length_cons]
            at enough
          have inside := reads_entries entries further next doc first
            (reads_write doc first) fuel rest (by
              simp only [List.length_append, List.length_cons]
              omega)
          rw [readEntries_key key proper reads (by omega)
            (behind_entries _ rest)]
          simp only [writeEntries, List.cons_append, List.append_assoc,
            skip_comma, skip_space_opens (string_opens next), inside,
            Option.bind_eq_bind, Option.bind_some]

end

/-- A proper document is read back from what is written of it. -/
theorem read_write {doc : Doc} (proper : Proper doc) :
    read (write doc) = some doc := by
  have opens := skip_of_opens (write_opens proper) []
  have reads := reads_write doc proper ((write doc).length + 1) []
    (Nat.lt_succ_self _) (by simp [Behind])
  rw [List.append_nil] at opens reads
  rw [read, opens, reads]
  rfl

/-! ## One line of printable ASCII -/

theorem printable_digit {char : Char} (digit : char.isDigit = true) :
    Printable char := by
  simp only [Char.isDigit, Bool.and_eq_true, decide_eq_true_eq,
    UInt32.le_iff_toNat_le] at digit
  have low : (48 : Nat) ≤ char.toNat := digit.1
  have high : char.toNat ≤ (57 : Nat) := digit.2
  exact ⟨by omega, by omega⟩

theorem printable_whole {whole : List Char} (isWhole : IsWhole whole) :
    ∀ char ∈ whole, Printable char := by
  cases isWhole with
  | zero => exact printable_literal rfl
  | digits positive digit digits =>
      rw [List.forall_mem_cons]
      exact ⟨printable_digit digit,
        fun char member => printable_digit (digits char member)⟩

theorem printable_fraction {fraction : List Char}
    (isFraction : IsFraction fraction) :
    ∀ char ∈ fraction, Printable char := by
  cases isFraction with
  | missing => simp
  | digits nonempty all =>
      rw [List.forall_mem_cons]
      exact ⟨by decide,
        fun char member => printable_digit (all char member)⟩

theorem printable_exponent {exponent : List Char}
    (isExponent : IsExponent exponent) :
    ∀ char ∈ exponent, Printable char := by
  cases isExponent with
  | missing => simp
  | digits marked signed nonempty all =>
      rw [List.forall_mem_cons, List.forall_mem_append]
      refine ⟨?_, ?_, fun char member => printable_digit (all char member)⟩
      · rcases marked with rfl | rfl <;> decide
      · rcases signed with rfl | rfl | rfl <;>
          exact printable_literal rfl

theorem printable_parts (parts : Parts) :
    ∀ char ∈ parts.text, Printable char := by
  have sign : ∀ char ∈ parts.sign, Printable char := by
    rw [Parts.sign]
    cases parts.negative <;> exact printable_literal rfl
  simp only [Parts.text, List.forall_mem_append]
  exact ⟨sign, printable_whole parts.isWhole,
    printable_fraction parts.isFraction,
    printable_exponent parts.isExponent⟩

theorem printable_number {text : String} (isFloat : IsFloat text) :
    ∀ char ∈ text.toList, Printable char := by
  rcases isFloat with rfl | rfl | rfl | ⟨parts, same, -⟩
  · exact printable_literal rfl
  · exact printable_literal rfl
  · exact printable_literal rfl
  · rw [← same]
    exact printable_parts parts

theorem printable_string (text : String) :
    ∀ char ∈ writeString text, Printable char := by
  rw [writeString, List.cons_append, List.forall_mem_cons,
    List.forall_mem_append]
  exact ⟨by decide, printable_writeChars _, printable_literal rfl⟩

mutual

theorem printable_write : ∀ doc, Proper doc →
    ∀ char ∈ write doc, Printable char
  | .null, _ => printable_literal rfl
  | .bool true, _ => printable_literal rfl
  | .bool false, _ => printable_literal rfl
  | .int value, _ => by
      rw [write, ← text_intParts]
      exact printable_parts _
  | .number text, proper => printable_number proper
  | .string value, _ => printable_string value
  | .list [], _ => printable_literal rfl
  | .list (item :: items), ⟨first, further⟩ => by
      rw [write, List.forall_mem_cons, List.forall_mem_append]
      exact ⟨by decide, printable_write item first,
        printable_items items further⟩
  | .object [], _ => printable_literal rfl
  | .object ((key, value) :: entries), ⟨_, first, further⟩ => by
      simp only [write, List.forall_mem_cons, List.forall_mem_append]
      exact ⟨by decide, printable_string key, by decide, by decide,
        printable_write value first, printable_entries entries further⟩

theorem printable_items : ∀ items, ProperItems items →
    ∀ char ∈ writeItems items, Printable char
  | [], _ => printable_literal rfl
  | item :: items, ⟨first, further⟩ => by
      simp only [writeItems, List.forall_mem_cons, List.forall_mem_append]
      exact ⟨by decide, by decide, printable_write item first,
        printable_items items further⟩

theorem printable_entries : ∀ entries, ProperEntries entries →
    ∀ char ∈ writeEntries entries, Printable char
  | [], _ => printable_literal rfl
  | (key, value) :: entries, ⟨first, further⟩ => by
      simp only [writeEntries, List.forall_mem_cons, List.forall_mem_append]
      exact ⟨by decide, by decide, printable_string key, by decide,
        by decide, printable_write value first,
        printable_entries entries further⟩

end

theorem lineFeed_notMem_write {doc : Doc} (proper : Proper doc) :
    '\n' ∉ write doc := by
  intro feed
  have printable := printable_write doc proper '\n' feed
  revert printable
  decide

/-! ## One document a line -/

/-- Documents as a stream of lines, each with its line feed. -/
def writeLines (docs : List Doc) : List Char :=
  docs.flatMap fun doc => write doc ++ ['\n']

/-- The documents of a stream; what follows the last line feed is empty. -/
def readLines (text : List Char) : Option (List Doc) :=
  (text.splitOn '\n').dropLast.mapM read

theorem splitOn_writeLines {docs : List Doc}
    (proper : ∀ doc ∈ docs, Proper doc) :
    (writeLines docs).splitOn '\n' = docs.map write ++ [[]] := by
  induction docs with
  | nil => rfl
  | cons doc docs induction =>
      rw [List.forall_mem_cons] at proper
      have split : writeLines (doc :: docs) =
          write doc ++ '\n' :: writeLines docs := by
        simp [writeLines]
      rw [split, List.splitOn_append_cons_self_of_not_mem
        (lineFeed_notMem_write proper.1), induction proper.2]
      rfl

/-- If each written item is read back, so is the list of them. -/
theorem mapM_map_eq_some
    {α β γ : Type} {written : α → β} {reads : β → Option γ} {value : α → γ}
    {items : List α}
    (each : ∀ item ∈ items, reads (written item) = some (value item)) :
    (items.map written).mapM reads = some (items.map value) := by
  induction items with
  | nil => rfl
  | cons item items induction =>
      rw [List.forall_mem_cons] at each
      rw [List.map_cons, List.mapM_cons, each.1, induction each.2]
      rfl

theorem mapM_read {docs : List Doc} (proper : ∀ doc ∈ docs, Proper doc) :
    (docs.map write).mapM read = some docs := by
  conv_rhs => rw [← List.map_id docs]
  exact mapM_map_eq_some fun doc member => read_write (proper doc member)

/-- A stream of proper documents is read back, line by line. -/
theorem readLines_writeLines {docs : List Doc}
    (proper : ∀ doc ∈ docs, Proper doc) :
    readLines (writeLines docs) = some docs := by
  rw [readLines, splitOn_writeLines proper, List.dropLast_concat,
    mapM_read proper]

theorem take_splitOn_writeLines {docs : List Doc}
    (proper : ∀ doc ∈ docs, Proper doc) (size : Nat) :
    ∃ count, (((writeLines docs).take size).splitOn '\n').dropLast =
      (docs.take count).map write := by
  induction docs generalizing size with
  | nil => exact ⟨0, by simp [writeLines]⟩
  | cons doc docs induction =>
      rw [List.forall_mem_cons] at proper
      have unbroken := lineFeed_notMem_write proper.1
      have split : writeLines (doc :: docs) =
          write doc ++ '\n' :: writeLines docs := by
        simp [writeLines]
      rcases Nat.lt_or_ge (write doc).length size with whole | torn
      · rcases induction proper.2 (size - (write doc).length - 1) with
          ⟨count, read⟩
        refine ⟨count + 1, ?_⟩
        have further : size - (write doc).length =
            (size - (write doc).length - 1) + 1 := by
          omega
        rw [split, List.take_append, List.take_of_length_le whole.le,
          further, List.take_succ_cons,
          List.splitOn_append_cons_self_of_not_mem unbroken,
          List.dropLast_cons_of_ne_nil (List.splitOn_ne_nil _ _), read]
        rfl
      · refine ⟨0, ?_⟩
        rw [split, List.take_append_of_le_length torn,
          List.splitOn_eq_singleton
            fun feed => unbroken (List.mem_of_mem_take feed)]
        rfl

/-- A stream that was cut off anywhere still gives its first documents. -/
theorem readLines_take {docs : List Doc}
    (proper : ∀ doc ∈ docs, Proper doc) (size : Nat) :
    ∃ count, readLines ((writeLines docs).take size) =
      some (docs.take count) := by
  rcases take_splitOn_writeLines proper size with ⟨count, lines⟩
  refine ⟨count, ?_⟩
  rw [readLines, lines]
  exact mapM_read fun doc member => proper doc (List.mem_of_mem_take member)

end SupportAssistant.Text.JsonText
