import SupportAssistant.Numeric.DecimalFloat

/-!
# The language runtime

What the service takes from Python itself: strings and their character
classes, exceptions, JSON values, timestamps.

Two parts of the runtime are parameters of the whole development.  `PyText`
is the Unicode database together with the string methods that depend on it,
and what can be encoded and dumped; `TimeText` is the text form of timestamps.
Their fields record the documented behaviour that the service relies on.
-/

namespace SupportAssistant.Runtime

open SupportAssistant.Numeric.DecimalFloat

/-! ## Text -/

/--
The characters beyond ASCII that match an ASCII letter under `re.IGNORECASE`:
the dotless and the dotted capital `i`, the long `s` and the Kelvin sign.
-/
def foldedLetters : List Nat :=
  [0x131, 0x130, 0x17f, 0x212a]

/--
The Unicode database, as far as the service consults it, and the limits of
what is written out.

A Python string may hold surrogates without their pair, which are no
characters here: other characters stand for them.
-/
structure PyText extends Alphabet where
  /-- `\w`. -/
  isWord : Char → Bool
  /-- `str.lower`. -/
  lower : String → String
  /-- `repr` of a string. -/
  repr : String → String
  /-- The character stands for a lone surrogate, which UTF-8 cannot encode. -/
  surrogate : Char → Bool
  /-- How deep a value may be nested that the validation library dumps. -/
  dumpDepth : Nat
  asciiWord (char : Char) :
    char.toNat < 128 → isWord char = (char.isAlphanum || char == '_')
  digit_isWord (char : Char) :
    (digit char).isSome = true → isWord char = true
  folded_isWord (char : Char) :
    foldedLetters.contains char.toNat = true → isWord char = true
  asciiLower (text : String) :
    (∀ char ∈ text.toList, char.toNat < 128) →
      lower text = String.ofList (text.toList.map Char.toLower)
  asciiSurrogate (char : Char) : char.toNat < 128 → surrogate char = false
  two_le_dumpDepth : 2 ≤ dumpDepth

/-- `\d`: a decimal digit of any script. -/
def PyText.isDigit (py : PyText) (char : Char) : Bool :=
  (py.digit char).isSome

/--
Whether a lower-case ASCII letter of a pattern matches a character under
`re.IGNORECASE`.  Beside its upper case, `i` matches the dotless and the
dotted capital `i`, `s` the long `s`, and `k` the Kelvin sign.
-/
def ignoreCase (letter char : Char) : Bool :=
  char == letter || char == letter.toUpper ||
    (letter == 'i' && (char.toNat == 0x131 || char.toNat == 0x130)) ||
    (letter == 's' && char.toNat == 0x17f) ||
    (letter == 'k' && char.toNat == 0x212a)

/-- `text.encode()` does not raise. -/
def PyText.encodes (py : PyText) (text : String) : Bool :=
  text.toList.all fun char => !py.surrogate char

/-- `separator.join(parts)`. -/
def join (separator : String) (parts : List String) : String :=
  String.intercalate separator parts

/-! ## Exceptions -/

/-- The `except` clause of the orchestrator that an exception falls under. -/
inductive Clause where
  | userNotFound
  | noDataAvailable
  | other
deriving DecidableEq, Repr

/--
An exception: the name of its class, the clause that catches it, and what
`str` and `repr` make of it.  Printing an exception may itself raise.
-/
inductive Exc where
  | raised (name : String) (clause : Clause) (str repr : Except Exc String)

def Exc.name : Exc → String
  | .raised name _ _ _ => name

def Exc.clause : Exc → Clause
  | .raised _ clause _ _ => clause

def Exc.str : Exc → Except Exc String
  | .raised _ _ str _ => str

def Exc.repr : Exc → Except Exc String
  | .raised _ _ _ repr => repr

/-- `str` and `repr` of the exception succeed. -/
def Exc.Printable (exc : Exc) : Prop :=
  (∃ text, exc.str = .ok text) ∧ (∃ text, exc.repr = .ok text)

/-- An exception constructed from one message. -/
def Exc.plain (py : PyText) (name : String) (clause : Clause)
    (message : String) : Exc :=
  .raised name clause (.ok message)
    (.ok (name ++ "(" ++ py.repr message ++ ")"))

def valueError (py : PyText) (message : String) : Exc :=
  .plain py "ValueError" .other message

def runtimeError (py : PyText) (message : String) : Exc :=
  .plain py "RuntimeError" .other message

def typeError (py : PyText) (message : String) : Exc :=
  .plain py "TypeError" .other message

/-- What encoding a text raises; the real message also says where. -/
def unicodeEncodeError (py : PyText) : Exc :=
  .plain py "UnicodeEncodeError" .other "surrogates not allowed"

def indexError (py : PyText) (message : String) : Exc :=
  .plain py "IndexError" .other message

/-- A missing key: `str` of the exception is the `repr` of the key. -/
def keyError (py : PyText) (key : String) : Exc :=
  .raised "KeyError" .other (.ok (py.repr key))
    (.ok ("KeyError(" ++ py.repr key ++ ")"))

/-! ## Values -/

/-- More digits than this are neither read nor written. -/
def maxStrDigits : Nat := 4300

/-- `str` of the integer does not raise. -/
def shortInt (value : Int) : Bool :=
  decide (value.natAbs < 10 ^ maxStrDigits)

/-- What writing out an integer raises that is not short. -/
def digitsError (py : PyText) : Exc :=
  valueError py
    "Exceeds the limit (4300 digits) for integer string conversion"

/--
A JSON value.  A float is kept as the text it is written as; NaN and the
infinities are none.
-/
inductive Json where
  | null
  | bool (value : Bool)
  | int (value : Int)
  | float (text : String)
  | string (value : String)
  | list (items : List Json)
  | object (entries : List (String × Json))
deriving Repr

/--
A value of any type.  Of one that is not a JSON value, the service only ever
sees what serialising it yields and what it yields where a string is wanted.
-/
inductive AnyValue where
  | json (value : Json)
  | other (dumped : Option Json) (asString : Option String)
deriving Repr

abbrev Dict := List (String × AnyValue)

mutual

/-- `repr` of a JSON value. -/
def Json.repr (py : PyText) : Json → String
  | .null => "None"
  | .bool true => "True"
  | .bool false => "False"
  | .int value => toString value
  | .float text => text
  | .string value => py.repr value
  | .list items => "[" ++ join ", " (Json.reprItems py items) ++ "]"
  | .object entries =>
      "\x7b" ++ join ", " (Json.reprEntries py entries) ++ "\x7d"

def Json.reprItems (py : PyText) : List Json → List String
  | [] => []
  | item :: items => item.repr py :: Json.reprItems py items

def Json.reprEntries (py : PyText) :
    List (String × Json) → List String
  | [] => []
  | (key, value) :: entries =>
      (py.repr key ++ ": " ++ value.repr py) :: Json.reprEntries py entries

end

/-- `str` of a JSON value. -/
def Json.str (py : PyText) : Json → String
  | .string value => value
  | value => value.repr py

mutual

/-- How deep a value is nested; a text or a number is not. -/
def Json.depth : Json → Nat
  | .list items => Json.depthItems items + 1
  | .object entries => Json.depthEntries entries + 1
  | _ => 0

def Json.depthItems : List Json → Nat
  | [] => 0
  | item :: items => max item.depth (Json.depthItems items)

def Json.depthEntries : List (String × Json) → Nat
  | [] => 0
  | (_, value) :: entries => max value.depth (Json.depthEntries entries)

end

mutual

/-- Every key, every text and every integer in a value passes its test. -/
def Json.every (key text : String → Bool) (number : Int → Bool) :
    Json → Bool
  | .string value => text value
  | .int value => number value
  | .list items => Json.everyItem key text number items
  | .object entries => Json.everyEntry key text number entries
  | _ => true

def Json.everyItem (key text : String → Bool) (number : Int → Bool) :
    List Json → Bool
  | [] => true
  | item :: items =>
      item.every key text number && Json.everyItem key text number items

def Json.everyEntry (key text : String → Bool) (number : Int → Bool) :
    List (String × Json) → Bool
  | [] => true
  | (name, value) :: entries =>
      key name && value.every key text number &&
        Json.everyEntry key text number entries

end

/-- `json.dumps` does not raise: no integer in it is too long. -/
def Json.short (value : Json) : Bool :=
  value.every (fun _ => true) (fun _ => true) shortInt

/-- Every key in it can be encoded: one that cannot is dumped as another. -/
def Json.keyed (py : PyText) (value : Json) : Bool :=
  value.every py.encodes (fun _ => true) fun _ => true

/-- The text it is written as can be encoded: so can every text in it. -/
def Json.encodes (py : PyText) (value : Json) : Bool :=
  value.every py.encodes py.encodes fun _ => true

/-- It can be sent: neither writing nor encoding it raises. -/
def Json.sendable (py : PyText) (value : Json) : Bool :=
  value.short && value.encodes py

/-- `value.get(key)` on a JSON object. -/
def Json.get? (entries : List (String × Json)) (key : String) : Option Json :=
  (entries.find? (·.1 == key)).map (·.2)

/-! ## Timestamps -/

/--
A timestamp: the wall clock in microseconds and, for an aware one, its offset
from UTC, also in microseconds.
-/
structure DateTime where
  wall : Int
  offset : Option Int
deriving DecidableEq, Repr

/-- The timestamp is aware and in UTC. -/
def DateTime.IsUtc (time : DateTime) : Prop :=
  time.offset = some 0

/-- A reading of the clock: aware and in UTC. -/
abbrev Reading := { time : DateTime // time.IsUtc }

/-- The position on the time line, for timestamps that can be compared. -/
def DateTime.instant (time : DateTime) : Int :=
  time.wall - time.offset.getD 0

def DateTime.aware (time : DateTime) : Bool :=
  time.offset.isSome

/-- The text forms of timestamps, and reading them back. -/
structure TimeText where
  /-- `datetime.isoformat`. -/
  isoformat : DateTime → String
  /-- The form a model is serialised with. -/
  dumped : DateTime → String
  /-- Validation of a text as a timestamp. -/
  parse : String → Option DateTime
  parse_isoformat (time : DateTime) :
    time.IsUtc → parse (isoformat time) = some time
  parse_dumped (time : DateTime) :
    ∃ read, parse (dumped time) = some read ∧ (time.IsUtc → read = time)
  isoformat_ascii (time : DateTime) :
    ∀ char ∈ (isoformat time).toList, char.toNat < 128
  dumped_ascii (time : DateTime) :
    ∀ char ∈ (dumped time).toList, char.toNat < 128

/-! ## Model validation -/

/--
The validation library: how it reads the two field types whose input forms
are its own, and the report it raises with.
-/
structure Pydantic where
  /-- A field of type `Decimal`. -/
  decimal : Json → Option Finite
  /-- A field of type `datetime`. -/
  datetime : Json → Option DateTime
  /-- The text of a validation error of the named model. -/
  report : String → String

def validationError (py : PyText) (pydantic : Pydantic) (model : String) :
    Exc :=
  .plain py "ValidationError" .other (pydantic.report model)

end SupportAssistant.Runtime
