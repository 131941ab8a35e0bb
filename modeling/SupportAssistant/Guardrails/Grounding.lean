import SupportAssistant.Guardrails.Facts
import SupportAssistant.Text.Numerals

/-!
# Verification of a rendered reply

The checker extracts identifiers, numbers and status words from the finished
text and compares each with the facts, and numbers also with the template's
safe literals.  Identifiers are blanked before the other two scans, and so
are the entity strings of the fact set: station names and the user's name.
-/

namespace SupportAssistant.Guardrails.Grounding

open SupportAssistant.Numeric.DecimalFloat
open SupportAssistant.Text.Backtracking
open SupportAssistant.Text.Scan
open SupportAssistant.Text.WholeWords
open SupportAssistant.Text.Alternation
open SupportAssistant.Text.Numerals
open SupportAssistant.Enums
open SupportAssistant.Runtime
open SupportAssistant.Tracing.Models
open SupportAssistant.Guardrails.Facts

def unsourced : String :=
  "not present in FactSet or TEMPLATE_SAFE_LITERALS"

/-! ## The three patterns -/

/-- The prefixes of a fixture identifier. -/
def identifierPrefixes : List String :=
  ["inv", "sess", "u"]

/-- `(?:inv|sess|u)_\w+`. -/
def identifierBody (py : PyText) : Regex :=
  .seq (anyOf (identifierPrefixes.map fun word => spelled exactly word.toList))
    (.seq (.charClass (· == '_')) (.many1 py.isWord))

/-- `\b(?:inv|sess|u)_\w+\b`. -/
def identifierPattern (py : PyText) : Regex :=
  delimited (identifierBody py)

/-- `[.,]`. -/
def isSeparator (char : Char) : Bool :=
  char == '.' || char == ','

/-- `\d+(?:[.,]\d+)?`. -/
def numberPattern (py : PyText) : Regex :=
  numeral py.isDigit isSeparator

/-- The members of the two status enumerations. -/
def statusWords : List String :=
  InvoiceStatus.members.map InvoiceStatus.value ++
    SessionStatus.members.map SessionStatus.value

/-- The alternation of the status words, ignoring case. -/
def statusBody : Regex :=
  alternation ignoreCase (statusWords.map String.toList)

def statusPattern : Regex :=
  delimited statusBody

def identifierMatcher (py : PyText) : Matcher :=
  (identifierPattern py).matcher py.isWord

def numberMatcher (py : PyText) : Matcher :=
  (numberPattern py).matcher py.isWord

def statusMatcher (py : PyText) : Matcher :=
  statusPattern.matcher py.isWord

/-- The matcher of a collection of spans, the longest first. -/
def maskMatcher (py : PyText) (spans : List String) : Matcher :=
  (alternation exactly (spans.map String.toList)).matcher py.isWord

/-! ## Extraction -/

/-- One factual token found in a reply, and how it was extracted. -/
structure Literal where
  text : String
  kind : LiteralClass
deriving DecidableEq, Repr

/-- The reply with its identifiers blanked. -/
def blanked (py : PyText) (reply : String) : List Char :=
  sub (identifierMatcher py) [' '] reply.toList

/-- Blank out the spans, the longest first. -/
def mask (py : PyText) (text : List Char) (spans : List String) :
    List Char :=
  if spans.isEmpty then text else sub (maskMatcher py spans) [' '] text

/-- Every match of a pattern in a text, as literals of one class. -/
def literalsOf (matcher : Matcher) (kind : LiteralClass)
    (text : List Char) : List Literal :=
  (findall matcher text).map fun word => ⟨String.ofList word, kind⟩

/-- Every factual literal in the reply. -/
def extract (py : PyText) (reply : String) (facts : FactSet) :
    List Literal :=
  let masked := mask py (blanked py reply) facts.allowedEntities
  literalsOf (identifierMatcher py) .identifier reply.toList ++
    literalsOf (numberMatcher py) .number masked ++
      literalsOf (statusMatcher py) .status masked

/-! ## Verification -/

/-- The number a text spells, with a comma read as a point. -/
def asDecimal (py : PyText) (text : String) : Option Decimal :=
  ofText py.toAlphabet
    (text.toList.map fun char => if char == ',' then '.' else char)

/-- The numbers among the safe literals.  One that cannot be hashed raises. -/
def safeNumbers (py : PyText) (templateSafeLiterals : List String) :
    Except Exc (List Decimal) :=
  let values := templateSafeLiterals.filterMap (asDecimal py)
  if values.contains .signallingNan then
    .error (typeError py "Cannot hash a signaling NaN value.")
  else .ok values

/-- Membership of a decimal in a set of decimals. -/
def decimalIsIn (decimal : Decimal) (numbers : List Decimal) : Bool :=
  match decimal with
  | .finite number => number.isIn numbers
  | .infinite negative => numbers.contains (.infinite negative)
  | .nan => false
  | .signallingNan => false

/-- Is the literal sourced, by the rule of its class? -/
def grounded (py : PyText) (facts : FactSet) (numbers : List Decimal)
    (literal : Literal) : Bool :=
  match literal.kind with
  | .number =>
      match asDecimal py literal.text with
      | some value => decimalIsIn value numbers
      | none => false
  | .identifier => facts.allowedIdentifiers.contains literal.text
  | .status => facts.allowedStatuses.contains (py.lower literal.text)

/-- What one pass of the checker found. -/
structure GroundingResult where
  literals : List Literal
  violations : List Violation
deriving DecidableEq, Repr

/-- The numbers a reply may state. -/
def allowedNumbers (facts : FactSet) (safe : List Decimal) :
    List Decimal :=
  facts.allowedNumbers.map .finite ++ safe

/-- Check every extracted literal against the facts and the safe list. -/
def verify (py : PyText) (reply : String) (facts : FactSet)
    (templateSafeLiterals : List String) : Except Exc GroundingResult := do
  let safe ← safeNumbers py templateSafeLiterals
  let literals := extract py reply facts
  let violations := literals.filter fun literal =>
    !grounded py facts (allowedNumbers facts safe) literal
  .ok
    { literals
      violations := violations.map fun literal =>
        { literal := literal.text
          literalClass := literal.kind
          reason := unsourced } }

/-- `verify` reports a violation for each literal that is not sourced. -/
theorem verify_ok
    {py : PyText} {reply : String} {facts : FactSet}
    {templateSafeLiterals : List String} {result : GroundingResult}
    (verified : verify py reply facts templateSafeLiterals = .ok result) :
    ∃ safe,
      safeNumbers py templateSafeLiterals = .ok safe ∧
        result.literals = extract py reply facts ∧
          (result.violations = [] ↔
            ∀ literal ∈ extract py reply facts,
              grounded py facts (allowedNumbers facts safe) literal =
                true) := by
  unfold verify at verified
  cases safeResult : safeNumbers py templateSafeLiterals with
  | error exc => simp [safeResult, bind, Except.bind] at verified
  | ok safe =>
      simp only [safeResult, bind, Except.bind, Except.ok.injEq] at verified
      refine ⟨safe, rfl, by rw [← verified], ?_⟩
      rw [← verified]
      simp

/-- A reply all of whose literals are sourced passes. -/
theorem verify_of_grounded
    {py : PyText} {reply : String} {facts : FactSet}
    {templateSafeLiterals : List String} {safe : List Decimal}
    (safeOk : safeNumbers py templateSafeLiterals = .ok safe)
    (sourced : ∀ literal ∈ extract py reply facts,
      grounded py facts (allowedNumbers facts safe) literal = true) :
    verify py reply facts templateSafeLiterals =
      .ok ⟨extract py reply facts, []⟩ := by
  have none :
      (extract py reply facts).filter (fun literal =>
        !grounded py facts (allowedNumbers facts safe) literal) = [] := by
    rw [List.filter_eq_nil_iff]
    intro literal member
    simp [sourced literal member]
  simp [verify, safeOk, bind, Except.bind, none]

end SupportAssistant.Guardrails.Grounding
