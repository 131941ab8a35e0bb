import SupportAssistant.Runtime
import SupportAssistant.Text.JsonText

/-!
# `json.dumps` and `json.loads`

The values of the runtime are documents, and the two functions write and read
their text.  A value whose objects have no key twice and whose floats are
written as floats comes back as it was.
-/

namespace SupportAssistant.Runtime.Dumps

open SupportAssistant.Runtime
open SupportAssistant.Text.JsonText

/-! ## Values as documents -/

mutual

def docOf : Json → Doc
  | .null => .null
  | .bool value => .bool value
  | .int value => .int value
  | .float text => .number text
  | .string value => .string value
  | .list items => .list (docsOf items)
  | .object entries => .object (entriesOf entries)

def docsOf : List Json → List Doc
  | [] => []
  | item :: items => docOf item :: docsOf items

def entriesOf : List (String × Json) → List (String × Doc)
  | [] => []
  | (key, value) :: entries => (key, docOf value) :: entriesOf entries

end

mutual

def jsonOf : Doc → Json
  | .null => .null
  | .bool value => .bool value
  | .int value => .int value
  | .number text => .float text
  | .string value => .string value
  | .list items => .list (jsonsOf items)
  | .object entries => .object (valuesOf entries)

def jsonsOf : List Doc → List Json
  | [] => []
  | item :: items => jsonOf item :: jsonsOf items

def valuesOf : List (String × Doc) → List (String × Json)
  | [] => []
  | (key, value) :: entries => (key, jsonOf value) :: valuesOf entries

end

mutual

theorem jsonOf_docOf : ∀ json, jsonOf (docOf json) = json
  | .null | .bool _ | .int _ | .float _ | .string _ => by
      simp [docOf, jsonOf]
  | .list items => by rw [docOf, jsonOf, jsonsOf_docsOf]
  | .object entries => by rw [docOf, jsonOf, valuesOf_entriesOf]

theorem jsonsOf_docsOf : ∀ items, jsonsOf (docsOf items) = items
  | [] => rfl
  | item :: items => by
      rw [docsOf, jsonsOf, jsonOf_docOf, jsonsOf_docsOf]

theorem valuesOf_entriesOf : ∀ entries, valuesOf (entriesOf entries) = entries
  | [] => rfl
  | (key, value) :: entries => by
      rw [entriesOf, valuesOf, jsonOf_docOf, valuesOf_entriesOf]

end

/-! ## The two functions -/

/-- `json.dumps(value)`. -/
def dumps (value : Json) : String :=
  String.ofList (write (docOf value))

/-- `json.loads(text)`, if it does not raise. -/
def loads (text : String) : Option Json :=
  (read text.toList).map jsonOf

/-- Every object is a dictionary, and every float is written as one. -/
def ProperJson (value : Json) : Prop :=
  Proper (docOf value)

theorem loads_dumps {value : Json} (proper : ProperJson value) :
    loads (dumps value) = some value := by
  rw [loads, dumps, String.toList_ofList, read_write proper,
    Option.map_some, jsonOf_docOf]

/-! ## Proper values -/

theorem properItems_docsOf {items : List Json} :
    ProperItems (docsOf items) ↔ ∀ item ∈ items, ProperJson item := by
  induction items with
  | nil => simp [docsOf, ProperItems]
  | cons item items induction =>
      rw [docsOf, ProperItems, induction, List.forall_mem_cons]
      rfl

theorem properEntries_entriesOf {entries : List (String × Json)} :
    ProperEntries (entriesOf entries) ↔
      ∀ entry ∈ entries, ProperJson entry.2 := by
  induction entries with
  | nil => simp [entriesOf, ProperEntries]
  | cons entry entries induction =>
      rw [entriesOf, ProperEntries, induction, List.forall_mem_cons]
      rfl

theorem keys_entriesOf (entries : List (String × Json)) :
    (entriesOf entries).map Prod.fst = entries.map Prod.fst := by
  induction entries with
  | nil => rfl
  | cons entry entries induction =>
      rw [entriesOf, List.map_cons, List.map_cons, induction]

theorem properJson_list {items : List Json} :
    ProperJson (.list items) ↔ ∀ item ∈ items, ProperJson item := by
  rw [ProperJson, docOf, Proper, properItems_docsOf]

theorem properJson_object {entries : List (String × Json)} :
    ProperJson (.object entries) ↔
      (entries.map Prod.fst).Nodup ∧
        ∀ entry ∈ entries, ProperJson entry.2 := by
  rw [ProperJson, docOf, Proper, keys_entriesOf, properEntries_entriesOf]

@[simp]
theorem properJson_null : ProperJson .null := by
  simp [ProperJson, docOf, Proper]

@[simp]
theorem properJson_bool (value : Bool) : ProperJson (.bool value) := by
  simp [ProperJson, docOf, Proper]

@[simp]
theorem properJson_int (value : Int) : ProperJson (.int value) := by
  simp [ProperJson, docOf, Proper]

@[simp]
theorem properJson_string (value : String) : ProperJson (.string value) := by
  simp [ProperJson, docOf, Proper]

end SupportAssistant.Runtime.Dumps
