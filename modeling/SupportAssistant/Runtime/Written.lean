import SupportAssistant.Enums
import SupportAssistant.Runtime

/-!
# What can be written of a value

A value is dumped unless it is nested too deep, written as JSON unless an
integer in it is too long, and encoded unless a text in it holds a lone
surrogate.  What is so of a value is so of its parts.
-/

namespace SupportAssistant.Runtime.Written

open SupportAssistant.Enums

/-! ## Texts -/

@[simp]
theorem encodes_append (py : PyText) (first second : String) :
    py.encodes (first ++ second) = (py.encodes first && py.encodes second) := by
  simp [PyText.encodes]

theorem encodes_of_ascii (py : PyText) {text : String}
    (ascii : ∀ char ∈ text.toList, char.toNat < 128) :
    py.encodes text = true := by
  rw [PyText.encodes, List.all_eq_true]
  intro char member
  rw [py.asciiSurrogate char (ascii char member)]
  rfl

/-- The characters of a known text are looked at one by one. -/
theorem ascii_of_all {text : String}
    (all : text.toList.all (·.toNat < 128) = true) :
    ∀ char ∈ text.toList, char.toNat < 128 := by
  simpa using all

theorem encodes_of_all (py : PyText) {text : String}
    (all : text.toList.all (·.toNat < 128) = true) :
    py.encodes text = true :=
  encodes_of_ascii py (ascii_of_all all)

/-! ## Members of enumerations are ASCII -/

section

variable (py : PyText)

theorem encodes_intent (intent : Intent) :
    py.encodes intent.value = true := by
  cases intent <;> exact encodes_of_all py (by decide)

theorem encodes_ticketStatus (status : TicketStatus) :
    py.encodes status.value = true := by
  cases status <;> exact encodes_of_all py (by decide)

theorem encodes_handoffReason (reason : HandoffReason) :
    py.encodes reason.value = true := by
  cases reason <;> exact encodes_of_all py (by decide)

theorem encodes_literalClass (literalClass : LiteralClass) :
    py.encodes literalClass.value = true := by
  cases literalClass <;> exact encodes_of_all py (by decide)

end

/-! ## Depth -/

theorem depthItems_le_iff {items : List Json} {limit : Nat} :
    Json.depthItems items ≤ limit ↔ ∀ item ∈ items, item.depth ≤ limit := by
  induction items with
  | nil => simp [Json.depthItems]
  | cons item items induction =>
      rw [Json.depthItems, Nat.max_le, induction, List.forall_mem_cons]

theorem depthEntries_le_iff
    {entries : List (String × Json)} {limit : Nat} :
    Json.depthEntries entries ≤ limit ↔
      ∀ entry ∈ entries, entry.2.depth ≤ limit := by
  induction entries with
  | nil => simp [Json.depthEntries]
  | cons entry entries induction =>
      rw [Json.depthEntries, Nat.max_le, induction, List.forall_mem_cons]

theorem depth_list_le_iff {items : List Json} {limit : Nat} :
    (Json.list items).depth ≤ limit + 1 ↔
      ∀ item ∈ items, item.depth ≤ limit := by
  rw [Json.depth, Nat.add_le_add_iff_right, depthItems_le_iff]

theorem depth_object_le_iff
    {entries : List (String × Json)} {limit : Nat} :
    (Json.object entries).depth ≤ limit + 1 ↔
      ∀ entry ∈ entries, entry.2.depth ≤ limit := by
  rw [Json.depth, Nat.add_le_add_iff_right, depthEntries_le_iff]

/-- A list in a list in a list, and so on. -/
def nested : Nat → Json
  | 0 => .null
  | count + 1 => .list [nested count]

theorem depth_nested (count : Nat) : (nested count).depth = count := by
  induction count with
  | zero => rfl
  | succ count induction =>
      simp [nested, Json.depth, Json.depthItems, induction]

/-! ## Texts and integers in a value -/

section

variable (key text : String → Bool) (number : Int → Bool)

theorem every_list (items : List Json) :
    (Json.list items).every key text number =
      items.all fun item => item.every key text number := by
  rw [Json.every]
  induction items with
  | nil => rfl
  | cons item items induction =>
      rw [Json.everyItem, induction, List.all_cons]

theorem every_object (entries : List (String × Json)) :
    (Json.object entries).every key text number =
      entries.all fun entry =>
        key entry.1 && entry.2.every key text number := by
  rw [Json.every]
  induction entries with
  | nil => rfl
  | cons entry entries induction =>
      rw [Json.everyEntry, induction, List.all_cons]

end

theorem short_object {entries : List (String × Json)} :
    (Json.object entries).short = true ↔
      ∀ entry ∈ entries, entry.2.short = true := by
  simp [Json.short, every_object]

@[simp]
theorem short_object_nil : (Json.object []).short = true := rfl

@[simp]
theorem short_object_cons (entry : String × Json)
    (entries : List (String × Json)) :
    (Json.object (entry :: entries)).short =
      (entry.2.short && (Json.object entries).short) := by
  simp [Json.short, every_object]

theorem encodes_object {py : PyText} {entries : List (String × Json)} :
    (Json.object entries).encodes py = true ↔
      ∀ entry ∈ entries,
        py.encodes entry.1 = true ∧ entry.2.encodes py = true := by
  simp [Json.encodes, every_object]

@[simp]
theorem encodes_object_nil (py : PyText) :
    (Json.object []).encodes py = true := rfl

@[simp]
theorem encodes_object_cons (py : PyText) (entry : String × Json)
    (entries : List (String × Json)) :
    (Json.object (entry :: entries)).encodes py =
      (py.encodes entry.1 && entry.2.encodes py &&
        (Json.object entries).encodes py) := by
  simp [Json.encodes, every_object]

@[simp]
theorem encodes_null (py : PyText) : Json.null.encodes py = true := rfl

@[simp]
theorem encodes_bool (py : PyText) (value : Bool) :
    (Json.bool value).encodes py = true := rfl

@[simp]
theorem encodes_int (py : PyText) (value : Int) :
    (Json.int value).encodes py = true := rfl

theorem sendable_object {py : PyText} {entries : List (String × Json)} :
    (Json.object entries).sendable py = true ↔
      ∀ entry ∈ entries,
        py.encodes entry.1 = true ∧ entry.2.sendable py = true := by
  simp only [Json.sendable, Bool.and_eq_true, short_object, encodes_object]
  constructor
  · exact fun ⟨short, encodes⟩ entry member =>
      ⟨(encodes entry member).1, short entry member,
        (encodes entry member).2⟩
  · exact fun sendable =>
      ⟨fun entry member => (sendable entry member).2.1,
        fun entry member =>
          ⟨(sendable entry member).1, (sendable entry member).2.2⟩⟩

theorem sendable_list {py : PyText} {items : List Json} :
    (Json.list items).sendable py = true ↔
      ∀ item ∈ items, item.sendable py = true := by
  simp [Json.sendable, Json.short, Json.encodes, every_list,
    List.all_eq_true, forall_and]

@[simp]
theorem sendable_null (py : PyText) : Json.null.sendable py = true := rfl

@[simp]
theorem sendable_bool (py : PyText) (value : Bool) :
    (Json.bool value).sendable py = true := rfl

@[simp]
theorem sendable_string (py : PyText) (value : String) :
    (Json.string value).sendable py = py.encodes value := by
  rw [Json.sendable, Json.encodes, Json.short, Json.every, Json.every,
    Bool.true_and]

theorem sendable_int (py : PyText) (value : Int) :
    (Json.int value).sendable py = shortInt value := by
  rw [Json.sendable, Json.encodes, Json.short, Json.every, Json.every,
    Bool.and_true]

theorem short_of_sendable {py : PyText} {value : Json}
    (sendable : value.sendable py = true) :
    value.short = true := by
  rw [Json.sendable, Bool.and_eq_true] at sendable
  exact sendable.1

theorem encodes_list {py : PyText} {items : List Json} :
    (Json.list items).encodes py = true ↔
      ∀ item ∈ items, item.encodes py = true := by
  simp [Json.encodes, every_list]

theorem short_list {items : List Json} :
    (Json.list items).short = true ↔ ∀ item ∈ items, item.short = true := by
  simp [Json.short, every_list]

@[simp]
theorem short_null : Json.null.short = true := rfl

@[simp]
theorem short_bool (value : Bool) : (Json.bool value).short = true := rfl

@[simp]
theorem short_string (value : String) : (Json.string value).short = true :=
  rfl

@[simp]
theorem short_int (value : Int) :
    (Json.int value).short = shortInt value := by
  rw [Json.short, Json.every]

@[simp]
theorem encodes_string (py : PyText) (value : String) :
    (Json.string value).encodes py = py.encodes value := rfl

/-- A count that fits a column is short. -/
theorem shortInt_of_lt {value : Int} (positive : 0 ≤ value)
    (small : value < 2 ^ 63) :
    shortInt value = true := by
  have bound : (2 : Nat) ^ 63 ≤ 10 ^ maxStrDigits :=
    calc (2 : Nat) ^ 63 ≤ 10 ^ 19 := by decide
      _ ≤ 10 ^ maxStrDigits := Nat.pow_le_pow_right (by decide) (by decide)
  rw [shortInt, decide_eq_true_iff]
  omega

end SupportAssistant.Runtime.Written
