import Mathlib.Data.List.DropRight
import SupportAssistant.Text.JsonText

/-!
# A listing behind any text

Labelled documents, one a line, under a heading, and a few closing lines.  In
front of the heading there may be any text at all: the listing is read from
the end, so nothing that stands in front of the heading is taken for an entry.
-/

namespace SupportAssistant.Text.Listings

open SupportAssistant.Text.JsonText

/-! ## Writing -/

/-- `- label: document`. -/
def item (entry : List Char × Doc) : List Char :=
  '-' :: ' ' :: (entry.1 ++ ':' :: ' ' :: write entry.2)

def listing (opening heading : List Char) (entries : List (List Char × Doc))
    (closing : List (List Char)) : List Char :=
  ['\n'].intercalate (opening :: heading :: (entries.map item ++ closing))

/-! ## Reading -/

def isItem (line : List Char) : Bool :=
  ['-', ' '].isPrefixOf line

def readItem (line : List Char) : Option (List Char × Doc) :=
  match (line.drop 2).dropWhile (· != ':') with
  | ':' :: ' ' :: text =>
      (read text).map fun doc =>
        ((line.drop 2).takeWhile (· != ':'), doc)
  | _ => none

/-- What stands in front of the heading, and the entries under it. -/
def readListing (closing : Nat) (text : List Char) :
    Option (List Char × List (List Char × Doc)) := do
  let lines := (text.splitOn '\n').rdrop closing
  let entries ← (lines.rtakeWhile isItem).mapM readItem
  some (['\n'].intercalate (lines.rdropWhile isItem).dropLast, entries)

/-! ## Reading back -/

/-- A label in one line without a colon, and a proper document. -/
structure Listed (entry : List Char × Doc) : Prop where
  unbroken : '\n' ∉ entry.1
  noColon : ':' ∉ entry.1
  proper : Proper entry.2

section

variable {entry : List Char × Doc}

theorem isItem_item (entry : List Char × Doc) : isItem (item entry) = true :=
  rfl

theorem unbroken_item (listed : Listed entry) : '\n' ∉ item entry := by
  simp [item, listed.unbroken, lineFeed_notMem_write listed.proper]

theorem readItem_item (listed : Listed entry) :
    readItem (item entry) = some entry := by
  have noColon : ∀ char ∈ entry.1, (char != ':') = true := by
    intro char member
    rw [bne_iff_ne]
    rintro rfl
    exact listed.noColon member
  have spans :
      (entry.1 ++ ':' :: ' ' :: write entry.2).takeWhile (· != ':') =
          entry.1 ∧
        (entry.1 ++ ':' :: ' ' :: write entry.2).dropWhile (· != ':') =
          ':' :: ' ' :: write entry.2 := by
    rw [List.takeWhile_append_of_pos noColon,
      List.dropWhile_append_of_pos noColon]
    simp
  rw [readItem, item, List.drop_succ_cons, List.drop_succ_cons,
    List.drop_zero, spans.1, spans.2]
  show (read (write entry.2)).map _ = _
  rw [read_write listed.proper]
  rfl

end

theorem mapM_readItem {entries : List (List Char × Doc)}
    (listed : ∀ entry ∈ entries, Listed entry) :
    (entries.map item).mapM readItem = some entries := by
  conv_rhs => rw [← List.map_id entries]
  exact mapM_map_eq_some fun entry member =>
    readItem_item (listed entry member)

/-- Only the first part of a text may have line feeds of its own. -/
theorem splitOn_intercalate_cons
    {opening : List Char} {lines : List (List Char)} (some : lines ≠ [])
    (unbroken : ∀ line ∈ lines, '\n' ∉ line) :
    (['\n'].intercalate (opening :: lines)).splitOn '\n' =
      opening.splitOn '\n' ++ lines := by
  cases lines with
  | nil => exact absurd rfl some
  | cons line lines =>
      rw [List.intercalate_cons_cons, List.append_assoc,
        List.singleton_append, List.splitOn_append_cons_self,
        List.splitOn_intercalate '\n' unbroken some]

/-- The entries of a listing are read back, whatever stands in front. -/
theorem readListing_listing
    (opening : List Char) {heading : List Char}
    {entries : List (List Char × Doc)} {closing : List (List Char)}
    (isHeading : isItem heading = false) (unbroken : '\n' ∉ heading)
    (listed : ∀ entry ∈ entries, Listed entry)
    (closed : ∀ line ∈ closing, '\n' ∉ line) :
    readListing closing.length (listing opening heading entries closing) =
      some (opening, entries) := by
  have lines : ∀ line ∈ heading :: (entries.map item ++ closing),
      '\n' ∉ line := by
    rw [List.forall_mem_cons, List.forall_mem_append, List.forall_mem_map]
    exact ⟨unbroken,
      fun entry member => unbroken_item (listed entry member), closed⟩
  have split : (listing opening heading entries closing).splitOn '\n' =
      (opening.splitOn '\n' ++ [heading] ++ entries.map item) ++
        closing := by
    rw [listing, splitOn_intercalate_cons (List.cons_ne_nil _ _) lines]
    simp
  have items : ∀ line ∈ entries.map item, isItem line = true := by
    rw [List.forall_mem_map]
    exact fun entry _ => isItem_item entry
  have taken :
      (opening.splitOn '\n' ++ [heading] ++ entries.map item).rtakeWhile
        isItem = entries.map item := by
    rw [List.rtakeWhile, List.reverse_append, List.takeWhile_append_of_pos
      (by simpa using items)]
    simp [isHeading]
  have dropped :
      (opening.splitOn '\n' ++ [heading] ++ entries.map item).rdropWhile
        isItem = opening.splitOn '\n' ++ [heading] := by
    rw [List.rdropWhile, List.reverse_append, List.dropWhile_append_of_pos
      (by simpa using items)]
    simp [isHeading]
  rw [readListing, split, List.rdrop_append_length, taken, dropped,
    mapM_readItem listed, List.dropLast_concat, List.intercalate_splitOn]
  rfl

end SupportAssistant.Text.Listings
