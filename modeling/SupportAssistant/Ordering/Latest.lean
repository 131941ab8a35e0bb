import Mathlib.Data.List.Sort

/-!
# The latest of a list

A list sorted by descending key, stably, is often only searched for its first
element that passes a test.  That element is the latest one that passes, and
among equally late ones the first of the original list.
-/

namespace SupportAssistant.Ordering.Latest

variable {α κ : Type} [LinearOrder κ]

section

variable (key : α → κ) (passes : α → Bool)

/-- The latest item that passes, and the first of equally late ones. -/
def latest : List α → Option α
  | [] => none
  | item :: items =>
      if passes item then
        match latest items with
        | none => some item
        | some other => if key item < key other then some other else some item
      else latest items

/-- `sorted(items, key=key, reverse=True)`. -/
def latestFirst (items : List α) : List α :=
  items.insertionSort fun first second => key second ≤ key first

end

variable {key : α → κ} {passes : α → Bool}

/-- Inserting an item into a sorted list, as far as a search can tell. -/
theorem find?_orderedInsert
    (item : α) {sorted : List α}
    (isSorted : sorted.Pairwise fun first second => key second ≤ key first) :
    (sorted.orderedInsert (fun first second => key second ≤ key first)
        item).find? passes =
      if passes item then
        match sorted.find? passes with
        | none => some item
        | some other => if key item < key other then some other else some item
      else sorted.find? passes := by
  induction sorted with
  | nil => cases passed : passes item <;> simp [passed]
  | cons head sorted induction =>
      rcases List.pairwise_cons.mp isSorted with ⟨above, isSorted⟩
      rw [List.orderedInsert_cons]
      split
      · rename_i notBefore
        rw [List.find?_cons]
        cases passed : passes item with
        | false => simp
        | true =>
            cases found : (head :: sorted).find? passes with
            | none => simp
            | some other =>
                have bound : key other ≤ key head := by
                  rcases List.mem_cons.mp (List.mem_of_find?_eq_some found)
                    with rfl | member
                  · exact le_rfl
                  · exact above other member
                simp [not_lt.mpr (bound.trans notBefore)]
      · rename_i before
        rw [List.find?_cons, List.find?_cons, induction isSorted]
        cases passes head with
        | false => rfl
        | true =>
            simp [not_le.mp before]

theorem pairwise_latestFirst (items : List α) :
    (latestFirst key items).Pairwise fun first second =>
      key second ≤ key first := by
  have total : Std.Total fun first second : α => key second ≤ key first :=
    ⟨fun first second => le_total (key second) (key first)⟩
  have trans : IsTrans α fun first second => key second ≤ key first :=
    ⟨fun _ _ _ first second => second.trans first⟩
  exact List.pairwise_insertionSort _ items

/-- Searching the sorted list finds the latest item that passes. -/
theorem find?_latestFirst (items : List α) :
    (latestFirst key items).find? passes = latest key passes items := by
  induction items with
  | nil => rfl
  | cons item items induction =>
      have sorted := @pairwise_latestFirst _ _ _ key items
      rw [latestFirst] at sorted
      rw [latestFirst, List.insertionSort_cons,
        find?_orderedInsert item sorted, latest]
      rw [latestFirst] at induction
      rw [induction]

theorem head?_latestFirst (items : List α) :
    (latestFirst key items).head? = latest key (fun _ => true) items := by
  rw [← find?_latestFirst]
  cases latestFirst key items <;> rfl

/-! ## The sort is stable -/

/-- An item goes before those that are as late. -/
theorem filter_orderedInsert
    (instant : κ) (item : α) (sorted : List α) :
    (sorted.orderedInsert (fun first second => key second ≤ key first)
        item).filter (fun other => key other = instant) =
      (item :: sorted).filter fun other => key other = instant := by
  induction sorted with
  | nil => rfl
  | cons head sorted induction =>
      rw [List.orderedInsert_cons]
      split
      · rfl
      · rename_i before
        rw [List.filter_cons, induction, List.filter_cons, List.filter_cons,
          List.filter_cons]
        by_cases isItem : key item = instant
        · have notHead : key head ≠ instant := by
            intro isHead
            exact before (by rw [isHead, isItem])
          simp [isItem, notHead]
        · simp [isItem]

/-- Equally late items keep their order. -/
theorem filter_latestFirst (instant : κ) (items : List α) :
    (latestFirst key items).filter (fun item => key item = instant) =
      items.filter fun item => key item = instant := by
  induction items with
  | nil => rfl
  | cons item items induction =>
      rw [latestFirst, List.insertionSort_cons, filter_orderedInsert,
        List.filter_cons, List.filter_cons]
      rw [latestFirst] at induction
      rw [induction]

end SupportAssistant.Ordering.Latest
