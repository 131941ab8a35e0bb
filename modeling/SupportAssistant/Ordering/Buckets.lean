import Mathlib.Algebra.Order.Ring.Nat
import Mathlib.Data.List.Basic
import Mathlib.Order.Basic

/-!
# Counting values by the first bound they fit

Each value is counted once, at the first bound that it does not exceed, or
beyond them all.  Over ascending bounds the running sums of these counts are
the numbers of values up to each bound.
-/

namespace SupportAssistant.Ordering.Buckets

variable {α : Type} [Preorder α] [DecidableLE α]

/-- At each bound, how many values fit it and none before it. -/
def firstFits : List α → List α → List Nat
  | [], _ => []
  | bound :: bounds, values =>
      values.countP (fun value => decide (value ≤ bound)) ::
        firstFits bounds (values.filter fun value => !decide (value ≤ bound))

/-- The values that fit no bound. -/
def beyond (bounds values : List α) : List α :=
  values.filter fun value => bounds.all fun bound => !decide (value ≤ bound)

/-- The running sums of a list of counts. -/
def running (total : Nat) : List Nat → List Nat
  | [] => []
  | count :: counts => (total + count) :: running (total + count) counts

@[simp]
theorem length_firstFits (bounds values : List α) :
    (firstFits bounds values).length = bounds.length := by
  induction bounds generalizing values with
  | nil => rfl
  | cons bound bounds induction => simp [firstFits, induction]

@[simp]
theorem firstFits_nil (bounds : List α) :
    firstFits bounds [] = bounds.map fun _ => 0 := by
  induction bounds with
  | nil => rfl
  | cons bound bounds induction => simp [firstFits, induction]

theorem beyond_cons (bound : α) (bounds values : List α) :
    beyond (bound :: bounds) values =
      beyond bounds (values.filter fun value => !decide (value ≤ bound)) := by
  rw [beyond, beyond, List.filter_filter]
  refine List.filter_congr fun value _ => ?_
  rw [List.all_cons, Bool.and_comm]

theorem countP_filter_above
    {bound later : α} (le : bound ≤ later) (values : List α) :
    values.countP (fun value => decide (value ≤ later)) =
      values.countP (fun value => decide (value ≤ bound)) +
        (values.filter fun value => !decide (value ≤ bound)).countP
          fun value => decide (value ≤ later) := by
  induction values with
  | nil => rfl
  | cons value values induction =>
      by_cases within : value ≤ bound
      · have fits : value ≤ later := le_trans within le
        simp only [List.countP_cons, List.filter_cons, within, fits,
          decide_true, if_true, Bool.not_true, Bool.false_eq_true, if_false]
        omega
      · simp only [List.countP_cons, List.filter_cons, within, decide_false,
          Bool.not_false, if_true, Bool.false_eq_true, if_false]
        omega

/-- Over ascending bounds, the running sums count the values up to each. -/
theorem running_firstFits
    {bounds : List α} (ascending : bounds.Pairwise (· ≤ ·))
    (total : Nat) (values : List α) :
    running total (firstFits bounds values) =
      bounds.map fun bound =>
        total + values.countP fun value => decide (value ≤ bound) := by
  induction bounds generalizing total values with
  | nil => rfl
  | cons bound bounds induction =>
      rw [List.pairwise_cons] at ascending
      rw [firstFits, running, induction ascending.2, List.map_cons]
      congr 1
      refine List.map_congr_left fun later member => ?_
      rw [countP_filter_above (ascending.1 later member) values, Nat.add_assoc]

/-- Every value is counted exactly once, over bounds in any order. -/
theorem sum_firstFits (bounds values : List α) :
    (firstFits bounds values).sum + (beyond bounds values).length =
      values.length := by
  induction bounds generalizing values with
  | nil => simp [firstFits, beyond]
  | cons bound bounds induction =>
      rw [firstFits, List.sum_cons, beyond_cons, Nat.add_assoc, induction,
        List.countP_eq_length_filter]
      exact List.length_eq_length_filter_add _ |>.symm

theorem countP_le_countP
    {bound later : α} (le : bound ≤ later) (values : List α) :
    values.countP (fun value => decide (value ≤ bound)) ≤
      values.countP fun value => decide (value ≤ later) := by
  rw [countP_filter_above le values]
  exact Nat.le_add_right _ _

end SupportAssistant.Ordering.Buckets
