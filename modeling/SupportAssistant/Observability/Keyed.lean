import Mathlib.Data.List.Induction
import SupportAssistant.Observability.Metrics

/-!
# Updates grouped by key

A family takes its updates one at a time, each under a key.  What it holds in
the end are the keys in the order in which they were first seen, each with
what the updates under it make of the initial value.
-/

namespace SupportAssistant.Observability.Keyed

open SupportAssistant.Observability.Metrics

variable {V A : Type}

/-- The distinct keys, in the order in which they were first seen. -/
def seen (updates : List (List String × A)) : List (List String) :=
  (updates.map Prod.fst).eraseDups

/-- What came under a key, in order. -/
def under (key : List String) (updates : List (List String × A)) : List A :=
  (updates.filter fun update => update.1 = key).map Prod.snd

theorem seen_append_singleton
    (updates : List (List String × A)) (key : List String) (item : A) :
    seen (updates ++ [(key, item)]) =
      if key ∈ seen updates then seen updates else seen updates ++ [key] := by
  rw [seen, List.map_append, List.eraseDups_append, ← seen, List.map_cons,
    List.map_nil]
  by_cases known : key ∈ seen updates
  · have among : key ∈ updates.map Prod.fst := List.mem_eraseDups.mp known
    rw [if_pos known, List.removeAll]
    simp [among]
  · have absent : key ∉ updates.map Prod.fst :=
      fun member => known (List.mem_eraseDups.mpr member)
    rw [if_neg known, List.removeAll]
    simp [absent, List.eraseDups_cons]

/-- No key is seen twice. -/
theorem nodup_seen (updates : List (List String × A)) :
    (seen updates).Nodup := by
  induction updates using List.reverseRecOn with
  | nil => exact List.nodup_nil
  | append_singleton updates update induction =>
      rw [seen_append_singleton]
      split
      · exact induction
      · rename_i absent
        exact List.nodup_append_comm.mp
          (List.nodup_cons.mpr ⟨absent, induction⟩)

theorem under_append_singleton
    (updates : List (List String × A)) (key other : List String) (item : A) :
    under key (updates ++ [(other, item)]) =
      if other = key then under key updates ++ [item]
      else under key updates := by
  rw [under, List.filter_append, List.map_append, ← under]
  by_cases same : other = key <;> simp [same]

theorem under_of_unseen
    {updates : List (List String × A)} {key : List String}
    (unseen : key ∉ seen updates) :
    under key updates = [] := by
  rw [under, List.map_eq_nil_iff, List.filter_eq_nil_iff]
  intro update member same
  refine unseen (List.mem_eraseDups.mpr (List.mem_map.mpr ⟨update, member, ?_⟩))
  exact of_decide_eq_true same

theorem upsert_unseen
    (initial : V) (update : V → V) (value : List String → V)
    {key : List String} {keys : List (List String)} (unseen : key ∉ keys) :
    upsert key initial update (keys.map fun other => (other, value other)) =
      (keys.map fun other => (other, value other)) ++
        [(key, update initial)] := by
  induction keys with
  | nil => rfl
  | cons first rest induction =>
      rw [List.mem_cons, not_or] at unseen
      rw [List.map_cons, upsert, if_neg (Ne.symm unseen.1),
        induction unseen.2, List.cons_append]

theorem upsert_seen
    (initial : V) (update : V → V) (value : List String → V)
    {key : List String} {keys : List (List String)} (distinct : keys.Nodup)
    (known : key ∈ keys) :
    upsert key initial update (keys.map fun other => (other, value other)) =
      keys.map fun other =>
        (other, if key = other then update (value other) else value other) := by
  induction keys with
  | nil => simp at known
  | cons first rest induction =>
      rw [List.nodup_cons] at distinct
      rw [List.map_cons, List.map_cons, upsert]
      by_cases here : first = key
      · have elsewhere : ∀ other ∈ rest, key ≠ other := by
          rintro other member rfl
          exact distinct.1 (here ▸ member)
        rw [if_pos here, if_pos here.symm]
        congr 1
        refine List.map_congr_left fun other member => ?_
        rw [if_neg (elsewhere other member)]
      · have later : key ∈ rest :=
          (List.mem_cons.mp known).resolve_left (Ne.symm here)
        rw [if_neg here, if_neg (Ne.symm here), induction distinct.2 later]

/-- The table after a sequence of updates, each under its key. -/
def collected (initial : V) (step : V → A → V)
    (updates : List (List String × A)) : List (List String × V) :=
  updates.foldl
    (fun table update =>
      upsert update.1 initial (fun value => step value update.2) table)
    []

/-- Every key has taken its own updates, and nothing else. -/
theorem collected_eq
    (initial : V) (step : V → A → V) (updates : List (List String × A)) :
    collected initial step updates =
      (seen updates).map fun key =>
        (key, (under key updates).foldl step initial) := by
  induction updates using List.reverseRecOn with
  | nil => rfl
  | append_singleton updates update induction =>
      rcases update with ⟨key, item⟩
      have last : collected initial step (updates ++ [(key, item)]) =
          upsert key initial (fun value => step value item)
            (collected initial step updates) := by
        simp [collected]
      rw [last, induction, seen_append_singleton]
      by_cases known : key ∈ seen updates
      · rw [if_pos known, upsert_seen _ _ _ (nodup_seen updates) known]
        refine List.map_congr_left fun other _ => ?_
        rw [under_append_singleton]
        split <;> simp
      · rw [if_neg known, upsert_unseen _ _ _ known, List.map_append,
          List.map_singleton, under_append_singleton, if_pos rfl,
          under_of_unseen known]
        congr 1
        refine List.map_congr_left fun other member => ?_
        have elsewhere : key ≠ other := by
          rintro rfl
          exact known member
        rw [under_append_singleton, if_neg elsewhere]

end SupportAssistant.Observability.Keyed
