import SupportAssistant.Observability.Exposition
import SupportAssistant.Ordering.Buckets

/-!
# Histograms as exposition text

An observation is stored at the first bucket that it fits, or as overflow;
the buckets become cumulative only when the histogram is rendered.

Bounds and observed values are exact rationals.  How a float that is not a
whole number is written is a parameter.  A count of observations is written
in full, as no process lives to make one that is too long.
-/

namespace SupportAssistant.Observability.Histograms

open SupportAssistant.Effects.Mapping
open SupportAssistant.Observability.Exposition
open SupportAssistant.Observability.Keyed
open SupportAssistant.Observability.Metrics
  (Histogram Series bucketUp upsert)
open SupportAssistant.Ordering.Buckets
open SupportAssistant.Runtime
open SupportAssistant.Text.Exposition

/-! ## Rendering -/

/-- `1`, not `1.0`. -/
def fmt (repr : ℚ → String) (value : ℚ) : String :=
  if value.isInt then toString value.num else repr value

section

variable (py : PyText) (repr : ℚ → String) (histogram : Histogram)

/-- A line without a bound. -/
def plainLine (key : List String) (suffix value : String) :
    Except Exc String := do
  let labels ← labels py histogram.labelNames key
  return histogram.name ++ suffix ++ labels ++ " " ++ value

def bucketLine (key : List String) (bound : String) (count : Nat) :
    Except Exc String := do
  let labels ← labels py (histogram.labelNames ++ ["le"]) (key ++ [bound])
  return histogram.name ++ "_bucket" ++ labels ++ " " ++ toString count

/-- The lines of the buckets, and the sum of all their counts. -/
def bucketLines (key : List String) (cumulative : Nat) :
    List (ℚ × Nat) → Except Exc (List String × Nat)
  | [] => return ([], cumulative)
  | (bound, count) :: rest => do
      let line ←
        bucketLine py histogram key (fmt repr bound) (cumulative + count)
      let (lines, last) ← bucketLines key (cumulative + count) rest
      return (line :: lines, last)

def seriesLines (entry : List String × Series) :
    Except Exc (List String) := do
  let (key, state) := entry
  let counted ← zipStrict py histogram.buckets state.counts
  let (lines, cumulative) ← bucketLines py repr histogram key 0 counted
  let infinity ←
    bucketLine py histogram key "+Inf" (cumulative + state.overflow)
  let sum ← plainLine py histogram key "_sum" (fmt repr state.total)
  let count ← plainLine py histogram key "_count" (toString state.count)
  return lines ++ [infinity, sum, count]

/-- An unlabelled histogram shows a series before anything was observed. -/
def shownSeries : List (List String × Series) :=
  if histogram.series.isEmpty && histogram.labelNames.isEmpty then
    [([], .create histogram.buckets)]
  else histogram.series

def render : Except Exc String := do
  let blocks ←
    (shownSeries histogram).mapM (seriesLines py repr histogram)
  return join "\n"
    (header histogram.name histogram.documentation "histogram" ++
      blocks.flatten)

end

/-! ## A sequence of observations -/

/-- The parameters of `observe`. -/
def observeParameters : List String := ["self", "value"]

def observe (py : PyText) (histogram : Histogram) (value : ℚ)
    (labels : Labels) : Except Exc Histogram := do
  bindKeywords py "Histogram.observe" observeParameters labels
  let key ← key py histogram.name histogram.labelNames labels
  return histogram.observe key value

/-- An `observe` that raises leaves the histogram as it was. -/
def taking (py : PyText) (histogram : Histogram) (call : Call ℚ) :
    Histogram :=
  match observe py histogram call.value call.labels with
  | .ok after => after
  | .error _ => histogram

def observed (py : PyText) (histogram : Histogram)
    (calls : List (Call ℚ)) : Histogram :=
  calls.foldl (taking py) histogram

section

variable {py : PyText} {histogram : Histogram} {call : Call ℚ}

theorem observe_of_fits
    (fits : call.Fits observeParameters histogram.labelNames) :
    observe py histogram call.value call.labels =
      .ok
        (histogram.observe (call.tuple histogram.labelNames) call.value) := by
  simp only [observe, bindKeywords_ok (free_of_fits fits), key_of_fits fits,
    bind, Except.bind, pure, Except.pure]

/-- What does not fit is not observed. -/
theorem fits_of_observe {after : Histogram}
    (taken : observe py histogram call.value call.labels = .ok after) :
    call.Fits observeParameters histogram.labelNames := by
  rcases bind_ok_iff.mp taken with ⟨⟨⟩, bound, keyed⟩
  rcases bind_ok_iff.mp keyed with ⟨values, accepted, -⟩
  exact fits_of_key (free_of_bindKeywords bound) accepted

end

/-! ## What a series holds -/

/-- The state of a series that has observed these values. -/
def seriesOf (buckets values : List ℚ) : Series :=
  { counts := firstFits buckets values
    overflow := (beyond buckets values).length
    total := values.sum
    count := values.length }

theorem firstFits_snoc_fitting
    {value bound : ℚ} (within : value ≤ bound) (bounds values : List ℚ) :
    firstFits (bound :: bounds) (values ++ [value]) =
      (values.countP (fun value => decide (value ≤ bound)) + 1) ::
        firstFits bounds (values.filter fun value => !decide (value ≤ bound)) := by
  simp [firstFits, List.filter_append, within]

/-- A value that fits a bucket is counted at the first one, and only there. -/
theorem bucketUp_fitting
    {value : ℚ} {bounds : List ℚ} (fits : ∃ bound ∈ bounds, value ≤ bound)
    (values : List ℚ) :
    bucketUp value bounds (firstFits bounds values) =
      some (firstFits bounds (values ++ [value])) := by
  induction bounds generalizing values with
  | nil => simp at fits
  | cons bound bounds induction =>
      rw [firstFits, bucketUp]
      split
      · rename_i within
        rw [firstFits_snoc_fitting within]
      · rename_i above
        have later : ∃ bound ∈ bounds, value ≤ bound := by
          rcases fits with ⟨other, member, within⟩
          rcases List.mem_cons.mp member with rfl | later
          · exact absurd within above
          · exact ⟨other, later, within⟩
        rw [induction later]
        simp [firstFits, List.filter_append, above]

theorem bucketUp_beyond
    {value : ℚ} {bounds : List ℚ} (above : ∀ bound ∈ bounds, ¬value ≤ bound)
    (counts : List Nat) :
    bucketUp value bounds counts = none := by
  induction bounds generalizing counts with
  | nil => simp [bucketUp]
  | cons bound bounds induction =>
      rw [List.forall_mem_cons] at above
      cases counts with
      | nil => simp [bucketUp]
      | cons count counts =>
          rw [bucketUp, if_neg above.1, induction above.2]
          rfl

theorem firstFits_snoc_beyond
    {value : ℚ} {bounds : List ℚ} (above : ∀ bound ∈ bounds, ¬value ≤ bound)
    (values : List ℚ) :
    firstFits bounds (values ++ [value]) = firstFits bounds values := by
  induction bounds generalizing values with
  | nil => rfl
  | cons bound bounds induction =>
      rw [List.forall_mem_cons] at above
      simp [firstFits, List.filter_append, above.1, induction above.2]

theorem beyond_snoc_fitting
    {value : ℚ} {bounds : List ℚ} (fits : ∃ bound ∈ bounds, value ≤ bound)
    (values : List ℚ) :
    beyond bounds (values ++ [value]) = beyond bounds values := by
  rw [beyond, List.filter_append, ← beyond]
  simpa [beyond] using fits

theorem beyond_snoc_beyond
    {value : ℚ} {bounds : List ℚ} (above : ∀ bound ∈ bounds, ¬value ≤ bound)
    (values : List ℚ) :
    beyond bounds (values ++ [value]) = beyond bounds values ++ [value] := by
  rw [beyond, List.filter_append, ← beyond]
  simpa [beyond] using above

theorem observe_seriesOf (buckets values : List ℚ) (value : ℚ) :
    (seriesOf buckets values).observe buckets value =
      seriesOf buckets (values ++ [value]) := by
  by_cases fits : ∃ bound ∈ buckets, value ≤ bound
  · have counted := bucketUp_fitting fits values
    simp [Series.observe, seriesOf, counted, beyond_snoc_fitting fits]
  · have above : ∀ bound ∈ buckets, ¬value ≤ bound :=
      fun bound member within => fits ⟨bound, member, within⟩
    have uncounted := bucketUp_beyond above (firstFits buckets values)
    simp [Series.observe, seriesOf, uncounted, beyond_snoc_beyond above,
      firstFits_snoc_beyond above]

theorem create_eq_seriesOf (buckets : List ℚ) :
    Series.create buckets = seriesOf buckets [] := by
  simp [Series.create, seriesOf, beyond]

/-- A series is determined by the values it has observed. -/
theorem foldl_observe (buckets values : List ℚ) :
    values.foldl (fun series value => series.observe buckets value)
        (Series.create buckets) =
      seriesOf buckets values := by
  induction values using List.reverseRecOn with
  | nil => exact create_eq_seriesOf buckets
  | append_singleton values value induction =>
      rw [List.foldl_append, induction]
      exact observe_seriesOf buckets values value

/-! ## What a histogram holds -/

section

variable (py : PyText) (name documentation : String) (labelNames : List String)
  (buckets : List ℚ)

/-- Observing changes nothing but the series. -/
theorem foldl_series
    (histogram : Histogram) (updates : List (List String × ℚ)) :
    updates.foldl
        (fun histogram update => histogram.observe update.1 update.2)
        histogram =
      { histogram with
        series :=
          updates.foldl
            (fun table update =>
              upsert update.1 (Series.create histogram.buckets)
                (fun series => series.observe histogram.buckets update.2)
                table)
            histogram.series } := by
  induction updates generalizing histogram with
  | nil => rfl
  | cons update updates induction =>
      rw [List.foldl_cons, induction]
      rfl

/-- The histogram after these observations. -/
def histogramOf (updates : List (List String × ℚ)) : Histogram :=
  { Histogram.create name documentation labelNames buckets with
    series :=
      (seen updates).map fun key =>
        (key, seriesOf (buckets.insertionSort (· ≤ ·)) (under key updates)) }

/-- Each combination of label values has its own observations. -/
theorem foldl_create (updates : List (List String × ℚ)) :
    updates.foldl
        (fun histogram update => histogram.observe update.1 update.2)
        (.create name documentation labelNames buckets) =
      histogramOf name documentation labelNames buckets updates := by
  let bounds := buckets.insertionSort (· ≤ ·)
  have held :
      collected (Series.create bounds)
          (fun series value => series.observe bounds value) updates =
        (histogramOf name documentation labelNames buckets
          updates).series := by
    rw [collected_eq]
    refine List.map_congr_left fun key _ => ?_
    rw [foldl_observe]
  have final :
      histogramOf name documentation labelNames buckets updates =
        { Histogram.create name documentation labelNames buckets with
          series :=
            collected (Series.create bounds)
              (fun series value => series.observe bounds value) updates } := by
    rw [held]
    rfl
  rw [final, foldl_series]
  rfl

theorem observed_create (calls : List (Call ℚ)) :
    observed py (.create name documentation labelNames buckets) calls =
      histogramOf name documentation labelNames buckets
        (taken observeParameters labelNames calls) := by
  rw [← foldl_create]
  apply @foldl_taken ℚ observeParameters labelNames Histogram fun histogram =>
    histogram.labelNames = labelNames
  · rintro histogram call rfl fits
    rw [taking, observe_of_fits fits]
  · rintro histogram call rfl misfits
    rw [taking]
    split
    · rename_i after observed
      exact absurd (fits_of_observe observed) misfits
    · rfl
  · exact fun _ _ labelled => labelled
  · rfl

end

/-! ## What is shown -/

/-- What a text shows of one combination of label values. -/
structure Block where
  /-- The bounds, each with its cumulative count. -/
  cumulative : List (ℚ × Nat)
  infinity : Nat
  sum : ℚ
  count : Nat

section

variable (repr : ℚ → String) (name : String) (labelNames key : List String)

/-- The labels as they are rendered. -/
def labelText (names values : List String) : String :=
  String.ofList (labelSet (names.zip values))

def bucketText (bound : String) (count : Nat) : String :=
  name ++ "_bucket" ++ labelText (labelNames ++ ["le"]) (key ++ [bound]) ++
    " " ++ toString count

/-- The lines of a block. -/
def Block.lines (block : Block) : List String :=
  (block.cumulative.map fun shown =>
      bucketText name labelNames key (fmt repr shown.1) shown.2) ++
    [bucketText name labelNames key "+Inf" block.infinity,
      name ++ "_sum" ++ labelText labelNames key ++ " " ++ fmt repr block.sum,
      name ++ "_count" ++ labelText labelNames key ++ " " ++
        toString block.count]

end

/-- The block shows these values over these bounds. -/
structure Block.Shows (buckets values : List ℚ) (block : Block) : Prop where
  bounds : (block.cumulative.map Prod.fst).Perm buckets
  upTo :
    ∀ shown ∈ block.cumulative,
      shown.2 = values.countP fun value => decide (value ≤ shown.1)
  rising :
    block.cumulative.Pairwise fun lower upper =>
      lower.1 ≤ upper.1 ∧ lower.2 ≤ upper.2
  infinity : block.infinity = block.count
  count : block.count = values.length
  sum : block.sum = values.sum

/-- The block of these values. -/
def blockOf (bounds values : List ℚ) : Block :=
  { cumulative :=
      bounds.map fun bound =>
        (bound, values.countP fun value => decide (value ≤ bound))
    infinity := values.length
    sum := values.sum
    count := values.length }

theorem blockOf_shows (buckets values : List ℚ) :
    (blockOf (buckets.insertionSort (· ≤ ·)) values).Shows buckets values := by
  have ascending : (buckets.insertionSort (· ≤ ·)).Pairwise (· ≤ ·) :=
    List.pairwise_insertionSort _ _
  constructor
  · rw [blockOf, List.map_map]
    have same : (Prod.fst ∘ fun bound : ℚ =>
        (bound, values.countP fun value => decide (value ≤ bound))) = id := rfl
    rw [same, List.map_id]
    exact List.perm_insertionSort _ _
  · intro shown member
    rcases List.mem_map.mp member with ⟨bound, -, rfl⟩
    rfl
  · rw [blockOf, List.pairwise_map]
    exact ascending.imp fun le => ⟨le, countP_le_countP le values⟩
  · rfl
  · rfl
  · rfl

/-! ## The text of a histogram -/

section

variable (py : PyText) (repr : ℚ → String) {histogram : Histogram}
  {key : List String} (same : histogram.labelNames.length = key.length)

include same

theorem plainLine_eq (suffix value : String) :
    plainLine py histogram key suffix value =
      .ok
        (histogram.name ++ suffix ++ labelText histogram.labelNames key ++
          " " ++ value) := by
  rw [plainLine, labels_eq py same]
  rfl

theorem bucketLine_eq (bound : String) (count : Nat) :
    bucketLine py histogram key bound count =
      .ok
        (bucketText histogram.name histogram.labelNames key bound count) := by
  have bounded :
      (histogram.labelNames ++ ["le"]).length = (key ++ [bound]).length := by
    simp [same]
  rw [bucketLine, labels_eq py bounded]
  rfl

/-- The buckets are shown with the running sums of their counts. -/
theorem bucketLines_eq
    {bounds : List ℚ} {counts : List Nat}
    (paired : bounds.length = counts.length) (cumulative : Nat) :
    bucketLines py repr histogram key cumulative (bounds.zip counts) =
      .ok
        ((bounds.zip (running cumulative counts)).map fun shown =>
            bucketText histogram.name histogram.labelNames key
              (fmt repr shown.1) shown.2,
          cumulative + counts.sum) := by
  induction bounds generalizing counts cumulative with
  | nil =>
      have none : counts = [] := List.length_eq_zero_iff.mp paired.symm
      subst none
      rfl
  | cons bound bounds induction =>
      cases counts with
      | nil => simp at paired
      | cons count counts =>
          have rest : bounds.length = counts.length := by
            simpa using paired
          rw [List.zip_cons_cons, bucketLines, bucketLine_eq py same,
            running, List.zip_cons_cons, List.map_cons, List.sum_cons,
            ← Nat.add_assoc]
          simp only [bind, Except.bind, induction rest, pure, Except.pure]

/-- A series shows the values that it has observed. -/
theorem seriesLines_eq
    (ascending : histogram.buckets.Pairwise (· ≤ ·)) (values : List ℚ) :
    seriesLines py repr histogram
        (key, seriesOf histogram.buckets values) =
      .ok
        ((blockOf histogram.buckets values).lines repr histogram.name
          histogram.labelNames key) := by
  have paired :
      histogram.buckets.length =
        (firstFits histogram.buckets values).length := by
    simp
  have shown :
      histogram.buckets.zip
          (running 0 (firstFits histogram.buckets values)) =
        (blockOf histogram.buckets values).cumulative := by
    have together := @List.zip_map' ℚ ℚ Nat id
      (fun bound => values.countP fun value => decide (value ≤ bound))
      histogram.buckets
    rw [List.map_id] at together
    simp only [running_firstFits ascending, Nat.zero_add]
    exact together
  have all :
      0 + (firstFits histogram.buckets values).sum +
          (beyond histogram.buckets values).length =
        values.length := by
    rw [Nat.zero_add, sum_firstFits]
  simp only [seriesLines, seriesOf, zipStrict_ok py paired,
    bucketLines_eq py repr same paired, shown, bucketLine_eq py same, all,
    plainLine_eq py same, bind, Except.bind, pure, Except.pure]
  rfl

end

section

variable (py : PyText) (repr : ℚ → String) (name documentation : String)
  (labelNames : List String) (buckets : List ℚ)

/-- The combinations of label values that are shown. -/
def shownKeys (updates : List (List String × ℚ)) : List (List String) :=
  if updates.isEmpty && labelNames.isEmpty then [[]] else seen updates

theorem shownSeries_histogramOf (updates : List (List String × ℚ)) :
    shownSeries (histogramOf name documentation labelNames buckets updates) =
      (shownKeys labelNames updates).map fun key =>
        (key,
          seriesOf (buckets.insertionSort (· ≤ ·)) (under key updates)) := by
  cases updates with
  | nil =>
      cases labelNames with
      | nil =>
          have empty :=
            create_eq_seriesOf (buckets.insertionSort (· ≤ ·))
          simp [shownSeries, histogramOf, shownKeys, seen, Histogram.create,
            under, empty]
      | cons label labels =>
          simp [shownSeries, histogramOf, shownKeys, seen, Histogram.create]
  | cons update updates =>
      have known : seen (update :: updates) ≠ [] :=
        List.ne_nil_of_mem (List.mem_eraseDups.mpr List.mem_cons_self)
      simp [shownSeries, histogramOf, shownKeys, known]

theorem length_of_shownKeys
    {updates : List (List String × ℚ)} {key : List String}
    (counted : ∀ key ∈ seen updates, labelNames.length = key.length)
    (isShown : key ∈ shownKeys labelNames updates) :
    labelNames.length = key.length := by
  unfold shownKeys at isShown
  split at isShown
  · rename_i unlabelled
    rw [Bool.and_eq_true, List.isEmpty_iff, List.isEmpty_iff] at unlabelled
    rw [List.mem_singleton.mp isShown, unlabelled.2]
  · exact counted key isShown

/-- A histogram renders as the blocks of what it has observed. -/
theorem render_histogramOf
    {updates : List (List String × ℚ)}
    (counted : ∀ key ∈ seen updates, labelNames.length = key.length) :
    render py repr
        (histogramOf name documentation labelNames buckets updates) =
      .ok
        (join "\n"
          (header name documentation "histogram" ++
            (shownKeys labelNames updates).flatMap fun key =>
              (blockOf (buckets.insertionSort (· ≤ ·))
                (under key updates)).lines repr name labelNames key)) := by
  have ascending : (buckets.insertionSort (· ≤ ·)).Pairwise (· ≤ ·) :=
    List.pairwise_insertionSort _ _
  have each :
      (shownSeries
            (histogramOf name documentation labelNames buckets updates)).mapM
          (seriesLines py repr
            (histogramOf name documentation labelNames buckets updates)) =
        .ok
          ((shownKeys labelNames updates).map fun key =>
            (blockOf (buckets.insertionSort (· ≤ ·))
              (under key updates)).lines repr name labelNames key) := by
    rw [shownSeries_histogramOf, mapM_ok_iff_forall₂,
      List.forall₂_map_left_iff, List.forall₂_map_right_iff,
      List.forall₂_same]
    intro key isShown
    exact seriesLines_eq py repr
      (length_of_shownKeys labelNames counted isShown) ascending _
  rw [render, each, List.flatMap]
  rfl

end

/-- Two tuples of the same two values, passed in any order; one is short. -/
def oddObservations : List (Call ℚ) :=
  [{ value := 1 / 2, labels := [("tool", "get"), ("outcome", "ok")] },
   { value := 1, labels := [("tool", "ok"), ("outcome", "get")] },
   { value := 7, labels := [("tool", "get")] },
   { value := 2, labels := [("outcome", "ok"), ("tool", "get")] }]

end SupportAssistant.Observability.Histograms
