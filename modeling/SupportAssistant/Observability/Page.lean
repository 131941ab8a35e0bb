import SupportAssistant.Observability.Histograms

/-!
# The page of metrics

The registry renders its six families one after another.  Whatever updates it
has taken, each counter on the page reads back as the number of the updates
under each of its keys, and each histogram shows the values that it has
observed.  The page is sent unless the name of a tool cannot be encoded.
-/

namespace SupportAssistant.Observability.Page

open SupportAssistant.Runtime
open SupportAssistant.Runtime.Written
open SupportAssistant.Text.Exposition
open SupportAssistant.Observability.Metrics
  (MetricRegistry MetricUpdate durationBuckets iterationBuckets)
open SupportAssistant.Observability.Keyed
open SupportAssistant.Observability.Exposition
open SupportAssistant.Observability.Histograms

/-- The whole registry as text, with a newline at its end. -/
def renderRegistry (py : PyText) (repr : ℚ → String)
    (registry : MetricRegistry) : Except Exc String := do
  let tickets ← (Counter.ofCounts registry.ticketsTotal).render py
  let handoffs ← (Counter.ofCounts registry.handoffsTotal).render py
  let violations ←
    (Counter.ofCounts registry.groundingViolationsTotal).render py
  let toolCalls ← (Counter.ofCounts registry.toolCallsTotal).render py
  let iterations ← render py repr registry.iterationsPerTicket
  let durations ← render py repr registry.pipelineDurationSeconds
  return join "\n"
      [tickets, handoffs, violations, toolCalls, iterations, durations] ++
    "\n"

/-- `GET /metrics`: the page, or nothing but an internal server error. -/
def metrics (py : PyText) (repr : ℚ → String) (registry : MetricRegistry) :
    Option String :=
  match renderRegistry py repr registry with
  | .ok page => if py.encodes page then some page else none
  | .error _ => none

/-! ## Which family an update is for -/

def ticketKey : MetricUpdate → Option (List String)
  | .ticket status => some [status.value]
  | _ => none

def handoffKey : MetricUpdate → Option (List String)
  | .handoff reason => some [reason.value]
  | _ => none

def violationKey : MetricUpdate → Option (List String)
  | .groundingViolation literalClass => some [literalClass.value]
  | _ => none

def toolCallKey : MetricUpdate → Option (List String)
  | .toolCall tool ok => some [tool, if ok then "ok" else "error"]
  | _ => none

def iterationsValue : MetricUpdate → Option (List String × ℚ)
  | .iterations count => some ([], count)
  | _ => none

def durationValue : MetricUpdate → Option (List String × ℚ)
  | .duration seconds outcome => some ([outcome.value], seconds)
  | _ => none

/-- The tools that the updates name. -/
def toolNames (updates : List MetricUpdate) : List String :=
  updates.filterMap fun
    | .toolCall tool _ => some tool
    | _ => none

/-- A part of a state takes the updates that are for it. -/
theorem foldl_part
    {S U C K : Type} {step : S → U → S} {part : S → C} {pick : U → Option K}
    {put : C → K → C}
    (steps : ∀ state update,
      part (step state update) =
        (pick update).elim (part state) (put (part state)))
    (updates : List U) (state : S) :
    part (updates.foldl step state) =
      (updates.filterMap pick).foldl put (part state) := by
  induction updates generalizing state with
  | nil => rfl
  | cons update updates induction =>
      rw [List.foldl_cons, induction, steps, List.filterMap_cons]
      cases pick update <;> rfl

/-! ## A counter that only takes ones -/

/-- Each key, in the order in which they were first seen, and its number. -/
def counts (keys : List (List String)) : List (List String × Int) :=
  keys.eraseDups.map fun key => (key, (keys.count key : Int))

theorem length_of_counts
    {labelNames : List String} {keys : List (List String)}
    (counted : ∀ key ∈ keys, labelNames.length = key.length) :
    ∀ entry ∈ counts keys, labelNames.length = entry.1.length := by
  intro entry member
  rcases List.mem_map.mp member with ⟨key, isKey, rfl⟩
  exact counted key (List.mem_eraseDups.mp isKey)

theorem mem_counts {keys : List (List String)} {key : List String}
    (known : key ∈ keys) :
    (key, (keys.count key : Int)) ∈ counts keys :=
  List.mem_map_of_mem (List.mem_eraseDups.mpr known)

theorem totals_ones (keys : List (List String)) :
    totals (keys.map fun key => (key, 1)) = counts keys := by
  have firsts :
      (keys.map fun key => (key, (1 : Int))).map Prod.fst = keys := by
    rw [List.map_map]
    exact List.map_id keys
  rw [totals, counts, seen, firsts]
  refine List.map_congr_left fun key _ => ?_
  have ones : ∀ others : List (List String),
      (under key (others.map fun other => (other, (1 : Int)))).sum =
        (others.count key : Int) := by
    intro others
    induction others with
    | nil => rfl
    | cons other others induction =>
        rw [under] at induction ⊢
        by_cases same : other = key
        · simp [same, induction, add_comm]
        · simp [same, induction]
  rw [ones]

section

variable (py : PyText) {name documentation : String}
  {labelNames : List String} {keys : List (List String)}

theorem ofCounts_foldl
    (distinct : labelNames.Nodup)
    (free : ∀ parameter ∈ incParameters, parameter ∉ labelNames)
    (counted : ∀ key ∈ keys, labelNames.length = key.length)
    {counter : Metrics.Counter} (labelled : counter.labelNames = labelNames) :
    Counter.ofCounts (keys.foldl Metrics.Counter.inc counter) =
      (Counter.ofCounts counter).after py
        (keys.map fun key => ⟨none, labelNames.zip key⟩) := by
  induction keys generalizing counter with
  | nil => rfl
  | cons key keys induction =>
      rw [List.forall_mem_cons] at counted
      have first : (Counter.ofCounts counter).taking py
          ⟨none, labelNames.zip key⟩ = .ofCounts (counter.inc key) := by
        rw [Counter.taking, ← labelled,
          inc_ofCounts py (labelled ▸ distinct) (labelled ▸ free)
            (labelled ▸ counted.1)]
      have rest := @induction counted.2 (counter.inc key) labelled
      rw [List.foldl_cons, rest, List.map_cons, Counter.after, Counter.after,
        List.foldl_cons, first]

theorem amounts_ones
    (distinct : labelNames.Nodup)
    (free : ∀ parameter ∈ incParameters, parameter ∉ labelNames)
    (counted : ∀ key ∈ keys, labelNames.length = key.length) :
    amounts labelNames
        (keys.map fun key => ⟨none, labelNames.zip key⟩) =
      keys.map fun key => (key, 1) := by
  induction keys with
  | nil => rfl
  | cons key keys induction =>
      rw [List.forall_mem_cons] at counted
      have rest := induction counted.2
      have fits := fits_zip (none : Option Int) free counted.1
      rw [amounts, taken] at rest ⊢
      simp only [List.map_cons, List.filter_cons, decide_eq_true fits, if_true,
        tuple_zip none distinct counted.1, rest]
      rfl

theorem short_counts (few : keys.length < 10 ^ maxStrDigits) :
    ∀ entry ∈ counts keys, shortInt entry.2 = true := by
  intro entry member
  rcases List.mem_map.mp member with ⟨key, -, rfl⟩
  rw [shortInt, decide_eq_true_eq, Int.natAbs_natCast]
  exact lt_of_le_of_lt List.count_le_length few

/-- A counter that was counted up for these keys renders their numbers. -/
theorem counter_rendered
    (distinct : labelNames.Nodup)
    (free : ∀ parameter ∈ incParameters, parameter ∉ labelNames)
    (counted : ∀ key ∈ keys, labelNames.length = key.length)
    (few : keys.length < 10 ^ maxStrDigits) :
    (Counter.ofCounts
        (keys.foldl Metrics.Counter.inc
          (.create name documentation labelNames))).render py =
      .ok
        (join "\n"
          (header name documentation "counter" ++
            sampleLines name labelNames (counts keys))) := by
  have held :=
    (@ofCounts_foldl py labelNames keys distinct free counted
        (.create name documentation labelNames) rfl).trans
      (after_create py name documentation labelNames
        (keys.map fun key => ⟨none, labelNames.zip key⟩))
  rw [amounts_ones distinct free counted, totals_ones] at held
  rw [held]
  exact render_eq py (length_of_counts counted) (short_counts few)

end

/-! ## What can be encoded of a text -/

section

variable (py : PyText)

theorem encodes_join_iff {separator : String} {parts : List String}
    (plain : py.encodes separator = true) :
    py.encodes (join separator parts) = true ↔
      ∀ part ∈ parts, py.encodes part = true := by
  induction parts with
  | nil => simp [join, PyText.encodes]
  | cons part parts induction =>
      cases parts with
      | nil => simp [join]
      | cons next parts =>
          have joined :
              join separator (part :: next :: parts) =
                part ++ (separator ++ join separator (next :: parts)) := by
            rw [← String.toList_inj]
            simp [join, String.toList_intercalate]
          rw [joined, encodes_append, encodes_append, plain, Bool.true_and,
            Bool.and_eq_true, induction, @List.forall_mem_cons _ _ part]

theorem encodes_escape (value : String) :
    py.encodes (escape value) = py.encodes value := by
  have each (char : Char) :
      ((escapedChar char).all fun char => !py.surrogate char) =
        !py.surrogate char := by
    have ascii (char : Char) (low : char.toNat < 128) :=
      py.asciiSurrogate char low
    unfold escapedChar
    split_ifs with backslash quote feed
    · subst backslash
      simp [ascii '\\' (by decide)]
    · subst quote
      simp [ascii '\\' (by decide), ascii '"' (by decide)]
    · subst feed
      simp [ascii '\\' (by decide), ascii 'n' (by decide),
        ascii '\n' (by decide)]
    · simp
  rw [PyText.encodes, PyText.encodes, toList_escape, List.all_flatMap]
  simp only [each]

theorem encodes_toString (value : Int) :
    py.encodes (toString value) = true := by
  apply encodes_of_ascii
  intro char member
  by_contra high
  have notDigit : char.isDigit = false := by
    by_contra digit
    simp only [Bool.not_eq_false, Char.isDigit, Bool.and_eq_true,
      decide_eq_true_eq] at digit
    have upper : char.toNat ≤ 57 := digit.2
    omega
  refine notMem_toString notDigit ?_ value member
  rintro rfl
  exact high (by decide)

variable {py} {names values : List String}

theorem labelText_eq (same : names.length = values.length) :
    labelText names values =
      if names.isEmpty then ""
      else "\x7b" ++ join "," ((names.zip values).map pair) ++ "\x7d" := by
  have written := labels_eq Ascii.asciiText same
  rw [labels, zipStrict_ok Ascii.asciiText same] at written
  split at written
  · rename_i unlabelled
    rw [if_pos unlabelled]
    exact (Except.ok.inj written).symm
  · rename_i labelled
    rw [if_neg labelled]
    exact (Except.ok.inj written).symm

/-- The names of labels being plain, their values decide. -/
theorem encodes_labelText_iff
    (same : names.length = values.length)
    (plain : ∀ name ∈ names, py.encodes name = true) :
    py.encodes (labelText names values) = true ↔
      ∀ value ∈ values, py.encodes value = true := by
  rw [labelText_eq same]
  cases names with
  | nil =>
      have none : values = [] := List.length_eq_zero_iff.mp same.symm
      subst none
      simp [PyText.encodes]
  | cons name rest =>
      have comma : py.encodes "," = true := encodes_of_all py (by decide)
      have opening : py.encodes "\x7b" = true := encodes_of_all py (by decide)
      have closing : py.encodes "\x7d" = true := encodes_of_all py (by decide)
      have quote : py.encodes "\"" = true := encodes_of_all py (by decide)
      have equals : py.encodes "=\"" = true := encodes_of_all py (by decide)
      have each : ∀ label ∈ (name :: rest).zip values,
          py.encodes (pair label) = py.encodes label.2 := by
        intro label member
        rw [pair, encodes_append, encodes_append, encodes_append,
          plain _ (List.of_mem_zip member).1, equals, quote, encodes_escape,
          Bool.true_and, Bool.and_true, Bool.true_and]
      rw [if_neg (by simp), encodes_append, encodes_append, opening, closing,
        Bool.true_and, Bool.and_true, encodes_join_iff py comma,
        List.forall_mem_map]
      have seconds : ((name :: rest).zip values).map Prod.snd = values :=
        List.map_snd_zip (le_of_eq same.symm)
      constructor
      · intro all value member
        rw [← seconds] at member
        rcases List.mem_map.mp member with ⟨label, isLabel, rfl⟩
        rw [← each label isLabel]
        exact all label isLabel
      · intro all label isLabel
        rw [each label isLabel]
        exact all _ (List.of_mem_zip isLabel).2

end

/-! ## The page -/

/-- The text of a counter that was counted up for these keys. -/
def counterText (name documentation : String) (labelNames : List String)
    (keys : List (List String)) : String :=
  join "\n"
    (header name documentation "counter" ++
      sampleLines name labelNames (counts keys))

/-- The text of a histogram that has observed these values. -/
def histogramText (repr : ℚ → String) (name documentation : String)
    (labelNames : List String) (buckets : List ℚ)
    (updates : List (List String × ℚ)) : String :=
  join "\n"
    (header name documentation "histogram" ++
      (shownKeys labelNames updates).flatMap fun key =>
        (blockOf (buckets.insertionSort (· ≤ ·))
          (under key updates)).lines repr name labelNames key)

section

variable (py : PyText) (repr : ℚ → String)
  {name documentation : String} {labelNames : List String}

theorem encodes_header (kind : String)
    (plain : ∀ text ∈ [name, documentation, kind], py.encodes text = true) :
    ∀ line ∈ header name documentation kind, py.encodes line = true := by
  have help : py.encodes "# HELP " = true := encodes_of_all py (by decide)
  have type : py.encodes "# TYPE " = true := encodes_of_all py (by decide)
  have blank : py.encodes " " = true := encodes_of_all py (by decide)
  simp_all [header]

theorem ofList_lineOf (entry : List String × Int) :
    String.ofList (lineOf name labelNames entry) =
      name ++ labelText labelNames entry.1 ++ " " ++ toString entry.2 := by
  rw [← String.toList_inj]
  simp [lineOf, labelText]

theorem encodes_counterText_iff {keys : List (List String)}
    (plain : ∀ text ∈ name :: documentation :: labelNames,
      py.encodes text = true)
    (counted : ∀ key ∈ keys, labelNames.length = key.length) :
    py.encodes (counterText name documentation labelNames keys) = true ↔
      ∀ key ∈ keys, ∀ value ∈ key, py.encodes value = true := by
  have feed : py.encodes "\n" = true := encodes_of_all py (by decide)
  have blank : py.encodes " " = true := encodes_of_all py (by decide)
  have counter : py.encodes "counter" = true := encodes_of_all py (by decide)
  rw [List.forall_mem_cons, List.forall_mem_cons] at plain
  have ahead := @encodes_header py name documentation "counter" (by
    simp [plain.1, plain.2.1, counter])
  have line : ∀ entry ∈ counts keys,
      (py.encodes (String.ofList (lineOf name labelNames entry)) = true ↔
        ∀ value ∈ entry.1, py.encodes value = true) := by
    intro entry member
    rw [ofList_lineOf, encodes_append, encodes_append, encodes_append,
      plain.1, blank, encodes_toString, Bool.true_and, Bool.and_true,
      Bool.and_true,
      encodes_labelText_iff (length_of_counts counted entry member)
        plain.2.2]
  rw [counterText, encodes_join_iff py feed, sampleLines,
    List.forall_mem_append, List.forall_mem_map]
  constructor
  · rintro ⟨-, lines⟩ key member
    exact (line (key, _) (mem_counts member)).mp (lines _ (mem_counts member))
  · intro all
    refine ⟨ahead, fun entry member => (line entry member).mpr ?_⟩
    rcases List.mem_map.mp member with ⟨key, isKey, rfl⟩
    exact all key (List.mem_eraseDups.mp isKey)

theorem encodes_fmt (plain : ∀ value, py.encodes (repr value) = true)
    (value : ℚ) :
    py.encodes (fmt repr value) = true := by
  unfold fmt
  split
  · exact encodes_toString py _
  · exact plain value

/-- Every line about a label tuple, if the tuple can be encoded. -/
theorem encodes_lines {key : List String} {block : Block}
    (numbers : ∀ value, py.encodes (repr value) = true)
    (plain : ∀ text ∈ name :: labelNames, py.encodes text = true)
    (same : labelNames.length = key.length)
    (values : ∀ value ∈ key, py.encodes value = true) :
    ∀ line ∈ block.lines repr name labelNames key,
      py.encodes line = true := by
  have le : py.encodes "le" = true := encodes_of_all py (by decide)
  have blank : py.encodes " " = true := encodes_of_all py (by decide)
  have infinity : py.encodes "+Inf" = true := encodes_of_all py (by decide)
  have suffixes : py.encodes "_bucket" = true ∧ py.encodes "_sum" = true ∧
      py.encodes "_count" = true := by
    refine ⟨?_, ?_, ?_⟩ <;> exact encodes_of_all py (by decide)
  rw [List.forall_mem_cons] at plain
  have count (number : Nat) : py.encodes (toString number) = true :=
    encodes_toString py number
  have labelled : py.encodes (labelText labelNames key) = true :=
    (encodes_labelText_iff same plain.2).mpr values
  have bucket (bound : String) (bounded : py.encodes bound = true)
      (number : Nat) :
      py.encodes (bucketText name labelNames key bound number) = true := by
    have all : py.encodes
        (labelText (labelNames ++ ["le"]) (key ++ [bound])) = true := by
      refine (encodes_labelText_iff (by simp [same]) ?_).mpr ?_
      · exact List.forall_mem_append.mpr
          ⟨plain.2, List.forall_mem_singleton.mpr le⟩
      · exact List.forall_mem_append.mpr
          ⟨values, List.forall_mem_singleton.mpr bounded⟩
    simp only [bucketText, encodes_append, plain.1, suffixes, all, blank,
      count, Bool.and_self]
  rw [Block.lines, List.forall_mem_append, List.forall_mem_map]
  refine ⟨fun shown _ => bucket _ (encodes_fmt py repr numbers _) _, ?_⟩
  simp only [List.forall_mem_cons, List.not_mem_nil, false_implies,
    implies_true, encodes_append, plain.1, suffixes, labelled, blank, count,
    encodes_fmt py repr numbers, bucket _ infinity, Bool.and_self, and_self]

theorem encodes_histogramText
    {buckets : List ℚ} {updates : List (List String × ℚ)}
    (numbers : ∀ value, py.encodes (repr value) = true)
    (plain : ∀ text ∈ name :: documentation :: labelNames,
      py.encodes text = true)
    (counted : ∀ update ∈ updates, labelNames.length = update.1.length)
    (values : ∀ update ∈ updates, ∀ value ∈ update.1,
      py.encodes value = true) :
    py.encodes
        (histogramText repr name documentation labelNames buckets updates) =
      true := by
  have feed : py.encodes "\n" = true := encodes_of_all py (by decide)
  have histogram : py.encodes "histogram" = true :=
    encodes_of_all py (by decide)
  rw [List.forall_mem_cons, List.forall_mem_cons] at plain
  have ahead := @encodes_header py name documentation "histogram" (by
    simp [plain.1, plain.2.1, histogram])
  have fromUpdates : ∀ key ∈ seen updates, ∃ update ∈ updates,
      update.1 = key := fun key known =>
    List.mem_map.mp (List.mem_eraseDups.mp known)
  rw [histogramText, encodes_join_iff py feed, List.forall_mem_append]
  refine ⟨ahead, ?_⟩
  intro line member
  rcases List.mem_flatMap.mp member with ⟨key, isShown, isLine⟩
  refine encodes_lines py repr numbers
    (List.forall_mem_cons.mpr ⟨plain.1, plain.2.2⟩) ?_ ?_ line isLine
  · refine length_of_shownKeys labelNames ?_ isShown
    intro key known
    rcases fromUpdates key known with ⟨update, isUpdate, rfl⟩
    exact counted update isUpdate
  · intro value isValue
    unfold shownKeys at isShown
    split at isShown
    · rw [List.mem_singleton.mp isShown] at isValue
      simp at isValue
    · rcases fromUpdates key isShown with ⟨update, isUpdate, rfl⟩
      exact values update isUpdate value isValue

theorem length_of_picked {pick : MetricUpdate → Option (List String)}
    (counted : ∀ update key, pick update = some key →
      labelNames.length = key.length)
    {updates : List MetricUpdate} :
    ∀ key ∈ updates.filterMap pick, labelNames.length = key.length := by
  intro key member
  rcases List.mem_filterMap.mp member with ⟨update, -, picked⟩
  exact counted update key picked

/-- What the program itself names a family by is ASCII. -/
theorem encodes_own {texts : List String}
    (own : (texts.all fun text => text.toList.all (·.toNat < 128)) = true) :
    ∀ text ∈ texts, py.encodes text = true :=
  fun text member => encodes_of_all py (List.all_eq_true.mp own text member)

/--
A counter of the registry reads back as the number of its updates, and it can
be encoded if their keys can.
-/
theorem counter_part
    {part : MetricRegistry → Metrics.Counter}
    {pick : MetricUpdate → Option (List String)}
    (steps : ∀ registry update,
      part (registry.update update) =
        (pick update).elim (part registry) (part registry).inc)
    (created : part .create = .create name documentation labelNames)
    (nameLine : '\n' ∉ name.toList) (helpLine : '\n' ∉ documentation.toList)
    (valid : ∀ label ∈ labelNames, isLabelName label.toList = true)
    (distinct : labelNames.Nodup)
    (free : ∀ parameter ∈ incParameters, parameter ∉ labelNames)
    (own : ((name :: documentation :: labelNames).all fun text =>
      text.toList.all (·.toNat < 128)) = true)
    (counted : ∀ update key, pick update = some key →
      labelNames.length = key.length)
    {updates : List MetricUpdate}
    (few : updates.length < 10 ^ maxStrDigits) :
    ∃ text,
      (Counter.ofCounts
          (part (updates.foldl MetricRegistry.update .create))).render py =
        .ok text ∧
      readCounter labelNames text.toList =
        some (counts (updates.filterMap pick)) ∧
      (py.encodes text = true ↔
        ∀ key ∈ updates.filterMap pick, ∀ value ∈ key,
          py.encodes value = true) := by
  have lengths := @length_of_picked labelNames pick counted updates
  rw [foldl_part steps updates, created]
  refine ⟨_, counter_rendered py distinct free lengths ?_,
    readCounter_rendered nameLine helpLine valid distinct
      (length_of_counts lengths),
    encodes_counterText_iff py (encodes_own py own) lengths⟩
  exact lt_of_le_of_lt (List.length_filterMap_le _ _) few

/-- A histogram of the registry shows what it has observed. -/
theorem histogram_part
    {part : MetricRegistry → Metrics.Histogram}
    {pick : MetricUpdate → Option (List String × ℚ)} {buckets : List ℚ}
    (numbers : ∀ value, py.encodes (repr value) = true)
    (steps : ∀ registry update,
      part (registry.update update) =
        (pick update).elim (part registry) fun observed =>
          (part registry).observe observed.1 observed.2)
    (created :
      part .create = .create name documentation labelNames buckets)
    (own : ((name :: documentation :: labelNames).all fun text =>
      text.toList.all (·.toNat < 128)) = true)
    (counted : ∀ update observed, pick update = some observed →
      labelNames.length = observed.1.length ∧
        ∀ value ∈ observed.1, py.encodes value = true)
    (updates : List MetricUpdate) :
    render py repr (part (updates.foldl MetricRegistry.update .create)) =
        .ok
          (histogramText repr name documentation labelNames buckets
            (updates.filterMap pick)) ∧
      py.encodes
          (histogramText repr name documentation labelNames buckets
            (updates.filterMap pick)) = true := by
  have picked : ∀ observed ∈ updates.filterMap pick,
      labelNames.length = observed.1.length ∧
        ∀ value ∈ observed.1, py.encodes value = true := by
    intro observed member
    rcases List.mem_filterMap.mp member with ⟨update, -, isPicked⟩
    exact counted update observed isPicked
  have observed := @foldl_part _ _ _ _ MetricRegistry.update part pick
    (fun histogram observed => histogram.observe observed.1 observed.2) steps
    updates .create
  refine ⟨?_, encodes_histogramText py repr numbers (encodes_own py own)
    (fun update member => (picked update member).1)
    fun update member => (picked update member).2⟩
  rw [observed, created, foldl_create]
  apply render_histogramOf
  intro key known
  rcases List.mem_map.mp (List.mem_eraseDups.mp known) with
    ⟨entry, member, rfl⟩
  exact (picked entry member).1

end

/-- Only the name of a tool is not a text of the program's own. -/
theorem encodes_toolCalls_iff {py : PyText} {updates : List MetricUpdate} :
    (∀ key ∈ updates.filterMap toolCallKey, ∀ value ∈ key,
        py.encodes value = true) ↔
      (toolNames updates).all py.encodes = true := by
  have outcome (ok : Bool) :
      py.encodes (if ok then "ok" else "error") = true := by
    cases ok <;> exact encodes_of_all py (by decide)
  rw [toolNames, List.all_eq_true, List.forall_mem_filterMap,
    List.forall_mem_filterMap]
  refine forall₂_congr fun update _ => ?_
  cases update <;> simp [toolCallKey, outcome]

/-- Keys that are written from enumerations can be encoded. -/
theorem encodes_picked {py : PyText}
    {pick : MetricUpdate → Option (List String)}
    (own : ∀ update key, pick update = some key →
      ∀ value ∈ key, py.encodes value = true)
    (updates : List MetricUpdate) :
    ∀ key ∈ updates.filterMap pick, ∀ value ∈ key,
      py.encodes value = true := by
  intro key member
  rcases List.mem_filterMap.mp member with ⟨update, -, picked⟩
  exact own update key picked

/-- A run that called the same tool twice. -/
def twoCalls (tool : String) : List MetricUpdate :=
  [.ticket .replied, .toolCall tool true, .toolCall tool true]

end SupportAssistant.Observability.Page
