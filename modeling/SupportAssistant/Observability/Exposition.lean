import SupportAssistant.Effects.Mapping
import SupportAssistant.Observability.Keyed
import SupportAssistant.Runtime.Ascii
import SupportAssistant.Text.Exposition

/-!
# Counters as exposition text

A counter takes amounts under labels that are passed by name, and renders as
two header lines and a sample line for each combination of label values.

Labels are keyword arguments, so none can be named like a parameter.  Amounts
are unbounded integers, and a total is written out unless it is too long.
-/

namespace SupportAssistant.Observability.Exposition

open SupportAssistant.Effects.Mapping
open SupportAssistant.Observability.Keyed
open SupportAssistant.Observability.Metrics (upsert)
open SupportAssistant.Runtime
open SupportAssistant.Text.Exposition

/-! ## What every family does with its labels -/

/-- The three replacements, backslashes first. -/
def escape (value : String) : String :=
  String.ofList
    (replaceChar '\n' ['\\', 'n']
      (replaceChar '"' ['\\', '"']
        (replaceChar '\\' ['\\', '\\'] value.toList)))

/-- `zip(first, second, strict=True)`. -/
def zipStrict {α β : Type} (py : PyText) (first : List α) (second : List β) :
    Except Exc (List (α × β)) :=
  if second.length < first.length then
    .error (valueError py "zip() argument 2 is shorter than argument 1")
  else if first.length < second.length then
    .error (valueError py "zip() argument 2 is longer than argument 1")
  else .ok (first.zip second)

/-- One label as the renderer writes it. -/
def pair (label : String × String) : String :=
  label.1 ++ "=\"" ++ escape label.2 ++ "\""

def labels (py : PyText) (names values : List String) : Except Exc String :=
  if names.isEmpty then .ok ""
  else do
    let zipped ← zipStrict py names values
    return "\x7b" ++ join "," (zipped.map pair) ++ "\x7d"

/-- `repr` of a tuple of strings. -/
def reprTuple (py : PyText) : List String → String
  | [] => "()"
  | [item] => "(" ++ py.repr item ++ ",)"
  | items => "(" ++ join ", " (items.map py.repr) ++ ")"

/-- Label values by the names they are passed under. -/
abbrev Labels := List (String × String)

/-- `labels[name]`. -/
def item (py : PyText) (labels : Labels) (name : String) :
    Except Exc String :=
  match labels.lookup name with
  | some value => .ok value
  | none => .error (keyError py name)

/-- The label values in the order of the family's label names. -/
def key (py : PyText) (name : String) (labelNames : List String)
    (labels : Labels) : Except Exc (List String) :=
  let given := labels.map Prod.fst
  if given ⊆ labelNames ∧ labelNames ⊆ given then
    labelNames.mapM (item py labels)
  else
    .error
      (valueError py
        (name ++ " is labelled " ++ reprTuple py labelNames ++ ", got " ++
          reprTuple py given))

/-- The `# HELP` and the `# TYPE` line. -/
def header (name documentation type : String) : List String :=
  ["# HELP " ++ name ++ " " ++ documentation, "# TYPE " ++ name ++ " " ++ type]

/-- No keyword is the name of a parameter that has its argument already. -/
def bindKeywords (py : PyText) (function : String)
    (parameters : List String) (labels : Labels) : Except Exc Unit :=
  match labels.find? fun label => parameters.contains label.1 with
  | none => .ok ()
  | some label =>
      .error
        (typeError py
          (function ++ "() got multiple values for argument '" ++ label.1 ++
            "'"))

/-- `str` of an integer. -/
def strInt (py : PyText) (value : Int) : Except Exc String :=
  if shortInt value then .ok (toString value) else .error (digitsError py)

/-! ## The calls that are taken -/

/-- The arguments of one `inc` or `observe`. -/
structure Call (A : Type) where
  value : A
  labels : Labels
deriving DecidableEq, Repr

/--
The call gives a value to each label name and to nothing else, and no label
is named like a parameter.
-/
def Call.Fits {A : Type} (parameters labelNames : List String)
    (call : Call A) : Prop :=
  (call.labels.map Prod.fst ⊆ labelNames ∧
    labelNames ⊆ call.labels.map Prod.fst) ∧
    ∀ parameter ∈ parameters, parameter ∉ labelNames

instance {A : Type} (parameters labelNames : List String) (call : Call A) :
    Decidable (call.Fits parameters labelNames) :=
  inferInstanceAs (Decidable (_ ∧ _))

/-- The value that the call gives to each label name. -/
def Call.tuple {A : Type} (labelNames : List String) (call : Call A) :
    List String :=
  labelNames.map fun name => (call.labels.lookup name).getD ""

/-- The calls that fit: their label tuples, and what they pass. -/
def taken {A : Type} (parameters labelNames : List String)
    (calls : List (Call A)) : List (List String × A) :=
  (calls.filter fun call => call.Fits parameters labelNames).map fun call =>
    (call.tuple labelNames, call.value)

/-! ## Counters -/

/-- A count, sliced by labels. -/
structure Counter where
  name : String
  documentation : String
  labelNames : List String
  values : List (List String × Int)
deriving DecidableEq, Repr

def Counter.create (name documentation : String)
    (labelNames : List String) : Counter :=
  { name, documentation, labelNames, values := [] }

/-- The parameters of `inc`. -/
def incParameters : List String := ["self", "amount"]

/--
A label named `amount` is a second argument for the parameter, or it is taken
for the amount, which a text cannot be.
-/
def Counter.inc (py : PyText) (counter : Counter) (amount : Option Int)
    (labels : Labels) : Except Exc Counter := do
  bindKeywords py "Counter.inc"
    ("self" :: amount.toList.map fun _ => "amount") labels
  let key ← key py counter.name counter.labelNames
    (labels.filter fun label => label.1 != "amount")
  match labels.lookup "amount" with
  | some _ =>
      throw
        (typeError py "unsupported operand type(s) for +: 'int' and 'str'")
  | none =>
      return { counter with
        values := upsert key 0 (· + amount.getD 1) counter.values }

/-- One combination of label values and its total, as a line. -/
def Counter.sample (py : PyText) (counter : Counter)
    (entry : List String × Int) : Except Exc String := do
  let labels ← labels py counter.labelNames entry.1
  let total ← strInt py entry.2
  return counter.name ++ labels ++ " " ++ total

def Counter.render (py : PyText) (counter : Counter) : Except Exc String := do
  let samples ← counter.values.mapM (counter.sample py)
  return join "\n"
    (header counter.name counter.documentation "counter" ++ samples)

/-! ## A sequence of increments -/

/-- An `inc` that raises leaves the counter as it was. -/
def Counter.taking (py : PyText) (counter : Counter)
    (call : Call (Option Int)) : Counter :=
  match counter.inc py call.value call.labels with
  | .ok after => after
  | .error _ => counter

def Counter.after (py : PyText) (counter : Counter)
    (calls : List (Call (Option Int))) : Counter :=
  calls.foldl (Counter.taking py) counter

/-- The label tuples that are counted, each with its amount, by default one. -/
def amounts (labelNames : List String) (calls : List (Call (Option Int))) :
    List (List String × Int) :=
  (taken incParameters labelNames calls).map fun update =>
    (update.1, update.2.getD 1)

/-- Each combination of label values and the sum of its amounts. -/
def totals (updates : List (List String × Int)) :
    List (List String × Int) :=
  (seen updates).map fun key => (key, (under key updates).sum)

/-! ## What is written -/

theorem toList_escape (value : String) :
    (escape value).toList = value.toList.flatMap escapedChar := by
  rw [escape, String.toList_ofList, replaceChar_chain]

theorem toList_pair (label : String × String) :
    (pair label).toList = written label := by
  simp [pair, written, toList_escape]

theorem zipStrict_ok
    {α β : Type} (py : PyText) {first : List α} {second : List β}
    (same : first.length = second.length) :
    zipStrict py first second = .ok (first.zip second) := by
  rw [zipStrict, if_neg (by omega), if_neg (by omega)]

/-- With a value to each name, the labels are a set of the format. -/
theorem labels_eq
    (py : PyText) {names values : List String}
    (same : names.length = values.length) :
    labels py names values =
      .ok (String.ofList (labelSet (names.zip values))) := by
  cases names with
  | nil => rfl
  | cons name names =>
      cases values with
      | nil => simp at same
      | cons value values =>
          have braced :
              "\x7b" ++
                  join "," (((name :: names).zip (value :: values)).map pair) ++
                "\x7d" =
              String.ofList
                (labelSet ((name :: names).zip (value :: values))) := by
            rw [← String.toList_inj, String.toList_ofList,
              String.toList_append, String.toList_append, join,
              String.toList_intercalate, List.map_map]
            have each : String.toList ∘ pair = written :=
              funext toList_pair
            rw [each]
            rfl
          rw [labels, zipStrict_ok py same, ← braced]
          rfl

/-! ## Which calls are accepted -/

theorem item_ok_iff
    {py : PyText} {given : Labels} {name value : String} :
    item py given name = .ok value ↔ given.lookup name = some value := by
  unfold item
  cases given.lookup name <;> simp

theorem lookup_of_named
    {given : Labels} {name : String} (passed : name ∈ given.map Prod.fst) :
    given.lookup name = some ((given.lookup name).getD "") := by
  rcases List.mem_map.mp passed with ⟨label, member, rfl⟩
  have found : (given.lookup label.1).isSome = true := by
    rw [List.lookup_isSome_iff]
    exact ⟨label, member, beq_self_eq_true _⟩
  rcases Option.isSome_iff_exists.mp found with ⟨value, known⟩
  rw [known]
  rfl

theorem bindKeywords_ok
    {py : PyText} {function : String} {parameters : List String}
    {given : Labels} (free : ∀ label ∈ given, label.1 ∉ parameters) :
    bindKeywords py function parameters given = .ok () := by
  have absent :
      given.find? (fun label => parameters.contains label.1) = none := by
    simpa using free
  rw [bindKeywords, absent]

theorem free_of_bindKeywords
    {py : PyText} {function : String} {parameters : List String}
    {given : Labels}
    (bound : bindKeywords py function parameters given = .ok ()) :
    ∀ label ∈ given, label.1 ∉ parameters := by
  unfold bindKeywords at bound
  split at bound
  · rename_i absent
    simpa using absent
  · simp at bound

section

variable {A : Type} {py : PyText} {name : String}
  {parameters labelNames : List String} {call : Call A}

/-- A call that fits is keyed by its label tuple. -/
theorem key_of_fits (fits : call.Fits parameters labelNames) :
    key py name labelNames call.labels = .ok (call.tuple labelNames) := by
  have items :
      labelNames.mapM (item py call.labels) = .ok (call.tuple labelNames) := by
    rw [mapM_ok_iff_forall₂, Call.tuple, List.forall₂_map_right_iff,
      List.forall₂_same]
    intro labelName member
    exact item_ok_iff.mpr (lookup_of_named (fits.1.2 member))
  simp only [key, if_pos fits.1, items]

/-- A family asks for its labels by name, and for no others. -/
theorem named_of_key {values : List String} {given : Labels}
    (accepted : key py name labelNames given = .ok values) :
    given.map Prod.fst ⊆ labelNames ∧ labelNames ⊆ given.map Prod.fst := by
  simp only [key] at accepted
  split at accepted
  · rename_i named
    exact named
  · simp at accepted

theorem free_of_fits (fits : call.Fits parameters labelNames) :
    ∀ label ∈ call.labels, label.1 ∉ parameters := by
  intro label member reserved
  exact fits.2 label.1 reserved (fits.1.1 (List.mem_map_of_mem member))

theorem fits_of_key {values : List String}
    (free : ∀ label ∈ call.labels, label.1 ∉ parameters)
    (accepted : key py name labelNames call.labels = .ok values) :
    call.Fits parameters labelNames := by
  have named := named_of_key accepted
  refine ⟨named, fun parameter reserved asked => ?_⟩
  rcases List.mem_map.mp (named.2 asked) with ⟨label, member, rfl⟩
  exact free label member reserved

/-- Under a label that is named like a parameter, nothing is taken. -/
theorem taken_of_reserved
    (reserved : ∃ parameter ∈ parameters, parameter ∈ labelNames)
    (calls : List (Call A)) :
    taken parameters labelNames calls = [] := by
  rcases reserved with ⟨parameter, isParameter, asked⟩
  rw [taken, List.map_eq_nil_iff, List.filter_eq_nil_iff]
  intro call member fits
  exact (of_decide_eq_true fits).2 parameter isParameter asked

theorem length_of_taken {calls : List (Call A)} {update : List String × A}
    (member : update ∈ taken parameters labelNames calls) :
    labelNames.length = update.1.length := by
  rcases List.mem_map.mp member with ⟨call, -, rfl⟩
  simp [Call.tuple]

/--
Folding the calls is folding what they pass, when each call that fits puts
that into the state and any other leaves the state as it was.
-/
theorem foldl_taken
    {S : Type} {Labelled : S → Prop} {step : S → Call A → S}
    {put : S → List String × A → S}
    (accepts : ∀ state call, Labelled state →
      call.Fits parameters labelNames →
        step state call = put state (call.tuple labelNames, call.value))
    (rejects : ∀ state call, Labelled state →
      ¬ call.Fits parameters labelNames → step state call = state)
    (keeps : ∀ state update, Labelled state → Labelled (put state update))
    (calls : List (Call A)) {state : S} (labelled : Labelled state) :
    calls.foldl step state =
      (taken parameters labelNames calls).foldl put state := by
  induction calls generalizing state with
  | nil => rfl
  | cons call calls induction =>
      rw [List.foldl_cons, taken, List.filter_cons]
      by_cases fits : call.Fits parameters labelNames
      · rw [if_pos (decide_eq_true fits), accepts state call labelled fits]
        exact induction (keeps state _ labelled)
      · rw [if_neg (by simpa using fits), rejects state call labelled fits]
        exact induction labelled

end

section

variable {py : PyText} {counter : Counter} {call : Call (Option Int)}

theorem lookup_amount_iff {given : Labels} :
    given.lookup "amount" = none ↔ ∀ label ∈ given, label.1 ≠ "amount" := by
  rw [List.lookup_eq_none_iff]
  simp only [bne_iff_ne, ne_comm, ne_eq]

theorem filter_amount {given : Labels}
    (others : ∀ label ∈ given, label.1 ≠ "amount") :
    (given.filter fun label => label.1 != "amount") = given :=
  List.filter_eq_self.mpr fun label member => by
    simpa using others label member

theorem inc_of_fits
    (fits : call.Fits incParameters counter.labelNames) :
    counter.inc py call.value call.labels =
      .ok
        { counter with
          values :=
            upsert (call.tuple counter.labelNames) 0
              (· + call.value.getD 1) counter.values } := by
  have free := free_of_fits fits
  have unbound : ∀ label ∈ call.labels,
      label.1 ∉ "self" :: call.value.toList.map fun _ => "amount" := by
    intro label member
    have outside := free label member
    cases call.value <;> simp_all [incParameters]
  have others : ∀ label ∈ call.labels, label.1 ≠ "amount" := by
    intro label member
    have outside := free label member
    simp_all [incParameters]
  simp only [Counter.inc, bindKeywords_ok unbound, filter_amount others,
    key_of_fits fits, lookup_amount_iff.mpr others, bind, Except.bind, pure,
    Except.pure]

/-- What does not fit is not counted. -/
theorem fits_of_inc {after : Counter}
    (counted : counter.inc py call.value call.labels = .ok after) :
    call.Fits incParameters counter.labelNames := by
  rw [Counter.inc] at counted
  rcases bind_ok_iff.mp counted with ⟨⟨⟩, bound, keyed⟩
  rcases bind_ok_iff.mp keyed with ⟨values, accepted, summed⟩
  split at summed
  · simp [throw, throwThe, MonadExceptOf.throw] at summed
  · rename_i absent
    have others := lookup_amount_iff.mp absent
    rw [filter_amount others] at accepted
    refine fits_of_key (fun label member reserved => ?_) accepted
    have unbound := free_of_bindKeywords bound label member
    have another := others label member
    simp_all [incParameters]

end

/-! ## What a counter holds -/

section

variable (py : PyText) (name documentation : String)
  (labelNames : List String)

/-- A counter holds the total of each label tuple it has seen. -/
theorem after_create (calls : List (Call (Option Int))) :
    (Counter.create name documentation labelNames).after py calls =
      { name, documentation, labelNames
        values := totals (amounts labelNames calls) } := by
  let put (counter : Counter) (update : List String × Option Int) : Counter :=
    { counter with
      values :=
        upsert update.1 0 (· + update.2.getD 1) counter.values }
  have folded :
      (Counter.create name documentation labelNames).after py calls =
        (taken incParameters labelNames calls).foldl put
          (Counter.create name documentation labelNames) := by
    apply @foldl_taken _ incParameters labelNames Counter fun counter =>
      counter.labelNames = labelNames
    · rintro counter call rfl fits
      rw [Counter.taking, inc_of_fits fits]
    · rintro counter call rfl misfits
      rw [Counter.taking]
      split
      · rename_i after counted
        exact absurd (fits_of_inc counted) misfits
      · rfl
    · exact fun _ _ labelled => labelled
    · rfl
  have held :
      collected (0 : Int) (fun value amount => value + amount)
          (amounts labelNames calls) =
        totals (amounts labelNames calls) := by
    rw [collected_eq, totals]
    refine List.map_congr_left fun key _ => ?_
    rw [List.sum_eq_foldl]
  rw [folded, ← held, collected, amounts, List.foldl_map]
  exact List.foldl_hom
    (fun values => Counter.mk name documentation labelNames values)
    fun _ _ => rfl

theorem length_of_totals
    {calls : List (Call (Option Int))} {entry : List String × Int}
    (member : entry ∈ totals (amounts labelNames calls)) :
    labelNames.length = entry.1.length := by
  rcases List.mem_map.mp member with ⟨key, known, rfl⟩
  rcases List.mem_map.mp (List.mem_eraseDups.mp known) with
    ⟨amount, isAmount, rfl⟩
  rcases List.mem_map.mp isAmount with ⟨update, isUpdate, rfl⟩
  exact @length_of_taken _ _ _ _ update isUpdate

/-- The line of one combination of label values. -/
def lineOf (entry : List String × Int) : List Char :=
  name.toList ++
    (labelSet (labelNames.zip entry.1) ++ ' ' :: (toString entry.2).toList)

theorem sample_eq
    {counter : Counter} {entry : List String × Int}
    (same : counter.labelNames.length = entry.1.length) :
    counter.sample py entry =
      (strInt py entry.2).map fun _ =>
        String.ofList (lineOf counter.name counter.labelNames entry) := by
  have text :
      counter.name ++ String.ofList (labelSet (counter.labelNames.zip entry.1)) ++
          " " ++ toString entry.2 =
        String.ofList (lineOf counter.name counter.labelNames entry) := by
    rw [← String.toList_inj]
    simp [lineOf]
  rw [Counter.sample, labels_eq py same, ← text, strInt]
  split <;> rfl

theorem render_eq
    {counter : Counter}
    (same :
      ∀ entry ∈ counter.values, counter.labelNames.length = entry.1.length)
    (short : ∀ entry ∈ counter.values, shortInt entry.2 = true) :
    counter.render py =
      .ok
        (join "\n"
          (header counter.name counter.documentation "counter" ++
            counter.values.map fun entry =>
              String.ofList
                (lineOf counter.name counter.labelNames entry))) := by
  have samples :
      counter.values.mapM (counter.sample py) =
        .ok
          (counter.values.map fun entry =>
            String.ofList (lineOf counter.name counter.labelNames entry)) := by
    rw [mapM_ok_iff_forall₂, List.forall₂_map_right_iff, List.forall₂_same]
    intro entry member
    rw [sample_eq py (same entry member), strInt,
      if_pos (short entry member)]
    rfl
  rw [Counter.render, samples]
  rfl

/-- A total that is too long is not written, and with it no line is. -/
theorem short_of_render
    {counter : Counter} {text : String}
    (same :
      ∀ entry ∈ counter.values, counter.labelNames.length = entry.1.length)
    (rendered : counter.render py = .ok text) :
    ∀ entry ∈ counter.values, shortInt entry.2 = true := by
  intro entry member
  rcases bind_ok_iff.mp rendered with ⟨samples, written, -⟩
  rcases mapM_ok_iff.mp ⟨samples, written⟩ entry member with ⟨line, isLine⟩
  rw [sample_eq py (same entry member), strInt] at isLine
  split at isLine
  · rename_i short
    exact short
  · simp [Except.map] at isLine

end

/-! ## Reading a counter back -/

/-- The values of a sample's labels, looked up by name, and its total. -/
def readTotal (labelNames : List String) (sample : Sample) :
    Option (List String × Int) :=
  (labelNames.mapM fun name => sample.1.lookup name).bind fun values =>
    (readInt sample.2).map fun total => (values, total)

/-- What a text says of each combination of label values, line by line. -/
def readCounter (labelNames : List String) (text : List Char) :
    Option (List (List String × Int)) :=
  (readFamily text).bind fun samples =>
    samples.mapM (readTotal labelNames)

theorem lookup_of_mem
    {labels : Labels} (distinct : (labels.map Prod.fst).Nodup)
    {label : String × String} (member : label ∈ labels) :
    labels.lookup label.1 = some label.2 := by
  induction labels with
  | nil => simp at member
  | cons first rest induction =>
      rw [List.map_cons, List.nodup_cons] at distinct
      rcases List.mem_cons.mp member with rfl | later
      · rw [List.lookup_cons, beq_self_eq_true]
      · have other : (label.1 == first.1) = false := by
          rw [beq_eq_false_iff_ne]
          intro same
          exact distinct.1 (List.mem_map.mpr ⟨label, later, same⟩)
        rw [List.lookup_cons, other]
        exact induction distinct.2 later

/-- The names of the labels being distinct, each has its own value. -/
theorem mapM_lookup_zip
    {names values : List String} (distinct : names.Nodup)
    (same : names.length = values.length) :
    (names.mapM fun name => (names.zip values).lookup name) =
      some values := by
  have firsts : (names.zip values).map Prod.fst = names :=
    List.map_fst_zip (le_of_eq same)
  have seconds : (names.zip values).map Prod.snd = values :=
    List.map_snd_zip (le_of_eq same.symm)
  have each :
      ((names.zip values).map Prod.fst).mapM
          (fun name => (names.zip values).lookup name) =
        some ((names.zip values).map Prod.snd) :=
    mapM_map_some fun label member =>
      lookup_of_mem (by rwa [firsts]) member
  rwa [firsts, seconds] at each

/-- Values that are passed under their names are the label tuple. -/
theorem tuple_zip
    {A : Type} (value : A) {labelNames values : List String}
    (distinct : labelNames.Nodup)
    (same : labelNames.length = values.length) :
    (Call.mk value (labelNames.zip values)).tuple labelNames = values := by
  have found := mapM_some_iff_forall₂.mp (mapM_lookup_zip distinct same)
  rw [Call.tuple, ← List.forall₂_eq_eq_eq, List.forall₂_map_left_iff]
  refine found.imp fun name value known => ?_
  rw [known]
  rfl

theorem fits_zip
    {A : Type} (value : A) {parameters labelNames values : List String}
    (free : ∀ parameter ∈ parameters, parameter ∉ labelNames)
    (same : labelNames.length = values.length) :
    (Call.mk value (labelNames.zip values)).Fits parameters labelNames := by
  have firsts : (labelNames.zip values).map Prod.fst = labelNames :=
    List.map_fst_zip (le_of_eq same)
  rw [Call.Fits, firsts]
  exact ⟨⟨fun _ => id, fun _ => id⟩, free⟩

theorem upsert_map
    {V W : Type} (convert : V → W) (key : List String) (initial : V)
    {update : V → V} {updated : W → W}
    (commutes : ∀ value, convert (update value) = updated (convert value))
    (entries : List (List String × V)) :
    upsert key (convert initial) updated
        (entries.map fun entry => (entry.1, convert entry.2)) =
      (upsert key initial update entries).map fun entry =>
        (entry.1, convert entry.2) := by
  induction entries with
  | nil => simp [upsert, commutes]
  | cons entry entries induction =>
      rw [List.map_cons, upsert, upsert]
      split
      · rw [List.map_cons, commutes]
      · rw [List.map_cons, induction]

/-- A counter of the registry, which only ever takes ones. -/
def Counter.ofCounts (counter : Metrics.Counter) : Counter :=
  { name := counter.name
    documentation := counter.documentation
    labelNames := counter.labelNames
    values := counter.values.map fun entry => (entry.1, (entry.2 : Int)) }

theorem inc_ofCounts
    (py : PyText) {counter : Metrics.Counter} {values : List String}
    (distinct : counter.labelNames.Nodup)
    (free : ∀ parameter ∈ incParameters, parameter ∉ counter.labelNames)
    (same : counter.labelNames.length = values.length) :
    (Counter.ofCounts counter).inc py none (counter.labelNames.zip values) =
      .ok (.ofCounts (counter.inc values)) := by
  have counted := @upsert_map Nat Int (fun count => (count : Int)) values 0
    (· + 1) (· + 1) (fun _ => by simp) counter.values
  have taken := @inc_of_fits py (.ofCounts counter)
    ⟨none, counter.labelNames.zip values⟩ (fits_zip none free same)
  simp only [Counter.ofCounts, tuple_zip none distinct same,
    Option.getD_none] at taken
  simp only [Counter.ofCounts, Metrics.Counter.inc, taken, ← counted]
  rfl

section

variable {name documentation : String} {labelNames : List String}

theorem lineFeed_notMem_lineOf
    (nameLine : '\n' ∉ name.toList)
    (valid : ∀ label ∈ labelNames, isLabelName label.toList = true)
    (entry : List String × Int) :
    '\n' ∉ lineOf name labelNames entry := by
  have labelled :
      ∀ label ∈ labelNames.zip entry.1, isLabelName label.1.toList = true :=
    fun _ member => valid _ (List.of_mem_zip member).1
  have total : '\n' ∉ (toString entry.2).toList :=
    notMem_toString (by decide) (by decide) entry.2
  simp only [lineOf, List.mem_append, List.mem_cons, not_or]
  exact ⟨nameLine, lineFeed_notMem_labelSet labelled, by decide, total⟩

theorem read_lineOf
    (valid : ∀ label ∈ labelNames, isLabelName label.toList = true)
    (distinct : labelNames.Nodup) {entry : List String × Int}
    (same : labelNames.length = entry.1.length) :
    (readLine name.toList (lineOf name labelNames entry)).bind
        (readTotal labelNames) =
      some entry := by
  have labelled :
      ∀ label ∈ labelNames.zip entry.1, isLabelName label.1.toList = true :=
    fun _ member => valid _ (List.of_mem_zip member).1
  have unbroken : ' ' ∉ (toString entry.2).toList :=
    notMem_toString (by decide) (by decide) entry.2
  rw [lineOf,
    readLine_written labelled (toString_nonempty entry.2) unbroken,
    Option.bind_some, readTotal, mapM_lookup_zip distinct same,
    Option.bind_some, readInt_toString, Option.map_some]

/-- The lines of a text are those it was joined from. -/
theorem splitOn_join
    {lines : List String} (nonempty : lines ≠ [])
    (unbroken : ∀ line ∈ lines, '\n' ∉ line.toList) :
    (join "\n" lines).toList.splitOn '\n' = lines.map String.toList := by
  have joined :
      (join "\n" lines).toList = ['\n'].intercalate (lines.map String.toList) := by
    rw [join, String.toList_intercalate]
    rfl
  rw [joined]
  refine List.splitOn_intercalate _ ?_ (by simpa using nonempty)
  intro line member
  rcases List.mem_map.mp member with ⟨text, isLine, rfl⟩
  exact unbroken text isLine

theorem lineFeed_notMem_header
    (nameLine : '\n' ∉ name.toList)
    (helpLine : '\n' ∉ documentation.toList) :
    ∀ line ∈ header name documentation "counter", '\n' ∉ line.toList := by
  intro line member
  rcases List.mem_cons.mp member with rfl | later
  · simp [nameLine, helpLine]
  · rw [List.mem_singleton.mp later]
    simp [nameLine]

theorem typedName_header :
    typedName ("# TYPE " ++ name ++ " " ++ "counter").toList =
      some name.toList := by
  have split :
      ("# TYPE " ++ name ++ " " ++ "counter").toList =
        ['#', ' ', 'T', 'Y', 'P', 'E', ' '] ++
          (name.toList ++ ' ' :: "counter".toList) := by
    simp
  rw [split, typedName_written (by decide)]

theorem mapM_readTotal
    {texts : List (List Char)} {entries : List (List String × Int)}
    (each :
      List.Forall₂
        (fun text entry =>
          (readLine name.toList text).bind (readTotal labelNames) = some entry)
        texts entries) :
    ((texts.mapM (readLine name.toList)).bind fun samples =>
        samples.mapM (readTotal labelNames)) =
      some entries := by
  induction each with
  | nil => rfl
  | @cons text entry texts entries first rest induction =>
      rcases Option.bind_eq_some_iff.mp first with ⟨sample, read, total⟩
      rcases Option.bind_eq_some_iff.mp induction with
        ⟨samples, reads, sums⟩
      simp [read, reads, total, sums]

end

/-! ## Label values of any kind -/

/-- Reading an escaped value never leaves the quotes. -/
theorem run_escape
    (value : String) (labels : Labels) (name written : List Char) :
    Reading.run { labels, place := .quoted name written }
        (escape value).toList =
      some { labels, place := .quoted name (written ++ value.toList) } := by
  rw [toList_escape, run_escaped]

theorem escape_injective : Function.Injective escape := by
  intro first second same
  have read := run_escape first [] [] []
  rw [same, run_escape second [] [] []] at read
  simpa [String.toList_inj] using read.symm

theorem lineFeed_notMem_escape (value : String) :
    '\n' ∉ (escape value).toList := by
  rw [toList_escape]
  exact lineFeed_notMem_escaped _

section

variable {name documentation : String} {labelNames : List String}
  {entries : List (List String × Int)}

/-- The sample lines of a counter. -/
def sampleLines (name : String) (labelNames : List String)
    (entries : List (List String × Int)) : List String :=
  entries.map fun entry => String.ofList (lineOf name labelNames entry)

theorem read_sampleLines
    (valid : ∀ label ∈ labelNames, isLabelName label.toList = true)
    (distinct : labelNames.Nodup)
    (counted : ∀ entry ∈ entries, labelNames.length = entry.1.length) :
    List.Forall₂
      (fun line entry =>
        (readLine name.toList line.toList).bind (readTotal labelNames) =
          some entry)
      (sampleLines name labelNames entries) entries := by
  rw [sampleLines, List.forall₂_map_left_iff, List.forall₂_same]
  intro entry member
  rw [String.toList_ofList]
  exact read_lineOf valid distinct (counted entry member)

theorem splitOn_rendered
    (nameLine : '\n' ∉ name.toList) (helpLine : '\n' ∉ documentation.toList)
    (valid : ∀ label ∈ labelNames, isLabelName label.toList = true) :
    (join "\n"
          (header name documentation "counter" ++
            sampleLines name labelNames entries)).toList.splitOn '\n' =
      (header name documentation "counter" ++
        sampleLines name labelNames entries).map String.toList := by
  refine splitOn_join (by simp [header]) ?_
  intro text member
  rcases List.mem_append.mp member with ahead | sample
  · exact lineFeed_notMem_header nameLine helpLine text ahead
  · rcases List.mem_map.mp sample with ⟨entry, -, rfl⟩
    rw [String.toList_ofList]
    exact lineFeed_notMem_lineOf nameLine valid entry

theorem readCounter_rendered
    (nameLine : '\n' ∉ name.toList) (helpLine : '\n' ∉ documentation.toList)
    (valid : ∀ label ∈ labelNames, isLabelName label.toList = true)
    (distinct : labelNames.Nodup)
    (counted : ∀ entry ∈ entries, labelNames.length = entry.1.length) :
    readCounter labelNames
        (join "\n"
          (header name documentation "counter" ++
            sampleLines name labelNames entries)).toList =
      some entries := by
  have texts : List.Forall₂
      (fun text entry =>
        (readLine name.toList text).bind (readTotal labelNames) = some entry)
      ((sampleLines name labelNames entries).map String.toList) entries :=
    List.forall₂_map_left_iff.mpr (read_sampleLines valid distinct counted)
  rw [readCounter, readFamily, splitOn_rendered nameLine helpLine valid,
    header, List.map_append, List.map_cons, List.map_cons, List.map_nil]
  simp only [List.cons_append, List.nil_append]
  rw [typedName_header, Option.bind_some]
  exact mapM_readTotal texts

end

section

variable (py : PyText) {name documentation : String}
  {labelNames : List String} {calls : List (Call (Option Int))}

theorem render_create
    (short : ∀ entry ∈ totals (amounts labelNames calls),
      shortInt entry.2 = true) :
    ((Counter.create name documentation labelNames).after py calls).render
        py =
      .ok
        (join "\n"
          (header name documentation "counter" ++
            sampleLines name labelNames
              (totals (amounts labelNames calls)))) := by
  rw [after_create]
  exact render_eq py (fun _ => length_of_totals labelNames) short

theorem short_of_create {text : String}
    (rendered :
      ((Counter.create name documentation labelNames).after py calls).render
        py = .ok text) :
    ∀ entry ∈ totals (amounts labelNames calls),
      shortInt entry.2 = true := by
  rw [after_create] at rendered
  exact short_of_render py (fun _ => length_of_totals labelNames) rendered

end

/--
Whatever the label values, a counter renders exactly when no total is too
long to be written.  Each label tuple then has one line, in the order in which
the tuples were first seen, and the lines say its total.  The tuples are of
the calls that fit; under a label that is named like a parameter none does.
Escaping loses nothing, and an escaped value neither begins a new line nor
closes its quote.
-/
theorem counter_text_recovered
    (py : PyText) (name documentation : String) (labelNames : List String)
    (nameLine : '\n' ∉ name.toList) (helpLine : '\n' ∉ documentation.toList)
    (valid : ∀ label ∈ labelNames, isLabelName label.toList = true)
    (distinct : labelNames.Nodup) (calls : List (Call (Option Int))) :
    let entries := totals (amounts labelNames calls)
    let rendered :=
      ((Counter.create name documentation labelNames).after py calls).render py
    ((∃ text, rendered = .ok text) ↔
      ∀ entry ∈ entries, shortInt entry.2 = true) ∧
    (∀ text, rendered = .ok text →
      ∃ lines : List String,
        text.toList.splitOn '\n' =
          (header name documentation "counter" ++ lines).map String.toList ∧
        List.Forall₂
          (fun line entry =>
            (readLine name.toList line.toList).bind (readTotal labelNames) =
              some entry)
          lines entries ∧
        readCounter labelNames text.toList = some entries) ∧
    ((∃ parameter ∈ incParameters, parameter ∈ labelNames) → entries = []) ∧
    Function.Injective escape ∧
    ∀ value : String,
      '\n' ∉ (escape value).toList ∧
      ∀ labels label written,
        Reading.run { labels, place := .quoted label written }
            (escape value).toList =
          some
            { labels
              place := .quoted label (written ++ value.toList) } := by
  intro entries rendered
  have counted : ∀ entry ∈ entries, labelNames.length = entry.1.length :=
    fun _ member => length_of_totals labelNames member
  refine ⟨⟨fun ⟨text, written⟩ => short_of_create py written,
    fun short => ⟨_, render_create py short⟩⟩, ?_, ?_, escape_injective,
    fun value => ⟨lineFeed_notMem_escape value, run_escape value⟩⟩
  · intro text written
    have same :=
      (render_create py (short_of_create py written)).symm.trans written
    rw [← Except.ok.inj same]
    exact ⟨sampleLines name labelNames entries,
      splitOn_rendered nameLine helpLine valid,
      read_sampleLines valid distinct counted,
      readCounter_rendered nameLine helpLine valid distinct counted⟩
  · intro reserved
    simp only [entries, amounts, taken_of_reserved reserved]
    rfl

/-- Two tools whose names look like other labels, and one call misnamed. -/
def oddCalls : List (Call (Option Int)) :=
  [{ value := none
     labels := [("tool", "get\",outcome=\"ok"), ("outcome", "ok")] },
   { value := some 2, labels := [("tool", "get\\"), ("outcome", "error")] },
   { value := some 5, labels := [("tool", "get")] },
   { value := some 3
     labels := [("outcome", "ok"), ("tool", "get\",outcome=\"ok")] }]

theorem odd_calls_recovered :
    ∃ text,
      ((Counter.create "tool_calls_total" "Tool invocations."
          ["tool", "outcome"]).after Ascii.asciiText oddCalls).render
        Ascii.asciiText = .ok text ∧
      readCounter ["tool", "outcome"] text.toList =
        some
          [(["get\",outcome=\"ok", "ok"], 4), (["get\\", "error"], 2)] := by
  rcases counter_text_recovered Ascii.asciiText "tool_calls_total"
    "Tool invocations." ["tool", "outcome"] (by decide) (by decide)
    (by decide) (by decide) oddCalls with ⟨renders, read, -⟩
  rcases renders.mpr (by decide +kernel) with ⟨text, rendered⟩
  rcases read text rendered with ⟨lines, -, -, recovered⟩
  exact ⟨text, rendered, recovered⟩

/-- The text is there, and says of each tuple that was passed its total. -/
def SaysAll (labelNames : List String) (calls : List (Call (Option Int))) :
    Prop :=
  ∃ text,
    ((Counter.create "calls" "Calls." labelNames).after Ascii.asciiText
        calls).render Ascii.asciiText = .ok text ∧
      readCounter labelNames text.toList =
        some
          (totals (calls.map fun call =>
            (call.tuple labelNames, call.value.getD 1)))

/-- It is so if what is counted is what was passed, and no total is too long. -/
theorem saysAll_iff {labelNames : List String}
    {calls : List (Call (Option Int))}
    (valid : ∀ label ∈ labelNames, isLabelName label.toList = true)
    (distinct : labelNames.Nodup) :
    SaysAll labelNames calls ↔
      (∀ entry ∈ totals (amounts labelNames calls),
        shortInt entry.2 = true) ∧
      totals (amounts labelNames calls) =
        totals (calls.map fun call =>
          (call.tuple labelNames, call.value.getD 1)) := by
  have recovered := @readCounter_rendered "calls" "Calls." labelNames
    (totals (amounts labelNames calls)) (by decide) (by decide) valid distinct
    fun _ => length_of_totals labelNames
  constructor
  · rintro ⟨text, rendered, read⟩
    have short := short_of_create Ascii.asciiText rendered
    rw [render_create Ascii.asciiText short, Except.ok.injEq] at rendered
    rw [← rendered, recovered, Option.some.injEq] at read
    exact ⟨short, read⟩
  · rintro ⟨short, same⟩
    exact ⟨_, render_create Ascii.asciiText short, by rw [recovered, same]⟩

/-- An amount of 4301 digits. -/
def longCall : Call (Option Int) :=
  { value := some (10 ^ maxStrDigits), labels := [("tool", "get")] }

/--
A label named like a parameter is never counted, however it is passed; and
one long total keeps the whole counter from being rendered.
-/
theorem some_calls_unrecovered :
    ¬ SaysAll ["amount"] [⟨some 1, [("amount", "a")]⟩] ∧
      ¬ SaysAll ["amount"] [⟨none, [("amount", "a")]⟩] ∧
      ¬ SaysAll ["self"] [⟨none, [("self", "a")]⟩] ∧
      ¬ SaysAll ["tool"] [longCall] := by
  rw [saysAll_iff (by decide) (by decide), saysAll_iff (by decide) (by decide),
    saysAll_iff (by decide) (by decide), saysAll_iff (by decide) (by decide)]
  refine ⟨?_, ?_, ?_, ?_⟩
  · decide
  · decide
  · decide
  · decide +kernel

end SupportAssistant.Observability.Exposition
