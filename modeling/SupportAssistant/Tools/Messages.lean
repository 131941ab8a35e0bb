import SupportAssistant.Runtime.Ascii
import SupportAssistant.Tools.Rows

/-!
# What the message of a failed validation depends on

Two rows of a user have the same keys, fail on the same fields and agree
elsewhere.  The failures they are reported as differ in two places only: the
locator prints the value of the id field, valid or not, and the keys that the
model does not declare are listed in the order of the row.
-/

namespace SupportAssistant.Tools.Messages

open SupportAssistant.Runtime
open SupportAssistant.Runtime.Ascii
open SupportAssistant.Domain
open SupportAssistant.Tools.Loaders
open SupportAssistant.Tools.Rows

/-! ## Rows that should be reported alike -/

/-- The rows have the same keys, fail on the same fields, and agree elsewhere. -/
structure Matching {R : Type} (validate : Row → Except (List String) R)
    (row row' : Row) : Prop where
  keys : (row.map Prod.fst).Perm (row'.map Prod.fst)
  fails : ∃ failed failed',
    validate row = .error failed ∧ validate row' = .error failed' ∧
      (∀ path, path ∈ failed ↔ path ∈ failed') ∧
        ∀ key, key ∉ failed → Json.get? row key = Json.get? row' key

/-- The keys that are no fields, as a message lists them. -/
def undeclared (fields : List String) (row : Row) : String :=
  failedFields ((row.map Prod.fst).filter fun key => !fields.contains key)

/-- The field is absent from both rows, or prints as the same text. -/
def PrintsAlike (py : PyText) (idField : String) (row row' : Row) : Prop :=
  (Json.get? row idField).map (Json.str py) =
    (Json.get? row' idField).map (Json.str py)

def userFields : List String :=
  ["user_id", "name", "language", "plan"]

def sessionFields : List String :=
  ["session_id", "station", "kwh", "cost", "status", "started_at"]

def invoiceFields : List String :=
  ["invoice_id", "amount", "currency", "status", "issued_at"]

/-! ## Joined texts -/

theorem length_failedFields {paths : List String} (nonempty : paths ≠ []) :
    (failedFields paths).length + 2 =
      (paths.map fun path => path.length + 2).sum := by
  induction paths with
  | nil => exact absurd rfl nonempty
  | cons path paths induction =>
      cases paths with
      | nil => simp [failedFields, join]
      | cons next paths =>
          have later := induction (by simp)
          rw [failedFields, join] at later
          rw [failedFields, join, String.intercalate_cons_cons, List.map_cons,
            List.sum_cons, ← later, String.length_append,
            String.length_append]
          have two : (", " : String).length = 2 := rfl
          omega

/-- The order of the paths does not change the length of the message. -/
theorem length_failedFields_perm
    {paths others : List String} (same : paths.Perm others) :
    (failedFields paths).length = (failedFields others).length := by
  by_cases empty : paths = []
  · subst empty
    rw [List.nil_perm.mp same]
  · have othersNonempty : others ≠ [] := by
      rintro rfl
      exact empty (List.perm_nil.mp same)
    have left := length_failedFields empty
    have right := length_failedFields othersNonempty
    have sums := (same.map fun path => path.length + 2).sum_eq
    omega

theorem append_right_inj_of_length
    {left left' right right' : String}
    (length : right.length = right'.length) :
    left ++ right = left' ++ right' ↔ left = left' ∧ right = right' := by
  constructor
  · intro same
    have lists := congrArg String.toList same
    rw [String.toList_append, String.toList_append] at lists
    have parts := List.append_inj' lists (by
      rw [String.length_toList, String.length_toList, length])
    exact ⟨String.toList_injective parts.1, String.toList_injective parts.2⟩
  · rintro ⟨rfl, rfl⟩
    rfl

/-- A common beginning can be left out of the comparison. -/
theorem failedFields_append_inj
    (declared : List String) {paths others : List String}
    (same : paths.Perm others) :
    failedFields (declared ++ paths) = failedFields (declared ++ others) ↔
      failedFields paths = failedFields others := by
  by_cases noneDeclared : declared = []
  · rw [noneDeclared, List.nil_append, List.nil_append]
  · by_cases empty : paths = []
    · subst empty
      rw [List.nil_perm.mp same]
      simp
    · have othersNonempty : others ≠ [] := by
        rintro rfl
        exact empty (List.perm_nil.mp same)
      have length := length_failedFields_perm same
      simp only [failedFields, join] at length ⊢
      rw [String.intercalate_append_of_ne_nil noneDeclared empty,
        String.intercalate_append_of_ne_nil noneDeclared othersNonempty,
        append_right_inj_of_length length]
      exact and_iff_right rfl

/-! ## What a model reports -/

/-- The failures of a model are reported for these fields. -/
def Reports {R : Type} (validate : Row → Except (List String) R)
    (fields : List String) : Prop :=
  ∀ row failed, validate row = .error failed →
    ∃ checks, checks.map Prod.fst = fields ∧ failed = failures checks row

theorem reports_user :
    Reports validateUser userFields := by
  intro row failed invalid
  simp only [validateUser] at invalid
  split at invalid
  · cases invalid
  · refine ⟨_, ?_, (Except.error.inj invalid).symm⟩
    rfl

theorem reports_session (pydantic : Pydantic) :
    Reports (validateSession pydantic) sessionFields := by
  intro row failed invalid
  simp only [validateSession] at invalid
  split at invalid
  · cases invalid
  · refine ⟨_, ?_, (Except.error.inj invalid).symm⟩
    rfl

theorem reports_invoice (pydantic : Pydantic) :
    Reports (validateInvoice pydantic) invoiceFields := by
  intro row failed invalid
  simp only [validateInvoice] at invalid
  split at invalid
  · cases invalid
  · refine ⟨_, ?_, (Except.error.inj invalid).symm⟩
    rfl

/-- The declared fields among the failures, in the order of declaration. -/
theorem declared_failures
    {checks : List (String × Bool)} (nodup : (checks.map Prod.fst).Nodup)
    (row : Row) :
    ((checks.filter fun check => !check.2).map Prod.fst) =
      (checks.map Prod.fst).filter fun field =>
        decide (field ∈ failures checks row) := by
  rw [List.filter_map]
  congr 1
  apply List.filter_congr
  intro check isCheck
  rw [Function.comp_apply, Bool.eq_iff_iff, decide_eq_true_eq, failures,
    List.mem_append]
  constructor
  · intro fails
    exact Or.inl (List.mem_map.mpr
      ⟨check, List.mem_filter.mpr ⟨isCheck, fails⟩, rfl⟩)
  · rintro (declared | extra)
    · rcases List.mem_map.mp declared with ⟨other, isOther, same⟩
      rcases List.mem_filter.mp isOther with ⟨isCheckToo, fails⟩
      have equal := List.inj_on_of_nodup_map nodup isCheckToo isCheck same
      rwa [← equal]
    · have notDeclared := (List.mem_filter.mp extra).2
      rw [Bool.not_eq_true', List.contains_eq_mem, decide_eq_false_iff_not]
        at notDeclared
      exact absurd (List.mem_map_of_mem isCheck) notDeclared

theorem perm_extras
    {fields : List String} {row row' : Row}
    (keys : (row.map Prod.fst).Perm (row'.map Prod.fst)) :
    ((row.map Prod.fst).filter fun key => !fields.contains key).Perm
      ((row'.map Prod.fst).filter fun key => !fields.contains key) :=
  keys.filter _

/-- The paths are listed alike if the undeclared keys are. -/
theorem failedFields_iff
    {R : Type} {validate : Row → Except (List String) R}
    {fields : List String} (reports : Reports validate fields)
    (nodup : fields.Nodup) {row row' : Row} {failed failed' : List String}
    (keys : (row.map Prod.fst).Perm (row'.map Prod.fst))
    (fails : validate row = .error failed)
    (fails' : validate row' = .error failed')
    (same : ∀ path, path ∈ failed ↔ path ∈ failed') :
    (failedFields failed).length = (failedFields failed').length ∧
      (failedFields failed = failedFields failed' ↔
        undeclared fields row = undeclared fields row') := by
  rcases reports row failed fails with ⟨checks, isFields, rfl⟩
  rcases reports row' failed' fails' with ⟨checks', isFields', rfl⟩
  have declared := @declared_failures checks (by rwa [isFields]) row
  have declared' := @declared_failures checks' (by rwa [isFields']) row'
  have extras := @perm_extras fields row row' keys
  simp only [same] at declared
  rw [isFields, ← isFields', ← declared'] at declared
  rw [failures, failures, declared, isFields, isFields']
  exact ⟨length_failedFields_perm (extras.append_left _),
    failedFields_append_inj _ extras⟩

/-! ## The message as a whole -/

theorem toolExecutionError_inj {py : PyText} {message message' : String} :
    toolExecutionError py message = toolExecutionError py message' ↔
      message = message' := by
  constructor
  · intro same
    have text := congrArg Exc.str same
    exact Except.ok.inj text
  · rintro rfl
    rfl

theorem get?_isSome_iff (row : Row) (key : String) :
    (Json.get? row key).isSome = true ↔ key ∈ row.map Prod.fst := by
  rw [Json.get?, Option.isSome_map, List.find?_isSome, List.mem_map]
  simp only [beq_iff_eq]

/-- The locators are the same exactly when the id fields print alike. -/
theorem locatorFor_iff
    (py : PyText) (noun idField userId : String) {row row' : Row}
    (keys : (row.map Prod.fst).Perm (row'.map Prod.fst)) :
    locatorFor py noun idField userId row =
        locatorFor py noun idField userId row' ↔
      PrintsAlike py idField row row' := by
  have present : (Json.get? row idField).isSome =
      (Json.get? row' idField).isSome := by
    rw [Bool.eq_iff_iff, get?_isSome_iff, get?_isSome_iff]
    exact keys.mem_iff
  rw [locatorFor, locatorFor, PrintsAlike]
  cases here : Json.get? row idField with
  | none =>
      cases there : Json.get? row' idField with
      | none => simp
      | some value' => simp [here, there] at present
  | some value =>
      cases there : Json.get? row' idField with
      | none => simp [here, there] at present
      | some value' =>
          simp only [Option.map_some, Option.some.injEq, String.append_assoc]
          constructor
          · intro same
            have lists := congrArg String.toList same
            simp only [String.toList_append, List.append_cancel_left_eq,
              List.append_cancel_right_eq] at lists
            exact String.toList_injective lists
          · intro same
            rw [same]

/-- The row is validated under its locator. -/
def reported {R : Type} (py : PyText) (noun idField userId : String)
    (validate : Row → Except (List String) R) (row : Row) : Except Exc R :=
  validated py (locatorFor py noun idField userId row)
    (validate (withoutOwner row))

theorem perm_withoutOwner
    {row row' : Row} (keys : (row.map Prod.fst).Perm (row'.map Prod.fst)) :
    ((withoutOwner row).map Prod.fst).Perm
      ((withoutOwner row').map Prod.fst) := by
  have kept : ∀ other : Row, (withoutOwner other).map Prod.fst =
      (other.map Prod.fst).filter fun key => key != filterKey := by
    intro other
    rw [withoutOwner, List.filter_map]
    rfl
  rw [kept, kept]
  exact keys.filter _

/-- The two rows are reported alike exactly when these two texts agree. -/
theorem reported_iff
    (py : PyText) {R : Type} {validate : Row → Except (List String) R}
    {fields : List String} (reports : Reports validate fields)
    (nodup : fields.Nodup) (noun idField userId : String)
    {row row' : Row}
    (matching : Matching (fun row => validate (withoutOwner row)) row row') :
    reported py noun idField userId validate row =
        reported py noun idField userId validate row' ↔
      PrintsAlike py idField row row' ∧
        undeclared fields (withoutOwner row) =
          undeclared fields (withoutOwner row') := by
  rcases matching.fails with ⟨failed, failed', fails, fails', same, -⟩
  have lists := failedFields_iff reports nodup
    (perm_withoutOwner matching.keys) fails fails' same
  rw [reported, reported, fails, fails', validated, validated,
    Except.error.injEq, toolExecutionError_inj,
    append_right_inj_of_length lists.1, lists.2,
    append_right_inj_of_length rfl, and_iff_left rfl,
    locatorFor_iff py noun idField userId matching.keys]

/-! ## The answer of a tool -/

/-- The rows of the user, with one of them in place. -/
theorem ownRows_around
    {userId : String} {row : Row} (own : belongsTo userId row = true)
    (before after : List Row) :
    ownRows userId (before ++ row :: after) =
      ownRows userId before ++ row :: ownRows userId after := by
  rw [ownRows, List.filter_append, List.filter_cons_of_pos own]
  rfl

theorem mapM_around
    {ε α β : Type} {f : α → Except ε β} {item item' : α}
    (same : f item = f item') (before after : List α) :
    (before ++ item :: after).mapM f = (before ++ item' :: after).mapM f := by
  rw [List.mapM_append, List.mapM_append, List.mapM_cons, List.mapM_cons,
    same]

section

variable {py : PyText} {R : Type} {validate : Row → Except (List String) R}
variable {userId : String} {row row' : Row}

theorem collection_same
    (own : belongsTo userId row = true) (own' : belongsTo userId row' = true)
    {noun idField : String}
    (same : reported py noun idField userId validate row =
      reported py noun idField userId validate row')
    (fixtures : Fixtures) (filename : String) (sortKey : R → DateTime)
    (before after : List Row) :
    collection py fixtures validate filename
        (fileOf (before ++ row :: after)) userId noun idField sortKey =
      collection py fixtures validate filename
        (fileOf (before ++ row' :: after)) userId noun idField sortKey := by
  have mapped :
      (ownRows userId before ++ row :: ownRows userId after).mapM
          (fun row => validated py (locatorFor py noun idField userId row)
            (validate (row.filter fun entry => entry.1 != filterKey))) =
        (ownRows userId before ++ row' :: ownRows userId after).mapM
          fun row => validated py (locatorFor py noun idField userId row)
            (validate (row.filter fun entry => entry.1 != filterKey)) :=
    mapM_around same _ _
  simp only [collection, rowsFor_fileOf, ownRows_around own,
    ownRows_around own', bind, Except.bind]
  cases getUser py fixtures userId with
  | error exc => rfl
  | ok user =>
      have some : ∀ other : Row, (ownRows userId before ++
          other :: ownRows userId after).isEmpty = false := by
        intro other
        cases ownRows userId before <;> rfl
      simp only [some, Bool.false_eq_true, if_false, mapped]

/-- A users file with a valid row for the user. -/
def usersWith (userId : String) : FileContent :=
  fileOf
    [[("user_id", .string userId), ("name", .string ""),
      ("language", .string ""), ("plan", .string "")]]

theorem getUser_usersWith (fixtures : Fixtures) (userId : String) :
    getUser py { fixtures with users := usersWith userId } userId =
      .ok { userId, name := "", language := "", plan := "" } := by
  have own : belongsTo userId
      [("user_id", .string userId), ("name", .string ""),
        ("language", .string ""), ("plan", .string "")] = true := by
    simp [belongsTo, Json.get?, filterKey]
  have isOwn := @ownRows_around userId _ own [] []
  rw [List.nil_append] at isOwn
  simp only [getUser, usersWith, rowsFor_fileOf, isOwn, bind, Except.bind]
  rfl

/-- With the row alone in the file, the answer is how it is reported. -/
theorem collection_alone
    (own : belongsTo userId row = true) {failed : List String}
    (fails : validate (withoutOwner row) = .error failed)
    {fixtures : Fixtures} {user : User}
    (known : getUser py fixtures userId = .ok user)
    (filename noun idField : String) (sortKey : R → DateTime) :
    collection py fixtures validate filename (fileOf [row]) userId noun
        idField sortKey =
      (reported py noun idField userId validate row).map fun record =>
        [record] := by
  have isOwn : ownRows userId [row] = [row] := by
    simp [ownRows, own]
  rw [reported, fails]
  rw [withoutOwner] at fails
  simp only [collection, known, rowsFor_fileOf, isOwn, bind, Except.bind]
  simp only [List.isEmpty_cons, Bool.false_eq_true, if_false,
    List.mapM_cons, fails, validated]
  rfl

theorem getUser_same
    (own : belongsTo userId row = true) (own' : belongsTo userId row' = true)
    (same : validated py ("user " ++ userId) (validateUser row) =
      validated py ("user " ++ userId) (validateUser row'))
    (fixtures : Fixtures) (before after : List Row) :
    getUser py { fixtures with users := fileOf (before ++ row :: after) }
        userId =
      getUser py { fixtures with users := fileOf (before ++ row' :: after) }
        userId := by
  simp only [getUser, rowsFor_fileOf, ownRows_around own,
    ownRows_around own', bind, Except.bind]
  cases ownRows userId before with
  | nil => exact same
  | cons first rest => rfl

theorem getUser_alone
    (own : belongsTo userId row = true) (fixtures : Fixtures) :
    getUser py { fixtures with users := fileOf [row] } userId =
      validated py ("user " ++ userId) (validateUser row) := by
  have isOwn : ownRows userId [row] = [row] := by
    simp [ownRows, own]
  simp only [getUser, rowsFor_fileOf, isOwn, bind, Except.bind]

end

/-! ## Exactly when two rows are reported alike -/

/-- Whatever else the three files hold, the rows cannot be told apart. -/
def Indistinguishable {A : Type} (answer : Fixtures → Except Exc A)
    (place : Fixtures → FileContent → Fixtures) (row row' : Row) : Prop :=
  ∀ fixtures before after,
    answer (place fixtures (fileOf (before ++ row :: after))) =
      answer (place fixtures (fileOf (before ++ row' :: after)))

def placeUsers (fixtures : Fixtures) (content : FileContent) : Fixtures :=
  { fixtures with users := content }

def placeSessions (fixtures : Fixtures) (content : FileContent) : Fixtures :=
  { fixtures with sessions := content }

def placeInvoices (fixtures : Fixtures) (content : FileContent) : Fixtures :=
  { fixtures with invoices := content }

/-- Three files that cannot be read. -/
def unreadable : Fixtures where
  users := .osError
  sessions := .osError
  invoices := .osError

theorem user_indistinguishable_iff
    (py : PyText) {userId : String} {row row' : Row}
    (own : belongsTo userId row = true) (own' : belongsTo userId row' = true)
    (matching : Matching validateUser row row') :
    Indistinguishable (fun fixtures => getUser py fixtures userId) placeUsers
        row row' ↔
      undeclared userFields row = undeclared userFields row' := by
  rcases matching.fails with ⟨failed, failed', fails, fails', same, -⟩
  have lists := failedFields_iff reports_user (by decide) matching.keys fails
    fails' same
  have messages :
      validated py ("user " ++ userId) (validateUser row) =
          validated py ("user " ++ userId) (validateUser row') ↔
        undeclared userFields row = undeclared userFields row' := by
    rw [fails, fails', validated, validated, Except.error.injEq,
      toolExecutionError_inj, append_right_inj_of_length lists.1, lists.2,
      and_iff_right rfl]
  rw [← messages]
  constructor
  · intro alike
    have answers := alike unreadable [] []
    exact (getUser_alone own unreadable).symm.trans
      (answers.trans (getUser_alone own' unreadable))
  · intro same fixtures before after
    exact getUser_same own own' same fixtures before after

/-- A collection cannot tell the rows apart, wherever its file is kept. -/
theorem collection_indistinguishable_iff
    (py : PyText) {R : Type} {validate : Row → Except (List String) R}
    {fields : List String} (reports : Reports validate fields)
    (nodup : fields.Nodup) (filename noun idField : String)
    (sortKey : R → DateTime) {userId : String} {row row' : Row}
    (own : belongsTo userId row = true) (own' : belongsTo userId row' = true)
    (matching : Matching (fun row => validate (withoutOwner row)) row row') :
    (∀ fixtures before after,
      collection py fixtures validate filename
          (fileOf (before ++ row :: after)) userId noun idField sortKey =
        collection py fixtures validate filename
          (fileOf (before ++ row' :: after)) userId noun idField sortKey) ↔
      PrintsAlike py idField row row' ∧
        undeclared fields (withoutOwner row) =
          undeclared fields (withoutOwner row') := by
  rw [← reported_iff py reports nodup noun idField userId matching]
  rcases matching.fails with ⟨failed, failed', fails, fails', -, -⟩
  constructor
  · intro alike
    have known := @getUser_usersWith py unreadable userId
    have answers := alike { unreadable with users := usersWith userId } [] []
    rw [List.nil_append, List.nil_append, collection_alone own fails known,
      collection_alone own' fails' known] at answers
    rw [reported, reported, fails, fails'] at answers ⊢
    exact congrArg Except.error (Except.error.inj answers)
  · intro same fixtures before after
    exact collection_same own own' same fixtures filename sortKey before after

/--
Two matching rows are reported with the same message exactly when their id
fields print alike and their undeclared keys are listed alike.
-/
theorem indistinguishable_iff
    (py : PyText) (pydantic : Pydantic) (userId : String) (row row' : Row)
    (own : belongsTo userId row = true)
    (own' : belongsTo userId row' = true) :
    (Matching validateUser row row' →
      (Indistinguishable (fun fixtures => getUser py fixtures userId)
          placeUsers row row' ↔
        undeclared userFields row = undeclared userFields row')) ∧
    (Matching (fun row => validateSession pydantic (withoutOwner row))
        row row' →
      (Indistinguishable
          (fun fixtures => getChargingSessions py pydantic fixtures userId)
          placeSessions row row' ↔
        PrintsAlike py "session_id" row row' ∧
          undeclared sessionFields (withoutOwner row) =
            undeclared sessionFields (withoutOwner row'))) ∧
    (Matching (fun row => validateInvoice pydantic (withoutOwner row))
        row row' →
      (Indistinguishable
          (fun fixtures => getInvoices py pydantic fixtures userId)
          placeInvoices row row' ↔
        PrintsAlike py "invoice_id" row row' ∧
          undeclared invoiceFields (withoutOwner row) =
            undeclared invoiceFields (withoutOwner row'))) := by
  refine ⟨?_, ?_, ?_⟩
  · exact user_indistinguishable_iff py own own'
  · exact collection_indistinguishable_iff py (reports_session pydantic)
      (by decide) "sessions.json" "charging session" "session_id"
      ChargingSession.startedAt own own'
  · exact collection_indistinguishable_iff py (reports_invoice pydantic)
      (by decide) "invoices.json" "invoice" "invoice_id"
      Invoice.issuedAt own own'

/-! ## Two invoices with an amount, and two with an id, that is no such thing -/

/-- An invoice with the given id and amount. -/
def oddInvoice (invoiceId amount : Json) : Row :=
  [("invoice_id", invoiceId), ("user_id", .string "u_006"),
    ("amount", amount), ("currency", .string "EUR"),
    ("status", .string "paid"), ("issued_at", .int 1)]

theorem amounts_matching :
    Matching (fun row => validateInvoice plainPydantic (withoutOwner row))
      (oddInvoice (.string "inv_601") (.string "forty-two euros"))
      (oddInvoice (.string "inv_601") .null) := by
  refine ⟨List.Perm.refl _, ["amount"], ["amount"], rfl, rfl,
    fun _ => Iff.rfl, ?_⟩
  intro key valid
  have other : ("amount" == key) = false := by
    rw [beq_eq_false_iff_ne]
    rintro rfl
    exact valid List.mem_cons_self
  simp only [oddInvoice, Json.get?, List.find?_cons, other]

/-- The amount of an invoice is not in the message. -/
theorem indistinguishable_amounts :
    Indistinguishable
      (fun fixtures => getInvoices asciiText plainPydantic fixtures "u_006")
      placeInvoices
      (oddInvoice (.string "inv_601") (.string "forty-two euros"))
      (oddInvoice (.string "inv_601") .null) :=
  ((indistinguishable_iff asciiText plainPydantic "u_006" _ _ rfl rfl).2.2
    amounts_matching).mpr ⟨rfl, rfl⟩

theorem ids_matching :
    Matching (fun row => validateInvoice plainPydantic (withoutOwner row))
      (oddInvoice (.int 1) (.string "12.50"))
      (oddInvoice (.int 2) (.string "12.50")) := by
  refine ⟨List.Perm.refl _, ["invoice_id"], ["invoice_id"], rfl, rfl,
    fun _ => Iff.rfl, ?_⟩
  intro key valid
  have other : ("invoice_id" == key) = false := by
    rw [beq_eq_false_iff_ne]
    rintro rfl
    exact valid List.mem_cons_self
  simp only [oddInvoice, Json.get?, List.find?_cons, other]

/-- An id that is no text is printed in the message. -/
theorem ids_told_apart :
    Matching (fun row => validateInvoice plainPydantic (withoutOwner row))
        (oddInvoice (.int 1) (.string "12.50"))
        (oddInvoice (.int 2) (.string "12.50")) ∧
      ¬ Indistinguishable
        (fun fixtures => getInvoices asciiText plainPydantic fixtures "u_006")
        placeInvoices
        (oddInvoice (.int 1) (.string "12.50"))
        (oddInvoice (.int 2) (.string "12.50")) := by
  constructor
  · exact ids_matching
  · intro alike
    have answers := alike { unreadable with users := usersWith "u_006" } [] []
    have one : getInvoices asciiText plainPydantic
        (placeInvoices { unreadable with users := usersWith "u_006" }
          (fileOf ([] ++ [oddInvoice (.int 1) (.string "12.50")]))) "u_006" =
          .error (toolExecutionError asciiText
            "invoice 1 for u_006 failed validation: invoice_id") := by
      rfl
    have two : getInvoices asciiText plainPydantic
        (placeInvoices { unreadable with users := usersWith "u_006" }
          (fileOf ([] ++ [oddInvoice (.int 2) (.string "12.50")]))) "u_006" =
          .error (toolExecutionError asciiText
            "invoice 2 for u_006 failed validation: invoice_id") := by
      rfl
    have same := one.symm.trans (answers.trans two)
    rw [Except.error.injEq, toolExecutionError_inj] at same
    exact absurd same (by decide)

end SupportAssistant.Tools.Messages
