import SupportAssistant.Runtime.Ascii
import SupportAssistant.Tools.Rows

/-!
# What a collection tool may answer

The answers that the documentation of the typed failures allows, in the order
in which the files are consulted, and exactly when a tool keeps to them.  Two
things escape: what reading a file raises beside the two errors that are
caught, and the comparison of timestamps of which only some have an offset.
-/

namespace SupportAssistant.Tools.Specification

open SupportAssistant.Effects.Mapping
open SupportAssistant.Ordering.Latest
open SupportAssistant.Runtime
open SupportAssistant.Runtime.Ascii
open SupportAssistant.Domain
open SupportAssistant.Tools.Loaders
open SupportAssistant.Tools.Rows

/-! ## The specification -/

/-- The file is no array of objects, or cannot be read at all. -/
def Malformed (content : FileContent) : Prop :=
  ∀ rows, content ≠ fileOf rows

/-- The rows of the user in the users file begin with a valid one. -/
def Known (users : FileContent) (userId : String) : Prop :=
  ∃ rows row rest user, users = fileOf rows ∧
    ownRows userId rows = row :: rest ∧ validateUser row = .ok user

section

variable {R : Type}

/-- The timestamps can be compared, and the second is not the later one. -/
def NotLater (first second : DateTime) : Prop :=
  first.aware = second.aware ∧ second.instant ≤ first.instant

/-- The records, newest first, and as in the file where they are as old. -/
structure NewestFirst (sortKey : R → DateTime) (valid records : List R) :
    Prop where
  permutation : records.Perm valid
  ordered : records.Pairwise fun first second =>
    NotLater (sortKey first) (sortKey second)
  stable : ∀ instant,
    records.filter (fun record => (sortKey record).instant = instant) =
      valid.filter fun record => (sortKey record).instant = instant

/-- The records of the rows of a user, in the order of the file. -/
def Validated (validate : Row → Except (List String) R) (userId : String)
    (rows : List Row) (valid : List R) : Prop :=
  List.Forall₂ (fun row record => validate (withoutOwner row) = .ok record)
    (ownRows userId rows) valid

/-- The answers that a collection tool may give. -/
inductive Specified (py : PyText) (validate : Row → Except (List String) R)
    (sortKey : R → DateTime) (users content : FileContent)
    (userId : String) : Except Exc (List R) → Prop where
  | usersMalformed (message : String)
      (malformed : Malformed users) :
      Specified py validate sortKey users content userId
        (.error (toolExecutionError py message))
  | userNotFound (message : String) {rows : List Row}
      (read : users = fileOf rows)
      (none : ownRows userId rows = []) :
      Specified py validate sortKey users content userId
        (.error (userNotFound py message))
  | userInvalid (message : String)
      {rows : List Row} {row : Row} {rest : List Row} {failed : List String}
      (read : users = fileOf rows)
      (found : ownRows userId rows = row :: rest)
      (invalid : validateUser row = .error failed) :
      Specified py validate sortKey users content userId
        (.error (toolExecutionError py message))
  | malformed (message : String)
      (known : Known users userId) (malformed : Malformed content) :
      Specified py validate sortKey users content userId
        (.error (toolExecutionError py message))
  | noDataAvailable (message : String) {rows : List Row}
      (known : Known users userId) (read : content = fileOf rows)
      (none : ownRows userId rows = []) :
      Specified py validate sortKey users content userId
        (.error (noDataAvailable py message))
  | invalid (message : String)
      {rows : List Row} {row : Row} {failed : List String}
      (known : Known users userId) (read : content = fileOf rows)
      (own : row ∈ ownRows userId rows)
      (invalid : validate (withoutOwner row) = .error failed) :
      Specified py validate sortKey users content userId
        (.error (toolExecutionError py message))
  | records {rows : List Row} {valid records : List R}
      (known : Known users userId) (read : content = fileOf rows)
      (some : ownRows userId rows ≠ [])
      (validated : Validated validate userId rows valid)
      (sorted : NewestFirst sortKey valid records) :
      Specified py validate sortKey users content userId (.ok records)

/-! ## When a tool keeps to it -/

/-- Reading the file raises nothing but what is caught, or a tool failure. -/
def Caught (py : PyText) (content : FileContent) : Prop :=
  ∀ exc, content = .otherError exc →
    ∃ message, exc = toolExecutionError py message

/-- The timestamps are all aware or all naive. -/
def Alike (sortKey : R → DateTime) (valid : List R) : Prop :=
  ∀ first ∈ valid, ∀ second ∈ valid,
    (sortKey first).aware = (sortKey second).aware

/-- Nothing escapes from the files that are read, or from the sort. -/
structure Contained (py : PyText)
    (validate : Row → Except (List String) R) (sortKey : R → DateTime)
    (users content : FileContent) (userId : String) : Prop where
  usersCaught : Caught py users
  contentCaught : Known users userId → Caught py content
  alike : Known users userId → ∀ rows valid,
    content = fileOf rows → Validated validate userId rows valid →
      Alike sortKey valid

/-! ## Reading a file -/

variable {py : PyText}

theorem mapM_isObject {items : List Json} {rows : List Row}
    (objects : items.mapM isObject = some rows) :
    items = rows.map .object := by
  induction items generalizing rows with
  | nil =>
      cases objects
      rfl
  | cons item items induction =>
      rw [List.mapM_cons] at objects
      cases item with
      | object entries =>
          cases later : items.mapM isObject with
          | none => simp [isObject, later] at objects
          | some rest =>
              have isRows : entries :: rest = rows := by
                simpa [isObject, later] using objects
              rw [← isRows, induction later]
              rfl
      | _ => simp [isObject] at objects

theorem readRows_ok
    {filename : String} {content : FileContent} {rows : List Row}
    (read : readRows py filename content = .ok rows) :
    content = fileOf rows := by
  cases content with
  | parsed value =>
      cases value with
      | list items =>
          cases objects : items.mapM isObject with
          | none => simp [readRows, objects] at read
          | some found =>
              have isRows : found = rows := by
                simpa [readRows, objects] using read
              rw [fileOf, ← isRows, mapM_isObject objects]
      | _ => simp [readRows] at read
  | _ => simp [readRows] at read

/-- A file that is not read is malformed; what is raised is not caught only
if the file raised it. -/
theorem readRows_error
    {filename : String} {content : FileContent} {exc : Exc}
    (read : readRows py filename content = .error exc) :
    Malformed content ∧
      (Caught py content ↔ ∃ message, exc = toolExecutionError py message) := by
  constructor
  · rintro rows rfl
    simp [readRows_fileOf] at read
  · cases content with
    | otherError other =>
        have same : other = exc := Except.error.inj read
        subst same
        constructor
        · intro caught
          exact caught other rfl
        · intro isFailure exc isOther
          cases isOther
          exact isFailure
    | osError =>
        exact ⟨fun _ => ⟨_, (Except.error.inj read).symm⟩,
          fun _ _ isOther => by simp at isOther⟩
    | jsonDecodeError =>
        exact ⟨fun _ => ⟨_, (Except.error.inj read).symm⟩,
          fun _ _ isOther => by simp at isOther⟩
    | parsed value =>
        refine ⟨fun _ => ?_, fun _ _ isOther => by simp at isOther⟩
        cases value with
        | list items =>
            cases objects : items.mapM isObject with
            | none =>
                simp only [readRows, objects, Except.error.injEq] at read
                exact ⟨_, read.symm⟩
            | some rows => simp [readRows, objects] at read
        | _ => exact ⟨_, (Except.error.inj read).symm⟩

theorem caught_fileOf (rows : List Row) : Caught py (fileOf rows) := by
  intro exc isOther
  simp [fileOf] at isOther

theorem fileOf_injective {rows other : List Row}
    (same : fileOf rows = fileOf other) : rows = other := by
  have read := congrArg (readRows Ascii.asciiText "") same
  simpa only [readRows_fileOf, Except.ok.injEq] using read

theorem not_known_of_malformed
    {users : FileContent} {userId : String} (malformed : Malformed users) :
    ¬ Known users userId := by
  rintro ⟨rows, -, -, -, read, -⟩
  exact malformed rows read

/-! ## The user -/

variable {fixtures : Fixtures} {userId : String}

/-- How looking up the user ends. -/
inductive Lookup (py : PyText) (users : FileContent) (userId : String) :
    Except Exc User → Prop where
  | malformed {exc : Exc} (isMalformed : Malformed users)
      (caught : Caught py users ↔
        ∃ message, exc = toolExecutionError py message) :
      Lookup py users userId (.error exc)
  | missing (message : String) {rows : List Row}
      (read : users = fileOf rows) (none : ownRows userId rows = []) :
      Lookup py users userId (.error (userNotFound py message))
  | invalid (message : String)
      {rows : List Row} {row : Row} {rest : List Row} {failed : List String}
      (read : users = fileOf rows)
      (found : ownRows userId rows = row :: rest)
      (invalid : validateUser row = .error failed) :
      Lookup py users userId (.error (toolExecutionError py message))
  | found {user : User} (known : Known users userId)
      (caught : Caught py users) :
      Lookup py users userId (.ok user)

theorem getUser_lookup :
    Lookup py fixtures.users userId (getUser py fixtures userId) := by
  cases read : readRows py "users.json" fixtures.users with
  | error exc =>
      have malformed := readRows_error read
      simp only [getUser, rowsFor, read, bind, Except.bind]
      exact .malformed malformed.1 malformed.2
  | ok rows =>
      have isFile := readRows_ok read
      simp only [getUser, rowsFor, read, bind, Except.bind]
      cases own : rows.filter (belongsTo userId) with
      | nil => exact .missing _ isFile own
      | cons row rest =>
          cases valid : validateUser row with
          | error failed =>
              simp only [valid, validated]
              exact .invalid _ isFile own valid
          | ok user =>
              simp only [valid, validated]
              refine .found ⟨rows, row, rest, user, isFile, own, valid⟩ ?_
              rw [isFile]
              exact caught_fileOf rows

/-! ## The records -/

variable {validate : Row → Except (List String) R} {sortKey : R → DateTime}

theorem newestFirst_latestFirst
    {records : List R} (alike : Alike sortKey records) :
    NewestFirst sortKey records
      (latestFirst (fun record => (sortKey record).instant) records) where
  permutation := List.perm_insertionSort _ _
  ordered := by
    apply (pairwise_latestFirst records).imp_of_mem
    intro first second isFirst isSecond notLater
    have sameItems := List.perm_insertionSort
      (fun first second : R =>
        (sortKey second).instant ≤ (sortKey first).instant) records
    exact ⟨alike first (sameItems.mem_iff.mp isFirst) second
      (sameItems.mem_iff.mp isSecond), notLater⟩
  stable := fun instant => filter_latestFirst instant records

theorem newestFirst_mixed
    {records : List R} (mixed : ¬ Alike sortKey records) :
    newestFirst py sortKey records =
      .error (typeError py
        "can't compare offset-naive and offset-aware datetimes") := by
  apply if_neg
  intro sorted
  apply mixed
  rw [Bool.or_eq_true, List.all_eq_true, List.all_eq_true] at sorted
  intro first isFirst second isSecond
  rcases sorted with aware | naive
  · rw [aware first isFirst, aware second isSecond]
  · have isNaive := naive first isFirst
    have isNaiveToo := naive second isSecond
    rw [Bool.not_eq_true'] at isNaive isNaiveToo
    rw [isNaive, isNaiveToo]

/-- Of the failures, all but those of a tool say what was not found. -/
theorem specified_error
    {users content : FileContent} {exc : Exc}
    (specified : Specified py validate sortKey users content userId
      (.error exc)) :
    (∃ message, exc = toolExecutionError py message) ∨
      (∃ message rows, exc = userNotFound py message ∧
        users = fileOf rows ∧ ownRows userId rows = []) ∨
        ∃ message rows, exc = noDataAvailable py message ∧
          Known users userId ∧ content = fileOf rows := by
  cases specified with
  | usersMalformed message => exact Or.inl ⟨message, rfl⟩
  | userNotFound message read none =>
      exact Or.inr (Or.inl ⟨message, _, rfl, read, none⟩)
  | userInvalid message => exact Or.inl ⟨message, rfl⟩
  | malformed message => exact Or.inl ⟨message, rfl⟩
  | noDataAvailable message known read =>
      exact Or.inr (Or.inr ⟨message, _, rfl, known, read⟩)
  | invalid message => exact Or.inl ⟨message, rfl⟩

theorem not_specified_typeError
    {users content : FileContent} (message : String) :
    ¬ Specified py validate sortKey users content userId
      (.error (typeError py message)) := by
  intro specified
  rcases specified_error specified with
    ⟨other, same⟩ | ⟨other, rows, same, -⟩ | ⟨other, rows, same, -⟩ <;>
    · have name := congrArg Exc.name same
      simp [typeError, toolExecutionError, userNotFound, noDataAvailable,
        Exc.plain, Exc.name] at name

/-! ## Exactly when a collection tool keeps to the specification -/

variable {content : FileContent}

/-- What the tool answers for a user that is known. -/
inductive Answer (py : PyText) (validate : Row → Except (List String) R)
    (sortKey : R → DateTime) (content : FileContent) (userId : String) :
    Except Exc (List R) → Prop where
  | malformed {exc : Exc} (isMalformed : Malformed content)
      (caught : Caught py content ↔
        ∃ message, exc = toolExecutionError py message) :
      Answer py validate sortKey content userId (.error exc)
  | none (message : String) {rows : List Row}
      (read : content = fileOf rows) (none : ownRows userId rows = []) :
      Answer py validate sortKey content userId
        (.error (noDataAvailable py message))
  | invalid (message : String)
      {rows : List Row} {row : Row} {failed : List String}
      (read : content = fileOf rows) (own : row ∈ ownRows userId rows)
      (invalid : validate (withoutOwner row) = .error failed) :
      Answer py validate sortKey content userId
        (.error (toolExecutionError py message))
  | records {rows : List Row} {valid : List R}
      (read : content = fileOf rows) (some : ownRows userId rows ≠ [])
      (validated : Validated validate userId rows valid) :
      Answer py validate sortKey content userId
        (newestFirst py sortKey valid)

theorem collection_answer
    {filename noun idField : String} {user : User}
    (known : getUser py fixtures userId = .ok user) :
    Answer py validate sortKey content userId
      (collection py fixtures validate filename content userId noun idField
        sortKey) := by
  cases read : readRows py filename content with
  | error exc =>
      have malformed := readRows_error read
      simp only [collection, known, rowsFor, read, bind, Except.bind]
      exact .malformed malformed.1 malformed.2
  | ok rows =>
      have isFile := readRows_ok read
      simp only [collection, known, rowsFor, read, bind, Except.bind]
      by_cases none : ownRows userId rows = []
      · rw [ownRows] at none
        rw [none, List.isEmpty_nil, if_pos rfl]
        exact .none _ isFile none
      · have notEmpty : (rows.filter (belongsTo userId)).isEmpty = false := by
          simpa [ownRows] using none
        rw [notEmpty, if_neg Bool.false_ne_true]
        cases mapped : (ownRows userId rows).mapM fun row =>
            validated py (locatorFor py noun idField userId row)
              (validate (withoutOwner row)) with
        | error exc =>
            rcases mapM_error mapped with ⟨row, own, isError⟩
            cases valid : validate (withoutOwner row) with
            | ok record => simp [valid, validated] at isError
            | error failed =>
                rw [valid, validated, Except.error.injEq] at isError
                rw [ownRows] at mapped
                simp only [withoutOwner] at mapped
                rw [mapped, ← isError]
                exact .invalid _ isFile own valid
        | ok records =>
            have isValid : Validated validate userId rows records :=
              (mapM_ok_iff_forall₂.mp mapped).imp fun _ _ valid =>
                Ownership.validated_ok valid
            rw [ownRows] at mapped
            simp only [withoutOwner] at mapped
            rw [mapped]
            exact .records isFile none isValid

/-- A user whose rows are other than these is not known. -/
theorem known_fileOf_iff {rows : List Row} :
    Known (fileOf rows) userId ↔
      ∃ row rest user, ownRows userId rows = row :: rest ∧
        validateUser row = .ok user := by
  constructor
  · rintro ⟨other, row, rest, user, same, found, valid⟩
    rw [fileOf_injective same]
    exact ⟨row, rest, user, found, valid⟩
  · rintro ⟨row, rest, user, found, valid⟩
    exact ⟨rows, row, rest, user, rfl, found, valid⟩

theorem contained_of_not_known
    {users : FileContent} (caught : Caught py users)
    (unknown : ¬ Known users userId) :
    Contained py validate sortKey users content userId where
  usersCaught := caught
  contentCaught := fun known => absurd known unknown
  alike := fun known => absurd known unknown

theorem validated_unique
    {rows : List Row} {valid other : List R}
    (isValid : Validated validate userId rows valid)
    (isValidToo : Validated validate userId rows other) :
    valid = other := by
  rw [Validated, ← mapM_ok_iff_forall₂] at isValid isValidToo
  exact Except.ok.inj (isValid.symm.trans isValidToo)

theorem not_validated
    {rows : List Row} {row : Row} {failed : List String}
    (own : row ∈ ownRows userId rows)
    (invalid : validate (withoutOwner row) = .error failed)
    (valid : List R) :
    ¬ Validated validate userId rows valid := by
  intro isValid
  have each := mapM_ok_iff.mp ⟨valid, mapM_ok_iff_forall₂.mpr isValid⟩
  rcases each row own with ⟨record, isRecord⟩
  rw [invalid] at isRecord
  cases isRecord

/-- For a known user, the answer is specified if nothing escapes. -/
theorem answer_specified_iff
    {users : FileContent} (known : Known users userId)
    (usersCaught : Caught py users) {answer : Except Exc (List R)}
    (isAnswer : Answer py validate sortKey content userId answer) :
    Specified py validate sortKey users content userId answer ↔
      Contained py validate sortKey users content userId := by
  cases isAnswer with
  | malformed isMalformed caught =>
      constructor
      · intro specified
        have isFailure := specified_error specified
        refine ⟨usersCaught, fun _ => caught.mpr ?_,
          fun _ rows _ read => absurd read (isMalformed rows)⟩
        rcases isFailure with
          isFailure | ⟨-, rows, -, read, none⟩ | ⟨-, rows, -, -, read⟩
        · exact isFailure
        · rw [read, known_fileOf_iff, none] at known
          rcases known with ⟨row, rest, -, found, -⟩
          cases found
        · exact absurd read (isMalformed rows)
      · intro contained
        rcases caught.mp (contained.contentCaught known) with ⟨message, rfl⟩
        exact .malformed message known isMalformed
  | none message read none =>
      constructor
      · intro _
        subst read
        refine ⟨usersCaught, fun _ => caught_fileOf _, ?_⟩
        intro _ rows valid same isValid
        rw [fileOf_injective same] at none
        rw [Validated, none, List.forall₂_nil_left_iff] at isValid
        rw [isValid]
        intro first isFirst
        cases isFirst
      · intro _
        exact .noDataAvailable message known read none
  | invalid message read own invalid =>
      constructor
      · intro _
        subst read
        refine ⟨usersCaught, fun _ => caught_fileOf _, ?_⟩
        intro _ rows valid same isValid
        rw [fileOf_injective same] at own
        exact absurd isValid (not_validated own invalid valid)
      · intro _
        exact .invalid message known read own invalid
  | @records rows valid read some isValid =>
      by_cases alike : Alike sortKey valid
      · rw [newestFirst_comparable alike]
        constructor
        · intro _
          subst read
          refine ⟨usersCaught, fun _ => caught_fileOf _, ?_⟩
          intro _ other valid' same isValid'
          rw [← fileOf_injective same] at isValid'
          rw [← validated_unique isValid isValid']
          exact alike
        · intro _
          exact .records known read some isValid
            (newestFirst_latestFirst alike)
      · rw [newestFirst_mixed alike]
        constructor
        · intro specified
          exact absurd specified (not_specified_typeError _)
        · intro contained
          exact absurd (contained.alike known rows valid read isValid) alike

theorem collection_specified_iff (filename noun idField : String) :
    Specified py validate sortKey fixtures.users content userId
        (collection py fixtures validate filename content userId noun
          idField sortKey) ↔
      Contained py validate sortKey fixtures.users content userId := by
  have lookup := @getUser_lookup py fixtures userId
  cases looked : getUser py fixtures userId with
  | ok user =>
      rw [looked] at lookup
      cases lookup with
      | found known caught =>
          exact answer_specified_iff known caught (collection_answer looked)
  | error exc =>
      have isError : collection py fixtures validate filename content userId
          noun idField sortKey = .error exc := by
        simp only [collection, looked, bind, Except.bind]
      rw [looked] at lookup
      rw [isError]
      cases lookup with
      | malformed isMalformed caught =>
          constructor
          · intro specified
            apply contained_of_not_known
            · apply caught.mpr
              rcases specified_error specified with
                isFailure | ⟨-, rows, -, read, -⟩ | ⟨-, -, -, known, -⟩
              · exact isFailure
              · exact absurd read (isMalformed rows)
              · exact absurd known (not_known_of_malformed isMalformed)
            · exact not_known_of_malformed isMalformed
          · intro contained
            rcases caught.mp contained.usersCaught with ⟨message, rfl⟩
            exact .usersMalformed message isMalformed
      | missing message read none =>
          constructor
          · intro _
            rw [read]
            apply contained_of_not_known (caught_fileOf _)
            rw [known_fileOf_iff, none]
            rintro ⟨row, rest, -, found, -⟩
            cases found
          · intro _
            exact .userNotFound message read none
      | invalid message read found invalid =>
          constructor
          · intro _
            rw [read]
            apply contained_of_not_known (caught_fileOf _)
            rw [known_fileOf_iff, found]
            rintro ⟨row, rest, user, same, valid⟩
            rw [← (List.cons.inj same).1, invalid] at valid
            cases valid
          · intro _
            exact .userInvalid message read found invalid

end

/--
A collection tool keeps to the specification exactly when reading the files it
consults raises only what is caught, and the timestamps it sorts by are all
aware or all naive.
-/
theorem collections_specified_iff
    (py : PyText) (pydantic : Pydantic) (fixtures : Fixtures)
    (userId : String) :
    (Specified py (validateInvoice pydantic) Invoice.issuedAt
        fixtures.users fixtures.invoices userId
        (getInvoices py pydantic fixtures userId) ↔
      Contained py (validateInvoice pydantic) Invoice.issuedAt
        fixtures.users fixtures.invoices userId) ∧
    (Specified py (validateSession pydantic) ChargingSession.startedAt
        fixtures.users fixtures.sessions userId
        (getChargingSessions py pydantic fixtures userId) ↔
      Contained py (validateSession pydantic) ChargingSession.startedAt
        fixtures.users fixtures.sessions userId) :=
  ⟨collection_specified_iff _ _ _, collection_specified_iff _ _ _⟩

/-! ## Two invoices that cannot be sorted -/

/-- One text is a time without an offset, integers are times in UTC. -/
def offsetPydantic : Pydantic where
  decimal := plainPydantic.decimal
  datetime
    | .int seconds => some { wall := seconds * 1000000, offset := some 0 }
    | .string "2026-01-02T03:04:05" =>
        some { wall := 1767323045000000, offset := none }
    | _ => none
  report := plainPydantic.report

def mixedFixtures : Fixtures where
  users := fileOf
    [[("user_id", .string "u_001"), ("name", .string "Ana"),
      ("language", .string "en"), ("plan", .string "basic")]]
  sessions := fileOf []
  invoices := fileOf
    [[("user_id", .string "u_001"), ("invoice_id", .string "inv_1"),
        ("amount", .string "12.50"), ("currency", .string "EUR"),
        ("status", .string "paid"),
        ("issued_at", .string "2026-01-02T03:04:05")],
      [("user_id", .string "u_001"), ("invoice_id", .string "inv_2"),
        ("amount", .string "7.25"), ("currency", .string "EUR"),
        ("status", .string "paid"), ("issued_at", .int 1767323045)]]

/-- Each invoice is valid, and sorting the two raises. -/
theorem mixed_offsets_escape :
    ¬ Specified asciiText (validateInvoice offsetPydantic) Invoice.issuedAt
      mixedFixtures.users mixedFixtures.invoices "u_001"
      (getInvoices asciiText offsetPydantic mixedFixtures "u_001") := by
  have escapes :
      getInvoices asciiText offsetPydantic mixedFixtures "u_001" =
        .error (typeError asciiText
          "can't compare offset-naive and offset-aware datetimes") := by
    rfl
  rw [escapes]
  exact not_specified_typeError _

end SupportAssistant.Tools.Specification
