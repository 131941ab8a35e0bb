import SupportAssistant.Ordering.Latest
import SupportAssistant.Tools.Ownership

/-!
# The tools over tables of rows

When the three files parse as arrays of objects, what a tool answers is a
matter of the rows they hold for the user: whether there are any, whether they
validate, and in which order they come back.
-/

namespace SupportAssistant.Tools.Rows

open SupportAssistant.Effects.Mapping
open SupportAssistant.Ordering.Latest
open SupportAssistant.Runtime
open SupportAssistant.Domain
open SupportAssistant.Tools.Loaders

/-- The rows of the three files. -/
structure Tables where
  users : List Row
  sessions : List Row
  invoices : List Row

/-- A file that parses as an array of objects. -/
def fileOf (rows : List Row) : FileContent :=
  .parsed (.list (rows.map .object))

def Tables.fixtures (tables : Tables) : Fixtures where
  users := fileOf tables.users
  sessions := fileOf tables.sessions
  invoices := fileOf tables.invoices

/-- The rows of one user, in the order of the file. -/
def ownRows (userId : String) (rows : List Row) : List Row :=
  rows.filter (belongsTo userId)

/-- A row without the key it was found by. -/
def withoutOwner (row : Row) : Row :=
  row.filter fun entry => entry.1 != filterKey

/-- Any two records of the file have timestamps that can be compared. -/
def Comparable {R : Type} (validate : Row → Except (List String) R)
    (sortKey : R → DateTime) (rows : List Row) : Prop :=
  ∀ row ∈ rows, ∀ row' ∈ rows, ∀ record record',
    validate (withoutOwner row) = .ok record →
      validate (withoutOwner row') = .ok record' →
        (sortKey record).aware = (sortKey record').aware

/-- Timestamps that are all aware can be compared. -/
theorem comparable_of_aware
    {R : Type} {validate : Row → Except (List String) R}
    {sortKey : R → DateTime} {rows : List Row}
    (aware : (rows.all fun row =>
      match validate (withoutOwner row) with
      | .ok record => (sortKey record).aware
      | .error _ => true) = true) :
    Comparable validate sortKey rows := by
  have each : ∀ row ∈ rows, ∀ record,
      validate (withoutOwner row) = .ok record →
        (sortKey record).aware = true := by
    intro row member record valid
    have isAware := List.all_eq_true.mp aware row member
    rw [valid] at isAware
    exact isAware
  intro row member row' member' record record' valid valid'
  rw [each row member record valid, each row' member' record' valid']

section

variable {py : PyText}

theorem readRows_fileOf (filename : String) (rows : List Row) :
    readRows py filename (fileOf rows) = .ok rows := by
  have objects : (rows.map Json.object).mapM isObject = some rows := by
    induction rows with
    | nil => rfl
    | cons row rows induction =>
        rw [List.map_cons, List.mapM_cons, induction]
        rfl
  simp only [fileOf, readRows, objects]

theorem rowsFor_fileOf
    (filename : String) (rows : List Row) (userId : String) :
    rowsFor py filename (fileOf rows) userId = .ok (ownRows userId rows) := by
  simp only [rowsFor, readRows_fileOf, bind, Except.bind, ownRows]

/-! ## The user -/

theorem getUser_missing
    {tables : Tables} {userId : String}
    (missing : ownRows userId tables.users = []) :
    getUser py tables.fixtures userId =
      .error (userNotFound py ("no user " ++ userId)) := by
  simp only [getUser, Tables.fixtures, rowsFor_fileOf, missing, bind,
    Except.bind]

theorem getUser_invalid
    {tables : Tables} {userId : String} {row : Row} {rows : List Row}
    {failed : List String}
    (found : ownRows userId tables.users = row :: rows)
    (invalid : validateUser row = .error failed) :
    ∃ message, getUser py tables.fixtures userId =
      .error (toolExecutionError py message) := by
  simp only [getUser, Tables.fixtures, rowsFor_fileOf, found, bind,
    Except.bind, invalid, validated]
  exact ⟨_, rfl⟩

theorem getUser_valid
    {tables : Tables} {userId : String} {row : Row} {rows : List Row}
    {user : User}
    (found : ownRows userId tables.users = row :: rows)
    (valid : validateUser row = .ok user) :
    getUser py tables.fixtures userId = .ok user := by
  simp only [getUser, Tables.fixtures, rowsFor_fileOf, found, bind,
    Except.bind, valid, validated]

/-! ## The collections -/

/-- Validating for a locator fails where validating fails. -/
theorem mapM_validated_error
    (py : PyText) {R : Type} {validate : Row → Except (List String) R}
    (locator : Row → String) {rows : List Row} {failed : List String}
    (invalid : rows.mapM validate = .error failed) :
    ∃ message,
      (rows.mapM fun row => validated py (locator row) (validate row)) =
        .error (toolExecutionError py message) := by
  cases ran : rows.mapM fun row =>
      validated py (locator row) (validate row) with
  | error exc =>
      rcases mapM_error ran with ⟨row, -, isError⟩
      cases isValid : validate row with
      | ok record => simp [validated, isValid] at isError
      | error paths =>
          rw [isValid] at isError
          exact ⟨_, congrArg Except.error (Except.error.inj isError).symm⟩
  | ok records =>
      have each := mapM_ok_iff.mp ⟨records, ran⟩
      rcases mapM_error invalid with ⟨row, member, isError⟩
      rcases each row member with ⟨record, valid⟩
      simp [isError, validated] at valid

theorem mapM_validated_ok
    (py : PyText) {R : Type} {validate : Row → Except (List String) R}
    (locator : Row → String) {rows : List Row} {records : List R}
    (valid : rows.mapM validate = .ok records) :
    (rows.mapM fun row => validated py (locator row) (validate row)) =
      .ok records := by
  rw [mapM_ok_iff_forall₂] at valid ⊢
  apply valid.imp
  intro row record isRecord
  rw [isRecord]
  rfl

theorem newestFirst_comparable
    {R : Type} {sortKey : R → DateTime} {records : List R}
    (alike : ∀ first ∈ records, ∀ second ∈ records,
      (sortKey first).aware = (sortKey second).aware) :
    newestFirst py sortKey records =
      .ok (latestFirst (fun record => (sortKey record).instant) records) := by
  have sorted :
      (records.all fun record => (sortKey record).aware) = true ∨
        (records.all fun record => !(sortKey record).aware) = true := by
    cases records with
    | nil => simp
    | cons first records =>
        have same := fun second member =>
          alike first List.mem_cons_self second member
        cases aware : (sortKey first).aware with
        | true =>
            left
            rw [List.all_eq_true]
            intro second member
            rw [← same second member, aware]
        | false =>
            right
            rw [List.all_eq_true]
            intro second member
            rw [← same second member, aware]
            rfl
  rw [newestFirst, if_pos (by simpa using sorted)]
  rfl

variable {tables : Tables} {userId : String} {user : User}
variable {R : Type} {validate : Row → Except (List String) R}
variable {rows : List Row} {sortKey : R → DateTime}
variable (known : getUser py tables.fixtures userId = .ok user)

include known

theorem collection_none
    (filename noun idField : String)
    (none : ownRows userId rows = []) :
    ∃ message,
      collection py tables.fixtures validate filename (fileOf rows) userId
          noun idField sortKey =
        .error (noDataAvailable py message) := by
  simp only [collection, known, rowsFor_fileOf, none, bind, Except.bind,
    List.isEmpty_nil, if_true]
  exact ⟨_, rfl⟩

theorem collection_invalid
    (filename noun idField : String)
    (some : ownRows userId rows ≠ [])
    {failed : List String}
    (invalid :
      ((ownRows userId rows).mapM fun row => validate (withoutOwner row)) =
        .error failed) :
    ∃ message,
      collection py tables.fixtures validate filename (fileOf rows) userId
          noun idField sortKey =
        .error (toolExecutionError py message) := by
  have notEmpty : (ownRows userId rows).isEmpty = false := by
    simpa using some
  rcases mapM_validated_error py (locatorFor py noun idField userId)
    invalid with ⟨message, isError⟩
  refine ⟨message, ?_⟩
  simp only [withoutOwner] at isError
  simp only [collection, known, rowsFor_fileOf, bind, Except.bind, notEmpty,
    Bool.false_eq_true, if_false, isError]

theorem collection_valid
    (filename noun idField : String)
    (some : ownRows userId rows ≠ []) {records : List R}
    (valid :
      ((ownRows userId rows).mapM fun row => validate (withoutOwner row)) =
        .ok records)
    (comparable : Comparable validate sortKey rows) :
    collection py tables.fixtures validate filename (fileOf rows) userId
        noun idField sortKey =
      .ok (latestFirst (fun record => (sortKey record).instant)
        records) := by
  have notEmpty : (ownRows userId rows).isEmpty = false := by
    simpa using some
  have alike : ∀ first ∈ records, ∀ second ∈ records,
      (sortKey first).aware = (sortKey second).aware := by
    intro first isFirst second isSecond
    rcases mem_of_mapM valid isFirst with ⟨row, isRow, validFirst⟩
    rcases mem_of_mapM valid isSecond with ⟨row', isRow', validSecond⟩
    exact comparable row (List.mem_of_mem_filter isRow) row'
      (List.mem_of_mem_filter isRow') first second validFirst validSecond
  have isOk :=
    mapM_validated_ok py (locatorFor py noun idField userId) valid
  simp only [withoutOwner] at isOk
  simp only [collection, known, rowsFor_fileOf, bind, Except.bind, notEmpty,
    Bool.false_eq_true, if_false, isOk]
  exact newestFirst_comparable alike

end

end SupportAssistant.Tools.Rows
