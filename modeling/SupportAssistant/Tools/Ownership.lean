import SupportAssistant.Effects.Mapping
import SupportAssistant.Tools.Registry

/-!
# Whose records a tool returns

A call that returns was made for one user, named by its arguments, and every
record it returns is a validated row that a fixture file holds for that user.
The collection tools return at least one record.
-/

namespace SupportAssistant.Tools.Ownership

open SupportAssistant.Effects.Mapping
open SupportAssistant.Runtime
open SupportAssistant.Domain
open SupportAssistant.Tools.Loaders
open SupportAssistant.Tools.Registry

section

variable (py : PyText) (pydantic : Pydantic) (fixtures : Fixtures)

/-- The file holds the row for the user. -/
def HasRow (filename : String) (content : FileContent) (userId : String)
    (row : Row) : Prop :=
  ∃ rows, readRows py filename content = .ok rows ∧ row ∈ rows ∧
    belongsTo userId row = true

/-- The record is a validated row of the user. -/
inductive Owned (userId : String) : Record → Prop where
  | user {row : Row} {user : User}
      (held : HasRow py "users.json" fixtures.users userId row)
      (valid : validateUser row = .ok user) :
      Owned userId (.user user)
  | session {row : Row} {session : ChargingSession}
      (held : HasRow py "sessions.json" fixtures.sessions userId row)
      (valid :
        validateSession pydantic
            (row.filter fun entry => entry.1 != filterKey) =
          .ok session) :
      Owned userId (.session session)
  | invoice {row : Row} {invoice : Invoice}
      (held : HasRow py "invoices.json" fixtures.invoices userId row)
      (valid :
        validateInvoice pydantic
            (row.filter fun entry => entry.1 != filterKey) =
          .ok invoice) :
      Owned userId (.invoice invoice)

variable {py pydantic fixtures}

theorem hasRow_of_rowsFor
    {filename : String} {content : FileContent} {userId : String}
    {rows : List Row}
    (read : rowsFor py filename content userId = .ok rows) :
    ∀ row ∈ rows, HasRow py filename content userId row := by
  unfold rowsFor at read
  cases all : readRows py filename content with
  | error exc => simp [all, bind, Except.bind] at read
  | ok every =>
      simp only [all, bind, Except.bind, Except.ok.injEq] at read
      subst read
      intro row member
      rcases List.mem_filter.mp member with ⟨inFile, belongs⟩
      exact ⟨every, all, inFile, belongs⟩

theorem validated_ok
    {R : Type} {locator : String} {result : Except (List String) R}
    {record : R}
    (valid : validated py locator result = .ok record) :
    result = .ok record := by
  cases result with
  | error failed => simp [validated] at valid
  | ok found => exact congrArg Except.ok (Except.ok.inj valid)

theorem getUser_ok
    {userId : String} {user : User}
    (ran : getUser py fixtures userId = .ok user) :
    Owned py pydantic fixtures userId (.user user) := by
  unfold getUser at ran
  cases read : rowsFor py "users.json" fixtures.users userId with
  | error exc => simp [read, bind, Except.bind] at ran
  | ok rows =>
      simp only [read, bind, Except.bind] at ran
      cases rows with
      | nil => simp at ran
      | cons row rows =>
          exact .user (hasRow_of_rowsFor read row List.mem_cons_self)
            (validated_ok ran)

theorem newestFirst_ok
    {R : Type} {sortKey : R → DateTime} {records sorted : List R}
    (ran : newestFirst py sortKey records = .ok sorted) :
    sorted.Perm records := by
  unfold newestFirst at ran
  split at ran
  · cases ran
    exact List.perm_insertionSort _ _
  · simp at ran

theorem collection_ok
    {R : Type} {validate : Row → Except (List String) R}
    {filename : String} {content : FileContent} {userId : String}
    {noun idField : String} {sortKey : R → DateTime} {records : List R}
    (ran : collection py fixtures validate filename content userId noun
      idField sortKey = .ok records) :
    records ≠ [] ∧
      ∀ record ∈ records, ∃ row, HasRow py filename content userId row ∧
        validate (row.filter fun entry => entry.1 != filterKey) =
          .ok record := by
  unfold collection at ran
  cases known : getUser py fixtures userId with
  | error exc => simp [known, bind, Except.bind] at ran
  | ok user =>
      cases read : rowsFor py filename content userId with
      | error exc => simp [known, read, bind, Except.bind] at ran
      | ok rows =>
          simp only [known, read, bind, Except.bind] at ran
          split at ran
          · simp at ran
          · rename_i some
            split at ran
            · simp at ran
            · rename_i validRecords mapped
              have sorted := newestFirst_ok ran
              constructor
              · intro none
                rw [none] at sorted
                have empty := sorted.length_eq
                rw [length_of_mapM mapped] at empty
                cases rows <;> simp_all
              · intro record member
                rcases mem_of_mapM mapped (sorted.mem_iff.mp member) with
                  ⟨row, isRow, valid⟩
                exact ⟨row, hasRow_of_rowsFor read row isRow,
                  validated_ok valid⟩

/-- What a registered tool returned. -/
inductive Dispatched (userId : String) : String → List Record → Prop where
  | user {user : User}
      (owned : Owned py pydantic fixtures userId (.user user)) :
      Dispatched userId "get_user" [.user user]
  | sessions {sessions : List ChargingSession} (some : sessions ≠ [])
      (owned : ∀ session ∈ sessions,
        Owned py pydantic fixtures userId (.session session)) :
      Dispatched userId "get_charging_sessions" (sessions.map .session)
  | invoices {invoices : List Invoice} (some : invoices ≠ [])
      (owned : ∀ invoice ∈ invoices,
        Owned py pydantic fixtures userId (.invoice invoice)) :
      Dispatched userId "get_invoices" (invoices.map .invoice)

theorem dispatch_ok
    {name userId : String} {records : List Record}
    (isRegistered : registered.contains name = true)
    (ran : dispatch py pydantic fixtures name userId = .ok records) :
    @Dispatched py pydantic fixtures userId name records := by
  have known : name = "get_user" ∨ name = "get_charging_sessions" ∨
      name = "get_invoices" := by
    simpa [registered] using isRegistered
  unfold dispatch at ran
  rcases known with rfl | rfl | rfl
  · rw [if_pos rfl] at ran
    cases found : getUser py fixtures userId with
    | error exc => simp [found, bind, Except.bind] at ran
    | ok user =>
        simp only [found, bind, Except.bind, Except.ok.injEq] at ran
        subst ran
        exact .user (getUser_ok found)
  · rw [if_neg (by decide), if_pos rfl] at ran
    cases found : getChargingSessions py pydantic fixtures userId with
    | error exc => simp [found, bind, Except.bind] at ran
    | ok sessions =>
        simp only [found, bind, Except.bind, Except.ok.injEq] at ran
        subst ran
        rcases collection_ok found with ⟨some, each⟩
        refine .sessions some ?_
        intro session member
        rcases each session member with ⟨row, held, valid⟩
        exact .session held valid
  · rw [if_neg (by decide), if_neg (by decide)] at ran
    cases found : getInvoices py pydantic fixtures userId with
    | error exc => simp [found, bind, Except.bind] at ran
    | ok invoices =>
        simp only [found, bind, Except.bind, Except.ok.injEq] at ran
        subst ran
        rcases collection_ok found with ⟨some, each⟩
        refine .invoices some ?_
        intro invoice member
        rcases each invoice member with ⟨row, held, valid⟩
        exact .invoice held valid

/-- A call that returned was validated, and dispatched for its user. -/
theorem run_ok
    {name : String} {args : Dict} {result : ToolResult}
    (ran : run py pydantic fixtures name args = .ok result) :
    ∃ userId, validateUserIdArgs args = .ok userId ∧
      result.tool = name ∧
        @Dispatched py pydantic fixtures userId name result.records := by
  unfold run at ran
  split at ran
  · rename_i isRegistered
    split at ran
    · simp at ran
    · rename_i userId accepted
      cases dispatched : dispatch py pydantic fixtures name userId with
      | error exc => simp [dispatched, bind, Except.bind] at ran
      | ok records =>
          simp only [dispatched, bind, Except.bind, Except.ok.injEq] at ran
          subst ran
          exact ⟨userId, accepted, rfl, dispatch_ok isRegistered dispatched⟩
  · simp at ran

theorem Dispatched.owned
    {name userId : String} {records : List Record}
    (dispatched : @Dispatched py pydantic fixtures userId name records) :
    ∀ record ∈ records, Owned py pydantic fixtures userId record := by
  intro record member
  cases dispatched with
  | user owned =>
      cases List.mem_singleton.mp member
      exact owned
  | sessions some owned =>
      rcases List.mem_map.mp member with ⟨session, isSession, rfl⟩
      exact owned session isSession
  | invoices some owned =>
      rcases List.mem_map.mp member with ⟨invoice, isInvoice, rfl⟩
      exact owned invoice isInvoice

end

end SupportAssistant.Tools.Ownership
