import SupportAssistant.Effects.Outcomes
import SupportAssistant.Llm.Ollama

/-!
# The seeder

A client that posts scenarios to a running service, asks for each ticket until
it is no longer processing, and compares where it landed with what the
scenario expects.  The network is a function of what has been asked so far;
what it answers is up to it.

The report that is printed is left out, and so are the pauses between polls.
-/

namespace SupportAssistant.Demo.Seed

open SupportAssistant.Runtime
open SupportAssistant.Effects.Outcomes

/-! ## The network -/

structure Request where
  url : String
  payload : Option (List (String × Json))

/-- How a request ends. -/
inductive Reply where
  | answered (body : Json)
  /-- A `URLError`: no connection, or a status that is no success. -/
  | unreachable (reason : String)
  /-- Anything else: a timeout while reading, or a body that is no JSON. -/
  | broken (exc : Exc)

abbrev Exchange := Request × Reply

abbrev Network := List Exchange → Request → Reply

/-- What the `except` clause of `main` tells apart. -/
inductive Fault where
  | urlError (reason : String)
  | other (exc : Exc)

/-- The state is what has been asked, with its answers. -/
abbrev SeedM := EStateM Fault (List Exchange)

/-- What the client makes of a reply. -/
def Reply.body : Reply → Except Fault Json
  | .answered body => .ok body
  | .unreachable reason => .error (.urlError reason)
  | .broken exc => .error (.other exc)

/-! ## The scenarios -/

structure Scenario where
  userId : String
  subject : String
  body : String
  /-- `expect.status`. -/
  status : String
  /-- `expect.handoff_reason`. -/
  handoffReason : Option String

def Scenario.payload (scenario : Scenario) : List (String × Json) :=
  [("user_id", .string scenario.userId),
    ("subject", .string scenario.subject), ("body", .string scenario.body)]

/-- `value == expected`, where a text or `None` is expected. -/
def same (expected : Option String) : Json → Bool
  | .null => expected.isNone
  | .string text => expected == some text
  | _ => false

def pollAttempts : Nat := 100

section

variable (py : PyText) (network : Network)

/-- `value[key]`. -/
def item (value : Json) (key : String) : Except Fault Json :=
  match value with
  | .object entries =>
      match Json.get? entries key with
      | some found => .ok found
      | none => .error (.other (keyError py key))
  | .list _ =>
      .error (.other (typeError py
        "list indices must be integers or slices, not str"))
  | .string _ =>
      .error (.other (typeError py
        "string indices must be integers, not 'str'"))
  | other =>
      .error (.other (typeError py
        ("'" ++ Llm.Ollama.typeName other ++ "' object is not subscriptable")))

/-- `_request`. -/
def request (url : String) (payload : Option (List (String × Json))) :
    SeedM Json := do
  let asked ← get
  let reply := network asked ⟨url, payload⟩
  set (asked ++ [(⟨url, payload⟩, reply)])
  answer reply.body

/-- The polls of `submit`, with this many left after the next one. -/
def poll (url : String) : Nat → SeedM Json
  | 0 => do
      let ticket ← request network url none
      let _ ← answer (item py ticket "status")
      return ticket
  | left + 1 => do
      let ticket ← request network url none
      let status ← answer (item py ticket "status")
      if same (some "processing") status then poll url left
      else return ticket

def submit (baseUrl : String) (scenario : Scenario) : SeedM Json := do
  let accepted ← request network (baseUrl ++ "/tickets")
    (some scenario.payload)
  let id ← answer (item py accepted "id")
  poll py network (baseUrl ++ "/tickets/" ++ id.str py) (pollAttempts - 1)

/-- Did the ticket land where the scenario expects it? -/
def matched (scenario : Scenario) (ticket : Json) : Except Fault Bool := do
  let status ← item py ticket "status"
  if same (some scenario.status) status then
    let reason ← item py ticket "handoff_reason"
    return same scenario.handoffReason reason
  else return false

/-- `except urllib.error.URLError`. -/
def reached (ticket : SeedM Json) : SeedM (Option Json) :=
  tryCatch (do return some (← ticket)) fun
    | .urlError _ => pure none
    | .other exc => throw (.other exc)

/-- The loop of `main`, with the mismatches counted so far. -/
def seedAll (baseUrl : String) : Nat → List Scenario → SeedM Nat
  | mismatches, [] => return if mismatches = 0 then 0 else 1
  | mismatches, scenario :: scenarios => do
      match ← reached (submit py network baseUrl scenario) with
      | none => return 2
      | some ticket =>
          if ← answer (matched py scenario ticket) then
            seedAll baseUrl mismatches scenarios
          else seedAll baseUrl (mismatches + 1) scenarios

/-- `base_url.rstrip("/")`. -/
def rstripSlashes (url : String) : String :=
  String.ofList (url.toList.reverse.dropWhile (· == '/')).reverse

/-- `main`, given what `random.shuffle` makes of the scenarios. -/
def main (baseUrl : String) (inOrder : Bool)
    (scenarios shuffled : List Scenario) : SeedM Nat :=
  seedAll py network (rstripSlashes baseUrl) 0
    (if inOrder then scenarios else shuffled)

end

/-! ## What a run has asked -/

section

variable (py : PyText) (network : Network)

/-- The ticket is still processing. -/
def Waits (ticket : Json) : Prop :=
  ∃ status, item py ticket "status" = .ok status ∧
    same (some "processing") status = true

/-- The polls that end with a ticket, out of so many that may be made. -/
structure Polled (url : String) (attempts : Nat) (ticket : Json)
    (polls : List Exchange) : Prop where
  asked : ∃ earlier, polls = earlier ++ [(⟨url, none⟩, .answered ticket)] ∧
    ∀ exchange ∈ earlier, ∃ body, exchange = (⟨url, none⟩, .answered body) ∧
      Waits py body
  few : polls.length ≤ attempts
  patient : Waits py ticket → polls.length = attempts

/-- The exchanges of a scenario whose ticket was seen. -/
structure Submitted (baseUrl : String) (scenario : Scenario) (ticket : Json)
    (exchanges : List Exchange) : Prop where
  shape : ∃ accepted id polls,
    exchanges =
        (⟨baseUrl ++ "/tickets", some scenario.payload⟩,
          .answered accepted) :: polls ∧
      item py accepted "id" = .ok id ∧
        Polled py (baseUrl ++ "/tickets/" ++ id.str py) pollAttempts ticket
          polls

/-- The exchanges of a scenario, and whether its ticket matched. -/
def Visit (baseUrl : String) (scenario : Scenario)
    (visit : List Exchange × Bool) : Prop :=
  ∃ ticket, Submitted py baseUrl scenario ticket visit.1 ∧
    matched py scenario ticket = .ok visit.2

/-- So many exchanges at most have been added. -/
def Added (most : Nat) (before after : List Exchange) : Prop :=
  ∃ more, after = before ++ more ∧ more.length ≤ most

theorem added_none (most : Nat) (before : List Exchange) :
    Added most before before :=
  ⟨[], (List.append_nil before).symm, Nat.zero_le most⟩

theorem Added.trans {first second : Nat} {before middle after : List Exchange}
    (earlier : Added first before middle)
    (later : Added second middle after) :
    Added (first + second) before after := by
  rcases earlier with ⟨more, rfl, few⟩
  rcases later with ⟨others, rfl, few'⟩
  refine ⟨more ++ others, List.append_assoc .., ?_⟩
  rw [List.length_append]
  exact Nat.add_le_add few few'

theorem Added.mono {most more : Nat} {before after : List Exchange}
    (added : Added most before after) (le : most ≤ more) :
    Added more before after := by
  rcases added with ⟨others, same, few⟩
  exact ⟨others, same, few.trans le⟩

theorem request_ends (url : String)
    (payload : Option (List (String × Json))) (before : List Exchange) :
    Ends (request network url payload) before
      (fun body after =>
        after = before ++ [(⟨url, payload⟩, .answered body)])
      (fun _ after => Added 1 before after) := by
  apply ends_get_bind
  apply ends_bind (fun _ after => after =
    before ++ [(⟨url, payload⟩, network before ⟨url, payload⟩)])
  · exact ends_set rfl
  · rintro _ after rfl
    cases network before ⟨url, payload⟩ with
    | answered body => exact rfl
    | unreachable reason => exact ⟨_, rfl, le_refl 1⟩
    | broken exc => exact ⟨_, rfl, le_refl 1⟩

theorem poll_ends (url : String) (left : Nat) (before : List Exchange) :
    Ends (poll py network url left) before
      (fun ticket after => ∃ polls, after = before ++ polls ∧
        Polled py url (left + 1) ticket polls)
      (fun _ after => Added (left + 1) before after) := by
  induction left generalizing before with
  | zero =>
      refine ends_bind _ (request_ends network url none before) ?_
      rintro ticket after rfl
      apply ends_answer_bind
      · intro status isStatus
        exact ⟨_, rfl, ⟨[], rfl, by simp⟩, le_refl 1, fun _ => rfl⟩
      · intro exc isError
        exact ⟨_, rfl, le_refl 1⟩
  | succ left induction =>
      refine ends_bind _ (ends_mono (request_ends network url none before)
        (fun _ _ => id) fun _ _ added => added.mono (by omega)) ?_
      rintro ticket after rfl
      apply ends_answer_bind
      · intro status isStatus
        split
        · rename_i processing
          refine ends_mono (induction _) ?_ ?_
          · rintro last after ⟨polls, rfl, polled⟩
            rcases polled.asked with ⟨earlier, rfl, waits⟩
            refine ⟨_, List.append_assoc .., ⟨_ :: earlier, rfl, ?_⟩, ?_, ?_⟩
            · rw [List.forall_mem_cons]
              exact ⟨⟨ticket, rfl, status, isStatus, processing⟩, waits⟩
            · have few := polled.few
              simp only [List.singleton_append, List.length_cons]
              omega
            · intro stillWaits
              have patient := polled.patient stillWaits
              simp only [List.singleton_append, List.length_cons]
              omega
          · intro _ after added
            have first : Added 1 before
                (before ++ [(⟨url, none⟩, .answered ticket)]) :=
              ⟨_, rfl, le_refl 1⟩
            exact (first.trans added).mono (by omega)
        · rename_i processing
          refine ⟨_, rfl, ⟨[], rfl, by simp⟩, by simp, ?_⟩
          rintro ⟨status', isStatus', waits⟩
          obtain rfl := Except.ok.inj (isStatus.symm.trans isStatus')
          exact absurd waits processing
      · intro exc isError
        exact ⟨_, rfl, by simp⟩

theorem submit_ends (baseUrl : String) (scenario : Scenario)
    (before : List Exchange) :
    Ends (submit py network baseUrl scenario) before
      (fun ticket after => ∃ exchanges, after = before ++ exchanges ∧
        Submitted py baseUrl scenario ticket exchanges)
      (fun _ after => Added (pollAttempts + 1) before after) := by
  refine ends_bind _ (ends_mono (request_ends network _ _ before)
    (fun _ _ => id) fun _ _ added => added.mono (by omega)) ?_
  rintro accepted after rfl
  have first : Added 1 before (before ++ [(⟨baseUrl ++ "/tickets",
      some scenario.payload⟩, .answered accepted)]) :=
    ⟨_, rfl, le_refl 1⟩
  apply ends_answer_bind
  · intro id isId
    refine ends_mono (poll_ends py network _ _ _) ?_ ?_
    · rintro ticket after ⟨polls, rfl, polled⟩
      exact ⟨_, List.append_assoc .., accepted, id, polls, rfl, isId, polled⟩
    · intro _ after added
      exact (first.trans added).mono (by simp [pollAttempts])
  · intro exc isError
    exact first.mono (by omega)

theorem reached_ends (baseUrl : String) (scenario : Scenario)
    (before : List Exchange) :
    Ends (reached (submit py network baseUrl scenario)) before
      (fun seen after => Added (pollAttempts + 1) before after ∧
        ∀ ticket, seen = some ticket → ∃ exchanges,
          after = before ++ exchanges ∧
            Submitted py baseUrl scenario ticket exchanges)
      (fun fault after => Added (pollAttempts + 1) before after ∧
        ∃ exc, fault = .other exc) := by
  refine ends_tryCatch (fun _ after => Added (pollAttempts + 1) before after)
    ?_ ?_
  · refine ends_bind _ (submit_ends py network baseUrl scenario before) ?_
    rintro ticket after ⟨exchanges, rfl, submitted⟩
    refine ⟨⟨exchanges, rfl, ?_⟩, ?_⟩
    · rcases submitted.shape with ⟨accepted, id, polls, rfl, -, polled⟩
      exact Nat.succ_le_succ polled.few
    · rintro seen same
      obtain rfl := Option.some.inj same
      exact ⟨exchanges, rfl, submitted⟩
  · intro fault after added
    cases fault with
    | urlError reason => exact ⟨added, by simp⟩
    | other exc => exact ⟨added, exc, rfl⟩

/-- The exit code of a run that has seen every ticket. -/
def exitCode (mismatches : Nat) (visits : List (List Exchange × Bool)) : Nat :=
  if mismatches == 0 && visits.all Prod.snd then 0 else 1

/-- The scenarios that the loop has been through, and what it asked first. -/
structure CameTo (baseUrl : String) (scenarios : List Scenario)
    (before after : List Exchange) (visits : List (List Exchange × Bool)) :
    Prop where
  visited : List.Forall₂ (Visit py baseUrl) (scenarios.take visits.length)
    visits
  asked : before ++ (visits.map Prod.fst).flatten <+: after
  few : Added ((pollAttempts + 1) * scenarios.length) before after

/-- What a run of the loop that returns has asked, and its exit code. -/
def Exited (baseUrl : String) (mismatches : Nat) (scenarios : List Scenario)
    (before : List Exchange) (code : Nat) (after : List Exchange) : Prop :=
  ∃ visits, CameTo py baseUrl scenarios before after visits ∧
    (code = 2 ∧ visits.length < scenarios.length ∨
      visits.length = scenarios.length ∧ code = exitCode mismatches visits)

/-- What a run of the loop that raises has asked. -/
def Escaped (baseUrl : String) (scenarios : List Scenario)
    (before : List Exchange) (fault : Fault) (after : List Exchange) : Prop :=
  ∃ visits, CameTo py baseUrl scenarios before after visits ∧
    visits.length < scenarios.length ∧ ∃ exc, fault = .other exc

theorem Submitted.added {baseUrl : String} {scenario : Scenario}
    {ticket : Json} {exchanges : List Exchange}
    (submitted : Submitted py baseUrl scenario ticket exchanges)
    (before : List Exchange) :
    Added (pollAttempts + 1) before (before ++ exchanges) := by
  rcases submitted.shape with ⟨accepted, id, polls, rfl, -, polled⟩
  exact ⟨_, rfl, Nat.succ_le_succ polled.few⟩

theorem requests_cons (scenario : Scenario) (scenarios : List Scenario) :
    (pollAttempts + 1) * (scenario :: scenarios).length =
      (pollAttempts + 1) + (pollAttempts + 1) * scenarios.length := by
  rw [List.length_cons, Nat.mul_succ, Nat.add_comm]

/-- A scenario that the loop did not get through. -/
theorem cameTo_nothing {baseUrl : String} {scenario : Scenario}
    {scenarios : List Scenario} {before after : List Exchange}
    (added : Added (pollAttempts + 1) before after) :
    CameTo py baseUrl (scenario :: scenarios) before after [] where
  visited := .nil
  asked := by
    rcases added with ⟨more, rfl, -⟩
    simp
  few := by
    rw [requests_cons]
    exact added.mono (Nat.le_add_right _ _)

/-- One scenario before the others. -/
theorem CameTo.visit {baseUrl : String}
    {scenario : Scenario} {scenarios : List Scenario}
    {before exchanges after : List Exchange} {isMatch : Bool}
    {visits : List (List Exchange × Bool)}
    (visit : Visit py baseUrl scenario (exchanges, isMatch))
    (came : CameTo py baseUrl scenarios (before ++ exchanges) after visits) :
    CameTo py baseUrl (scenario :: scenarios) before after
      ((exchanges, isMatch) :: visits) where
  visited := .cons visit came.visited
  asked := by
    rw [List.map_cons, List.flatten_cons, ← List.append_assoc]
    exact came.asked
  few := by
    rcases visit with ⟨ticket, submitted, -⟩
    rw [requests_cons]
    exact (submitted.added py before).trans came.few

theorem exitCode_cons (mismatches : Nat) (exchanges : List Exchange)
    (isMatch : Bool) (visits : List (List Exchange × Bool)) :
    exitCode mismatches ((exchanges, isMatch) :: visits) =
      exitCode (if isMatch = true then mismatches else mismatches + 1)
        visits := by
  cases isMatch with
  | true => rfl
  | false => simp [exitCode]

/-- What is wrong with a ticket is no failure to reach the service. -/
theorem item_raises {value : Json} {key : String} {fault : Fault}
    (raised : item py value key = .error fault) :
    ∃ exc, fault = .other exc := by
  unfold item at raised
  split at raised
  · split at raised
    · cases raised
    · exact ⟨_, (Except.error.inj raised).symm⟩
  all_goals exact ⟨_, (Except.error.inj raised).symm⟩

theorem matched_raises {scenario : Scenario} {ticket : Json} {fault : Fault}
    (raised : matched py scenario ticket = .error fault) :
    ∃ exc, fault = .other exc := by
  unfold matched at raised
  cases status : item py ticket "status" with
  | error other =>
      rw [status] at raised
      cases raised
      exact item_raises py status
  | ok found =>
      simp only [status, bind, Except.bind] at raised
      split at raised
      · cases reason : item py ticket "handoff_reason" with
        | error other =>
            rw [reason] at raised
            cases raised
            exact item_raises py reason
        | ok given => simp [reason, pure, Except.pure] at raised
      · cases raised

theorem seedAll_ends (baseUrl : String) (mismatches : Nat)
    (scenarios : List Scenario) (before : List Exchange) :
    Ends (seedAll py network baseUrl mismatches scenarios) before
      (Exited py baseUrl mismatches scenarios before)
      (Escaped py baseUrl scenarios before) := by
  induction scenarios generalizing mismatches before with
  | nil =>
      refine ⟨[], ⟨.nil, by simp, added_none _ _⟩, Or.inr ⟨rfl, ?_⟩⟩
      simp [exitCode]
  | cons scenario scenarios induction =>
      have left : ([] : List (List Exchange × Bool)).length <
          (scenario :: scenarios).length := by
        simp
      refine ends_bind _ (ends_mono (reached_ends py network _ _ before)
        (fun _ _ => id) fun _ _ escaped =>
          ⟨[], cameTo_nothing py escaped.1, left, escaped.2⟩) ?_
      rintro (_ | ticket) after ⟨added, seen⟩
      · exact ⟨[], cameTo_nothing py added, Or.inl ⟨rfl, left⟩⟩
      · rcases seen ticket rfl with ⟨exchanges, rfl, submitted⟩
        apply ends_answer_bind
        · intro isMatch isMatched
          have visit : Visit py baseUrl scenario (exchanges, isMatch) :=
            ⟨ticket, submitted, isMatched⟩
          have rest : Ends (seedAll py network baseUrl
              (if isMatch = true then mismatches else mismatches + 1)
              scenarios) (before ++ exchanges)
              (Exited py baseUrl mismatches (scenario :: scenarios) before)
              (Escaped py baseUrl (scenario :: scenarios) before) := by
            refine ends_mono (induction _ _) ?_ ?_
            · rintro code after ⟨visits, came, ended⟩
              refine ⟨_, came.visit py visit, ?_⟩
              rw [exitCode_cons]
              simpa using ended
            · rintro fault after ⟨visits, came, short, other⟩
              exact ⟨_, came.visit py visit, by simpa using short, other⟩
          cases isMatch with
          | true => exact rest
          | false => exact rest
        · exact fun fault raised =>
            ⟨[], cameTo_nothing py added, left, matched_raises py raised⟩

theorem main_ends (baseUrl : String) (inOrder : Bool)
    (scenarios shuffled : List Scenario) :
    Ends (main py network baseUrl inOrder scenarios shuffled) []
      (Exited py (rstripSlashes baseUrl) 0
        (if inOrder then scenarios else shuffled) [])
      (Escaped py (rstripSlashes baseUrl)
        (if inOrder then scenarios else shuffled) []) :=
  seedAll_ends py network _ 0 _ []

end

end SupportAssistant.Demo.Seed
