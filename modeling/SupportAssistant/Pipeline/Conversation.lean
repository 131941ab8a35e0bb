import SupportAssistant.Effects.Invariants
import SupportAssistant.Pipeline.Handover

/-!
# The run as a conversation

A run makes nothing up: each event it adds is what the collaborator answers
to all the events before it.  In particular every time that is read is a
reading of the one clock that the run is handed, so a trace is in UTC.
-/

namespace SupportAssistant.Pipeline.Conversation

open SupportAssistant.Enums
open SupportAssistant.Runtime
open SupportAssistant.Effects.Outcomes
open SupportAssistant.Effects.Invariants
open SupportAssistant.Tracing.Models
open SupportAssistant.Tracing.Recorder
open SupportAssistant.Domain
open SupportAssistant.Pipeline.Collaborators
open SupportAssistant.Pipeline.Orchestrator
open SupportAssistant.Pipeline.RunSpec
open SupportAssistant.Pipeline.Handover

/-- The event is what the collaborator answers to the events before it. -/
def Answered (wiring : Wiring) (ticket : Ticket) (earlier : List Event) :
    Event → Prop
  | .intentAsked answer =>
      answer = wiring.llm.classifyIntent earlier ticket
  | .stepAsked history answer =>
      answer = wiring.llm.decideNextStep earlier ticket history
  | .toolRun call answer => answer = wiring.tools earlier call.tool call.args
  | .templateResolved name answer =>
      answer = wiring.resolveTemplate earlier name
  | .clockRead reading => reading = (wiring.clock earlier).val
  | .stepLogged _ => True

/-- Every event after the first ones is an answer. -/
def Conversing (wiring : Wiring) (ticket : Ticket) (first : Nat)
    (state : RunState) : Prop :=
  ∀ earlier event later,
    state.events = earlier ++ event :: later →
      first ≤ earlier.length → Answered wiring ticket earlier event

section

variable {wiring : Wiring} {ticket : Ticket} {first : Nat}

theorem conversing_start (wiring : Wiring) (ticket : Ticket)
    (events : List Event) :
    Conversing wiring ticket events.length (RunState.start events) := by
  rintro earlier event later same long
  have lengths := congrArg List.length same
  simp only [RunState.start, List.length_append, List.length_cons] at lengths
  omega

theorem Conversing.addEvent {state : RunState}
    (conversing : Conversing wiring ticket first state) {event : Event}
    (answered : Answered wiring ticket state.events event) :
    Conversing wiring ticket first (state.addEvent event) := by
  intro earlier other later same long
  replace same : state.events ++ [event] = earlier ++ other :: later := same
  rcases List.eq_nil_or_concat later with rfl | ⟨rest, final, rfl⟩
  · rcases List.append_inj' same rfl with ⟨rfl, isLast⟩
    obtain rfl := List.singleton_inj.mp isLast
    exact answered
  · have split : state.events ++ [event] =
        (earlier ++ other :: rest) ++ [final] := by
      rw [same]
      simp
    exact conversing earlier other rest (List.append_inj' split rfl).1 long

end

/-! ## Every part of a run -/

/-- A property that recording and the answers of the collaborators keep. -/
structure Stable (wiring : Wiring) (ticket : Ticket)
    (invariant : RunState → Prop) : Prop where
  event : ∀ state event, invariant state →
    Answered wiring ticket state.events event →
      invariant (state.addEvent event)
  bump : ∀ state, invariant state → invariant (bumpSeq state)
  append : ∀ step state, invariant state → invariant (appendStep step state)
  inFlight : ∀ (state : RunState) tool, invariant state →
    invariant { state with inFlight := tool }

theorem stable_conversing (wiring : Wiring) (ticket : Ticket)
    (first : Nat) : Stable wiring ticket (Conversing wiring ticket first) where
  event _ _ conversing answered := conversing.addEvent answered
  bump _ conversing := conversing
  append _ _ conversing := conversing
  inFlight _ _ conversing := conversing

section

variable {wiring : Wiring} {ticket : Ticket} {invariant : RunState → Prop}
variable (stable : Stable wiring ticket invariant)

include stable

theorem keeps_consult {α : Type}
    (oracle : List Event → Except Exc α) (event : Except Exc α → Event)
    (answered : ∀ events,
      Answered wiring ticket events (event (oracle events))) :
    Keeps invariant (consult oracle event) := by
  apply keeps_get_bind
  intro state holds
  exact ends_bind
    (fun _ => invariant)
    (ends_modify (fun _ => invariant)
      (stable.event state _ holds (answered state.events)))
    (fun _ => keeps_answer _)

theorem keeps_askIntent :
    Keeps invariant (askIntent wiring ticket) :=
  keeps_consult stable
    (fun events => wiring.llm.classifyIntent events ticket) .intentAsked
    fun _ => rfl

theorem keeps_askStep (history : List Observation) :
    Keeps invariant (askStep wiring ticket history) :=
  keeps_consult stable
    (fun events => wiring.llm.decideNextStep events ticket history)
    (.stepAsked history) fun _ => rfl

theorem keeps_callTool (call : ToolCall) :
    Keeps invariant (callTool wiring call) :=
  keeps_consult stable
    (fun events => wiring.tools events call.tool call.args)
    (.toolRun call) fun _ => rfl

theorem keeps_resolve (name : ReplyTemplate) :
    Keeps invariant (resolve wiring name) :=
  keeps_consult stable
    (fun events => wiring.resolveTemplate events name)
    (.templateResolved name) fun _ => rfl

theorem keeps_setInFlight (tool : Option String) :
    Keeps invariant (setInFlight tool) :=
  keeps_modify fun state holds => stable.inFlight state tool holds

theorem keeps_now :
    Keeps invariant (now wiring) := by
  apply keeps_get_bind
  intro state holds
  exact ends_bind
    (fun _ => invariant)
    (ends_modify (fun _ => invariant) (stable.event state _ holds rfl))
    (fun _ => keeps_pure _)

theorem keeps_record (payload : Payload) :
    Keeps invariant (record wiring payload) := by
  have bumps : Keeps invariant (modify bumpSeq : RunM PUnit) :=
    keeps_modify stable.bump
  apply keeps_bind bumps
  intro _
  apply keeps_bind (keeps_now stable)
  intro ts
  apply keeps_get_bind
  intro state holds
  split
  · exact ends_throw holds
  · rename_i step built
    have appends : Keeps invariant (modify (appendStep step) : RunM PUnit) :=
      keeps_modify (stable.append step)
    have logs : Keeps invariant (logStep step) :=
      keeps_modify fun state holds => stable.event state _ holds trivial
    exact keeps_bind appends (fun _ => logs) state holds

theorem keeps_runTool (call : ToolCall) :
    Keeps invariant (runTool wiring call) := by
  apply keeps_bind (keeps_setInFlight stable _)
  intro _
  apply keeps_bind (keeps_record stable _)
  intro _
  apply keeps_bind
  · apply keeps_tryCatch
    · apply keeps_bind (keeps_callTool stable call)
      intro result
      apply keeps_bind (keeps_answer _)
      intro summary
      exact keeps_pure _
    · intro exc
      apply keeps_bind
      · apply keeps_bind (keeps_answer _)
        intro message
        exact keeps_pure _
      intro error
      apply keeps_bind (keeps_record stable _)
      intro _
      exact keeps_throw exc
  · rintro ⟨result, summary⟩
    apply keeps_bind (keeps_record stable _)
    intro _
    exact keeps_pure result

theorem keeps_ground (name : ReplyTemplate)
    (history : List Observation) :
    Keeps invariant (ground wiring name history) := by
  apply keeps_bind (keeps_resolve stable name)
  intro template
  apply keeps_bind (keeps_answer _)
  intro reply
  apply keeps_bind (keeps_answer _)
  intro checked
  apply keeps_bind (keeps_record stable _)
  intro _
  split <;> exact keeps_pure _

theorem keeps_loop (iterations : List Int) (history : List Observation) :
    Keeps invariant (loop wiring ticket iterations history) := by
  induction iterations generalizing history with
  | nil => exact keeps_pure _
  | cons iteration iterations induction =>
      apply keeps_bind (keeps_askStep stable history)
      intro step
      apply keeps_bind (keeps_record stable _)
      intro _
      cases step with
      | toolCall call =>
          apply keeps_bind (keeps_runTool stable call)
          intro result
          apply keeps_bind (keeps_setInFlight stable none)
          intro _
          exact induction _
      | reply template => exact keeps_ground stable template _
      | handoff reason => exact keeps_pure _

omit stable in
theorem keeps_toolDetail (inFlight : Option String) (exc : Exc) :
    Keeps invariant (toolDetail inFlight exc) := by
  apply keeps_bind (keeps_answer _)
  intro message
  split
  · split <;> exact keeps_pure _
  · exact keeps_pure _

omit stable in
theorem keeps_failClosed (exc : Exc) :
    Keeps invariant (failClosed exc) := by
  have detailed : ∀ reason inFlight,
      Keeps invariant (do
        let detail ← toolDetail inFlight exc
        return handedOff reason detail) := fun _ _ =>
    keeps_bind (keeps_toolDetail _ exc) fun _ => keeps_pure _
  apply keeps_get_bind
  intro state holds
  split
  · exact detailed _ _ state holds
  · exact detailed _ _ state holds
  · exact keeps_bind (keeps_answer _) (fun _ => keeps_pure _) state holds

theorem keeps_conclude :
    Keeps invariant (conclude wiring ticket) := by
  apply keeps_bind
  · apply keeps_tryCatch _ keeps_failClosed
    apply keeps_bind (keeps_askIntent stable)
    intro classification
    apply keeps_bind (keeps_record stable _)
    intro _
    split
    · exact keeps_pure _
    · exact keeps_loop stable _ []
  intro outcome
  apply keeps_bind (keeps_record stable _)
  intro _
  exact keeps_pure outcome

end

/-- What a run adds to the events before it is a conversation. -/
theorem conclude_conversing (wiring : Wiring) (ticket : Ticket)
    (events : List Event) :
    Conversing wiring ticket events.length
      (finalState (conclude wiring ticket) (RunState.start events)) :=
  (keeps_conclude (stable_conversing wiring ticket events.length)).finalState
    (conversing_start wiring ticket events)

/-- The times of a run are in UTC. -/
theorem clockReadings_utc (wiring : Wiring) (ticket : Ticket)
    (events : List Event) {state : RunState}
    (ran : finalState (conclude wiring ticket) (RunState.start events) =
      state) :
    ∀ reading ∈ clockReadings (state.events.drop events.length),
      reading.IsUtc := by
  intro reading read
  rcases List.mem_filterMap.mp read with ⟨event, member, isReading⟩
  rcases List.append_of_mem member with ⟨earlier, later, split⟩
  cases event with
  | clockRead time =>
      obtain rfl := Option.some.inj isReading
      have conversing := conclude_conversing wiring ticket events
      rw [ran] at conversing
      have answered := conversing
        (state.events.take events.length ++ earlier) (.clockRead time) later
      rw [List.append_assoc, ← split, List.take_append_drop] at answered
      have long : events.length ≤ state.events.length := by
        by_contra short
        rw [List.drop_of_length_le (by omega)] at split
        simp at split
      have isAnswer := answered rfl (by
        rw [List.length_append, List.length_take]
        omega)
      rw [show time = _ from isAnswer]
      exact Subtype.property _
  | _ => simp at isReading

end SupportAssistant.Pipeline.Conversation
