import Mathlib.Logic.Relation
import Mathlib.Data.List.Basic

namespace Revenant
namespace Library

/-!
# Event folds and the live machines that feed them

A validator reads an event list from the left and either rejects it or ends in
a state.  A live machine moves from state to state and appends events to a
journal.  The two agree when a relation between their states survives every
move of the machine: each move appends a list of events that the validator
accepts from the related state.

The fold may look at the whole list while it reads one event, so its step takes
that list as a first argument.  What it reads there must not change when the
journal grows; `Stable` states exactly that.
-/

variable {Event State Failure Live : Type}

/-- Read an event list with a step that may consult the whole list. -/
def fold (apply : List Event → State → Event → Except Failure State)
    (all : List Event) (start : State) (events : List Event) : Except Failure State :=
  events.foldlM (apply all) start

variable {apply : List Event → State → Event → Except Failure State}

@[simp] theorem fold_nil (all : List Event) (start : State) :
    fold apply all start [] = .ok start := rfl

theorem fold_append (all : List Event) (start : State) (first second : List Event) :
    fold apply all start (first ++ second) =
      (fold apply all start first).bind (fun state => fold apply all state second) := by
  simp only [fold, List.foldlM_append]
  rfl

@[simp] theorem fold_singleton (all : List Event) (start : State) (event : Event) :
    fold apply all start [event] = apply all start event := by
  simp only [fold, List.foldlM_cons, List.foldlM_nil, bind_pure]

/-- Two readings agree when the steps agree on every event of the list. -/
theorem fold_congr {left right : List Event} (start : State) (events : List Event)
    (agree : ∀ event ∈ events, ∀ state, apply left state event = apply right state event) :
    fold apply left start events = fold apply right start events := by
  induction events generalizing start with
  | nil => rfl
  | cons event rest inductionHypothesis =>
      simp only [fold, List.foldlM_cons]
      rw [agree event List.mem_cons_self start]
      congr 1
      funext state
      exact inductionHypothesis state (fun later member => agree later (List.mem_cons_of_mem _ member))

/-- Growing the journal by `appended` does not change how its old events read. -/
def Stable (apply : List Event → State → Event → Except Failure State)
    (journal appended : List Event) : Prop :=
  ∀ event ∈ journal, ∀ state, apply (journal ++ appended) state event = apply journal state event

/-- A fold accepts a list when it ends in some state. -/
def Reads (apply : List Event → State → Event → Except Failure State) (start : State)
    (events : List Event) (state : State) : Prop :=
  fold apply events start events = .ok state

/-- More events extend an accepted list when the old part reads as before. -/
theorem Reads.append {start state next : State} {journal appended : List Event}
    (read : Reads apply start journal state) (stable : Stable apply journal appended)
    (accepted : fold apply (journal ++ appended) state appended = .ok next) :
    Reads apply start (journal ++ appended) next := by
  unfold Reads at read ⊢
  rw [fold_append, fold_congr start journal stable, read]
  exact accepted

/-- One more event extends an accepted list when the old part reads as before. -/
theorem Reads.snoc {start state next : State} {journal : List Event} {event : Event}
    (read : Reads apply start journal state) (stable : Stable apply journal [event])
    (accepted : apply (journal ++ [event]) state event = .ok next) :
    Reads apply start (journal ++ [event]) next := by
  apply read.append stable
  rw [fold_singleton, accepted]

/-- Events that change nothing leave the reader where it began. -/
theorem Reads.of_ignored {start : State} {journal : List Event}
    (ignored : ∀ event ∈ journal, apply journal start event = .ok start) :
    Reads apply start journal start := by
  have reading : ∀ events : List Event, (∀ event ∈ events, event ∈ journal) →
      fold apply journal start events = .ok start := by
    intro events
    induction events with
    | nil => intro _; rfl
    | cons event rest inductionHypothesis =>
        intro members
        change (apply journal start event).bind (fold apply journal · rest) = .ok start
        rw [ignored event (members event List.mem_cons_self)]
        exact inductionHypothesis (fun later member => members later (List.mem_cons_of_mem _ member))
  exact reading journal (fun _ member => member)

/-! ## Histories -/

/-- The history rule: what holds of nothing read, and is kept by every event a
step accepts, holds of every accepted list and the state it ends in. -/
theorem foldlM_history {step : State → Event → Except Failure State}
    {History : List Event → State → Prop} {start last : State} {events : List Event}
    (accepted : events.foldlM step start = .ok last) (initial : History [] start)
    (kept : ∀ read state event next, History read state → step state event = .ok next →
      History (read ++ [event]) next) : History events last := by
  have reading : ∀ rest read state, History read state → rest.foldlM step state = .ok last →
      History (read ++ rest) last := by
    intro rest
    induction rest with
    | nil =>
        intro read state history ended
        cases ended
        rw [List.append_nil]
        exact history
    | cons event rest inductionHypothesis =>
        intro read state history ended
        rw [List.foldlM_cons] at ended
        cases advanced : step state event with
        | error failure => rw [advanced] at ended; cases ended
        | ok next =>
            rw [advanced] at ended
            have grown := inductionHypothesis (read ++ [event]) next
              (kept read state event next history advanced) ended
            rwa [List.append_assoc] at grown
  exact reading events [] start initial accepted

/-! ## Live machines -/

/-- What a live state owes its journal: the validator reads the journal to a
state that stands in `Related` to the live one. -/
def Follows (apply : List Event → State → Event → Except Failure State) (start : State)
    (journal : Live → List Event) (Related : Live → State → Prop) (live : Live) : Prop :=
  ∃ state, Reads apply start (journal live) state ∧ Related live state

/-- One move of the live machine against the fold: it writes nothing and keeps
the relation, or it writes one event that the fold accepts into the relation. -/
inductive Matches (apply : List Event → State → Event → Except Failure State)
    (journal : Live → List Event) (Related : Live → State → Prop)
    (before after : Live) (state : State) : Prop
  | silent (same : journal after = journal before) (related : Related after state)
  | recorded (event : Event) (next : State) (grown : journal after = journal before ++ [event])
      (stable : Stable apply (journal before) [event])
      (accepted : apply (journal before ++ [event]) state event = .ok next)
      (related : Related after next)

/-- A live state may owe less than it keeps. -/
theorem Follows.weaken {start : State} {journal : Live → List Event}
    {Related Weaker : Live → State → Prop} {live : Live}
    (follows : Follows apply start journal Related live)
    (weaker : ∀ state, Related live state → Weaker live state) :
    Follows apply start journal Weaker live := by
  obtain ⟨state, read, related⟩ := follows
  exact ⟨state, read, weaker state related⟩

theorem Follows.step {start : State} {journal : Live → List Event} {Related : Live → State → Prop}
    {before after : Live} (follows : Follows apply start journal Related before)
    (move : ∀ state, Related before state → Matches apply journal Related before after state) :
    Follows apply start journal Related after := by
  obtain ⟨state, read, related⟩ := follows
  cases move state related with
  | silent same kept => exact ⟨state, same ▸ read, kept⟩
  | recorded event next grown stable accepted kept =>
      exact ⟨next, grown ▸ read.snoc stable accepted, kept⟩

/-- A move that appends several events at once. -/
theorem Follows.extend {start : State} {journal : Live → List Event} {Related : Live → State → Prop}
    {before after : Live} {appended : List Event}
    (follows : Follows apply start journal Related before)
    (grown : journal after = journal before ++ appended)
    (stable : Stable apply (journal before) appended)
    (move : ∀ state, Related before state → ∃ next,
      fold apply (journal before ++ appended) state appended = .ok next ∧ Related after next) :
    Follows apply start journal Related after := by
  obtain ⟨state, read, related⟩ := follows
  obtain ⟨next, accepted, kept⟩ := move state related
  exact ⟨next, grown ▸ read.append stable accepted, kept⟩

/-- The run rule: what every step of the machine keeps holds along every run. -/
theorem Follows.run {start : State} {journal : Live → List Event} {Related : Live → State → Prop}
    {Step : Live → Live → Prop}
    (kept : ∀ before after, Step before after → Follows apply start journal Related before →
      Follows apply start journal Related after)
    {first last : Live} (path : Relation.ReflTransGen Step first last)
    (follows : Follows apply start journal Related first) :
    Follows apply start journal Related last := by
  induction path with
  | refl => exact follows
  | tail _ step inductionHypothesis => exact kept _ _ step inductionHypothesis

end Library
end Revenant
