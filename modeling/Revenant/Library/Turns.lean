import Revenant.Library.Call

namespace Revenant
namespace Library

/-!
# The turns of a run

A state answers an input or refuses it.  A refused input leaves the state alone;
an accepted one is a turn, and the history of a run is the list of its turns.
What holds of every turn is read off the histories before it, and a history
played again from the same state gives itself.
-/

/-- An accepted input: the state before it and what was answered. -/
structure Turn (State Input Answer : Type) where
  before : State
  input : Input
  answer : Answer
  deriving DecidableEq

section Turns

variable {State Input Answer Failure : Type}
variable (apply : State → Input → Except Failure Answer) (after : Answer → State)

def takeTurn (input : Input) : Call State Failure (Turn State Input Answer) :=
  Call.commit (fun state => do
    let answer ← apply state input
    return ({ before := state, input, answer }, after answer))

/-- The accepted inputs of a run. -/
def turns (inputs : List Input) (start : State) : List (Turn State Input Answer) :=
  Call.accepted (Call.log (takeTurn apply after) inputs start)

/-- The state a run comes to. -/
def reached (inputs : List Input) (start : State) : State :=
  Call.final (takeTurn apply after) inputs start

variable {apply after}

theorem takeTurn_of_ok {state : State} {input : Input} {answer : Answer}
    (accepted : apply state input = .ok answer) :
    takeTurn apply after input state =
      (.ok { before := state, input, answer }, after answer) := by
  apply Call.commit_of_ok
  rw [accepted]
  rfl

theorem takeTurn_of_error {state : State} {input : Input} {failure : Failure}
    (refused : apply state input = .error failure) :
    takeTurn apply after input state = (.error failure, state) := by
  apply Call.commit_of_error
  rw [refused]
  rfl

/-- What an accepted input keeps over the history and the state holds of every
run, and every turn is lawful after the turns before it. -/
theorem turns_keep (Holds : List (Turn State Input Answer) → State → Prop)
    (Lawful : List (Turn State Input Answer) → Turn State Input Answer → Prop) {start : State}
    (begun : Holds [] start) (inputs : List Input)
    (step : ∀ history, ∀ input ∈ inputs, ∀ state answer, Holds history state →
      apply state input = .ok answer →
        Holds (history ++ [{ before := state, input, answer }]) (after answer) ∧
          Lawful history { before := state, input, answer }) :
    Holds (turns apply after inputs start) (reached apply after inputs start) ∧
      ∀ front turn back, turns apply after inputs start = front ++ turn :: back →
        Lawful front turn := by
  refine Call.accepted_keeps Holds Lawful begun inputs ?_
  intro history input member state holds
  cases answered : apply state input with
  | error failure => exact Or.inl ⟨failure, takeTurn_of_error answered⟩
  | ok answer =>
      obtain ⟨kept, lawful⟩ := step history input member state answer holds answered
      exact Or.inr ⟨_, _, takeTurn_of_ok answered, kept, lawful⟩

/-- When every input is accepted, the history is about all of them. -/
theorem turns_inputs (total : ∀ state input, ∃ answer, apply state input = .ok answer)
    (inputs : List Input) (start : State) :
    (turns apply after inputs start).map Turn.input = inputs := by
  induction inputs generalizing start with
  | nil => rfl
  | cons input rest inductionHypothesis =>
      obtain ⟨answer, answered⟩ := total start input
      have later := inductionHypothesis (after answer)
      unfold turns at later ⊢
      rw [Call.log, takeTurn_of_ok answered]
      exact congrArg (input :: ·) later

/-- A run in two parts. -/
theorem turns_append (first second : List Input) (start : State) :
    turns apply after (first ++ second) start =
      turns apply after first start ++ turns apply after second (reached apply after first start) := by
  unfold turns reached Call.accepted
  rw [Call.log_append, List.filterMap_append]

/-! ## Playing a history again -/

variable (apply after)

/-- The turns follow each other from a state. -/
def Plays : State → List (Turn State Input Answer) → Prop
  | _, [] => True
  | state, turn :: rest =>
      turn.before = state ∧ apply state turn.input = .ok turn.answer ∧
        Plays (after turn.answer) rest

variable {apply after}

theorem turns_cons_of_ok {state : State} {input : Input} {answer : Answer} (rest : List Input)
    (accepted : apply state input = .ok answer) :
    turns apply after (input :: rest) state =
      { before := state, input, answer } :: turns apply after rest (after answer) := by
  unfold turns
  rw [Call.log, takeTurn_of_ok accepted]
  rfl

theorem turns_cons_of_error {state : State} {input : Input} {failure : Failure} (rest : List Input)
    (refused : apply state input = .error failure) :
    turns apply after (input :: rest) state = turns apply after rest state := by
  unfold turns
  rw [Call.log, takeTurn_of_error refused]
  rfl

theorem turns_play (inputs : List Input) (start : State) :
    Plays apply after start (turns apply after inputs start) := by
  induction inputs generalizing start with
  | nil => trivial
  | cons input rest inductionHypothesis =>
      cases answered : apply start input with
      | error failure =>
          rw [turns_cons_of_error rest answered]
          exact inductionHypothesis start
      | ok answer =>
          rw [turns_cons_of_ok rest answered]
          exact ⟨rfl, answered, inductionHypothesis (after answer)⟩

end Turns

end Library
end Revenant
