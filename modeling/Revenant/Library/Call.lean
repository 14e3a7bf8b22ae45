import Mathlib.Data.List.Induction
import Revenant.Library.Checks
import Revenant.Library.Splits

namespace Revenant
namespace Library

/-!
# Calls that may fail

A call works on a state in place.  When it fails, whatever it wrote before the
failing step stays written, so a call answers with its result and the state it
leaves in either case.  `Sat` says what a call does from one state; the rules
take it through the steps of a call in their order.
-/

/-- A call on a state in place. -/
def Call (State Failure Value : Type) : Type := State → Except Failure Value × State

variable {State Failure Value Result : Type}

namespace Call

instance : Monad (Call State Failure) where
  pure value := fun state => (.ok value, state)
  bind first rest := fun state =>
    match first state with
    | (.ok value, next) => rest value next
    | (.error failure, next) => (.error failure, next)

/-- Look at the state without writing; the look may fail. -/
def check (look : State → Except Failure Value) : Call State Failure Value :=
  fun state => (look state, state)

def update (change : State → State) : Call State Failure Unit :=
  fun state => (.ok (), change state)

variable {first : Call State Failure Value} {rest : Value → Call State Failure Result}
variable {next : State}

theorem bind_of_ok {state : State} {value : Value} (stepped : first state = (.ok value, next)) :
    (first >>= rest) state = rest value next := by
  change (match first state with
    | (.ok value, next) => rest value next
    | (.error failure, next) => (.error failure, next)) = _
  rw [stepped]

theorem bind_of_error {state : State} {failure : Failure}
    (stepped : first state = (.error failure, next)) :
    (first >>= rest) state = (.error failure, next) := by
  change (match first state with
    | (.ok value, next) => rest value next
    | (.error failure, next) => (.error failure, next)) = _
  rw [stepped]

variable {look : State → Except Failure Value}

theorem check_bind_of_ok {state : State} {value : Value} (seen : look state = .ok value) :
    (check look >>= rest) state = rest value state :=
  bind_of_ok (by rw [check, seen])

theorem check_bind_of_passed {look : State → Except Failure Unit}
    {rest : Unit → Call State Failure Result} {state : State} (passed : look state = .ok ()) :
    (check look >>= rest) state = rest () state := check_bind_of_ok passed

theorem check_bind_of_error {state : State} {failure : Failure} (seen : look state = .error failure) :
    (check look >>= rest) state = (.error failure, state) :=
  bind_of_error (by rw [check, seen])

/-- A call in two steps answers what the second does after the first. -/
theorem bind_answers {state : State} {result : Result} :
    (first >>= rest) state = (.ok result, next) ↔
      ∃ value between, first state = (.ok value, between) ∧
        rest value between = (.ok result, next) := by
  rcases stepped : first state with ⟨outcome, between⟩
  cases outcome with
  | ok value =>
      rw [bind_of_ok stepped]
      constructor
      · intro answered
        exact ⟨value, between, rfl, answered⟩
      · rintro ⟨_, _, same, answered⟩
        cases same
        exact answered
  | error failure =>
      rw [bind_of_error stepped]
      constructor
      · intro impossible
        cases impossible
      · rintro ⟨_, _, impossible, -⟩
        cases impossible

theorem pure_answers {value result : Result} {state : State} :
    (pure value : Call State Failure Result) state = (.ok result, next) ↔
      value = result ∧ state = next := by
  change ((Except.ok value : Except Failure Result), state) = (.ok result, next) ↔ _
  rw [Prod.mk.injEq, Except.ok.injEq]

theorem check_answers {value : Value} {state : State} :
    check look state = (.ok value, next) ↔ look state = .ok value ∧ state = next := by
  rw [check, Prod.mk.injEq]

/-- A look that passes hands its value to the rest, where it began. -/
theorem check_bind_answers {state : State} {result : Result} :
    (check look >>= rest) state = (.ok result, next) ↔
      ∃ value, look state = .ok value ∧ rest value state = (.ok result, next) := by
  simp only [bind_answers, check_answers]
  constructor
  · rintro ⟨value, _, ⟨passed, rfl⟩, answered⟩
    exact ⟨value, passed, answered⟩
  · rintro ⟨value, passed, answered⟩
    exact ⟨value, state, ⟨passed, rfl⟩, answered⟩

variable {change : State → State}

theorem update_bind {rest : Unit → Call State Failure Result} {state : State} :
    (update change >>= rest) state = rest () (change state) := rfl

/-- What holds of the result of a call and of the state it leaves. -/
def Sat (call : Call State Failure Value) (state : State)
    (post : Except Failure Value → State → Prop) : Prop :=
  post (call state).1 (call state).2

variable {state : State} {post : Except Failure Result → State → Prop}

theorem sat_pure {value : Result} (holds : post (.ok value) state) :
    Sat (pure value : Call State Failure Result) state post := holds

theorem sat_update {post : Except Failure Unit → State → Prop}
    (holds : post (.ok ()) (change state)) :
    Sat (update change : Call State Failure Unit) state post := holds

theorem sat_check {look : State → Except Failure Result} (holds : post (look state) state) :
    Sat (check look) state post := holds

/-- A call in two steps either stops at the first or goes on from what it left. -/
theorem sat_bind (step : Sat first state (fun result next =>
      match result with
      | .ok value => Sat (rest value) next post
      | .error failure => post (.error failure) next)) : Sat (first >>= rest) state post := by
  unfold Sat at step ⊢
  cases stepped : first state with
  | mk result next =>
      rw [stepped] at step
      cases result with
      | ok value =>
          rw [bind_of_ok stepped]
          exact step
      | error failure =>
          rw [bind_of_error stepped]
          exact step

/-- A look that fails ends the call where it began. -/
theorem sat_check_bind
    (refused : ∀ failure, look state = .error failure → post (.error failure) state)
    (passed : ∀ value, look state = .ok value → Sat (rest value) state post) :
    Sat (check look >>= rest) state post := by
  apply sat_bind
  apply sat_check
  cases found : look state with
  | ok value => exact passed value found
  | error failure => exact refused failure found

theorem sat_update_bind {rest : Unit → Call State Failure Result}
    (holds : Sat (rest ()) (change state) post) : Sat (update change >>= rest) state post :=
  sat_bind (sat_update holds)

/-- A call is itself followed by nothing. -/
theorem sat_of_bind_pure {call : Call State Failure Result}
    (holds : Sat (call >>= pure) state post) : Sat call state post := by
  have same : (call >>= pure) state = call state := by
    rcases stepped : call state with ⟨result, next⟩
    cases result with
    | ok value => exact bind_of_ok stepped
    | error failure => exact bind_of_error stepped
  unfold Sat at holds ⊢
  rwa [same] at holds

/-- A call that works on a copy and writes it back when it succeeds. -/
def commit (compute : State → Except Failure (Value × State)) : Call State Failure Value :=
  fun state =>
    match compute state with
    | .ok (value, next) => (.ok value, next)
    | .error failure => (.error failure, state)

variable {compute : State → Except Failure (Result × State)}

theorem sat_commit
    (refused : ∀ failure, compute state = .error failure → post (.error failure) state)
    (passed : ∀ value next, compute state = .ok (value, next) → post (.ok value) next) :
    Sat (commit compute) state post := by
  unfold Sat commit
  cases computed : compute state with
  | error failure => exact refused failure computed
  | ok answer => exact passed answer.1 answer.2 computed

theorem commit_of_error {failure : Failure} (computed : compute state = .error failure) :
    commit compute state = (.error failure, state) := by
  unfold commit
  rw [computed]

theorem commit_of_ok {value : Result} (computed : compute state = .ok (value, next)) :
    commit compute state = (.ok value, next) := by
  unfold commit
  rw [computed]

/-! ## Runs of calls -/

section Runs

variable {Operation : Type} (perform : Operation → Call State Failure Value)

/-- The state a list of operations leaves. -/
def final (operations : List Operation) (state : State) : State :=
  operations.foldl (fun state operation => (perform operation state).2) state

/-- The operations with their results. -/
def log : List Operation → State → List (Operation × Except Failure Value)
  | [], _ => []
  | operation :: rest, state =>
      (operation, (perform operation state).1) :: log rest (perform operation state).2

variable {perform}

@[simp] theorem final_nil (state : State) : final perform [] state = state := rfl

@[simp] theorem final_cons (operation : Operation) (rest : List Operation) (state : State) :
    final perform (operation :: rest) state = final perform rest (perform operation state).2 := rfl

theorem final_append (first second : List Operation) (state : State) :
    final perform (first ++ second) state = final perform second (final perform first state) := by
  simp only [final, List.foldl_append]

theorem log_append (first second : List Operation) (state : State) :
    log perform (first ++ second) state =
      log perform first state ++ log perform second (final perform first state) := by
  induction first generalizing state with
  | nil => rfl
  | cons operation rest inductionHypothesis =>
      simp only [List.cons_append, log, inductionHypothesis, final_cons]

/-- The log is about the operations of the run, in their order. -/
theorem log_operations (operations : List Operation) (state : State) :
    (log perform operations state).map Prod.fst = operations := by
  induction operations generalizing state with
  | nil => rfl
  | cons operation rest inductionHypothesis =>
      rw [log, List.map_cons, inductionHypothesis]

/-- What every operation keeps holds after any run. -/
theorem final_keeps (Holds : State → Prop)
    (step : ∀ operation state, Holds state → Holds (perform operation state).2)
    (operations : List Operation) {state : State} (start : Holds state) :
    Holds (final perform operations state) := by
  induction operations generalizing state with
  | nil => exact start
  | cons operation rest inductionHypothesis =>
      exact inductionHypothesis (step operation state start)

/-- A fact about the log and the state holds after a run that it survives one
operation of the run longer. -/
theorem log_keeps_of_mem (Holds : List (Operation × Except Failure Value) → State → Prop)
    {start : State} (begun : Holds [] start) (operations : List Operation)
    (step : ∀ entries, ∀ operation ∈ operations, ∀ state, Holds entries state →
      Holds (entries ++ [(operation, (perform operation state).1)]) (perform operation state).2) :
    Holds (log perform operations start) (final perform operations start) := by
  induction operations using List.reverseRecOn with
  | nil => exact begun
  | append_singleton rest operation inductionHypothesis =>
      rw [log_append, final_append]
      refine step _ operation (by simp) _ (inductionHypothesis ?_)
      intro entries other member
      exact step entries other (List.mem_append_left _ member)

theorem log_keeps (Holds : List (Operation × Except Failure Value) → State → Prop) {start : State}
    (begun : Holds [] start)
    (step : ∀ entries operation state, Holds entries state →
      Holds (entries ++ [(operation, (perform operation state).1)]) (perform operation state).2)
    (operations : List Operation) :
    Holds (log perform operations start) (final perform operations start) :=
  log_keeps_of_mem Holds begun operations (fun entries operation _ => step entries operation)

/-- What the operations that did not fail answered. -/
def accepted (entries : List (Operation × Except Failure Value)) : List Value :=
  entries.filterMap (fun entry => entry.2.toOption)

theorem accepted_snoc (entries : List (Operation × Except Failure Value)) (operation : Operation)
    (result : Except Failure Value) :
    accepted (entries ++ [(operation, result)]) = accepted entries ++ result.toOption.toList :=
  filterMap_snoc _ _ _

/-- When a refused operation writes nothing and an accepted one keeps an
invariant over the answers, any run keeps it, and every answer is what an
accepted operation gives after the answers before it. -/
theorem accepted_keeps (Holds : List Value → State → Prop) (Lawful : List Value → Value → Prop)
    {start : State} (begun : Holds [] start) (operations : List Operation)
    (step : ∀ answers, ∀ operation ∈ operations, ∀ state, Holds answers state →
      (∃ failure, perform operation state = (.error failure, state)) ∨
        ∃ answer next, perform operation state = (.ok answer, next) ∧
          Holds (answers ++ [answer]) next ∧ Lawful answers answer) :
    Holds (accepted (log perform operations start)) (final perform operations start) ∧
      ∀ front answer back, accepted (log perform operations start) = front ++ answer :: back →
        Lawful front answer := by
  refine log_keeps_of_mem (fun entries state => Holds (accepted entries) state ∧
    ∀ front answer back, accepted entries = front ++ answer :: back → Lawful front answer)
    ?_ operations ?_
  · refine ⟨begun, ?_⟩
    intro front answer back split
    exact absurd split (by simp [accepted])
  · rintro entries operation member state ⟨holds, lawful⟩
    rw [accepted_snoc]
    rcases step _ operation member state holds with
      ⟨failure, refused⟩ | ⟨answer, next, answered, kept, law⟩
    · rw [refused]
      simp only [Except.toOption, Option.toList_none, List.append_nil]
      exact ⟨holds, lawful⟩
    · rw [answered]
      refine ⟨kept, ?_⟩
      exact forall_split_snoc (fun front answer _ => Lawful front answer)
        (fun front answer others same => lawful front answer others same) law

/-- A run that brings a state about does so at one operation. -/
theorem final_turns (Holds : State → Prop) (operations : List Operation) {state : State}
    (before : ¬ Holds state) (after : Holds (final perform operations state)) :
    ∃ earlier operation later, operations = earlier ++ operation :: later ∧
      ¬ Holds (final perform earlier state) ∧
      Holds (perform operation (final perform earlier state)).2 := by
  induction operations generalizing state with
  | nil => exact absurd after before
  | cons operation rest inductionHypothesis =>
      by_cases turned : Holds (perform operation state).2
      · exact ⟨[], operation, rest, rfl, before, turned⟩
      · rcases inductionHypothesis turned after with ⟨earlier, turning, later, rfl, still, holds⟩
        exact ⟨operation :: earlier, turning, later, rfl, still, holds⟩

end Runs

end Call
end Library
end Revenant
