import Mathlib.Data.List.Basic

namespace Revenant
namespace Library

/-!
# Chains of checks

A checker is a sequence of guards in `Except`.  `rejectIf` is one guard, and
the equations below read a successful chain as the conjunction of what its
guards passed.  They go in both directions: a proof that a chain accepts shows
each guard, and a proof about what it accepted takes them apart.
-/

variable {Failure Value Result : Type}

/-- Refuse when the condition holds. -/
def rejectIf (bad : Prop) [Decidable bad] (failure : Failure) : Except Failure Unit :=
  if bad then .error failure else .ok ()

@[simp] theorem rejectIf_eq_ok {bad : Prop} [Decidable bad] {failure : Failure} {done : Unit} :
    rejectIf bad failure = .ok done ↔ ¬ bad := by
  unfold rejectIf
  split <;> simp_all

@[simp] theorem bind_eq_ok {first : Except Failure Value} {rest : Value → Except Failure Result}
    {result : Result} :
    (first >>= rest) = .ok result ↔ ∃ value, first = .ok value ∧ rest value = .ok result := by
  cases first with
  | error failure =>
      constructor
      · intro impossible; cases impossible
      · rintro ⟨value, impossible, _⟩; cases impossible
  | ok value =>
      constructor
      · intro accepted; exact ⟨value, rfl, accepted⟩
      · rintro ⟨other, same, accepted⟩; cases same; exact accepted

/-- A chain fails at its first failing step. -/
theorem bind_eq_error {first : Except Failure Value} {rest : Value → Except Failure Result}
    {failure : Failure} :
    (first >>= rest) = .error failure ↔
      first = .error failure ∨ ∃ value, first = .ok value ∧ rest value = .error failure := by
  cases first with
  | error other =>
      constructor
      · intro same; cases same; exact Or.inl rfl
      · rintro (same | ⟨value, impossible, _⟩)
        · cases same; rfl
        · cases impossible
  | ok value =>
      constructor
      · intro refused; exact Or.inr ⟨value, rfl, refused⟩
      · rintro (impossible | ⟨other, same, refused⟩)
        · cases impossible
        · cases same; exact refused

theorem rejectIf_eq_error {bad : Prop} [Decidable bad] {failure other : Failure} :
    rejectIf bad failure = .error other ↔ bad ∧ failure = other := by
  unfold rejectIf
  split <;> simp_all

theorem map_eq_ok {first : Except Failure Value} {convert : Value → Result} {result : Result} :
    first.map convert = .ok result ↔ ∃ value, first = .ok value ∧ convert value = result := by
  cases first with
  | error failure =>
      constructor
      · intro impossible; cases impossible
      · rintro ⟨value, impossible, _⟩; cases impossible
  | ok value =>
      constructor
      · intro same; cases same; exact ⟨value, rfl, rfl⟩
      · rintro ⟨other, same, rfl⟩; cases same; rfl

theorem mapError_eq_ok {Other : Type} {first : Except Failure Value} {convert : Failure → Other}
    {value : Value} : first.mapError convert = .ok value ↔ first = .ok value := by
  cases first with
  | error failure => simp only [Except.mapError, reduceCtorEq]
  | ok other => simp only [Except.mapError, Except.ok.injEq]

/-- A guard in front of a checker. -/
theorem guard_bind_eq_ok {first : Except Failure Unit} {rest : Unit → Except Failure Result}
    {result : Result} :
    (first >>= rest) = .ok result ↔ first = .ok () ∧ rest () = .ok result := by
  rw [bind_eq_ok]
  constructor
  · rintro ⟨done, passed, accepted⟩
    exact ⟨passed, accepted⟩
  · rintro ⟨passed, accepted⟩
    exact ⟨(), passed, accepted⟩

/-- The answer of a guard carries nothing. -/
theorem exists_unit {property : Unit → Prop} : (∃ done, property done) ↔ property () := by
  constructor
  · rintro ⟨done, holds⟩
    exact holds
  · intro holds
    exact ⟨(), holds⟩

@[simp] theorem pure_eq_ok {value result : Value} :
    (pure value : Except Failure Value) = .ok result ↔ value = result := by
  constructor
  · intro same; cases same; rfl
  · rintro rfl; rfl

@[simp] theorem throw_ne_ok {failure : Failure} {result : Value} :
    (throw failure : Except Failure Value) ≠ .ok result := by
  intro impossible
  cases impossible

/-- A value that must be present. -/
def require (found : Option Value) (failure : Failure) : Except Failure Value :=
  match found with
  | some value => .ok value
  | none => .error failure

@[simp] theorem require_eq_ok {found : Option Value} {failure : Failure} {value : Value} :
    require found failure = .ok value ↔ found = some value := by
  cases found <;> simp [require]

theorem require_eq_error {found : Option Value} {failure other : Failure} :
    require found failure = .error other ↔ found = none ∧ failure = other := by
  cases found <;> simp [require]

theorem forM_eq_ok {step : Value → Except Failure Unit} {items : List Value} :
    items.forM step = .ok () ↔ ∀ item ∈ items, step item = .ok () := by
  induction items with
  | nil => exact ⟨fun _ item member => absurd member List.not_mem_nil, fun _ => rfl⟩
  | cons item rest inductionHypothesis =>
      change (step item >>= fun _ => rest.forM step) = .ok () ↔ _
      rw [guard_bind_eq_ok, inductionHypothesis, List.forall_mem_cons]

/-- A loop that accepts new values only collects distinct values. -/
theorem foldlM_push {push : List Value → Value → Except Failure (List Value)}
    (fresh : ∀ {values value next}, push values value = .ok next →
      value ∉ values ∧ next = values ++ [value])
    {items values last : List Value} (accepted : items.foldlM push values = .ok last) :
    last = values ++ items ∧ (values.Nodup → last.Nodup) := by
  induction items generalizing values with
  | nil =>
      cases accepted
      exact ⟨(List.append_nil _).symm, id⟩
  | cons item rest inductionHypothesis =>
      rw [List.foldlM_cons, bind_eq_ok] at accepted
      obtain ⟨next, pushed, accepted⟩ := accepted
      obtain ⟨new, rfl⟩ := fresh pushed
      obtain ⟨rfl, distinct⟩ := inductionHypothesis accepted
      refine ⟨by rw [List.append_assoc, List.singleton_append], ?_⟩
      intro before
      refine distinct (List.nodup_append.mpr ⟨before, List.pairwise_singleton _ _, ?_⟩)
      intro value member other only same
      rw [List.mem_singleton] at only
      exact new (only ▸ same ▸ member)

/-- Every result of a successful traversal comes from one of its items. -/
theorem exists_of_mem_mapM {step : Value → Except Failure Result} {items : List Value}
    {results : List Result} (traversed : items.mapM step = .ok results) {result : Result}
    (member : result ∈ results) : ∃ item ∈ items, step item = .ok result := by
  induction items generalizing results with
  | nil =>
      cases traversed
      cases member
  | cons item rest inductionHypothesis =>
      simp only [List.mapM_cons, bind_eq_ok, pure_eq_ok] at traversed
      obtain ⟨first, accepted, others, traversedRest, rfl⟩ := traversed
      rcases List.mem_cons.mp member with rfl | member
      · exact ⟨item, List.mem_cons_self, accepted⟩
      · obtain ⟨source, sourceMember, produced⟩ := inductionHypothesis traversedRest member
        exact ⟨source, List.mem_cons_of_mem _ sourceMember, produced⟩

end Library
end Revenant
