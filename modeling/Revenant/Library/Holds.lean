import Revenant.Library.Splits

namespace Revenant
namespace Library

/-!
# Hold timers

A hold begins with the first entry at a place and ends with the first one away
from it.  A timer that is set at the first entry of a hold, kept while the hold
lasts and cleared when it ends knows how long every entry has been there: it
shows at least a given time exactly when some entry that long ago began a row of
entries at the place.
-/

variable {Entry : Type} {holds : Entry → Prop} {entries : List Entry} {first last : Entry}

theorem lately_snoc_iff : Lately holds (entries ++ [last]) first ↔
    holds last ∧ (first = last ∨ Lately holds entries first) := by
  constructor
  · rintro ⟨front, rest, split, all⟩
    rcases split_snoc split with ⟨rfl, rfl, rfl⟩ | ⟨others, rfl, rfl⟩
    · exact ⟨all first List.mem_cons_self, Or.inl rfl⟩
    · refine ⟨all last (by simp), Or.inr ⟨front, others, rfl, ?_⟩⟩
      intro entry member
      refine all entry ?_
      rw [← List.cons_append]
      exact List.mem_append_left _ member
  · rintro ⟨here, rfl | lately⟩
    · exact lately_last here
    · exact lately.snoc here

section Timer

variable {time : Entry → Nat} {started : Option Nat} {holdMs : Nat}

/-- A timer of the entries at a place. -/
structure Held (stay : Entry → Prop) (time : Entry → Nat) (entries : List Entry)
    (started : Option Nat) : Prop where
  began : ∀ began, started = some began → ∃ first, Lately stay entries first ∧ time first = began
  early : ∀ first, Lately stay entries first → ∃ began, started = some began ∧ began ≤ time first

/-- The last entry ends a row of entries at the place that lasted some time. -/
def Lasted (stay : Entry → Prop) (time : Entry → Nat) (holdMs : Nat) (entries : List Entry)
    (last : Entry) : Prop :=
  ∃ first, Lately stay (entries ++ [last]) first ∧ time first + holdMs ≤ time last

variable {stay : Entry → Prop}

theorem held_nil : Held stay time [] none := by
  constructor
  case began => nofun
  case early =>
    rintro first ⟨front, rest, split, -⟩
    simp at split

/-- Away from the place nothing is held. -/
theorem held_away (away : ¬ stay last) : Held stay time (entries ++ [last]) none := by
  constructor
  case began => nofun
  case early =>
    intro first lately
    exact absurd (lately_snoc_iff.mp lately).1 away

/-- At the place a timer is kept, or set to the present. -/
theorem Held.snoc (held : Held stay time entries started)
    (past : ∀ began, started = some began → began ≤ time last) (here : stay last) :
    Held stay time (entries ++ [last]) (some (started.getD (time last))) := by
  constructor
  case began =>
    rintro began ⟨⟩
    cases set : started with
    | none => exact ⟨last, lately_last here, rfl⟩
    | some began =>
        obtain ⟨first, lately, same⟩ := held.began began set
        exact ⟨first, lately.snoc here, same⟩
  case early =>
    intro first lately
    refine ⟨_, rfl, ?_⟩
    rcases (lately_snoc_iff.mp lately).2 with rfl | earlier
    · cases set : started with
      | none => exact Nat.le_refl _
      | some began => exact past began set
    · obtain ⟨began, rfl, before⟩ := held.early first earlier
      exact before

/-- What the timer shows is how long the place has been held. -/
theorem Held.lasted_iff (held : Held stay time entries started)
    (past : ∀ began, started = some began → began ≤ time last) (here : stay last) :
    Lasted stay time holdMs entries last ↔ holdMs ≤ time last - started.getD (time last) := by
  constructor
  · rintro ⟨first, lately, long⟩
    rcases (lately_snoc_iff.mp lately).2 with rfl | earlier
    · omega
    · obtain ⟨began, rfl, before⟩ := held.early first earlier
      rw [Option.getD_some]
      omega
  · intro long
    cases set : started with
    | none =>
        rw [set, Option.getD_none, Nat.sub_self] at long
        exact ⟨last, lately_last here, by omega⟩
    | some began =>
        obtain ⟨first, lately, rfl⟩ := held.began began set
        have before := past _ set
        rw [set, Option.getD_some] at long
        exact ⟨first, lately.snoc here, by omega⟩

theorem Lasted.here (lasted : Lasted stay time holdMs entries last) : stay last := by
  obtain ⟨first, lately, -⟩ := lasted
  exact (lately_snoc_iff.mp lately).1

end Timer

end Library
end Revenant
