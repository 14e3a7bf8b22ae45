import Mathlib.Data.List.Basic

namespace Revenant
namespace Library

/-!
# Pacing and crowding

Items that follow each other at a fixed pace take time in proportion to their
number, and many items of few sources include many of one source.
-/

variable {Item Source : Type}

/-- Between the first and the last of a paced list lie as many paces as there
are items after the first. -/
theorem paced {time : Item → Nat} {pace : Nat} {first last : Item} {rest : List Item}
    (apart : (first :: rest).Pairwise (fun earlier later => time earlier + pace ≤ time later))
    (ends : (first :: rest).getLast? = some last) :
    time first + rest.length * pace ≤ time last := by
  induction rest generalizing first with
  | nil =>
      cases ends
      rw [List.length_nil, Nat.zero_mul]
      exact Nat.le_refl _
  | cons second rest inductionHypothesis =>
      rw [List.pairwise_cons] at apart
      have tail := inductionHypothesis apart.2 (by rwa [List.getLast?_cons_cons] at ends)
      have step := apart.1 second List.mem_cons_self
      rw [List.length_cons, Nat.succ_mul]
      omega

/-- Without crowding at any source there are few items. -/
theorem length_le_of_uncrowded [DecidableEq Source] {source : Item → Source}
    {sources : List Source} {bound : Nat} {items : List Item}
    (known : ∀ item ∈ items, source item ∈ sources)
    (uncrowded : ∀ origin ∈ sources,
      (items.filter (fun item => source item = origin)).length ≤ bound) :
    items.length ≤ sources.length * bound := by
  induction sources generalizing items with
  | nil =>
      cases items with
      | nil => exact Nat.zero_le _
      | cons item rest => cases known item List.mem_cons_self
  | cons origin others inductionHypothesis =>
      have split : items.length = _ :=
        List.length_eq_length_filter_add (fun item => decide (source item = origin))
      have here := uncrowded origin List.mem_cons_self
      have elsewhere : (items.filter (fun item => !decide (source item = origin))).length ≤
          others.length * bound := by
        apply inductionHypothesis
        · intro item member
          obtain ⟨listed, other⟩ := List.mem_filter.mp member
          have apart : source item ≠ origin := by simpa using other
          exact (List.mem_cons.mp (known item listed)).resolve_left apart
        · intro other listed
          have fewer : (List.filter (fun item => source item = other)
              (items.filter (fun item => !decide (source item = origin)))).Sublist
                (items.filter (fun item => source item = other)) :=
            List.Sublist.filter _ List.filter_sublist
          exact Nat.le_trans fewer.length_le (uncrowded other (List.mem_cons_of_mem _ listed))
      rw [List.length_cons, Nat.succ_mul]
      omega

end Library
end Revenant
