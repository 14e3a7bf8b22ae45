import Mathlib.Data.List.Induction

namespace Revenant
namespace Library

/-!
# Splits of a list that grows at its end

A history is read at each of its entries: what was before it and what comes
after.  One more entry adds one such split, and extends the others.  `Lately`
is a property that has held without a break, and `successor_spec` reads the
first part of an order at its end.
-/

variable {Entry : Type}

/-- The first and the last entry of a list that is split at an entry. -/
theorem split_snoc {entries front back : List Entry} {last entry : Entry}
    (split : entries ++ [last] = front ++ entry :: back) :
    (entry = last ∧ back = [] ∧ entries = front) ∨
      ∃ others, back = others ++ [last] ∧ entries = front ++ entry :: others := by
  rcases List.eq_nil_or_concat back with rfl | ⟨others, final, rfl⟩
  · obtain ⟨same, final⟩ := List.append_inj' split rfl
    exact Or.inl ⟨(List.cons.inj final).1.symm, rfl, same⟩
  · rw [List.concat_eq_append, ← List.cons_append, ← List.append_assoc] at split
    obtain ⟨same, final⟩ := List.append_inj' split rfl
    obtain ⟨rfl, -⟩ := List.cons.inj final
    exact Or.inr ⟨others, List.concat_eq_append, same⟩

/-- What holds of every split so far holds of one entry more, when it holds at
that entry. -/
theorem forall_split_snoc (property : List Entry → Entry → List Entry → Prop)
    {entries : List Entry} {last : Entry}
    (old : ∀ front entry others, entries = front ++ entry :: others →
      property front entry (others ++ [last])) (new : property entries last []) :
    ∀ front entry back, entries ++ [last] = front ++ entry :: back → property front entry back := by
  intro front entry back split
  rcases split_snoc split with ⟨rfl, rfl, rfl⟩ | ⟨others, rfl, same⟩
  · exact new
  · exact old front entry others same

theorem filterMap_snoc {Value : Type} (read : Entry → Option Value) (entries : List Entry)
    (last : Entry) :
    (entries ++ [last]).filterMap read = entries.filterMap read ++ (read last).toList := by
  rw [List.filterMap_append]
  cases found : read last with
  | none => rw [List.filterMap_cons_none found, List.filterMap_nil, Option.toList_none]
  | some value => rw [List.filterMap_cons_some found, List.filterMap_nil, Option.toList_some]

theorem suffix_snoc {recent entries : List Entry} (suffix : recent <:+ entries)
    (last : Entry) : recent ++ [last] <:+ entries ++ [last] := by
  obtain ⟨front, rfl⟩ := suffix
  exact ⟨front, (List.append_assoc _ _ _).symm⟩

/-- Looking back from the end finds the last marked entry. -/
theorem split_of_reverse_find? {mark : Entry → Bool} {entries : List Entry} {last : Entry}
    (found : entries.reverse.find? mark = some last) :
    ∃ front back, entries = front ++ last :: back ∧ mark last = true ∧
      ∀ entry ∈ back, mark entry = false := by
  obtain ⟨marked, others, rest, same, unmarked⟩ := List.find?_eq_some_iff_append.mp found
  refine ⟨rest.reverse, others.reverse, ?_, marked, ?_⟩
  · rw [← List.reverse_reverse entries, same, List.reverse_append, List.reverse_cons,
      List.append_assoc, List.singleton_append]
  · intro entry member
    simpa using unmarked entry (List.mem_reverse.mp member)

/-- From `first` on every entry has a property. -/
def Lately (holds : Entry → Prop) (entries : List Entry) (first : Entry) : Prop :=
  ∃ front rest, entries = front ++ first :: rest ∧ ∀ entry ∈ first :: rest, holds entry

theorem lately_last {holds : Entry → Prop} {entries : List Entry} {last : Entry}
    (here : holds last) : Lately holds (entries ++ [last]) last := by
  refine ⟨entries, [], rfl, ?_⟩
  intro entry member
  rw [List.mem_singleton] at member
  exact member ▸ here

theorem Lately.snoc {holds : Entry → Prop} {entries : List Entry} {first last : Entry}
    (lately : Lately holds entries first) (here : holds last) :
    Lately holds (entries ++ [last]) first := by
  obtain ⟨front, rest, rfl, all⟩ := lately
  refine ⟨front, rest ++ [last], by rw [List.append_assoc, List.cons_append], ?_⟩
  intro entry member
  rw [← List.cons_append, List.mem_append, List.mem_singleton] at member
  rcases member with old | rfl
  · exact all entry old
  · exact here

/-- Only calm entries came after a marked one. -/
def Since (mark calm : Entry → Prop) (entries : List Entry) : Prop :=
  ∃ front first rest, entries = front ++ first :: rest ∧ mark first ∧ ∀ entry ∈ rest, calm entry

section Marks

variable {mark calm other quiet : Entry → Prop} {entries : List Entry} {last : Entry}

theorem since_last (here : mark last) : Since mark calm (entries ++ [last]) :=
  ⟨entries, last, [], rfl, here, nofun⟩

theorem Since.snoc (since : Since mark calm entries) (here : calm last) :
    Since mark calm (entries ++ [last]) := by
  obtain ⟨front, first, rest, rfl, marked, all⟩ := since
  refine ⟨front, first, rest ++ [last], by rw [List.append_assoc, List.cons_append], marked, ?_⟩
  intro entry member
  rw [List.mem_append, List.mem_singleton] at member
  rcases member with old | rfl
  · exact all entry old
  · exact here

theorem Since.mono (since : Since mark calm entries) (marks : ∀ entry, mark entry → other entry)
    (calms : ∀ entry, calm entry → quiet entry) : Since other quiet entries := by
  obtain ⟨front, first, rest, same, marked, all⟩ := since
  exact ⟨front, first, rest, same, marks first marked, fun entry member => calms entry (all entry member)⟩

end Marks

/-! ## The next entry of an order -/

section Successor

variable [DecidableEq Entry]

/-- The entry that follows in an order. -/
def successor (order : List Entry) (current : Entry) : Option Entry :=
  ((order.zip order.tail).find? (fun pair => pair.1 = current)).map Prod.snd

/-- After a first part that ends in `current`, the order ends or goes on with
the successor. -/
theorem successor_spec {order front : List Entry} {current : Entry} (distinct : order.Nodup)
    (reached : front ++ [current] <+: order) :
    (successor order current = none ∧ front ++ [current] = order) ∨
      ∃ next, successor order current = some next ∧ front ++ [current, next] <+: order := by
  induction front generalizing order with
  | nil =>
      obtain ⟨rest, rfl⟩ := reached
      cases rest with
      | nil => exact Or.inl ⟨rfl, rfl⟩
      | cons next rest =>
          refine Or.inr ⟨next, ?_, rest, rfl⟩
          simp [successor]
  | cons entry front inductionHypothesis =>
      obtain ⟨rest, rfl⟩ := reached
      rw [List.cons_append, List.cons_append, List.nodup_cons] at distinct
      have other : entry ≠ current := by
        rintro rfl
        exact distinct.1 (by simp)
      -- the pair that begins with the first entry is passed over
      have skip : successor (entry :: (front ++ [current] ++ rest)) current =
          successor (front ++ [current] ++ rest) current := by
        cases front with
        | nil => simp [successor, other]
        | cons second front => simp [successor, other]
      rw [List.cons_append, List.cons_append, skip]
      rcases inductionHypothesis distinct.2 ⟨rest, rfl⟩ with ⟨ended, same⟩ | ⟨next, found, goes⟩
      · exact Or.inl ⟨ended, congrArg (entry :: ·) same⟩
      · exact Or.inr ⟨next, found, (List.cons_prefix_cons).mpr ⟨rfl, goes⟩⟩

end Successor

end Library
end Revenant
