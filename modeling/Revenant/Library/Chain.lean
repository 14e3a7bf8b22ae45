import Mathlib.Data.List.Induction

namespace Revenant
namespace Library

/-!
# Chains of recorded transitions

A journal of transitions keeps the state before and after each of them.  It is
a chain when every entry begins where the one before it ended.  Only the ends
matter to a reader who continues it, so the lemmas below split a chain at the
end, where journals grow.
-/

variable {State Entry : Type}

/-- `entries` lead from `start` to `final`, each from the state the previous
one ended in. -/
inductive Chain (before after : Entry → State) : State → List Entry → State → Prop
  | nil (state : State) : Chain before after state [] state
  | cons {entry : Entry} {rest : List Entry} {final : State}
      (later : Chain before after (after entry) rest final) :
      Chain before after (before entry) (entry :: rest) final

namespace Chain

variable {before after : Entry → State} {start middle final : State}

theorem nil_iff : Chain before after start [] final ↔ start = final := by
  constructor
  · intro chain
    cases chain
    rfl
  · rintro rfl
    exact Chain.nil _

theorem cons_iff {entry : Entry} {rest : List Entry} :
    Chain before after start (entry :: rest) final ↔
      before entry = start ∧ Chain before after (after entry) rest final := by
  constructor
  · intro chain
    cases chain with
    | cons later => exact ⟨rfl, later⟩
  · rintro ⟨rfl, later⟩
    exact Chain.cons later

theorem append_iff {first second : List Entry} :
    Chain before after start (first ++ second) final ↔
      ∃ middle, Chain before after start first middle ∧ Chain before after middle second final := by
  induction first generalizing start with
  | nil =>
      constructor
      · intro chain
        exact ⟨start, Chain.nil _, chain⟩
      · rintro ⟨middle, empty, chain⟩
        rw [nil_iff] at empty
        exact empty ▸ chain
  | cons entry rest inductionHypothesis =>
      simp only [List.cons_append, cons_iff, inductionHypothesis]
      constructor
      · rintro ⟨same, middle, chain, later⟩
        exact ⟨middle, ⟨same, chain⟩, later⟩
      · rintro ⟨middle, ⟨same, chain⟩, later⟩
        exact ⟨same, middle, chain, later⟩

theorem snoc_iff {entries : List Entry} {entry : Entry} :
    Chain before after start (entries ++ [entry]) final ↔
      Chain before after start entries (before entry) ∧ after entry = final := by
  rw [append_iff]
  constructor
  · rintro ⟨middle, chain, last⟩
    rw [cons_iff, nil_iff] at last
    exact ⟨last.1.symm ▸ chain, last.2⟩
  · rintro ⟨chain, rfl⟩
    exact ⟨before entry, chain, cons_iff.mpr ⟨rfl, Chain.nil _⟩⟩

/-- Induction along a chain of accepted entries, from its first entry to its
last: what holds of the empty chain and survives one more entry holds of all. -/
theorem snocInduction {Accepted : Entry → Prop} {motive : List Entry → State → Prop}
    (empty : motive [] start)
    (grow : ∀ entries entry, Chain before after start entries (before entry) → Accepted entry →
      (∀ old ∈ entries, Accepted old) → motive entries (before entry) →
      motive (entries ++ [entry]) (after entry))
    {entries : List Entry} (chain : Chain before after start entries final)
    (accepted : ∀ entry ∈ entries, Accepted entry) : motive entries final := by
  induction entries using List.reverseRecOn generalizing final with
  | nil => exact nil_iff.mp chain ▸ empty
  | append_singleton entries entry inductionHypothesis =>
      obtain ⟨earlier, rfl⟩ := snoc_iff.mp chain
      have acceptedEarlier : ∀ old ∈ entries, Accepted old :=
        fun old member => accepted old (List.mem_append_left _ member)
      exact grow entries entry earlier (accepted entry (by simp)) acceptedEarlier
        (inductionHypothesis earlier acceptedEarlier)

end Chain

end Library
end Revenant
