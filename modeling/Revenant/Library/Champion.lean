import Mathlib.Data.List.Induction
import Mathlib.Order.Lattice

namespace Revenant
namespace Library

/-!
# The first best element of a list

Reading a list from the left and replacing the kept element only by a strictly
better one keeps the first of the best elements.  `better` need not be a total
order: on the elements of the list, what beats an element has to beat everything
that does not beat it.
-/

variable {α : Type}

/-- The kept element after one more. -/
def challenge (better : α → α → Bool) (kept : Option α) (element : α) : Option α :=
  match kept with
  | none => some element
  | some old => some (if better element old then element else old)

/-- The element that a reader of the whole list keeps. -/
def champion (better : α → α → Bool) (elements : List α) : Option α :=
  elements.foldl (challenge better) none

variable {better : α → α → Bool}

@[simp] theorem champion_nil : champion better [] = none := rfl

@[simp] theorem champion_snoc (elements : List α) (element : α) :
    champion better (elements ++ [element]) = challenge better (champion better elements) element := by
  simp [champion]

theorem champion_eq_none_iff {elements : List α} : champion better elements = none ↔ elements = [] := by
  induction elements using List.reverseRecOn with
  | nil => simp
  | append_singleton elements element _ =>
      simp only [champion_snoc, List.append_eq_nil_iff, List.cons_ne_nil, and_false, iff_false]
      cases champion better elements with
      | none => exact Option.some_ne_none _
      | some old => exact Option.some_ne_none _

/-- `best` stands in the list, beats what is before it, and nothing after it
beats it. -/
def FirstBest (better : α → α → Bool) (elements : List α) (best : α) : Prop :=
  ∃ earlier later, elements = earlier ++ best :: later ∧
    (∀ old ∈ earlier, better best old = true) ∧ ∀ new ∈ later, better new best = false

/-- The comparison ranks the given elements. -/
structure Ranks (better : α → α → Bool) (elements : List α) : Prop where
  asymm : ∀ first ∈ elements, ∀ second ∈ elements,
    better first second = true → better second first = false
  beats : ∀ first ∈ elements, ∀ second ∈ elements, ∀ third ∈ elements,
    better first second = true → better third second = false → better first third = true

theorem Ranks.of_subset {elements others : List α} (ranks : Ranks better elements)
    (subset : others ⊆ elements) : Ranks better others := by
  constructor
  · intro first firstIn second secondIn
    exact ranks.asymm first (subset firstIn) second (subset secondIn)
  · intro first firstIn second secondIn third thirdIn
    exact ranks.beats first (subset firstIn) second (subset secondIn) third (subset thirdIn)

theorem champion_firstBest {elements : List α} {best : α} (ranks : Ranks better elements)
    (chosen : champion better elements = some best) : FirstBest better elements best := by
  induction elements using List.reverseRecOn generalizing best with
  | nil => cases chosen
  | append_singleton elements element inductionHypothesis =>
      rw [champion_snoc] at chosen
      cases kept : champion better elements with
      | none =>
          rw [kept] at chosen
          cases chosen
          rw [champion_eq_none_iff.mp kept]
          exact ⟨[], [], rfl, by simp, by simp⟩
      | some old =>
          obtain ⟨earlier, later, rfl, beaten, unbeaten⟩ :=
            inductionHypothesis (ranks.of_subset (List.subset_append_left _ _)) kept
          rw [kept] at chosen
          simp only [challenge, Option.some.injEq] at chosen
          cases wins : better element old with
          | false =>
              rw [wins, if_neg (by decide)] at chosen
              subst chosen
              refine ⟨earlier, later ++ [element], by simp, beaten, ?_⟩
              intro new member
              rcases List.mem_append.mp member with present | last
              · exact unbeaten new present
              · rw [List.mem_singleton.mp last]
                exact wins
          | true =>
              rw [wins, if_pos rfl] at chosen
              subst chosen
              refine ⟨earlier ++ old :: later, [], rfl, ?_, by simp⟩
              -- The new one beats the old one, and nobody so far beats the old one.
              intro other member
              refine ranks.beats element (by simp) old (by simp) other
                (List.mem_append_left _ member) wins ?_
              rcases List.mem_append.mp member with before | rest
              · exact ranks.asymm old (by simp) other (by simp [before]) (beaten other before)
              · rcases List.mem_cons.mp rest with rfl | after
                · by_contra reflexive
                  have self := ranks.asymm other (by simp) other (by simp) (by simpa using reflexive)
                  exact reflexive self
                · exact unbeaten other after

/-! ## Comparison by a key -/

section Key

variable {Key : Type} [LinearOrder Key] {key : α → Key} {elements others : List α} {best : α}

/-- On the given elements `better` means a smaller key. -/
def ComparesBy (better : α → α → Bool) (key : α → Key) (elements : List α) : Prop :=
  ∀ first ∈ elements, ∀ second ∈ elements, better first second = true ↔ key first < key second

theorem ComparesBy.ranks (compares : ComparesBy better key elements) : Ranks better elements := by
  constructor
  · intro first firstIn second secondIn wins
    have smaller := (compares first firstIn second secondIn).mp wins
    rw [Bool.eq_false_iff]
    intro loses
    exact lt_asymm smaller ((compares second secondIn first firstIn).mp loses)
  · intro first firstIn second secondIn third thirdIn wins fails
    have smaller := (compares first firstIn second secondIn).mp wins
    have larger : key second ≤ key third := by
      apply le_of_not_gt
      intro less
      rw [(compares third thirdIn second secondIn).mpr less] at fails
      cases fails
    exact (compares first firstIn third thirdIn).mpr (lt_of_lt_of_le smaller larger)

theorem champion_least (compares : ComparesBy better key elements)
    (chosen : champion better elements = some best) :
    best ∈ elements ∧ ∀ other ∈ elements, key best ≤ key other := by
  obtain ⟨earlier, later, rfl, beaten, unbeaten⟩ := champion_firstBest compares.ranks chosen
  have here : best ∈ earlier ++ best :: later := by simp
  refine ⟨here, ?_⟩
  intro other member
  rcases List.mem_append.mp member with before | rest
  · exact le_of_lt ((compares best here other member).mp (beaten other before))
  · rcases List.mem_cons.mp rest with rfl | after
    · exact le_refl _
    · apply le_of_not_gt
      intro less
      have wins := (compares other member best here).mpr less
      rw [unbeaten other after] at wins
      cases wins

/-- With different keys the kept element does not depend on the order. -/
theorem champion_perm (compares : ComparesBy better key elements)
    (distinct : ∀ first ∈ elements, ∀ second ∈ elements, key first = key second → first = second)
    (perm : others.Perm elements) : champion better others = champion better elements := by
  have compares' : ComparesBy better key others := by
    intro first firstIn second secondIn
    exact compares first (perm.mem_iff.mp firstIn) second (perm.mem_iff.mp secondIn)
  cases chosen : champion better elements with
  | none =>
      rw [champion_eq_none_iff] at chosen ⊢
      rw [chosen] at perm
      exact perm.eq_nil
  | some best =>
      cases chosen' : champion better others with
      | none =>
          rw [champion_eq_none_iff.mp chosen'] at perm
          rw [perm.nil_eq.symm] at chosen
          cases chosen
      | some best' =>
          obtain ⟨inside, least⟩ := champion_least compares chosen
          obtain ⟨inside', least'⟩ := champion_least compares' chosen'
          have member := perm.mem_iff.mp inside'
          have same := le_antisymm (least' best (perm.mem_iff.mpr inside)) (least best' member)
          rw [distinct best' member best inside same]

end Key

end Library
end Revenant
