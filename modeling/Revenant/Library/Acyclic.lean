import Revenant.Library.Splits
import Mathlib.Data.Fintype.Card
import Mathlib.Data.Set.Finite.Basic
import Mathlib.Logic.Relation
import Mathlib.Order.WellFounded

namespace Revenant
namespace Library

/-!
# Relations without cycles

A relation has no cycle when no element reaches itself.  Every nonempty list
then has an element that no element of the list points to, and a list in which
everything that points to an element stands before it shows that there is no
cycle among its elements.
-/

variable {Node : Type} {edge : Node → Node → Prop}

def Acyclic (edge : Node → Node → Prop) : Prop := ∀ node, ¬ Relation.TransGen edge node node

theorem Acyclic.exists_source (acyclic : Acyclic edge) {nodes : List Node} (some : nodes ≠ []) :
    ∃ node ∈ nodes, ∀ other ∈ nodes, ¬ edge other node := by
  have finite : Finite {node // node ∈ nodes} := nodes.finite_toSet.to_subtype
  let reaches (first second : {node // node ∈ nodes}) : Prop :=
    Relation.TransGen edge first.val second.val
  have transitive : IsTrans {node // node ∈ nodes} reaches :=
    ⟨fun _ _ _ first second => first.trans second⟩
  have irreflexive : Std.Irrefl reaches := ⟨fun node => acyclic node.val⟩
  have founded := Finite.wellFounded_of_trans_of_irrefl reaches
  obtain ⟨first, member⟩ := List.exists_mem_of_ne_nil nodes some
  obtain ⟨least, -, minimal⟩ := founded.has_min Set.univ ⟨⟨first, member⟩, trivial⟩
  refine ⟨least.val, least.property, ?_⟩
  intro other inside points
  exact minimal ⟨other, inside⟩ trivial (.single points)

/-- What points to an element stands before it. -/
def Sorted (edge : Node → Node → Prop) (order : List Node) : Prop :=
  ∀ front node back, order = front ++ node :: back → ∀ other, edge other node → other ∈ front

theorem sorted_nil : Sorted edge [] := by
  intro front node back split
  simp at split

theorem Sorted.snoc {order : List Node} {last : Node} (sorted : Sorted edge order)
    (before : ∀ other, edge other last → other ∈ order) : Sorted edge (order ++ [last]) :=
  forall_split_snoc (fun front node _ => ∀ other, edge other node → other ∈ front)
    sorted before

/-- What reaches an element stands before it as well. -/
theorem Sorted.reaches {order front back : List Node} {node other : Node}
    (sorted : Sorted edge order) (split : order = front ++ node :: back)
    (reaches : Relation.TransGen edge other node) : other ∈ front := by
  induction reaches generalizing front back with
  | single points => exact sorted front _ back split _ points
  | tail _ points inductionHypothesis =>
      have member := sorted front _ back split _ points
      obtain ⟨earlier, later, rfl⟩ := List.append_of_mem member
      have inside := @inductionHypothesis earlier (later ++ _ :: back) (by
        rw [split, List.append_assoc, List.cons_append])
      exact List.mem_append_left _ inside

/-- The nodes can be put in order. -/
theorem Acyclic.exists_sorted (acyclic : Acyclic edge) (nodes : List Node) :
    ∃ order, order.Perm nodes ∧ Sorted (fun other node => other ∈ nodes ∧ edge other node) order := by
  induction size : nodes.length generalizing nodes with
  | zero =>
      rw [List.length_eq_zero_iff] at size
      exact ⟨[], size ▸ List.Perm.refl _, sorted_nil⟩
  | succ count inductionHypothesis =>
      have some : nodes ≠ [] := List.ne_nil_of_length_eq_add_one size
      obtain ⟨first, member, source⟩ := acyclic.exists_source some
      obtain ⟨before, after, rfl⟩ := List.append_of_mem member
      have fewer : (before ++ after).length = count := by
        rw [List.length_append, List.length_cons] at size
        rw [List.length_append]
        omega
      obtain ⟨order, same, sorted⟩ := inductionHypothesis (before ++ after) fewer
      refine ⟨first :: order, (same.cons first).trans List.perm_middle.symm, ?_⟩
      rintro front node back split other ⟨inside, points⟩
      cases front with
      | nil =>
          obtain ⟨rfl, -⟩ := List.cons.inj split
          exact absurd points (source other inside)
      | cons head front =>
          obtain ⟨rfl, rest⟩ := List.cons.inj split
          rcases List.mem_cons.mp (List.perm_middle.mem_iff.mp inside) with rfl | inside
          · exact List.mem_cons_self
          · exact List.mem_cons_of_mem _ (sorted front node back rest other ⟨inside, points⟩)

/-- A sorted list of all targets leaves no room for a cycle. -/
theorem acyclic_of_sorted {order : List Node} (sorted : Sorted edge order) (distinct : order.Nodup)
    (complete : ∀ source target, edge source target → target ∈ order) : Acyclic edge := by
  intro node reaches
  have member : node ∈ order := by
    cases reaches with
    | single points => exact complete _ _ points
    | tail _ points => exact complete _ _ points
  obtain ⟨front, back, split⟩ := List.append_of_mem member
  have before := sorted.reaches split reaches
  rw [split, List.nodup_append] at distinct
  exact distinct.2.2 node before node List.mem_cons_self rfl

end Library
end Revenant
