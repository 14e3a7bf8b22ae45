import Mathlib.Data.List.Basic

namespace Revenant
namespace Library

/-!
# Ledgers of applied operations

A ledger maps the key of an applied operation to what it stored, the newest
entry first.  While every entry is made under a fresh key, the ledger is the
reversed list of the applied operations, and whatever was stored is found again.
-/

variable {Key Stored : Type}

theorem lookup_of_mem [DecidableEq Key] {ledger : List (Key × Stored)}
    (distinct : (ledger.map Prod.fst).Nodup) {entry : Key × Stored} (member : entry ∈ ledger) : ledger.lookup entry.1 = some entry.2 := by
  obtain ⟨front, back, rfl⟩ := List.append_of_mem member
  rw [List.lookup_eq_some_iff]
  refine ⟨front, back, rfl, ?_⟩
  intro earlier earlierMember
  rw [List.map_append, List.map_cons, List.nodup_append] at distinct
  have apart := distinct.2.2 earlier.1 (List.mem_map_of_mem earlierMember) entry.1
    List.mem_cons_self
  exact bne_iff_ne.mpr (Ne.symm apart)

/-- The ledger holds the applied operations, each once and no more than the limit. -/
structure Recorded (limit : Nat) (applied ledger : List (Key × Stored)) : Prop where
  entries : ledger = applied.reverse
  distinct : (ledger.map Prod.fst).Nodup
  bounded : ledger.length ≤ limit

namespace Recorded

variable {limit : Nat} {applied ledger : List (Key × Stored)}

theorem none : Recorded limit ([] : List (Key × Stored)) [] where
  entries := rfl
  distinct := List.nodup_nil
  bounded := Nat.zero_le limit

theorem remember [DecidableEq Key] (recorded : Recorded limit applied ledger) {key : Key} {stored : Stored}
    (unknown : ledger.lookup key = Option.none) (room : ledger.length < limit) :
    Recorded limit (applied ++ [(key, stored)]) ((key, stored) :: ledger) where
  entries := by rw [List.reverse_append, recorded.entries]; rfl
  distinct := by
    refine List.nodup_cons.mpr ⟨?_, recorded.distinct⟩
    intro member
    obtain ⟨entry, known, rfl⟩ := List.mem_map.mp member
    have differs := List.lookup_eq_none_iff.mp unknown entry known
    exact bne_iff_ne.mp differs rfl
  bounded := room

theorem lookup [DecidableEq Key] (recorded : Recorded limit applied ledger) {key : Key} {stored : Stored}
    (member : (key, stored) ∈ applied) : ledger.lookup key = some stored := by
  have known : (key, stored) ∈ ledger := recorded.entries ▸ List.mem_reverse.mpr member
  exact lookup_of_mem recorded.distinct known

theorem length_eq (recorded : Recorded limit applied ledger) : ledger.length = applied.length := by
  rw [recorded.entries, List.length_reverse]

end Recorded

end Library
end Revenant
