import Revenant.Library.Mixing
import Revenant.Operations.Catalog

namespace Revenant
namespace Operations

open Library

/-!
# Each event of a route is picked by half of the seeds

The mixer permutes the seeds and so does the salt of a route, so the lowest bit
of a ticket is set for half of them.

Both counts are exact, over all 63-bit values, and no distribution of the
seeds is involved.
-/

/-- The seeds that `RouteSeed.new` admits. -/
def seeds : Set UInt64 := {value | value ≤ maxRouteSeed}

theorem mem_seeds {value : UInt64} : value ∈ seeds ↔ value.toNat ∈ Below 63 := by
  have limit : maxRouteSeed.toNat = 2 ^ 63 - 1 := rfl
  change value.toNat ≤ maxRouteSeed.toNat ↔ value.toNat < 2 ^ 63
  omega

theorem toNat_mask (value : UInt64) : (value &&& maxRouteSeed).toNat = value.toNat % 2 ^ 63 := by
  rw [UInt64.toNat_and]
  exact Nat.and_two_pow_sub_one_eq_mod value.toNat 63

/-! ## On natural numbers -/

/-- What a step on words does to the numbers they stand for. -/
theorem bijOn_seeds {mix : UInt64 → UInt64} {mixNat : Nat → Nat}
    (same : ∀ value ∈ seeds, (mix value).toNat = mixNat value.toNat)
    (permutes : Set.BijOn mixNat (Below 63) (Below 63)) : Set.BijOn mix seeds seeds := by
  refine ⟨?_, ?_, ?_⟩
  · intro value member
    rw [mem_seeds, same value member]
    exact permutes.mapsTo (mem_seeds.mp member)
  · intro first firstMember second secondMember equal
    have images := congrArg UInt64.toNat equal
    rw [same first firstMember, same second secondMember] at images
    exact UInt64.toNat_inj.mp
      (permutes.injOn (mem_seeds.mp firstMember) (mem_seeds.mp secondMember) images)
  · intro value member
    obtain ⟨source, below, image⟩ := permutes.surjOn (mem_seeds.mp member)
    have small : source < 2 ^ 64 := lt_trans below (by decide)
    have read : (UInt64.ofNat source).toNat = source := UInt64.toNat_ofNat_of_lt' small
    have inside : UInt64.ofNat source ∈ seeds := by
      rw [mem_seeds, read]
      exact below
    refine ⟨UInt64.ofNat source, inside, ?_⟩
    rw [← UInt64.toNat_inj, same _ inside, read]
    exact image

theorem toNat_mixRound {shift factor value : UInt64} (small : shift.toNat < 64) :
    (mixRound shift factor value).toNat =
      (value.toNat ^^^ (value.toNat >>> shift.toNat)) * factor.toNat % 2 ^ 63 := by
  unfold mixRound
  rw [toNat_mask, UInt64.toNat_mul, UInt64.toNat_xor, UInt64.toNat_shiftRight,
    Nat.mod_eq_of_lt small]
  exact Nat.mod_mod_of_dvd _ (by decide)

theorem bijOn_mixRound {shift factor : UInt64} (positive : 0 < shift.toNat)
    (small : shift.toNat < 64) (odd : factor.toNat % 2 = 1) :
    Set.BijOn (mixRound shift factor) seeds seeds :=
  bijOn_seeds (fun _ _ => toNat_mixRound small)
    ((bijOn_mulMod odd).comp (bijOn_xorShift positive))

theorem bijOn_mask : Set.BijOn (· &&& maxRouteSeed) seeds seeds := by
  have same : ∀ value ∈ seeds, (value &&& maxRouteSeed).toNat = id value.toNat := by
    intro value member
    rw [toNat_mask]
    exact Nat.mod_eq_of_lt (mem_seeds.mp member)
  exact bijOn_seeds same (Set.bijOn_id _)

theorem bijOn_lastRound :
    Set.BijOn (fun mixed : UInt64 => (mixed ^^^ (mixed >>> 31)) &&& maxRouteSeed) seeds seeds := by
  apply bijOn_seeds ?_ (bijOn_xorShift (by decide : 0 < 31))
  intro value member
  rw [toNat_mask, UInt64.toNat_xor, UInt64.toNat_shiftRight]
  exact Nat.mod_eq_of_lt (xorShift_lt 31 (mem_seeds.mp member))

/-! ## The tickets -/

theorem bijOn_permute63 : Set.BijOn permute63 seeds seeds := by
  have first : Set.BijOn (mixRound 30 0x3f79d71b4cb0a89d) seeds seeds :=
    bijOn_mixRound (by decide) (by decide) (by decide)
  have second : Set.BijOn (mixRound 27 0x1c69b3f74ac4ae35) seeds seeds :=
    bijOn_mixRound (by decide) (by decide) (by decide)
  exact bijOn_lastRound.comp (second.comp (first.comp bijOn_mask))

theorem RouteId.salt_seed (routeId : RouteId) : routeId.salt ∈ seeds := by
  cases routeId with
  | breach => exact (by decide : breachSalt ≤ maxRouteSeed)
  | stabilize => exact (by decide : stabilizeSalt ≤ maxRouteSeed)

/-- The ticket of a seed on a route. -/
def ticket (routeId : RouteId) (value : UInt64) : UInt64 := permute63 (value ^^^ routeId.salt)

theorem bijOn_ticket (routeId : RouteId) : Set.BijOn (ticket routeId) seeds seeds := by
  have salted : Set.BijOn (· ^^^ routeId.salt) seeds seeds := by
    apply bijOn_seeds ?_ (bijOn_xor (mem_seeds.mp routeId.salt_seed))
    intro value _
    exact UInt64.toNat_xor value routeId.salt
  exact bijOn_permute63.comp salted

theorem ncard_toNat (Property : Nat → Prop) :
    {value : UInt64 | value ∈ seeds ∧ Property value.toNat}.ncard =
      {value : Nat | value ∈ Below 63 ∧ Property value}.ncard := by
  have image : UInt64.toNat '' {value : UInt64 | value ∈ seeds ∧ Property value.toNat} =
      {value : Nat | value ∈ Below 63 ∧ Property value} := by
    ext value
    constructor
    · rintro ⟨source, ⟨member, holds⟩, rfl⟩
      exact ⟨mem_seeds.mp member, holds⟩
    · rintro ⟨below, holds⟩
      have read : (UInt64.ofNat value).toNat = value :=
        UInt64.toNat_ofNat_of_lt' (lt_trans below (by decide))
      refine ⟨UInt64.ofNat value, ⟨?_, read.symm ▸ holds⟩, read⟩
      rw [mem_seeds, read]
      exact below
  rw [← image]
  exact (Set.ncard_image_of_injective _ fun _ _ same => UInt64.toNat_inj.mp same).symm

theorem ticket_odd_iff (value : UInt64) : value &&& 1 ≠ 0 ↔ value.toNat % 2 = 1 := by
  rw [ne_eq, ← UInt64.toNat_inj, UInt64.toNat_and]
  change ¬ value.toNat &&& 1 = 0 ↔ _
  rw [Nat.and_one_is_mod]
  omega

/-- Half of the tickets of a route are odd, and half are even. -/
theorem ncard_ticket (routeId : RouteId) (remainder : Nat) (parity : remainder < 2) :
    {value | value ∈ seeds ∧ (ticket routeId value).toNat % 2 = remainder}.ncard = 2 ^ 62 := by
  rw [ncard_of_bijOn (bijOn_ticket routeId) (fun value => value.toNat % 2 = remainder),
    ncard_toNat (fun value => value % 2 = remainder)]
  exact ncard_parity 62 remainder parity

/-- The first event of a route goes with the even tickets, the second one with
the odd ones. -/
theorem resolveEvent_eventId (routeId : RouteId) (value : UInt64) :
    (resolveEvent routeId ⟨value⟩).eventId =
      if (ticket routeId value).toNat % 2 = 1 then (routeDefinition routeId).events.2
      else (routeDefinition routeId).events.1 := by
  change (if ticket routeId value &&& 1 ≠ 0 then _ else _) = _
  simp only [ticket_odd_iff]

/-- The mixer permutes the 63-bit values, with and without the salt of a route,
and each of the two events of a route is picked by exactly half of the seeds. -/
theorem event_fairness (routeId : RouteId) :
    Set.BijOn permute63 seeds seeds ∧
      Set.BijOn (fun value => permute63 (value ^^^ routeId.salt)) seeds seeds ∧
      seeds.ncard = 2 ^ 63 ∧
      (routeDefinition routeId).events.1 ≠ (routeDefinition routeId).events.2 ∧
      {value | value ∈ seeds ∧ (resolveEvent routeId ⟨value⟩).eventId =
        (routeDefinition routeId).events.1}.ncard = 2 ^ 62 ∧
      {value | value ∈ seeds ∧ (resolveEvent routeId ⟨value⟩).eventId =
        (routeDefinition routeId).events.2}.ncard = 2 ^ 62 := by
  have apart : (routeDefinition routeId).events.1 ≠ (routeDefinition routeId).events.2 := by
    cases routeId <;> decide
  refine ⟨bijOn_permute63, bijOn_ticket routeId, ?_, apart, ?_, ?_⟩
  · have all := ncard_toNat (fun _ => True)
    simp only [and_true] at all
    exact all.trans (ncard_below 63)
  · rw [← ncard_ticket routeId 0 (by decide)]
    congr 1
    ext value
    refine and_congr_right fun _ => ?_
    rw [resolveEvent_eventId]
    split
    · next odd => exact iff_of_false apart.symm (by omega)
    · next even => exact iff_of_true rfl (by omega)
  · rw [← ncard_ticket routeId 1 (by decide)]
    congr 1
    ext value
    refine and_congr_right fun _ => ?_
    rw [resolveEvent_eventId]
    split
    · next odd => exact iff_of_true rfl odd
    · next even => exact iff_of_false apart even

end Operations
end Revenant
