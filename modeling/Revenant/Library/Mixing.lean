import Mathlib.Data.Nat.Bitwise
import Mathlib.Data.Nat.ModEq
import Mathlib.Data.Nat.Prime.Basic
import Mathlib.Data.Set.Card
import Mathlib.Order.Interval.Finset.Nat

namespace Revenant
namespace Library

/-!
# Mixing numbers of a fixed width

A mixer permutes the numbers below a power of two when each of its rounds does:
a right shift is added without carry, and a masked product has an odd factor.
A permutation keeps the number of those whose image has a property.
-/

/-- The numbers of a width. -/
def Below (width : Nat) : Set Nat := {value | value < 2 ^ width}

theorem finite_below (width : Nat) : (Below width).Finite := Set.finite_lt_nat _

theorem ncard_below (width : Nat) : (Below width).ncard = 2 ^ width := by
  have same : Below width = (Finset.range (2 ^ width) : Set Nat) := by
    ext value
    simp [Below]
  rw [same, Set.ncard_coe_finset, Finset.card_range]

/-! ## The rounds -/

/-- Every bit is the sum of the mixed bit and of a higher one, so the bits come
back from the highest down. -/
theorem xorShift_injective {shift : Nat} (positive : 0 < shift) :
    Function.Injective (fun value : Nat => value ^^^ (value >>> shift)) := by
  intro first second same
  apply Nat.eq_of_testBit_eq
  have high : ∀ index, first + second ≤ index →
      first.testBit index = false ∧ second.testBit index = false := by
    intro index above
    constructor
    · exact Nat.testBit_lt_two_pow (lt_of_le_of_lt (by omega) (Nat.lt_two_pow_self (n := index)))
    · exact Nat.testBit_lt_two_pow (lt_of_le_of_lt (by omega) (Nat.lt_two_pow_self (n := index)))
  -- the induction is on the distance from the bits that both lack
  have bits : ∀ distance index, first + second ≤ index + distance →
      first.testBit index = second.testBit index := by
    intro distance
    induction distance with
    | zero =>
        intro index above
        obtain ⟨left, right⟩ := high index above
        rw [left, right]
    | succ distance inductionHypothesis =>
        intro index above
        have mixed := congrArg (fun value : Nat => value.testBit index) same
        simp only [Nat.testBit_xor, Nat.testBit_shiftRight] at mixed
        rw [inductionHypothesis (shift + index) (by omega)] at mixed
        exact Bool.xor_left_inj.mp mixed
  intro index
  exact bits (first + second) index (Nat.le_add_left _ _)

theorem xorShift_lt {width value : Nat} (shift : Nat) (bounded : value < 2 ^ width) :
    value ^^^ (value >>> shift) < 2 ^ width :=
  Nat.xor_lt_two_pow bounded (lt_of_le_of_lt (Nat.shiftRight_le _ _) bounded)

theorem bijOn_xorShift {width shift : Nat} (positive : 0 < shift) :
    Set.BijOn (fun value => value ^^^ (value >>> shift)) (Below width) (Below width) := by
  have inside : Set.MapsTo (fun value : Nat => value ^^^ (value >>> shift)) (Below width)
      (Below width) := fun value bounded => xorShift_lt shift bounded
  exact ((finite_below width).injOn_iff_bijOn_of_mapsTo inside).mp
    (xorShift_injective positive).injOn

/-- An odd factor has an inverse modulo a power of two. -/
theorem bijOn_mulMod {width factor : Nat} (odd : factor % 2 = 1) :
    Set.BijOn (fun value => value * factor % 2 ^ width) (Below width) (Below width) := by
  have inside : Set.MapsTo (fun value : Nat => value * factor % 2 ^ width) (Below width)
      (Below width) := fun value _ => Nat.mod_lt _ (Nat.two_pow_pos width)
  refine ((finite_below width).injOn_iff_bijOn_of_mapsTo inside).mp ?_
  intro first firstBounded second secondBounded same
  have coprime : Nat.gcd (2 ^ width) factor = 1 :=
    Nat.Coprime.pow_left width (Nat.coprime_two_left.mpr (Nat.odd_iff.mpr odd))
  have equal : first ≡ second [MOD 2 ^ width] :=
    Nat.ModEq.cancel_right_of_coprime coprime same
  exact Nat.ModEq.eq_of_lt_of_lt equal firstBounded secondBounded

/-- A constant of the width is added without carry. -/
theorem bijOn_xor {width constant : Nat} (bounded : constant < 2 ^ width) :
    Set.BijOn (fun value => value ^^^ constant) (Below width) (Below width) := by
  have inside : Set.MapsTo (fun value : Nat => value ^^^ constant) (Below width)
      (Below width) := fun value below => Nat.xor_lt_two_pow below bounded
  refine ((finite_below width).injOn_iff_bijOn_of_mapsTo inside).mp ?_
  intro first _ second _ same
  exact Nat.xor_left_injective same

/-! ## Counting -/

/-- A permutation has as many arguments as images with a property. -/
theorem ncard_of_bijOn {Value : Type} {mix : Value → Value} {values : Set Value}
    (permutes : Set.BijOn mix values values) (Property : Value → Prop) :
    {value | value ∈ values ∧ Property (mix value)}.ncard =
      {value | value ∈ values ∧ Property value}.ncard := by
  have image : mix '' {value | value ∈ values ∧ Property (mix value)} =
      {value | value ∈ values ∧ Property value} := by
    ext value
    constructor
    · rintro ⟨source, ⟨member, holds⟩, rfl⟩
      exact ⟨permutes.mapsTo member, holds⟩
    · rintro ⟨member, holds⟩
      obtain ⟨source, sourceMember, rfl⟩ := permutes.surjOn member
      exact ⟨source, ⟨sourceMember, holds⟩, rfl⟩
  rw [← image]
  exact (permutes.injOn.mono fun _ member => member.1).ncard_image.symm

/-- Half of the numbers of a width are odd, and half are even. -/
theorem ncard_parity (width remainder : Nat) (parity : remainder < 2) :
    {value | value ∈ Below (width + 1) ∧ value % 2 = remainder}.ncard = 2 ^ width := by
  have image : (fun value => 2 * value + remainder) '' Below width =
      {value | value ∈ Below (width + 1) ∧ value % 2 = remainder} := by
    ext value
    simp only [Below, Set.mem_image, Set.mem_ofPred_eq, Nat.pow_succ]
    constructor
    · rintro ⟨half, bounded, rfl⟩
      omega
    · rintro ⟨bounded, same⟩
      exact ⟨value / 2, by omega, by omega⟩
  rw [← image, Set.ncard_image_of_injective, ncard_below]
  intro first second same
  simp only at same
  omega

end Library
end Revenant
