import Mathlib.Data.List.Induction
import Mathlib.Tactic.Positivity
import Mathlib.Tactic.Ring
import Mathlib.Tactic.Zify

namespace Revenant
namespace Library

/-!
# Numbers in bytes

A number is written in a fixed number of bytes, the most significant one first,
and read back from them.
-/

variable {bytes : List UInt8} {width number : Nat}

/-- The last bytes of a number, the most significant one first. -/
def bigEndian : Nat → Nat → List UInt8
  | 0, _ => []
  | width + 1, number => UInt8.ofNat (number / 256 ^ width) :: bigEndian width number

def ofBigEndian (bytes : List UInt8) : Nat :=
  bytes.foldl (fun number byte => number * 256 + byte.toNat) 0

@[simp] theorem length_bigEndian (width number : Nat) : (bigEndian width number).length = width := by
  induction width with
  | zero => rfl
  | succ width inductionHypothesis => rw [bigEndian, List.length_cons, inductionHypothesis]

theorem ofBigEndian_nil : ofBigEndian [] = 0 := rfl

theorem ofBigEndian_snoc (bytes : List UInt8) (byte : UInt8) :
    ofBigEndian (bytes ++ [byte]) = ofBigEndian bytes * 256 + byte.toNat := by
  unfold ofBigEndian
  rw [List.foldl_append, List.foldl_cons, List.foldl_nil]

theorem ofBigEndian_cons (byte : UInt8) (bytes : List UInt8) :
    ofBigEndian (byte :: bytes) = byte.toNat * 256 ^ bytes.length + ofBigEndian bytes := by
  induction bytes using List.reverseRecOn with
  | nil => simp [ofBigEndian]
  | append_singleton bytes last inductionHypothesis =>
      rw [← List.cons_append, ofBigEndian_snoc, ofBigEndian_snoc, inductionHypothesis,
        List.length_append, List.length_singleton, Nat.pow_succ]
      ring

/-- What is read back is the number, as far as the bytes reach. -/
theorem ofBigEndian_bigEndian (width number : Nat) :
    ofBigEndian (bigEndian width number) = number % 256 ^ width := by
  induction width with
  | zero => rw [bigEndian, ofBigEndian_nil, Nat.pow_zero, Nat.mod_one]
  | succ width inductionHypothesis =>
      have split : number % 256 ^ (width + 1) =
          number % 256 ^ width + 256 ^ width * (number / 256 ^ width % 256) := by
        rw [Nat.pow_succ, Nat.mod_mul]
      rw [bigEndian, ofBigEndian_cons, inductionHypothesis, length_bigEndian, UInt8.toNat_ofNat',
        split]
      ring

theorem ofBigEndian_bigEndian_of_lt (fits : number < 256 ^ width) :
    ofBigEndian (bigEndian width number) = number := by
  rw [ofBigEndian_bigEndian, Nat.mod_eq_of_lt fits]

theorem bigEndian_eq_map (width number : Nat) : bigEndian width number =
    (List.range width).reverse.map (fun index => UInt8.ofNat (number / 256 ^ index)) := by
  induction width with
  | zero => rfl
  | succ width inductionHypothesis =>
      rw [bigEndian, inductionHypothesis, List.range_succ, List.reverse_append]
      rfl

/-! ## Signed numbers -/

/-- A digit of a number is that of what is left of it in enough bytes. -/
theorem digit_emod (value : Int) {index width : Nat} (within : index < width) :
    value / 256 ^ index % 256 = value % 256 ^ width / 256 ^ index % 256 := by
  obtain ⟨more, rfl⟩ := Nat.exists_eq_add_of_lt within
  have whole : (256 : Int) ^ (index + more + 1) = 256 ^ index * (256 * 256 ^ more) := by ring
  have positive : (256 : Int) ^ index ≠ 0 := by positivity
  rw [whole]
  conv_lhs => rw [← Int.emod_add_mul_ediv value (256 ^ index * (256 * 256 ^ more))]
  rw [mul_assoc, Int.add_mul_ediv_left _ _ positive, mul_assoc, Int.add_mul_emod_self_left]

/-- The shifted bytes of an integer are those of its two's complement. -/
theorem shifted_eq_bigEndian (value : Int) (width : Nat) :
    (List.range width).reverse.map (fun (index : Nat) =>
      UInt8.ofNat ((value >>> (8 * index)) % 0x100).toNat) =
        bigEndian width (value % 256 ^ width).toNat := by
  rw [bigEndian_eq_map]
  apply List.map_congr_left
  intro index member
  rw [List.mem_reverse, List.mem_range] at member
  have shifted : value >>> (8 * index) = value / 256 ^ index := by
    rw [Int.shiftRight_eq_div_pow, pow_mul]
    rfl
  have natural : (((value % 256 ^ width).toNat : Nat) : Int) = value % 256 ^ width :=
    Int.toNat_of_nonneg (Int.emod_nonneg value (by positivity))
  have digit := digit_emod value member
  rw [← natural] at digit
  have same : ((value / 256 ^ index % 256).toNat : Int) =
      (((value % 256 ^ width).toNat / 256 ^ index % 256 : Nat) : Int) := by
    rw [Int.toNat_of_nonneg (Int.emod_nonneg _ (by decide)), digit]
    push_cast
    rfl
  rw [shifted, ← UInt8.toNat_inj, UInt8.toNat_ofNat', UInt8.toNat_ofNat', Int.natCast_inj.mp same]
  exact Nat.mod_mod _ _

/-- The number of a byte in two's complement. -/
def signedByte (byte : UInt8) : Int :=
  if 0x80 ≤ byte.toNat then (byte.toNat : Int) - 0x100 else byte.toNat

def ofSignedBigEndian : List UInt8 → Int
  | [] => 0
  | first :: rest => rest.foldl (fun value byte => value * 256 + byte.toNat) (signedByte first)

theorem foldl_bigEndian (start : Int) (bytes : List UInt8) :
    bytes.foldl (fun (value : Int) byte => value * 256 + byte.toNat) start =
      start * 256 ^ bytes.length + ofBigEndian bytes := by
  induction bytes using List.reverseRecOn with
  | nil => simp [ofBigEndian]
  | append_singleton bytes byte inductionHypothesis =>
      rw [List.foldl_append, List.foldl_cons, List.foldl_nil, inductionHypothesis, ofBigEndian_snoc,
        List.length_append, List.length_singleton, pow_succ]
      push_cast
      ring

/-- The upper half of the numbers stands for the negative ones. -/
theorem ofSignedBigEndian_bigEndian (fits : number < 256 * 256 ^ width) :
    ofSignedBigEndian (bigEndian (width + 1) number) =
      if 128 * 256 ^ width ≤ number then (number : Int) - 256 * 256 ^ width else number := by
  have positive : 0 < 256 ^ width := Nat.pow_pos (by decide)
  have top : number / 256 ^ width < 256 := by
    rw [Nat.div_lt_iff_lt_mul positive]
    exact fits
  have split : (number : Int) =
      256 ^ width * ((number / 256 ^ width : Nat) : Int) + ((number % 256 ^ width : Nat) : Int) := by
    exact_mod_cast (Nat.div_add_mod number (256 ^ width)).symm
  have half : 128 * 256 ^ width ≤ number ↔ 0x80 ≤ number / 256 ^ width := by
    rw [Nat.le_div_iff_mul_le positive]
  rw [bigEndian, ofSignedBigEndian, foldl_bigEndian, length_bigEndian, ofBigEndian_bigEndian,
    signedByte, UInt8.toNat_ofNat', Nat.mod_eq_of_lt top]
  by_cases upper : 0x80 ≤ number / 256 ^ width
  · rw [if_pos upper, if_pos (half.mpr upper), split]
    push_cast
    ring
  · rw [if_neg upper, if_neg (fun above => upper (half.mp above)), split]
    push_cast
    ring

/-- A number that fits in its bytes with its sign is read back from them. -/
theorem ofSignedBigEndian_of_fits {value : Int} (low : -(128 * 256 ^ width) ≤ value)
    (high : value < 128 * 256 ^ width) :
    ofSignedBigEndian (bigEndian (width + 1) (value % 256 ^ (width + 1)).toNat) = value := by
  have positive : (0 : Int) < 256 ^ width := by positivity
  have whole : (256 : Int) ^ (width + 1) = 256 * 256 ^ width := by ring
  rw [whole]
  by_cases negative : value < 0
  · have wrapped : value % (256 * 256 ^ width) = value + 256 * 256 ^ width := by
      rw [← Int.add_emod_right]
      exact Int.emod_eq_of_lt (by omega) (by omega)
    have back : (((value + 256 * 256 ^ width).toNat : Nat) : Int) = value + 256 * 256 ^ width :=
      Int.toNat_of_nonneg (by omega)
    rw [wrapped, ofSignedBigEndian_bigEndian (by zify; rw [back]; omega), if_pos]
    · rw [back]
      ring
    · zify
      rw [back]
      omega
  · have same : value % (256 * 256 ^ width) = value := Int.emod_eq_of_lt (by omega) (by omega)
    have back : ((value.toNat : Nat) : Int) = value := Int.toNat_of_nonneg (by omega)
    rw [same, ofSignedBigEndian_bigEndian (by zify; rw [back]; omega), if_neg, back]
    zify
    rw [back]
    omega

end Library
end Revenant
