import Mathlib.Algebra.Ring.Nat
import Mathlib.Data.List.Basic
import Revenant.Library.Words

namespace Revenant
namespace Library

/-!
# The size of compact JSON text

Evidence is stored as compact JSON and the readers bound the length of that
text before they parse it.  Only the length matters, so a value is kept as a
tree and `Json.size` counts the bytes its compact rendering takes.  Strings are
the fixed names of the schema; none of them needs an escape.

Every number of an evidence value is a machine word, so one cap that gives each
number its longest form bounds the size of all values of one shape.
-/

inductive Json where
  | null
  | bool (value : Bool)
  | number (value : Int)
  | text (value : String)
  | array (items : List Json)
  | object (fields : List (String × Json))

namespace Json

/-- Decimal digits of a natural number, at least one. -/
def digits (value : Nat) : Nat := (Nat.repr value).length

/-- Bytes of a signed decimal number. -/
def numberSize (value : Int) : Nat :=
  digits value.natAbs + if value < 0 then 1 else 0

mutual

/-- Bytes of the compact text of a value. -/
def size : Json → Nat
  | null => 4
  | bool value => if value then 4 else 5
  | number value => numberSize value
  | text value => value.length + 2
  | array items => sizeItems items + 1
  | object fields => sizeFields fields + 1

/-- Items with the bracket or comma before each; an empty array keeps its
opening bracket. -/
def sizeItems : List Json → Nat
  | [] => 1
  | [item] => item.size + 1
  | item :: next :: rest => item.size + 1 + sizeItems (next :: rest)

/-- Fields with the brace or comma before each, the quotes and the colon. -/
def sizeFields : List (String × Json) → Nat
  | [] => 1
  | [(name, value)] => name.length + value.size + 4
  | (name, value) :: next :: rest => name.length + value.size + 4 + sizeFields (next :: rest)

end

/-- Every number of the value fits a signed or unsigned 64-bit word. -/
def WordNumber (value : Int) : Prop := value.natAbs ≤ u64Max

mutual

def Words : Json → Prop
  | null => True
  | bool _ => True
  | number value => WordNumber value
  | text _ => True
  | array items => WordItems items
  | object fields => WordFields fields

def WordItems : List Json → Prop
  | [] => True
  | item :: rest => item.Words ∧ WordItems rest

def WordFields : List (String × Json) → Prop
  | [] => True
  | (_, value) :: rest => value.Words ∧ WordFields rest

end

mutual

/-- The size of a value whose every number takes the longest word, 21 bytes. -/
def cap : Json → Nat
  | null => 4
  | bool _ => 5
  | number _ => 21
  | text value => value.length + 2
  | array items => capItems items + 1
  | object fields => capFields fields + 1

def capItems : List Json → Nat
  | [] => 1
  | [item] => item.cap + 1
  | item :: next :: rest => item.cap + 1 + capItems (next :: rest)

def capFields : List (String × Json) → Nat
  | [] => 1
  | [(name, value)] => name.length + value.cap + 4
  | (name, value) :: next :: rest => name.length + value.cap + 4 + capFields (next :: rest)

end

theorem numberSize_le {value : Int} (word : WordNumber value) : numberSize value ≤ 21 := by
  unfold numberSize
  have digitBound : digits value.natAbs ≤ 20 := by
    refine (Nat.length_repr_le_iff (by decide)).mpr ?_
    simp only [WordNumber, u64Max] at word
    omega
  split <;> omega

mutual

/-- The cap bounds the size, whatever the numbers are. -/
theorem size_le_cap : (value : Json) → value.Words → value.size ≤ value.cap
  | null, _ => le_refl _
  | bool value, _ => by cases value <;> simp [size, cap]
  | number _, word => numberSize_le word
  | text _, _ => le_refl _
  | array items, words => Nat.succ_le_succ (sizeItems_le_cap items words)
  | object fields, words => Nat.succ_le_succ (sizeFields_le_cap fields words)

theorem sizeItems_le_cap : (items : List Json) → WordItems items → sizeItems items ≤ capItems items
  | [], _ => le_refl _
  | [item], words => Nat.succ_le_succ (size_le_cap item words.1)
  | item :: next :: rest, words => by
      have first := size_le_cap item words.1
      have remaining := sizeItems_le_cap (next :: rest) words.2
      simp only [sizeItems, capItems] at remaining ⊢
      omega

theorem sizeFields_le_cap :
    (fields : List (String × Json)) → WordFields fields → sizeFields fields ≤ capFields fields
  | [], _ => le_refl _
  | [(name, value)], words => by
      have only := size_le_cap value words.1
      simp only [sizeFields, capFields]
      omega
  | (name, value) :: next :: rest, words => by
      have first := size_le_cap value words.1
      have remaining := sizeFields_le_cap (next :: rest) words.2
      simp only [sizeFields, capFields] at remaining ⊢
      omega

end

theorem wordNumber_natCast {value : Nat} (bound : value ≤ u64Max) : WordNumber value := by
  simpa [WordNumber] using bound

/-! ## Sizes as sums -/

/-- Bytes of one field with the brace or comma before it, the quotes and the colon. -/
def fieldSize (field : String × Json) : Nat := field.1.length + field.2.size + 4

theorem sizeFields_eq_sum : {fields : List (String × Json)} → fields ≠ [] →
    sizeFields fields = (fields.map fieldSize).sum
  | [], empty => absurd rfl empty
  | [(_, _)], _ => rfl
  | (name, value) :: next :: rest, _ => by
      have remaining := sizeFields_eq_sum (List.cons_ne_nil next rest)
      rw [sizeFields, remaining]
      rfl

theorem size_object {fields : List (String × Json)} (some' : fields ≠ []) :
    (object fields).size = (fields.map fieldSize).sum + 1 := by
  rw [size, sizeFields_eq_sum some']

/-- An object whose values have known widths. -/
theorem size_object_le {fields : List (String × Json)} {widths : List (String × Nat)}
    (some' : fields ≠ [])
    (within : List.Forall₂ (fun field width => field.1 = width.1 ∧ field.2.size ≤ width.2)
      fields widths) :
    (object fields).size ≤ (widths.map (fun width => width.1.length + width.2 + 4)).sum + 1 := by
  rw [size_object some']
  clear some'
  apply Nat.succ_le_succ
  induction within with
  | nil => exact le_refl _
  | cons first _ inductionHypothesis =>
      rw [List.map_cons, List.map_cons, List.sum_cons, List.sum_cons]
      refine Nat.add_le_add ?_ inductionHypothesis
      rw [fieldSize, first.1]
      have value := first.2
      omega

theorem sizeItems_le_sum : (items : List Json) →
    sizeItems items ≤ (items.map (fun item => item.size + 1)).sum + 1
  | [] => le_refl _
  | [item] => Nat.le_succ _
  | item :: next :: rest => by
      have remaining := sizeItems_le_sum (next :: rest)
      rw [sizeItems, List.map_cons, List.sum_cons]
      omega

theorem size_array_le (items : List Json) :
    (array items).size ≤ (items.map (fun item => item.size + 1)).sum + 2 :=
  Nat.succ_le_succ (sizeItems_le_sum items)

/-- A natural number below a power of ten. -/
theorem numberSize_natCast_le {value width : Nat} (positive : 0 < width)
    (bound : value < 10 ^ width) : numberSize (value : Int) ≤ width := by
  unfold numberSize digits
  rw [if_neg (by omega), Int.natAbs_natCast, Nat.add_zero]
  exact (Nat.length_repr_le_iff positive).mpr bound

end Json

/-- A stored JSON body: its value when the text parses, and the length of the
whole payload text. -/
structure Encoded (α : Type) where
  value : Option α
  length : Nat
  deriving DecidableEq

end Library
end Revenant
