import Mathlib.Algebra.Group.Nat.Defs
import Mathlib.Data.Nat.Basic
import Mathlib.Order.Monotone.Basic

namespace Revenant
namespace Library

/-!
# Saturating machine words

Times are 64-bit counts of milliseconds and healths are 32-bit counts.  They
are modelled as natural numbers; the one operation whose result depends on the
width is the saturating addition, and a clock reading is the elapsed time cut
off at the largest word.
-/

def u8Max : Nat := 2 ^ 8 - 1

def u32Max : Nat := 2 ^ 32 - 1

def u64Max : Nat := 2 ^ 64 - 1

/-- The `saturating_add` of two 64-bit words. -/
def saturatingAdd (left right : Nat) : Nat := min (left + right) u64Max

theorem saturatingAdd_eq {left right : Nat} (fits : left + right ≤ u64Max) :
    saturatingAdd left right = left + right := Nat.min_eq_left fits

theorem le_saturatingAdd {time : Nat} (bounded : time ≤ u64Max) (interval : Nat) :
    time ≤ saturatingAdd time interval := by
  unfold saturatingAdd
  omega

/-- Elapsed milliseconds since `origin`, as a clock read at `instant` reports
them: `u64::try_from(elapsed.as_millis()).unwrap_or(u64::MAX)`. -/
def elapsedMillis (origin instant : Nat) : Nat := min (instant - origin) u64Max

theorem elapsedMillis_mono (origin : Nat) {first second : Nat} (ordered : first ≤ second) :
    elapsedMillis origin first ≤ elapsedMillis origin second := by
  unfold elapsedMillis
  omega

theorem elapsedMillis_le (origin instant : Nat) : elapsedMillis origin instant ≤ u64Max :=
  Nat.min_le_right _ _

end Library
end Revenant
