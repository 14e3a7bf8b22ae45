import Mathlib.Data.Rat.Defs
import Mathlib.Algebra.Order.Field.Rat
import Revenant.Actors

namespace Revenant
namespace Ai
namespace Sentinel

/-!
# The signal sentinel and its barrier

The sentinel fires at a fixed pace along lines that the barrier does not cross.
The barrier test clips the segment against the footprint, one axis after the
other.  The source computes in doubles; the coordinates of a lane are small
integers and the footprint has half-integer sides, so its comparisons are those
of the exact quotients below.
-/

def position : Position := ⟨-4, 0, -4⟩

def health : Nat := 200

def shotIntervalMs : Nat := 1800

def shotDamage : Nat := 12

def shotRangeSquared : Int := 144

/-- The part of the segment, as an interval of its parameter, that lies between
the two sides of one axis. -/
def clip (interval : Rat × Rat) (origin target : Int) (minimum maximum : Rat) :
    Option (Rat × Rat) :=
  let delta : Rat := target - origin
  if delta = 0 then
    if (origin : Rat) < minimum ∨ (origin : Rat) > maximum then none else some interval
  else
    let first := (minimum - origin) / delta
    let last := (maximum - origin) / delta
    let near := max interval.1 (min first last)
    let far := min interval.2 (max first last)
    if near > far then none else some (near, far)

/-- The segment meets the barrier's footprint. -/
def coverBlocksSegment (source target : Position) : Bool :=
  ((clip (0, 1) source.x target.x (-6) (-2)).bind
    (fun interval => clip interval source.z target.z (1 / 2) (3 / 2))).isSome

end Sentinel
end Ai
end Revenant
