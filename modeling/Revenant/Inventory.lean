import Revenant.Actors

namespace Revenant

/-!
# Weapons

The five weapon items, their base profiles and the fixed geometry that turns
an effective damage into the damage of one shot.
-/

inductive WeaponItem where
  | pulseRifle
  | arcSidearm
  | coilLance
  | scatterCaster
  | railDriver
  deriving DecidableEq, Repr

structure WeaponProfile where
  itemId : WeaponItem
  damage : Nat
  range : Int
  cooldownMs : Nat
  deriving DecidableEq, Repr

namespace WeaponItem

def itemId : WeaponItem → String
  | pulseRifle => "pulse_rifle"
  | arcSidearm => "arc_sidearm"
  | coilLance => "coil_lance"
  | scatterCaster => "scatter_caster"
  | railDriver => "rail_driver"

def weaponProfile : WeaponItem → WeaponProfile
  | pulseRifle => { itemId := pulseRifle, damage := 40, range := 6, cooldownMs := 250 }
  | arcSidearm => { itemId := arcSidearm, damage := 25, range := 8, cooldownMs := 150 }
  | coilLance => { itemId := coilLance, damage := 48, range := 9, cooldownMs := 350 }
  | scatterCaster => { itemId := scatterCaster, damage := 56, range := 6, cooldownMs := 400 }
  | railDriver => { itemId := railDriver, damage := 56, range := 10, cooldownMs := 400 }

def all : List WeaponItem := [pulseRifle, arcSidearm, coilLance, scatterCaster, railDriver]

end WeaponItem

/-- The profile an item identifier names, if it names a weapon. -/
def weaponProfile (itemId : String) : Option WeaponProfile :=
  (WeaponItem.all.find? (fun item => item.itemId = itemId)).map WeaponItem.weaponProfile

/-- The damage of one shot at the given squared distance: the rail driver needs
four units of separation, and the scatter caster loses half beyond three. -/
def positionedDamage (item : WeaponItem) (damage : Nat) (distanceSquared : Int) : Option Nat :=
  if distanceSquared < 0 ∨ (item = .railDriver ∧ distanceSquared < 16) then none
  else if item = .scatterCaster ∧ distanceSquared > 9 then some (damage / 2)
  else some damage

/-- A shot that is allowed keeps at least half of the weapon's damage. -/
theorem half_le_of_positionedDamage {item : WeaponItem} {damage shot : Nat} {distance : Int}
    (allowed : positionedDamage item damage distance = some shot) :
    damage / 2 ≤ shot ∧ shot ≤ damage := by
  unfold positionedDamage at allowed
  split at allowed
  · cases allowed
  · split at allowed
    · cases allowed
      exact ⟨le_refl _, Nat.div_le_self _ _⟩
    · cases allowed
      exact ⟨Nat.div_le_self _ _, le_refl _⟩

end Revenant
