import Revenant.Inventory
import Revenant.Library.Checks
import Mathlib.Data.List.Sort

namespace Revenant

open Library

/-!
# Module loadouts and the combat profiles they resolve to

A loadout of at most three distinct modules scales a weapon's base profile.
Every catalog revision checks the resolved profile against its own bounds, so
an admitted weapon inherits those bounds whatever the loadout was.
-/

inductive CatalogRevision where
  | m26v1
  | m31v1
  | m35v1
  | m35v2
  deriving DecidableEq, Repr

def CatalogRevision.text : CatalogRevision → String
  | m26v1 => "m26-v1"
  | m31v1 => "m31-v1"
  | m35v1 => "m35-v1"
  | m35v2 => "m35-v2"

inductive ModuleId where
  | forceMatrix
  | tempoRegulator
  | reachLattice
  | wardCapacitor
  | focusLens
  | cycleBypass
  | breachShunt
  | standoffOptic
  | skirmishDrive
  | ablativeShell
  deriving DecidableEq, Repr

def ModuleId.asStr : ModuleId → String
  | forceMatrix => "module_force_matrix"
  | tempoRegulator => "module_tempo_regulator"
  | reachLattice => "module_reach_lattice"
  | wardCapacitor => "module_ward_capacitor"
  | focusLens => "module_focus_lens"
  | cycleBypass => "module_cycle_bypass"
  | breachShunt => "module_breach_shunt"
  | standoffOptic => "module_standoff_optic"
  | skirmishDrive => "module_skirmish_drive"
  | ablativeShell => "module_ablative_shell"

inductive ModuleError where
  | tooManyModules (count : Nat)
  | duplicateModule (moduleId : ModuleId)
  | unknownCatalogRevision (value : String)
  | invalidCatalog (reason : String)
  | arithmeticOverflow
  | effectiveOutOfBounds (subject : String)
  deriving DecidableEq, Repr

def ModuleError.text : ModuleError → String
  | tooManyModules count => s!"module loadout exceeds three entries: {count}"
  | duplicateModule moduleId => "module loadout repeats " ++ moduleId.asStr
  | unknownCatalogRevision value => "unknown module catalog revision: " ++ value
  | invalidCatalog reason => "invalid module catalog: " ++ reason
  | arithmeticOverflow => "module arithmetic overflowed"
  | effectiveOutOfBounds subject => "effective module " ++ subject ++ " is outside M26 bounds"

structure AggregateModifiers where
  damageBasisPoints : Int
  cooldownBasisPoints : Int
  rangeDelta : Int
  maxHealthDelta : Int
  deriving DecidableEq, Repr

/-- A base or an effective combat profile; the source keeps two identical records. -/
structure CombatProfile where
  damage : Nat
  range : Int
  cooldownMs : Nat
  maxHealth : Nat
  deriving DecidableEq, Repr

namespace ModuleId

def legacy : List ModuleId := [forceMatrix, tempoRegulator, reachLattice, wardCapacitor]

def content : List ModuleId := legacy ++ [focusLens, cycleBypass]

/-- The declaration order, which the loadout sort follows. -/
def order : ModuleId → Nat
  | forceMatrix => 0
  | tempoRegulator => 1
  | reachLattice => 2
  | wardCapacitor => 3
  | focusLens => 4
  | cycleBypass => 5
  | breachShunt => 6
  | standoffOptic => 7
  | skirmishDrive => 8
  | ablativeShell => 9

/-- The modifiers of `module_definition`, in the order damage, cooldown, range, health. -/
def modifiers : ModuleId → AggregateModifiers
  | forceMatrix => ⟨2000, 2000, 0, 0⟩
  | tempoRegulator => ⟨-1000, -1500, 0, 0⟩
  | reachLattice => ⟨-1000, 0, 2, 0⟩
  | wardCapacitor => ⟨0, 1000, 0, 20⟩
  | focusLens => ⟨2000, 0, -2, 0⟩
  | cycleBypass => ⟨0, -2000, -2, 0⟩
  | breachShunt => ⟨3000, 3500, -1, 0⟩
  | standoffOptic => ⟨-1000, 2000, 3, 0⟩
  | skirmishDrive => ⟨0, -2500, 0, -20⟩
  | ablativeShell => ⟨-2000, 0, -1, 30⟩

end ModuleId

namespace AggregateModifiers

def zero : AggregateModifiers := ⟨0, 0, 0, 0⟩

/-- At most three small summands: the checked 32-bit additions never overflow. -/
def add (left right : AggregateModifiers) : AggregateModifiers :=
  { damageBasisPoints := left.damageBasisPoints + right.damageBasisPoints
    cooldownBasisPoints := left.cooldownBasisPoints + right.cooldownBasisPoints
    rangeDelta := left.rangeDelta + right.rangeDelta
    maxHealthDelta := left.maxHealthDelta + right.maxHealthDelta }

end AggregateModifiers

def aggregateModifiers (modules : List ModuleId) : AggregateModifiers :=
  modules.foldl (fun aggregate moduleId => aggregate.add moduleId.modifiers) .zero

/-- The first of two equal neighbours. -/
def firstRepeated : List ModuleId → Option ModuleId
  | first :: second :: rest => if first = second then some first else firstRepeated (second :: rest)
  | _ => none

def canonicalizeLoadout (requested : List ModuleId) : Except ModuleError (List ModuleId) :=
  if requested.length > 3 then .error (.tooManyModules requested.length)
  else
    let modules := requested.insertionSort (fun left right => left.order ≤ right.order)
    match firstRepeated modules with
    | some moduleId => .error (.duplicateModule moduleId)
    | none => .ok modules

def scaleBasisPoints (base : Nat) (modifier : Int) : Except ModuleError Nat :=
  if 10000 + modifier ≤ 0 then .error (.effectiveOutOfBounds "basis-point multiplier")
  else .ok (((base * (10000 + modifier) + 5000) / 10000).toNat)

abbrev between (low value high : Int) : Prop := low ≤ value ∧ value ≤ high

/-- The bounds every catalog revision puts on the summed modifiers. -/
def validateAggregate (catalog : CatalogRevision) (modifiers : AggregateModifiers) :
    Except ModuleError Unit :=
  match catalog with
  | .m26v1 => do
      rejectIf (¬ between (-3000) modifiers.damageBasisPoints 3000)
        (.effectiveOutOfBounds "damage modifier")
      rejectIf (¬ between (-3000) modifiers.cooldownBasisPoints 3000)
        (.effectiveOutOfBounds "cooldown modifier")
      rejectIf (¬ between 0 modifiers.rangeDelta 2) (.effectiveOutOfBounds "range modifier")
      rejectIf (¬ between 0 modifiers.maxHealthDelta 30) (.effectiveOutOfBounds "health modifier")
  | .m31v1 | .m35v1 =>
      rejectIf (¬ between (-3000) modifiers.damageBasisPoints 4000 ∨
          ¬ between (-3500) modifiers.cooldownBasisPoints 3000 ∨
          ¬ between (-4) modifiers.rangeDelta 2 ∨ ¬ between 0 modifiers.maxHealthDelta 30)
        (.effectiveOutOfBounds "content modifiers")
  | .m35v2 => .ok ()

/-- The bounds every catalog revision puts on the resolved profile. -/
def validateEffective (catalog : CatalogRevision) (profile : CombatProfile) :
    Except ModuleError Unit :=
  match catalog with
  | .m26v1 => do
      rejectIf (¬ between 18 profile.damage 52) (.effectiveOutOfBounds "damage")
      rejectIf (¬ between 4 profile.range 10) (.effectiveOutOfBounds "range")
      rejectIf (¬ between 120 profile.cooldownMs 350) (.effectiveOutOfBounds "cooldown")
      rejectIf (¬ between 100 profile.maxHealth 130) (.effectiveOutOfBounds "maximum health")
  | .m31v1 | .m35v1 =>
      rejectIf (¬ between 18 profile.damage 80 ∨ ¬ between 2 profile.range 12 ∨
          ¬ between 90 profile.cooldownMs 600 ∨ ¬ between 100 profile.maxHealth 130)
        (.effectiveOutOfBounds "content profile")
  | .m35v2 =>
      rejectIf (¬ between 15 profile.damage 100 ∨ ¬ between 1 profile.range 15 ∨
          ¬ between 60 profile.cooldownMs 700 ∨ ¬ between 80 profile.maxHealth 150)
        (.effectiveOutOfBounds "build profile")

/-- Resolve one loadout against a base profile. -/
def resolveBuild (catalog : CatalogRevision) (base : CombatProfile) (requested : List ModuleId) :
    Except ModuleError CombatProfile := do
  rejectIf (catalog ≠ .m35v2 ∧ ∃ moduleId ∈ requested, moduleId ∉ ModuleId.content)
    (.invalidCatalog "loadout requires the build catalog")
  let modules ← canonicalizeLoadout requested
  rejectIf (catalog = .m26v1 ∧ ∃ moduleId ∈ modules, moduleId ∉ ModuleId.legacy)
    (.invalidCatalog "loadout requires the content catalog")
  let modifiers := aggregateModifiers modules
  validateAggregate catalog modifiers
  let damage ← scaleBasisPoints base.damage modifiers.damageBasisPoints
  let cooldownMs ← scaleBasisPoints base.cooldownMs modifiers.cooldownBasisPoints
  let maxHealth := (base.maxHealth : Int) + modifiers.maxHealthDelta
  rejectIf (maxHealth < 0) .arithmeticOverflow
  let profile : CombatProfile :=
    { damage, range := base.range + modifiers.rangeDelta, cooldownMs, maxHealth := maxHealth.toNat }
  validateEffective catalog profile
  return profile

/-- The widest bounds any catalog revision accepts. -/
structure CombatProfile.Bounded (profile : CombatProfile) : Prop where
  damage : 15 ≤ profile.damage ∧ profile.damage ≤ 100
  range : 1 ≤ profile.range ∧ profile.range ≤ 15
  cooldown : 60 ≤ profile.cooldownMs ∧ profile.cooldownMs ≤ 700
  health : 80 ≤ profile.maxHealth ∧ profile.maxHealth ≤ 150

variable {catalog : CatalogRevision} {profile : CombatProfile}

theorem bounded_of_validateEffective (accepted : validateEffective catalog profile = .ok ()) :
    profile.Bounded := by
  cases catalog <;>
    simp only [validateEffective, bind_eq_ok, rejectIf_eq_ok, exists_const, between, not_or,
      not_not] at accepted <;>
    constructor <;> omega

/-- The one fact about module resolution that the fights rely on. -/
theorem bounded_of_resolveBuild {base : CombatProfile} {requested : List ModuleId}
    (resolved : resolveBuild catalog base requested = .ok profile) : profile.Bounded := by
  simp only [resolveBuild, bind_eq_ok, rejectIf_eq_ok, exists_const, pure_eq_ok] at resolved
  obtain ⟨-, modules, -, -, _, -, damage, -, cooldownMs, -, -, _, accepted, rfl⟩ := resolved
  exact bounded_of_validateEffective accepted

/-! ## The weapons admitted to a session -/

structure ModuleWeaponProfile where
  itemId : WeaponItem
  effectiveDamage : Nat
  effectiveRange : Int
  effectiveCooldownMs : Nat
  deriving DecidableEq, Repr

/-- The weapons the resolved projection offers, in its order. -/
def projectedItems (contentCapable : Bool) (arsenalCatalog : Option CatalogRevision) :
    List WeaponItem :=
  [.pulseRifle, .arcSidearm] ++ (if contentCapable then [.coilLance] else []) ++
    (if arsenalCatalog.isSome then [.scatterCaster, .railDriver] else [])

def resolveWeapon (catalog : CatalogRevision) (modules : List ModuleId) (item : WeaponItem) :
    Except ModuleError (ModuleWeaponProfile × Nat) := do
  let base := item.weaponProfile
  let resolved ← resolveBuild catalog
    { damage := base.damage, range := base.range, cooldownMs := base.cooldownMs, maxHealth := 100 }
    modules
  return ({ itemId := item, effectiveDamage := resolved.damage, effectiveRange := resolved.range
            effectiveCooldownMs := resolved.cooldownMs }, resolved.maxHealth)

/-- The weapons and the maximum health of one participant.  The source also
checks that every weapon resolves to the same maximum health; the loadout alone
decides that number, so the first weapon's is taken. -/
def resolvedArsenalProjection (loadout : List ModuleId) (modulesActive contentCapable : Bool)
    (arsenalCatalog : Option CatalogRevision) :
    Except ModuleError (List ModuleWeaponProfile × Nat) := do
  let modules := if modulesActive then loadout else []
  let revision := arsenalCatalog.getD (if contentCapable then .m31v1 else .m26v1)
  let resolved ← (projectedItems contentCapable arsenalCatalog).mapM (resolveWeapon revision modules)
  match resolved with
  | [] => throw (.invalidCatalog "module weapon catalog is empty")
  | (_, maxHealth) :: _ => return (resolved.map (·.1), maxHealth)

theorem bounded_of_resolveWeapon {modules : List ModuleId} {item : WeaponItem}
    {weapon : ModuleWeaponProfile} {maxHealth : Nat}
    (resolved : resolveWeapon catalog modules item = .ok (weapon, maxHealth)) :
    (15 ≤ weapon.effectiveDamage ∧ weapon.effectiveDamage ≤ 100) ∧
      80 ≤ maxHealth ∧ maxHealth ≤ 150 := by
  simp only [resolveWeapon, bind_eq_ok, pure_eq_ok] at resolved
  obtain ⟨profile, built, same⟩ := resolved
  have bounded := bounded_of_resolveBuild built
  cases same
  exact ⟨bounded.damage, bounded.health⟩

/-- What a session may rely on about the weapons it admitted. -/
theorem bounds_of_projection {loadout : List ModuleId} {modulesActive contentCapable : Bool}
    {arsenalCatalog : Option CatalogRevision} {weapons : List ModuleWeaponProfile} {maxHealth : Nat}
    (projected : resolvedArsenalProjection loadout modulesActive contentCapable arsenalCatalog =
      .ok (weapons, maxHealth)) :
    (∀ weapon ∈ weapons, 15 ≤ weapon.effectiveDamage ∧ weapon.effectiveDamage ≤ 100) ∧
      80 ≤ maxHealth ∧ maxHealth ≤ 150 := by
  simp only [resolvedArsenalProjection, bind_eq_ok] at projected
  obtain ⟨resolved, traversed, finished⟩ := projected
  cases resolved with
  | nil => cases finished
  | cons first rest =>
      cases finished
      refine ⟨?_, ?_⟩
      · intro weapon member
        obtain ⟨pair, pairMember, rfl⟩ := List.mem_map.mp member
        obtain ⟨item, -, produced⟩ := exists_of_mem_mapM traversed pairMember
        exact (bounded_of_resolveWeapon produced).1
      · obtain ⟨item, -, produced⟩ := exists_of_mem_mapM traversed List.mem_cons_self
        exact (bounded_of_resolveWeapon produced).2

/-- The maximum health of a loadout does not depend on the weapon. -/
theorem maxHealth_resolved {base : CombatProfile} {modules : List ModuleId}
    (resolved : resolveBuild catalog base modules = .ok profile) :
    ∃ canonical, canonicalizeLoadout modules = .ok canonical ∧
      profile.maxHealth =
        ((base.maxHealth : Int) + (aggregateModifiers canonical).maxHealthDelta).toNat := by
  simp only [resolveBuild, bind_eq_ok, rejectIf_eq_ok, exists_const, pure_eq_ok] at resolved
  obtain ⟨-, canonical, sorted, -, _, -, damage, -, cooldownMs, -, -, _, -, rfl⟩ := resolved
  exact ⟨canonical, sorted, rfl⟩

/-- Any weapon of the projection tells the participant's maximum health. -/
theorem maxHealth_of_projection {loadout canonical : List ModuleId}
    {contentCapable : Bool} {arsenalCatalog : Option CatalogRevision}
    {weapons : List ModuleWeaponProfile} {maxHealth : Nat}
    (projected : resolvedArsenalProjection loadout true contentCapable arsenalCatalog =
      .ok (weapons, maxHealth)) (sorted : canonicalizeLoadout loadout = .ok canonical) :
    maxHealth = ((100 : Int) + (aggregateModifiers canonical).maxHealthDelta).toNat := by
  simp only [resolvedArsenalProjection, bind_eq_ok] at projected
  obtain ⟨resolved, traversed, finished⟩ := projected
  cases resolved with
  | nil => cases finished
  | cons first rest =>
      cases finished
      obtain ⟨item, -, produced⟩ := exists_of_mem_mapM traversed List.mem_cons_self
      simp only [resolveWeapon, bind_eq_ok, pure_eq_ok] at produced
      obtain ⟨profile, built, same⟩ := produced
      obtain ⟨other, otherSorted, total⟩ := maxHealth_resolved built
      rw [if_pos trivial, sorted] at otherSorted
      cases otherSorted
      rw [← same]
      exact total

end Revenant
