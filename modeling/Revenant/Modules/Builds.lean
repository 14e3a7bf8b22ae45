import Mathlib.Algebra.Order.Round
import Mathlib.Data.Rat.Floor
import Revenant.Library.Words
import Revenant.Modules.State

namespace Revenant
namespace Builds

open Library

/-!
# Builds in machine words

The four catalog revisions resolve a build in two places: the build catalog has
a function of its own, the older ones share another.  Both are written here
with the checked additions and the conversions of the source, on base profiles
of any words.  No intermediate result overflows, so an accepted build is exact,
and what `resolveNamed` leaves out makes no difference to it.
-/

/-- A base profile as its fields arrive. -/
structure BaseCombatProfile where
  profile : CombatProfile
  damage_le : profile.damage ≤ u32Max
  range_le : -2 ^ 31 ≤ profile.range ∧ profile.range ≤ 2 ^ 31 - 1
  cooldown_le : profile.cooldownMs ≤ u64Max
  maxHealth_le : profile.maxHealth ≤ u32Max

structure ResolvedBuild where
  catalogRevision : String
  modules : List ModuleId
  modifiers : AggregateModifiers
  profile : CombatProfile
  deriving DecidableEq, Repr

/-! ## Checked arithmetic -/

/-- A signed result of the given number of bits, sign aside. -/
def checkedSigned (bits : Nat) (value : Int) : Except ModuleError Int :=
  if -2 ^ bits ≤ value ∧ value ≤ 2 ^ bits - 1 then .ok value else .error .arithmeticOverflow

/-- `try_from` to an unsigned word. -/
def toWord (largest : Nat) (value : Int) : Except ModuleError Nat :=
  if 0 ≤ value ∧ value ≤ largest then .ok value.toNat else .error .arithmeticOverflow

def addModifiers (left right : AggregateModifiers) : Except ModuleError AggregateModifiers := do
  let damageBasisPoints ← checkedSigned 31 (left.damageBasisPoints + right.damageBasisPoints)
  let cooldownBasisPoints ← checkedSigned 31 (left.cooldownBasisPoints + right.cooldownBasisPoints)
  let rangeDelta ← checkedSigned 31 (left.rangeDelta + right.rangeDelta)
  let maxHealthDelta ← checkedSigned 31 (left.maxHealthDelta + right.maxHealthDelta)
  return { damageBasisPoints, cooldownBasisPoints, rangeDelta, maxHealthDelta }

def aggregateModifiers (modules : List ModuleId) : Except ModuleError AggregateModifiers :=
  modules.foldlM (fun aggregate moduleId => addModifiers aggregate moduleId.modifiers) .zero

/-- The division is that of the source, towards zero. -/
def scaleBasisPoints (base : Nat) (modifier : Int) : Except ModuleError Nat := do
  let multiplier ← checkedSigned 127 (10000 + modifier)
  rejectIf (multiplier ≤ 0) (.effectiveOutOfBounds "basis-point multiplier")
  let product ← checkedSigned 127 (base * multiplier)
  let shifted ← checkedSigned 127 (product + 5000)
  toWord u64Max (shifted.tdiv 10000)

def addHealth (base : Nat) (delta : Int) : Except ModuleError Nat := do
  let total ← checkedSigned 63 (base + delta)
  toWord u32Max total

/-! ## The catalogs -/

def moduleCatalog : List ModuleDefinition := ModuleId.legacy.map moduleDefinition

def contentModuleCatalog : List ModuleDefinition := ModuleId.content.map moduleDefinition

def buildModuleCatalog : List ModuleDefinition := ModuleId.all.map moduleDefinition

def sameModifiers (definition other : ModuleDefinition) : Bool :=
  definition.damageBasisPoints = other.damageBasisPoints ∧
    definition.cooldownBasisPoints = other.cooldownBasisPoints ∧
    definition.rangeDelta = other.rangeDelta ∧ definition.maxHealthDelta = other.maxHealthDelta

def definitionMatchesFamilyEnvelope (definition : ModuleDefinition) : Bool :=
  match definition.family with
  | .breach => sameModifiers definition (moduleDefinition .breachShunt)
  | .optic => sameModifiers definition (moduleDefinition .standoffOptic)
  | .skirmish => sameModifiers definition (moduleDefinition .skirmishDrive)
  | .ablative => sameModifiers definition (moduleDefinition .ablativeShell)
  | .focus =>
      definition.damageBasisPoints = 2000 ∧ definition.cooldownBasisPoints = 0 ∧
        definition.rangeDelta = -2 ∧ definition.maxHealthDelta = 0
  | .cycle =>
      definition.damageBasisPoints = 0 ∧ definition.cooldownBasisPoints = -2000 ∧
        definition.rangeDelta = -2 ∧ definition.maxHealthDelta = 0
  | .force =>
      between 500 definition.damageBasisPoints 2000 ∧
        between 500 definition.cooldownBasisPoints 2000 ∧
        definition.rangeDelta = 0 ∧ definition.maxHealthDelta = 0
  | .tempo =>
      between (-1500) definition.damageBasisPoints (-500) ∧
        between (-2000) definition.cooldownBasisPoints (-500) ∧
        definition.rangeDelta = 0 ∧ definition.maxHealthDelta = 0
  | .reach =>
      between (-1500) definition.damageBasisPoints (-500) ∧ definition.cooldownBasisPoints = 0 ∧
        between 1 definition.rangeDelta 2 ∧ definition.maxHealthDelta = 0
  | .ward =>
      definition.damageBasisPoints = 0 ∧ between 500 definition.cooldownBasisPoints 1500 ∧
        definition.rangeDelta = 0 ∧ between 10 definition.maxHealthDelta 30

/-- The entries of a catalog in order, with the identifiers and families seen. -/
def validateEntries (size : Nat) :
    List ModuleDefinition → List ModuleId → List ModuleFamily → Except ModuleError Unit
  | [], _, _ => .ok ()
  | definition :: rest, moduleIds, families => do
      rejectIf (size = ModuleId.legacy.length ∧ definition.moduleId ∉ ModuleId.legacy)
        (.invalidCatalog "legacy catalog contains a content module")
      rejectIf (size = ModuleId.content.length ∧ definition.moduleId ∉ ModuleId.content)
        (.invalidCatalog "content catalog contains a build module")
      rejectIf (definition.moduleId.family ≠ definition.family)
        (.invalidCatalog "module identifier and family disagree")
      rejectIf (definition.moduleId ∈ moduleIds ∨ definition.family ∈ families)
        (.invalidCatalog "module identifiers and families must be unique")
      rejectIf (¬ between 1 definition.recipeFragments 8)
        (.invalidCatalog "recipe must cost between one and eight fragments")
      rejectIf (definitionMatchesFamilyEnvelope definition = false)
        (.invalidCatalog "module modifiers do not match the family tradeoff envelope")
      validateEntries size rest (definition.moduleId :: moduleIds) (definition.family :: families)

def validateCatalog (catalog : List ModuleDefinition) : Except ModuleError Unit := do
  rejectIf (catalog.length ∉ [ModuleId.legacy.length, ModuleId.content.length, ModuleId.all.length])
    (.invalidCatalog "catalog must contain four legacy, six content, or ten build entries")
  validateEntries catalog.length catalog [] []

/-! ## Resolution -/

/-- `builds::resolve`: the build catalog bounds the profile only. -/
def resolve (base : BaseCombatProfile) (requested : List ModuleId) :
    Except ModuleError ResolvedBuild := do
  validateCatalog buildModuleCatalog
  let modules ← canonicalizeLoadout requested
  let modifiers ← aggregateModifiers modules
  let scaled ← scaleBasisPoints base.profile.damage modifiers.damageBasisPoints
  let damage ← toWord u32Max scaled
  let range ← checkedSigned 31 (base.profile.range + modifiers.rangeDelta)
  let cooldownMs ← scaleBasisPoints base.profile.cooldownMs modifiers.cooldownBasisPoints
  let maxHealth ← addHealth base.profile.maxHealth modifiers.maxHealthDelta
  let profile : CombatProfile := { damage, range, cooldownMs, maxHealth }
  validateEffective .m35v2 profile
  return { catalogRevision := CatalogRevision.m35v2.text, modules, modifiers, profile }

/-- The older catalogs, and the choice between them. -/
def resolveBuild (catalogRevision : String) (base : BaseCombatProfile)
    (requested : List ModuleId) : Except ModuleError ResolvedBuild :=
  if catalogRevision = CatalogRevision.m35v2.text then resolve base requested
  else do
    rejectIf (∃ moduleId ∈ requested, moduleId ∉ ModuleId.content)
      (.invalidCatalog "loadout requires the build catalog")
    rejectIf (catalogRevision ∉ [CatalogRevision.m26v1.text, CatalogRevision.m31v1.text,
      CatalogRevision.m35v1.text]) (.unknownCatalogRevision catalogRevision)
    let content := catalogRevision ∈ [CatalogRevision.m31v1.text, CatalogRevision.m35v1.text]
    validateCatalog (if content then contentModuleCatalog else moduleCatalog)
    let modules ← canonicalizeLoadout requested
    rejectIf (catalogRevision = CatalogRevision.m26v1.text ∧
      ∃ moduleId ∈ modules, moduleId ∉ ModuleId.legacy)
      (.invalidCatalog "loadout requires the content catalog")
    let modifiers ← aggregateModifiers modules
    validateAggregate (if content then .m31v1 else .m26v1) modifiers
    let scaled ← scaleBasisPoints base.profile.damage modifiers.damageBasisPoints
    let damage ← toWord u32Max scaled
    let cooldownMs ← scaleBasisPoints base.profile.cooldownMs modifiers.cooldownBasisPoints
    let range ← checkedSigned 31 (base.profile.range + modifiers.rangeDelta)
    let maxHealth ← addHealth base.profile.maxHealth modifiers.maxHealthDelta
    let profile : CombatProfile := { damage, range, cooldownMs, maxHealth }
    validateEffective (if content then .m31v1 else .m26v1) profile
    return { catalogRevision :=
               if catalogRevision = CatalogRevision.m35v1.text then CatalogRevision.m35v1.text
               else if catalogRevision = CatalogRevision.m31v1.text then CatalogRevision.m31v1.text
               else CatalogRevision.m26v1.text
             modules, modifiers, profile }

/-! ## What a catalog admits -/

/-- The lowest and the highest value of each field. -/
structure Envelope where
  damage : Int × Int
  range : Int × Int
  cooldownMs : Int × Int
  maxHealth : Int × Int

def envelope : CatalogRevision → Envelope
  | .m26v1 => ⟨(18, 52), (4, 10), (120, 350), (100, 130)⟩
  | .m31v1 | .m35v1 => ⟨(18, 80), (2, 12), (90, 600), (100, 130)⟩
  | .m35v2 => ⟨(15, 100), (1, 15), (60, 700), (80, 150)⟩

structure Envelope.Contains (bounds : Envelope) (profile : CombatProfile) : Prop where
  damage : between bounds.damage.1 profile.damage bounds.damage.2
  range : between bounds.range.1 profile.range bounds.range.2
  cooldownMs : between bounds.cooldownMs.1 profile.cooldownMs bounds.cooldownMs.2
  maxHealth : between bounds.maxHealth.1 profile.maxHealth bounds.maxHealth.2

theorem validateEffective_contains {catalog : CatalogRevision} {profile : CombatProfile}
    (accepted : validateEffective catalog profile = .ok ()) :
    (envelope catalog).Contains profile := by
  cases catalog
  case m26v1 =>
    simp only [validateEffective, guard_bind_eq_ok, rejectIf_eq_ok, not_not] at accepted
    exact ⟨accepted.1, accepted.2.1, accepted.2.2.1, accepted.2.2.2⟩
  all_goals
    simp only [validateEffective, rejectIf_eq_ok, not_or, not_not] at accepted
    exact ⟨accepted.1, accepted.2.1, accepted.2.2.1, accepted.2.2.2⟩

theorem moduleCatalog_valid : validateCatalog moduleCatalog = .ok () := by decide +kernel

theorem contentModuleCatalog_valid : validateCatalog contentModuleCatalog = .ok () := by
  decide +kernel

theorem buildModuleCatalog_valid : validateCatalog buildModuleCatalog = .ok () := by
  decide +kernel

/-! ## Nothing overflows -/

theorem checkedSigned_eq {bits : Nat} {value : Int} (fits : |value| < 2 ^ bits) :
    checkedSigned bits value = .ok value := by
  have range := abs_lt.mp fits
  exact if_pos ⟨range.1.le, Int.le_sub_one_of_lt range.2⟩

theorem toWord_eq_ok {largest : Nat} {value : Int} {word : Nat} :
    toWord largest value = .ok word ↔ (word : Int) = value ∧ word ≤ largest := by
  unfold toWord
  split
  · next fits =>
    rw [Except.ok.injEq]
    omega
  · next unfit =>
    constructor
    · intro impossible
      cases impossible
    · rintro ⟨rfl, small⟩
      omega

/-- All four sums lie within the given distance of zero. -/
def Within (limit : Int) (modifiers : AggregateModifiers) : Prop :=
  |modifiers.damageBasisPoints| ≤ limit ∧ |modifiers.cooldownBasisPoints| ≤ limit ∧
    |modifiers.rangeDelta| ≤ limit ∧ |modifiers.maxHealthDelta| ≤ limit

theorem modifiers_within (moduleId : ModuleId) : Within 3500 moduleId.modifiers := by
  cases moduleId <;> (unfold Within; decide)

theorem Within.add {limit other : Int} {left right : AggregateModifiers}
    (first : Within limit left) (second : Within other right) :
    Within (limit + other) (left.add right) :=
  ⟨(abs_add_le _ _).trans (add_le_add first.1 second.1),
    (abs_add_le _ _).trans (add_le_add first.2.1 second.2.1),
    (abs_add_le _ _).trans (add_le_add first.2.2.1 second.2.2.1),
    (abs_add_le _ _).trans (add_le_add first.2.2.2 second.2.2.2)⟩

theorem addModifiers_eq {limit : Int} {left right : AggregateModifiers}
    (within : Within limit (left.add right)) (small : limit < 2 ^ 31) :
    addModifiers left right = .ok (left.add right) := by
  have damage : checkedSigned 31 (left.damageBasisPoints + right.damageBasisPoints) = .ok _ :=
    checkedSigned_eq (within.1.trans_lt small)
  have cooldown : checkedSigned 31 (left.cooldownBasisPoints + right.cooldownBasisPoints) = .ok _ :=
    checkedSigned_eq (within.2.1.trans_lt small)
  have range : checkedSigned 31 (left.rangeDelta + right.rangeDelta) = .ok _ :=
    checkedSigned_eq (within.2.2.1.trans_lt small)
  have health : checkedSigned 31 (left.maxHealthDelta + right.maxHealthDelta) = .ok _ :=
    checkedSigned_eq (within.2.2.2.trans_lt small)
  unfold addModifiers
  rw [damage, cooldown, range, health]
  rfl

/-- Every module adds a little to the sums, and no check on the way fails. -/
theorem foldlM_addModifiers (modules : List ModuleId) (limit : Int) (aggregate : AggregateModifiers)
    (within : Within limit aggregate) (small : limit + 3500 * modules.length < 2 ^ 31) :
    modules.foldlM (fun aggregate moduleId => addModifiers aggregate moduleId.modifiers) aggregate =
        .ok (modules.foldl (fun aggregate moduleId => aggregate.add moduleId.modifiers) aggregate) ∧
      Within (limit + 3500 * modules.length)
        (modules.foldl (fun aggregate moduleId => aggregate.add moduleId.modifiers) aggregate) := by
  induction modules generalizing limit aggregate with
  | nil =>
      refine ⟨rfl, ?_⟩
      rw [List.length_nil, Nat.cast_zero, mul_zero, add_zero]
      exact within
  | cons moduleId rest inductionHypothesis =>
      rw [List.length_cons, Nat.cast_succ] at small ⊢
      have next := within.add (modifiers_within moduleId)
      have goes := inductionHypothesis _ _ next (by omega)
      rw [List.foldlM_cons, addModifiers_eq next (by omega), List.foldl_cons]
      refine ⟨goes.1, ?_⟩
      have total : limit + 3500 * ((rest.length : Int) + 1) = limit + 3500 + 3500 * rest.length := by
        ring
      rw [total]
      exact goes.2

theorem zero_within : Within 0 .zero := ⟨le_refl _, le_refl _, le_refl _, le_refl _⟩

/-- A short loadout adds up without a check failing. -/
theorem aggregateModifiers_eq {modules : List ModuleId} (short : modules.length ≤ 3) :
    aggregateModifiers modules = .ok (Revenant.aggregateModifiers modules) :=
  (foldlM_addModifiers modules 0 .zero zero_within (by omega)).1

theorem aggregate_within {modules : List ModuleId} (short : modules.length ≤ 3) :
    Within (3500 * modules.length) (Revenant.aggregateModifiers modules) := by
  have within := (foldlM_addModifiers modules 0 .zero zero_within (by omega)).2
  rwa [zero_add] at within

/-- The exact value of a scaled field, with halves rounded up. -/
def scaled (base : Nat) (modifier : Int) : Int :=
  round ((base : ℚ) * (10000 + modifier) / 10000)

theorem scaled_eq (base : Nat) (modifier : Int) :
    scaled base modifier = (base * (10000 + modifier) + 5000) / 10000 := by
  unfold scaled
  rw [round_eq]
  have whole : (base : ℚ) * (10000 + modifier) / 10000 + 1 / 2 =
      ((base * (10000 + modifier) + 5000 : ℤ) : ℚ) / (10000 : ℕ) := by
    push_cast
    ring
  rw [whole, Rat.floor_intCast_div_natCast]
  rfl

/-- Scaling fails only where the exact value has no word. -/
theorem scaleBasisPoints_eq {base : Nat} {modifier : Int} (word : base ≤ u64Max)
    (small : |modifier| < 2 ^ 31) :
    scaleBasisPoints base modifier =
      if 10000 + modifier ≤ 0 then .error (.effectiveOutOfBounds "basis-point multiplier")
      else toWord u64Max (scaled base modifier) := by
  have range := abs_lt.mp small
  have sum : checkedSigned 127 (10000 + modifier) = .ok (10000 + modifier) :=
    checkedSigned_eq (abs_lt.mpr ⟨by omega, by omega⟩)
  unfold scaleBasisPoints
  rw [sum]
  change (do
    rejectIf (10000 + modifier ≤ 0) (ModuleError.effectiveOutOfBounds "basis-point multiplier")
    let product ← checkedSigned 127 (base * (10000 + modifier))
    let shifted ← checkedSigned 127 (product + 5000)
    toWord u64Max (shifted.tdiv 10000)) = _
  by_cases closed : 10000 + modifier ≤ 0
  · rw [if_pos closed, rejectIf, if_pos closed]
    rfl
  · rw [if_neg closed, rejectIf, if_neg closed]
    have word : (base : Int) ≤ 2 ^ 64 - 1 := by
      have cast : (base : Int) ≤ u64Max := by exact_mod_cast word
      exact cast.trans (by decide)
    have positive : 0 ≤ (base : Int) * (10000 + modifier) :=
      mul_nonneg (Int.natCast_nonneg base) (by omega)
    have bounded : (base : Int) * (10000 + modifier) ≤ (2 ^ 64 - 1) * 2 ^ 32 :=
      mul_le_mul word (by omega) (by omega) (by decide)
    have product : checkedSigned 127 (base * (10000 + modifier)) =
        .ok (base * (10000 + modifier)) := checkedSigned_eq (abs_lt.mpr ⟨by omega, by omega⟩)
    have shifted : checkedSigned 127 (base * (10000 + modifier) + 5000) =
        .ok (base * (10000 + modifier) + 5000) :=
      checkedSigned_eq (abs_lt.mpr ⟨by omega, by omega⟩)
    rw [scaled_eq]
    change (do
      let product ← checkedSigned 127 (base * (10000 + modifier))
      let shifted ← checkedSigned 127 (product + 5000)
      toWord u64Max (shifted.tdiv 10000)) = _
    rw [product]
    change (do
      let shifted ← checkedSigned 127 (base * (10000 + modifier) + 5000)
      toWord u64Max (shifted.tdiv 10000)) = _
    rw [shifted]
    change toWord u64Max ((base * (10000 + modifier) + 5000 : Int).tdiv 10000) = _
    rw [Int.tdiv_eq_ediv_of_nonneg (by omega)]

theorem scaleBasisPoints_ok {base word : Nat} {modifier : Int} (small : base ≤ u64Max)
    (within : |modifier| < 2 ^ 31) (accepted : scaleBasisPoints base modifier = .ok word) :
    (word : Int) = scaled base modifier := by
  rw [scaleBasisPoints_eq small within] at accepted
  split at accepted
  · cases accepted
  · exact (toWord_eq_ok.mp accepted).1

/-! ## What an accepted build is -/

/-- Everything an accepted build implies. -/
structure Resolved (catalog : CatalogRevision) (base : BaseCombatProfile)
    (requested : List ModuleId) (build : ResolvedBuild) : Prop where
  revision : build.catalogRevision = catalog.text
  modules : canonicalizeLoadout requested = .ok build.modules
  known : catalog ≠ .m35v2 → ∀ moduleId ∈ requested, moduleId ∈ ModuleId.content
  legacy : catalog = .m26v1 → ∀ moduleId ∈ build.modules, moduleId ∈ ModuleId.legacy
  modifiers : build.modifiers = Revenant.aggregateModifiers build.modules
  damage : (build.profile.damage : Int) =
    scaled base.profile.damage build.modifiers.damageBasisPoints
  range : build.profile.range = base.profile.range + build.modifiers.rangeDelta
  cooldown : (build.profile.cooldownMs : Int) =
    scaled base.profile.cooldownMs build.modifiers.cooldownBasisPoints
  maxHealth : (build.profile.maxHealth : Int) =
    base.profile.maxHealth + build.modifiers.maxHealthDelta
  aggregate : validateAggregate catalog build.modifiers = .ok ()
  effective : validateEffective catalog build.profile = .ok ()

variable {base : BaseCombatProfile} {requested other : List ModuleId} {build : ResolvedBuild}
variable {catalogRevision : String} {catalog : CatalogRevision}

theorem checkedSigned_ok {bits : Nat} {value result : Int}
    (accepted : checkedSigned bits value = .ok result) : result = value := by
  unfold checkedSigned at accepted
  split at accepted
  · cases accepted
    rfl
  · cases accepted

theorem addHealth_ok {base word : Nat} {delta : Int} (accepted : addHealth base delta = .ok word) :
    (word : Int) = base + delta := by
  simp only [addHealth, bind_eq_ok] at accepted
  obtain ⟨total, summed, converted⟩ := accepted
  rw [checkedSigned_ok summed] at converted
  exact (toWord_eq_ok.mp converted).1

theorem canonical_short {modules : List ModuleId}
    (canonical : canonicalizeLoadout requested = .ok modules) : modules.length ≤ 3 := by
  obtain ⟨short, rfl, -⟩ := canonicalizeLoadout_iff.mp canonical
  rwa [List.length_insertionSort]

/-- The part that both paths share once the sums are known. -/
theorem resolved_of_steps {modules : List ModuleId} {revision : String} {damage cooldownMs maxHealth : Nat}
    {scaledDamage : Nat} {range : Int}
    (canonical : canonicalizeLoadout requested = .ok modules) (named : revision = catalog.text)
    (known : catalog ≠ .m35v2 → ∀ moduleId ∈ requested, moduleId ∈ ModuleId.content)
    (legacy : catalog = .m26v1 → ∀ moduleId ∈ modules, moduleId ∈ ModuleId.legacy)
    (aggregate : validateAggregate catalog (Revenant.aggregateModifiers modules) = .ok ())
    (damages : scaleBasisPoints base.profile.damage
      (Revenant.aggregateModifiers modules).damageBasisPoints = .ok scaledDamage)
    (words : toWord u32Max scaledDamage = .ok damage)
    (ranges : checkedSigned 31
      (base.profile.range + (Revenant.aggregateModifiers modules).rangeDelta) = .ok range)
    (cooldowns : scaleBasisPoints base.profile.cooldownMs
      (Revenant.aggregateModifiers modules).cooldownBasisPoints = .ok cooldownMs)
    (healths : addHealth base.profile.maxHealth
      (Revenant.aggregateModifiers modules).maxHealthDelta = .ok maxHealth)
    (effective : validateEffective catalog ⟨damage, range, cooldownMs, maxHealth⟩ = .ok ()) :
    Resolved catalog base requested
      ⟨revision, modules, Revenant.aggregateModifiers modules,
        ⟨damage, range, cooldownMs, maxHealth⟩⟩ := by
  have short := canonical_short canonical
  have within := aggregate_within short
  have damageWord : base.profile.damage ≤ u64Max := base.damage_le.trans (by decide)
  have scaledDamages := scaleBasisPoints_ok damageWord
    (within.1.trans_lt (by omega)) damages
  refine ⟨named, canonical, known, legacy, rfl, ?_, checkedSigned_ok ranges, ?_, addHealth_ok healths,
    aggregate, effective⟩
  · rw [← scaledDamages]
    exact_mod_cast (toWord_eq_ok.mp words).1
  · exact scaleBasisPoints_ok base.cooldown_le (within.2.1.trans_lt (by omega)) cooldowns

/-- An accepted build is one under a known revision. -/
theorem resolveBuild_resolved (accepted : resolveBuild catalogRevision base requested = .ok build) :
    ∃ catalog : CatalogRevision, catalogRevision = catalog.text ∧
      Resolved catalog base requested build := by
  unfold resolveBuild at accepted
  split at accepted
  · next newest =>
    refine ⟨.m35v2, newest, ?_⟩
    simp only [resolve, bind_eq_ok, exists_unit, pure_eq_ok] at accepted
    obtain ⟨-, modules, canonical, modifiers, aggregated, scaledDamage, damages, damage, words, range,
      ranges, cooldownMs, cooldowns, maxHealth, healths, effective, rfl⟩ := accepted
    rw [aggregateModifiers_eq (canonical_short canonical)] at aggregated
    cases aggregated
    exact resolved_of_steps canonical rfl (fun other => absurd rfl other) (by rintro ⟨⟩) rfl damages words
      ranges cooldowns healths effective
  · next older =>
    simp only [bind_eq_ok, exists_unit, rejectIf_eq_ok, pure_eq_ok, not_not, not_exists, not_and]
      at accepted
    obtain ⟨content, known, -, modules, canonical, legacy, modifiers, aggregated, aggregate,
      scaledDamage, damages, damage, words, cooldownMs, cooldowns, range, ranges, maxHealth, healths,
      effective, rfl⟩ := accepted
    rw [aggregateModifiers_eq (canonical_short canonical)] at aggregated
    cases aggregated
    simp only [List.mem_cons, List.not_mem_nil, or_false] at known
    rcases known with rfl | rfl | rfl
    · exact ⟨.m26v1, rfl, resolved_of_steps canonical rfl (fun _ => content) (fun _ => legacy rfl)
        aggregate damages words ranges cooldowns healths effective⟩
    · exact ⟨.m31v1, rfl, resolved_of_steps canonical rfl (fun _ => content) (by rintro ⟨⟩) aggregate damages
        words ranges cooldowns healths effective⟩
    · exact ⟨.m35v1, rfl, resolved_of_steps canonical rfl (fun _ => content) (by rintro ⟨⟩) aggregate damages
        words ranges cooldowns healths effective⟩

/-! ## The order of a request -/

/-- Sorting forgets the order of a request. -/
theorem insertionSort_perm (perm : requested.Perm other) :
    requested.insertionSort (fun left right => left.order ≤ right.order) =
      other.insertionSort (fun left right => left.order ≤ right.order) := by
  have first := List.perm_insertionSort (fun left right : ModuleId => left.order ≤ right.order)
    requested
  have second := List.perm_insertionSort (fun left right : ModuleId => left.order ≤ right.order) other
  refine List.Perm.eq_of_pairwise ?_ (List.pairwise_insertionSort _ _)
    (List.pairwise_insertionSort _ _) ((first.trans perm).trans second.symm)
  intro left right _ _ below above
  exact ModuleId.order_injective (Nat.le_antisymm below above)

theorem canonicalizeLoadout_perm (perm : requested.Perm other) :
    canonicalizeLoadout requested = canonicalizeLoadout other := by
  unfold canonicalizeLoadout
  rw [perm.length_eq, insertionSort_perm perm]

/-- Every permutation of a request has the same answer, refusals included. -/
theorem resolveBuild_perm (catalogRevision : String) (base : BaseCombatProfile)
    (perm : requested.Perm other) :
    resolveBuild catalogRevision base requested = resolveBuild catalogRevision base other := by
  unfold resolveBuild resolve
  simp only [canonicalizeLoadout_perm perm, perm.mem_iff]

/-- A canonical loadout has the modules of the request, each once and in order. -/
theorem canonical_sorted {modules : List ModuleId}
    (canonical : canonicalizeLoadout requested = .ok modules) :
    modules.Perm requested ∧ modules.Pairwise (fun left right => left.order < right.order) := by
  obtain ⟨-, rfl, absent⟩ := canonicalizeLoadout_iff.mp canonical
  exact ⟨List.perm_insertionSort _ _,
    strictly_sorted (List.pairwise_insertionSort _ _) absent⟩

/-! ## The model without words -/

/-- A field scaled without a bound on its words. -/
theorem unbounded_scaled {field word : Nat} {modifier : Int} :
    Revenant.scaleBasisPoints field modifier = .ok word ↔
      0 < 10000 + modifier ∧ (word : Int) = scaled field modifier := by
  rw [scaled_eq]
  unfold Revenant.scaleBasisPoints
  split
  · next closed =>
    constructor
    · intro impossible
      cases impossible
    · rintro ⟨positive, -⟩
      omega
  · next positive =>
    have product : 0 ≤ (field : Int) * (10000 + modifier) :=
      mul_nonneg (Int.natCast_nonneg field) (by omega)
    rw [Except.ok.injEq]
    omega

/-- A scaled field that is positive had a positive factor. -/
theorem positive_of_scaled {field : Nat} {modifier : Int} (positive : 0 < scaled field modifier) :
    0 < 10000 + modifier := by
  by_contra closed
  rw [scaled_eq] at positive
  have product : (field : Int) * (10000 + modifier) ≤ 0 :=
    mul_nonpos_of_nonneg_of_nonpos (Int.natCast_nonneg field) (by omega)
  omega

/-- What the machine words accept, `resolveNamed` accepts with the same build. -/
theorem Resolved.named (resolved : Resolved catalog base requested build) :
    resolveNamed catalog.text base.profile requested =
      .ok ⟨build.modules, build.modifiers, build.profile⟩ := by
  have bounded := bounded_of_validateEffective resolved.effective
  have damage := resolved.damage
  have cooldown := resolved.cooldown
  have maxHealth := resolved.maxHealth
  have damages : Revenant.scaleBasisPoints base.profile.damage
      (Revenant.aggregateModifiers build.modules).damageBasisPoints = .ok build.profile.damage := by
    rw [← resolved.modifiers, unbounded_scaled]
    refine ⟨@positive_of_scaled base.profile.damage _ ?_, damage⟩
    rw [← damage]
    have := bounded.damage.1
    omega
  have cooldowns : Revenant.scaleBasisPoints base.profile.cooldownMs
      (Revenant.aggregateModifiers build.modules).cooldownBasisPoints =
        .ok build.profile.cooldownMs := by
    rw [← resolved.modifiers, unbounded_scaled]
    refine ⟨@positive_of_scaled base.profile.cooldownMs _ ?_, cooldown⟩
    rw [← cooldown]
    have := bounded.cooldown.1
    omega
  have profile : ({ build.profile with
      range := base.profile.range + (Revenant.aggregateModifiers build.modules).rangeDelta
      maxHealth := ((base.profile.maxHealth : Int) +
        (Revenant.aggregateModifiers build.modules).maxHealthDelta).toNat } : CombatProfile) =
      build.profile := by
    rw [← resolved.modifiers, ← resolved.range, ← maxHealth, Int.toNat_natCast]
  unfold resolveNamed
  rw [CatalogRevision.named_text]
  simp only [bind_eq_ok, pure_eq_ok]
  refine ⟨build.profile, ?_, build.modules, resolved.modules, by rw [resolved.modifiers]⟩
  simp only [Revenant.resolveBuild, bind_eq_ok, exists_unit, rejectIf_eq_ok, pure_eq_ok, not_and,
    not_exists, not_not]
  refine ⟨resolved.known, build.modules, resolved.modules, resolved.legacy, ?_, _, damages, _,
    cooldowns, ?_, ?_, ?_⟩
  · rw [← resolved.modifiers]
    exact resolved.aggregate
  · rw [← resolved.modifiers]
    omega
  · rw [profile]
    exact resolved.effective
  · exact profile

/-- What `resolveNamed` accepts is resolved in machine words. -/
theorem resolved_of_named {modules : List ModuleId} {modifiers : AggregateModifiers}
    {profile : CombatProfile}
    (accepted : resolveNamed catalog.text base.profile requested =
      .ok ⟨modules, modifiers, profile⟩) :
    Resolved catalog base requested ⟨catalog.text, modules, modifiers, profile⟩ := by
  unfold resolveNamed at accepted
  rw [CatalogRevision.named_text] at accepted
  simp only [Revenant.resolveBuild, bind_eq_ok, exists_unit, rejectIf_eq_ok, pure_eq_ok, not_and,
    not_exists, not_not] at accepted
  obtain ⟨effective, ⟨known, canonical, sorted, legacy, aggregate, damage, damages, cooldown, cooldowns,
    positive, valid, rfl⟩, again, sortedAgain, same⟩ := accepted
  cases same
  cases Except.ok.inj (sorted.symm.trans sortedAgain)
  exact ⟨rfl, sorted, known, legacy, rfl, (unbounded_scaled.mp damages).2, rfl,
    (unbounded_scaled.mp cooldowns).2, Int.toNat_of_nonneg (not_lt.mp positive), aggregate, valid⟩

/-- The steps of both paths succeed on a resolved build. -/
theorem Resolved.steps (resolved : Resolved catalog base requested build) :
    aggregateModifiers build.modules = .ok build.modifiers ∧
      scaleBasisPoints base.profile.damage build.modifiers.damageBasisPoints =
        .ok build.profile.damage ∧
      toWord u32Max build.profile.damage = .ok build.profile.damage ∧
      checkedSigned 31 (base.profile.range + build.modifiers.rangeDelta) =
        .ok build.profile.range ∧
      scaleBasisPoints base.profile.cooldownMs build.modifiers.cooldownBasisPoints =
        .ok build.profile.cooldownMs ∧
      addHealth base.profile.maxHealth build.modifiers.maxHealthDelta =
        .ok build.profile.maxHealth := by
  have bounded := bounded_of_validateEffective resolved.effective
  have short := canonical_short resolved.modules
  have within := aggregate_within short
  rw [← resolved.modifiers] at within
  have fits : ∀ (field word : Nat) (modifier : Int), (word : Int) = scaled field modifier → 0 < word →
      word ≤ 700 → field ≤ u64Max → |modifier| ≤ 3500 * build.modules.length →
      scaleBasisPoints field modifier = .ok word := by
    intro field word modifier exact_ positive small wide near
    rw [scaleBasisPoints_eq wide (near.trans_lt (by omega)), if_neg, toWord_eq_ok]
    · exact ⟨exact_, small.trans (by decide)⟩
    · rw [not_le]
      exact @positive_of_scaled field _ (by omega)
  have damageRange := bounded.damage
  have cooldownRange := bounded.cooldown
  have rangeRange := bounded.range
  have healthRange := bounded.health
  refine ⟨?_, ?_, ?_, ?_, ?_, ?_⟩
  · rw [aggregateModifiers_eq short, resolved.modifiers]
  · exact fits _ _ _ resolved.damage (by omega) (by omega)
      (base.damage_le.trans (by decide)) within.1
  · exact toWord_eq_ok.mpr ⟨rfl, damageRange.2.trans (by decide)⟩
  · rw [← resolved.range]
    exact checkedSigned_eq (abs_lt.mpr ⟨by omega, by omega⟩)
  · exact fits _ _ _ resolved.cooldown (by omega) (by omega) base.cooldown_le within.2.1
  · rw [addHealth, ← resolved.maxHealth,
      checkedSigned_eq (abs_lt.mpr ⟨by omega, by omega⟩)]
    exact toWord_eq_ok.mpr ⟨rfl, healthRange.2.trans (by decide)⟩

/-- A resolved build is accepted. -/
theorem Resolved.accepted (resolved : Resolved catalog base requested build) :
    resolveBuild catalog.text base requested = .ok build := by
  obtain ⟨aggregated, damages, words, ranges, cooldowns, healths⟩ := resolved.steps
  cases build with
  | mk catalogRevision modules modifiers profile =>
  have revision : catalogRevision = catalog.text := resolved.revision
  subst revision
  cases catalog
  case m35v2 =>
    have newest : resolveBuild CatalogRevision.m35v2.text base requested =
        resolve base requested := if_pos rfl
    rw [newest]
    simp only [resolve, bind_eq_ok, exists_unit, pure_eq_ok]
    exact ⟨buildModuleCatalog_valid, modules, resolved.modules, modifiers, aggregated, _, damages, _,
      words, _, ranges, _, cooldowns, _, healths, resolved.effective, rfl⟩
  all_goals
    unfold resolveBuild
    rw [if_neg (by decide)]
    simp only [bind_eq_ok, exists_unit, rejectIf_eq_ok, pure_eq_ok, not_not, not_exists, not_and]
    refine ⟨resolved.known (by rintro ⟨⟩), by decide, ?_, modules, resolved.modules, ?_, modifiers, aggregated,
      resolved.aggregate, _, damages, _, words, _, cooldowns, _, ranges, _, healths,
      resolved.effective, by simp [CatalogRevision.text]⟩
  case m26v1.refine_1 => exact moduleCatalog_valid
  case m26v1.refine_2 => exact fun _ => resolved.legacy rfl
  case m31v1.refine_1 | m35v1.refine_1 => exact contentModuleCatalog_valid
  case m31v1.refine_2 | m35v1.refine_2 => exact fun older => absurd older (by decide)

/-- The model without words accepts the same requests with the same builds. -/
theorem resolveBuild_eq_ok_iff :
    resolveBuild catalog.text base requested = .ok build ↔ build.catalogRevision = catalog.text ∧
      resolveNamed catalog.text base.profile requested =
        .ok ⟨build.modules, build.modifiers, build.profile⟩ := by
  constructor
  · intro accepted
    obtain ⟨other, same, resolved⟩ := resolveBuild_resolved accepted
    rw [same]
    exact ⟨resolved.revision, resolved.named⟩
  · rintro ⟨revision, named⟩
    have accepted := (resolved_of_named named).accepted
    rw [← revision] at accepted ⊢
    exact accepted

/-! ## The laws -/

/-- The sums of a loadout as sums over its modules. -/
theorem aggregateModifiers_sum (modules : List ModuleId) :
    Revenant.aggregateModifiers modules =
      { damageBasisPoints := (modules.map (fun moduleId => moduleId.modifiers.damageBasisPoints)).sum
        cooldownBasisPoints :=
          (modules.map (fun moduleId => moduleId.modifiers.cooldownBasisPoints)).sum
        rangeDelta := (modules.map (fun moduleId => moduleId.modifiers.rangeDelta)).sum
        maxHealthDelta :=
          (modules.map (fun moduleId => moduleId.modifiers.maxHealthDelta)).sum } := by
  induction modules using List.reverseRecOn with
  | nil => rfl
  | append_singleton rest moduleId inductionHypothesis =>
      unfold Revenant.aggregateModifiers at inductionHypothesis ⊢
      rw [List.foldl_append, inductionHypothesis]
      simp [AggregateModifiers.add]

/-- An accepted request means the exact build: it lies in the envelope of its
catalog, and its modules are those of the request, sorted and distinct. -/
structure Exact (catalog : CatalogRevision) (base : BaseCombatProfile) (requested : List ModuleId)
    (build : ResolvedBuild) : Prop where
  revision : build.catalogRevision = catalog.text
  perm : build.modules.Perm requested
  sorted : build.modules.Pairwise (fun left right => left.order < right.order)
  damage : (build.profile.damage : Int) = round ((base.profile.damage : ℚ) * (10000 +
    (requested.map (fun moduleId => moduleId.modifiers.damageBasisPoints)).sum) / 10000)
  cooldown : (build.profile.cooldownMs : Int) = round ((base.profile.cooldownMs : ℚ) * (10000 +
    (requested.map (fun moduleId => moduleId.modifiers.cooldownBasisPoints)).sum) / 10000)
  range : build.profile.range = base.profile.range +
    (requested.map (fun moduleId => moduleId.modifiers.rangeDelta)).sum
  maxHealth : (build.profile.maxHealth : Int) = base.profile.maxHealth +
    (requested.map (fun moduleId => moduleId.modifiers.maxHealthDelta)).sum
  envelope : (envelope catalog).Contains build.profile
  modifiers : validateAggregate catalog build.modifiers = .ok ()

theorem Resolved.exact (resolved : Resolved catalog base requested build) :
    Exact catalog base requested build := by
  obtain ⟨perm, sorted⟩ := canonical_sorted resolved.modules
  have sums := resolved.modifiers.trans (aggregateModifiers_sum build.modules)
  have damage := resolved.damage
  have range := resolved.range
  have cooldown := resolved.cooldown
  have maxHealth := resolved.maxHealth
  rw [sums] at damage range cooldown maxHealth
  dsimp only at damage range cooldown maxHealth
  rw [(perm.map _).sum_eq] at damage range cooldown maxHealth
  exact ⟨resolved.revision, perm, sorted, damage, cooldown, range, maxHealth,
    validateEffective_contains resolved.effective, resolved.aggregate⟩

/-- Nothing in a resolved build but its revision comes from the catalog. -/
theorem Resolved.agrees {older : CatalogRevision} {second : ResolvedBuild}
    (first : Resolved catalog base requested build)
    (again : Resolved older base requested second) :
    build.modules = second.modules ∧ build.modifiers = second.modifiers ∧
      build.profile = second.profile := by
  have modules : build.modules = second.modules :=
    Except.ok.inj (first.modules.symm.trans again.modules)
  have modifiers : build.modifiers = second.modifiers := by
    rw [first.modifiers, again.modifiers, modules]
  refine ⟨modules, modifiers, ?_⟩
  have damage := first.damage.trans (modifiers ▸ again.damage.symm)
  have cooldown := first.cooldown.trans (modifiers ▸ again.cooldown.symm)
  have range := first.range.trans (modifiers ▸ again.range.symm)
  have maxHealth := first.maxHealth.trans (modifiers ▸ again.maxHealth.symm)
  cases profile : build.profile
  cases other : second.profile
  rw [profile, other] at damage cooldown range maxHealth
  simp only [CombatProfile.mk.injEq]
  exact ⟨Int.ofNat.inj damage, range, Int.ofNat.inj cooldown, Int.ofNat.inj maxHealth⟩

theorem text_injective : Function.Injective CatalogRevision.text := by
  intro left right same
  have named := congrArg CatalogRevision.named same
  rw [CatalogRevision.named_text, CatalogRevision.named_text] at named
  exact Option.some.inj named

/-- For every base profile of words and every request, under every catalog: the
order of the request does not matter, scaling fails only where the exact value
has no word, an accepted build is exact and inside its envelope, and catalogs
that accept the same request agree on it. -/
theorem resolveBuild_laws (base : BaseCombatProfile) (requested : List ModuleId)
    (catalog : CatalogRevision) :
    (∀ other, requested.Perm other →
      resolveBuild catalog.text base other = resolveBuild catalog.text base requested) ∧
      (∀ fields ∈ [base.profile.damage, base.profile.cooldownMs], ∀ modifier : Int,
        |modifier| < 2 ^ 31 → 0 < 10000 + modifier →
        scaleBasisPoints fields modifier =
          toWord u64Max (round ((fields : ℚ) * (10000 + modifier) / 10000))) ∧
      (∀ build, resolveBuild catalog.text base requested = .ok build →
        Exact catalog base requested build) ∧
      ∀ (other : CatalogRevision) (build second : ResolvedBuild),
        resolveBuild catalog.text base requested = .ok build →
        resolveBuild other.text base requested = .ok second →
        build.modules = second.modules ∧ build.modifiers = second.modifiers ∧
          build.profile = second.profile := by
  have resolved : ∀ (catalog : CatalogRevision) (build : ResolvedBuild),
      resolveBuild catalog.text base requested = .ok build →
      Resolved catalog base requested build := by
    intro catalog build accepted
    obtain ⟨other, same, resolved⟩ := resolveBuild_resolved accepted
    rw [text_injective same]
    exact resolved
  refine ⟨?_, ?_, ?_, ?_⟩
  · intro other perm
    exact (resolveBuild_perm _ base perm).symm
  · intro field member modifier small positive
    have word : field ≤ u64Max := by
      simp only [List.mem_cons, List.not_mem_nil, or_false] at member
      rcases member with rfl | rfl
      · exact base.damage_le.trans (by decide)
      · exact base.cooldown_le
    rw [scaleBasisPoints_eq word small, if_neg (not_le.mpr positive), scaled]
  · intro build accepted
    exact (resolved catalog build accepted).exact
  · intro other build second accepted again
    exact (resolved catalog build accepted).agrees (resolved other second again)

/-- The profile of the pulse rifle. -/
def rifleBase : BaseCombatProfile where
  profile := { damage := 40, range := 6, cooldownMs := 250, maxHealth := 100 }
  damage_le := by decide
  range_le := by decide
  cooldown_le := by decide
  maxHealth_le := by decide

/-- A request out of order under the build catalog: the two models resolve it to
the same exact build. -/
theorem resolveBuild_laws_rifle :
    ∃ build, resolveBuild CatalogRevision.m35v2.text rifleBase [.wardCapacitor, .forceMatrix] =
        .ok build ∧
      build.modules = [.forceMatrix, .wardCapacitor] ∧
      Exact .m35v2 rifleBase [.wardCapacitor, .forceMatrix] build ∧
      resolveNamed CatalogRevision.m35v2.text rifleBase.profile [.wardCapacitor, .forceMatrix] =
        .ok ⟨build.modules, build.modifiers, build.profile⟩ := by
  have sorted : (resolveBuild CatalogRevision.m35v2.text rifleBase
      [.wardCapacitor, .forceMatrix]).toOption.map ResolvedBuild.modules =
        some [.forceMatrix, .wardCapacitor] := by
    decide +kernel
  cases accepted : resolveBuild CatalogRevision.m35v2.text rifleBase [.wardCapacitor, .forceMatrix] with
  | error failure =>
      rw [accepted] at sorted
      cases sorted
  | ok build =>
      rw [accepted] at sorted
      obtain ⟨-, -, exactly, -⟩ :=
        resolveBuild_laws rifleBase [.wardCapacitor, .forceMatrix] .m35v2
      exact ⟨build, rfl, Option.some.inj sorted, exactly build accepted,
        (resolveBuild_eq_ok_iff.mp accepted).2⟩

end Builds
end Revenant
