import Revenant.Ai.Lancer
import Revenant.Ai.Bulwark
import Revenant.Ai.Support

namespace Revenant
namespace Ai

open Library

/-!
# The elite pair

A Bulwark with either a mender or a second attacker.  The pair of attackers
takes turns: one warning is open at a time, and a gap follows each resolution.

Both compositions share one brain type.  `Decided` lists what a tick can
decide and from which of the three brains it comes, and everything later is
read off that list, so a change of one of the brains touches one lemma here.
-/

namespace Elite

def breatherMs : Nat := 600

/-- The warning one of the two actors has open. -/
structure Warning where
  actorId : Nat
  resolvesAtMs : Nat
  durationMs : Nat
  deriving DecidableEq, Repr

/-- The two attackers are the Bulwark (index 0) and the Lancer (index 1); the
source keeps each pair of values in an array. -/
structure EliteCadence where
  bulwarkId : Nat
  lancerId : Nat
  bulwarkAlive : Bool
  lancerAlive : Bool
  lancerNext : Bool
  availableAtMs : Nat
  warning : Option Warning
  deriving DecidableEq, Repr

namespace EliteCadence

def new (bulwarkId lancerId : Nat) : Option EliteCadence :=
  if bulwarkId = 0 ∨ lancerId = 0 ∨ bulwarkId = lancerId then none
  else
    some { bulwarkId, lancerId, bulwarkAlive := true, lancerAlive := true, lancerNext := false
           availableAtMs := 0, warning := none }

def readyActor (cadence : EliteCadence) (nowMs : Nat) : Option Nat :=
  if cadence.warning.isSome ∨ nowMs < cadence.availableAtMs then none
  else if cadence.lancerNext then
    if cadence.lancerAlive then some cadence.lancerId
    else if cadence.bulwarkAlive then some cadence.bulwarkId else none
  else
    if cadence.bulwarkAlive then some cadence.bulwarkId
    else if cadence.lancerAlive then some cadence.lancerId else none

def warningDuration (cadence : EliteCadence) (actorId : Nat) : Nat :=
  if actorId = cadence.bulwarkId then Bulwark.windupMs else Lancer.windupMs

/-- `none` stands for the refusal `false`, which leaves the cadence as it was. -/
def beginWarning (cadence : EliteCadence) (actorId nowMs : Nat) : Option EliteCadence :=
  if cadence.readyActor nowMs ≠ some actorId then none
  else
    some { cadence with
      warning := some { actorId, durationMs := cadence.warningDuration actorId
                        resolvesAtMs := saturatingAdd nowMs (cadence.warningDuration actorId) } }

def resolveWarning (cadence : EliteCadence) (actorId nowMs : Nat) : Option EliteCadence :=
  match cadence.warning with
  | none => none
  | some warning =>
      if warning.actorId ≠ actorId ∨ nowMs < warning.resolvesAtMs then none
      else
        some { cadence with
          warning := none, lancerNext := decide (actorId = cadence.bulwarkId)
          availableAtMs := saturatingAdd nowMs breatherMs }

/-- An obsolete warning of the retired actor cannot hold the pair. -/
def retire (cadence : EliteCadence) (actorId nowMs : Nat) : EliteCadence :=
  if actorId = cadence.bulwarkId then
    let cadence := { cadence with bulwarkAlive := false }
    if cadence.warning.any (fun warning => warning.actorId = actorId) then
      { cadence with
        warning := none, lancerNext := true, availableAtMs := saturatingAdd nowMs breatherMs }
    else cadence
  else if actorId = cadence.lancerId then
    let cadence := { cadence with lancerAlive := false }
    if cadence.warning.any (fun warning => warning.actorId = actorId) then
      { cadence with
        warning := none, lancerNext := false, availableAtMs := saturatingAdd nowMs breatherMs }
    else cadence
  else cadence

/-- A slow write extends the visible warning or the gap after its resolution. -/
def confirmAt (cadence : EliteCadence) (nowMs : Nat) : EliteCadence :=
  match cadence.warning with
  | some warning =>
      { cadence with
        warning := some { warning with
          resolvesAtMs := max warning.resolvesAtMs (saturatingAdd nowMs warning.durationMs) } }
  | none =>
      { cadence with availableAtMs := max cadence.availableAtMs (saturatingAdd nowMs breatherMs) }

end EliteCadence

/-- Called only after validating the small arena, so these translations cannot overflow. -/
def toSouth (position : Position) : Position := { position with z := position.z + 15 }

def toNorth (position : Position) : Position := { position with z := position.z - 15 }

/-- The solo Lancer's charge, played in the north pad. -/
def northPadTick (charge : Lancer.GlassLancer) (nowMs : Nat) (origin player : Position) :
    Option (Lancer.ChargeAction × Lancer.GlassLancer) :=
  if ¬ Bulwark.arenaContains origin ∨ ¬ Bulwark.arenaContains player then none
  else
    match charge.tick nowMs (toSouth origin) (toSouth player) with
    | none => none
    | some (.windup origin target, next) => some (.windup (toNorth origin) (toNorth target), next)
    | some (.resolved origin target damage, next) =>
        some (.resolved (toNorth origin) (toNorth target) damage, next)

/-- A charge in the north pad locks a target or resolves the locked one. -/
theorem northPadTick_cases {charge next : Lancer.GlassLancer} {nowMs : Nat}
    {origin player : Position} {action : Lancer.ChargeAction}
    (acted : northPadTick charge nowMs origin player = some (action, next)) :
    (∃ target, Lancer.arenaContains (toSouth origin) ∧ Lancer.arenaContains target ∧
        action = .windup (toNorth (toSouth origin)) (toNorth target) ∧
        next.locked = some (toSouth origin, target)) ∨
      ∃ locked damage, charge.locked = some locked ∧ damage ≤ Lancer.damage ∧
        action = .resolved (toNorth locked.1) (toNorth locked.2) damage ∧ next.locked = none := by
  unfold northPadTick at acted
  split at acted
  · cases acted
  · split at acted
    · cases acted
    · next start target moved inner =>
      obtain ⟨-, originInside, playerInside, ⟨-, same, rfl⟩ | ⟨_, _, -, other, -⟩⟩ :=
        Lancer.GlassLancer.tick_cases inner
      · cases same
        cases acted
        exact Or.inl ⟨_, originInside, Lancer.GlassLancer.aim_arena originInside playerInside, rfl,
          rfl⟩
      · cases other
    · next start target damage moved inner =>
      obtain ⟨-, -, -, ⟨-, other, -⟩ | ⟨_, _, locked, same, rfl⟩⟩ :=
        Lancer.GlassLancer.tick_cases inner
      · cases other
      · cases same
        cases acted
        exact Or.inr ⟨_, _, locked, Lancer.chargeDamage_le _ _ _, rfl, rfl⟩

inductive EliteComposition where
  | bastionLink
  | crossedGuard
  deriving DecidableEq, Repr

namespace EliteComposition

def id : EliteComposition → String
  | bastionLink => "bastion_link"
  | crossedGuard => "crossed_guard"

def fromId (id : String) : Option EliteComposition :=
  if id = "bastion_link" then some bastionLink
  else if id = "crossed_guard" then some crossedGuard
  else none

@[simp] theorem fromId_id (composition : EliteComposition) :
    fromId composition.id = some composition := by
  cases composition <;> rfl

def entrance : EliteComposition → Position
  | bastionLink => ⟨5, 0, -6⟩
  | crossedGuard => ⟨5, 0, -10⟩

/-- The partner's archetype, spawn cell and health. -/
def partner : EliteComposition → String × Position × Nat
  | bastionLink => ("relay-mender", ⟨9, 0, -6⟩, Support.health)
  | crossedGuard => ("glass-lancer", ⟨9, 0, -9⟩, Lancer.health)

end EliteComposition

inductive EliteAction where
  | defense (action : Bulwark.BulwarkAction)
  | charge (action : Lancer.ChargeAction)
  | repair (action : Support.RepairAction)
  deriving DecidableEq, Repr

structure EliteBrain where
  composition : EliteComposition
  bulwarkId : Nat
  partnerId : Nat
  defense : Bulwark.SteelBulwark
  charge : Lancer.GlassLancer
  repair : Support.RelayMender
  cadence : EliteCadence
  deriving DecidableEq, Repr

/-- An actor counts only as the expected enemy, alive and on the pad. -/
abbrev livingEnemy (actor : Actor) (id : Nat) : Prop :=
  actor.id = id ∧ actor.kind = .enemy ∧ 0 < actor.health ∧ Bulwark.arenaContains actor.position

namespace EliteBrain

/-- The spawn projection already contains the Bulwark's initial warning. -/
def new (composition : EliteComposition) (bulwarkId partnerId : Nat) : Option EliteBrain :=
  match EliteCadence.new bulwarkId partnerId with
  | none => none
  | some cadence =>
      some { composition, bulwarkId, partnerId, defense := .default, charge := .default
             repair := .default, cadence := (cadence.beginWarning bulwarkId 0).getD cadence }

/-- The Bulwark acts when it can; otherwise a living mender repairs it. -/
def tickBastionLink (brain : EliteBrain) (nowMs : Nat) (guard partner : Option Actor)
    (player : Position) : Option (EliteAction × EliteBrain) :=
  match guard with
  | none => none
  | some guard =>
      match brain.defense.tick nowMs guard.position player with
      | some (action, defense) => some (.defense action, { brain with defense })
      | none =>
          match partner with
          | none => none
          | some partner =>
              match brain.repair.tick nowMs partner [guard] with
              | none => none
              | some (action, repair) => some (.repair action, { brain with repair })

/-- The actor whose turn it is: the one that warned, else the one that is ready. -/
def selected (brain : EliteBrain) (nowMs : Nat) : Option Nat :=
  match brain.cadence.warning with
  | some warning => some warning.actorId
  | none => brain.cadence.readyActor nowMs

def tickDefense (brain : EliteBrain) (nowMs selected : Nat) (guard : Actor) (player : Position) :
    Option (EliteAction × EliteBrain) :=
  match brain.defense.tick nowMs guard.position player with
  | none => none
  | some (action, defense) =>
      let cadence :=
        match action with
        | .brace _ => brain.cadence.beginWarning selected nowMs
        | .slam _ _ => brain.cadence.resolveWarning selected nowMs
      match cadence with
      | none => none
      | some cadence => some (.defense action, { brain with defense, cadence })

def tickCharge (brain : EliteBrain) (nowMs selected : Nat) (partner : Actor) (player : Position) :
    Option (EliteAction × EliteBrain) :=
  match northPadTick brain.charge nowMs partner.position player with
  | none => none
  | some (action, charge) =>
      let cadence :=
        match action with
        | .windup _ _ => brain.cadence.beginWarning selected nowMs
        | .resolved _ _ _ => brain.cadence.resolveWarning selected nowMs
      match cadence with
      | none => none
      | some cadence => some (.charge action, { brain with charge, cadence })

def tickCrossedGuard (brain : EliteBrain) (nowMs : Nat) (guard partner : Option Actor)
    (player : Position) : Option (EliteAction × EliteBrain) :=
  match brain.selected nowMs with
  | none => none
  | some selected =>
      if selected = brain.bulwarkId then
        match guard with
        | none => none
        | some guard => brain.tickDefense nowMs selected guard player
      else
        match partner with
        | none => none
        | some partner => brain.tickCharge nowMs selected partner player

/-- Propose at most one durable transition. -/
def tick (brain : EliteBrain) (nowMs : Nat) (guard partner : Option Actor) (player : Actor) :
    Option (EliteAction × EliteBrain) :=
  if player.kind ≠ .player ∨ player.health = 0 ∨ ¬ Bulwark.arenaContains player.position then none
  else
    let guard := guard.filter (fun actor => livingEnemy actor brain.bulwarkId)
    let partner := partner.filter (fun actor => livingEnemy actor brain.partnerId)
    match brain.composition with
    | .bastionLink => brain.tickBastionLink nowMs guard partner player.position
    | .crossedGuard => brain.tickCrossedGuard nowMs guard partner player.position

/-- Only the paired attackers share a cadence, and a repair never touches it. -/
def confirmCadence (brain : EliteBrain) (nowMs : Nat) : EliteBrain :=
  if brain.composition = .crossedGuard then { brain with cadence := brain.cadence.confirmAt nowMs }
  else brain

def confirmAt (brain : EliteBrain) (action : EliteAction) (nowMs : Nat) : EliteBrain :=
  match action with
  | .defense _ => { brain with defense := brain.defense.confirmAt nowMs }.confirmCadence nowMs
  | .charge _ => { brain with charge := brain.charge.confirmAt nowMs }.confirmCadence nowMs
  | .repair _ => { brain with repair := brain.repair.confirmAt nowMs }

def retire (brain : EliteBrain) (actorId confirmedMs : Nat) : EliteBrain :=
  { brain with cadence := brain.cadence.retire actorId confirmedMs }

/-- An open charge stays on the southern pad it is computed on. -/
def Aimed (brain : EliteBrain) : Prop :=
  ∀ charge, brain.charge.locked = some charge →
    Lancer.arenaContains charge.1 ∧ Lancer.arenaContains charge.2

theorem aimed_new {composition : EliteComposition} {bulwarkId partnerId : Nat} {brain : EliteBrain}
    (created : EliteBrain.new composition bulwarkId partnerId = some brain) : brain.Aimed := by
  unfold EliteBrain.new at created
  split at created
  · cases created
  · cases created
    intro charge impossible
    cases impossible

/-- What a tick decided, and from which of the three brains. -/
inductive Decided (brain : EliteBrain) (nowMs : Nat) (guard partner : Option Actor)
    (player : Position) (action : EliteAction) (next : EliteBrain) : Prop
  | defense (actor : Actor) (move : Bulwark.BulwarkAction) (defense : Bulwark.SteelBulwark)
      (found : guard = some actor)
      (acted : brain.defense.tick nowMs actor.position player = some (move, defense))
      (action_eq : action = .defense move) (charge_eq : next.charge = brain.charge)
  | charge (actor : Actor) (move : Lancer.ChargeAction) (charge : Lancer.GlassLancer)
      (found : partner = some actor)
      (acted : northPadTick brain.charge nowMs actor.position player = some (move, charge))
      (action_eq : action = .charge move) (charge_eq : next.charge = charge)
  | repair (actor ally : Actor) (move : Support.RepairAction) (repair : Support.RelayMender)
      (found : partner = some actor) (target : guard = some ally)
      (acted : brain.repair.tick nowMs actor [ally] = some (move, repair))
      (action_eq : action = .repair move) (charge_eq : next.charge = brain.charge)

variable {brain next : EliteBrain} {nowMs : Nat} {guard partner : Option Actor} {player : Actor}
  {action : EliteAction}

variable {place : Position}

theorem tickBastionLink_decided
    (acted : brain.tickBastionLink nowMs guard partner place = some (action, next)) :
    Decided brain nowMs guard partner place action next := by
  unfold tickBastionLink at acted
  split at acted
  · cases acted
  · next ally =>
    split at acted
    · next move defense moved =>
      cases acted
      exact .defense ally move defense rfl moved rfl rfl
    · split at acted
      · cases acted
      · next actor =>
        split at acted
        · cases acted
        · next move repair moved =>
          cases acted
          exact .repair actor ally move repair rfl rfl moved rfl rfl

theorem tickDefense_decided {selected : Nat} {actor : Actor}
    (acted : brain.tickDefense nowMs selected actor place = some (action, next)) :
    Decided brain nowMs (some actor) partner place action next := by
  unfold tickDefense at acted
  split at acted
  · cases acted
  · next move defense moved =>
    simp only at acted
    split at acted
    · cases acted
    · cases acted
      exact .defense actor move defense rfl moved rfl rfl

theorem tickCharge_decided {selected : Nat} {actor : Actor}
    (acted : brain.tickCharge nowMs selected actor place = some (action, next)) :
    Decided brain nowMs guard (some actor) place action next := by
  unfold tickCharge at acted
  split at acted
  · cases acted
  · next move charge moved =>
    simp only at acted
    split at acted
    · cases acted
    · cases acted
      exact .charge actor move charge rfl moved rfl rfl

theorem tickCrossedGuard_decided
    (acted : brain.tickCrossedGuard nowMs guard partner place = some (action, next)) :
    Decided brain nowMs guard partner place action next := by
  unfold tickCrossedGuard at acted
  split at acted
  · cases acted
  · split at acted
    · split at acted
      · cases acted
      · exact tickDefense_decided acted
    · split at acted
      · cases acted
      · exact tickCharge_decided acted

/-- Everything a tick that acts can have done. -/
theorem tick_decided (acted : brain.tick nowMs guard partner player = some (action, next)) :
    (player.kind = .player ∧ player.health ≠ 0 ∧ Bulwark.arenaContains player.position) ∧
      Decided brain nowMs (guard.filter (fun actor => livingEnemy actor brain.bulwarkId))
        (partner.filter (fun actor => livingEnemy actor brain.partnerId)) player.position action
        next := by
  unfold tick at acted
  split at acted
  · cases acted
  · next able =>
    simp only [not_or, not_not] at able
    refine ⟨able, ?_⟩
    simp only at acted
    split at acted
    · exact tickBastionLink_decided acted
    · exact tickCrossedGuard_decided acted

/-- The linked pair never charges: the Bulwark acts, or is repaired. -/
theorem tick_bastionLink (linked : brain.composition = .bastionLink)
    (acted : brain.tick nowMs guard partner player = some (action, next)) :
    next.composition = .bastionLink ∧ ((∃ move, action = .defense move) ∨
      ∃ ally, guard = some ally ∧ action = .repair (Support.RelayMender.repair ally)) := by
  unfold tick at acted
  split at acted
  · cases acted
  · rw [linked] at acted
    simp only [tickBastionLink] at acted
    split at acted
    · cases acted
    · next ally found =>
      split at acted
      · next move defense moved =>
        cases acted
        exact ⟨linked, Or.inl ⟨move, rfl⟩⟩
      · split at acted
        · cases acted
        · split at acted
          · cases acted
          · next repair mender repaired =>
            cases acted
            obtain ⟨same, -⟩ := Support.RelayMender.tick_single_some repaired
            exact ⟨linked, Or.inr ⟨ally, (Option.filter_eq_some_iff.mp found).1, by rw [same]⟩⟩

@[simp] theorem confirmAt_composition (brain : EliteBrain) (action : EliteAction) (nowMs : Nat) :
    (brain.confirmAt action nowMs).composition = brain.composition := by
  cases action with
  | defense move | charge move =>
      simp only [confirmAt, confirmCadence]
      split <;> rfl
  | repair move => rfl

theorem Decided.aimed (decided : Decided brain nowMs guard partner place action next)
    (aimed : brain.Aimed) : next.Aimed := by
  unfold Aimed at *
  cases decided with
  | defense actor move defense found acted action_eq charge_eq => rw [charge_eq]; exact aimed
  | repair actor ally move repair found target acted action_eq charge_eq =>
      rw [charge_eq]; exact aimed
  | charge actor move charge found acted action_eq charge_eq =>
      rw [charge_eq]
      obtain ⟨target, originInside, targetInside, -, locked⟩ | ⟨_, _, -, -, -, free⟩ :=
        northPadTick_cases acted
      · intro held same
        rw [locked] at same
        cases same
        exact ⟨originInside, targetInside⟩
      · intro held same
        rw [free] at same
        cases same

@[simp] theorem confirmAt_locked (brain : EliteBrain) (action : EliteAction) (nowMs : Nat) :
    (brain.confirmAt action nowMs).charge.locked = brain.charge.locked := by
  cases action with
  | defense move => simp only [confirmAt, confirmCadence]; split <;> rfl
  | charge move => simp only [confirmAt, confirmCadence]; split <;> rfl
  | repair move => rfl

theorem confirmAt_aimed (aimed : brain.Aimed) (action : EliteAction) (nowMs : Nat) :
    (brain.confirmAt action nowMs).Aimed := by
  unfold Aimed
  rw [confirmAt_locked]
  exact aimed

theorem retire_aimed (aimed : brain.Aimed) (actorId nowMs : Nat) :
    (brain.retire actorId nowMs).Aimed := aimed

/-! ## Copies

The brain looks at the player's kind, health and position and at nothing of an
enemy's archetype. -/

theorem tickBastionLink_archetype (place : Position) (guardType partnerType : String) :
    brain.tickBastionLink nowMs (guard.map (fun actor => { actor with archetype := guardType }))
      (partner.map (fun actor => { actor with archetype := partnerType })) place =
      brain.tickBastionLink nowMs guard partner place := by
  cases guard with
  | none => rfl
  | some ally =>
      cases partner with
      | none => rfl
      | some actor =>
          simp only [tickBastionLink, Option.map_some, Support.RelayMender.tick_archetype]

theorem tickCrossedGuard_archetype (place : Position) (guardType partnerType : String) :
    brain.tickCrossedGuard nowMs (guard.map (fun actor => { actor with archetype := guardType }))
      (partner.map (fun actor => { actor with archetype := partnerType })) place =
      brain.tickCrossedGuard nowMs guard partner place := by
  cases guard <;> cases partner <;> rfl

/-- The brain decides the same for enemies that agree where they count. -/
theorem tick_copies {guard' partner' : Option Actor} {player' : Actor}
    (guardType partnerType : String)
    (guardSame : guard.filter (fun actor => livingEnemy actor brain.bulwarkId) =
      (guard'.filter (fun actor => livingEnemy actor brain.bulwarkId)).map
        (fun actor => { actor with archetype := guardType }))
    (partnerSame : partner.filter (fun actor => livingEnemy actor brain.partnerId) =
      (partner'.filter (fun actor => livingEnemy actor brain.partnerId)).map
        (fun actor => { actor with archetype := partnerType }))
    (kind : player.kind = player'.kind) (health : player.health = player'.health)
    (position : player.position = player'.position) :
    brain.tick nowMs guard partner player = brain.tick nowMs guard' partner' player' := by
  unfold tick
  simp only [kind, health, position, guardSame, partnerSame, tickBastionLink_archetype,
    tickCrossedGuard_archetype]

end EliteBrain
end Elite
end Ai
end Revenant
