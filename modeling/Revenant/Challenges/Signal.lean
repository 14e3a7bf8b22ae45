import Revenant.Ai.Sentinel
import Revenant.Challenges.Actions
import Revenant.Challenges.State
import Revenant.Library.Turns
import Revenant.Library.Words

namespace Revenant
namespace Challenges
namespace Signal

open Library Ai

/-!
# Distant Signal

A player in a firing lane against the sentinel behind its barrier.  A due shot
resolves at the position before the step, and a late observation resolves one
shot; what the player asked for happens only to a player who lives.  The rules
do not depend on the shape of the barrier, so they are read under any cover
test.

A history is the list of accepted steps, and `Kept` ties the health, the next
shot, the weapon and the end of a run to it.  The end of the clock is
excluded, because the next shot is a saturating sum there.
-/

def spawn : Position := ⟨-4, 0, 4⟩

structure SignalRun where
  position : Position
  health : Nat
  enemyHealth : Nat
  weapon : WeaponItem
  profile : CombatProfile
  lastElapsedMs : Nat
  nextShotMs : Nat
  attackReadyMs : Nat
  deriving DecidableEq, Repr

structure Update where
  run : SignalRun
  effect : Effect
  deriving DecidableEq, Repr

inductive Error where
  | clockReversed
  | invalidMovement
  | blockedShot
  | cooldown
  | outOfRange
  | terminal
  deriving DecidableEq, Repr

def Effect.default : Effect := { outgoingDamage := 0, incomingDamage := 0, terminal := none }

namespace SignalRun

def new (equipment : Equipment) : Except ChallengeError SignalRun := do
  equipment.validate
  let base ← require (weaponProfile equipment.weaponId) .invalidEquipment
  let profile ← equipment.profile
  rejectIf (profile.range < 4) .invalidEquipment
  return { position := spawn, health := profile.maxHealth, enemyHealth := Sentinel.health
           weapon := base.itemId, profile, lastElapsedMs := 0
           nextShotMs := Sentinel.shotIntervalMs, attackReadyMs := 0 }

def distanceSquared (run : SignalRun) : Int :=
  (run.position.x - Sentinel.position.x) ^ 2 + (run.position.y - Sentinel.position.y) ^ 2 +
    (run.position.z - Sentinel.position.z) ^ 2

section Cover

variable (cover : Position → Position → Bool)

/-- The points of the firing lane outside the barrier. -/
def walkable (position : Position) : Bool :=
  decide (position.y = 0 ∧ (-9 ≤ position.x ∧ position.x ≤ 1) ∧ 0 ≤ position.z ∧ position.z ≤ 5) &&
    !cover position position

/-- The damage an action may do, if the action may be taken. -/
def validateAction (run : SignalRun) (elapsedMs : Nat) : Action → Except Error Nat
  | .move position => do
      rejectIf (walkable cover position = false ∨
        |position.x - run.position.x| + |position.z - run.position.z| ≠ 1 ∨
        cover run.position position = true) .invalidMovement
      return 0
  | .attack => do
      rejectIf (cover run.position Sentinel.position = true) .blockedShot
      rejectIf (elapsedMs < run.attackReadyMs) .cooldown
      rejectIf (run.distanceSquared > run.profile.range ^ 2) .outOfRange
      require (positionedDamage run.weapon run.profile.damage run.distanceSquared) .outOfRange
  | .observe => .ok 0

/-- The shot that is due, with the damage it does at the run's position. -/
def shoot (run : SignalRun) (elapsedMs : Nat) : SignalRun × Nat :=
  let run := { run with lastElapsedMs := elapsedMs }
  if elapsedMs < run.nextShotMs then (run, 0)
  else
    let run := { run with nextShotMs := saturatingAdd elapsedMs Sentinel.shotIntervalMs }
    if run.distanceSquared ≤ Sentinel.shotRangeSquared ∧
        cover run.position Sentinel.position = false then
      ({ run with health := run.health - Sentinel.shotDamage }, Sentinel.shotDamage)
    else (run, 0)

/-- What the action of a living player does. -/
def act (run : SignalRun) (elapsedMs incomingDamage requested : Nat) : Action → Update
  | .move position => ⟨{ run with position }, { Effect.default with incomingDamage }⟩
  | .attack =>
      let enemyHealth := run.enemyHealth - requested
      ⟨{ run with
          enemyHealth, attackReadyMs := saturatingAdd elapsedMs run.profile.cooldownMs },
        { outgoingDamage := requested, incomingDamage
          terminal := if enemyHealth = 0 then some .completed else none }⟩
  | .observe => ⟨run, { Effect.default with incomingDamage }⟩

def apply (run : SignalRun) (elapsedMs : Nat) (action : Action) : Except Error Update := do
  rejectIf (run.health = 0 ∨ run.enemyHealth = 0) .terminal
  rejectIf (elapsedMs < run.lastElapsedMs) .clockReversed
  let requested ← run.validateAction cover elapsedMs action
  let (next, incomingDamage) := run.shoot cover elapsedMs
  if next.health = 0 then
    return ⟨next, { Effect.default with incomingDamage, terminal := some .defeated }⟩
  else return next.act elapsedMs incomingDamage requested action

end Cover

end SignalRun

/-! ## What an accepted step does -/

/-- A call: the server's time and the action. -/
structure Step where
  elapsedMs : Nat
  action : Action
  deriving DecidableEq, Repr

namespace SignalRun

variable {cover : Position → Position → Bool} {run : SignalRun} {step : Step} {update : Update}

def call (cover : Position → Position → Bool) (run : SignalRun) (step : Step) :
    Except Error Update :=
  run.apply cover step.elapsedMs step.action

/-- The sentinel sees the player in range. -/
def Exposed (cover : Position → Position → Bool) (run : SignalRun) : Prop :=
  run.distanceSquared ≤ Sentinel.shotRangeSquared ∧ cover run.position Sentinel.position = false

instance (cover : Position → Position → Bool) (run : SignalRun) : Decidable (run.Exposed cover) :=
  inferInstanceAs (Decidable (_ ∧ _))

/-- What the sentinel does to the player where the run stands. -/
def damage (cover : Position → Position → Bool) (run : SignalRun) (elapsedMs : Nat) : Nat :=
  if run.nextShotMs ≤ elapsedMs ∧ run.Exposed cover then Sentinel.shotDamage else 0

/-- The run behind the shot. -/
def shot (cover : Position → Position → Bool) (run : SignalRun) (elapsedMs : Nat) : SignalRun :=
  { run with
    lastElapsedMs := elapsedMs
    nextShotMs :=
      if run.nextShotMs ≤ elapsedMs then saturatingAdd elapsedMs Sentinel.shotIntervalMs
      else run.nextShotMs
    health := run.health - run.damage cover elapsedMs }

/-- The move is one walkable step that the barrier does not cross. -/
def Allows (cover : Position → Position → Bool) (run : SignalRun) (position : Position) : Prop :=
  walkable cover position = true ∧
    |position.x - run.position.x| + |position.z - run.position.z| = 1 ∧
    cover run.position position = false

/-- The weapon is ready, in the open and in range, for some damage. -/
def Aims (cover : Position → Position → Bool) (run : SignalRun) (elapsedMs requested : Nat) : Prop :=
  cover run.position Sentinel.position = false ∧ run.attackReadyMs ≤ elapsedMs ∧
    run.distanceSquared ≤ run.profile.range ^ 2 ∧
    positionedDamage run.weapon run.profile.damage run.distanceSquared = some requested

/-- The forms of an accepted step. -/
inductive Stepped (cover : Position → Position → Bool) (run : SignalRun) (step : Step) :
    Update → Prop
  | fallen (fell : (run.shot cover step.elapsedMs).health = 0) :
      Stepped cover run step ⟨run.shot cover step.elapsedMs,
        { outgoingDamage := 0, incomingDamage := run.damage cover step.elapsedMs
          terminal := some .defeated }⟩
  | moved (alive : (run.shot cover step.elapsedMs).health ≠ 0) {position : Position}
      (moves : step.action = .move position) (allowed : run.Allows cover position) :
      Stepped cover run step ⟨{ run.shot cover step.elapsedMs with position },
        { outgoingDamage := 0, incomingDamage := run.damage cover step.elapsedMs
          terminal := none }⟩
  | attacked (alive : (run.shot cover step.elapsedMs).health ≠ 0) (attacks : step.action = .attack)
      {requested : Nat} (aims : run.Aims cover step.elapsedMs requested) :
      Stepped cover run step
        ⟨{ run.shot cover step.elapsedMs with
            enemyHealth := run.enemyHealth - requested
            attackReadyMs := saturatingAdd step.elapsedMs run.profile.cooldownMs },
          { outgoingDamage := requested, incomingDamage := run.damage cover step.elapsedMs
            terminal := if run.enemyHealth - requested = 0 then some .completed else none }⟩
  | observed (alive : (run.shot cover step.elapsedMs).health ≠ 0)
      (observes : step.action = .observe) :
      Stepped cover run step ⟨run.shot cover step.elapsedMs,
        { outgoingDamage := 0, incomingDamage := run.damage cover step.elapsedMs
          terminal := none }⟩

end SignalRun

/-! ## Histories -/

abbrev SignalTurn : Type := Turn SignalRun Step Update

def time (turn : SignalTurn) : Nat := turn.input.elapsedMs

/-- The sentinel fires in the step, whether or not it hits. -/
def Fired (turn : SignalTurn) : Prop := turn.before.nextShotMs ≤ turn.input.elapsedMs

/-- The player's attack did damage in the step. -/
def Dealt (turn : SignalTurn) : Prop := 0 < turn.answer.effect.outgoingDamage

def terminals (history : List SignalTurn) : List Terminal :=
  history.filterMap (fun turn => turn.answer.effect.terminal)

/-- What ties a run to its history. -/
structure Kept (profile : CombatProfile) (history : List SignalTurn) (run : SignalRun) : Prop where
  equipped : run.profile = profile
  bounded : run.health ≤ profile.maxHealth
  paced : ∀ earlier ∈ history, Fired earlier →
    time earlier + Sentinel.shotIntervalMs ≤ run.nextShotMs
  opening : Sentinel.shotIntervalMs ≤ run.nextShotMs
  ready : ∀ earlier ∈ history, Dealt earlier →
    time earlier + profile.cooldownMs ≤ run.attackReadyMs
  ended : terminals history ≠ [] → run.health = 0 ∨ run.enemyHealth = 0
  single : (terminals history).length ≤ 1

/-- What an accepted step may do after a history. -/
structure Lawful (cover : Position → Position → Bool) (profile : CombatProfile)
    (history : List SignalTurn) (turn : SignalTurn) : Prop where
  later : turn.before.lastElapsedMs ≤ turn.input.elapsedMs
  healthy : turn.answer.run.health ≤ profile.maxHealth
  -- one shot at most, at the position before the step
  shot : turn.answer.effect.incomingDamage =
    if turn.before.nextShotMs ≤ turn.input.elapsedMs ∧
        turn.before.distanceSquared ≤ Sentinel.shotRangeSquared ∧
        cover turn.before.position Sentinel.position = false then Sentinel.shotDamage else 0
  paced : Fired turn → Sentinel.shotIntervalMs ≤ time turn ∧
    ∀ earlier ∈ history, Fired earlier → time earlier + Sentinel.shotIntervalMs ≤ time turn
  attacked : Dealt turn → turn.input.action = .attack ∧
    turn.before.Aims cover turn.input.elapsedMs turn.answer.effect.outgoingDamage ∧
    ∀ earlier ∈ history, Dealt earlier → time earlier + profile.cooldownMs ≤ time turn
  moved : turn.answer.run.position = turn.before.position ∨
    (turn.input.action = .move turn.answer.run.position ∧
      turn.before.Allows cover turn.answer.run.position)
  enemy : turn.answer.run.enemyHealth =
    turn.before.enemyHealth - turn.answer.effect.outgoingDamage
  -- who dies in a step does nothing else in it
  fallen : turn.answer.run.health = 0 → turn.answer.effect.outgoingDamage = 0 ∧
    turn.answer.run.position = turn.before.position
  defeated : turn.answer.effect.terminal = some .defeated ↔ turn.answer.run.health = 0
  completed : turn.answer.effect.terminal = some .completed ↔ turn.answer.run.enemyHealth = 0
  playing : terminals history = []

theorem terminals_snoc (history : List SignalTurn) (turn : SignalTurn) :
    terminals (history ++ [turn]) = terminals history ++ turn.answer.effect.terminal.toList :=
  filterMap_snoc _ _ _

section Steps

variable {cover : Position → Position → Bool} {profile : CombatProfile}
variable {history : List SignalTurn} {run : SignalRun} {step : Step} {update : Update}

theorem stepped_health (stepped : run.Stepped cover step update) :
    update.run.health = run.health - run.damage cover step.elapsedMs := by
  cases stepped <;> rfl

theorem stepped_clocks (stepped : run.Stepped cover step update) :
    update.run.profile = run.profile ∧
      update.run.nextShotMs = (run.shot cover step.elapsedMs).nextShotMs := by
  cases stepped <;> exact ⟨rfl, rfl⟩

theorem shot_paced (far : step.elapsedMs + Sentinel.shotIntervalMs ≤ u64Max) :
    run.nextShotMs ≤ (run.shot cover step.elapsedMs).nextShotMs ∧
      (run.nextShotMs ≤ step.elapsedMs →
        step.elapsedMs + Sentinel.shotIntervalMs ≤ (run.shot cover step.elapsedMs).nextShotMs) := by
  unfold SignalRun.shot
  dsimp only
  rw [saturatingAdd_eq far]
  by_cases due : run.nextShotMs ≤ step.elapsedMs
  · rw [if_pos due]
    exact ⟨due.trans (Nat.le_add_right _ _), fun _ => le_refl _⟩
  · rw [if_neg due]
    exact ⟨le_refl _, fun late => absurd late due⟩

/-- The weapon's clock: an attack that does damage waits for it and sets it. -/
theorem stepped_ready (stepped : run.Stepped cover step update)
    (far : step.elapsedMs + run.profile.cooldownMs ≤ u64Max) :
    run.attackReadyMs ≤ update.run.attackReadyMs ∧
      (0 < update.effect.outgoingDamage → run.attackReadyMs ≤ step.elapsedMs ∧
        step.elapsedMs + run.profile.cooldownMs ≤ update.run.attackReadyMs) := by
  cases stepped with
  | fallen | moved | observed => exact ⟨le_refl _, nofun⟩
  | attacked alive attacks aims =>
      dsimp only
      rw [saturatingAdd_eq far]
      exact ⟨aims.2.1.trans (Nat.le_add_right _ _), fun _ => ⟨aims.2.1, le_refl _⟩⟩

theorem completed_iff {enemyHealth : Nat} :
    (if enemyHealth = 0 then some Terminal.completed else none) = some .completed ↔
      enemyHealth = 0 := by
  split
  · next fell => exact ⟨fun _ => fell, fun _ => rfl⟩
  · next stands => exact ⟨nofun, fun fell => absurd fell stands⟩

/-- The two ends of a step. -/
theorem stepped_terminal (playing : run.enemyHealth ≠ 0)
    (stepped : run.Stepped cover step update) :
    (update.effect.terminal = some .defeated ↔ update.run.health = 0) ∧
      (update.effect.terminal = some .completed ↔ update.run.enemyHealth = 0) := by
  cases stepped with
  | fallen fell => exact ⟨⟨fun _ => fell, fun _ => rfl⟩, nofun, fun enemy => absurd enemy playing⟩
  | moved alive => exact ⟨⟨nofun, fun fell => absurd fell alive⟩, nofun, fun enemy => absurd enemy playing⟩
  | observed alive =>
      exact ⟨⟨nofun, fun fell => absurd fell alive⟩, nofun, fun enemy => absurd enemy playing⟩
  | @attacked alive attacks requested aims =>
      refine ⟨⟨?_, fun fell => absurd fell alive⟩, completed_iff⟩
      dsimp only
      split
      · nofun
      · nofun

/-- A run that may still be played has reported no end. -/
theorem Kept.unended (kept : Kept profile history run) (alive : run.health ≠ 0)
    (playing : run.enemyHealth ≠ 0) : terminals history = [] := by
  by_contra ended
  rcases kept.ended ended with fell | won
  · exact alive fell
  · exact playing won

theorem kept_snoc (kept : Kept profile history run) (alive : run.health ≠ 0)
    (playing : run.enemyHealth ≠ 0) (farShot : step.elapsedMs + Sentinel.shotIntervalMs ≤ u64Max)
    (farAttack : step.elapsedMs + profile.cooldownMs ≤ u64Max)
    (stepped : run.Stepped cover step update) :
    Kept profile (history ++ [⟨run, step, update⟩]) update.run := by
  obtain ⟨same, nextShot⟩ := stepped_clocks stepped
  obtain ⟨grows, fires⟩ := @shot_paced cover run step farShot
  rw [← kept.equipped] at farAttack
  obtain ⟨waits, attacks⟩ := stepped_ready stepped farAttack
  obtain ⟨defeated, completed⟩ := stepped_terminal playing stepped
  have unended := kept.unended alive playing
  have only : terminals (history ++ [⟨run, step, update⟩]) = update.effect.terminal.toList := by
    rw [terminals_snoc, unended]
    rfl
  constructor
  case equipped => exact same.trans kept.equipped
  case bounded =>
    rw [stepped_health stepped]
    exact (Nat.sub_le _ _).trans kept.bounded
  case paced =>
    rw [nextShot]
    intro earlier member fired
    rcases List.mem_append.mp member with before | last
    · exact (kept.paced earlier before fired).trans grows
    · rw [List.mem_singleton.mp last] at fired ⊢
      exact fires fired
  case opening =>
    rw [nextShot]
    exact kept.opening.trans grows
  case ready =>
    intro earlier member dealt
    rcases List.mem_append.mp member with before | last
    · exact (kept.ready earlier before dealt).trans waits
    · rw [List.mem_singleton.mp last] at dealt ⊢
      rw [← kept.equipped]
      exact (attacks dealt).2
  case ended =>
    rw [only]
    intro some'
    cases ends : update.effect.terminal with
    | none => exact absurd (by rw [ends]; rfl) some'
    | some terminal =>
        cases terminal with
        | completed => exact Or.inr (completed.mp ends)
        | defeated => exact Or.inl (defeated.mp ends)
  case single =>
    rw [only]
    cases update.effect.terminal with
    | none => exact Nat.zero_le _
    | some terminal => exact le_refl _

/-- An accepted step is lawful after its history. -/
theorem lawful_of_kept (kept : Kept profile history run) (alive : run.health ≠ 0)
    (playing : run.enemyHealth ≠ 0) (later : run.lastElapsedMs ≤ step.elapsedMs)
    (farAttack : step.elapsedMs + profile.cooldownMs ≤ u64Max)
    (stepped : run.Stepped cover step update) :
    Lawful cover profile history ⟨run, step, update⟩ := by
  obtain ⟨defeated, completed⟩ := stepped_terminal playing stepped
  constructor
  case later => exact later
  case healthy =>
    change update.run.health ≤ _
    rw [stepped_health stepped]
    exact (Nat.sub_le _ _).trans kept.bounded
  case shot => cases stepped <;> rfl
  case paced =>
    intro due
    exact ⟨kept.opening.trans due, fun earlier member fired =>
      (kept.paced earlier member fired).trans due⟩
  case attacked =>
    intro dealt
    rw [← kept.equipped] at farAttack
    have ready := ((stepped_ready stepped farAttack).2 dealt).1
    have aimed : step.action = .attack ∧
        run.Aims cover step.elapsedMs update.effect.outgoingDamage := by
      cases stepped with
      | fallen | moved | observed => exact absurd dealt (Nat.lt_irrefl 0)
      | attacked alive attacks aims => exact ⟨attacks, aims⟩
    exact ⟨aimed.1, aimed.2, fun earlier member earlierDealt =>
      (kept.ready earlier member earlierDealt).trans ready⟩
  case moved =>
    cases stepped with
    | fallen | attacked | observed => exact Or.inl rfl
    | moved alive moves allowed => exact Or.inr ⟨moves, allowed⟩
  case enemy => cases stepped <;> rfl
  case fallen =>
    intro fell
    cases stepped with
    | fallen => exact ⟨rfl, rfl⟩
    | moved alive | attacked alive | observed alive => exact absurd fell alive
  case defeated => exact defeated
  case completed => exact completed
  case playing => exact kept.unended alive playing

end Steps

theorem kept_start {equipment : Equipment} {profile : CombatProfile} {start : SignalRun}
    (fresh : SignalRun.new equipment = .ok start) (resolved : equipment.profile = .ok profile) :
    Kept profile [] start := by
  unfold SignalRun.new at fresh
  rw [resolved] at fresh
  simp only [bind_eq_ok, exists_unit, pure_eq_ok, Except.ok.injEq, exists_eq_left'] at fresh
  obtain ⟨-, base, -, -, rfl⟩ := fresh
  constructor
  case equipped => rfl
  case bounded => exact le_refl _
  case paced => exact fun _ member => absurd member List.not_mem_nil
  case opening => exact le_refl _
  case ready => exact fun _ member => absurd member List.not_mem_nil
  case ended => exact fun ended => absurd rfl ended
  case single => exact Nat.zero_le _

/-- The accepted steps of a run under a cover test. -/
def SignalRun.history (cover : Position → Position → Bool) (steps : List Step)
    (start : SignalRun) : List SignalTurn :=
  turns (SignalRun.call cover) Update.run steps start

end Signal
end Challenges
end Revenant
