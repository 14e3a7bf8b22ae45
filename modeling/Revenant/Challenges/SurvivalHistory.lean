import Revenant.Challenges.Survival
import Revenant.Library.Holds
import Revenant.Library.Turns

namespace Revenant
namespace Challenges
namespace Survival

open Library Ai

/-!
# What a whole Last Reserve run may do

The rules of the run do not depend on the shape of the barrier, so the steps are
read here under any cover test; the run of the world is the one under the
sentinel's barrier.  A history is the list of the accepted steps, and `Kept`
ties the charge, the reserve, the next shot and the phase of a run to it.

A step is cut into the shot, the move and the two holds, and each part has its
own frame: what a hold on the pad leaves alone is what the stations need to
know, and the other way round.
-/

/-! ## What an accepted step does -/

/-- A call: the server's time and the action. -/
structure Step where
  elapsedMs : Nat
  action : Action
  deriving DecidableEq, Repr

/-- The relay a phase charges. -/
def Phase.relay : Phase → Option Position
  | west => some westRelay
  | east => some eastRelay
  | returning | completed => none

namespace SurvivalRun

variable {cover : Position → Position → Bool} {run : SurvivalRun} {step : Step} {update : Update}
variable {elapsedMs : Nat}

/-- A shot is due. -/
def Due (run : SurvivalRun) (elapsedMs : Nat) : Prop := run.nextShotMs ≤ elapsedMs

instance (run : SurvivalRun) (elapsedMs : Nat) : Decidable (run.Due elapsedMs) :=
  inferInstanceAs (Decidable (_ ≤ _))

/-- What the sentinel does to the player where the run stands. -/
def damage (cover : Position → Position → Bool) (run : SurvivalRun) (elapsedMs : Nat) : Nat :=
  if run.Due elapsedMs ∧ cover run.position Sentinel.position = false then Sentinel.shotDamage else 0

/-- The run behind the shot. -/
def shot (cover : Position → Position → Bool) (run : SurvivalRun) (elapsedMs : Nat) : SurvivalRun :=
  { run with
    lastElapsedMs := elapsedMs
    nextShotMs :=
      if run.Due elapsedMs then saturatingAdd elapsedMs Sentinel.shotIntervalMs else run.nextShotMs
    health := run.health - run.damage cover elapsedMs }

/-- The pad is open to a player who is hurt. -/
def Rests (run : SurvivalRun) : Prop :=
  run.reserveUsed = false ∧ run.health < run.maxHealth ∧ run.position = reservePad

/-- The forms of a hold on the pad. -/
inductive Recovered (run : SurvivalRun) (elapsedMs : Nat) : SurvivalRun × Nat → Prop
  | closed (shut : ¬ run.Rests) :
      Recovered run elapsedMs ({ run with recoveryStartedMs := none }, 0)
  | holding (rests : run.Rests)
      (short : ¬ recoveryMs ≤ elapsedMs - run.recoveryStartedMs.getD elapsedMs) :
      Recovered run elapsedMs
        ({ run with recoveryStartedMs := some (run.recoveryStartedMs.getD elapsedMs) }, 0)
  | restored (rests : run.Rests)
      (full : recoveryMs ≤ elapsedMs - run.recoveryStartedMs.getD elapsedMs) :
      Recovered run elapsedMs
        ({ run with
            health := run.health + min recoveryHealth (run.maxHealth - run.health)
            reserveUsed := true, recoveryStartedMs := none },
          min recoveryHealth (run.maxHealth - run.health))

/-- The forms of a hold on a station. -/
inductive Charged (run : SurvivalRun) (elapsedMs : Nat) : SurvivalRun × Option Checkpoint → Prop
  | away (off : some run.position ≠ run.station) :
      Charged run elapsedMs ({ run with chargeStartedMs := none }, none)
  | holding (seeks : run.phase.relay = some run.position)
      (short : ¬ chargeMs ≤ elapsedMs - run.chargeStartedMs.getD elapsedMs) :
      Charged run elapsedMs
        ({ run with chargeStartedMs := some (run.chargeStartedMs.getD elapsedMs) }, none)
  | west (phase : run.phase = .west) (here : run.position = westRelay)
      (full : chargeMs ≤ elapsedMs - run.chargeStartedMs.getD elapsedMs) :
      Charged run elapsedMs
        ({ run with phase := .east, chargeStartedMs := none }, some .westCharged)
  | east (phase : run.phase = .east) (here : run.position = eastRelay)
      (full : chargeMs ≤ elapsedMs - run.chargeStartedMs.getD elapsedMs) :
      Charged run elapsedMs
        ({ run with phase := .returning, chargeStartedMs := none }, some .eastCharged)
  | returned (phase : run.phase = .returning) (here : run.position = spawn) :
      Charged run elapsedMs
        ({ run with phase := .completed, chargeStartedMs := none }, some .returned)

/-- The forms of an accepted step: a fallen player neither moves nor holds. -/
inductive Stepped (cover : Position → Position → Bool) (run : SurvivalRun) (step : Step) :
    Update → Prop
  | fallen (fell : (run.shot cover step.elapsedMs).health = 0) :
      Stepped cover run step ⟨run.shot cover step.elapsedMs,
        { incomingDamage := run.damage cover step.elapsedMs, recoveredHealth := 0
          checkpoint := none, defeated := true }⟩
  | lives (alive : (run.shot cover step.elapsedMs).health ≠ 0) {recovered : SurvivalRun × Nat}
      {charged : SurvivalRun × Option Checkpoint}
      (recovers : Recovered ((run.shot cover step.elapsedMs).place step.action) step.elapsedMs
        recovered)
      (charges : Charged recovered.1 step.elapsedMs charged) :
      Stepped cover run step ⟨charged.1,
        { incomingDamage := run.damage cover step.elapsedMs, recoveredHealth := recovered.2
          checkpoint := charged.2, defeated := false }⟩

def callUnder (cover : Position → Position → Bool) (run : SurvivalRun) (step : Step) :
    Except Error Update :=
  run.applyUnder cover step.elapsedMs step.action

/-- What a hold on the pad leaves alone. -/
structure RecoveredFrame (run next : SurvivalRun) : Prop where
  position : next.position = run.position
  maximum : next.maxHealth = run.maxHealth
  phase : next.phase = run.phase
  clock : next.lastElapsedMs = run.lastElapsedMs
  nextShot : next.nextShotMs = run.nextShotMs
  charge : next.chargeStartedMs = run.chargeStartedMs

theorem Recovered.frame {recovered : SurvivalRun × Nat}
    (recovers : Recovered run elapsedMs recovered) : RecoveredFrame run recovered.1 := by
  cases recovers <;> exact ⟨rfl, rfl, rfl, rfl, rfl, rfl⟩

/-- What a hold on a station leaves alone. -/
structure ChargedFrame (run next : SurvivalRun) : Prop where
  position : next.position = run.position
  health : next.health = run.health
  maximum : next.maxHealth = run.maxHealth
  reserve : next.reserveUsed = run.reserveUsed
  clock : next.lastElapsedMs = run.lastElapsedMs
  nextShot : next.nextShotMs = run.nextShotMs
  recovery : next.recoveryStartedMs = run.recoveryStartedMs

theorem Charged.frame {charged : SurvivalRun × Option Checkpoint}
    (charges : Charged run elapsedMs charged) : ChargedFrame run charged.1 := by
  cases charges <;> exact ⟨rfl, rfl, rfl, rfl, rfl, rfl, rfl⟩

end SurvivalRun

/-! ## Histories -/

abbrev SurvivalTurn : Type := Turn SurvivalRun Step Update

def time (turn : SurvivalTurn) : Nat := turn.input.elapsedMs

/-- The step leaves the player at a place. -/
def At (place : Position) (turn : SurvivalTurn) : Prop := turn.answer.run.position = place

/-- The step leaves a living player on the pad, with health lost. -/
def Resting (turn : SurvivalTurn) : Prop :=
  At reservePad turn ∧ turn.answer.effect.defeated = false ∧
    turn.before.health - turn.answer.effect.incomingDamage < turn.before.maxHealth

/-- The sentinel fires in the step, whether or not it hits. -/
def Fired (turn : SurvivalTurn) : Prop := turn.before.Due turn.input.elapsedMs

def checkpoints (history : List SurvivalTurn) : List Checkpoint :=
  history.filterMap (fun turn => turn.answer.effect.checkpoint)

/-- The steps that restored health. -/
def recoveries (history : List SurvivalTurn) : Nat :=
  history.countP (fun turn => 0 < turn.answer.effect.recoveredHealth)

/-- The checkpoints behind a phase. -/
def Phase.passed : Phase → List Checkpoint
  | west => []
  | east => [.westCharged]
  | returning => [.westCharged, .eastCharged]
  | completed => [.westCharged, .eastCharged, .returned]

/-- What ties a run to its history. -/
structure Kept (history : List SurvivalTurn) (run : SurvivalRun) : Prop where
  bounded : run.health ≤ run.maxHealth
  passed : checkpoints history = run.phase.passed
  charging : run.health ≠ 0 → ∀ relay, run.phase.relay = some relay →
    Held (At relay) time history run.chargeStartedMs
  chargePast : ∀ began, run.chargeStartedMs = some began → began ≤ run.lastElapsedMs
  resting : run.health ≠ 0 → run.reserveUsed = false →
    Held Resting time history run.recoveryStartedMs
  restPast : ∀ began, run.recoveryStartedMs = some began → began ≤ run.lastElapsedMs
  spent : recoveries history = run.reserveUsed.toNat
  standing : ∀ earlier ∈ history, earlier.answer.effect.defeated = true → run.health = 0
  paced : ∀ earlier ∈ history, Fired earlier →
    time earlier + Sentinel.shotIntervalMs ≤ run.nextShotMs
  opening : Sentinel.shotIntervalMs ≤ run.nextShotMs

/-- What an accepted step may do after a history. -/
structure Lawful (cover : Position → Position → Bool) (history : List SurvivalTurn)
    (turn : SurvivalTurn) : Prop where
  later : turn.before.lastElapsedMs ≤ turn.input.elapsedMs
  healthy : turn.answer.run.health ≤ turn.answer.run.maxHealth
  -- one shot at most, at the position before the step
  shot : turn.answer.effect.incomingDamage =
    if turn.before.nextShotMs ≤ turn.input.elapsedMs ∧
        cover turn.before.position Sentinel.position = false then Sentinel.shotDamage else 0
  paced : Fired turn → Sentinel.shotIntervalMs ≤ time turn ∧
    ∀ earlier ∈ history, Fired earlier → time earlier + Sentinel.shotIntervalMs ≤ time turn
  westCharged : turn.answer.effect.checkpoint = some .westCharged ↔
    turn.answer.effect.defeated = false ∧ checkpoints history = [] ∧
      Lasted (At westRelay) time chargeMs history turn
  eastCharged : turn.answer.effect.checkpoint = some .eastCharged ↔
    turn.answer.effect.defeated = false ∧ checkpoints history = [.westCharged] ∧
      Lasted (At eastRelay) time chargeMs history turn
  returned : turn.answer.effect.checkpoint = some .returned ↔
    turn.answer.effect.defeated = false ∧ checkpoints history = [.westCharged, .eastCharged] ∧
      At spawn turn
  recovered : 0 < turn.answer.effect.recoveredHealth ↔
    recoveries history = 0 ∧ Lasted Resting time recoveryMs history turn
  limited : turn.answer.effect.recoveredHealth ≤ recoveryHealth
  defeated : turn.answer.effect.defeated = true ↔ turn.answer.run.health = 0
  playing : ∀ earlier ∈ history, earlier.answer.effect.defeated = false ∧
    earlier.answer.effect.checkpoint ≠ some .returned
  -- no start of a hold is ahead of the clock, and no health is above the maximum
  fits : turn.before.chargeStartedMs.getD turn.input.elapsedMs ≤ turn.input.elapsedMs ∧
    turn.before.recoveryStartedMs.getD turn.input.elapsedMs ≤ turn.input.elapsedMs ∧
    turn.before.health ≤ turn.before.maxHealth
  reported : (∀ began, turn.answer.run.chargeStartedMs = some began →
      began ≤ turn.answer.run.lastElapsedMs) ∧
    ∀ began, turn.answer.run.recoveryStartedMs = some began →
      began ≤ turn.answer.run.lastElapsedMs

theorem checkpoints_snoc (history : List SurvivalTurn) (turn : SurvivalTurn) :
    checkpoints (history ++ [turn]) =
      checkpoints history ++ turn.answer.effect.checkpoint.toList :=
  filterMap_snoc _ _ _

theorem recoveries_snoc (history : List SurvivalTurn) (turn : SurvivalTurn) :
    recoveries (history ++ [turn]) =
      recoveries history + if 0 < turn.answer.effect.recoveredHealth then 1 else 0 := by
  simp only [recoveries, List.countP_append, List.countP_singleton, decide_eq_true_eq]

theorem Phase.passed_inj {first second : Phase} (same : first.passed = second.passed) :
    first = second := by
  cases first <;> cases second <;> first | rfl | cases same

/-- A start in the past is one a new hold may keep. -/
theorem getD_le {started : Option Nat} {elapsedMs : Nat}
    (past : ∀ began, started = some began → began ≤ elapsedMs) :
    started.getD elapsedMs ≤ elapsedMs := by
  cases started with
  | none => exact le_refl _
  | some began => exact past began rfl

/-! ## The relays -/

section Relays

variable {history : List SurvivalTurn} {turn : SurvivalTurn} {run : SurvivalRun}
variable {charged : SurvivalRun × Option Checkpoint}

/-- What a station needs to know of the history before it is looked at. -/
structure Charging (history : List SurvivalTurn) (elapsedMs : Nat) (run : SurvivalRun) : Prop where
  passed : checkpoints history = run.phase.passed
  held : ∀ relay, run.phase.relay = some relay → Held (At relay) time history run.chargeStartedMs
  past : ∀ began, run.chargeStartedMs = some began → began ≤ elapsedMs

theorem relay_station {relay : Position} (seeks : run.phase.relay = some relay) :
    run.station = some relay := by
  unfold SurvivalRun.station
  cases phase : run.phase <;> rw [phase] at seeks <;> first | exact seeks | cases seeks

/-- A looked at station has taken the turn into account. -/
theorem Charging.snoc (charging : Charging history (time turn) run)
    (charges : run.Charged (time turn) charged) (here : turn.answer.run.position = run.position)
    (reported : turn.answer.effect.checkpoint = charged.2) :
    Charging (history ++ [turn]) (time turn) charged.1 := by
  have passed (checkpoint : Option Checkpoint) (same : charged.2 = checkpoint) :
      checkpoints (history ++ [turn]) = run.phase.passed ++ checkpoint.toList := by
    rw [checkpoints_snoc, charging.passed, reported, same]
  cases charges with
  | away off =>
      constructor
      case passed => simpa using passed none rfl
      case held =>
        intro relay seeks
        refine held_away ?_
        intro there
        have station : run.station = some relay := relay_station seeks
        rw [station] at off
        exact off (congrArg some (here.symm.trans there))
      case past => nofun
  | holding seeks short =>
      constructor
      case passed => simpa using passed none rfl
      case held =>
        intro relay same
        cases seeks.symm.trans same
        exact Held.snoc (charging.held run.position seeks) charging.past here
      case past =>
        rintro began ⟨⟩
        exact getD_le charging.past
  | west phase there full =>
      constructor
      case passed => rw [passed (some .westCharged) rfl, phase]; rfl
      case held =>
        rintro relay ⟨⟩
        refine held_away ?_
        intro other
        exact absurd (there.symm.trans (here.symm.trans other)) (by decide)
      case past => nofun
  | east phase there full =>
      constructor
      case passed => rw [passed (some .eastCharged) rfl, phase]; rfl
      case held => nofun
      case past => nofun
  | returned phase there =>
      constructor
      case passed => rw [passed (some .returned) rfl, phase]; rfl
      case held => nofun
      case past => nofun

/-- The checkpoint that ends a phase. -/
def Phase.checkpoint : Phase → Option Checkpoint
  | west => some .westCharged
  | east => some .eastCharged
  | returning => some .returned
  | completed => none

variable {checkpoint : Checkpoint}

theorem Phase.checkpoint_inj {first second : Phase} (one : first.checkpoint = some checkpoint)
    (other : second.checkpoint = some checkpoint) : first = second := by
  cases first <;> cases second <;> cases one <;> cases other <;> rfl

/-- A relay is charged in its phase, at the end of a full hold. -/
theorem charged_iff {phase : Phase} {relay : Position} {elapsedMs : Nat}
    (charges : run.Charged elapsedMs charged) (seeks : phase.relay = some relay)
    (named : phase.checkpoint = some checkpoint) :
    charged.2 = some checkpoint ↔ run.phase = phase ∧ run.position = relay ∧
      chargeMs ≤ elapsedMs - run.chargeStartedMs.getD elapsedMs := by
  cases charges with
  | away off =>
      constructor
      · nofun
      · rintro ⟨rfl, there, -⟩
        rw [relay_station seeks] at off
        exact absurd (congrArg some there) off
  | holding sought short =>
      constructor
      · nofun
      · rintro ⟨-, -, full⟩
        exact absurd full short
  | west first there full =>
      constructor
      · rintro ⟨⟩
        cases Phase.checkpoint_inj named (rfl : Phase.west.checkpoint = some .westCharged)
        cases seeks
        exact ⟨first, there, full⟩
      · rintro ⟨same, -⟩
        cases first.symm.trans same
        cases named
        rfl
  | east second there full =>
      constructor
      · rintro ⟨⟩
        cases Phase.checkpoint_inj named (rfl : Phase.east.checkpoint = some .eastCharged)
        cases seeks
        exact ⟨second, there, full⟩
      · rintro ⟨same, -⟩
        cases second.symm.trans same
        cases named
        rfl
  | returned last there =>
      constructor
      · rintro ⟨⟩
        cases Phase.checkpoint_inj named (rfl : Phase.returning.checkpoint = some .returned)
        cases seeks
      · rintro ⟨same, -⟩
        cases last.symm.trans same
        cases seeks

theorem returned_iff {elapsedMs : Nat} (charges : run.Charged elapsedMs charged) :
    charged.2 = some .returned ↔ run.phase = .returning ∧ run.position = spawn := by
  cases charges with
  | away off =>
      constructor
      · nofun
      · rintro ⟨last, there⟩
        unfold SurvivalRun.station at off
        rw [last] at off
        exact absurd (congrArg some there) off
  | holding sought short =>
      constructor
      · nofun
      · rintro ⟨last, -⟩
        rw [last] at sought
        cases sought
  | west first => exact ⟨nofun, fun returning => nomatch first.symm.trans returning.1⟩
  | east second => exact ⟨nofun, fun returning => nomatch second.symm.trans returning.1⟩
  | returned last there => exact ⟨fun _ => ⟨last, there⟩, fun _ => rfl⟩

/-- The law of a relay, in terms of the history. -/
theorem Charging.charged_iff (charging : Charging history (time turn) run)
    (charges : run.Charged (time turn) charged) (here : turn.answer.run.position = run.position)
    {phase : Phase} {relay : Position} (seeks : phase.relay = some relay)
    (named : phase.checkpoint = some checkpoint) :
    charged.2 = some checkpoint ↔ checkpoints history = phase.passed ∧
      Lasted (At relay) time chargeMs history turn := by
  rw [Survival.charged_iff charges seeks named, charging.passed,
    show run.phase.passed = phase.passed ↔ run.phase = phase from
      ⟨Phase.passed_inj, congrArg Phase.passed⟩]
  refine and_congr_right ?_
  rintro rfl
  have timed := charging.held relay seeks
  constructor
  · rintro ⟨there, full⟩
    exact (timed.lasted_iff charging.past (here.trans there)).mpr full
  · intro lasted
    have there : At relay turn := lasted.here
    exact ⟨here.symm.trans there, (timed.lasted_iff charging.past there).mp lasted⟩

end Relays

/-! ## The reserve -/

section Reserve

variable {history : List SurvivalTurn} {turn : SurvivalTurn} {run : SurvivalRun}
variable {recovered : SurvivalRun × Nat}

/-- What the pad needs to know of the history before it is looked at. -/
structure Reserved (history : List SurvivalTurn) (elapsedMs : Nat) (run : SurvivalRun) : Prop where
  bounded : run.health ≤ run.maxHealth
  held : run.reserveUsed = false → Held Resting time history run.recoveryStartedMs
  past : ∀ began, run.recoveryStartedMs = some began → began ≤ elapsedMs
  spent : recoveries history = run.reserveUsed.toNat

/-- A looked at pad has taken the turn into account. -/
theorem Reserved.snoc (reserved : Reserved history (time turn) run)
    (recovers : run.Recovered (time turn) recovered)
    (rests : run.reserveUsed = false → (Resting turn ↔ run.Rests))
    (reported : turn.answer.effect.recoveredHealth = recovered.2) :
    Reserved (history ++ [turn]) (time turn) recovered.1 := by
  have spent (amount : Nat) (same : recovered.2 = amount) : recoveries (history ++ [turn]) =
      run.reserveUsed.toNat + if 0 < amount then 1 else 0 := by
    rw [recoveries_snoc, reserved.spent, reported, same]
  cases recovers with
  | closed shut =>
      constructor
      case bounded => exact reserved.bounded
      case held =>
        intro unused
        exact held_away (fun resting => shut ((rests unused).mp resting))
      case past => nofun
      case spent => exact spent 0 rfl
  | holding open' short =>
      constructor
      case bounded => exact reserved.bounded
      case held =>
        intro unused
        exact Held.snoc (reserved.held unused) reserved.past ((rests unused).mpr open')
      case past =>
        rintro began ⟨⟩
        exact getD_le reserved.past
      case spent => exact spent 0 rfl
  | restored open' full =>
      have room : 0 < run.maxHealth - run.health := Nat.sub_pos_of_lt open'.2.1
      have positive : 0 < min recoveryHealth (run.maxHealth - run.health) :=
        lt_min (by decide) room
      constructor
      case bounded =>
        have capped := min_le_right recoveryHealth (run.maxHealth - run.health)
        change run.health + min recoveryHealth (run.maxHealth - run.health) ≤ run.maxHealth
        omega
      case held => nofun
      case past => nofun
      case spent =>
        rw [spent _ rfl, open'.1, if_pos positive]
        rfl

/-- The reserve restores health once, at the end of a full rest. -/
theorem Reserved.recovered_iff (reserved : Reserved history (time turn) run)
    (recovers : run.Recovered (time turn) recovered)
    (rests : run.reserveUsed = false → (Resting turn ↔ run.Rests)) :
    0 < recovered.2 ↔ recoveries history = 0 ∧ Lasted Resting time recoveryMs history turn := by
  have unused_iff : recoveries history = 0 ↔ run.reserveUsed = false := by
    rw [reserved.spent, Bool.toNat_eq_zero]
  rw [unused_iff]
  cases recovers with
  | closed shut =>
      constructor
      · nofun
      · rintro ⟨unused, lasted⟩
        exact absurd ((rests unused).mp lasted.here) shut
  | holding open' short =>
      constructor
      · nofun
      · rintro ⟨unused, lasted⟩
        exact absurd (((reserved.held unused).lasted_iff reserved.past lasted.here).mp lasted) short
  | restored open' full =>
      have room : 0 < run.maxHealth - run.health := Nat.sub_pos_of_lt open'.2.1
      constructor
      · intro _
        refine ⟨open'.1, ?_⟩
        exact ((reserved.held open'.1).lasted_iff reserved.past ((rests open'.1).mpr open')).mpr full
      · intro _
        exact lt_min (by decide) room

theorem recovered_limited {elapsedMs : Nat} (recovers : run.Recovered elapsedMs recovered) :
    recovered.2 ≤ recoveryHealth := by
  cases recovers with
  | closed | holding => exact Nat.zero_le _
  | restored => exact min_le_left _ _

end Reserve

/-! ## Every run -/

section Steps

variable {cover : Position → Position → Bool} {history : List SurvivalTurn} {run : SurvivalRun}
variable {step : Step} {update : Update}

theorem shot_paced (far : step.elapsedMs + Sentinel.shotIntervalMs ≤ u64Max) :
    run.nextShotMs ≤ (run.shot cover step.elapsedMs).nextShotMs ∧
      (run.Due step.elapsedMs →
        step.elapsedMs + Sentinel.shotIntervalMs ≤ (run.shot cover step.elapsedMs).nextShotMs) := by
  unfold SurvivalRun.shot
  dsimp only
  rw [saturatingAdd_eq far]
  by_cases due : run.Due step.elapsedMs
  · rw [if_pos due]
    exact ⟨due.trans (Nat.le_add_right _ _), fun _ => le_refl _⟩
  · rw [if_neg due]
    exact ⟨le_refl _, fun late => absurd late due⟩

/-- A living player where the shot found it, at the place of the step. -/
def SurvivalRun.placed (cover : Position → Position → Bool) (run : SurvivalRun) (step : Step) :
    SurvivalRun :=
  (run.shot cover step.elapsedMs).place step.action

theorem placed_eq (cover : Position → Position → Bool) (run : SurvivalRun) (step : Step) :
    run.placed cover step = { run.shot cover step.elapsedMs with
      position := (run.placed cover step).position } :=
  SurvivalRun.place_eq _ _

theorem Kept.reserved (kept : Kept history run) (alive : run.health ≠ 0)
    (later : run.lastElapsedMs ≤ step.elapsedMs) :
    Reserved history step.elapsedMs (run.placed cover step) := by
  rw [placed_eq]
  constructor
  case bounded => exact (Nat.sub_le _ _).trans kept.bounded
  case held => exact kept.resting alive
  case past => exact fun began set => (kept.restPast began set).trans later
  case spent => exact kept.spent

variable {recovered : SurvivalRun × Nat}

theorem Kept.charging_recovered (kept : Kept history run) (alive : run.health ≠ 0)
    (later : run.lastElapsedMs ≤ step.elapsedMs)
    (recovers : (run.placed cover step).Recovered step.elapsedMs recovered) :
    Charging history step.elapsedMs recovered.1 := by
  have frame := recovers.frame
  rw [placed_eq] at frame
  constructor
  case passed => rw [frame.phase]; exact kept.passed
  case held => rw [frame.phase, frame.charge]; exact kept.charging alive
  case past =>
    rw [frame.charge]
    exact fun began set => (kept.chargePast began set).trans later

/-- Where a living player ends up is where the step put it. -/
theorem lives_position {charged : SurvivalRun × Option Checkpoint}
    (recovers : (run.placed cover step).Recovered step.elapsedMs recovered)
    (charges : recovered.1.Charged step.elapsedMs charged) :
    charged.1.position = (run.placed cover step).position :=
  charges.frame.position.trans recovers.frame.position

/-- The turn of a player who lives through the step. -/
def livesTurn (cover : Position → Position → Bool) (run : SurvivalRun) (step : Step)
    (recovered : SurvivalRun × Nat) (charged : SurvivalRun × Option Checkpoint) : SurvivalTurn :=
  ⟨run, step, charged.1, { incomingDamage := run.damage cover step.elapsedMs
                           recoveredHealth := recovered.2, checkpoint := charged.2
                           defeated := false }⟩

theorem resting_iff {charged : SurvivalRun × Option Checkpoint}
    (recovers : (run.placed cover step).Recovered step.elapsedMs recovered)
    (charges : recovered.1.Charged step.elapsedMs charged) :
    (run.placed cover step).reserveUsed = false →
      (Resting (livesTurn cover run step recovered charged) ↔ (run.placed cover step).Rests) := by
  intro unused
  have here := lives_position recovers charges
  have health : (run.placed cover step).health = run.health - run.damage cover step.elapsedMs := by
    rw [placed_eq]
    rfl
  have maximum : (run.placed cover step).maxHealth = run.maxHealth := by
    rw [placed_eq]
    rfl
  unfold Resting At SurvivalRun.Rests livesTurn
  dsimp only
  rw [here, health, maximum]
  constructor
  · rintro ⟨there, -, hurt⟩
    exact ⟨unused, hurt, there⟩
  · rintro ⟨-, hurt, there⟩
    exact ⟨there, rfl, hurt⟩

/-- The clocks of a step. -/
theorem stepped_clocks (stepped : run.Stepped cover step update) :
    update.run.lastElapsedMs = step.elapsedMs ∧
      update.run.nextShotMs = (run.shot cover step.elapsedMs).nextShotMs := by
  cases stepped with
  | fallen fell => exact ⟨rfl, rfl⟩
  | lives alive recovers charges =>
      rw [charges.frame.clock, charges.frame.nextShot, recovers.frame.clock,
        recovers.frame.nextShot, SurvivalRun.place_eq]
      exact ⟨rfl, rfl⟩

/-- The shots of a history after one more turn. -/
theorem paced_snoc (kept : Kept history run) (stepped : run.Stepped cover step update)
    (far : step.elapsedMs + Sentinel.shotIntervalMs ≤ u64Max) :
    (∀ earlier ∈ history ++ [⟨run, step, update⟩], Fired earlier →
      time earlier + Sentinel.shotIntervalMs ≤ update.run.nextShotMs) ∧
    Sentinel.shotIntervalMs ≤ update.run.nextShotMs := by
  obtain ⟨grows, fires⟩ := @shot_paced cover run step far
  rw [(stepped_clocks stepped).2]
  refine ⟨?_, kept.opening.trans grows⟩
  intro earlier member fired
  rcases List.mem_append.mp member with before | same
  · exact (kept.paced earlier before fired).trans grows
  · rw [List.mem_singleton.mp same] at fired ⊢
    exact fires fired

theorem kept_snoc (kept : Kept history run) (alive : run.health ≠ 0)
    (later : run.lastElapsedMs ≤ step.elapsedMs)
    (far : step.elapsedMs + Sentinel.shotIntervalMs ≤ u64Max)
    (stepped : run.Stepped cover step update) :
    Kept (history ++ [⟨run, step, update⟩]) update.run := by
  obtain ⟨paced, opening⟩ := paced_snoc kept stepped far
  cases stepped with
  | fallen fell =>
      -- what was held stays as it was, and is never looked at again
      constructor
      case bounded => exact (Nat.sub_le _ _).trans kept.bounded
      case passed =>
        rw [checkpoints_snoc, kept.passed]
        exact List.append_nil _
      case charging => exact fun risen => absurd fell risen
      case chargePast => exact fun began set => (kept.chargePast began set).trans later
      case resting => exact fun risen => absurd fell risen
      case restPast => exact fun began set => (kept.restPast began set).trans later
      case spent =>
        rw [recoveries_snoc, kept.spent]
        rfl
      case standing => exact fun _ _ _ => fell
      case paced => exact paced
      case opening => exact opening
  | @lives survives recovered charged recovers charges =>
      have rested : Reserved (history ++ [livesTurn cover run step recovered charged])
          step.elapsedMs recovered.1 :=
        (kept.reserved alive later).snoc recovers (resting_iff recovers charges) rfl
      have stationed : Charging (history ++ [livesTurn cover run step recovered charged])
          step.elapsedMs charged.1 :=
        (kept.charging_recovered alive later recovers).snoc charges charges.frame.position rfl
      have frame := charges.frame
      have clock := (stepped_clocks (.lives survives recovers charges)).1
      constructor
      case bounded =>
        rw [frame.health, frame.maximum]
        exact rested.bounded
      case passed => exact stationed.passed
      case charging => exact fun _ => stationed.held
      case chargePast =>
        rw [clock]
        exact stationed.past
      case resting =>
        rw [frame.reserve, frame.recovery]
        exact fun _ => rested.held
      case restPast =>
        rw [clock, frame.recovery]
        exact rested.past
      case spent =>
        rw [frame.reserve]
        exact rested.spent
      case standing =>
        intro earlier member defeated
        rcases List.mem_append.mp member with before | same
        · exact absurd (kept.standing earlier before defeated) alive
        · rw [List.mem_singleton.mp same] at defeated
          cases defeated
      case paced => exact paced
      case opening => exact opening

/-- A checkpoint of a relay, whether or not the player lives through the step. -/
theorem checkpoint_iff (kept : Kept history run) (alive : run.health ≠ 0)
    (later : run.lastElapsedMs ≤ step.elapsedMs) (stepped : run.Stepped cover step update)
    {phase : Phase} {relay : Position} {checkpoint : Checkpoint}
    (seeks : phase.relay = some relay) (named : phase.checkpoint = some checkpoint) :
    update.effect.checkpoint = some checkpoint ↔
      update.effect.defeated = false ∧ checkpoints history = phase.passed ∧
        Lasted (At relay) time chargeMs history ⟨run, step, update⟩ := by
  cases stepped with
  | fallen fell => exact ⟨nofun, nofun⟩
  | @lives survives recovered charged recovers charges =>
      have charging := kept.charging_recovered alive later recovers
      have here : (livesTurn cover run step recovered charged).answer.run.position =
          recovered.1.position := charges.frame.position
      exact (charging.charged_iff charges here seeks named).trans (and_iff_right rfl).symm

theorem checkpoint_returned_iff (kept : Kept history run) (stepped : run.Stepped cover step update) :
    update.effect.checkpoint = some .returned ↔
      update.effect.defeated = false ∧ checkpoints history = [.westCharged, .eastCharged] ∧
        update.run.position = spawn := by
  cases stepped with
  | fallen fell => exact ⟨nofun, nofun⟩
  | @lives survives recovered charged recovers charges =>
      have phase : recovered.1.phase = run.phase := by
        rw [recovers.frame.phase, SurvivalRun.place_eq]
        rfl
      rw [returned_iff charges, phase, charges.frame.position, kept.passed,
        show run.phase.passed = [.westCharged, .eastCharged] ↔ run.phase = .returning from
          ⟨@Phase.passed_inj _ .returning, congrArg Phase.passed⟩]
      exact (and_iff_right rfl).symm

theorem recovered_iff (kept : Kept history run) (alive : run.health ≠ 0)
    (later : run.lastElapsedMs ≤ step.elapsedMs) (stepped : run.Stepped cover step update) :
    0 < update.effect.recoveredHealth ↔
      recoveries history = 0 ∧ Lasted Resting time recoveryMs history ⟨run, step, update⟩ := by
  cases stepped with
  | fallen fell =>
      refine ⟨nofun, ?_⟩
      rintro ⟨-, lasted⟩
      exact absurd lasted.here.2.1 nofun
  | @lives survives recovered charged recovers charges =>
      exact (kept.reserved alive later).recovered_iff recovers (resting_iff recovers charges)

/-- Health is lost by shots and restored by the reserve only. -/
theorem lives_health (bounded : run.health ≤ run.maxHealth)
    (recovers : run.Recovered step.elapsedMs recovered) :
    run.health ≤ recovered.1.health ∧ recovered.1.health ≤ recovered.1.maxHealth := by
  cases recovers with
  | closed | holding => exact ⟨le_refl _, bounded⟩
  | restored open' full =>
      have capped := min_le_right recoveryHealth (run.maxHealth - run.health)
      exact ⟨Nat.le_add_right _ _, by dsimp only; omega⟩

theorem defeated_iff (kept : Kept history run) (stepped : run.Stepped cover step update) :
    update.effect.defeated = true ↔ update.run.health = 0 := by
  cases stepped with
  | fallen fell => exact ⟨fun _ => fell, fun _ => rfl⟩
  | @lives survives recovered charged recovers charges =>
      refine ⟨nofun, ?_⟩
      intro fell
      rw [charges.frame.health] at fell
      have bounded : (run.placed cover step).health ≤ (run.placed cover step).maxHealth := by
        rw [placed_eq]
        exact (Nat.sub_le _ _).trans kept.bounded
      have grows := (lives_health bounded recovers).1
      rw [fell, placed_eq] at grows
      exact absurd (Nat.le_zero.mp grows) survives

/-- An accepted step is lawful after its history. -/
theorem lawful_of_kept (kept : Kept history run) (alive : run.health ≠ 0)
    (playing : run.phase ≠ .completed) (later : run.lastElapsedMs ≤ step.elapsedMs)
    (far : step.elapsedMs + Sentinel.shotIntervalMs ≤ u64Max)
    (stepped : run.Stepped cover step update) :
    Lawful cover history ⟨run, step, update⟩ := by
  have next := kept_snoc kept alive later far stepped
  have clock := (stepped_clocks stepped).1
  constructor
  case later => exact later
  case healthy => exact next.bounded
  case shot => cases stepped <;> rfl
  case paced =>
    intro due
    exact ⟨kept.opening.trans due, fun earlier member fired =>
      (kept.paced earlier member fired).trans due⟩
  case westCharged => exact @checkpoint_iff _ _ _ _ _ kept alive later stepped .west _ _ rfl rfl
  case eastCharged => exact @checkpoint_iff _ _ _ _ _ kept alive later stepped .east _ _ rfl rfl
  case returned => exact checkpoint_returned_iff kept stepped
  case recovered => exact recovered_iff kept alive later stepped
  case limited =>
    cases stepped with
    | fallen => exact Nat.zero_le _
    | lives survives recovers charges => exact recovered_limited recovers
  case defeated => exact defeated_iff kept stepped
  case playing =>
    intro earlier member
    constructor
    · rw [Bool.eq_false_iff]
      exact fun defeated => alive (kept.standing earlier member defeated)
    · intro returned
      have emitted : Checkpoint.returned ∈ checkpoints history :=
        List.mem_filterMap.mpr ⟨earlier, member, returned⟩
      rw [kept.passed] at emitted
      cases phase : run.phase with
      | completed => exact playing phase
      | west | east | returning =>
          rw [phase] at emitted
          revert emitted
          decide
  case fits =>
    exact ⟨getD_le (fun began set => (kept.chargePast began set).trans later),
      getD_le (fun began set => (kept.restPast began set).trans later), kept.bounded⟩
  case reported => exact ⟨next.chargePast, next.restPast⟩

end Steps

theorem kept_start {equipment : Equipment} {start : SurvivalRun}
    (fresh : SurvivalRun.new equipment = .ok start) : Kept [] start := by
  obtain ⟨sound, -, west, unused, -, -, idle, open'⟩ := SurvivalRun.new_sound fresh
  constructor
  case bounded => exact sound.bounded
  case passed => rw [west]; rfl
  case charging =>
    rw [idle]
    exact fun _ _ _ => held_nil
  case chargePast => rw [idle]; nofun
  case resting =>
    rw [open']
    exact fun _ _ => held_nil
  case restPast => rw [open']; nofun
  case spent => rw [unused]; rfl
  case standing => exact fun _ member => absurd member List.not_mem_nil
  case paced => exact fun _ member => absurd member List.not_mem_nil
  case opening =>
    unfold SurvivalRun.new at fresh
    simp only [bind_eq_ok, exists_unit, pure_eq_ok] at fresh
    obtain ⟨-, profile, -, rfl⟩ := fresh
    exact le_refl _

/-- The accepted steps of a run under a cover test. -/
def SurvivalRun.history (cover : Position → Position → Bool) (steps : List Step)
    (start : SurvivalRun) : List SurvivalTurn :=
  turns (SurvivalRun.callUnder cover) Update.run steps start

/-- A plain rifle and no module. -/
def plainEquipment : Equipment := ⟨1, CatalogRevision.m35v2.text, "pulse_rifle", []⟩

def plainStart : SurvivalRun :=
  { position := spawn, health := 100, maxHealth := 100, phase := .west, reserveUsed := false
    lastElapsedMs := 0, nextShotMs := 1800, chargeStartedMs := none, recoveryStartedMs := none }

end Survival
end Challenges
end Revenant
