import Revenant.Ai.Elite
import Revenant.Ai.Prism
import Revenant.Challenges.Actions
import Revenant.Challenges.State
import Revenant.Library.Words

namespace Revenant
namespace Challenges

open Library

/-!
# Relay Gauntlet

Three retained encounters are fought one after the other with the health that
is left.  A cleared arena is left by holding its entrance; the transfer restores
health, or a single optional reserve beside the entrance does.

`Sound` ties the holds to the place where the player stands, and `Observed` says
what one observation during a transfer does.
-/

namespace Preset

open Gauntlet

/-- The encounters in the order a preset plays them. -/
def gauntletStages (preset : Preset) : List Stage :=
  if preset.has .bastionFirst = true then [.bastion, .support, .prism]
  else [.support, .bastion, .prism]

def firstStage (preset : Preset) : Stage := preset.gauntletStages.headD .support

end Preset

namespace Gauntlet

def transferHoldMs : Nat := 1200

def transferHealth : Nat := 24

namespace Stage

def entrance : Stage → Position
  | support => Ai.Support.entrance
  | bastion => Ai.Elite.EliteComposition.bastionLink.entrance
  | prism => Ai.Prism.entrance

def walkable (stage : Stage) (position : Position) : Prop :=
  match stage with
  | support => Ai.Lancer.arenaContains position
  | bastion => Ai.Bulwark.arenaContains position
  | prism => Ai.Prism.arenaContains position

instance (stage : Stage) (position : Position) : Decidable (stage.walkable position) :=
  match stage with
  | support => inferInstanceAs (Decidable (Ai.Lancer.arenaContains position))
  | bastion => inferInstanceAs (Decidable (Ai.Bulwark.arenaContains position))
  | prism => inferInstanceAs (Decidable (Ai.Prism.arenaContains position))

/-- The optional reserve stands beside the exit. -/
def reservePosition : Stage → Option Position
  | support => some ⟨3, 0, 6⟩
  | bastion => some ⟨6, 0, -6⟩
  | prism => none

end Stage

inductive Phase where
  | combat (stage : Stage)
  | transfer (stage : Stage)
  | completed
  | defeated
  deriving DecidableEq, Repr

structure GauntletRun where
  preset : Preset
  phase : Phase
  health : Nat
  maxHealth : Nat
  lastElapsedMs : Nat
  transferStartedMs : Option Nat
  reserveStartedMs : Option Nat
  reserveUsed : Bool
  deriving DecidableEq, Repr

structure TransferUpdate where
  run : GauntletRun
  recoveredHealth : Nat
  nextStage : Option Stage
  deriving DecidableEq, Repr

inductive Error where
  | clockReversed
  | wrongPhase
  | invalidHealth
  deriving DecidableEq, Repr

namespace GauntletRun

def withPreset (equipment : Equipment) (preset : Preset) : Except ChallengeError GauntletRun := do
  rejectIf (preset.availableFor .relayGauntlet = false) .invalidModifiers
  equipment.validate
  let profile ← equipment.profile
  return { preset, phase := .combat preset.firstStage, health := profile.maxHealth
           maxHealth := profile.maxHealth, lastElapsedMs := 0, transferStartedMs := none
           reserveStartedMs := none, reserveUsed := false }

/-- Recovery comes from the one reserve instead of the transfers. -/
def single (run : GauntletRun) : Bool := run.preset.has .singleReserve

def nextStage (run : GauntletRun) (current : Stage) : Option Stage :=
  ((run.preset.gauntletStages.zip run.preset.gauntletStages.tail).find?
    (fun pair => pair.1 = current)).map Prod.snd

def reserveRemainingMs (run : GauntletRun) : Option Nat :=
  run.reserveStartedMs.map (fun started => saturatingAdd started transferHoldMs - run.lastElapsedMs)

def transferDeadlineMs (run : GauntletRun) : Option Nat :=
  run.transferStartedMs.map (fun started => saturatingAdd started transferHoldMs)

def transferRemainingMs (run : GauntletRun) : Option Nat :=
  run.transferDeadlineMs.map (fun deadline => deadline - run.lastElapsedMs)

/-- The next instant at which waiting changes more than the clock. -/
def observationDeadlineMs (run : GauntletRun) : Option Nat :=
  run.transferDeadlineMs.or
    (run.reserveStartedMs.map (fun started => saturatingAdd started transferHoldMs))

/-- A proved clear with positive health, or a proved defeat with none. -/
def finishEncounter (run : GauntletRun) (elapsedMs : Nat) (stage : Stage) (health : Nat) :
    Except Error GauntletRun := do
  rejectIf (elapsedMs < run.lastElapsedMs) .clockReversed
  rejectIf (run.phase ≠ .combat stage) .wrongPhase
  rejectIf (health > run.health) .invalidHealth
  return { run with
    lastElapsedMs := elapsedMs, health
    phase := if health = 0 then .defeated
      else if (run.nextStage stage).isSome then .transfer stage else .completed }

/-- The exit: leaving it resets the hold, and a full hold opens the next stage. -/
def observeTransfer (run : GauntletRun) (elapsedMs : Nat) (atExit : Bool) :
    Except Error TransferUpdate := do
  rejectIf (elapsedMs < run.lastElapsedMs) .clockReversed
  match run.phase with
  | .transfer cleared =>
      let next ← require (run.nextStage cleared) .wrongPhase
      let observed := { run with lastElapsedMs := elapsedMs, reserveStartedMs := none }
      if atExit = true then
        let started := run.transferStartedMs.getD elapsedMs
        if elapsedMs - started ≥ transferHoldMs then
          let recovered := if run.single = true then 0
            else min transferHealth (run.maxHealth - run.health)
          return { run := { observed with
                     health := run.health + recovered, phase := .combat next
                     transferStartedMs := none }
                   recoveredHealth := recovered, nextStage := some next }
        else
          return { run := { observed with transferStartedMs := some started }, recoveredHealth := 0
                   nextStage := none }
      else
        return { run := { observed with transferStartedMs := none }, recoveredHealth := 0
                 nextStage := none }
  | _ => throw .wrongPhase

/-- The reserve: a heal spends it, and full health does not start the hold. -/
def observeReserve (run : GauntletRun) (elapsedMs : Nat) (atReserve : Bool) :
    Except Error TransferUpdate := do
  rejectIf (elapsedMs < run.lastElapsedMs) .clockReversed
  match run.phase with
  | .transfer _ =>
      rejectIf (run.single = false) .wrongPhase
      let observed := { run with lastElapsedMs := elapsedMs, transferStartedMs := none }
      if atReserve = true ∧ run.reserveUsed = false ∧ run.health < run.maxHealth then
        let started := run.reserveStartedMs.getD elapsedMs
        if elapsedMs - started ≥ transferHoldMs then
          let recovered := min transferHealth (run.maxHealth - run.health)
          return { run := { observed with
                     health := run.health + recovered, reserveUsed := true
                     reserveStartedMs := none }
                   recoveredHealth := recovered, nextStage := none }
        else
          return { run := { observed with reserveStartedMs := some started }, recoveredHealth := 0
                   nextStage := none }
      else
        return { run := { observed with reserveStartedMs := none }, recoveredHealth := 0
                 nextStage := none }
  | _ => throw .wrongPhase

/-- The choice of recovery from the accepted position. -/
def observeAt (run : GauntletRun) (elapsedMs : Nat) (position : Position) :
    Except Error TransferUpdate :=
  match run.phase with
  | .transfer stage =>
      if run.single = true ∧ stage.reservePosition = some position then
        run.observeReserve elapsedMs true
      else run.observeTransfer elapsedMs (decide (position = stage.entrance))
  | _ => .error .wrongPhase

end GauntletRun

/-! ## The order of the stages -/

namespace GauntletRun

variable {run : GauntletRun}

/-- Every other encounter has a next one. -/
theorem nextStage_isSome {stage : Stage} :
    (run.nextStage stage).isSome = true ↔ stage ≠ .prism := by
  unfold nextStage Preset.gauntletStages
  cases stage <;> split <;> decide

end GauntletRun

/-! ## What one observation does -/

/-- A hold that is under way: it began before the last observation and is not
over. -/
def Holding (began lastElapsedMs : Nat) : Prop :=
  began ≤ lastElapsedMs ∧ lastElapsedMs - began < transferHoldMs

namespace GauntletRun

/-- What holds of a run whose player stands at a position. -/
structure Sound (run : GauntletRun) (position : Position) : Prop where
  healthy : run.health ≤ run.maxHealth
  unfinished : ∀ stage, run.phase = .transfer stage → (run.nextStage stage).isSome = true
  transfer : ∀ began, run.transferStartedMs = some began → ∃ stage,
    run.phase = .transfer stage ∧ position = stage.entrance ∧ Holding began run.lastElapsedMs
  reserve : ∀ began, run.reserveStartedMs = some began → ∃ stage,
    run.phase = .transfer stage ∧ stage.reservePosition = some position ∧ run.single = true ∧
      run.reserveUsed = false ∧ Holding began run.lastElapsedMs
  spent : run.reserveUsed = true → run.single = true

/-- An accepted observation waits, heals from the reserve, or leaves the stage. -/
inductive Observed (run : GauntletRun) (stage : Stage) (position : Position) :
    TransferUpdate → Prop
  | waits (next : GauntletRun) (phase : next.phase = .transfer stage)
      (health : next.health = run.health) (used : next.reserveUsed = run.reserveUsed) :
      Observed run stage position ⟨next, 0, none⟩
  | heals (next : GauntletRun) (recovered : Nat) (phase : next.phase = .transfer stage)
      (single : run.single = true) (place : stage.reservePosition = some position)
      (unused : run.reserveUsed = false) (used : next.reserveUsed = true)
      (restored : recovered = min transferHealth (run.maxHealth - run.health))
      (wounded : 0 < recovered) (health : next.health = run.health + recovered) :
      Observed run stage position ⟨next, recovered, none⟩
  | leaves (next : GauntletRun) (recovered : Nat) (after : Stage)
      (follows : run.nextStage stage = some after) (phase : next.phase = .combat after)
      (restored : recovered = if run.single = true then 0
        else min transferHealth (run.maxHealth - run.health))
      (used : next.reserveUsed = run.reserveUsed) (health : next.health = run.health + recovered) :
      Observed run stage position ⟨next, recovered, some after⟩

/-- What every accepted observation leaves alone, and its clock. -/
structure Observes (run : GauntletRun) (elapsedMs : Nat) (next : GauntletRun) : Prop where
  preset : next.preset = run.preset
  maximum : next.maxHealth = run.maxHealth
  clock : next.lastElapsedMs = elapsedMs
  later : run.lastElapsedMs ≤ elapsedMs

variable {run : GauntletRun} {elapsedMs : Nat} {stage : Stage} {position place : Position}
variable {update : TransferUpdate}

/-- A hold that is not over goes on, whether it began before or only now. -/
theorem holding_getD {started : Option Nat} (later : run.lastElapsedMs ≤ elapsedMs)
    (bounded : ∀ began, started = some began → began ≤ run.lastElapsedMs)
    (short : ¬ elapsedMs - started.getD elapsedMs ≥ transferHoldMs) :
    Holding (started.getD elapsedMs) elapsedMs := by
  refine ⟨?_, Nat.lt_of_not_le short⟩
  cases held : started with
  | none => exact le_refl _
  | some began => exact (bounded began held).trans later

/-- An observation at the exit, or away from both places. -/
theorem observeTransfer_spec (sound : run.Sound place) (phase : run.phase = .transfer stage)
    (observed : run.observeTransfer elapsedMs (decide (position = stage.entrance)) = .ok update) :
    run.Observes elapsedMs update.run ∧ Observed run stage position update ∧
      update.run.Sound position := by
  unfold observeTransfer at observed
  simp only [phase, bind_eq_ok, exists_unit, rejectIf_eq_ok, require_eq_ok, not_lt,
    decide_eq_true_eq] at observed
  obtain ⟨later, next, follows, observed⟩ := observed
  have unfinished : (run.nextStage stage).isSome = true := by rw [follows]; rfl
  split at observed
  · next there =>
    split at observed
    · cases observed
      refine ⟨⟨rfl, rfl, rfl, later⟩, .leaves _ _ next follows rfl rfl rfl rfl, ?_, ?_,
        by rintro _ ⟨⟩, by rintro _ ⟨⟩, sound.spent⟩
      · change run.health + _ ≤ run.maxHealth
        have healthy := sound.healthy
        split
        · exact healthy
        · omega
      · intro other same
        cases same
    · next short =>
      cases observed
      refine ⟨⟨rfl, rfl, rfl, later⟩, .waits _ rfl rfl rfl, sound.healthy, ?_, ?_,
        by rintro _ ⟨⟩, sound.spent⟩
      · intro other same
        cases same
        exact unfinished
      · intro began started
        cases started
        refine ⟨stage, rfl, there, holding_getD later ?_ short⟩
        intro began started
        obtain ⟨-, -, -, hold⟩ := sound.transfer began started
        exact hold.1
  · cases observed
    refine ⟨⟨rfl, rfl, rfl, later⟩, .waits _ rfl rfl rfl, sound.healthy, ?_, by rintro _ ⟨⟩,
      by rintro _ ⟨⟩, sound.spent⟩
    intro other same
    cases same
    exact unfinished

/-- An observation on the reserve pad. -/
theorem observeReserve_spec (sound : run.Sound place) (phase : run.phase = .transfer stage)
    (there : stage.reservePosition = some position)
    (observed : run.observeReserve elapsedMs true = .ok update) :
    run.Observes elapsedMs update.run ∧ Observed run stage position update ∧
      update.run.Sound position := by
  unfold observeReserve at observed
  simp only [phase, guard_bind_eq_ok, rejectIf_eq_ok, not_lt, Bool.not_eq_false, true_and]
    at observed
  obtain ⟨later, single, observed⟩ := observed
  have unfinished : ∀ other, Phase.transfer stage = .transfer other →
      (run.nextStage other).isSome = true := by
    intro other same
    exact sound.unfinished other (phase.trans same)
  split at observed
  · next wounded =>
    split at observed
    · cases observed
      have healthy := sound.healthy
      refine ⟨⟨rfl, rfl, rfl, later⟩,
        .heals _ _ rfl single there wounded.1 rfl rfl ?_ rfl, ?_, ?_, nofun, nofun, ?_⟩
      · unfold transferHealth
        omega
      · change run.health + _ ≤ run.maxHealth
        omega
      · intro other same
        exact unfinished other same
      · intro _
        exact single
    · next short =>
      cases observed
      refine ⟨⟨rfl, rfl, rfl, later⟩, .waits _ rfl rfl rfl, sound.healthy, ?_, nofun, ?_,
        sound.spent⟩
      · intro other same
        exact unfinished other same
      · intro began started
        cases started
        refine ⟨stage, rfl, there, single, wounded.1, holding_getD later ?_ short⟩
        intro began started
        obtain ⟨-, -, -, -, -, hold⟩ := sound.reserve began started
        exact hold.1
  · cases observed
    refine ⟨⟨rfl, rfl, rfl, later⟩, .waits _ rfl rfl rfl, sound.healthy, ?_, nofun, nofun,
      sound.spent⟩
    intro other same
    exact unfinished other same

/-- Everything an accepted observation does. -/
theorem observeAt_spec (sound : run.Sound place) (phase : run.phase = .transfer stage)
    (observed : run.observeAt elapsedMs position = .ok update) :
    run.Observes elapsedMs update.run ∧ Observed run stage position update ∧
      update.run.Sound position := by
  unfold observeAt at observed
  rw [phase] at observed
  simp only at observed
  split at observed
  · next there => exact observeReserve_spec sound phase there.2 observed
  · exact observeTransfer_spec sound phase observed

/-- What a finished encounter leaves: its health, and the phase that follows. -/
structure Finished (run : GauntletRun) (elapsedMs : Nat) (stage : Stage) (health : Nat)
    (next : GauntletRun) : Prop where
  fought : run.phase = .combat stage
  later : run.lastElapsedMs ≤ elapsedMs
  lost : health ≤ run.health
  run : next = { run with lastElapsedMs := elapsedMs, health, phase := next.phase }
  phase : next.phase = if health = 0 then .defeated
    else if stage = .prism then .completed else .transfer stage

theorem finishEncounter_spec {health : Nat} {next : GauntletRun}
    (finished : run.finishEncounter elapsedMs stage health = .ok next) :
    run.Finished elapsedMs stage health next := by
  unfold finishEncounter at finished
  simp only [guard_bind_eq_ok, rejectIf_eq_ok, pure_eq_ok, not_lt, not_not] at finished
  obtain ⟨later, fought, lost, rfl⟩ := finished
  refine ⟨fought, later, lost, rfl, ?_⟩
  change (if health = 0 then _ else if (run.nextStage stage).isSome = true then _ else _) = _
  split
  · rfl
  · by_cases final : stage = .prism
    · rw [if_neg (by rw [nextStage_isSome]; exact not_not.mpr final), if_pos final]
    · rw [if_pos (nextStage_isSome.mpr final), if_neg final]

/-- No hold is under way while an encounter is fought. -/
theorem Sound.combat_idle (sound : run.Sound position) {stage : Stage}
    (fought : run.phase = .combat stage) :
    run.transferStartedMs = none ∧ run.reserveStartedMs = none := by
  constructor
  · rw [Option.eq_none_iff_forall_ne_some]
    intro began started
    obtain ⟨_, other, -⟩ := sound.transfer began started
    cases fought.symm.trans other
  · rw [Option.eq_none_iff_forall_ne_some]
    intro began started
    obtain ⟨_, other, -⟩ := sound.reserve began started
    cases fought.symm.trans other

/-- Between the holds the player may stand anywhere. -/
theorem Sound.moved (sound : run.Sound position) {stage : Stage}
    (fought : run.phase = .combat stage) (place : Position) : run.Sound place := by
  obtain ⟨leaving, holding⟩ := sound.combat_idle fought
  refine ⟨sound.healthy, sound.unfinished, ?_, ?_, sound.spent⟩
  · intro began started
    cases leaving.symm.trans started
  · intro began started
    cases holding.symm.trans started

theorem Finished.sound {health : Nat} {next : GauntletRun}
    (finished : run.Finished elapsedMs stage health next) (sound : run.Sound position) :
    next.Sound position := by
  obtain ⟨leaving, holding⟩ := sound.combat_idle finished.fought
  have phase := finished.phase
  rw [finished.run]
  refine ⟨finished.lost.trans sound.healthy, ?_, ?_, ?_, sound.spent⟩
  · intro other same
    rw [show next.phase = _ from phase] at same
    rw [show ({ run with lastElapsedMs := elapsedMs, health, phase := next.phase } :
      GauntletRun).nextStage other = run.nextStage other from rfl, nextStage_isSome]
    rintro rfl
    split at same
    · cases same
    · split at same
      · cases same
      · next other =>
        cases same
        exact other rfl
  · intro began started
    cases leaving.symm.trans started
  · intro began started
    cases holding.symm.trans started

/-- A started run: the first stage of its preset with full health. -/
theorem withPreset_spec {equipment : Equipment} {preset : Preset} {run : GauntletRun}
    (opened : withPreset equipment preset = .ok run) :
    preset.availableFor .relayGauntlet = true ∧ run.preset = preset ∧
      run.phase = .combat preset.firstStage ∧ run.health = run.maxHealth ∧
      run.reserveUsed = false ∧ run.lastElapsedMs = 0 ∧ ∀ place, run.Sound place := by
  unfold withPreset at opened
  simp only [bind_eq_ok, exists_unit, rejectIf_eq_ok, pure_eq_ok, Bool.not_eq_false] at opened
  obtain ⟨available, -, profile, -, rfl⟩ := opened
  refine ⟨available, rfl, rfl, rfl, rfl, rfl, ?_⟩
  intro place
  exact ⟨le_refl _, by rintro _ ⟨⟩, by rintro _ ⟨⟩, by rintro _ ⟨⟩, by rintro ⟨⟩⟩

end GauntletRun
end Gauntlet
end Challenges
end Revenant
