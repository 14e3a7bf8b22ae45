import Revenant.Challenges.Signal

namespace Revenant
namespace Challenges
namespace Survival

open Library Ai

/-!
# Last Reserve

Two exposed relays are charged one after the other, and the player returns to
cover alive.  A due shot resolves at the previous position, before the player
moves; a hold on a relay or on the reserve pad starts at the first accepted
observation there and ends when the player leaves.

`Sound` is the invariant of a run, and `Advanced` says what one accepted action
does to it.  Damage and recovery exclude each other within one action: a hold
on the pad is only finished by a player who already stood there, and the
barrier shelters the pad.
-/

def spawn : Position := ⟨-4, 0, 4⟩

def westRelay : Position := ⟨-8, 0, 0⟩

def eastRelay : Position := ⟨0, 0, 0⟩

def reservePad : Position := ⟨-4, 0, 5⟩

def chargeMs : Nat := 3600

def recoveryMs : Nat := 1200

def recoveryHealth : Nat := 36

inductive Phase where
  | west
  | east
  | returning
  | completed
  deriving DecidableEq, Repr

structure SurvivalRun where
  position : Position
  health : Nat
  maxHealth : Nat
  phase : Phase
  reserveUsed : Bool
  lastElapsedMs : Nat
  nextShotMs : Nat
  chargeStartedMs : Option Nat
  recoveryStartedMs : Option Nat
  deriving DecidableEq, Repr

structure Update where
  run : SurvivalRun
  effect : Effect
  deriving DecidableEq, Repr

inductive Error where
  | clockReversed
  | invalidMovement
  | terminal
  deriving DecidableEq, Repr

/-- No damage, no recovery and no checkpoint. -/
def Effect.default : Effect :=
  { incomingDamage := 0, recoveredHealth := 0, checkpoint := none, defeated := false }

namespace SurvivalRun

def new (equipment : Equipment) : Except ChallengeError SurvivalRun := do
  equipment.validate
  let profile ← equipment.profile
  return { position := spawn, health := profile.maxHealth, maxHealth := profile.maxHealth
           phase := .west, reserveUsed := false, lastElapsedMs := 0
           nextShotMs := Sentinel.shotIntervalMs, chargeStartedMs := none
           recoveryStartedMs := none }

def chargeRemainingMs (run : SurvivalRun) : Option Nat :=
  if run.health > 0 ∧ run.phase ≠ .completed then
    run.chargeStartedMs.map (fun started => chargeMs - (run.lastElapsedMs - started))
  else none

def recoveryRemainingMs (run : SurvivalRun) : Option Nat :=
  if run.health > 0 then
    run.recoveryStartedMs.map (fun started => recoveryMs - (run.lastElapsedMs - started))
  else none

/-- The station of the phase; a completed run has none. -/
def station (run : SurvivalRun) : Option Position :=
  match run.phase with
  | .west => some westRelay
  | .east => some eastRelay
  | .returning => some spawn
  | .completed => none

def place (run : SurvivalRun) : Action → SurvivalRun
  | .move position => { run with position }
  | .observe => run

/-- The hold on the pad, with the health it restores. -/
def recover (run : SurvivalRun) (elapsedMs : Nat) : SurvivalRun × Nat :=
  if run.reserveUsed = true ∨ run.health = run.maxHealth ∨ run.position ≠ reservePad then
    ({ run with recoveryStartedMs := none }, 0)
  else
    let started := run.recoveryStartedMs.getD elapsedMs
    if elapsedMs - started < recoveryMs then ({ run with recoveryStartedMs := some started }, 0)
    else
      let recovered := min recoveryHealth (run.maxHealth - run.health)
      ({ run with
          health := run.health + recovered, reserveUsed := true, recoveryStartedMs := none },
        recovered)

/-- The hold on the phase's station, with the checkpoint it reaches. -/
def charge (run : SurvivalRun) (elapsedMs : Nat) : SurvivalRun × Option Checkpoint :=
  match run.station with
  | none => (run, none)
  | some station =>
      if run.position ≠ station then ({ run with chargeStartedMs := none }, none)
      else
        let started := run.chargeStartedMs.getD elapsedMs
        if run.phase ≠ .returning ∧ elapsedMs - started < chargeMs then
          ({ run with chargeStartedMs := some started }, none)
        else
          match run.phase with
          | .west => ({ run with phase := .east, chargeStartedMs := none }, some .westCharged)
          | .east => ({ run with phase := .returning, chargeStartedMs := none }, some .eastCharged)
          | .returning => ({ run with phase := .completed, chargeStartedMs := none }, some .returned)
          | .completed => (run, none)

section Cover

variable (cover : Position → Position → Bool)

/-- The movement guard of `apply`: one walkable step on the lane of the signal run. -/
def allowsMoveUnder (run : SurvivalRun) (position : Position) : Bool :=
  Signal.SignalRun.walkable cover position &&
    decide (|position.x - run.position.x| + |position.z - run.position.z| = 1) &&
    !cover run.position position

def refusesUnder (run : SurvivalRun) : Action → Bool
  | .move position => !run.allowsMoveUnder cover position
  | .observe => false

/-- The shot that is due, with the damage it does at the run's position. -/
def shootUnder (run : SurvivalRun) (elapsedMs : Nat) : SurvivalRun × Nat :=
  let run := { run with lastElapsedMs := elapsedMs }
  if elapsedMs < run.nextShotMs then (run, 0)
  else
    let run := { run with nextShotMs := saturatingAdd elapsedMs Sentinel.shotIntervalMs }
    if cover run.position Sentinel.position = true then (run, 0)
    else ({ run with health := run.health - Sentinel.shotDamage }, Sentinel.shotDamage)

/-- What an accepted action does: the due shot at the old position, and for a
living player the step and both holds. -/
def advanceUnder (run : SurvivalRun) (elapsedMs : Nat) (action : Action) : Update :=
  let (shot, incomingDamage) := run.shootUnder cover elapsedMs
  if shot.health = 0 then
    { run := shot, effect := { Effect.default with incomingDamage, defeated := true } }
  else
    let (recovered, recoveredHealth) := (shot.place action).recover elapsedMs
    let (charged, checkpoint) := recovered.charge elapsedMs
    { run := charged
      effect := { incomingDamage, recoveredHealth, checkpoint, defeated := false } }

def applyUnder (run : SurvivalRun) (elapsedMs : Nat) (action : Action) : Except Error Update := do
  rejectIf (run.health = 0 ∨ run.phase = .completed) .terminal
  rejectIf (elapsedMs < run.lastElapsedMs) .clockReversed
  rejectIf (run.refusesUnder cover action = true) .invalidMovement
  return run.advanceUnder cover elapsedMs action

end Cover

/-- The rules ask a cover test only whether it blocks a segment; the run of the
world is the one under the sentinel's barrier. -/
def apply (run : SurvivalRun) (elapsedMs : Nat) (action : Action) : Except Error Update :=
  run.applyUnder Sentinel.coverBlocksSegment elapsedMs action

end SurvivalRun

/-! ## What one action does -/

/-- Phases follow each other one at a time, each at its checkpoint. -/
inductive Passes : Phase → Phase → Option Checkpoint → Prop
  | stay (phase : Phase) : Passes phase phase none
  | west : Passes .west .east (some .westCharged)
  | east : Passes .east .returning (some .eastCharged)
  | returned : Passes .returning .completed (some .returned)

namespace SurvivalRun

/-- A hold that is under way at an instant: it began before and is not over. -/
def Holding (started : Option Nat) (elapsedMs holdMs : Nat) : Prop :=
  ∀ began ∈ started, began ≤ elapsedMs ∧ elapsedMs - began < holdMs

theorem holding_none (elapsedMs holdMs : Nat) : Holding none elapsedMs holdMs := by
  intro began impossible
  cases impossible

/-- A hold that is kept, or begins at this very instant. -/
theorem holding_some {started : Option Nat} {elapsedMs holdMs : Nat}
    (past : ∀ began ∈ started, began ≤ elapsedMs)
    (short : elapsedMs - started.getD elapsedMs < holdMs) :
    Holding (some (started.getD elapsedMs)) elapsedMs holdMs := by
  intro began same
  cases same
  refine ⟨?_, short⟩
  cases started with
  | none => exact le_refl _
  | some began => exact past began rfl

/-- A hold that is over began at an earlier observation. -/
theorem isSome_of_over {started : Option Nat} {elapsedMs holdMs : Nat} (long : 0 < holdMs)
    (isOver : ¬ elapsedMs - started.getD elapsedMs < holdMs) : started.isSome = true := by
  cases started with
  | none =>
      rw [Option.getD_none, Nat.sub_self] at isOver
      exact absurd long isOver
  | some began => rfl

/-- The barrier shelters the pad. -/
theorem pad_sheltered : Sentinel.coverBlocksSegment reservePad Sentinel.position = true := by
  decide +kernel

/-- A shot does damage only in the open, and changes only health and clocks. -/
theorem shoot_cases (run : SurvivalRun) (elapsedMs : Nat) :
    ∃ nextShotMs damage, run.shootUnder Sentinel.coverBlocksSegment elapsedMs =
        ({ run with lastElapsedMs := elapsedMs, nextShotMs, health := run.health - damage }, damage) ∧
      (damage = 0 ∨ Sentinel.coverBlocksSegment run.position Sentinel.position = false) := by
  unfold shootUnder
  by_cases early : elapsedMs < run.nextShotMs
  · exact ⟨run.nextShotMs, 0, if_pos early, Or.inl rfl⟩
  · simp only [if_neg early]
    by_cases sheltered : Sentinel.coverBlocksSegment run.position Sentinel.position = true
    · simp only [if_pos sheltered]
      exact ⟨_, 0, rfl, Or.inl rfl⟩
    · simp only [if_neg sheltered]
      exact ⟨_, Sentinel.shotDamage, rfl, Or.inr (by simpa using sheltered)⟩

/-- The pad restores health once, at the end of a hold, and only that spends it. -/
theorem recover_spec {run : SurvivalRun} {elapsedMs : Nat} (bounded : run.health ≤ run.maxHealth)
    (past : ∀ began ∈ run.recoveryStartedMs, began ≤ elapsedMs) :
    ∃ recovered started, run.recover elapsedMs =
        ({ run with
            health := run.health + recovered
            reserveUsed := run.reserveUsed || decide (0 < recovered)
            recoveryStartedMs := started }, recovered) ∧
      recovered ≤ recoveryHealth ∧ run.health + recovered ≤ run.maxHealth ∧
      Holding started elapsedMs recoveryMs ∧
      (started.isSome = true → run.position = reservePad ∧ run.reserveUsed = false ∧ recovered = 0) ∧
      (0 < recovered → run.reserveUsed = false ∧ run.recoveryStartedMs.isSome = true) := by
  unfold recover
  by_cases closed : run.reserveUsed = true ∨ run.health = run.maxHealth ∨ run.position ≠ reservePad
  · refine ⟨0, none, ?_, Nat.zero_le _, bounded, holding_none _ _, nofun, nofun⟩
    rw [if_pos closed]
    simp only [Nat.add_zero, Nat.lt_irrefl, decide_false, Bool.or_false]
  · rw [if_neg closed]
    simp only [not_or, not_not, Bool.not_eq_true] at closed
    obtain ⟨unused, hurt, resting⟩ := closed
    by_cases short : elapsedMs - run.recoveryStartedMs.getD elapsedMs < recoveryMs
    · refine ⟨0, some (run.recoveryStartedMs.getD elapsedMs), ?_, Nat.zero_le _, bounded,
        holding_some past short, fun _ => ⟨resting, unused, rfl⟩, nofun⟩
      simp only [if_pos short, Nat.add_zero, Nat.lt_irrefl, decide_false, Bool.or_false]
    · have positive : 0 < min recoveryHealth (run.maxHealth - run.health) := by
        have room : 0 < run.maxHealth - run.health := by omega
        exact lt_min (by decide) room
      refine ⟨min recoveryHealth (run.maxHealth - run.health), none, ?_, min_le_left _ _, ?_,
        holding_none _ _, nofun, fun _ => ⟨unused, isSome_of_over (by decide) short⟩⟩
      · simp only [if_neg short, decide_eq_true positive, Bool.or_true]
      · have capped := min_le_right recoveryHealth (run.maxHealth - run.health)
        omega

/-- The station holds on, or passes the run to its next phase. -/
theorem charge_spec {run : SurvivalRun} {elapsedMs : Nat} (playing : run.phase ≠ .completed)
    (past : ∀ began ∈ run.chargeStartedMs, began ≤ elapsedMs) :
    ∃ phase started checkpoint, run.charge elapsedMs =
        ({ run with phase, chargeStartedMs := started }, checkpoint) ∧
      Passes run.phase phase checkpoint ∧ Holding started elapsedMs chargeMs ∧
      (started.isSome = true → (phase = .west ∧ run.position = westRelay) ∨
        (phase = .east ∧ run.position = eastRelay)) ∧
      (phase = .completed → run.position = spawn) := by
  obtain ⟨position, health, maxHealth, phase, reserveUsed, lastElapsedMs, nextShotMs,
    chargeStartedMs, recoveryStartedMs⟩ := run
  cases phase with
  | completed => exact absurd rfl playing
  | returning =>
      by_cases there : position = spawn
      · refine ⟨.completed, none, some .returned, ?_, Passes.returned, holding_none _ _, nofun,
          fun _ => there⟩
        simp [charge, station, there]
      · refine ⟨.returning, none, none, ?_, Passes.stay _, holding_none _ _, nofun, nofun⟩
        simp [charge, station, there]
  | west =>
      by_cases there : position = westRelay
      · by_cases short : elapsedMs - chargeStartedMs.getD elapsedMs < chargeMs
        · refine ⟨.west, some (chargeStartedMs.getD elapsedMs), none, ?_, Passes.stay _,
            holding_some past short, fun _ => Or.inl ⟨rfl, there⟩, nofun⟩
          simp [charge, station, there, short]
        · refine ⟨.east, none, some .westCharged, ?_, Passes.west, holding_none _ _, nofun, nofun⟩
          simp [charge, station, there, short]
      · refine ⟨.west, none, none, ?_, Passes.stay _, holding_none _ _, nofun, nofun⟩
        simp [charge, station, there]
  | east =>
      by_cases there : position = eastRelay
      · by_cases short : elapsedMs - chargeStartedMs.getD elapsedMs < chargeMs
        · refine ⟨.east, some (chargeStartedMs.getD elapsedMs), none, ?_, Passes.stay _,
            holding_some past short, fun _ => Or.inr ⟨rfl, there⟩, nofun⟩
          simp [charge, station, there, short]
        · refine ⟨.returning, none, some .eastCharged, ?_, Passes.east, holding_none _ _, nofun,
            nofun⟩
          simp [charge, station, there, short]
      · refine ⟨.east, none, none, ?_, Passes.stay _, holding_none _ _, nofun, nofun⟩
        simp [charge, station, there]

/-- The invariant of a run.  What it says of holds is about a living player: a
fallen one may leave a hold behind that nothing reads again. -/
structure Sound (run : SurvivalRun) : Prop where
  bounded : run.health ≤ run.maxHealth
  charging : 0 < run.health → Holding run.chargeStartedMs run.lastElapsedMs chargeMs
  charged : 0 < run.health → run.chargeStartedMs.isSome = true →
    (run.phase = .west ∧ run.position = westRelay) ∨ (run.phase = .east ∧ run.position = eastRelay)
  recovering : 0 < run.health → Holding run.recoveryStartedMs run.lastElapsedMs recoveryMs
  resting : 0 < run.health → run.recoveryStartedMs.isSome = true →
    run.position = reservePad ∧ run.reserveUsed = false
  returned : run.phase = .completed → run.position = spawn

/-- What one accepted action does to a run. -/
structure Advanced (run : SurvivalRun) (elapsedMs : Nat) (action : Action) (update : Update) :
    Prop where
  maximum : update.run.maxHealth = run.maxHealth
  clock : update.run.lastElapsedMs = elapsedMs
  health : update.run.health =
    run.health - update.effect.incomingDamage + update.effect.recoveredHealth
  exclusive : update.effect.incomingDamage = 0 ∨ update.effect.recoveredHealth = 0
  limited : update.effect.recoveredHealth ≤ recoveryHealth
  used : update.run.reserveUsed = (run.reserveUsed || decide (0 < update.effect.recoveredHealth))
  once : run.reserveUsed = true → update.effect.recoveredHealth = 0
  passes : Passes run.phase update.run.phase update.effect.checkpoint
  defeated : update.effect.defeated = decide (update.run.health = 0)
  fallen : update.run.health = 0 → update.effect.checkpoint = none ∧ update.run.position = run.position
  placed : update.run.health ≠ 0 → update.run.position = (run.place action).position

/-- A step of a living player changes the position only. -/
theorem place_eq (run : SurvivalRun) (action : Action) :
    run.place action = { run with position := (run.place action).position } := by
  cases action <;> rfl

/-- The holds of a new run are all open. -/
theorem new_sound {equipment : Equipment} {run : SurvivalRun} (fresh : new equipment = .ok run) :
    run.Sound ∧ run.position = spawn ∧ run.phase = .west ∧ run.reserveUsed = false ∧
      run.health = run.maxHealth ∧ 0 < run.health ∧ run.chargeStartedMs = none ∧
      run.recoveryStartedMs = none := by
  unfold new at fresh
  simp only [bind_eq_ok, exists_unit, pure_eq_ok] at fresh
  obtain ⟨-, profile, resolved, rfl⟩ := fresh
  have alive : 0 < profile.maxHealth := by
    unfold Equipment.profile at resolved
    simp only [bind_eq_ok, require_eq_ok] at resolved
    obtain ⟨weapon, -, resolved⟩ := resolved
    split at resolved
    · next built =>
      cases resolved
      have := (bounded_of_resolveBuild built).health
      omega
    · cases resolved
  refine ⟨⟨le_refl _, fun _ => holding_none _ _, ?_, fun _ => holding_none _ _, ?_, by rintro ⟨⟩⟩,
    rfl, rfl, rfl, rfl, alive, rfl, rfl⟩
  · intro _ impossible
    cases impossible
  · intro _ impossible
    cases impossible

/-- Only a run that is not over accepts an action. -/
theorem apply_playing {run : SurvivalRun} {elapsedMs : Nat} {action : Action} {update : Update}
    (accepted : run.apply elapsedMs action = .ok update) :
    run.health ≠ 0 ∧ run.phase ≠ .completed := by
  unfold apply applyUnder at accepted
  simp only [bind_eq_ok, exists_unit, rejectIf_eq_ok, not_or] at accepted
  exact accepted.1

/-- Everything an accepted action does, and that it keeps the invariant. -/
theorem apply_spec {run : SurvivalRun} {elapsedMs : Nat} {action : Action} {update : Update}
    (sound : run.Sound) (accepted : run.apply elapsedMs action = .ok update) :
    run.Advanced elapsedMs action update ∧ update.run.Sound := by
  unfold apply applyUnder at accepted
  simp only [bind_eq_ok, exists_unit, rejectIf_eq_ok, pure_eq_ok, not_or, Nat.not_lt] at accepted
  obtain ⟨⟨alive, playing⟩, later, -, rfl⟩ := accepted
  have living : 0 < run.health := Nat.pos_of_ne_zero alive
  obtain ⟨nextShotMs, damage, shot, open'⟩ := run.shoot_cases elapsedMs
  have bounded := sound.bounded
  unfold advanceUnder
  simp only [shot]
  by_cases fell : run.health - damage = 0
  · -- A fallen player neither moves nor holds.
    simp only [if_pos fell]
    refine ⟨⟨rfl, rfl, rfl, Or.inr rfl, Nat.zero_le _, by simp [Effect.default], fun _ => rfl,
      Passes.stay _, ?_, fun _ => ⟨rfl, rfl⟩, ?_⟩, ⟨?_, ?_, ?_, ?_, ?_, ?_⟩⟩
    · exact (decide_eq_true fell).symm
    · intro risen
      exact absurd fell risen
    · exact le_trans (Nat.sub_le _ _) bounded
    · intro risen
      exact absurd fell risen.ne'
    · intro risen
      exact absurd fell risen.ne'
    · intro risen
      exact absurd fell risen.ne'
    · intro risen
      exact absurd fell risen.ne'
    · exact sound.returned
  · -- A hold that could finish now was held in the shelter, where no shot does damage.
    simp only [if_neg fell]
    have earlier : ∀ {started : Option Nat} {holdMs : Nat},
        Holding started run.lastElapsedMs holdMs → ∀ began ∈ started, began ≤ elapsedMs := by
      intro started holdMs holding began held
      exact le_trans (holding began held).1 later
    have moved : (place { run with
        lastElapsedMs := elapsedMs, nextShotMs, health := run.health - damage } action).position =
        (run.place action).position := by
      cases action <;> rfl
    rw [place_eq, moved]
    obtain ⟨recovered, resting, restored, limited, capped, holding, rests, once⟩ :=
      @recover_spec { run with
        lastElapsedMs := elapsedMs, nextShotMs, health := run.health - damage
        position := (run.place action).position } elapsedMs (le_trans (Nat.sub_le _ _) bounded)
        (earlier (sound.recovering living))
    rw [restored]
    obtain ⟨phase, charging, checkpoint, charged, passes, held, stands, returns⟩ :=
      @charge_spec { run with
        lastElapsedMs := elapsedMs, nextShotMs, health := run.health - damage + recovered
        position := (run.place action).position
        reserveUsed := run.reserveUsed || decide (0 < recovered)
        recoveryStartedMs := resting } elapsedMs playing (earlier (sound.charging living))
    simp only at charged rests stands
    simp only [charged]
    have survives : run.health - damage + recovered ≠ 0 := by omega
    have sheltered : damage = 0 ∨ recovered = 0 := by
      rcases open' with harmless | exposed
      · exact Or.inl harmless
      · refine Or.inr (Nat.eq_zero_of_not_pos (fun restores => ?_))
        rw [(sound.resting living (once restores).2).1, pad_sheltered] at exposed
        cases exposed
    refine ⟨⟨rfl, rfl, rfl, sheltered, limited, rfl, ?_, passes, ?_, ?_, fun _ => rfl⟩,
      ⟨capped, fun _ => held, fun _ => stands, fun _ => holding, ?_, returns⟩⟩
    · intro spent
      exact Nat.eq_zero_of_not_pos (fun restores => Bool.noConfusion (spent.symm.trans (once restores).1))
    · exact (decide_eq_false survives).symm
    · intro fallen
      exact absurd fallen survives
    · intro _ held
      obtain ⟨there, unused, nothing⟩ := rests held
      refine ⟨there, ?_⟩
      simp only [unused, nothing, Nat.lt_irrefl, decide_false, Bool.or_false]

/-- A reported charge runs at the relay of its phase. -/
theorem Sound.charge_reported {run : SurvivalRun} (sound : run.Sound) {remaining : Nat}
    (reported : run.chargeRemainingMs = some remaining) :
    run.health ≠ 0 ∧ (1 ≤ remaining ∧ remaining ≤ chargeMs) ∧
      ((run.phase = .west ∧ run.position = westRelay) ∨
        (run.phase = .east ∧ run.position = eastRelay)) := by
  unfold chargeRemainingMs at reported
  split at reported
  · next playing =>
    obtain ⟨began, started, rfl⟩ := Option.map_eq_some_iff.mp reported
    have holding := (sound.charging playing.1 began started).2
    refine ⟨playing.1.ne', by omega, sound.charged playing.1 ?_⟩
    rw [started]
    rfl
  · cases reported

/-- A reported recovery runs on the pad, with the reserve unused. -/
theorem Sound.recovery_reported {run : SurvivalRun} (sound : run.Sound) {remaining : Nat}
    (reported : run.recoveryRemainingMs = some remaining) :
    run.health ≠ 0 ∧ (1 ≤ remaining ∧ remaining ≤ recoveryMs) ∧ run.position = reservePad ∧
      run.reserveUsed = false ∧ run.phase ≠ .completed := by
  unfold recoveryRemainingMs at reported
  split at reported
  · next alive =>
    obtain ⟨began, started, rfl⟩ := Option.map_eq_some_iff.mp reported
    have holding := (sound.recovering alive began started).2
    have rests := sound.resting alive (by rw [started]; rfl)
    refine ⟨alive.ne', by omega, rests.1, rests.2, ?_⟩
    intro completed
    have apart : spawn = reservePad := (sound.returned completed).symm.trans rests.1
    exact absurd apart (by decide)
  · cases reported

end SurvivalRun

end Survival
end Challenges
end Revenant
