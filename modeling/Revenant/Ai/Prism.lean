import Revenant.Actors
import Revenant.Library.Words

namespace Revenant
namespace Ai

open Library

/-!
# The Prism Warden

A boss in two phases.  Lanes alternate between the axes until the boss is at
half health; then a center pulse and a perimeter pulse precede each recovery.
Only a recovery lets a shot through.

`tick` announces or resolves, and `confirmAt` moves the times to the instant
at which the row of an action was stored.  `Landed` collects what an allowed
hit implies, the floor at half health included.
-/

namespace Prism

def entrance : Position := ⟨5, 0, 2⟩

def spawn : Position := ⟨8, 0, 0⟩

def health : Nat := 320

def phaseHealth : Nat := 160

def openingMs : Nat := 700

def laneWarningMs : Nat := 1800

def pulseWarningMs : Nat := 2200

def recoveryMs : Nat := 1800

def pulseGapMs : Nat := 600

def shiftMs : Nat := 2400

def laneDamage : Nat := 18

def pulseDamage : Nat := 20

abbrev arenaContains (position : Position) : Prop :=
  position.y = 0 ∧ (5 ≤ position.x ∧ position.x ≤ 11) ∧ -3 ≤ position.z ∧ position.z ≤ 3

abbrev inCenter (position : Position) : Prop :=
  (7 ≤ position.x ∧ position.x ≤ 9) ∧ -1 ≤ position.z ∧ position.z ≤ 1

inductive PrismPhase where
  | lanes
  | pulses
  deriving DecidableEq, Repr

inductive PrismPattern where
  | acrossX (z : Int)
  | acrossZ (x : Int)
  | center
  | perimeter
  deriving DecidableEq, Repr

namespace PrismPattern

def warningMs : PrismPattern → Nat
  | acrossX _ | acrossZ _ => laneWarningMs
  | center | perimeter => pulseWarningMs

def hits (pattern : PrismPattern) (position : Position) : Bool :=
  decide (arenaContains position) &&
    match pattern with
    | acrossX z => decide ((-3 ≤ z ∧ z ≤ 3) ∧ position.z = z)
    | acrossZ x => decide ((5 ≤ x ∧ x ≤ 11) ∧ position.x = x)
    | center => decide (inCenter position)
    | perimeter => !decide (inCenter position)

def damageAt (pattern : PrismPattern) (position : Position) : Nat :=
  if !pattern.hits position then 0
  else
    match pattern with
    | acrossX _ | acrossZ _ => laneDamage
    | center | perimeter => pulseDamage

/-- The lane or ring of the pattern lies in the arena. -/
def InArena : PrismPattern → Prop
  | acrossX z => -3 ≤ z ∧ z ≤ 3
  | acrossZ x => 5 ≤ x ∧ x ≤ 11
  | center | perimeter => True

theorem damageAt_le (pattern : PrismPattern) (position : Position) :
    pattern.damageAt position ≤ pulseDamage := by
  unfold damageAt
  split
  · exact Nat.zero_le _
  · cases pattern <;> simp [laneDamage, pulseDamage]

end PrismPattern

inductive PrismMode where
  | opening
  | warning (pattern : PrismPattern)
  | pulseGap
  | recovery
  | shifting
  | defeated
  deriving DecidableEq, Repr

inductive PrismAction where
  | warning (pattern : PrismPattern)
  | resolved (pattern : PrismPattern) (damage : Nat)
  deriving DecidableEq, Repr

namespace PrismAction

def pattern : PrismAction → PrismPattern
  | warning pattern | resolved pattern _ => pattern

def damage : PrismAction → Nat
  | warning _ => 0
  | resolved _ damage => damage

end PrismAction

structure PrismHit where
  damage : Nat
  healthAfter : Nat
  phaseChanged : Bool
  deriving DecidableEq, Repr

structure PrismWarden where
  phase : PrismPhase
  mode : PrismMode
  readyAtMs : Nat
  nextLaneX : Bool
  deriving DecidableEq, Repr

namespace PrismWarden

def default : PrismWarden :=
  { phase := .lanes, mode := .opening, readyAtMs := openingMs, nextLaneX := true }

abbrev vulnerable (warden : PrismWarden) : Prop := warden.mode = .recovery

/-- The pause a mode imposes; a defeated boss has none. -/
def interval : PrismMode → Option Nat
  | .opening => some openingMs
  | .warning pattern => some pattern.warningMs
  | .pulseGap => some pulseGapMs
  | .recovery => some recoveryMs
  | .shifting => some shiftMs
  | .defeated => none

def confirmAt (warden : PrismWarden) (confirmedMs : Nat) : PrismWarden :=
  match interval warden.mode with
  | none => warden
  | some pause =>
      { warden with readyAtMs := max warden.readyAtMs (saturatingAdd confirmedMs pause) }

def validHealth (warden : PrismWarden) (current : Nat) : Bool :=
  match warden.phase with
  | .lanes => decide (phaseHealth + 1 ≤ current ∧ current ≤ health)
  | .pulses => decide (1 ≤ current ∧ current ≤ phaseHealth)

/-- A half-health floor ensures that phase two cannot be skipped by a large hit. -/
def hit (warden : PrismWarden) (nowMs healthBefore requested : Nat) :
    Option (PrismHit × PrismWarden) :=
  if ¬ warden.validHealth healthBefore ∨ warden.mode = .defeated then none
  else
    let available :=
      if warden.phase = .lanes then healthBefore - phaseHealth else healthBefore
    let damage := if warden.vulnerable then min requested available else 0
    let healthAfter := healthBefore - damage
    if warden.phase = .lanes ∧ healthAfter = phaseHealth then
      some ({ damage, healthAfter, phaseChanged := true },
        { warden with
          phase := .pulses, mode := .shifting, readyAtMs := saturatingAdd nowMs shiftMs })
    else if healthAfter = 0 then
      some ({ damage, healthAfter, phaseChanged := false }, { warden with mode := .defeated })
    else some ({ damage, healthAfter, phaseChanged := false }, warden)

/-- The pattern a ready warden announces next and the lane it turns to. -/
def nextPattern (warden : PrismWarden) (player : Position) : Option (PrismPattern × Bool) :=
  match warden.mode, warden.phase with
  | .opening, .lanes | .recovery, .lanes =>
      some (if warden.nextLaneX then .acrossX player.z else .acrossZ player.x, !warden.nextLaneX)
  | .shifting, _ | .recovery, .pulses => some (.center, warden.nextLaneX)
  | .pulseGap, _ => some (.perimeter, warden.nextLaneX)
  | .opening, .pulses | .warning _, _ | .defeated, _ => none

def tick (warden : PrismWarden) (nowMs current : Nat) (player : Position) :
    Option (PrismAction × PrismWarden) :=
  if nowMs < warden.readyAtMs ∨ ¬ warden.validHealth current ∨ ¬ arenaContains player then none
  else
    match warden.mode with
    | .warning pattern =>
        let mode := if pattern = .center then PrismMode.pulseGap else .recovery
        some (.resolved pattern (pattern.damageAt player),
          ({ warden with mode, readyAtMs := nowMs } : PrismWarden).confirmAt nowMs)
    | _ =>
        match warden.nextPattern player with
        | none => none
        | some (pattern, nextLaneX) =>
            some (.warning pattern,
              { warden with
                mode := .warning pattern, nextLaneX
                readyAtMs := saturatingAdd nowMs pattern.warningMs })

/-! ## What the warden does -/

variable {warden proposed : PrismWarden} {nowMs current healthBefore requested : Nat}
  {player : Position} {action : PrismAction} {outcome : PrismHit}

/-- The pattern a warden has announced lies in the arena. -/
def Aimed (warden : PrismWarden) : Prop :=
  ∀ pattern, warden.mode = .warning pattern → pattern.InArena

theorem confirmAt_mode (warden : PrismWarden) (confirmedMs : Nat) :
    (warden.confirmAt confirmedMs).mode = warden.mode := by
  unfold confirmAt
  split <;> rfl

theorem Aimed.confirmAt (aimed : warden.Aimed) (confirmedMs : Nat) :
    (warden.confirmAt confirmedMs).Aimed := by
  intro pattern announced
  rw [confirmAt_mode] at announced
  exact aimed pattern announced

theorem nextPattern_inArena {pattern : PrismPattern} {nextLaneX : Bool}
    (inside : arenaContains player)
    (next : warden.nextPattern player = some (pattern, nextLaneX)) : pattern.InArena := by
  unfold nextPattern at next
  split at next
  all_goals cases next
  case h_1 | h_2 =>
    split
    · exact inside.2.2
    · exact inside.2.1
  all_goals trivial

/-- Every action has a player in the arena; its pattern lies there too and its
damage is small. -/
theorem tick_some (acted : warden.tick nowMs current player = some (action, proposed))
    (aimed : warden.Aimed) :
    arenaContains player ∧ action.pattern.InArena ∧ action.damage ≤ pulseDamage ∧
      proposed.Aimed := by
  unfold tick at acted
  split at acted
  · cases acted
  · next ready =>
    simp only [not_or, not_not] at ready
    split at acted
    · next pattern announced =>
      cases acted
      refine ⟨ready.2.2, aimed pattern announced, PrismPattern.damageAt_le pattern player, ?_⟩
      refine Aimed.confirmAt (fun other impossible => ?_) nowMs
      simp only at impossible
      split at impossible <;> cases impossible
    · split at acted
      · cases acted
      · next pattern nextLaneX next =>
        cases acted
        have inside := nextPattern_inArena ready.2.2 next
        refine ⟨ready.2.2, inside, Nat.zero_le _, ?_⟩
        intro other same
        cases same
        exact inside

/-- The damage a request does. -/
def dealt (warden : PrismWarden) (healthBefore requested : Nat) : Nat :=
  if warden.vulnerable then
    min requested (if warden.phase = .lanes then healthBefore - phaseHealth else healthBefore)
  else 0

/-- The outcome of a hit that does the given damage. -/
def landed (warden : PrismWarden) (nowMs healthBefore damage : Nat) : PrismHit × PrismWarden :=
  let healthAfter := healthBefore - damage
  if warden.phase = .lanes ∧ healthAfter = phaseHealth then
    ({ damage, healthAfter, phaseChanged := true },
      { warden with
        phase := .pulses, mode := .shifting, readyAtMs := saturatingAdd nowMs shiftMs })
  else if healthAfter = 0 then
    ({ damage, healthAfter, phaseChanged := false }, { warden with mode := .defeated })
  else ({ damage, healthAfter, phaseChanged := false }, warden)

theorem hit_eq (warden : PrismWarden) (nowMs healthBefore requested : Nat) :
    warden.hit nowMs healthBefore requested =
      if ¬ warden.validHealth healthBefore ∨ warden.mode = .defeated then none
      else some (warden.landed nowMs healthBefore (warden.dealt healthBefore requested)) := by
  unfold hit landed dealt
  split
  · rfl
  · simp only [apply_ite some]

theorem landed_fst (warden : PrismWarden) (nowMs healthBefore damage : Nat) :
    (warden.landed nowMs healthBefore damage).1.damage = damage ∧
      (warden.landed nowMs healthBefore damage).1.healthAfter = healthBefore - damage := by
  unfold landed
  simp only
  split
  · exact ⟨rfl, rfl⟩
  · split <;> exact ⟨rfl, rfl⟩

theorem dealt_dealt (warden : PrismWarden) (healthBefore requested : Nat) :
    warden.dealt healthBefore (warden.dealt healthBefore requested) =
      warden.dealt healthBefore requested := by
  unfold dealt
  split <;> simp

/-- Everything an allowed hit implies: asking for the damage it did gives the
same hit, and a positive request does damage exactly in a recovery. -/
structure Landed (warden : PrismWarden) (nowMs healthBefore requested : Nat)
    (outcome : PrismHit) (proposed : PrismWarden) : Prop where
  bounded : healthBefore ≤ health
  after : outcome.healthAfter = healthBefore - outcome.damage
  admitted : outcome.damage ≤ requested
  again : warden.hit nowMs healthBefore outcome.damage = some (outcome, proposed)
  vulnerable : 0 < requested → (outcome.damage = 0 ↔ ¬ warden.vulnerable)
  standing : outcome.phaseChanged = true → outcome.healthAfter ≠ 0
  aimed : warden.Aimed → proposed.Aimed

theorem hit_some (allowed : warden.hit nowMs healthBefore requested = some (outcome, proposed)) :
    Landed warden nowMs healthBefore requested outcome proposed := by
  have sound := hit_eq warden nowMs healthBefore requested
  rw [allowed] at sound
  split at sound
  · cases sound
  · next legal =>
    have result := Option.some.inj sound
    have damage_eq : outcome.damage = warden.dealt healthBefore requested := by
      rw [← (landed_fst warden nowMs healthBefore (warden.dealt healthBefore requested)).1, ← result]
    have after_eq : outcome.healthAfter = healthBefore - outcome.damage := by
      rw [damage_eq,
        ← (landed_fst warden nowMs healthBefore (warden.dealt healthBefore requested)).2, ← result]
    have range : healthBefore ≤ health ∧
        0 < if warden.phase = .lanes then healthBefore - phaseHealth else healthBefore := by
      simp only [validHealth, not_or, not_not] at legal
      unfold health phaseHealth at *
      cases phase : warden.phase <;> simp_all <;> omega
    refine ⟨range.1, after_eq, ?_, ?_, ?_, ?_, ?_⟩
    · rw [damage_eq, dealt]
      split <;> omega
    · rw [hit_eq, if_neg legal, damage_eq, dealt_dealt, ← result]
    · intro positive
      rw [damage_eq, dealt]
      by_cases recovering : warden.vulnerable
      · rw [if_pos recovering]
        exact ⟨fun zero => by omega, fun closed => absurd recovering closed⟩
      · rw [if_neg recovering]
        exact ⟨fun _ => recovering, fun _ => rfl⟩
    · intro changed
      unfold landed at result
      simp only at result
      split at result
      · next half =>
        cases result
        rw [half.2]
        exact Nat.succ_ne_zero _
      · split at result <;> cases result <;> cases changed
    · intro aimed
      unfold landed at result
      simp only at result
      split at result
      · cases result
        intro pattern impossible
        cases impossible
      · split at result
        · cases result
          intro pattern impossible
          cases impossible
        · cases result
          exact aimed

end PrismWarden
end Prism
end Ai
end Revenant
