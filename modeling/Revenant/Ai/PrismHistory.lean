import Revenant.Ai.Prism
import Revenant.Library.Call

namespace Revenant
namespace Ai
namespace Prism

open Library

/-!
# Whole fights with the Prism Warden

A fight is any list of ticks, confirmations and hits.  Each of them is given
the health that the hits before it left.  `Kept` says how far the warden is in
its pattern and when it announced it, and `Turn.Lawful` what one accepted
operation may do after the turns before it.

A refused operation leaves the fight alone, so a history lists the accepted
ones.  Times need not grow: a late confirmation and an early tick are both
inputs.  Only the end of the clock is excluded, where the sums of the source
saturate.
-/

inductive Operation where
  | tick (nowMs : Nat) (player : Position)
  | confirmAt (confirmedMs : Nat)
  | hit (nowMs requested : Nat)
  deriving DecidableEq, Repr

def Operation.nowMs : Operation → Nat
  | tick nowMs _ => nowMs
  | confirmAt confirmedMs => confirmedMs
  | hit nowMs _ => nowMs

/-- The damage an operation asks for. -/
def Operation.requested : Operation → Nat
  | hit _ requested => requested
  | _ => 0

inductive Answer where
  | acted (action : PrismAction)
  | confirmed
  | struck (outcome : PrismHit)
  deriving DecidableEq, Repr

def Answer.action : Answer → Option PrismAction
  | acted action => some action
  | _ => none

/-- The warden with the health that is left. -/
structure Encounter where
  warden : PrismWarden
  health : Nat
  deriving DecidableEq, Repr

/-- An operation that was not refused. -/
structure Turn where
  before : Encounter
  operation : Operation
  answer : Answer
  after : Encounter
  deriving DecidableEq, Repr

namespace Encounter

def start : Encounter := ⟨.default, Prism.health⟩

def perform (encounter : Encounter) : Operation → Option (Answer × Encounter)
  | .tick nowMs player =>
      (encounter.warden.tick nowMs encounter.health player).map
        (fun (action, warden) => (.acted action, { encounter with warden }))
  | .confirmAt confirmedMs =>
      some (.confirmed, { encounter with warden := encounter.warden.confirmAt confirmedMs })
  | .hit nowMs requested =>
      (encounter.warden.hit nowMs encounter.health requested).map
        (fun (outcome, warden) => (.struck outcome, ⟨warden, outcome.healthAfter⟩))

/-- A refused operation leaves the fight alone. -/
def act (operation : Operation) : Call Encounter Unit Turn :=
  Call.commit (fun encounter =>
    match encounter.perform operation with
    | some (answer, after) => .ok (⟨encounter, operation, answer, after⟩, after)
    | none => .error ())

end Encounter

def turns (operations : List Operation) : List Turn :=
  Call.accepted (Call.log Encounter.act operations .start)

/-! ## What a history shows -/

/-- Whether a lane runs across the first axis. -/
def PrismPattern.lane : PrismPattern → Option Bool
  | acrossX _ => some true
  | acrossZ _ => some false
  | center | perimeter => none

def PrismAction.lane : PrismAction → Option Bool
  | warning pattern => pattern.lane
  | resolved _ _ => none

/-- A pattern, and whether it is resolved or only announced. -/
def PrismAction.beat : PrismAction → PrismPattern × Bool
  | warning pattern => (pattern, false)
  | resolved pattern _ => (pattern, true)

def Turn.lane (turn : Turn) : Option Bool := turn.answer.action.bind PrismAction.lane

def Turn.pulseBeat (turn : Turn) : Option (PrismPattern × Bool) :=
  if turn.before.warden.phase = .pulses then turn.answer.action.map PrismAction.beat else none

/-- The axes of the lanes announced so far. -/
def lanes (history : List Turn) : List Bool := history.filterMap Turn.lane

/-- The actions of the second phase. -/
def pulseBeats (history : List Turn) : List (PrismPattern × Bool) :=
  history.filterMap Turn.pulseBeat

/-- The warning of a pattern began in this turn and is over at the given time. -/
def Turn.Announces (pattern : PrismPattern) (untilMs : Nat) (turn : Turn) : Prop :=
  turn.answer = .acted (.warning pattern) ∧ turn.operation.nowMs + pattern.warningMs ≤ untilMs

/-- Nothing was done, and a warning that was confirmed is over as well. -/
def Turn.Waits (pattern : PrismPattern) (untilMs : Nat) (turn : Turn) : Prop :=
  turn.answer.action = none ∧
    (turn.answer = .confirmed → turn.operation.nowMs + pattern.warningMs ≤ untilMs)

/-- A pattern that ends in a recovery was resolved. -/
def Turn.Opens (turn : Turn) : Prop :=
  ∃ pattern damage, turn.answer = .acted (.resolved pattern damage) ∧ pattern ≠ .center

/-- Neither a warning nor a change of phase ended the recovery. -/
def Turn.StaysOpen (turn : Turn) : Prop :=
  turn.answer.action = none ∧ turn.after.warden.mode = .recovery

/-- What an accepted operation may do after a history. -/
structure Turn.Lawful (history : List Turn) (turn : Turn) : Prop where
  -- damage is done in a recovery only
  window : ∀ outcome, turn.answer = .struck outcome → 0 < outcome.damage →
    turn.before.warden.mode = .recovery ∧ Since Turn.Opens Turn.StaysOpen history
  health : turn.after.health = turn.before.health -
    turn.before.warden.dealt turn.before.health turn.operation.requested
  -- the first phase ends at half health, and not with the fight
  boundary : turn.before.warden.phase = .lanes → phaseHealth ≤ turn.after.health ∧
    (turn.after.warden.phase = if turn.after.health = phaseHealth then .pulses else .lanes) ∧
    turn.after.warden.mode ≠ .defeated
  onward : turn.before.warden.phase = .pulses → turn.after.warden.phase = .pulses
  warned : ∀ pattern damage, turn.answer = .acted (.resolved pattern damage) →
    Since (Turn.Announces pattern turn.operation.nowMs) (Turn.Waits pattern turn.operation.nowMs)
      history
  recovers : turn.after.warden.mode = .recovery → turn.before.warden.mode = .recovery ∨
    turn.Opens ∧ (turn.before.warden.phase = .pulses →
      [(.center, false), (.center, true), (.perimeter, false), (.perimeter, true)] <:+
        pulseBeats (history ++ [turn]))
  turning : ∀ pattern, turn.answer = .acted (.warning pattern) →
    match turn.before.warden.phase with
    | .lanes => ∃ axis, pattern.lane = some axis ∧
        ((lanes history).getLast? = some (!axis) ∨ lanes history = [] ∧ axis = true)
    | .pulses => pattern.lane = none

/-! ## What one accepted operation does -/

/-- The forms of an accepted operation. -/
inductive Performed (encounter : Encounter) : Operation → Answer → Encounter → Prop
  | confirmed (confirmedMs : Nat) :
      Performed encounter (.confirmAt confirmedMs) .confirmed
        { encounter with warden := encounter.warden.confirmAt confirmedMs }
  | warned (nowMs : Nat) (player : Position) (pattern : PrismPattern) (nextLaneX : Bool)
      (valid : encounter.warden.validHealth encounter.health = true)
      (next : encounter.warden.nextPattern player = some (pattern, nextLaneX)) :
      Performed encounter (.tick nowMs player) (.acted (.warning pattern))
        { encounter with
          warden := { encounter.warden with
            mode := .warning pattern, nextLaneX
            readyAtMs := saturatingAdd nowMs pattern.warningMs } }
  | resolved (nowMs : Nat) (player : Position) (pattern : PrismPattern)
      (valid : encounter.warden.validHealth encounter.health = true)
      (announced : encounter.warden.mode = .warning pattern)
      (ready : encounter.warden.readyAtMs ≤ nowMs) :
      Performed encounter (.tick nowMs player)
        (.acted (.resolved pattern (pattern.damageAt player)))
        { encounter with
          warden := ({ encounter.warden with
            mode := if pattern = .center then .pulseGap else .recovery
            readyAtMs := nowMs } : PrismWarden).confirmAt nowMs }
  | struck (nowMs requested : Nat) (outcome : PrismHit) (warden : PrismWarden)
      (valid : encounter.warden.validHealth encounter.health = true)
      (standing : encounter.warden.mode ≠ .defeated)
      (landed : encounter.warden.landed nowMs encounter.health
        (encounter.warden.dealt encounter.health requested) = (outcome, warden)) :
      Performed encounter (.hit nowMs requested) (.struck outcome) ⟨warden, outcome.healthAfter⟩

variable {encounter after : Encounter} {operation : Operation} {answer : Answer}
variable {history : List Turn}

theorem perform_performed (performed : encounter.perform operation = some (answer, after)) :
    Performed encounter operation answer after := by
  cases operation with
  | confirmAt confirmedMs =>
      cases performed
      exact .confirmed confirmedMs
  | hit nowMs requested =>
      simp only [Encounter.perform, Option.map_eq_some_iff, PrismWarden.hit_eq] at performed
      obtain ⟨⟨outcome, warden⟩, struck, same⟩ := performed
      cases same
      split at struck
      · cases struck
      · next legal =>
        simp only [not_or, not_not] at legal
        exact .struck nowMs requested outcome warden legal.1 legal.2 (Option.some.inj struck)
  | tick nowMs player =>
      simp only [Encounter.perform, Option.map_eq_some_iff] at performed
      obtain ⟨⟨action, warden⟩, acted, same⟩ := performed
      cases same
      unfold PrismWarden.tick at acted
      split at acted
      · cases acted
      · next ready =>
        simp only [not_or, not_not, not_lt] at ready
        split at acted
        · next pattern announced =>
          cases acted
          exact .resolved nowMs player pattern ready.2.1 announced ready.1
        · split at acted
          · cases acted
          · next pattern nextLaneX next =>
            cases acted
            exact .warned nowMs player pattern nextLaneX ready.2.1 next

/-! ## What a history keeps -/

/-- The modes of the first phase. -/
def LaneMode : PrismMode → Prop
  | .opening | .recovery => True
  | .warning pattern => pattern.lane.isSome = true
  | .pulseGap | .shifting | .defeated => False

/-- The last actions before each mode of the second phase. -/
def recentBeats : PrismMode → Option (List (PrismPattern × Bool))
  | .shifting | .defeated => some []
  | .warning .center => some [(.center, false)]
  | .pulseGap => some [(.center, false), (.center, true)]
  | .warning .perimeter => some [(.center, false), (.center, true), (.perimeter, false)]
  | .recovery =>
      some [(.center, false), (.center, true), (.perimeter, false), (.perimeter, true)]
  | .opening | .warning (.acrossX _) | .warning (.acrossZ _) => none

/-- How far the warden is in the pattern of its phase. -/
def Follows (history : List Turn) (warden : PrismWarden) : Prop :=
  match warden.phase with
  | .lanes => LaneMode warden.mode
  | .pulses => ∃ recent, recentBeats warden.mode = some recent ∧ recent <:+ pulseBeats history

/-- What ties a fight to its history. -/
structure Kept (history : List Turn) (encounter : Encounter) : Prop where
  healthy : encounter.warden.mode ≠ .defeated →
    encounter.warden.validHealth encounter.health = true
  dead : encounter.warden.mode = .defeated →
    encounter.health = 0 ∧ encounter.warden.phase = .pulses
  passed : encounter.warden.phase = .pulses → ∃ turn ∈ history,
    turn.before.warden.phase = .lanes ∧ turn.after.warden.phase = .pulses ∧
      turn.after.health = phaseHealth
  follows : Follows history encounter.warden
  turning : (lanes history).getLast? = some (!encounter.warden.nextLaneX) ∨
    lanes history = [] ∧ encounter.warden.nextLaneX = true
  warned : ∀ pattern, encounter.warden.mode = .warning pattern →
    Since (Turn.Announces pattern encounter.warden.readyAtMs)
      (Turn.Waits pattern encounter.warden.readyAtMs) history
  opened : encounter.warden.mode = .recovery → Since Turn.Opens Turn.StaysOpen history

theorem kept_start : Kept [] .start := by
  refine ⟨fun _ => rfl, nofun, nofun, trivial, Or.inr ⟨rfl, rfl⟩, nofun, nofun⟩

theorem lanes_snoc (history : List Turn) (turn : Turn) :
    lanes (history ++ [turn]) = lanes history ++ turn.lane.toList := filterMap_snoc _ _ _

theorem pulseBeats_snoc (history : List Turn) (turn : Turn) :
    pulseBeats (history ++ [turn]) = pulseBeats history ++ turn.pulseBeat.toList :=
  filterMap_snoc _ _ _

/-- A later deadline is kept as well. -/
theorem postponed {pattern : PrismPattern} {untilMs laterMs : Nat} (later : untilMs ≤ laterMs)
    (since : Since (Turn.Announces pattern untilMs) (Turn.Waits pattern untilMs) history) :
    Since (Turn.Announces pattern laterMs) (Turn.Waits pattern laterMs) history := by
  refine since.mono ?_ ?_
  · rintro turn ⟨announced, past⟩
    exact ⟨announced, past.trans later⟩
  · rintro turn ⟨quiet, past⟩
    exact ⟨quiet, fun confirmed => (past confirmed).trans later⟩

section Steps

variable {warden : PrismWarden} {turn : Turn}

theorem warningMs_le (pattern : PrismPattern) : pattern.warningMs ≤ shiftMs := by
  cases pattern <;> simp [PrismPattern.warningMs, laneWarningMs, pulseWarningMs, shiftMs]

namespace PrismWarden

theorem confirmAt_phase (warden : PrismWarden) (confirmedMs : Nat) :
    (warden.confirmAt confirmedMs).phase = warden.phase := by
  unfold confirmAt
  split <;> rfl

theorem confirmAt_nextLaneX (warden : PrismWarden) (confirmedMs : Nat) :
    (warden.confirmAt confirmedMs).nextLaneX = warden.nextLaneX := by
  unfold confirmAt
  split <;> rfl

theorem le_confirmAt (warden : PrismWarden) (confirmedMs : Nat) :
    warden.readyAtMs ≤ (warden.confirmAt confirmedMs).readyAtMs := by
  unfold confirmAt
  split
  · exact le_refl _
  · exact le_max_left _ _

/-- A confirmed warning lasts from its confirmation on. -/
theorem confirmAt_warned {confirmedMs : Nat} {pattern : PrismPattern}
    (announced : warden.mode = .warning pattern) (unsaturated : confirmedMs + shiftMs ≤ u64Max) :
    confirmedMs + pattern.warningMs ≤ (warden.confirmAt confirmedMs).readyAtMs := by
  have short := warningMs_le pattern
  unfold confirmAt
  rw [announced]
  change _ ≤ max _ (saturatingAdd confirmedMs pattern.warningMs)
  rw [saturatingAdd_eq (by omega)]
  exact le_max_right _ _

/-- An allowed hit ends the first phase, ends the fight in the second one, or
leaves the warden as it was. -/
theorem landed_cases {nowMs healthBefore requested : Nat} {outcome : PrismHit}
    {proposed : PrismWarden} (valid : warden.validHealth healthBefore = true)
    (landed : warden.landed nowMs healthBefore (warden.dealt healthBefore requested) =
      (outcome, proposed)) :
    outcome.damage = warden.dealt healthBefore requested ∧
      outcome.healthAfter = healthBefore - outcome.damage ∧
      ((warden.phase = .lanes ∧ warden.mode = .recovery ∧ outcome.healthAfter = phaseHealth ∧
          proposed = { warden with
            phase := .pulses, mode := .shifting, readyAtMs := saturatingAdd nowMs shiftMs }) ∨
        (warden.phase = .pulses ∧ outcome.healthAfter = 0 ∧
          proposed = { warden with mode := .defeated }) ∨
        (proposed = warden ∧ warden.validHealth outcome.healthAfter = true)) := by
  have parts := landed_fst warden nowMs healthBefore (warden.dealt healthBefore requested)
  rw [landed] at parts
  refine ⟨parts.1, by rw [parts.1]; exact parts.2, ?_⟩
  have bounded : warden.dealt healthBefore requested ≤
      if warden.phase = .lanes then healthBefore - phaseHealth else healthBefore := by
    unfold dealt
    split
    · exact min_le_right _ _
    · exact Nat.zero_le _
  have after := parts.2
  dsimp only at after
  unfold PrismWarden.landed at landed
  dsimp only at landed
  unfold validHealth at valid ⊢
  split at landed
  · next half =>
    cases landed
    refine Or.inl ⟨half.1, ?_, half.2, rfl⟩
    rw [half.1] at valid
    by_contra closed
    have none : warden.dealt healthBefore requested = 0 := if_neg closed
    have above := (of_decide_eq_true valid).1
    rw [none] at half
    omega
  · next whole =>
    cases phase : warden.phase with
    | lanes =>
        rw [phase] at valid bounded
        rw [if_pos rfl] at bounded
        have range : phaseHealth + 1 ≤ healthBefore ∧ healthBefore ≤ health := of_decide_eq_true valid
        have above : healthBefore - warden.dealt healthBefore requested ≠ phaseHealth :=
          fun half => whole ⟨phase, half⟩
        have positive : 0 < phaseHealth := by decide
        rw [if_neg (by omega)] at landed
        cases landed
        exact Or.inr (Or.inr ⟨rfl, decide_eq_true (by dsimp only; omega)⟩)
    | pulses =>
        rw [phase] at valid bounded
        have range : 1 ≤ healthBefore ∧ healthBefore ≤ phaseHealth := of_decide_eq_true valid
        split at landed
        · next gone =>
          cases landed
          exact Or.inr (Or.inl ⟨rfl, gone, by rw [phase]⟩)
        · next left =>
          cases landed
          exact Or.inr (Or.inr ⟨rfl, decide_eq_true (by dsimp only; omega)⟩)

end PrismWarden

/-- An operation without an action that leaves the warden in its mode. -/
theorem Kept.waits (kept : Kept history encounter) (quiet : turn.answer.action = none)
    (mode : turn.after.warden.mode = encounter.warden.mode)
    (phase : turn.after.warden.phase = encounter.warden.phase)
    (axis : turn.after.warden.nextLaneX = encounter.warden.nextLaneX)
    (later : encounter.warden.readyAtMs ≤ turn.after.warden.readyAtMs)
    (confirms : ∀ pattern, encounter.warden.mode = .warning pattern → turn.answer = .confirmed →
      turn.operation.nowMs + pattern.warningMs ≤ turn.after.warden.readyAtMs)
    (healthy : encounter.warden.mode ≠ .defeated →
      encounter.warden.validHealth turn.after.health = true)
    (dead : encounter.warden.mode = .defeated → turn.after.health = encounter.health) :
    Kept (history ++ [turn]) turn.after := by
  have noLane : turn.lane = none := by rw [Turn.lane, quiet]; rfl
  have noBeat : turn.pulseBeat = none := by
    unfold Turn.pulseBeat
    rw [quiet]
    split <;> rfl
  refine ⟨?_, ?_, ?_, ?_, ?_, ?_, ?_⟩
  · intro standing
    rw [mode] at standing
    unfold PrismWarden.validHealth
    rw [phase]
    exact healthy standing
  · intro defeated
    rw [mode] at defeated
    rw [dead defeated, phase]
    exact kept.dead defeated
  · intro pulses
    rw [phase] at pulses
    obtain ⟨other, member, shifted⟩ := kept.passed pulses
    exact ⟨other, List.mem_append_left _ member, shifted⟩
  · have follows := kept.follows
    unfold Follows at follows ⊢
    rw [phase, mode, pulseBeats_snoc, noBeat, Option.toList_none, List.append_nil]
    exact follows
  · rw [lanes_snoc, noLane, axis, Option.toList_none, List.append_nil]
    exact kept.turning
  · intro pattern announced
    rw [mode] at announced
    exact (postponed later (kept.warned pattern announced)).snoc ⟨quiet, confirms pattern announced⟩
  · intro recovering
    have open' := recovering
    rw [mode] at open'
    exact (kept.opened open').snoc ⟨quiet, recovering⟩

/-- A hit that ends the first phase. -/
theorem Kept.shifts (kept : Kept history encounter) {readyAtMs : Nat}
    (quiet : turn.answer.action = none) (lanesBefore : turn.before.warden.phase = .lanes)
    (shifted : turn.after.warden = { encounter.warden with
      phase := .pulses, mode := .shifting, readyAtMs }) (half : turn.after.health = phaseHealth) :
    Kept (history ++ [turn]) turn.after := by
  have noLane : turn.lane = none := by rw [Turn.lane, quiet]; rfl
  refine ⟨?_, ?_, ?_, ?_, ?_, ?_, ?_⟩
  · intro _
    rw [shifted, half]
    rfl
  · intro defeated
    rw [shifted] at defeated
    cases defeated
  · intro _
    exact ⟨turn, by simp, lanesBefore, by rw [shifted], half⟩
  · unfold Follows
    rw [shifted]
    exact ⟨[], rfl, List.nil_suffix⟩
  · rw [lanes_snoc, noLane, shifted, Option.toList_none, List.append_nil]
    exact kept.turning
  · intro pattern announced
    rw [shifted] at announced
    cases announced
  · intro recovering
    rw [shifted] at recovering
    cases recovering

/-- A hit that ends the fight. -/
theorem Kept.falls (kept : Kept history encounter) (quiet : turn.answer.action = none)
    (pulses : encounter.warden.phase = .pulses)
    (fallen : turn.after.warden = { encounter.warden with mode := .defeated })
    (gone : turn.after.health = 0) : Kept (history ++ [turn]) turn.after := by
  have noLane : turn.lane = none := by rw [Turn.lane, quiet]; rfl
  refine ⟨?_, ?_, ?_, ?_, ?_, ?_, ?_⟩
  · intro standing
    rw [fallen] at standing
    exact absurd rfl standing
  · intro _
    exact ⟨gone, by rw [fallen]; exact pulses⟩
  · intro _
    obtain ⟨other, member, shifted⟩ := kept.passed pulses
    exact ⟨other, List.mem_append_left _ member, shifted⟩
  · unfold Follows
    rw [fallen]
    simp only [pulses]
    exact ⟨[], rfl, List.nil_suffix⟩
  · rw [lanes_snoc, noLane, fallen, Option.toList_none, List.append_nil]
    exact kept.turning
  · intro pattern announced
    rw [fallen] at announced
    cases announced
  · intro recovering
    rw [fallen] at recovering
    cases recovering

variable {pattern : PrismPattern}

/-- The next pattern is a lane on the other axis in the first phase, and a pulse
in the second one. -/
theorem nextPattern_follows {player : Position} {nextLaneX : Bool}
    (follows : Follows history warden)
    (next : warden.nextPattern player = some (pattern, nextLaneX)) :
    (warden.phase = .lanes ∧ pattern.lane = some warden.nextLaneX ∧
        nextLaneX = !warden.nextLaneX) ∨
      (warden.phase = .pulses ∧ nextLaneX = warden.nextLaneX ∧
        (pattern = .center ∨ pattern = .perimeter ∧ warden.mode = .pulseGap)) := by
  unfold Follows at follows
  unfold PrismWarden.nextPattern at next
  cases phase : warden.phase with
  | lanes =>
      rw [phase] at follows next
      cases mode : warden.mode with
      | opening | recovery =>
          rw [mode] at next
          cases next
          refine Or.inl ⟨rfl, ?_, rfl⟩
          cases warden.nextLaneX <;> rfl
      | warning announced =>
          rw [mode] at next
          cases next
      | pulseGap | shifting | defeated =>
          rw [mode] at follows
          exact follows.elim
  | pulses =>
      rw [phase] at follows next
      cases mode : warden.mode with
      | opening | warning announced | defeated =>
          rw [mode] at next
          cases next
      | recovery | shifting =>
          rw [mode] at next
          cases next
          exact Or.inr ⟨rfl, rfl, Or.inl rfl⟩
      | pulseGap =>
          rw [mode] at next
          cases next
          exact Or.inr ⟨rfl, rfl, Or.inr ⟨rfl, rfl⟩⟩

/-- A warning is the next action of the pattern of its phase. -/
theorem Kept.warns (kept : Kept history encounter) {nowMs : Nat} {player : Position}
    {nextLaneX : Bool} (unsaturated : nowMs + shiftMs ≤ u64Max)
    (valid : encounter.warden.validHealth encounter.health = true)
    (next : encounter.warden.nextPattern player = some (pattern, nextLaneX)) :
    let after : Encounter := { encounter with
      warden := { encounter.warden with
        mode := .warning pattern, nextLaneX, readyAtMs := saturatingAdd nowMs pattern.warningMs } }
    Kept (history ++ [⟨encounter, .tick nowMs player, .acted (.warning pattern), after⟩]) after := by
  intro after
  have short := warningMs_le pattern
  have ready : saturatingAdd nowMs pattern.warningMs = nowMs + pattern.warningMs :=
    saturatingAdd_eq (by omega)
  refine ⟨fun _ => valid, nofun, ?_, ?_, ?_, ?_, nofun⟩
  · intro pulses
    obtain ⟨other, member, shifted⟩ := kept.passed pulses
    exact ⟨other, List.mem_append_left _ member, shifted⟩
  · have follows := kept.follows
    unfold Follows at follows ⊢
    rw [pulseBeats_snoc]
    rcases nextPattern_follows kept.follows next with
      ⟨phase, lane, -⟩ | ⟨phase, -, rfl | ⟨rfl, gap⟩⟩
    · simp only [after, phase]
      change pattern.lane.isSome = true
      rw [lane]
      rfl
    · simp only [after, phase, Turn.pulseBeat, if_true]
      exact ⟨[(.center, false)], rfl, List.suffix_append _ _⟩
    · rw [phase, gap] at follows
      obtain ⟨recent, known, suffix⟩ := follows
      cases known
      simp only [after, phase, Turn.pulseBeat, if_true]
      exact ⟨[(.center, false), (.center, true), (.perimeter, false)], rfl,
        suffix_snoc suffix _⟩
  · rw [lanes_snoc]
    rcases nextPattern_follows kept.follows next with ⟨phase, lane, turned⟩ | ⟨phase, same, pulse⟩
    · left
      change (lanes history ++ pattern.lane.toList).getLast? = some (!nextLaneX)
      rw [lane, turned, Bool.not_not]
      exact List.getLast?_concat
    · have noLane : pattern.lane = none := by
        rcases pulse with rfl | ⟨rfl, -⟩ <;> rfl
      change (lanes history ++ pattern.lane.toList).getLast? = some (!nextLaneX) ∨
        lanes history ++ pattern.lane.toList = [] ∧ nextLaneX = true
      rw [noLane, same, Option.toList_none, List.append_nil]
      exact kept.turning
  · intro other announced
    cases announced
    exact since_last ⟨rfl, ready.ge⟩

/-- A warning that is over is resolved, into a gap or a recovery. -/
theorem Kept.resolves (kept : Kept history encounter) {nowMs : Nat} {player : Position}
    {after : Encounter} (valid : encounter.warden.validHealth encounter.health = true)
    (announced : encounter.warden.mode = .warning pattern)
    (mode : after.warden.mode = if pattern = .center then .pulseGap else .recovery)
    (phase : after.warden.phase = encounter.warden.phase)
    (axis : after.warden.nextLaneX = encounter.warden.nextLaneX)
    (health : after.health = encounter.health) :
    Kept (history ++ [⟨encounter, .tick nowMs player,
      .acted (.resolved pattern (pattern.damageAt player)), after⟩]) after := by
  refine ⟨?_, ?_, ?_, ?_, ?_, ?_, ?_⟩
  · intro _
    unfold PrismWarden.validHealth
    rw [phase, health]
    exact valid
  · intro defeated
    rw [mode] at defeated
    split at defeated <;> cases defeated
  · intro pulses
    rw [phase] at pulses
    obtain ⟨other, member, shifted⟩ := kept.passed pulses
    exact ⟨other, List.mem_append_left _ member, shifted⟩
  · have follows := kept.follows
    unfold Follows at follows ⊢
    rw [pulseBeats_snoc, phase, mode]
    rw [announced] at follows
    cases turned : encounter.warden.phase with
    | lanes =>
        rw [turned] at follows
        have other : pattern ≠ .center := by
          rintro rfl
          cases follows
        simp only [if_neg other]
        trivial
    | pulses =>
        rw [turned] at follows
        obtain ⟨recent, known, suffix⟩ := follows
        simp only [Turn.pulseBeat, turned, if_true]
        cases pattern with
        | acrossX z => cases known
        | acrossZ x => cases known
        | center =>
            cases known
            exact ⟨[(.center, false), (.center, true)], rfl, suffix_snoc suffix _⟩
        | perimeter =>
            cases known
            exact ⟨[(.center, false), (.center, true), (.perimeter, false), (.perimeter, true)], rfl,
              suffix_snoc suffix _⟩
  · rw [lanes_snoc, axis]
    change (lanes history ++ []).getLast? = _ ∨ lanes history ++ [] = [] ∧ _
    rw [List.append_nil]
    exact kept.turning
  · intro other warning
    rw [mode] at warning
    split at warning <;> cases warning
  · intro recovering
    rw [mode] at recovering
    refine since_last ⟨pattern, _, rfl, ?_⟩
    rintro rfl
    cases recovering

/-- Every accepted operation keeps the fight tied to its history. -/
theorem Kept.step (kept : Kept history encounter) (unsaturated : operation.nowMs + shiftMs ≤ u64Max)
    (performed : Performed encounter operation answer after) :
    Kept (history ++ [⟨encounter, operation, answer, after⟩]) after := by
  cases performed with
  | confirmed confirmedMs =>
      refine kept.waits rfl (PrismWarden.confirmAt_mode _ _)
        (PrismWarden.confirmAt_phase _ _) (PrismWarden.confirmAt_nextLaneX _ _)
        (PrismWarden.le_confirmAt _ _) ?_ kept.healthy (fun _ => rfl)
      intro pattern announced _
      exact PrismWarden.confirmAt_warned announced unsaturated
  | warned nowMs player pattern nextLaneX valid next => exact kept.warns unsaturated valid next
  | resolved nowMs player pattern valid announced ready =>
      exact kept.resolves valid announced (PrismWarden.confirmAt_mode _ _)
        (PrismWarden.confirmAt_phase _ _) (PrismWarden.confirmAt_nextLaneX _ _) rfl
  | struck nowMs requested outcome warden valid standing landed =>
      obtain ⟨-, -, ⟨lanesBefore, -, half, rfl⟩ | ⟨pulses, gone, rfl⟩ | ⟨rfl, healthy⟩⟩ :=
        PrismWarden.landed_cases valid landed
      · exact kept.shifts rfl lanesBefore rfl half
      · exact kept.falls rfl pulses rfl gone
      · exact kept.waits rfl rfl rfl rfl (le_refl _) nofun (fun _ => healthy)
          (fun defeated => absurd defeated standing)

/-- Every accepted operation is lawful after the turns before it. -/
theorem Kept.lawful (kept : Kept history encounter)
    (performed : Performed encounter operation answer after)
    (next : Kept (history ++ [⟨encounter, operation, answer, after⟩]) after) :
    Turn.Lawful history ⟨encounter, operation, answer, after⟩ := by
  -- without a hit the health stays, above half in the first phase
  have above : encounter.warden.phase = .lanes → phaseHealth < encounter.health := by
    intro phase
    have valid := kept.healthy (fun defeated => by
      cases phase.symm.trans (kept.dead defeated).2)
    unfold PrismWarden.validHealth at valid
    rw [phase] at valid
    have range : phaseHealth + 1 ≤ encounter.health ∧ encounter.health ≤ health :=
      of_decide_eq_true valid
    exact range.1
  have unhurt : encounter.health = encounter.health - encounter.warden.dealt encounter.health 0 := by
    unfold PrismWarden.dealt
    split
    · rw [Nat.zero_min, Nat.sub_zero]
    · exact (Nat.sub_zero _).symm
  cases performed with
  | confirmed confirmedMs =>
      refine ⟨by rintro _ ⟨⟩, unhurt, ?_, ?_, by rintro _ _ ⟨⟩, ?_, by rintro _ ⟨⟩⟩
      · intro phase
        have phase : encounter.warden.phase = .lanes := phase
        refine ⟨(above phase).le, ?_, ?_⟩
        · exact (PrismWarden.confirmAt_phase _ _).trans
            (phase.trans (if_neg (above phase).ne').symm)
        · intro defeated
          have defeated := (PrismWarden.confirmAt_mode _ _).symm.trans defeated
          cases phase.symm.trans (kept.dead defeated).2
      · intro pulses
        exact (PrismWarden.confirmAt_phase _ _).trans pulses
      · intro recovering
        exact Or.inl ((PrismWarden.confirmAt_mode _ _).symm.trans recovering)
  | warned nowMs player pattern nextLaneX valid turned =>
      refine ⟨by rintro _ ⟨⟩, unhurt, ?_, fun pulses => pulses, by rintro _ _ ⟨⟩, by rintro ⟨⟩, ?_⟩
      · intro phase
        exact ⟨(above phase).le, phase.trans (if_neg (above phase).ne').symm, by rintro ⟨⟩⟩
      · intro other same
        cases same
        dsimp only
        rcases nextPattern_follows kept.follows turned with ⟨phase, lane, -⟩ | ⟨phase, -, pulse⟩
        · rw [phase]
          refine ⟨_, lane, ?_⟩
          exact kept.turning
        · rw [phase]
          dsimp only
          rcases pulse with rfl | ⟨rfl, -⟩ <;> rfl
  | resolved nowMs player pattern valid announced ready =>
      have phaseAfter := PrismWarden.confirmAt_phase ({ encounter.warden with
        mode := if pattern = .center then .pulseGap else .recovery
        readyAtMs := nowMs } : PrismWarden) nowMs
      have modeAfter := PrismWarden.confirmAt_mode ({ encounter.warden with
        mode := if pattern = .center then .pulseGap else .recovery
        readyAtMs := nowMs } : PrismWarden) nowMs
      refine ⟨by rintro _ ⟨⟩, unhurt, ?_, ?_, ?_, ?_, by rintro _ ⟨⟩⟩
      · intro phase
        refine ⟨(above phase).le, ?_, ?_⟩
        · exact phaseAfter.trans (phase.trans (if_neg (above phase).ne').symm)
        · intro defeated
          have defeated := modeAfter.symm.trans defeated
          dsimp only at defeated
          split at defeated <;> cases defeated
      · intro pulses
        exact phaseAfter.trans pulses
      · intro other damage same
        cases same
        exact postponed ready (kept.warned pattern announced)
      · intro recovering
        refine Or.inr ⟨⟨pattern, _, rfl, ?_⟩, ?_⟩
        · rintro rfl
          cases modeAfter.symm.trans recovering
        · intro pulses
          have follows := next.follows
          unfold Follows at follows
          rw [phaseAfter.trans pulses, recovering] at follows
          obtain ⟨recent, known, suffix⟩ := follows
          cases known
          exact suffix
  | struck nowMs requested outcome warden valid standing landed =>
      obtain ⟨damage, left, cases⟩ := PrismWarden.landed_cases valid landed
      refine ⟨?_, ?_, ?_, ?_, by rintro _ _ ⟨⟩, ?_, by rintro _ ⟨⟩⟩
      · intro other same positive
        cases same
        have recovering : encounter.warden.vulnerable := by
          by_contra closed
          rw [damage, PrismWarden.dealt, if_neg closed] at positive
          exact absurd positive (lt_irrefl 0)
        exact ⟨recovering, kept.opened recovering⟩
      · exact left.trans (by rw [damage]; rfl)
      · intro phase
        have phase : encounter.warden.phase = .lanes := phase
        rcases cases with ⟨-, -, half, rfl⟩ | ⟨pulses, -⟩ | ⟨rfl, healthy⟩
        · exact ⟨half.ge, (if_pos half).symm, by rintro ⟨⟩⟩
        · cases phase.symm.trans pulses
        · unfold PrismWarden.validHealth at healthy
          rw [phase] at healthy
          have range : phaseHealth + 1 ≤ outcome.healthAfter ∧ outcome.healthAfter ≤ health :=
            of_decide_eq_true healthy
          refine ⟨(Nat.le_succ _).trans range.1, phase.trans (if_neg ?_).symm, standing⟩
          exact (Nat.lt_of_succ_le range.1).ne'
      · intro pulses
        have pulses : encounter.warden.phase = .pulses := pulses
        rcases cases with ⟨lanesBefore, -⟩ | ⟨-, -, rfl⟩ | ⟨rfl, -⟩
        · cases pulses.symm.trans lanesBefore
        · exact pulses
        · exact pulses
      · intro recovering
        have recovering : warden.mode = .recovery := recovering
        rcases cases with ⟨-, -, -, rfl⟩ | ⟨-, -, rfl⟩ | ⟨rfl, -⟩
        · cases recovering
        · cases recovering
        · exact Or.inl recovering

end Steps

theorem act_cases (operation : Operation) (encounter : Encounter) :
    (∃ failure, Encounter.act operation encounter = (.error failure, encounter)) ∨
      ∃ answer after, Performed encounter operation answer after ∧
        Encounter.act operation encounter =
          (.ok ⟨encounter, operation, answer, after⟩, after) := by
  cases performed : encounter.perform operation with
  | none => exact Or.inl ⟨(), Call.commit_of_error (by rw [performed])⟩
  | some result =>
      exact Or.inr ⟨result.1, result.2, perform_performed performed,
        Call.commit_of_ok (by rw [performed])⟩

/-- In every fight away from the end of the clock: the health stays in the range
of the phase until the defeat, the second phase begins at half health, and every
accepted operation is lawful. -/
theorem prism_law (operations : List Operation)
    (unsaturated : ∀ operation ∈ operations, operation.nowMs + shiftMs ≤ u64Max) :
    let encounter := Call.final Encounter.act operations .start
    (encounter.warden.mode ≠ .defeated →
        encounter.warden.validHealth encounter.health = true) ∧
      (encounter.warden.mode = .defeated →
        encounter.health = 0 ∧ encounter.warden.phase = .pulses) ∧
      (encounter.warden.phase = .pulses → ∃ turn ∈ turns operations,
        turn.before.warden.phase = .lanes ∧ turn.after.warden.phase = .pulses ∧
          turn.after.health = phaseHealth) ∧
      ∀ front turn back, turns operations = front ++ turn :: back → turn.Lawful front := by
  intro encounter
  have run : Kept (turns operations) encounter ∧
      ∀ front turn back, turns operations = front ++ turn :: back → turn.Lawful front := by
    refine Call.accepted_keeps Kept (fun front turn => turn.Lawful front) kept_start operations ?_
    intro history operation member state kept
    rcases act_cases operation state with refused | ⟨answer, after, performed, accepted⟩
    · exact Or.inl refused
    · have next := kept.step (unsaturated operation member) performed
      exact Or.inr ⟨_, _, accepted, next, kept.lawful performed next⟩
  exact ⟨run.1.healthy, run.1.dead, run.1.passed, run.2⟩

/-- The first lane is announced, confirmed and resolved, and a shot of any
strength in the recovery after it stops at half health. -/
def opening (requested : Nat) : List Operation :=
  [.tick 700 ⟨8, 0, 1⟩, .confirmAt 760, .hit 800 requested, .tick 2500 ⟨8, 0, 1⟩,
    .tick 2560 ⟨8, 0, 1⟩, .hit 2600 requested]

theorem prism_law_opening :
    (Call.final Encounter.act (opening 4000) .start).health = phaseHealth ∧
      ∃ turn ∈ turns (opening 4000), turn.before.warden.phase = .lanes ∧
        turn.after.warden.phase = .pulses ∧ turn.after.health = phaseHealth := by
  have law := prism_law (opening 4000) (by decide)
  exact ⟨by decide +kernel, law.2.2.1 (by decide +kernel)⟩

end Prism
end Ai
end Revenant
