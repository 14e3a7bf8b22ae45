import Revenant.Challenges.Actions
import Revenant.Library.Holds
import Revenant.Library.Turns

namespace Revenant
namespace Challenges
namespace Recovery

open Library

/-!
# Coolant Recovery

The player walks to the intake, then holds the transfer and the delivery station
in turn.  Arriving at the intake is enough; a station must be held through every
accepted step since the arrival.  The run has no deadline.

`Kept` says what the timer of a run knows about its history, and `Settled` that
an observation alone never opens or closes a hold.  The first gives the law of
the checkpoints, and the second lets silent observations be left out.
-/

def spawn : Position := ⟨-1, 0, -3⟩

def intake : Position := ⟨-1, 0, -5⟩

def transfer : Position := ⟨4, 0, -5⟩

def delivery : Position := ⟨4, 0, -1⟩

def dwellMs : Nat := 1200

inductive Phase where
  | retrieve
  | transfer
  | delivery
  | completed
  deriving DecidableEq, Repr

structure RecoveryRun where
  position : Position
  phase : Phase
  lastElapsedMs : Nat
  dwellStartedMs : Option Nat
  deriving DecidableEq, Repr

structure Update where
  run : RecoveryRun
  checkpoint : Option Checkpoint
  deriving DecidableEq, Repr

inductive Error where
  | clockReversed
  | invalidMovement
  | completed
  deriving DecidableEq, Repr

def walkable (position : Position) : Bool :=
  decide (position.y = 0 ∧ (-2 ≤ position.x ∧ position.x ≤ 5) ∧ -6 ≤ position.z ∧ position.z ≤ 0)

namespace RecoveryRun

def default : RecoveryRun :=
  { position := spawn, phase := .retrieve, lastElapsedMs := 0, dwellStartedMs := none }

/-- One walkable step. -/
def allowsMove (run : RecoveryRun) (position : Position) : Bool :=
  walkable position &&
    decide (|position.x - run.position.x| + |position.z - run.position.z| = 1)

def refuses (run : RecoveryRun) : Action → Bool
  | .move position => !run.allowsMove position
  | .observe => false

def place (run : RecoveryRun) : Action → RecoveryRun
  | .move position => { run with position }
  | .observe => run

end RecoveryRun

/-- The station of a phase; a completed run has none. -/
def Phase.station : Phase → Option Position
  | retrieve => some intake
  | transfer => some Recovery.transfer
  | delivery => some Recovery.delivery
  | completed => none

namespace RecoveryRun

/-- What a run does at its station. -/
def dwell (run : RecoveryRun) (elapsedMs : Nat) : Update :=
  if run.phase = .retrieve then
    { run := { run with phase := .transfer }, checkpoint := some .retrieved }
  else
    let started := run.dwellStartedMs.getD elapsedMs
    if elapsedMs - started ≥ dwellMs then
      if run.phase = .transfer then
        { run := { run with phase := .delivery, dwellStartedMs := none }
          checkpoint := some .transferred }
      else
        { run := { run with phase := .completed, dwellStartedMs := none }
          checkpoint := some .delivered }
    else { run := { run with dwellStartedMs := some started }, checkpoint := none }

/-- What an accepted action does. -/
def advance (run : RecoveryRun) (elapsedMs : Nat) (action : Action) : Update :=
  let next := { run.place action with lastElapsedMs := elapsedMs }
  if some next.position ≠ next.phase.station then
    { run := { next with dwellStartedMs := none }, checkpoint := none }
  else next.dwell elapsedMs

def apply (run : RecoveryRun) (elapsedMs : Nat) (action : Action) : Except Error Update := do
  rejectIf (run.phase = .completed) .completed
  rejectIf (elapsedMs < run.lastElapsedMs) .clockReversed
  rejectIf (run.refuses action = true) .invalidMovement
  return run.advance elapsedMs action

end RecoveryRun

/-! ## What an accepted step does -/

/-- A call: the server's time and the action. -/
structure Step where
  elapsedMs : Nat
  action : Action
  deriving DecidableEq, Repr

/-- The run behind an accepted action, before its station is looked at. -/
def RecoveryRun.placed (run : RecoveryRun) (step : Step) : RecoveryRun :=
  { run.place step.action with lastElapsedMs := step.elapsedMs }

/-- The forms of an accepted step. -/
inductive Advanced (run : RecoveryRun) (step : Step) : Update → Prop
  | away (off : some (run.placed step).position ≠ run.phase.station) :
      Advanced run step ⟨{ run.placed step with dwellStartedMs := none }, none⟩
  | retrieved (phase : run.phase = .retrieve) (here : (run.placed step).position = intake) :
      Advanced run step ⟨{ run.placed step with phase := .transfer }, some .retrieved⟩
  | holding (station : Position) (phase : run.phase ≠ .retrieve)
      (seeks : run.phase.station = some station) (here : (run.placed step).position = station)
      (short : ¬ dwellMs ≤ step.elapsedMs - run.dwellStartedMs.getD step.elapsedMs) :
      Advanced run step ⟨{ run.placed step with
        dwellStartedMs := some (run.dwellStartedMs.getD step.elapsedMs) }, none⟩
  | transferred (phase : run.phase = .transfer) (here : (run.placed step).position = transfer)
      (full : dwellMs ≤ step.elapsedMs - run.dwellStartedMs.getD step.elapsedMs) :
      Advanced run step ⟨{ run.placed step with phase := .delivery, dwellStartedMs := none },
        some .transferred⟩
  | delivered (phase : run.phase = .delivery) (here : (run.placed step).position = delivery)
      (full : dwellMs ≤ step.elapsedMs - run.dwellStartedMs.getD step.elapsedMs) :
      Advanced run step ⟨{ run.placed step with phase := .completed, dwellStartedMs := none },
        some .delivered⟩

namespace RecoveryRun

variable {run : RecoveryRun} {step : Step} {update : Update}

def call (run : RecoveryRun) (step : Step) : Except Error Update :=
  run.apply step.elapsedMs step.action

@[simp] theorem placed_phase : (run.placed step).phase = run.phase := by
  unfold placed
  cases step.action <;> rfl

@[simp] theorem placed_dwell : (run.placed step).dwellStartedMs = run.dwellStartedMs := by
  unfold placed
  cases step.action <;> rfl

theorem call_iff : run.call step = .ok update ↔
    run.phase ≠ .completed ∧ run.lastElapsedMs ≤ step.elapsedMs ∧
      run.refuses step.action = false ∧ run.advance step.elapsedMs step.action = update := by
  unfold call apply
  simp only [bind_eq_ok, exists_unit, rejectIf_eq_ok, pure_eq_ok, not_lt, Bool.not_eq_true]

theorem advance_advanced (playing : run.phase ≠ .completed) :
    Advanced run step (run.advance step.elapsedMs step.action) := by
  change Advanced run step (if some (run.placed step).position ≠ (run.placed step).phase.station
    then ⟨{ run.placed step with dwellStartedMs := none }, none⟩
    else (run.placed step).dwell step.elapsedMs)
  split
  · next off =>
    rw [placed_phase] at off
    exact .away off
  · next here =>
    rw [not_not, placed_phase] at here
    unfold dwell
    split
    · next phase =>
      rw [placed_phase] at phase
      rw [phase] at here
      exact .retrieved phase (Option.some.inj here)
    · next phase =>
      rw [placed_phase] at phase
      dsimp only
      split
      · next full =>
        rw [placed_dwell] at full
        split
        · next moving =>
          rw [placed_phase] at moving
          rw [moving] at here
          exact .transferred moving (Option.some.inj here) full
        · next other =>
          rw [placed_phase] at other
          have last : run.phase = .delivery := by
            cases known : run.phase with
            | retrieve => exact absurd known phase
            | transfer => exact absurd known other
            | delivery => rfl
            | completed => exact absurd known playing
          rw [last] at here
          exact .delivered last (Option.some.inj here) full
      · next short =>
        rw [placed_dwell] at short ⊢
        exact .holding (run.placed step).position phase here.symm rfl short

theorem call_advanced (accepted : run.call step = .ok update) : Advanced run step update := by
  obtain ⟨playing, -, -, rfl⟩ := call_iff.mp accepted
  exact advance_advanced playing

end RecoveryRun

/-! ## What a history keeps -/

abbrev RecoveryTurn : Type := Turn RecoveryRun Step Update

namespace RecoveryRun

/-- The accepted steps of a run from the start. -/
def history (steps : List Step) : List RecoveryTurn := turns call Update.run steps default

/-- Where the accepted steps lead. -/
def final (steps : List Step) : RecoveryRun := reached call Update.run steps default

end RecoveryRun

def time (turn : RecoveryTurn) : Nat := turn.input.elapsedMs

/-- The step leaves the player at a station. -/
def At (station : Position) (turn : RecoveryTurn) : Prop := turn.answer.run.position = station

def checkpoints (history : List RecoveryTurn) : List Checkpoint :=
  history.filterMap (fun turn => turn.answer.checkpoint)

/-- The checkpoints behind a phase. -/
def Phase.passed : Phase → List Checkpoint
  | retrieve => []
  | transfer => [.retrieved]
  | delivery => [.retrieved, .transferred]
  | completed => [.retrieved, .transferred, .delivered]

/-- What ties a run to its history. -/
structure Kept (history : List RecoveryTurn) (run : RecoveryRun) : Prop where
  passed : checkpoints history = run.phase.passed
  intake : (∃ turn ∈ history, At intake turn) ↔ run.phase ≠ .retrieve
  held : ∀ station, run.phase.station = some station →
    Held (At station) time history run.dwellStartedMs
  past : ∀ began, run.dwellStartedMs = some began → began ≤ run.lastElapsedMs

/-- What an accepted step may do after a history. -/
structure Lawful (history : List RecoveryTurn) (turn : RecoveryTurn) : Prop where
  later : turn.before.lastElapsedMs ≤ turn.input.elapsedMs
  moved : ∀ position, turn.input.action = .move position → walkable position = true ∧
    |position.x - turn.before.position.x| + |position.z - turn.before.position.z| = 1 ∧
    turn.answer.run.position = position
  stayed : turn.input.action = .observe → turn.answer.run.position = turn.before.position
  retrieved : turn.answer.checkpoint = some .retrieved ↔
    At intake turn ∧ ∀ earlier ∈ history, ¬ At intake earlier
  transferred : turn.answer.checkpoint = some .transferred ↔
    checkpoints history = [.retrieved] ∧ Lasted (At transfer) time dwellMs history turn
  delivered : turn.answer.checkpoint = some .delivered ↔
    checkpoints history = [.retrieved, .transferred] ∧
      Lasted (At delivery) time dwellMs history turn
  playing : .delivered ∉ checkpoints history
  -- the start of a hold is never behind the clock
  fits : turn.before.dwellStartedMs.getD turn.input.elapsedMs ≤ turn.input.elapsedMs

theorem checkpoints_snoc (history : List RecoveryTurn) (turn : RecoveryTurn) :
    checkpoints (history ++ [turn]) = checkpoints history ++ turn.answer.checkpoint.toList :=
  filterMap_snoc _ _ _

theorem Phase.passed_inj {first second : Phase} (same : first.passed = second.passed) :
    first = second := by
  cases first <;> cases second <;> first | rfl | cases same

theorem kept_start : Kept [] RecoveryRun.default := by
  constructor
  case passed => rfl
  case intake => simp [RecoveryRun.default]
  case held => exact fun _ _ => held_nil
  case past => nofun

section Steps

variable {history : List RecoveryTurn} {run : RecoveryRun} {step : Step} {update : Update}

theorem exists_at_snoc {turn : RecoveryTurn} {station : Position} :
    (∃ other ∈ history ++ [turn], At station other) ↔
      (∃ other ∈ history, At station other) ∨ At station turn := by
  simp only [List.mem_append, List.mem_singleton, or_and_right, exists_or, exists_eq_left]

theorem placed_position {position : Position} (same : step.action = .move position) :
    (run.placed step).position = position := by
  unfold RecoveryRun.placed
  rw [same]
  rfl

theorem placed_observe (same : step.action = .observe) :
    (run.placed step).position = run.position := by
  unfold RecoveryRun.placed
  rw [same]
  rfl

theorem advanced_position (advanced : Advanced run step update) :
    update.run.position = (run.placed step).position := by
  cases advanced <;> rfl

/-- An accepted step keeps the tie to the history. -/
theorem kept_snoc (kept : Kept history run) (later : run.lastElapsedMs ≤ step.elapsedMs)
    (advanced : Advanced run step update) :
    Kept (history ++ [{ before := run, input := step, answer := update }]) update.run := by
  have past : ∀ began, run.dwellStartedMs = some began → began ≤ step.elapsedMs :=
    fun began set => (kept.past began set).trans later
  cases advanced with
  | away off =>
      constructor
      case passed =>
        rw [checkpoints_snoc, kept.passed]
        simp only [Option.toList_none, List.append_nil, RecoveryRun.placed_phase]
      case intake =>
        rw [exists_at_snoc, kept.intake]
        change _ ↔ (run.placed step).phase ≠ .retrieve
        rw [RecoveryRun.placed_phase]
        constructor
        · rintro (onward | here)
          · exact onward
          · intro phase
            rw [phase] at off
            exact off (congrArg some here)
        · exact Or.inl
      case held =>
        intro station seeks
        rw [RecoveryRun.placed_phase] at seeks
        refine held_away ?_
        intro here
        rw [seeks] at off
        exact off (congrArg some here)
      case past => nofun
  | retrieved phase here =>
      constructor
      case passed =>
        rw [checkpoints_snoc, kept.passed, phase]
        rfl
      case intake =>
        rw [exists_at_snoc]
        exact ⟨fun _ => nofun, fun _ => Or.inr here⟩
      case held =>
        rintro station ⟨⟩
        have idle : run.dwellStartedMs = none := by
          -- nothing is held before the intake is reached
          cases set : run.dwellStartedMs with
          | none => rfl
          | some began =>
              obtain ⟨first, ⟨front, rest, split, all⟩, -⟩ :=
                (kept.held intake (by rw [phase]; rfl)).began began set
              refine absurd phase (kept.intake.mp ⟨first, ?_, all first List.mem_cons_self⟩)
              rw [split]
              exact List.mem_append_right _ List.mem_cons_self
        change Held (At transfer) time _ (run.placed step).dwellStartedMs
        rw [RecoveryRun.placed_dwell, idle]
        refine held_away ?_
        intro there
        exact absurd (here.symm.trans there) (by decide)
      case past =>
        intro began set
        change (run.placed step).dwellStartedMs = some began at set
        rw [RecoveryRun.placed_dwell] at set
        exact past began set
  | holding station phase seeks here short =>
      constructor
      case passed =>
        rw [checkpoints_snoc, kept.passed]
        simp only [Option.toList_none, List.append_nil, RecoveryRun.placed_phase]
      case intake =>
        rw [exists_at_snoc, kept.intake]
        change _ ↔ (run.placed step).phase ≠ .retrieve
        rw [RecoveryRun.placed_phase]
        exact ⟨fun _ => phase, fun _ => Or.inl phase⟩
      case held =>
        intro other same
        rw [RecoveryRun.placed_phase, seeks] at same
        cases same
        refine Held.snoc (kept.held station seeks) ?_ here
        exact past
      case past =>
        rintro began ⟨⟩
        change run.dwellStartedMs.getD step.elapsedMs ≤ step.elapsedMs
        cases set : run.dwellStartedMs with
        | none => exact le_refl _
        | some began => exact past began set
  | transferred phase here full =>
      constructor
      case passed =>
        rw [checkpoints_snoc, kept.passed, phase]
        rfl
      case intake =>
        rw [exists_at_snoc, kept.intake, phase]
        exact ⟨fun _ => nofun, fun _ => Or.inl nofun⟩
      case held =>
        rintro station ⟨⟩
        refine held_away ?_
        intro there
        exact absurd (here.symm.trans there) (by decide)
      case past => nofun
  | delivered phase here full =>
      constructor
      case passed =>
        rw [checkpoints_snoc, kept.passed, phase]
        rfl
      case intake =>
        rw [exists_at_snoc, kept.intake, phase]
        exact ⟨fun _ => nofun, fun _ => Or.inl nofun⟩
      case held => nofun
      case past => nofun

/-- The checkpoint that ends a phase. -/
def Phase.checkpoint : Phase → Option Checkpoint
  | retrieve => some .retrieved
  | transfer => some .transferred
  | delivery => some .delivered
  | completed => none

theorem Phase.checkpoint_inj {first second : Phase} {checkpoint : Checkpoint}
    (one : first.checkpoint = some checkpoint) (other : second.checkpoint = some checkpoint) :
    first = second := by
  cases first <;> cases second <;> cases one <;> cases other <;> rfl

/-- A held station gives its checkpoint in its phase, at the end of a full hold. -/
theorem dwelt_iff {phase : Phase} {station : Position} {checkpoint : Checkpoint}
    (advanced : Advanced run step update) (held : phase ≠ .retrieve)
    (seeks : phase.station = some station) (named : phase.checkpoint = some checkpoint) :
    update.checkpoint = some checkpoint ↔ run.phase = phase ∧ (run.placed step).position = station ∧
      dwellMs ≤ step.elapsedMs - run.dwellStartedMs.getD step.elapsedMs := by
  cases advanced with
  | away off =>
      constructor
      · nofun
      · rintro ⟨rfl, here, -⟩
        exact absurd ((congrArg some here).trans seeks.symm) off
  | retrieved first here =>
      constructor
      · rintro ⟨⟩
        exact absurd (Phase.checkpoint_inj named rfl) held
      · rintro ⟨rfl, -⟩
        exact absurd first held
  | holding other onward sought here short =>
      constructor
      · nofun
      · rintro ⟨-, -, full⟩
        exact absurd full short
  | transferred moving here full =>
      constructor
      · rintro ⟨⟩
        cases Phase.checkpoint_inj named (rfl : Phase.transfer.checkpoint = some .transferred)
        cases seeks
        exact ⟨moving, here, full⟩
      · rintro ⟨same, -⟩
        cases moving.symm.trans same
        cases named
        rfl
  | delivered last here full =>
      constructor
      · rintro ⟨⟩
        cases Phase.checkpoint_inj named (rfl : Phase.delivery.checkpoint = some .delivered)
        cases seeks
        exact ⟨last, here, full⟩
      · rintro ⟨same, -⟩
        cases last.symm.trans same
        cases named
        rfl

/-- The intake gives its checkpoint at once, in the first phase. -/
theorem retrieved_iff (advanced : Advanced run step update) :
    update.checkpoint = some .retrieved ↔
      (run.placed step).position = intake ∧ run.phase = .retrieve := by
  cases advanced with
  | away off =>
      constructor
      · nofun
      · rintro ⟨here, phase⟩
        rw [phase] at off
        exact absurd (congrArg some here) off
  | retrieved phase here => exact ⟨fun _ => ⟨here, phase⟩, fun _ => rfl⟩
  | holding other onward sought here short => exact ⟨nofun, fun first => absurd first.2 onward⟩
  | transferred moving => exact ⟨nofun, fun first => nomatch moving.symm.trans first.2⟩
  | delivered last => exact ⟨nofun, fun first => nomatch last.symm.trans first.2⟩

/-- An accepted step is lawful after its history. -/
theorem lawful_of_kept (kept : Kept history run) (accepted : run.call step = .ok update) :
    Lawful history { before := run, input := step, answer := update } := by
  have advanced := RecoveryRun.call_advanced accepted
  obtain ⟨playing, later, allowed, -⟩ := RecoveryRun.call_iff.mp accepted
  have past : ∀ began, run.dwellStartedMs = some began →
      began ≤ time ⟨run, step, update⟩ := fun began set => (kept.past began set).trans later
  have phases (phase : Phase) : checkpoints history = phase.passed ↔ run.phase = phase := by
    rw [kept.passed]
    exact ⟨Phase.passed_inj, congrArg Phase.passed⟩
  have dwelt (phase : Phase) {station : Position} {checkpoint : Checkpoint}
      (held : phase ≠ .retrieve) (seeks : phase.station = some station)
      (named : phase.checkpoint = some checkpoint) : update.checkpoint = some checkpoint ↔
        checkpoints history = phase.passed ∧
          Lasted (At station) time dwellMs history ⟨run, step, update⟩ := by
    rw [dwelt_iff advanced held seeks named, phases]
    refine and_congr_right ?_
    rintro rfl
    have timed := kept.held station seeks
    constructor
    · rintro ⟨here, full⟩
      exact (timed.lasted_iff past ((advanced_position advanced).trans here)).mpr full
    · intro lasted
      have here : At station ⟨run, step, update⟩ := lasted.here
      exact ⟨(advanced_position advanced).symm.trans here, (timed.lasted_iff past here).mp lasted⟩
  constructor
  case later => exact later
  case moved =>
    intro position same
    rw [same] at allowed
    simp only [RecoveryRun.refuses, Bool.not_eq_false', RecoveryRun.allowsMove, Bool.and_eq_true,
      decide_eq_true_eq] at allowed
    exact ⟨allowed.1, allowed.2, (advanced_position advanced).trans (placed_position same)⟩
  case stayed =>
    intro same
    exact (advanced_position advanced).trans (placed_observe same)
  case retrieved =>
    rw [retrieved_iff advanced]
    change _ ↔ update.run.position = intake ∧ _
    rw [advanced_position advanced]
    refine and_congr_right (fun _ => ?_)
    rw [← not_iff_not, ← Ne, ← kept.intake]
    simp only [not_forall, not_not, exists_prop]
  case transferred => exact dwelt .transfer nofun rfl rfl
  case delivered => exact dwelt .delivery nofun rfl rfl
  case playing =>
    rw [kept.passed]
    cases phase : run.phase with
    | retrieve | transfer | delivery => decide
    | completed => exact absurd phase playing
  case fits =>
    change run.dwellStartedMs.getD step.elapsedMs ≤ step.elapsedMs
    cases set : run.dwellStartedMs with
    | none => exact le_refl _
    | some began => exact past began set

theorem kept_history (steps : List Step) :
    Kept (RecoveryRun.history steps) (RecoveryRun.final steps) ∧
      ∀ front turn back, RecoveryRun.history steps = front ++ turn :: back → Lawful front turn := by
  refine turns_keep Kept Lawful kept_start steps ?_
  intro history step _ run update kept accepted
  refine ⟨?_, lawful_of_kept kept accepted⟩
  exact kept_snoc kept (RecoveryRun.call_iff.mp accepted).2.1 (RecoveryRun.call_advanced accepted)

end Steps

/-! ## Silent observations -/

/-- An observation without a checkpoint. -/
def Silent (turn : RecoveryTurn) : Prop :=
  turn.input.action = .observe ∧ turn.answer.checkpoint = none

/-- Some silent observations are left out. -/
inductive Thinned : List RecoveryTurn → List RecoveryTurn → Prop
  | nil : Thinned [] []
  | keep (turn : RecoveryTurn) {history thin : List RecoveryTurn} (rest : Thinned history thin) :
      Thinned (turn :: history) (turn :: thin)
  | drop {turn : RecoveryTurn} (silent : Silent turn) {history thin : List RecoveryTurn}
      (rest : Thinned history thin) : Thinned (turn :: history) thin

/-- Calls with their answers. -/
def answers (history : List RecoveryTurn) : List (Step × Update) :=
  history.map (fun turn => (turn.input, turn.answer))

/-- The timer of a run runs exactly at its station, and the intake is not held. -/
def Settled (run : RecoveryRun) : Prop :=
  ∀ station, run.phase.station = some station →
    (run.position = station → run.phase ≠ .retrieve ∧ run.dwellStartedMs.isSome = true) ∧
    (run.position ≠ station → run.dwellStartedMs = none)

section Silence

variable {run : RecoveryRun} {step : Step} {update : Update}

theorem station_of_playing {phase : Phase} (playing : phase ≠ .completed) :
    ∃ station, phase.station = some station := by
  cases phase with
  | retrieve => exact ⟨intake, rfl⟩
  | transfer => exact ⟨transfer, rfl⟩
  | delivery => exact ⟨delivery, rfl⟩
  | completed => exact absurd rfl playing

theorem settled_start : Settled RecoveryRun.default := by
  rintro station ⟨⟩
  exact ⟨fun here => absurd here (by decide), fun _ => rfl⟩

theorem settled_call (settled : Settled run) (accepted : run.call step = .ok update) :
    Settled update.run := by
  cases RecoveryRun.call_advanced accepted with
  | away off =>
      intro station seeks
      rw [RecoveryRun.placed_phase] at seeks
      rw [seeks] at off
      exact ⟨fun here => absurd (congrArg some here) off, fun _ => rfl⟩
  | retrieved phase here =>
      rintro station ⟨⟩
      obtain ⟨arrived, away⟩ := settled intake (by rw [phase]; rfl)
      refine ⟨fun there => absurd (here.symm.trans there) (by decide), fun _ => ?_⟩
      change (run.placed step).dwellStartedMs = none
      rw [RecoveryRun.placed_dwell]
      exact away (fun early => (arrived early).1 phase)
  | holding station phase seeks here short =>
      intro other same
      rw [RecoveryRun.placed_phase, seeks] at same
      cases same
      refine ⟨fun _ => ⟨?_, rfl⟩, fun away => absurd here away⟩
      rw [RecoveryRun.placed_phase]
      exact phase
  | transferred phase here full =>
      rintro station ⟨⟩
      exact ⟨fun there => absurd (here.symm.trans there) (by decide), fun _ => rfl⟩
  | delivered phase here full => nofun

/-- A silent observation only sets the clock. -/
theorem silent_run (settled : Settled run) (accepted : run.call step = .ok update)
    (observes : step.action = .observe) (nothing : update.checkpoint = none) :
    update.run = { run with lastElapsedMs := step.elapsedMs } := by
  have placed : run.placed step = { run with lastElapsedMs := step.elapsedMs } := by
    rw [RecoveryRun.placed, observes]
    rfl
  have playing := (RecoveryRun.call_iff.mp accepted).1
  cases RecoveryRun.call_advanced accepted with
  | retrieved | transferred | delivered => cases nothing
  | away off =>
      have idle : run.dwellStartedMs = none := by
        obtain ⟨station, seeks⟩ := station_of_playing playing
        refine (settled station seeks).2 ?_
        intro here
        rw [seeks, placed] at off
        exact off (congrArg some here)
      rw [placed]
      exact congrArg (RecoveryRun.mk run.position run.phase step.elapsedMs) idle.symm
  | holding station phase seeks here short =>
      rw [placed] at here ⊢
      obtain ⟨began, set⟩ := Option.isSome_iff_exists.mp ((settled station seeks).1 here).2
      refine congrArg (RecoveryRun.mk run.position run.phase step.elapsedMs) ?_
      rw [set]
      rfl

/-- An earlier clock makes no difference to a call that is late enough. -/
theorem call_earlier {earlier : Nat} (before : earlier ≤ run.lastElapsedMs)
    (later : run.lastElapsedMs ≤ step.elapsedMs) :
    RecoveryRun.call { run with lastElapsedMs := earlier } step = run.call step := by
  have early : rejectIf (step.elapsedMs < earlier) Error.clockReversed = .ok () :=
    rejectIf_eq_ok.mpr (by omega)
  have late : rejectIf (step.elapsedMs < run.lastElapsedMs) Error.clockReversed = .ok () :=
    rejectIf_eq_ok.mpr (by omega)
  unfold RecoveryRun.call RecoveryRun.apply
  simp only [early, late]
  cases step.action <;> rfl

/-- A history without some of its silent observations gives the same answers,
and the run that is left differs at most in its clock. -/
theorem thinned_answers {history thin : List RecoveryTurn} (thinned : Thinned history thin)
    (settled : Settled run) (plays : Plays RecoveryRun.call Update.run run history) {earlier : Nat}
    (before : earlier ≤ run.lastElapsedMs) :
    answers (turns RecoveryRun.call Update.run (thin.map Turn.input)
      { run with lastElapsedMs := earlier }) = answers thin := by
  induction thinned generalizing run earlier with
  | nil => rfl
  | @keep turn history thin rest inductionHypothesis =>
      obtain ⟨rfl, accepted, plays⟩ := plays
      have later := (RecoveryRun.call_iff.mp accepted).2.1
      rw [List.map_cons, turns_cons_of_ok _ ((call_earlier before later).trans accepted)]
      have follows := inductionHypothesis (settled_call settled accepted) plays (le_refl _)
      exact congrArg ((turn.input, turn.answer) :: ·) follows
  | @drop turn silent history thin rest inductionHypothesis =>
      obtain ⟨rfl, accepted, plays⟩ := plays
      have later := (RecoveryRun.call_iff.mp accepted).2.1
      have unchanged := silent_run settled accepted silent.1 silent.2
      have still := settled_call settled accepted
      rw [unchanged] at plays still
      exact inductionHypothesis still plays (before.trans later)

end Silence

/-- Any calls at any times give the three checkpoints in their order, each by the
rule of its station, through single steps on the circuit; nothing is accepted
after the delivery, and no start of a hold is behind the clock.  Leaving out any
silent observations changes no answer of the steps that stay. -/
theorem recovery_law (steps : List Step) :
    let history := RecoveryRun.history steps
    checkpoints history <+: [.retrieved, .transferred, .delivered] ∧
      (∀ front turn back, history = front ++ turn :: back → Lawful front turn) ∧
      (∀ front turn back, history = front ++ turn :: back →
        turn.answer.checkpoint = some .delivered → back = []) ∧
      ∀ thin, Thinned history thin →
        answers (RecoveryRun.history (thin.map Turn.input)) = answers thin := by
  intro history
  obtain ⟨kept, lawful⟩ := kept_history steps
  refine ⟨?_, lawful, ?_, ?_⟩
  · rw [kept.passed]
    cases (RecoveryRun.final steps).phase <;> decide
  · intro front turn back split last
    cases back with
    | nil => rfl
    | cons next back =>
        have playing := (lawful (front ++ [turn]) next back
          (split.trans (List.append_cons _ _ _))).playing
        rw [checkpoints_snoc, last] at playing
        exact absurd (List.mem_append_right _ List.mem_cons_self) playing
  · intro thin thinned
    exact thinned_answers thinned settled_start (turns_play steps RecoveryRun.default) (le_refl _)

end Recovery
end Challenges
end Revenant
