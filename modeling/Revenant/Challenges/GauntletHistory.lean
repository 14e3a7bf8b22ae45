import Revenant.Challenges.Gauntlet
import Revenant.Library.Call
import Revenant.Library.Splits

namespace Revenant
namespace Challenges
namespace Gauntlet

open Library

/-!
# What a whole gauntlet run may do

Encounters are finished and the recovery is observed in any order and at any
time.  A refused call leaves the run alone; an accepted one is a `Turn`, and the
history of a run is the list of its turns.  `Kept` ties the two holds of a run
to the turns they began at, and the phase to the stages fought so far.
-/

inductive Command where
  | finishEncounter (elapsedMs : Nat) (stage : Stage) (health : Nat)
  | observeAt (elapsedMs : Nat) (position : Position)
  | observeTransfer (elapsedMs : Nat) (atExit : Bool)
  | observeReserve (elapsedMs : Nat) (atReserve : Bool)
  deriving DecidableEq, Repr

namespace Command

def elapsedMs : Command → Nat
  | finishEncounter elapsedMs _ _ => elapsedMs
  | observeAt elapsedMs _ => elapsedMs
  | observeTransfer elapsedMs _ => elapsedMs
  | observeReserve elapsedMs _ => elapsedMs

/-- The stage that is proved finished, with the health that is left. -/
def finishes : Command → Option (Stage × Nat)
  | finishEncounter _ stage health => some (stage, health)
  | _ => none

/-- An observation at the exit of a stage. -/
def AtExit (stage : Stage) : Command → Prop
  | observeAt _ position => position = stage.entrance
  | observeTransfer _ atExit => atExit = true
  | _ => False

/-- An observation on the reserve pad of a stage. -/
def AtReserve (stage : Stage) : Command → Prop
  | observeAt _ position => stage.reservePosition = some position
  | observeReserve _ atReserve => atReserve = true
  | _ => False

end Command

/-- An accepted call: the run before it, and what it answers. -/
structure Turn where
  before : GauntletRun
  command : Command
  update : TransferUpdate
  deriving DecidableEq, Repr

namespace GauntletRun

/-- One call.  Only observations recover health or open a stage. -/
def perform (run : GauntletRun) : Command → Except Error TransferUpdate
  | .finishEncounter elapsedMs stage health => do
      let next ← run.finishEncounter elapsedMs stage health
      return { run := next, recoveredHealth := 0, nextStage := none }
  | .observeAt elapsedMs position => run.observeAt elapsedMs position
  | .observeTransfer elapsedMs atExit => run.observeTransfer elapsedMs atExit
  | .observeReserve elapsedMs atReserve => run.observeReserve elapsedMs atReserve

/-- The call on a run in place; a refused one writes nothing. -/
def act (command : Command) : Call GauntletRun Error Turn :=
  Call.commit (fun run => do
    let update ← run.perform command
    return ({ before := run, command, update }, update.run))

end GauntletRun

/-! ## Histories -/

/-- The accepted calls of a run. -/
def turns (commands : List Command) (start : GauntletRun) : List Turn :=
  Call.accepted (Call.log GauntletRun.act commands start)

/-- The stages whose encounters were finished. -/
def fought (history : List Turn) : List Stage :=
  history.filterMap (fun turn => turn.command.finishes.map Prod.fst)

/-- The stages that were finished with positive health. -/
def cleared (history : List Turn) : List Stage :=
  history.filterMap (fun turn => (turn.command.finishes.filter (fun done => 0 < done.2)).map Prod.fst)

/-- The stages that transfers opened. -/
def entered (history : List Turn) : List Stage :=
  history.filterMap (fun turn => turn.update.nextStage)

/-- The turns that recovered health. -/
def recoveries (history : List Turn) : Nat :=
  history.countP (fun turn => 0 < turn.update.recoveredHealth)

/-- The transfer after a stage has been observed from a place without a break. -/
def Waited (place : Stage → Command → Prop) (stage : Stage) (turn : Turn) : Prop :=
  turn.before.phase = .transfer stage ∧ place stage turn.command

/-- A hold that fills its time at this turn: every accepted observation since
`first` was from the place, and so is this one. -/
def HeldUntil (place : Stage → Command → Prop) (stage : Stage) (history : List Turn) (turn : Turn) :
    Prop :=
  ∃ first, Lately (Waited place stage) history first ∧ Waited place stage turn ∧
    first.command.elapsedMs + transferHoldMs ≤ turn.command.elapsedMs

/-- What the transfer restores. -/
def GauntletRun.missing (run : GauntletRun) : Nat := run.maxHealth - run.health

/-- What an accepted call may do after a history. -/
structure Turn.Lawful (history : List Turn) (turn : Turn) : Prop where
  later : turn.before.lastElapsedMs ≤ turn.command.elapsedMs
  -- a fight begins with a transfer, and with nothing else
  opens : ∀ next, turn.update.run.phase = .combat next ↔ turn.update.nextStage = some next
  transfer : ∀ next, turn.update.nextStage = some next → ∃ stage,
    turn.before.nextStage stage = some next ∧ HeldUntil Command.AtExit stage history turn
  heal : turn.update.nextStage.isSome = true → turn.before.single = false →
    turn.update.recoveredHealth = min transferHealth turn.before.missing
  reserve : 0 < turn.update.recoveredHealth → turn.before.single = true →
    turn.update.nextStage = none ∧ turn.before.reserveUsed = false ∧
      turn.update.recoveredHealth = min transferHealth turn.before.missing ∧
      ∃ stage, HeldUntil Command.AtReserve stage history turn
  other : turn.update.nextStage = none → turn.before.single = false →
    turn.update.recoveredHealth = 0
  health : turn.update.run.health =
    (turn.command.finishes.map Prod.snd).getD turn.before.health + turn.update.recoveredHealth
  fight : ∀ stage health, turn.command.finishes = some (stage, health) →
    turn.before.phase = .combat stage ∧ health ≤ turn.before.health

/-- The two holds exclude each other, belong to a transfer and began in the past. -/
structure GauntletRun.Timed (run : GauntletRun) : Prop where
  exclusive : run.transferStartedMs = none ∨ run.reserveStartedMs = none
  transfer : ∀ began, run.transferStartedMs = some began ∨ run.reserveStartedMs = some began →
    (∃ stage, run.phase = .transfer stage) ∧ began ≤ run.lastElapsedMs

/-! ## What one accepted call does -/

/-- The forms of an accepted call. -/
inductive Performed (run : GauntletRun) (command : Command) : TransferUpdate → Prop
  | finished (next : GauntletRun) (stage : Stage) (health : Nat)
      (proved : command.finishes = some (stage, health))
      (done : run.Finished command.elapsedMs stage health next) : Performed run command ⟨next, 0, none⟩
  | left (stage next : Stage) (began recovered : Nat) (phase : run.phase = .transfer stage)
      (follows : run.nextStage stage = some next) (there : command.AtExit stage)
      (held : run.transferStartedMs = some began)
      (full : transferHoldMs ≤ command.elapsedMs - began)
      (restored : recovered = if run.single = true then 0 else min transferHealth run.missing) :
      Performed run command ⟨{ run with
        lastElapsedMs := command.elapsedMs, health := run.health + recovered, phase := .combat next
        transferStartedMs := none, reserveStartedMs := none }, recovered, some next⟩
  | leaving (stage : Stage) (phase : run.phase = .transfer stage) (there : command.AtExit stage) :
      Performed run command ⟨{ run with
        lastElapsedMs := command.elapsedMs, reserveStartedMs := none
        transferStartedMs := some (run.transferStartedMs.getD command.elapsedMs) }, 0, none⟩
  | restored (stage : Stage) (began : Nat) (phase : run.phase = .transfer stage)
      (there : command.AtReserve stage) (single : run.single = true)
      (unused : run.reserveUsed = false) (wounded : run.health < run.maxHealth)
      (held : run.reserveStartedMs = some began)
      (full : transferHoldMs ≤ command.elapsedMs - began) :
      Performed run command ⟨{ run with
        lastElapsedMs := command.elapsedMs, transferStartedMs := none
        health := run.health + min transferHealth run.missing, reserveUsed := true
        reserveStartedMs := none }, min transferHealth run.missing, none⟩
  | restoring (stage : Stage) (phase : run.phase = .transfer stage)
      (there : command.AtReserve stage) :
      Performed run command ⟨{ run with
        lastElapsedMs := command.elapsedMs, transferStartedMs := none
        reserveStartedMs := some (run.reserveStartedMs.getD command.elapsedMs) }, 0, none⟩
  | strayed (stage : Stage) (phase : run.phase = .transfer stage)
      (observes : command.finishes = none) :
      Performed run command ⟨{ run with
        lastElapsedMs := command.elapsedMs, transferStartedMs := none
        reserveStartedMs := none }, 0, none⟩

/-- A full hold began before this observation. -/
theorem began_of_full {started : Option Nat} {elapsedMs : Nat}
    (full : transferHoldMs ≤ elapsedMs - started.getD elapsedMs) :
    started = some (started.getD elapsedMs) := by
  cases started with
  | none =>
      rw [Option.getD_none, Nat.sub_self] at full
      exact absurd full (by decide)
  | some began => rfl

namespace GauntletRun

variable {run : GauntletRun} {command : Command} {update : TransferUpdate}

theorem observeTransfer_performed {atExit : Bool} (observes : command.finishes = none)
    (there : ∀ stage, run.phase = .transfer stage → atExit = true → command.AtExit stage)
    (observed : run.observeTransfer command.elapsedMs atExit = .ok update) :
    run.lastElapsedMs ≤ command.elapsedMs ∧ Performed run command update := by
  unfold observeTransfer at observed
  rw [guard_bind_eq_ok, rejectIf_eq_ok, not_lt] at observed
  obtain ⟨later, observed⟩ := observed
  refine ⟨later, ?_⟩
  split at observed
  · next stage phase =>
    simp only [bind_eq_ok, require_eq_ok] at observed
    obtain ⟨next, follows, observed⟩ := observed
    split at observed
    · next here =>
      split at observed
      · next full =>
        cases observed
        exact .left stage next _ _ phase follows (there stage phase here) (began_of_full full) full rfl
      · cases observed
        exact .leaving stage phase (there stage phase here)
    · cases observed
      exact .strayed stage phase observes
  · cases observed

theorem observeReserve_performed {atReserve : Bool} (observes : command.finishes = none)
    (there : ∀ stage, run.phase = .transfer stage → atReserve = true → command.AtReserve stage)
    (observed : run.observeReserve command.elapsedMs atReserve = .ok update) :
    run.lastElapsedMs ≤ command.elapsedMs ∧ Performed run command update := by
  unfold observeReserve at observed
  rw [guard_bind_eq_ok, rejectIf_eq_ok, not_lt] at observed
  obtain ⟨later, observed⟩ := observed
  refine ⟨later, ?_⟩
  split at observed
  · next stage phase =>
    simp only [guard_bind_eq_ok, rejectIf_eq_ok, Bool.not_eq_false] at observed
    obtain ⟨single, observed⟩ := observed
    split at observed
    · next here =>
      split at observed
      · next full =>
        cases observed
        exact .restored stage _ phase (there stage phase here.1) single here.2.1 here.2.2
          (began_of_full full) full
      · cases observed
        exact .restoring stage phase (there stage phase here.1)
    · cases observed
      exact .strayed stage phase observes
  · cases observed

/-- Every accepted call has one of the forms, at a time not before the last. -/
theorem perform_performed (performed : run.perform command = .ok update) :
    run.lastElapsedMs ≤ command.elapsedMs ∧ Performed run command update := by
  cases command with
  | finishEncounter elapsedMs stage health =>
      simp only [perform, bind_eq_ok, pure_eq_ok] at performed
      obtain ⟨next, finished, rfl⟩ := performed
      have done := finishEncounter_spec finished
      exact ⟨done.later, .finished next stage health rfl done⟩
  | observeTransfer elapsedMs atExit =>
      exact observeTransfer_performed rfl (fun stage phase here => here) performed
  | observeReserve elapsedMs atReserve =>
      exact observeReserve_performed rfl (fun stage phase here => here) performed
  | observeAt elapsedMs position =>
      rw [perform, observeAt] at performed
      split at performed
      · next stage phase =>
        split at performed
        · next here =>
          refine observeReserve_performed rfl ?_ performed
          intro other same _
          cases phase.symm.trans same
          exact here.2
        · refine observeTransfer_performed rfl ?_ performed
          intro other same here
          cases phase.symm.trans same
          have place : position = stage.entrance := of_decide_eq_true here
          exact place
      · cases performed

end GauntletRun

/-! ## What a history keeps -/

theorem fought_snoc (history : List Turn) (turn : Turn) :
    fought (history ++ [turn]) = fought history ++ (turn.command.finishes.map Prod.fst).toList :=
  filterMap_snoc _ _ _

theorem cleared_snoc (history : List Turn) (turn : Turn) :
    cleared (history ++ [turn]) = cleared history ++
      ((turn.command.finishes.filter (fun done => 0 < done.2)).map Prod.fst).toList :=
  filterMap_snoc _ _ _

theorem entered_snoc (history : List Turn) (turn : Turn) :
    entered (history ++ [turn]) = entered history ++ turn.update.nextStage.toList :=
  filterMap_snoc _ _ _

theorem recoveries_snoc (history : List Turn) (turn : Turn) :
    recoveries (history ++ [turn]) =
      recoveries history + if 0 < turn.update.recoveredHealth then 1 else 0 := by
  simp only [recoveries, List.countP_append, List.countP_singleton, decide_eq_true_eq]

/-- Where a run stands in the order of its stages. -/
inductive Standing (order entered fought cleared : List Stage) : Phase → Prop
  | combat (stage : Stage) (begins : entered = fought ++ [stage]) (alive : cleared = fought) :
      Standing order entered fought cleared (.combat stage)
  | transfer (front : List Stage) (stage : Stage) (done : fought = front ++ [stage])
      (begins : entered = fought) (alive : cleared = fought)
      (unfinished : (successor order stage).isSome = true) :
      Standing order entered fought cleared (.transfer stage)
  | completed (done : fought = order) (begins : entered = fought) (alive : cleared = fought) :
      Standing order entered fought cleared .completed
  | defeated (stage : Stage) (done : fought = cleared ++ [stage]) (begins : entered = fought) :
      Standing order entered fought cleared .defeated

/-- A hold of the run began at a turn since which the player was observed at the
place in every turn. -/
def Holds (place : Stage → Command → Prop) (history : List Turn) (run : GauntletRun)
    (started : Option Nat) : Prop :=
  ∀ began, started = some began → began ≤ run.lastElapsedMs ∧ ∃ stage first,
    run.phase = .transfer stage ∧ first.command.elapsedMs = began ∧
      Lately (Waited place stage) history first

/-- What ties a run to its history. -/
structure Kept (chosen : Preset) (history : List Turn) (run : GauntletRun) : Prop where
  preset : run.preset = chosen
  healthy : run.health ≤ run.maxHealth
  exclusive : run.transferStartedMs = none ∨ run.reserveStartedMs = none
  leaving : Holds Command.AtExit history run run.transferStartedMs
  resting : Holds Command.AtReserve history run run.reserveStartedMs
  order : chosen.firstStage :: entered history <+: chosen.gauntletStages
  standing : Standing chosen.gauntletStages (chosen.firstStage :: entered history) (fought history)
    (cleared history) run.phase
  spent : run.single = true → recoveries history = run.reserveUsed.toNat

theorem Command.AtExit.observes {command : Command} {stage : Stage}
    (there : command.AtExit stage) : command.finishes = none := by
  cases command with
  | finishEncounter elapsedMs finished health => exact there.elim
  | observeAt elapsedMs position => rfl
  | observeTransfer elapsedMs atExit => rfl
  | observeReserve elapsedMs atReserve => rfl

theorem Command.AtReserve.observes {command : Command} {stage : Stage}
    (there : command.AtReserve stage) : command.finishes = none := by
  cases command with
  | finishEncounter elapsedMs finished health => exact there.elim
  | observeAt elapsedMs position => rfl
  | observeTransfer elapsedMs atExit => rfl
  | observeReserve elapsedMs atReserve => rfl

theorem gauntletStages_nodup (preset : Preset) : preset.gauntletStages.Nodup := by
  unfold Preset.gauntletStages
  split <;> decide

section Steps

variable {chosen : Preset} {history : List Turn} {run : GauntletRun} {command : Command}
variable {update : TransferUpdate}

variable {place : Stage → Command → Prop}

theorem Holds.idle : Holds place history run none := nofun

variable {stage : Stage} {next : GauntletRun}

/-- One more observation at the place carries a hold on, or begins it. -/
theorem Holds.snoc {started : Option Nat} (holds : Holds place history run started)
    (phase : run.phase = .transfer stage) (there : place stage command)
    (later : run.lastElapsedMs ≤ command.elapsedMs) (stays : next.phase = .transfer stage)
    (clock : next.lastElapsedMs = command.elapsedMs) :
    Holds place (history ++ [⟨run, command, update⟩]) next
      (some (started.getD command.elapsedMs)) := by
  intro began held
  cases held
  rw [clock]
  have waited : Waited place stage ⟨run, command, update⟩ := ⟨phase, there⟩
  cases started with
  | none => exact ⟨le_refl _, stage, _, stays, rfl, lately_last waited⟩
  | some began =>
      obtain ⟨past, other, first, same, time, lately⟩ := holds began rfl
      cases phase.symm.trans same
      exact ⟨past.trans later, stage, first, stays, time, lately.snoc waited⟩

/-- A hold that has filled its time. -/
theorem Holds.full {started : Option Nat} {began : Nat} (holds : Holds place history run started)
    (held : started = some began) (phase : run.phase = .transfer stage)
    (there : place stage command) (full : transferHoldMs ≤ command.elapsedMs - began)
    (later : run.lastElapsedMs ≤ command.elapsedMs) :
    HeldUntil place stage history ⟨run, command, update⟩ := by
  obtain ⟨past, other, first, same, time, lately⟩ := holds began held
  cases phase.symm.trans same
  refine ⟨first, lately, ⟨phase, there⟩, ?_⟩
  change first.command.elapsedMs + transferHoldMs ≤ command.elapsedMs
  omega

/-- No hold is under way during a fight. -/
theorem Kept.idle (kept : Kept chosen history run) (fighting : run.phase = .combat stage) :
    run.transferStartedMs = none ∧ run.reserveStartedMs = none := by
  constructor
  · rw [Option.eq_none_iff_forall_ne_some]
    intro began held
    obtain ⟨-, other, -, same, -⟩ := kept.leaving began held
    cases fighting.symm.trans same
  · rw [Option.eq_none_iff_forall_ne_some]
    intro began held
    obtain ⟨-, other, -, same, -⟩ := kept.resting began held
    cases fighting.symm.trans same

theorem Kept.nextStage_eq (kept : Kept chosen history run) (stage : Stage) :
    run.nextStage stage = successor chosen.gauntletStages stage := by
  rw [← kept.preset]
  rfl

/-- An observation that leaves the phase keeps the place in the order. -/
theorem Kept.stands (kept : Kept chosen history run) {turn : Turn} {phase : Phase}
    (observes : turn.command.finishes = none) (closed : turn.update.nextStage = none)
    (same : phase = run.phase) :
    chosen.firstStage :: entered (history ++ [turn]) <+: chosen.gauntletStages ∧
      Standing chosen.gauntletStages (chosen.firstStage :: entered (history ++ [turn]))
        (fought (history ++ [turn])) (cleared (history ++ [turn])) phase := by
  rw [fought_snoc, cleared_snoc, entered_snoc, observes, closed, same]
  simp only [Option.map_none, Option.filter_none, Option.toList_none, List.append_nil]
  exact ⟨kept.order, kept.standing⟩

/-- The phase a finished encounter leaves, from the place of its stage in the order. -/
theorem Kept.ends (kept : Kept chosen history run) {health : Nat} {elapsedMs : Nat}
    (begins : chosen.firstStage :: entered history = fought history ++ [stage])
    (alive : cleared history = fought history) (done : run.Finished elapsedMs stage health next) :
    Standing chosen.gauntletStages (chosen.firstStage :: (entered history ++ none.toList))
      (fought history ++ (some stage).toList)
      (cleared history ++
        (((some (stage, health)).filter (fun done => 0 < done.2)).map Prod.fst).toList)
      next.phase := by
  have order := kept.order
  rw [begins] at order
  have follows := @GauntletRun.nextStage_isSome run stage
  rw [kept.nextStage_eq] at follows
  simp only [Option.toList_none, List.append_nil, Option.toList_some]
  rw [done.phase]
  split
  · next dead =>
    subst dead
    refine .defeated stage ?_ begins
    rw [alive, Option.filter_some, if_neg (by simp), Option.map_none, Option.toList_none,
      List.append_nil]
  · next living =>
    rw [Option.filter_some, if_pos (decide_eq_true (Nat.pos_of_ne_zero living)), alive]
    split
    · next last =>
      refine .completed ?_ begins rfl
      rcases successor_spec (gauntletStages_nodup chosen) order with ⟨-, ended⟩ | ⟨next, found, -⟩
      · exact ended
      · rw [found] at follows
        exact absurd last (follows.mp rfl)
    · next other => exact .transfer _ stage rfl begins rfl (follows.mpr other)

/-- A finished encounter ends the fight for the stage that was entered last. -/
theorem Kept.finishes (kept : Kept chosen history run) {health : Nat}
    (proved : command.finishes = some (stage, health))
    (done : run.Finished command.elapsedMs stage health next) :
    Kept chosen (history ++ [⟨run, command, ⟨next, 0, none⟩⟩]) next := by
  obtain ⟨leaving, resting⟩ := kept.idle done.fought
  have standing := kept.standing
  rw [done.fought] at standing
  cases standing with
  | combat _ begins alive =>
  have unspent : recoveries (history ++ [⟨run, command, ⟨next, 0, none⟩⟩]) = recoveries history := by
    rw [recoveries_snoc]
    rfl
  refine ⟨?_, ?_, ?_, ?_, ?_, ?_, ?_, ?_⟩
  · rw [done.run]
    exact kept.preset
  · rw [done.run]
    exact done.lost.trans kept.healthy
  · rw [done.run]
    exact Or.inl leaving
  · rw [done.run]
    change Holds _ _ _ run.transferStartedMs
    rw [leaving]
    exact Holds.idle
  · rw [done.run]
    change Holds _ _ _ run.reserveStartedMs
    rw [resting]
    exact Holds.idle
  · rw [entered_snoc]
    simp only [Option.toList_none, List.append_nil]
    exact kept.order
  · rw [fought_snoc, cleared_snoc, entered_snoc, proved]
    exact kept.ends begins alive done
  · rw [unspent, done.run]
    exact kept.spent

/-- A transfer enters the stage after the one that was cleared. -/
theorem Kept.enters (kept : Kept chosen history run) {next : Stage} {turn : Turn}
    (phase : run.phase = .transfer stage) (follows : run.nextStage stage = some next)
    (observes : turn.command.finishes = none) (opens : turn.update.nextStage = some next) :
    chosen.firstStage :: entered (history ++ [turn]) <+: chosen.gauntletStages ∧
      Standing chosen.gauntletStages (chosen.firstStage :: entered (history ++ [turn]))
        (fought (history ++ [turn])) (cleared (history ++ [turn])) (.combat next) := by
  rw [fought_snoc, cleared_snoc, entered_snoc, observes, opens]
  simp only [Option.map_none, Option.filter_none, Option.toList_none, Option.toList_some,
    List.append_nil]
  rw [← List.cons_append]
  have standing := kept.standing
  rw [phase] at standing
  cases standing with
  | transfer front _ done begins alive unfinished =>
  refine ⟨?_, .combat next (by rw [begins]) alive⟩
  have order := kept.order
  rw [begins, done] at order ⊢
  rcases successor_spec (gauntletStages_nodup chosen) order with ⟨ended, -⟩ | ⟨other, found, goes⟩
  · rw [ended] at unfinished
    exact absurd unfinished (by decide)
  · rw [kept.nextStage_eq, found] at follows
    cases follows
    rwa [List.append_assoc]

/-- Every accepted call keeps the run tied to its history. -/
theorem Kept.step (kept : Kept chosen history run) (performed : run.perform command = .ok update) :
    Kept chosen (history ++ [⟨run, command, update⟩]) update.run := by
  obtain ⟨later, performed⟩ := GauntletRun.perform_performed performed
  have healthy := kept.healthy
  cases performed with
  | finished next stage health proved done => exact kept.finishes proved done
  | left stage next began recovered phase follows there held full restored =>
      refine ⟨kept.preset, ?_, Or.inl rfl, Holds.idle, Holds.idle,
        (kept.enters phase follows there.observes rfl).1,
        (kept.enters phase follows there.observes rfl).2, ?_⟩
      · change run.health + recovered ≤ run.maxHealth
        rw [restored, GauntletRun.missing]
        split <;> omega
      · intro single
        have single : run.single = true := single
        rw [recoveries_snoc, kept.spent single, restored, if_pos single]
        rfl
  | leaving stage phase there =>
      refine ⟨kept.preset, healthy, Or.inr rfl, ?_, Holds.idle,
        (kept.stands there.observes rfl rfl).1, (kept.stands there.observes rfl rfl).2, ?_⟩
      · exact kept.leaving.snoc phase there later phase rfl
      · intro single
        rw [recoveries_snoc]
        exact kept.spent single
  | restored stage began phase there single unused wounded held full =>
      refine ⟨kept.preset, ?_, Or.inl rfl, Holds.idle, Holds.idle,
        (kept.stands there.observes rfl rfl).1, (kept.stands there.observes rfl rfl).2, ?_⟩
      · change run.health + min transferHealth run.missing ≤ run.maxHealth
        rw [GauntletRun.missing]
        omega
      · intro _
        rw [recoveries_snoc, kept.spent single, unused, if_pos]
        · rfl
        · change 0 < min transferHealth run.missing
          rw [GauntletRun.missing, transferHealth]
          omega
  | restoring stage phase there =>
      refine ⟨kept.preset, healthy, Or.inl rfl, Holds.idle, ?_,
        (kept.stands there.observes rfl rfl).1, (kept.stands there.observes rfl rfl).2, ?_⟩
      · exact kept.resting.snoc phase there later phase rfl
      · intro single
        rw [recoveries_snoc]
        exact kept.spent single
  | strayed stage phase observes =>
      refine ⟨kept.preset, healthy, Or.inl rfl, Holds.idle, Holds.idle,
        (kept.stands observes rfl rfl).1, (kept.stands observes rfl rfl).2, ?_⟩
      intro single
      rw [recoveries_snoc]
      exact kept.spent single

/-- An observation that only moves the clock and the holds. -/
theorem Turn.lawful_of_waits {turn : Turn} (observes : turn.command.finishes = none)
    (later : turn.before.lastElapsedMs ≤ turn.command.elapsedMs)
    (phase : turn.update.run.phase = .transfer stage)
    (health : turn.update.run.health = turn.before.health)
    (recovered : turn.update.recoveredHealth = 0) (closed : turn.update.nextStage = none) :
    turn.Lawful history := by
  refine ⟨later, ?_, ?_, ?_, ?_, fun _ _ => recovered, ?_, ?_⟩
  · intro other
    rw [phase, closed]
    exact ⟨nofun, nofun⟩
  · intro other opened
    cases closed.symm.trans opened
  · intro opened
    rw [closed] at opened
    cases opened
  · intro wounded
    rw [recovered] at wounded
    exact absurd wounded (lt_irrefl 0)
  · rw [observes, recovered, health]
    rfl
  · intro other left same
    cases observes.symm.trans same

/-- Every accepted call is lawful after the turns before it. -/
theorem Kept.lawful (kept : Kept chosen history run) (performed : run.perform command = .ok update) :
    Turn.Lawful history ⟨run, command, update⟩ := by
  obtain ⟨later, performed⟩ := GauntletRun.perform_performed performed
  cases performed with
  | finished next stage health proved done =>
      have phase := done.phase
      refine ⟨later, ?_, nofun, nofun, nofun, fun _ _ => rfl, ?_, ?_⟩
      · intro other
        constructor
        · intro fighting
          have fighting : next.phase = .combat other := fighting
          rw [phase] at fighting
          split at fighting
          · cases fighting
          · split at fighting
            · cases fighting
            · cases fighting
        · intro opened
          cases opened
      · change next.health = (command.finishes.map Prod.snd).getD run.health + 0
        rw [proved, done.run]
        rfl
      · intro other left same
        have same : command.finishes = some (other, left) := same
        rw [proved] at same
        cases same
        exact ⟨done.fought, done.lost⟩
  | left stage next began recovered phase follows there held full restored =>
      refine ⟨later, ?_, ?_, ?_, ?_, nofun, ?_, ?_⟩
      · intro other
        constructor
        · intro fighting
          cases fighting
          rfl
        · intro opened
          cases opened
          rfl
      · intro other opened
        cases opened
        exact ⟨stage, follows, kept.leaving.full held phase there full later⟩
      · intro _ many
        have many : run.single = false := many
        rw [many, if_neg Bool.false_ne_true] at restored
        exact restored
      · intro wounded single
        have single : run.single = true := single
        rw [single, if_pos rfl] at restored
        subst restored
        exact absurd wounded (lt_irrefl 0)
      · change run.health + recovered = (command.finishes.map Prod.snd).getD run.health + recovered
        rw [there.observes]
        rfl
      · intro other left same
        cases there.observes.symm.trans same
  | leaving stage phase there => exact Turn.lawful_of_waits there.observes later phase rfl rfl rfl
  | restored stage began phase there single unused wounded held full =>
      refine ⟨later, ?_, nofun, nofun, ?_, ?_, ?_, ?_⟩
      · intro other
        constructor
        · intro fighting
          cases phase.symm.trans fighting
        · intro opened
          cases opened
      · intro _ _
        exact ⟨rfl, unused, rfl, stage, kept.resting.full held phase there full later⟩
      · intro _ many
        cases single.symm.trans many
      · change _ = (command.finishes.map Prod.snd).getD run.health + _
        rw [there.observes]
        rfl
      · intro other left same
        cases there.observes.symm.trans same
  | restoring stage phase there => exact Turn.lawful_of_waits there.observes later phase rfl rfl rfl
  | strayed stage phase observes => exact Turn.lawful_of_waits observes later phase rfl rfl rfl

end Steps

theorem act_cases (command : Command) (run : GauntletRun) :
    (∃ error, GauntletRun.act command run = (.error error, run)) ∨
      ∃ update, run.perform command = .ok update ∧
        GauntletRun.act command run = (.ok ⟨run, command, update⟩, update.run) := by
  cases performed : run.perform command with
  | error error => exact Or.inl ⟨error, Call.commit_of_error (by rw [performed]; rfl)⟩
  | ok update => exact Or.inr ⟨update, rfl, Call.commit_of_ok (by rw [performed]; rfl)⟩

/-- After any calls the run is tied to its history, and every turn was lawful. -/
theorem kept_run {chosen : Preset} {start : GauntletRun} (begun : Kept chosen [] start)
    (commands : List Command) :
    Kept chosen (turns commands start) (Call.final GauntletRun.act commands start) ∧
      ∀ front turn back, turns commands start = front ++ turn :: back → turn.Lawful front := by
  refine Call.accepted_keeps (Kept chosen) (fun front turn => turn.Lawful front) begun commands ?_
  intro history command _ run kept
  rcases act_cases command run with refused | ⟨update, performed, accepted⟩
  · exact Or.inl refused
  · exact Or.inr ⟨_, _, accepted, kept.step performed, kept.lawful performed⟩

/-! ## The law of a run -/

section Laws

variable {chosen : Preset} {history : List Turn} {run start : GauntletRun}

theorem Kept.timed (kept : Kept chosen history run) : run.Timed := by
  refine ⟨kept.exclusive, ?_⟩
  rintro began (held | held)
  · obtain ⟨past, stage, -, phase, -⟩ := kept.leaving began held
    exact ⟨⟨stage, phase⟩, past⟩
  · obtain ⟨past, stage, -, phase, -⟩ := kept.resting began held
    exact ⟨⟨stage, phase⟩, past⟩

/-- The stages are fought in the order they are entered. -/
theorem Kept.fought_prefix (kept : Kept chosen history run) :
    fought history <+: chosen.firstStage :: entered history := by
  have standing := kept.standing
  generalize run.phase = phase at standing
  cases standing with
  | combat stage begins alive =>
      rw [begins]
      exact List.prefix_append _ _
  | transfer front stage done begins alive unfinished => exact begins ▸ List.prefix_rfl
  | completed done begins alive => exact begins ▸ List.prefix_rfl
  | defeated stage done begins => exact begins ▸ List.prefix_rfl

/-- The run is completed when the order is, and not before. -/
theorem Kept.completed_iff (kept : Kept chosen history run) :
    run.phase = .completed ↔ cleared history = chosen.gauntletStages := by
  have order := kept.order
  have standing := kept.standing
  constructor
  · intro completed
    rw [completed] at standing
    cases standing with
    | completed done begins alive => rw [alive, done]
  · intro all
    generalize run.phase = phase at standing ⊢
    cases standing with
    | combat stage begins alive =>
        -- one stage was entered after those that were cleared
        rw [begins, ← alive, all] at order
        have short := order.length_le
        rw [List.length_append, List.length_singleton] at short
        omega
    | transfer front stage done begins alive unfinished =>
        rw [begins, done] at order
        rw [alive, done] at all
        rcases successor_spec (gauntletStages_nodup chosen) order with ⟨ended, -⟩ | ⟨next, -, goes⟩
        · rw [ended] at unfinished
          cases unfinished
        · have short := goes.length_le
          rw [← all] at short
          simp at short
    | completed done begins alive => rfl
    | defeated stage done begins =>
        rw [begins, done, all] at order
        have short := order.length_le
        rw [List.length_append, List.length_singleton] at short
        omega

/-- A started run is tied to the empty history. -/
theorem kept_start {equipment : Equipment}
    (opened : GauntletRun.withPreset equipment chosen = .ok start) : Kept chosen [] start := by
  unfold GauntletRun.withPreset at opened
  simp only [bind_eq_ok, exists_unit, rejectIf_eq_ok, pure_eq_ok] at opened
  obtain ⟨-, -, profile, -, rfl⟩ := opened
  refine ⟨rfl, le_refl _, Or.inl rfl, Holds.idle, Holds.idle, ?_, ?_, fun _ => rfl⟩
  · unfold Preset.firstStage Preset.gauntletStages
    split <;> decide
  · exact .combat _ rfl rfl

/-- Any calls at any times keep the health in its bound, the two holds apart and
every subtraction within its range, follow the order of the stages, and recover
health only as the preset says; the run is completed exactly when every stage
was finished with health left. -/
theorem gauntlet_law {equipment : Equipment} {preset : Preset} {start : GauntletRun}
    (opened : GauntletRun.withPreset equipment preset = .ok start) (commands : List Command) :
    let run := Call.final GauntletRun.act commands start
    let history := turns commands start
    run.preset = preset ∧ run.health ≤ run.maxHealth ∧ run.Timed ∧
      (∀ elapsedMs, run.lastElapsedMs ≤ elapsedMs →
        run.transferStartedMs.getD elapsedMs ≤ elapsedMs ∧
          run.reserveStartedMs.getD elapsedMs ≤ elapsedMs) ∧
      preset.firstStage :: entered history <+: preset.gauntletStages ∧
      fought history <+: preset.firstStage :: entered history ∧ (fought history).Nodup ∧
      (∀ front turn back, history = front ++ turn :: back → turn.Lawful front) ∧
      (preset.has .singleReserve = true → recoveries history ≤ 1) ∧
      (run.phase = .completed ↔ cleared history = preset.gauntletStages) := by
  intro run history
  obtain ⟨kept, lawful⟩ := kept_run (kept_start opened) commands
  refine ⟨kept.preset, kept.healthy, kept.timed, ?_, kept.order, kept.fought_prefix, ?_, lawful, ?_,
    kept.completed_iff⟩
  · intro elapsedMs later
    constructor
    · cases held : run.transferStartedMs with
      | none => exact le_refl _
      | some began => exact (kept.leaving began held).1.trans later
    · cases held : run.reserveStartedMs with
      | none => exact le_refl _
      | some began => exact (kept.resting began held).1.trans later
  · exact (gauntletStages_nodup preset).sublist
      (kept.fought_prefix.sublist.trans kept.order.sublist)
  · intro single
    have spent := kept.spent (by rw [GauntletRun.single, kept.preset]; exact single)
    have few : run.reserveUsed.toNat ≤ 1 := Bool.toNat_le _
    exact spent.trans_le few

/-- A player with forty health left rests on the reserve, and then goes on. -/
def rested : List Command :=
  [.finishEncounter 9000 .support 40, .observeAt 9500 ⟨3, 0, 6⟩, .observeAt 10700 ⟨3, 0, 6⟩,
    .observeReserve 12000 true, .observeTransfer 12500 true, .observeTransfer 13700 true]

def lightEquipment : Equipment := ⟨1, CatalogRevision.m35v2.text, "pulse_rifle", []⟩

def reserveStart : GauntletRun where
  preset := .singleReserve
  phase := .combat .support
  health := 100
  maxHealth := 100
  lastElapsedMs := 0
  transferStartedMs := none
  reserveStartedMs := none
  reserveUsed := false

theorem gauntlet_law_rested :
    let run := Call.final GauntletRun.act rested reserveStart
    run.health = 64 ∧ run.phase = .combat .bastion ∧
      recoveries (turns rested reserveStart) ≤ 1 ∧
      cleared (turns rested reserveStart) ≠
        Preset.singleReserve.gauntletStages := by
  have opened : GauntletRun.withPreset lightEquipment .singleReserve = .ok reserveStart := by
    decide +kernel
  obtain ⟨-, -, -, -, -, -, -, -, once, completed⟩ := gauntlet_law opened rested
  refine ⟨by decide +kernel, by decide +kernel, once (by decide), ?_⟩
  rw [Ne, ← completed]
  decide +kernel

end Laws

end Gauntlet
end Challenges
end Revenant
