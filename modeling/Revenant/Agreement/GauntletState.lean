import Revenant.Agreement.World
import Revenant.Gateway.Gauntlet

namespace Revenant
namespace Agreement
namespace Gauntlet

open Library Challenges Challenges.Gauntlet Client.World Gateway.Gauntlet Protocol

/-!
# What makes a gauntlet state acceptable

A `View` is what a gauntlet state shows, with the types the gateway has for it.
`Sound` is what the client checks of a state alone and `Continues` what it checks
against the state before, where `known` is the health that the client derived
from the damage in between.
-/

inductive ViewPhase where
  | combat
  | transfer
  | completed
  | defeated
  | abandoned
  | interrupted
  deriving DecidableEq, Repr

namespace ViewPhase

def text : ViewPhase → String
  | combat => "combat"
  | transfer => "transfer"
  | completed => "completed"
  | defeated => "defeated"
  | abandoned => "abandoned"
  | interrupted => "interrupted"

theorem text_inj {first second : ViewPhase} : first.text = second.text ↔ first = second := by
  constructor
  · intro same
    cases first <;> cases second <;> first | rfl | (simp [text] at same)
  · rintro rfl
    rfl

theorem text_mem (phase : ViewPhase) : phase.text ∈ AuthoritativeState.gauntletPhases := by
  cases phase <;> decide

/-- An attempt that goes on. -/
def Open (phase : ViewPhase) : Prop := phase = combat ∨ phase = transfer

end ViewPhase

structure View where
  sequence : Nat
  stage : Stage
  phase : ViewPhase
  health : Nat
  maxHealth : Nat
  recovered : Nat
  transferHold : Option Nat
  reserveHold : Option Nat
  reserveUsed : Bool
  elapsedMs : Nat
  deriving DecidableEq

/-- The modifier that a view shows under a preset. -/
def View.modifier (view : View) (preset : Preset) : ChallengeGauntletModifier :=
  { presetId := preset.asStr, stageIndex := preset.gauntletStages.idxOf view.stage + 1
    reserveUsed := view.reserveUsed, reserveRemainingMs := view.reserveHold
    elapsedMs := view.elapsedMs }

def View.message (view : View) (runId player : Nat) (preset : Preset) : ChallengeGauntletState :=
  { runId, sequence := view.sequence, playerActorId := player
    stage := stageNumber view.stage, phase := view.phase.text, health := view.health
    maxHealth := view.maxHealth, recoveredHealth := view.recovered
    transferRemainingMs := view.transferHold
    modifier := if preset = .baseline then none else some (view.modifier preset) }

def View.value (view : View) (runId player : Nat) (preset : Preset) : Variant :=
  (ServerMessage.challengeGauntletState (view.message runId player preset)).serialize

/-- What the client keeps of the last view; nothing before the first. -/
def shownValue (runId player : Nat) (preset : Preset) (shown : Option View) : Variant :=
  shown.elim noFields (fun view => view.value runId player preset)

/-! ## The client's tables -/

/-- The client looks for the modifier in the preset's name. -/
theorem singleReserve_asStr (preset : Preset) :
    AuthoritativeState.singleReserve preset.asStr = preset.has .singleReserve := by
  cases preset <;> decide

/-- The client numbers the stages as the preset orders them. -/
theorem stageIndex_number {preset : Preset} (stage : Stage) :
    AuthoritativeState.stageIndex (AuthoritativeState.gauntletOrder preset.asStr)
      (stageNumber stage : Int) = (preset.gauntletStages.idxOf stage : Int) := by
  cases preset <;> cases stage <;> decide

theorem gauntletEntrance_number (stage : Stage) :
    AuthoritativeState.gauntletEntrance (stageNumber stage) =
      positionValue stage.entrance := by
  cases stage <;> rfl

theorem gauntletPad_number {stage : Stage} {position : Position}
    (pad : stage.reservePosition = some position) :
    AuthoritativeState.gauntletPad (stageNumber stage) = positionValue position := by
  cases stage with
  | support | bastion =>
      cases pad
      rfl
  | prism => cases pad

/-- The stage after another one stands behind it. -/
theorem idxOf_next {run : GauntletRun} {stage next : Stage}
    (follows : run.nextStage stage = some next) :
    run.preset.gauntletStages.idxOf next = run.preset.gauntletStages.idxOf stage + 1 := by
  unfold GauntletRun.nextStage at follows
  generalize run.preset = preset at *
  cases preset <;> cases stage <;> cases next <;> first | rfl | cases follows

theorem head_order (preset : Preset) :
    (AuthoritativeState.gauntletOrder preset.asStr).head? =
      some (stageNumber preset.firstStage : Int) := by
  cases preset <;> decide

/-! ## Acceptable views -/

/-- A hold that a state may report. -/
def Remains (held : Nat) : Prop := 1 ≤ held ∧ held ≤ transferHoldMs

/-- What a state must satisfy on its own. -/
structure View.Sound (view : View) (preset : Preset) (position : Position) : Prop where
  counted : 0 < view.sequence
  healthy : view.health ≤ view.maxHealth
  limited : view.recovered ≤ transferHealth
  fallen : view.phase = .defeated ↔ view.health = 0
  cleared : view.phase = .transfer → view.stage ≠ .prism
  final : view.phase = .completed → view.stage = .prism
  spent : view.reserveUsed = true → preset.has .singleReserve = true
  reserve : ∀ held, view.reserveHold = some held → Remains held ∧
    preset.has .singleReserve = true ∧ view.phase = .transfer ∧ view.reserveUsed = false ∧
      view.stage.reservePosition = some position
  transfer : ∀ held, view.transferHold = some held → Remains held ∧ view.phase = .transfer ∧
    position = view.stage.entrance

/-- How a state may follow another: the stage stays, the reserve heals in it, or
the next stage opens. -/
inductive Moves (preset : Preset) (position : Position) (known : Nat) (before after : View) : Prop
  | stays (stage : after.stage = before.stage) (used : after.reserveUsed = before.reserveUsed)
      (nothing : after.recovered = 0)
      (left : before.phase = .transfer → after.phase = .transfer ∨ after.phase = .abandoned)
  | heals (stage : after.stage = before.stage) (single : preset.has .singleReserve = true)
      (waited : before.phase = .transfer) (waits : after.phase = .transfer)
      (unused : before.reserveUsed = false) (used : after.reserveUsed = true)
      (pad : after.stage.reservePosition = some position)
      (restored : after.recovered = min transferHealth (after.maxHealth - known))
      (wounded : 0 < after.recovered)
  | enters (follows : preset.gauntletStages.idxOf after.stage =
        preset.gauntletStages.idxOf before.stage + 1)
      (waited : before.phase = .transfer) (fights : after.phase = .combat)
      (place : position = after.stage.entrance) (used : after.reserveUsed = before.reserveUsed)
      (restored : after.recovered = if preset.has .singleReserve = true then 0
        else min transferHealth (after.maxHealth - known))

/-- What a state must satisfy after the one the client has, if it has one. -/
inductive Continues (preset : Preset) (position : Position) (known : Nat) :
    Option View → View → Prop
  | opens {view : View} (stage : view.stage = preset.firstStage) (fights : view.phase = .combat)
      (nothing : view.recovered = 0) (full : view.health = view.maxHealth) :
      Continues preset position known none view
  | follows {before after : View} (running : before.phase.Open)
      (later : before.sequence < after.sequence ∨
        (before.sequence = after.sequence ∧ after.phase = .abandoned))
      (clock : before.elapsedMs ≤ after.elapsedMs)
      (moves : Moves preset position known before after) :
      Continues preset position known (some before) after

/-! ## Reading a view back -/

section Read

variable {preset : Preset} {runId player : Nat} {position : Position} {view : View}

/-- The modifier as the client reads it; the baseline has none. -/
def View.read (view : View) (preset : Preset) : AuthoritativeState.ReadModifier :=
  { present := decide (preset ≠ .baseline)
    elapsedMs := if preset = .baseline then 0 else view.elapsedMs
    reserveUsed := view.reserveUsed, reserveHold := .ofOption view.reserveHold }

theorem modifierOf_value (view : View) (runId player : Nat) (preset : Preset) :
    AuthoritativeState.modifierOf (view.value runId player preset) =
      if preset = .baseline then noFields else (view.modifier preset).serialize := by
  by_cases plain : preset = .baseline
  · rw [if_pos plain]
    subst plain
    rfl
  · rw [if_neg plain]
    unfold View.value View.message
    rw [if_neg plain]
    rfl

/-- Without the reserve nothing of it is shown. -/
theorem View.Sound.plain (sound : view.Sound preset position)
    (many : preset.has .singleReserve = false) :
    view.reserveUsed = false ∧ view.reserveHold = none := by
  constructor
  · by_contra used
    exact Bool.false_ne_true (many.symm.trans (sound.spent (eq_true_of_ne_false used)))
  · rw [Option.eq_none_iff_forall_ne_some]
    intro held shown
    obtain ⟨-, single, -⟩ := sound.reserve held shown
    exact Bool.false_ne_true (many.symm.trans single)

theorem readModifier_value (sound : view.Sound preset position) (runId player : Nat) :
    AuthoritativeState.readModifier
      (AuthoritativeState.modifierOf (view.value runId player preset)) =
      .ok (view.read preset) := by
  rw [modifierOf_value]
  by_cases plain : preset = .baseline
  · subst plain
    obtain ⟨unused, idle⟩ := sound.plain rfl
    unfold AuthoritativeState.readModifier View.read
    simp only [bind_eq_ok, require_eq_ok, pure_eq_ok]
    refine ⟨0, rfl, false, rfl, ?_⟩
    rw [unused, idle]
    simp only [ne_eq, not_true_eq_false, decide_false, if_true]
    rfl
  · rw [if_neg plain]
    unfold AuthoritativeState.readModifier View.read
    simp only [bind_eq_ok, require_eq_ok, pure_eq_ok]
    refine ⟨(view.elapsedMs : Int), rfl, view.reserveUsed, rfl, ?_⟩
    rw [if_neg plain, decide_eq_true plain]
    congr 1
    exact decide_eq_true (show (view.modifier preset).serialize ≠ noFields from by rintro ⟨⟩)

theorem validModifier_value (sound : view.Sound preset position) (runId player : Nat) :
    AuthoritativeState.validModifier preset.asStr (stageNumber view.stage)
      (AuthoritativeState.modifierOf (view.value runId player preset)) = .ok () := by
  rw [modifierOf_value]
  by_cases plain : preset = .baseline
  · subst plain
    unfold AuthoritativeState.validModifier
    simp [rejectIf, Preset.asStr]
  · have named : preset.asStr ≠ "baseline" := by
      cases preset <;> first | exact absurd rfl plain | decide
    rw [if_neg plain]
    unfold AuthoritativeState.validModifier
    rw [if_pos (show (view.modifier preset).serialize ≠ noFields from by rintro ⟨⟩)]
    simp only [bind_eq_ok, exists_unit, require_eq_ok, rejectIf_eq_ok]
    refine ⟨?_, ?_, view.reserveUsed, rfl, (view.elapsedMs : Int), rfl, ?_, ?_⟩
    · rw [not_not]
      exact ⟨fun same => absurd same named, by rintro ⟨⟩⟩
    · rintro (other | other)
      · exact other rfl
      · apply other
        rw [stageIndex_number]
        rfl
    · omega
    · rw [singleReserve_asStr]
      rintro ⟨many, shows⟩
      obtain ⟨unused, idle⟩ := sound.plain many
      rcases shows with used | held
      · exact Bool.false_ne_true (unused.symm.trans used)
      · change (Variant.ofOption view.reserveHold).isNil = false at held
        rw [idle] at held
        cases held

theorem validHealth_value (sound : view.Sound preset position) {known : Nat}
    (derived : view.health = known + view.recovered) (runId player : Nat) :
    AuthoritativeState.validGauntletHealth (view.value runId player preset)
      (stageNumber view.stage) view.phase.text known (.integer view.maxHealth) =
      .ok ((view.health : Int), (view.maxHealth : Int), (view.recovered : Int)) := by
  have limited := sound.limited
  have healthy := sound.healthy
  unfold transferHealth at limited
  unfold AuthoritativeState.validGauntletHealth
  simp only [bind_eq_ok, exists_unit, rejectIf_eq_ok, pure_eq_ok]
  refine ⟨(view.health : Int), rfl, (view.maxHealth : Int), rfl, (view.recovered : Int), rfl, ?_,
    ?_, ?_, ?_, rfl⟩
  · rintro (other | negative | above)
    · exact other rfl
    · omega
    · omega
  · rintro (negative | above | other)
    · omega
    · omega
    · omega
  · rw [not_not, show "defeated" = ViewPhase.defeated.text from rfl, ViewPhase.text_inj,
      sound.fallen]
    omega
  · rw [show "transfer" = ViewPhase.transfer.text from rfl,
      show "completed" = ViewPhase.completed.text from rfl, ViewPhase.text_inj, ViewPhase.text_inj]
    rintro (⟨waits, final⟩ | ⟨isOver, early⟩)
    · apply sound.cleared waits
      cases stage : view.stage with
      | support | bastion =>
          rw [stage] at final
          cases final
      | prism => rfl
    · apply early
      rw [sound.final isOver]
      rfl

theorem validHold_ofOption {held : Nat} (remains : Remains held) :
    AuthoritativeState.validHold 1200 (Variant.integer held) = .ok () := by
  unfold Remains transferHoldMs at remains
  unfold AuthoritativeState.validHold
  simp only [bind_eq_ok, require_eq_ok, rejectIf_eq_ok]
  refine ⟨(held : Int), rfl, ?_⟩
  omega

/-- Each hold a sound view reports is at its own place. -/
theorem validHolds_value (sound : view.Sound preset position) (runId player : Nat) :
    AuthoritativeState.validGauntletHolds (view.value runId player preset) preset.asStr
      (stageNumber view.stage) view.phase.text (view.read preset) (positionValue position) =
      .ok () := by
  have transfer : (view.value runId player preset).get "transfer_remaining_ms" =
    .ofOption view.transferHold := rfl
  have leaves : ∀ held, view.transferHold = some held →
      AuthoritativeState.validHold 1200 (.integer held) = .ok () ∧
        view.phase.text = "transfer" ∧
        positionValue position = AuthoritativeState.gauntletEntrance (stageNumber view.stage) := by
    intro held shown
    obtain ⟨remains, waits, place⟩ := sound.transfer held shown
    rw [waits, gauntletEntrance_number, place]
    exact ⟨validHold_ofOption remains, rfl, rfl⟩
  have heals : ∀ held, view.reserveHold = some held →
      AuthoritativeState.validHold 1200 (.integer held) = .ok () ∧
        AuthoritativeState.singleReserve preset.asStr = true ∧ view.phase.text = "transfer" ∧
        view.reserveUsed = false ∧
        positionValue position = AuthoritativeState.gauntletPad (stageNumber view.stage) := by
    intro held shown
    obtain ⟨remains, single, waits, unused, pad⟩ := sound.reserve held shown
    rw [waits, singleReserve_asStr, single, gauntletPad_number pad]
    exact ⟨validHold_ofOption remains, rfl, rfl, unused, rfl⟩
  unfold AuthoritativeState.validGauntletHolds View.read
  rw [transfer]
  cases leaving : view.transferHold with
  | none =>
      cases resting : view.reserveHold with
      | none => simp [Variant.ofOption, Variant.isNil]
      | some held =>
          obtain ⟨bounded, single, waits, unused, pad⟩ := heals held resting
          simp [Variant.ofOption, Variant.isNil, bounded, single, waits, unused, pad]
  | some other =>
      obtain ⟨boundedExit, waits, place⟩ := leaves other leaving
      cases resting : view.reserveHold with
      | none => simp [Variant.ofOption, Variant.isNil, boundedExit, waits, place]
      | some held =>
          obtain ⟨bounded, single, -, unused, pad⟩ := heals held resting
          simp [Variant.ofOption, Variant.isNil, boundedExit, bounded, single, waits, unused, pad,
            ← place]

/-- The state follows the one the client has, or is its first. -/
theorem validOrder_value (sound : view.Sound preset position) {known : Nat} {shown : Option View}
    (before : ∀ last ∈ shown, ∃ place, last.Sound preset place)
    (continues : Continues preset position known shown view)
    (derived : view.health = known + view.recovered) (runId player : Nat) :
    AuthoritativeState.validGauntletOrder (shownValue runId player preset shown) preset.asStr
      (stageNumber view.stage) view.sequence view.phase.text (view.read preset) known view.health
      view.maxHealth view.recovered (positionValue position) = .ok () := by
  cases continues with
  | opens stage fights nothing full =>
      unfold AuthoritativeState.validGauntletOrder
      dsimp only
      rw [if_pos (show shownValue runId player preset none = noFields from rfl), rejectIf_eq_ok,
        head_order, stage, fights, nothing, full]
      simp [ViewPhase.text]
  | @follows last _ running later clock moves =>
      obtain ⟨_, lastSound⟩ := before last rfl
      have read : AuthoritativeState.readModifier (AuthoritativeState.modifierOf
          (shownValue runId player preset (some last))) = .ok (last.read preset) :=
        readModifier_value lastSound runId player
      unfold AuthoritativeState.validGauntletOrder
      dsimp only
      rw [if_neg (show shownValue runId player preset (some last) ≠ noFields from nofun)]
      simp only [bind_eq_ok, exists_unit, require_eq_ok, rejectIf_eq_ok]
      refine ⟨(stageNumber last.stage : Int), rfl, (last.sequence : Int), rfl, last.phase.text, rfl,
        ?_, ?_, ?_, last.read preset, read, ?_, ?_, ?_, ?_⟩
      · rw [stageIndex_number, stageIndex_number]
        cases moves with
        | stays stage | heals stage => rw [stage]; omega
        | enters follows => rw [follows]; omega
      · rintro ⟨same, other⟩
        rcases later with later | ⟨-, abandoned⟩
        · omega
        · rw [abandoned] at other
          exact other (by decide)
      · rcases running with phase | phase
        · rw [phase]
          decide
        · rw [phase]
          decide
      · rintro ⟨present, earlier⟩
        have modified : preset ≠ .baseline := of_decide_eq_true present
        simp only [View.read, if_neg modified] at earlier
        omega
      · rintro ⟨-, used, unused⟩
        change last.reserveUsed = true at used
        change view.reserveUsed = false at unused
        cases moves with
        | stays _ same | enters _ _ _ _ same => rw [same, used] at unused; cases unused
        | heals _ _ _ _ before => rw [before] at used; cases used
      · rintro ⟨-, changed, nothing⟩
        cases moves with
        | stays _ same | enters _ _ _ _ same => exact changed same
        | heals _ _ _ _ _ _ _ _ wounded => omega
      · rw [stageIndex_number, stageIndex_number]
        cases moves with
        | stays stage used nothing left =>
            rw [stage, nothing, if_neg (lt_irrefl _)]
            simp only [Nat.cast_zero, ne_eq, not_true_eq_false, if_false, rejectIf_eq_ok]
            rintro ⟨waited, other⟩
            rcases left (ViewPhase.text_inj.mp waited) with phase | phase
            · rw [phase] at other
              exact other (by decide)
            · rw [phase] at other
              exact other (by decide)
        | heals stage single waited waits unused used pad restored wounded =>
            have healthy := sound.healthy
            unfold transferHealth at restored
            rw [stage, if_neg (lt_irrefl _), if_pos (by omega)]
            unfold AuthoritativeState.validReserve
            simp only [bind_eq_ok, exists_unit, rejectIf_eq_ok]
            rw [singleReserve_asStr, single, waited, waits, ← stage, gauntletPad_number pad]
            refine ⟨⟨?_, ?_⟩, by decide⟩
            · rintro (many | other | other | spent | idle)
              · cases many
              · exact other rfl
              · exact other rfl
              · exact Bool.false_ne_true (unused.symm.trans spent)
              · exact Bool.false_ne_true (idle.symm.trans used)
            · rintro (other | other)
              · exact other rfl
              · omega
        | enters follows waited fights place used restored =>
            have healthy := sound.healthy
            unfold transferHealth at restored
            rw [if_pos (by rw [follows]; omega)]
            simp only [bind_eq_ok, exists_unit, rejectIf_eq_ok]
            rw [singleReserve_asStr, waited, fights, place, gauntletEntrance_number]
            refine ⟨?_, ?_⟩
            · rintro (other | other | other)
              · exact other rfl
              · exact other rfl
              · exact other rfl
            · rw [not_not, restored]
              split
              · rfl
              · omega

/-- A view that may follow is taken: the client shows it, and knows its health. -/
theorem hear_view {client : AuthoritativeState} {known : Nat} {shown : Option View}
    (named : 0 < runId) (knows : Knows client player position known view.maxHealth)
    (shows : client.gauntletState = shownValue runId player preset shown)
    (before : ∀ last ∈ shown, ∃ place, last.Sound preset place)
    (sound : view.Sound preset position) (continues : Continues preset position known shown view)
    (derived : view.health = known + view.recovered) :
    hear runId preset.asStr client
        (.challengeGauntletState (view.message runId player preset)) =
      .ok { client.settle view.health with gauntletState := view.value runId player preset } := by
  obtain ⟨actor, found, isDict, placed⟩ := knows.actor
  have subject : client.validSubject (view.value runId player preset) runId = .ok () := by
    unfold AuthoritativeState.validSubject
    rw [rejectIf_eq_ok, knows.own]
    rintro (other | unnamed | other)
    · exact other rfl
    · omega
    · exact other rfl
  have own : client.player = .ok (actor, (known : Int), .integer view.maxHealth) := by
    unfold AuthoritativeState.player
    rw [knows.own, found, knows.health, knows.maximum]
    rfl
  have counted := sound.counted
  obtain ⟨earlier, counts, ordered, fresh⟩ : ∃ earlier : Int,
      number client.gauntletState "sequence" 0 = .ok earlier ∧ earlier ≤ view.sequence ∧
        view.value runId player preset ≠ client.gauntletState := by
    rw [shows]
    cases continues with
    | opens => exact ⟨0, rfl, by omega, nofun⟩
    | @follows last _ running later =>
        refine ⟨(last.sequence : Int), rfl, by rcases later with later | ⟨same, -⟩ <;> omega, ?_⟩
        intro same
        have sequence := congrArg (fun value => value.get "sequence") same
        have phase := congrArg (fun value => value.get "phase") same
        change Variant.integer (view.sequence : Int) = .integer last.sequence at sequence
        change Variant.text view.phase.text = .text last.phase.text at phase
        rw [Variant.text.injEq, ViewPhase.text_inj] at phase
        rw [Variant.integer.injEq] at sequence
        rcases later with later | ⟨-, abandoned⟩
        · omega
        · rw [← phase, abandoned] at running
          rcases running with impossible | impossible <;> cases impossible
  change client.applyGauntletState (view.value runId player preset) runId preset.asStr = _
  unfold AuthoritativeState.applyGauntletState
  simp only [bind_eq_ok, exists_unit, require_eq_ok, rejectIf_eq_ok]
  refine ⟨subject, _, own, (stageNumber view.stage : Int), rfl, validModifier_value sound runId player,
    view.phase.text, rfl, (view.sequence : Int), rfl, earlier, counts, ?_, ?_⟩
  · rintro (low | high | unknown | none' | behind)
    · unfold stageNumber at low
      split at low <;> omega
    · unfold stageNumber at high
      split at high <;> omega
    · exact unknown view.phase.text_mem
    · omega
    · omega
  · rw [if_neg fresh]
    simp only [bind_eq_ok, exists_unit, require_eq_ok, pure_eq_ok]
    refine ⟨_, validHealth_value sound derived runId player, ?_⟩
    rw [placed]
    refine ⟨_, rfl, _, readModifier_value sound runId player, ?_,
      validHolds_value sound runId player, rfl⟩
    rw [shows]
    exact validOrder_value sound before continues derived runId player

end Read

end Gauntlet
end Agreement
end Revenant
