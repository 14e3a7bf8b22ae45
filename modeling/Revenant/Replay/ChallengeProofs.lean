import Revenant.Replay.Event

namespace Revenant
namespace Replay

open Library Challenges Ai

/-!
# Proofs of a challenge's terminals

How each contract reads the row a confirming or ending checkpoint refers to.  The
row stands right before its checkpoint and names the very command it carries.
-/

/-- How a family of rows is decoded: its prefix, its bound and the identity its
encoder demands. -/
structure WorldCodec (Evidence : Type) where
  view : Payload → Option (Encoded Evidence)
  maxBytes : Nat
  identified : Evidence → Bool
  exceeds : String
  missing : String
  unidentified : String

def WorldCodec.decode {Evidence : Type} (codec : WorldCodec Evidence) (payload : Payload) :
    Except ReplayError Evidence := do
  let encoded ← require (codec.view payload) (invalidModule codec.missing)
  rejectIf (encoded.length > codec.maxBytes) (invalidModule codec.exceeds)
  let evidence ← require encoded.value (invalidModule "invalid challenge world JSON")
  rejectIf (codec.identified evidence = false) (invalidModule codec.unidentified)
  return evidence

def recoveryCodec : WorldCodec RecoveryEvidence :=
  { view := Payload.recovery?, maxBytes := 1024
    identified := fun proof => proof.runId != 0 && proof.sequence != 0
    exceeds := "recovery proof exceeds its bound"
    missing := "missing recovery proof revision"
    unidentified := "recovery proof has no attempt or sequence" }

def survivalCodec : WorldCodec SurvivalEvidence :=
  { view := Payload.survival?, maxBytes := 1024
    identified := fun proof => proof.runId != 0 && proof.sequence != 0 && proof.enemyId != 0
    exceeds := "survival proof exceeds its bound"
    missing := "survival proof revision missing"
    unidentified := "survival proof has no attempt, sequence or enemy" }

def signalCodec : WorldCodec SignalEvidence :=
  { view := Payload.signal?, maxBytes := 1024
    identified := fun proof => proof.runId != 0 && proof.sequence != 0 && proof.enemyId != 0
    exceeds := "signal proof exceeds its bound"
    missing := "signal proof revision missing"
    unidentified := "signal proof has no attempt, sequence or enemy" }

def gauntletCodec : WorldCodec GauntletEvidence :=
  { view := Payload.gauntlet?, maxBytes := 4096
    identified := fun proof => proof.runId != 0 && proof.sequence != 0 && proof.actorId != 0
    exceeds := "gauntlet evidence exceeds bound"
    missing := "gauntlet evidence revision missing"
    unidentified := "gauntlet evidence identity missing" }

def routeCodec : WorldCodec RouteEvidence :=
  { view := Payload.circuit?, maxBytes := 1024
    identified := fun proof => proof.runId != 0 && proof.sequence != 0 && proof.actorId != 0 &&
      decide (proof.elapsedMs ≤ maxRevision)
    exceeds := "route evidence exceeds bound"
    missing := "route evidence version missing"
    unidentified := "route evidence identity or clock invalid" }

/-! The retained encounters are read without an identity of their own. -/

def supportCodec : WorldCodec SupportEvidence :=
  { view := Payload.support?, maxBytes := 1024, identified := fun _ => true
    exceeds := "challenge combat proof exceeds its bound"
    missing := "challenge combat lacks support evidence", unidentified := "" }

def eliteCodec : WorldCodec EliteEvidence :=
  { view := Payload.elite?, maxBytes := 2048, identified := fun _ => true
    exceeds := "elite challenge proof exceeds its bound"
    missing := "elite challenge lacks elite evidence", unidentified := "" }

def prismCodec : WorldCodec PrismEvidence :=
  { view := Payload.prism?, maxBytes := 2048, identified := fun _ => true
    exceeds := "Prism challenge proof exceeds its bound"
    missing := "Prism challenge lacks boss evidence", unidentified := "" }

/-! ## The rows of a world -/

namespace SurvivalEvidence

def kind (evidence : SurvivalEvidence) : ReplayEventKind :=
  if evidence.action.isNone then .enemySpawned else .fieldActivity

def actor (evidence : SurvivalEvidence) (player : Nat) : Nat :=
  if evidence.kind = .fieldActivity then player else evidence.enemyId

end SurvivalEvidence

namespace SignalEvidence

def kind (evidence : SignalEvidence) : ReplayEventKind :=
  if evidence.action.isNone then .enemySpawned
  else if evidence.effect.terminal = some .completed then .enemyDied
  else .fieldActivity

def actor (evidence : SignalEvidence) (player : Nat) : Nat :=
  if evidence.kind = .fieldActivity then player else evidence.enemyId

end SignalEvidence

def GauntletEvidence.kind (evidence : GauntletEvidence) : ReplayEventKind :=
  match evidence.action with
  | .support { transition := .started .., .. } | .elite { transition := .started .., .. } =>
      .enemySpawned
  | .prism { transition := .started .., .. } => .bossSpawned
  | .support { transition := .attack _ _ _ _ 0, .. }
  | .elite { transition := .attack _ _ _ _ 0, .. }
  | .prism { transition := .attack _ _ _ 0 _, .. } => .enemyDied
  | _ => .fieldActivity

/-! ## Terminals -/

def maxChallengePayloadBytes : Nat := 16384

def decodeChallengePayload (payload : Payload) : Except ReplayError ChallengeReplayPayload := do
  let encoded ← require payload.challenge? (invalidModule "invalid challenge JSON")
  rejectIf (encoded.length > maxChallengePayloadBytes)
    (invalidModule "challenge payload exceeds its bound")
  let entry ← require encoded.value (invalidModule "invalid challenge JSON")
  entry.validate
  return entry

def verifyRouteTerminal (before : List ReplayEvent) (proof : ReplayEvent) (command : Command)
    (run : ChallengeRun) : Except ReplayError Unit := do
  let evidence ← routeCodec.decode proof.payload
  rejectIf (before.getLast? ≠ some proof ∨ proof.kind ≠ .fieldActivity ∨
      evidence.commandFor run.rules ≠ some command ∨ evidence.runId ≠ run.runId ∨
      proof.actorId ≠ some evidence.actorId)
    (invalidModule "route objective lacks its adjacent movement proof")

def verifyGauntletTerminal (before : List ReplayEvent) (proof : ReplayEvent) (command : Command) :
    Except ReplayError Unit := do
  let evidence ← gauntletCodec.decode proof.payload
  let admission ← require (before.find? (fun event => event.kind = .challengeCheckpoint))
    (invalidModule "gauntlet admission missing")
  let payload ← decodeChallengePayload admission.payload
  let run ← require payload.after.active (invalidModule "gauntlet run missing")
  rejectIf (before.getLast? ≠ some proof ∨ evidence.commandFor run.rules ≠ some command ∨
      proof.kind ≠ evidence.kind ∨ proof.actorId ≠ some evidence.actorId)
    (invalidModule "gauntlet checkpoint lacks its adjacent encounter terminal")

def verifySurvivalTerminal (before : List ReplayEvent) (proof : ReplayEvent) (command : Command)
    (player : Option Nat) : Except ReplayError Unit := do
  let evidence ← survivalCodec.decode proof.payload
  rejectIf (before.getLast? ≠ some proof ∨ evidence.command ≠ some command ∨
      proof.kind ≠ evidence.kind ∨ player.map evidence.actor ≠ proof.actorId)
    (invalidModule "survival checkpoint requires its adjacent held or fatal event")

def verifySignalTerminal (before : List ReplayEvent) (proof : ReplayEvent) (command : Command)
    (player : Option Nat) : Except ReplayError Unit := do
  let evidence ← signalCodec.decode proof.payload
  rejectIf (before.getLast? ≠ some proof ∨ evidence.command ≠ some command ∨
      proof.kind ≠ evidence.kind ∨ player.map evidence.actor ≠ proof.actorId)
    (invalidModule "signal terminal requires its adjacent fatal event")

/-- The fatal shot at the Prism. -/
def PrismEvidence.fatalShot (evidence : PrismEvidence) : Bool :=
  match evidence.transition with
  | .attack _ damage _ healthAfter _ => decide (1 ≤ damage) && healthAfter == 0
  | _ => false

/-- The Prism's strike that killed the player. -/
def PrismEvidence.fatalStrike (evidence : PrismEvidence) : Bool :=
  match evidence.transition with
  | .step _ (.resolved _ damage healthAfter) => decide (1 ≤ damage) && healthAfter == 0
  | _ => false

def PrismEvidence.boss? (evidence : PrismEvidence) : Option Nat :=
  match evidence.transition with
  | .started bossId _ => some bossId
  | _ => none

def verifyPrismTerminal (before : List ReplayEvent) (proof : ReplayEvent) (command : Command)
    (player : Option Nat) : Except ReplayError Unit := do
  let invalid := invalidModule "Prism terminal lacks its adjacent fatal event"
  rejectIf (before.getLast? ≠ some proof) invalid
  match command with
  | .confirm _ .prismCleared => do
      let spawn ← require (before.find? (fun event => event.kind = .bossSpawned)) invalid
      let started ← prismCodec.decode spawn.payload
      let bossId ← require started.boss? invalid
      rejectIf (proof.kind ≠ .enemyDied ∨ proof.actorId ≠ some bossId) invalid
      let fatal ← prismCodec.decode proof.payload
      rejectIf (fatal.fatalShot = false) invalid
  | .endRun _ .defeated => do
      rejectIf (proof.kind ≠ .fieldActivity ∨ proof.actorId ≠ player) invalid
      let fatal ← prismCodec.decode proof.payload
      rejectIf (fatal.fatalStrike = false) invalid
  | _ => .error invalid

/-- The two actors of a pair that entered as the bastion link. -/
def EliteEvidence.bastionLink? (evidence : EliteEvidence) : Option (Nat × Nat) :=
  match evidence.transition with
  | .started composition bulwarkId partnerId _ =>
      if composition = Elite.EliteComposition.bastionLink.id then some (bulwarkId, partnerId) else none
  | _ => none

def EliteEvidence.fatalShot (evidence : EliteEvidence) (target : Nat) : Bool :=
  match evidence.transition with
  | .attack targetId _ damage _ healthAfter =>
      targetId == target && decide (1 ≤ damage) && healthAfter == 0
  | _ => false

def EliteEvidence.fatalSlam (evidence : EliteEvidence) : Bool :=
  match evidence.transition with
  | .step _ (.slam _ damage healthAfter) => decide (1 ≤ damage) && healthAfter == 0
  | _ => false

def verifyEliteTerminal (before : List ReplayEvent) (proof : ReplayEvent) (command : Command)
    (player : Option Nat) : Except ReplayError Unit := do
  let invalid := invalidModule "elite challenge terminal lacks its atomic fatal hit"
  rejectIf (before.getLast? ≠ some proof) invalid
  let spawn ← require (before.find? (fun event => event.kind = .enemySpawned)) invalid
  let started ← eliteCodec.decode spawn.payload
  let (bulwarkId, partnerId) ← require started.bastionLink? invalid
  match command with
  | .confirm _ objective => do
      let target ← require (match objective with
        | .bulwarkCleared => some bulwarkId
        | .menderCleared => some partnerId
        | _ => none) invalid
      rejectIf (proof.kind ≠ .enemyDied ∨ proof.actorId ≠ some target) invalid
      let fatal ← eliteCodec.decode proof.payload
      rejectIf (fatal.fatalShot target = false) invalid
  | .endRun _ .defeated => do
      rejectIf (proof.kind ≠ .fieldActivity ∨ proof.actorId ≠ player) invalid
      let fatal ← eliteCodec.decode proof.payload
      rejectIf (fatal.fatalSlam = false) invalid
  | _ => .error invalid

end Replay
end Revenant
