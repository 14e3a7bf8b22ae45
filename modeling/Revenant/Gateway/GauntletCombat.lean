import Revenant.Gateway.Gauntlet

namespace Revenant
namespace Gateway
namespace Gauntlet

open Library Revenant.Challenges Revenant.Challenges.Gauntlet Protocol Replay

/-!
# The encounters of Relay Gauntlet

The ticks and attacks of the three retained encounters, as the session thread
and the player's commands reach them.  Each records its row before it changes
an actor, and tells the client afterwards.
-/

namespace Session

/-- An enemy's hit on the player; a fatal one ends the encounter and shows the
attempt's end. -/
def hurtPlayer (session : Session) (sourceId playerId damage : Nat) (close : Session → Session) :
    Session :=
  if damage = 0 then session
  else
    let session := { session with actors := session.actors.applyDamage playerId damage }
    let remaining := (session.actors.get playerId).elim 0 Actor.health
    let session := session.broadcast (.damageApplied
      { sourceActorId := sourceId, targetActorId := playerId, damage
        remainingHealth := remaining, killed := remaining == 0 })
    if remaining = 0 then (close { session with stage := .failed }).projectChallenge else session

/-- The player's hit on an enemy, as it is told. -/
def tellHit (session : Session) (playerId targetId : Nat) (result : DamageResult) : Session :=
  session.broadcast (.damageApplied
    { sourceActorId := playerId, targetActorId := targetId, damage := result.damage
      remainingHealth := result.remainingHealth, killed := result.killed })

/-- An enemy leaves the world, and the client is told if it was there. -/
def removeEnemy (session : Session) (actorId : Nat) : Session :=
  if (session.actors.get actorId).isSome then
    { session with actors := session.actors.destroy actorId }.broadcast (.actorDestroy { actorId })
  else session

/-! ## The participant's shots -/

def positionedAttackProfile (session : Session) (playerId targetId : Nat) :
    Except String AttackProfile :=
  session.player.positionedAttackProfile session.actors playerId targetId

def shoot (session : Session) (playerId targetId elapsedMs : Nat) (profile : AttackProfile) :
    Except String (DamageResult × ActorRegistry × CombatRuntime) :=
  match session.combat.attack session.actors playerId targetId elapsedMs profile with
  | .ok outcome => .ok outcome
  | .error _ => .error "attack rejected"

/-! ## The support pair -/

def supportFighting (session : Session) : Bool := session.support.any SupportEncounter.active

def recordSupport (session : Session) (encounter : SupportEncounter) (elapsedMs : Nat)
    (transition : SupportTransition) (death : Option Nat) (took : Nat) : Except String Session :=
  session.recordGauntletCombat (if death.isSome then .enemyDied else .fieldActivity)
    (death.getD encounter.playerId) (.support ⟨elapsedMs, transition⟩) took

def closeSupport (session : Session) : Session :=
  { session with support := session.support.map (fun encounter => { encounter with active := false }) }

def finishSupport (session : Session) (encounter : SupportEncounter) : Session :=
  (session.closeSupport.removeEnemy encounter.lancerId).removeEnemy encounter.menderId

def supportElapsed (session : Session) : Nat :=
  session.support.elim 0 (fun encounter => elapsedMillis encounter.startedAt session.clock)

/-- The place, the target and the stance a charge shows. -/
def chargeShown : Ai.Lancer.ChargeAction → Position × Position × Bool
  | .windup origin target => (origin, target, true)
  | .resolved _ target _ => (target, target, false)

def tellCharge (session : Session) (enemyId : Nat) (action : Ai.Lancer.ChargeAction) : Session :=
  let (position, target, windingUp) := chargeShown action
  session.broadcast (.actorUpdate
    { actorId := enemyId, position, defense := none
      charge := some { target, windingUp, warningMs := Ai.Lancer.windupMs } })

/-- What a charge does once it is recorded. -/
def actCharge (session : Session) (encounter : SupportEncounter) (player : Actor) (elapsedMs : Nat)
    (action : Ai.Lancer.ChargeAction) (took : Nat) : Except String Session :=
  match action with
  | .windup origin target =>
      session.recordSupport encounter elapsedMs (.windup player.position origin target) none took
  | .resolved origin target damage => do
      let session ← session.recordSupport encounter elapsedMs
        (.charged player.position origin target damage (player.health - damage)) none took
      let session :=
        { session with actors := session.actors.updatePosition encounter.lancerId target }
      return session.hurtPlayer encounter.lancerId encounter.playerId damage closeSupport

def confirmCharge (session : Session) (proposed : Ai.Lancer.GlassLancer) (elapsedMs : Nat) :
    Session :=
  { session with
    support := session.support.map (fun encounter =>
      encounter.confirmCharge proposed session.clock elapsedMs) }

def tickSupportCharge (session : Session) (encounter : SupportEncounter) (elapsedMs took : Nat) :
    Except String Session :=
  match session.actors.get encounter.lancerId, session.actors.get encounter.playerId with
  | some enemy, some player =>
      if enemy.health = 0 ∨ player.health = 0 then .ok session
      else
        match encounter.chargeAi.tick elapsedMs enemy.position player.position with
        | none => .ok session
        | some (action, proposed) => do
            let session ← session.actCharge encounter player elapsedMs action took
            return (session.confirmCharge proposed elapsedMs).tellCharge encounter.lancerId action
  | _, _ => .ok session

def confirmRepair (session : Session) (proposed : Ai.Support.RelayMender) (elapsedMs : Nat) :
    Session :=
  { session with
    support := session.support.map (fun encounter =>
      encounter.confirmRepair proposed session.clock elapsedMs) }

/-- A repaired enemy, as it is kept and told. -/
def tellRepair (session : Session) (sourceId : Nat) (healed : Actor)
    (action : Ai.Support.RepairAction) : Session :=
  { session with
    actors := session.actors.insert { healed with health := action.healthAfter } }.broadcast
      (.repairApplied
        { sourceActorId := sourceId, targetActorId := action.targetId, amount := action.amount
          remainingHealth := action.healthAfter })

def tickSupportRepair (session : Session) (encounter : SupportEncounter) (elapsedMs took : Nat) :
    Except String Session :=
  match session.actors.get encounter.menderId, session.actors.get encounter.lancerId with
  | some source, some target =>
      match encounter.repairAi.tick elapsedMs source [target] with
      | none => .ok session
      | some (action, proposed) => do
          let session ← session.recordSupport encounter elapsedMs
            (.repaired action.targetId action.amount action.healthBefore action.healthAfter) none took
          return (session.confirmRepair proposed elapsedMs).tellRepair source.id target action
  | _, _ => .ok session

def tickSupport (session : Session) (pace : Pace) : Except String Session :=
  match session.support with
  | none => .ok session
  | some encounter =>
      if encounter.active = false ∨ session.stage = .failed then .ok session
      else do
        let elapsedMs := session.supportElapsed
        let session ← session.tickSupportCharge encounter elapsedMs pace.firstWrite
        match session.support with
        | none => return session
        | some encounter =>
            if encounter.active = false then return session
            else session.tickSupportRepair encounter elapsedMs pace.secondWrite

def attackSupport (session : Session) (playerId targetId elapsedMs : Nat) (pace : Pace) :
    Except String Session := do
  let encounter ← require session.support "gauntlet encounter absent"
  rejectIf (encounter.playerId ≠ playerId ∨
    (encounter.lancerId ≠ targetId ∧ encounter.menderId ≠ targetId)) "invalid support encounter target"
  let profile ← session.positionedAttackProfile playerId targetId
  let (result, actors, combat) ← session.shoot playerId targetId elapsedMs profile
  let player ← require (session.actors.get playerId) "attacker missing"
  let target ← require (session.actors.get targetId) "target missing"
  let session ← session.recordSupport encounter elapsedMs
    (.attack targetId player.position result.damage target.health result.remainingHealth)
    (if result.killed then some targetId else none) pace.firstWrite
  let session := { session with actors, combat }.tellHit playerId targetId result
  if result.killed = true then
    let session := session.removeEnemy targetId
    let cleared := (session.actors.get encounter.lancerId).isNone ∧
      (session.actors.get encounter.menderId).isNone
    let session := if cleared then session.finishSupport encounter else session
    return session.projectChallenge
  else return session

/-! ## The elite pair -/

def eliteFighting (session : Session) : Bool := session.elite.any EliteEncounter.active

def eliteElapsed (session : Session) : Nat :=
  session.elite.elim 0 (fun encounter => elapsedMillis encounter.startedAt session.clock)

/-- The encounter with the instant at which its row was confirmed. -/
def recordElite (session : Session) (encounter : EliteEncounter) (elapsedMs : Nat)
    (transition : EliteTransition) (death : Option Nat) (took : Nat) :
    Except String (EliteEncounter × Session) := do
  let session ← session.recordGauntletCombat
    (if death.isSome then .enemyDied else .fieldActivity) (death.getD encounter.playerId)
    (.elite ⟨elapsedMs, encounter.confirmedMs, transition⟩) took
  let encounter := encounter.confirmed session.clock elapsedMs
  return (encounter, { session with elite := some encounter })

def closeElite (session : Session) : Session :=
  { session with elite := session.elite.map (fun encounter => { encounter with active := false }) }

def finishElite (session : Session) (encounter : EliteEncounter) : Session :=
  (session.closeElite.removeEnemy encounter.bulwarkId).removeEnemy encounter.partnerId

/-- What an action does once it is recorded and its brain adopted. -/
def actElite (session : Session) (encounter : EliteEncounter) (action : Ai.Elite.EliteAction) :
    Except String Session :=
  match action with
  | .defense (.brace _) => .ok (session.broadcastEliteDefense encounter)
  | .defense (.slam _ damage) =>
      .ok ((session.hurtPlayer encounter.bulwarkId encounter.playerId damage
        closeElite).broadcastEliteDefense encounter)
  | .charge (.windup origin target) =>
      .ok (session.tellCharge encounter.partnerId (.windup origin target))
  | .charge (.resolved origin target damage) =>
      let session :=
        { session with actors := session.actors.updatePosition encounter.partnerId target }
      .ok ((session.hurtPlayer encounter.partnerId encounter.playerId damage closeElite).tellCharge
        encounter.partnerId (.resolved origin target damage))
  | .repair action => do
      let healed ← require (session.actors.get action.targetId) "repaired enemy missing"
      return session.tellRepair encounter.partnerId healed action

def tickElite (session : Session) (pace : Pace) : Except String Session :=
  match session.elite with
  | none => .ok session
  | some encounter =>
      if encounter.active = false ∨ session.stage = .failed then .ok session
      else
        match session.actors.get encounter.playerId with
        | none => .ok session
        | some player =>
            let elapsedMs := session.eliteElapsed
            match encounter.brain.tick elapsedMs (session.actors.get encounter.bulwarkId)
                (session.actors.get encounter.partnerId) player with
            | none => .ok session
            | some (action, proposed) => do
                let (encounter, session) ← session.recordElite encounter elapsedMs
                  (.step player.position (EliteStep.fromAction action player.health)) none
                  pace.firstWrite
                let encounter :=
                  { encounter with brain := proposed.confirmAt action encounter.confirmedMs }
                actElite { session with elite := some encounter } encounter action

def attackElite (session : Session) (playerId targetId elapsedMs : Nat) (pace : Pace) :
    Except String Session := do
  let encounter ← require session.elite "gauntlet encounter absent"
  rejectIf (encounter.playerId ≠ playerId ∨
    (encounter.bulwarkId ≠ targetId ∧ encounter.partnerId ≠ targetId)) "invalid elite target"
  let player ← require (session.actors.get playerId) "attacker missing"
  let profile ← session.positionedAttackProfile playerId targetId
  let (result, actors, combat) ← session.shoot playerId targetId elapsedMs
    { profile with damage := encounter.dealt targetId player.position profile.damage }
  let target ← require (session.actors.get targetId) "target missing"
  let (encounter, session) ← session.recordElite encounter elapsedMs
    (.attack targetId player.position result.damage target.health result.remainingHealth)
    (if result.killed then some targetId else none) pace.firstWrite
  let session := { session with actors, combat }.tellHit playerId targetId result
  if result.killed = true then
    let encounter :=
      { encounter with brain := encounter.brain.retire targetId encounter.confirmedMs }
    let session := { session with elite := some encounter }.removeEnemy targetId
    let cleared := (session.actors.get encounter.bulwarkId).isNone ∧
      (session.actors.get encounter.partnerId).isNone
    let session := if cleared then session.finishElite encounter else session
    return session.projectChallenge
  else return session.projectChallenge

/-! ## The Prism Warden -/

def prismFighting (session : Session) : Bool := session.prism.any PrismEncounter.active

def prismElapsed (session : Session) : Nat :=
  session.prism.elim 0 (fun encounter => elapsedMillis encounter.startedAt session.clock)

def recordPrism (session : Session) (encounter : StagePrism) (elapsedMs : Nat)
    (transition : PrismTransition) (death : Bool) (took : Nat) :
    Except String (StagePrism × Session) := do
  let session ← session.recordGauntletCombat (if death then .enemyDied else .fieldActivity)
    (if death then encounter.bossId else encounter.playerId)
    (.prism ⟨elapsedMs, encounter.confirmedMs, transition⟩) took
  let encounter := encounter.confirmed session.clock elapsedMs
  return (encounter, { session with prism := some encounter })

def closePrism (session : Session) : Session :=
  { session with prism := session.prism.map (fun encounter => { encounter with active := false }) }

/-- The death is stored already; the fatal hit is told with the completion. -/
def finishChallengePrism (session : Session) (encounter : StagePrism) (fatal : ServerMessage) :
    Session :=
  let session := { session with
    actors := session.actors.destroy encounter.bossId
    prism := some { encounter with active := false, pendingFatal := none } }
  ((session.broadcast fatal).broadcast (.actorDestroy { actorId := encounter.bossId })).projectChallenge

def tickPrism (session : Session) (pace : Pace) : Except String Session :=
  match session.prism with
  | none => .ok session
  | some encounter =>
      if encounter.active = false ∨ session.stage = .failed then .ok session
      else
        match encounter.pendingFatal with
        | some fatal => .ok (session.finishChallengePrism encounter fatal)
        | none => do
            let player ← require (session.actors.get encounter.playerId) "gauntlet player absent"
            if player.health = 0 then return session
            else
              let boss ← require (session.actors.get encounter.bossId) "gauntlet enemy absent"
              let elapsedMs := session.prismElapsed
              match encounter.brain.tick elapsedMs boss.health player.position with
              | none => return session
              | some (action, proposed) =>
                  let (encounter, session) ← session.recordPrism encounter elapsedMs
                    (.step player.position (PrismStep.fromAction action player.health)) false
                    pace.firstWrite
                  let session := { session with
                    prism := some
                      { encounter with brain := proposed.confirmAt encounter.confirmedMs } }
                  match action with
                  | .warning _ => return session
                  | .resolved _ damage =>
                      return session.hurtPlayer encounter.bossId encounter.playerId damage closePrism

def attackPrism (session : Session) (playerId targetId elapsedMs : Nat) (pace : Pace) :
    Except String Session := do
  let encounter ← require session.prism "gauntlet encounter absent"
  rejectIf (encounter.playerId ≠ playerId ∨ encounter.bossId ≠ targetId) "invalid Prism target"
  match encounter.pendingFatal with
  | some fatal => return session.finishChallengePrism encounter fatal
  | none =>
      let player ← require (session.actors.get playerId) "attacker missing"
      rejectIf (¬ Ai.Prism.arenaContains player.position) "outside Prism arena"
      let target ← require (session.actors.get targetId) "target missing"
      let profile ← session.positionedAttackProfile playerId targetId
      let (hit, brain) ← require (encounter.brain.hit elapsedMs target.health profile.damage)
        "Prism is not attackable"
      let (result, actors, combat) ← session.shoot playerId targetId elapsedMs
        { profile with damage := hit.damage }
      let (encounter, session) ← session.recordPrism encounter elapsedMs
        (.attack player.position result.damage target.health result.remainingHealth hit.phaseChanged)
        result.killed pace.firstWrite
      let brain := if hit.phaseChanged then brain.confirmAt encounter.confirmedMs else brain
      let encounter := { encounter with brain }
      let session := { session with actors, combat, prism := some encounter }
      if result.killed = true then
        return session.finishChallengePrism encounter (.damageApplied
          { sourceActorId := playerId, targetActorId := targetId, damage := result.damage
            remainingHealth := result.remainingHealth, killed := result.killed })
      else return session.tellHit playerId targetId result

/-! ## Commands -/

/-- Only a fought encounter takes shots; between the stages they are ignored. -/
def attack (session : Session) (playerId targetId : Nat) (pace : Pace) : Except String Session :=
  let elapsedMs := elapsedMillis session.combatStarted session.clock
  if session.state.active = none then .ok session
  else
    match session.gauntlet.world.phase with
    | .combat _ =>
        if session.prismFighting then session.attackPrism playerId targetId elapsedMs pace
        else if session.eliteFighting then session.attackElite playerId targetId elapsedMs pace
        else if session.supportFighting then session.attackSupport playerId targetId elapsedMs pace
        else .error "combat is not active"
    | _ => .ok session

/-- One thing the session thread or a client does to the session.  An
observation may come at any time, whether or not a hold is due. -/
inductive Request where
  | tickGauntlet
  | tickPrism
  | tickElite
  | tickSupport
  | move (playerId : Nat) (position : Position)
  | observe (playerId : Nat)
  | attack (playerId targetId : Nat)
  | abandon (playerId : Nat) (intent : ChallengeAbandonIntent)

/-- A request after some time, at the pace of the world outside. -/
structure Input where
  waited : Nat
  request : Request
  pace : Pace

def perform (session : Session) (request : Request) (pace : Pace) : Except String Session :=
  match request with
  | .tickGauntlet => session.tickGauntlet pace
  | .tickPrism => session.tickPrism pace
  | .tickElite => session.tickElite pace
  | .tickSupport => session.tickSupport pace
  | .move playerId position => session.moveGauntlet playerId position pace
  | .observe playerId =>
      session.gauntletStepAt playerId (session.gauntlet.elapsed session.clock) .observe pace
  | .attack playerId targetId => session.attack playerId targetId pace
  | .abandon playerId intent => session.abandonChallenge playerId intent pace

def step (session : Session) (input : Input) : Except String Session :=
  perform { session with clock := session.clock + input.waited } input.request input.pace

/-- A run of requests that are all accepted. -/
def steps (session : Session) (inputs : List Input) : Except String Session :=
  inputs.foldlM step session

end Session
end Gauntlet
end Gateway
end Revenant
