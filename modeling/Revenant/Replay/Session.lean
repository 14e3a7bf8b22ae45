import Revenant.Library.Text
import Revenant.Replay.Event

namespace Revenant
namespace Replay

open Library

/-!
# Reading a session

The reducer of a journal counts what happened and follows the modules of every
admitted player.  Module evidence is decoded where it stands; a mutation must
start from the state the reducer has reached.
-/

structure ReconstructedModuleParticipant where
  characterId : String
  actorId : Nat
  protocolGeneration : ReplayProtocolGeneration
  state : ReplayModuleStateEvidence
  deriving DecidableEq

structure ReconstructedSession where
  activityId : Option String
  playerActorId : Option Nat
  spawnedEnemies : Nat
  defeatedEnemies : Nat
  bossSpawned : Bool
  completed : Bool
  lootGrants : Nat
  progressionGrants : Nat
  equipmentChanges : Nat
  moduleSnapshots : Nat
  moduleCombinations : Nat
  moduleLoadoutChanges : Nat
  acquisitionClaims : List AcquisitionClaimedPayload
  participants : List ReconstructedModuleParticipant
  deriving DecidableEq

def initialSession : ReconstructedSession :=
  { activityId := none, playerActorId := none, spawnedEnemies := 0, defeatedEnemies := 0
    bossSpawned := false, completed := false, lootGrants := 0, progressionGrants := 0
    equipmentChanges := 0, moduleSnapshots := 0, moduleCombinations := 0
    moduleLoadoutChanges := 0, acquisitionClaims := [], participants := [] }

/-- The whole payload is decoded as one kind of module evidence. -/
def decodeModule {Evidence : Type} (view : ModuleReplayPayload → Option Evidence)
    (payload : Payload) : Except ReplayError Evidence := do
  let encoded ← require payload.module? (invalidModule "invalid module replay JSON")
  rejectIf (encoded.length > maxModuleReplayPayloadBytes)
    (invalidModule "module replay payload exceeds 8192 UTF-8 bytes")
  require (encoded.value.bind view) (invalidModule "invalid module replay JSON")

def decodeAcquisitionClaimed (payload : Payload) : Except ReplayError AcquisitionClaimedPayload := do
  let encoded ← require payload.acquisition? (invalidModule "invalid acquisition claim JSON")
  rejectIf (encoded.length > 4096) (invalidModule "acquisition claim payload exceeds its bound")
  let claim ← require encoded.value (invalidModule "invalid acquisition claim JSON")
  claim.validate
  return claim

/-- The participants in the order of their character identifiers. -/
def insertParticipant (participant : ReconstructedModuleParticipant)
    (participants : List ReconstructedModuleParticipant) : List ReconstructedModuleParticipant :=
  participants.orderedInsert
    (fun left right => left.characterId < right.characterId ∨ left.characterId = right.characterId)
    participant

/-- Change the participant of a character. -/
def updateParticipant (characterId : String)
    (change : ReconstructedModuleParticipant → ReconstructedModuleParticipant)
    (participants : List ReconstructedModuleParticipant) : List ReconstructedModuleParticipant :=
  participants.map (fun participant =>
    if participant.characterId = characterId then change participant else participant)

def matchingParticipant (event : ReplayEvent) (characterId : String)
    (participants : List ReconstructedModuleParticipant) :
    Except ReplayError ReconstructedModuleParticipant := do
  let participant ← require
    (participants.find? (fun participant => participant.characterId = characterId))
    (invalidModule "module mutation has no participant snapshot")
  rejectIf (event.actorId ≠ some participant.actorId)
    (invalidModule "module mutation actor disagrees with snapshot")
  rejectIf (participant.protocolGeneration ≠ .v2)
    (invalidModule "frozen V1 participant cannot mutate modules")
  return participant

/-- The event right before a snapshot must be the joining of the same actor. -/
def applySnapshot (prior : Option ReplayEvent) (event : ReplayEvent)
    (session : ReconstructedSession) : Except ReplayError ReconstructedSession := do
  let payload ← decodeModule ModuleReplayPayload.stateSnapshot? event.payload
  payload.validate
  let prior ← require prior (invalidModule "module snapshot has no preceding player join")
  rejectIf (prior.kind ≠ .playerJoined ∨ prior.actorId ≠ event.actorId)
    (invalidModule "module snapshot is not adjacent to its matching player join")
  let actorId ← require event.actorId (invalidModule "module snapshot has no actor")
  rejectIf (∃ participant ∈ session.participants,
      participant.characterId = payload.characterId ∨ participant.actorId = actorId)
    (invalidModule "participant module snapshot is duplicated")
  return { session with
    participants := insertParticipant
      { characterId := payload.characterId, actorId
        protocolGeneration := payload.protocolGeneration, state := payload.state }
      session.participants
    moduleSnapshots := session.moduleSnapshots + 1 }

def applyCombination (event : ReplayEvent) (session : ReconstructedSession) :
    Except ReplayError ReconstructedSession := do
  rejectIf (session.completed = false)
    (invalidModule "module combination precedes activity completion")
  let payload ← decodeModule ModuleReplayPayload.combined? event.payload
  payload.validate
  let participant ← matchingParticipant event payload.characterId session.participants
  rejectIf (participant.state ≠ payload.before)
    (invalidModule "module combination before-state does not match reconstructed state")
  return { session with
    participants := updateParticipant payload.characterId
      (fun participant => { participant with state := payload.after }) session.participants
    moduleCombinations := session.moduleCombinations + 1 }

def applyLoadout (event : ReplayEvent) (session : ReconstructedSession) :
    Except ReplayError ReconstructedSession := do
  rejectIf (session.completed = false)
    (invalidModule "module loadout change precedes activity completion")
  let payload ← decodeModule ModuleReplayPayload.loadoutChanged? event.payload
  payload.validate
  let participant ← matchingParticipant event payload.characterId session.participants
  rejectIf (participant.state ≠ payload.before)
    (invalidModule "module loadout before-state does not match reconstructed state")
  return { session with
    participants := updateParticipant payload.characterId
      (fun participant => { participant with state := payload.after }) session.participants
    moduleLoadoutChanges := session.moduleLoadoutChanges + 1 }

/-- The total behind `loot granted: relay_core_fragment x<n> (total <t>)`. -/
def relayFragmentTotal (payload : Payload) : Option Nat := do
  let letters ← payload.letters?
  let suffix ← Text.stripPrefix "loot granted: relay_core_fragment x".toList letters
  let (_, total) ← Text.rsplitOnce " (total ".toList suffix
  let digits ← Text.stripSuffix ")".toList total
  Text.parseUnsigned u32Max digits

def applyFragmentReward (event : ReplayEvent) (session : ReconstructedSession) :
    Except ReplayError ReconstructedSession :=
  match relayFragmentTotal event.payload with
  | none => .ok session
  | some total => do
      let actorId ← require event.actorId
        (invalidModule "fragment reward has no participant actor")
      match session.participants.find? (fun participant => participant.actorId = actorId) with
      | none => return session
      | some participant =>
          rejectIf (total < participant.state.fragments)
            (invalidModule "fragment reward reduces reconstructed balance")
          return { session with
            participants := updateParticipant participant.characterId
              (fun participant =>
                { participant with state := { participant.state with fragments := total } })
              session.participants }

def applyClaim (event : ReplayEvent) (session : ReconstructedSession) :
    Except ReplayError ReconstructedSession := do
  let payload ← decodeAcquisitionClaimed event.payload
  rejectIf (session.completed = false ∨
      (∃ proof ∈ payload.proofs, proof.throughEventId ≥ event.id) ∨
      ∃ claim ∈ session.acquisitionClaims,
        claim.characterId = payload.characterId ∧ claim.arcId = payload.arcId)
    (invalidModule "acquisition claim is premature or duplicated")
  let participant ← matchingParticipant event payload.characterId session.participants
  rejectIf (participant.state.fragments ≠ payload.previousFragments)
    (invalidModule "acquisition balance differs from reconstructed inventory")
  return { session with
    participants := updateParticipant payload.characterId
      (fun participant => { participant with
        state := { participant.state with fragments := payload.resultingFragments } })
      session.participants
    acquisitionClaims := session.acquisitionClaims ++ [payload] }

/-- A healer or a pair enters with its partner. -/
def spawnedBy (payload : Payload) : Nat :=
  if payload.support?.isSome ∨ payload.elite?.isSome then 2 else 1

/-- What one event does, behind the note of its activity. -/
def applyKind (prior : Option ReplayEvent) (session : ReconstructedSession) (event : ReplayEvent) :
    Except ReplayError ReconstructedSession :=
  match event.kind with
  | .playerJoined => .ok { session with playerActorId := event.actorId }
  | .enemySpawned =>
      .ok { session with spawnedEnemies := session.spawnedEnemies + spawnedBy event.payload }
  | .enemyDied => .ok { session with defeatedEnemies := session.defeatedEnemies + 1 }
  | .bossSpawned => .ok { session with bossSpawned := true }
  | .activityCompleted => .ok { session with completed := true }
  | .lootGranted =>
      applyFragmentReward event { session with lootGrants := session.lootGrants + 1 }
  | .progressionGranted =>
      .ok { session with progressionGrants := session.progressionGrants + 1 }
  | .equipmentChanged => .ok { session with equipmentChanges := session.equipmentChanges + 1 }
  | .moduleStateSnapshot => applySnapshot prior event session
  | .moduleCombined => applyCombination event session
  | .moduleLoadoutChanged => applyLoadout event session
  | .acquisitionClaimed => applyClaim event session
  | _ => .ok session

/-- What the reducer keeps between two events. -/
structure SessionReading where
  session : ReconstructedSession
  sawModuleEvent : Bool
  prior : Option ReplayEvent
  deriving DecidableEq

def ReplayEventKind.isModuleEvent : ReplayEventKind → Bool
  | moduleStateSnapshot | moduleCombined | moduleLoadoutChanged => true
  | _ => false

def SessionReading.start : SessionReading :=
  { session := initialSession, sawModuleEvent := false, prior := none }

def applyEvent (reading : SessionReading) (event : ReplayEvent) :
    Except ReplayError SessionReading := do
  let noted := { reading.session with
    activityId := event.activityId.orElse (fun _ => reading.session.activityId) }
  let session ← applyKind reading.prior noted event
  return { session, sawModuleEvent := reading.sawModuleEvent || event.kind.isModuleEvent
           prior := some event }

def readSession (events : List ReplayEvent) : Except ReplayError SessionReading :=
  events.foldlM applyEvent .start

/-- Every joining is followed by the snapshot of its actor. -/
def validateSnapshotAdjacency : List ReplayEvent → Except ReplayError Unit
  | [] => .ok ()
  | event :: rest => do
      rejectIf (event.kind = .playerJoined ∧ rest.head?.isNone)
        (invalidModule "M26 player join is missing module snapshot")
      rejectIf (event.kind = .playerJoined ∧ ∃ next ∈ rest.head?,
          next.kind ≠ .moduleStateSnapshot ∨ next.actorId ≠ event.actorId)
        (invalidModule "M26 player join is missing adjacent module snapshot")
      validateSnapshotAdjacency rest

/-- Appended in order, and in one session. -/
def validateEventOrder (sessionId : String) : Option Int → List ReplayEvent → Except ReplayError Unit
  | _, [] => .ok ()
  | prior, event :: rest => do
      rejectIf (event.sessionId ≠ sessionId) .mixedSessions
      rejectIf (∃ id ∈ prior, event.id ≤ id) .nonIncreasingAppendId
      validateEventOrder sessionId (some event.id) rest

/-- The reducer with the adjacency that module evidence demands. -/
def reconstructModules (events : List ReplayEvent) : Except ReplayError ReconstructedSession := do
  let first ← require events.head? .emptySession
  validateEventOrder first.sessionId none events
  let reading ← readSession events
  if reading.sawModuleEvent then
    validateSnapshotAdjacency events
    return reading.session
  else return reading.session

/-! ## Identifiers grow along a journal -/

/-- Identifiers grow along the journal. -/
def Ascending (events : List ReplayEvent) : Prop :=
  events.Pairwise (fun left right => left.id < right.id)

/-- An ordered journal ascends, above whatever came before it. -/
theorem ascending_of_validateEventOrder {sessionId : String} {prior : Option Int}
    {events : List ReplayEvent} (ordered : validateEventOrder sessionId prior events = .ok ()) :
    Ascending events ∧ ∀ event ∈ events, ∀ id ∈ prior, id < event.id := by
  induction events generalizing prior with
  | nil => exact ⟨List.Pairwise.nil, fun _ member => absurd member List.not_mem_nil⟩
  | cons event rest inductionHypothesis =>
      simp only [validateEventOrder, bind_eq_ok, exists_unit, rejectIf_eq_ok, not_exists,
        not_and, Int.not_le] at ordered
      obtain ⟨-, above, others⟩ := ordered
      obtain ⟨ascending, later⟩ := inductionHypothesis others
      constructor
      · exact List.pairwise_cons.mpr ⟨fun next member => later next member event.id rfl, ascending⟩
      · intro next member id found
        rcases List.mem_cons.mp member with rfl | member
        · exact above id found
        · exact lt_trans (above id found) (later next member event.id rfl)

/-- A row newer than the boundary lies behind it. -/
theorem mem_back_of_newer {front back : List ReplayEvent} {boundary proof : ReplayEvent}
    (ascending : Ascending (front ++ boundary :: back))
    (member : proof ∈ front ++ boundary :: back) (newer : boundary.id < proof.id) :
    proof ∈ back := by
  rw [Ascending, List.pairwise_append] at ascending
  rcases List.mem_append.mp member with member | member
  · have earlier := ascending.2.2 proof member boundary List.mem_cons_self
    omega
  · rcases List.mem_cons.mp member with rfl | member
    · exact absurd newer (lt_irrefl _)
    · exact member

end Replay
end Revenant
