import Revenant.Activities.Meridian
import Revenant.Library.EventFold
import Revenant.Library.Text
import Revenant.Replay.Session

namespace Revenant
namespace Replay

open Library Activities

/-!
# Reading field activities

One loop reads the field rows of a journal that belong to no other family: a
chain of coolant attempts or one expedition into the Meridian annex.  A
campaign session that was resumed begins at its saved boundary.
-/

/-- What a resume row says. -/
structure CampaignResumePayload where
  schemaVersion : Nat
  characterId : String
  checkpointEventId : Int
  state : CampaignState
  deriving DecidableEq

namespace FieldActivity

open Meridian (Checkpoint Expedition)

def invalid : ReplayError := .invalidFieldActivityEvidence

/-! ## The saved boundary -/

section Resume

-- how the text of a resume row reads as JSON
variable (readResume : Payload → Encoded CampaignResumePayload)

def validateResume (payload : CampaignResumePayload) : Except ReplayError Unit := do
  match payload.state.validate with
  | .error _ => .error (invalidModule "campaign state")
  | .ok () => .ok ()
  rejectIf (payload.schemaVersion ≠ 1 ∨ payload.characterId = "" ∨
    payload.characterId.utf8ByteSize > 256 ∨ payload.checkpointEventId ≤ 0 ∨
    payload.state.active = none ∨ payload.state.revision = 0)
    (invalidModule "invalid campaign resume identity or state")

def decodeCampaignResume (payload : Payload) : Except ReplayError CampaignResumePayload := do
  rejectIf ((readResume payload).length > 8192) (invalidModule "campaign resume exceeds its bound")
  let resume ← require (readResume payload).value (invalidModule "campaign resume")
  validateResume resume
  return resume

/-- A row that may stand before the admission of a resumed session. -/
def beforeAdmission (event : ReplayEvent) : Bool :=
  match event.kind with
  | .playerJoined | .moduleStateSnapshot | .activityStarted => true
  | _ => false

/-- The module snapshot of the participant a resume admits. -/
def checkAdmitted (before : List ReplayEvent) (event : ReplayEvent)
    (resume : CampaignResumePayload) : Except ReplayError Unit := do
  let run ← require resume.state.active (invalidModule "resume has no active run")
  match before.filter (fun row => row.kind = .moduleStateSnapshot) with
  | [snapshot] =>
      rejectIf (event.actorId = none ∨ event.activityId ≠ some run.chapter.asStr ∨
        resume.checkpointEventId ≥ event.id ∨ ∃ row ∈ before, beforeAdmission row = false)
        (invalidModule "campaign resume is not a fresh admitted session")
      let modules ← decodeModule ModuleReplayPayload.stateSnapshot? snapshot.payload
      modules.validate
      rejectIf (modules.characterId ≠ resume.characterId ∨ modules.protocolGeneration ≠ .v2 ∨
        snapshot.actorId ≠ event.actorId ∨ snapshot.accountId ≠ event.accountId ∨
        snapshot.activityId ≠ event.activityId)
        (invalidModule "campaign resume belongs to another participant")
  | _ => .error (invalidModule "campaign resume is not a fresh admitted session")

def isResume (event : ReplayEvent) : Bool := decide (event.kind = .campaignResumed)

/-- The admission of a resumed session, when the journal has one. -/
def resumeSnapshot (events : List ReplayEvent) :
    Except ReplayError (Option (ReplayEvent × CampaignResumePayload)) :=
  match events.filter isResume with
  | [] => return none
  | [event] => do
      let resume ← decodeCampaignResume readResume event.payload
      checkAdmitted (events.takeWhile (fun row => !isResume row)) event resume
      return some (event, resume)
  | _ => .error (invalidModule "duplicate campaign admission")

/-- The boundary of a resumed expedition; other chapters have none. -/
def restoredMeridian (resume : CampaignResumePayload) : Except ReplayError (Option Checkpoint) := do
  let run ← require resume.state.active (invalidModule "resume has no active run")
  if run.chapter ≠ .meridianReadings then return none
  else
    match run.checkpoint with
    | 0 => return some .entrance
    | 1 => return some .arrival
    | 2 => return some .surveyComplete
    | _ => .error (invalidModule "unsupported Meridian boundary")

/-- The identity a resumed session belongs to and the boundary it restores. -/
def resumed (events : List ReplayEvent) :
    Except ReplayError (Option (String × Option Nat) × Option Checkpoint) := do
  match ← resumeSnapshot readResume events with
  | none => return (none, none)
  | some (event, resume) =>
      return (some (event.accountId, event.actorId), ← restoredMeridian resume)

end Resume

/-! ## The loop -/

/-- The variables of the validating loop. -/
structure ReplayState where
  phase : Nat
  owner : Option (String × Option Nat)
  meridian : Option Expedition
  fieldObjectives : String → Option ObjectiveState

/-- An objective update enters the reported objectives. -/
def report (objectives : String → Option ObjectiveState) (event : ActivityEvent) :
    String → Option ObjectiveState :=
  match event.objective? with
  | none => objectives
  | some objective => Function.update objectives objective.id (some objective.state)

/-- The prefixes of the other families of field rows. -/
def prefixed (payload : Payload) : Bool :=
  payload.lancer?.isSome || payload.bulwark?.isSome || payload.support?.isSome ||
    payload.recovery?.isSome || payload.signal?.isSome || payload.survival?.isSome ||
    payload.gauntlet?.isSome || payload.circuit?.isSome || payload.elite?.isSome ||
    payload.prism?.isSome

def isField (event : ReplayEvent) : Bool :=
  decide (event.kind = .fieldActivity) && !prefixed event.payload

def meridianPrefix : List Char := "meridian-v1:".toList

/-- The letters of a payload that starts like a row of the annex. -/
def meridianLetters? (payload : Payload) : Option (List Char) := do
  let letters ← payload.letters?
  let _ ← Text.stripPrefix meridianPrefix letters
  return letters

def started : Payload := .text "meridian-v1:started"

def applyMeridian (events : List ReplayEvent) (replay : ReplayState) (event : ReplayEvent)
    (letters : List Char) : Except ReplayError ReplayState := do
  rejectIf (replay.phase ≠ 0 ∨
    ∃ other ∈ events, other.id < event.id ∧ other.kind.progressesMain = true) invalid
  if event.payload = started ∧ replay.meridian = none then
    return { replay with meridian := some Expedition.start }
  else
    let id := Text.trimStartMatches meridianPrefix letters
    let station ← require (Meridian.stations.find? (fun station => station.id.toList = id)) invalid
    let run ← require replay.meridian invalid
    let (after, payload, updates) ← require (run.visit station.position) invalid
    rejectIf (Payload.text payload ≠ event.payload) invalid
    return { replay with
      meridian := some after, fieldObjectives := updates.foldl report replay.fieldObjectives }

/-- The phase of the coolant run after a row. -/
def coolantPhase (phase : Nat) (payload : Payload) : Option Nat :=
  if (phase = 0 ∨ phase = 3) ∧ payload = .text "coolant_run:started" then some 1
  else if phase = 1 ∧ payload = .text "coolant_run:transfer" then some 2
  else if (phase = 1 ∨ phase = 2) ∧ payload = .text "coolant_run:expired" then some 3
  else if phase = 2 ∧ payload = .text "coolant_run:completed" then some 4
  else none

/-- One turn of the loop, with the identity the row must have. -/
def applyField (events : List ReplayEvent) (replay : ReplayState) (event : ReplayEvent) :
    Except ReplayError ReplayState := do
  let identity := (event.accountId, event.actorId)
  rejectIf (event.actorId = none ∨ ∃ prior ∈ replay.owner, prior ≠ identity) invalid
  let replay := { replay with owner := some identity }
  match meridianLetters? event.payload with
  | some letters => applyMeridian events replay event letters
  | none => do
      rejectIf (replay.meridian ≠ none) invalid
      let phase ← require (coolantPhase replay.phase event.payload) invalid
      return { replay with phase }

def applyEvent (events : List ReplayEvent) (replay : ReplayState) (event : ReplayEvent) :
    Except ReplayError ReplayState :=
  if isField event then applyField events replay event else .ok replay

def initial (owner : Option (String × Option Nat)) (restored : Option Checkpoint) : ReplayState :=
  { phase := 0, owner, meridian := restored.map Expedition.restore, fieldObjectives := fun _ => none }

/-- The objectives a journal reports in the end. -/
def ReplayState.reported (replay : ReplayState) : String → Option ObjectiveState :=
  match replay.meridian with
  | none => replay.fieldObjectives
  | some run => run.objectives.foldl report replay.fieldObjectives

def validateFieldActivityEvents (readResume : Payload → Encoded CampaignResumePayload)
    (events : List ReplayEvent) : Except ReplayError (String → Option ObjectiveState) := do
  let (owner, restored) ← resumed readResume events
  let replay ← fold applyEvent events (initial owner restored) events
  rejectIf (replay.owner.isSome ∧ ∃ event ∈ events,
    event.kind.isRouteEvent = true ∨ event.kind.isCooperationEvent = true) invalid
  return replay.reported

/-! ## What one row does -/

/-- The row may be written by the owner of the field rows before it. -/
structure Identified (replay : ReplayState) (event : ReplayEvent) : Prop where
  actor : event.actorId ≠ none
  same : ∀ prior ∈ replay.owner, prior = (event.accountId, event.actorId)

/-- The accepted turns of the loop. -/
inductive Turn (replay : ReplayState) (event : ReplayEvent) : ReplayState → Prop
  | entered (idle : replay.phase = 0) (outside : replay.meridian = none)
      (payload : event.payload = started) :
      Turn replay event
        { replay with
          owner := some (event.accountId, event.actorId), meridian := some Expedition.start }
  | visited {run after : Expedition} {payload : String} {updates : List ActivityEvent}
      {station : Meridian.Station} (idle : replay.phase = 0) (inside : replay.meridian = some run)
      (visited : run.visit station.position = some (after, payload, updates))
      (written : event.payload = .text payload) :
      Turn replay event
        { replay with
          owner := some (event.accountId, event.actorId), meridian := some after
          fieldObjectives := updates.foldl report replay.fieldObjectives }
  | coolant {phase : Nat} (outside : replay.meridian = none)
      (moved : coolantPhase replay.phase event.payload = some phase) :
      Turn replay event { replay with owner := some (event.accountId, event.actorId), phase }

section Loop

variable {events : List ReplayEvent} {replay next : ReplayState} {event : ReplayEvent}

/-- No row before this one moved the main mission. -/
def Calm (events : List ReplayEvent) (event : ReplayEvent) : Prop :=
  ∀ other ∈ events, other.id < event.id → other.kind.progressesMain = false

theorem applyMeridian_turn {letters : List Char}
    (accepted : applyMeridian events
      { replay with owner := some (event.accountId, event.actorId) } event letters = .ok next) :
    Turn replay event next := by
  unfold applyMeridian at accepted
  rw [guard_bind_eq_ok, rejectIf_eq_ok] at accepted
  obtain ⟨free, accepted⟩ := accepted
  have idle : replay.phase = 0 := not_not.mp (not_or.mp free).1
  split at accepted
  · next entering =>
    cases accepted
    exact .entered idle entering.2 entering.1
  · simp only [bind_eq_ok, require_eq_ok, exists_unit, rejectIf_eq_ok, pure_eq_ok,
      not_not] at accepted
    obtain ⟨station, -, run, inside, ⟨after, payload, updates⟩, visited, written, rfl⟩ := accepted
    exact .visited idle inside visited written.symm

theorem applyField_turn (accepted : applyField events replay event = .ok next) :
    Identified replay event ∧ Turn replay event next := by
  unfold applyField at accepted
  rw [guard_bind_eq_ok, rejectIf_eq_ok] at accepted
  obtain ⟨known, accepted⟩ := accepted
  obtain ⟨actor, same⟩ := not_or.mp known
  refine ⟨⟨actor, fun prior owns => ?_⟩, ?_⟩
  · by_contra other
    exact same ⟨prior, owns, other⟩
  · cases annex : meridianLetters? event.payload with
    | some letters =>
        simp only [annex] at accepted
        exact applyMeridian_turn accepted
    | none =>
        simp only [annex, bind_eq_ok, require_eq_ok, exists_unit, rejectIf_eq_ok, pure_eq_ok,
          not_not] at accepted
        obtain ⟨outside, phase, moved, rfl⟩ := accepted
        exact .coolant outside moved

/-! ## What a written row does -/

/-- A row of another kind or family is passed over. -/
theorem applyEvent_other (other : isField event = false) :
    applyEvent events replay event = .ok replay := by
  rw [applyEvent, other, if_neg Bool.false_ne_true]

theorem isField_text {value : String} (kind : event.kind = .fieldActivity)
    (payload : event.payload = .text value) : isField event = true := by
  simp only [isField, kind, payload, prefixed, Payload.lancer?, Payload.bulwark?,
    Payload.support?, Payload.recovery?, Payload.signal?, Payload.survival?, Payload.gauntlet?,
    Payload.circuit?, Payload.elite?, Payload.prism?, Option.isSome_none, Bool.or_self,
    Bool.not_false, decide_true, Bool.and_self]

theorem Identified.passes (identified : Identified replay event) :
    ¬ (event.actorId = none ∨ ∃ prior ∈ replay.owner, prior ≠ (event.accountId, event.actorId)) := by
  rintro (missing | ⟨prior, owns, other⟩)
  · exact identified.actor missing
  · exact other (identified.same prior owns)

theorem Calm.passes (calm : Calm events event) (idle : replay.phase = 0) :
    ¬ (replay.phase ≠ 0 ∨
      ∃ other ∈ events, other.id < event.id ∧ other.kind.progressesMain = true) := by
  rintro (busy | ⟨other, member, earlier, moved⟩)
  · exact busy idle
  · rw [calm other member earlier] at moved
    cases moved

theorem meridianLetters?_append (id : String) :
    meridianLetters? (.text (Meridian.revision ++ ":" ++ id)) =
      some (meridianPrefix ++ id.toList) := by
  have letters : (Meridian.revision ++ ":" ++ id).toList = meridianPrefix ++ id.toList := by
    rw [String.toList_append]
    rfl
  simp only [meridianLetters?, Payload.letters?, letters]
  rfl

/-- The identifier behind the prefix names the station. -/
theorem find_station {station : Meridian.Station} (member : station ∈ Meridian.stations) :
    Meridian.stations.find? (fun other => other.id.toList =
      Text.trimStartMatches meridianPrefix (meridianPrefix ++ station.id.toList)) = some station := by
  have every : ∀ station ∈ Meridian.stations,
      Text.stripPrefix meridianPrefix station.id.toList = none ∧
        Meridian.stations.find? (fun other => other.id.toList = station.id.toList) =
          some station := by
    decide +kernel
  obtain ⟨once, found⟩ := every station member
  rw [Text.trimStartMatches_append (by decide) once]
  exact found

theorem applyField_entered (identified : Identified replay event) (calm : Calm events event)
    (idle : replay.phase = 0) (outside : replay.meridian = none)
    (payload : event.payload = started) :
    applyField events replay event = .ok { replay with
      owner := some (event.accountId, event.actorId), meridian := some Expedition.start } := by
  have letters := meridianLetters?_append "started"
  simp only [applyField, guard_bind_eq_ok, rejectIf_eq_ok]
  refine ⟨identified.passes, ?_⟩
  rw [payload, show started = .text (Meridian.revision ++ ":" ++ "started") from rfl, letters]
  simp only [applyMeridian, guard_bind_eq_ok, rejectIf_eq_ok]
  exact ⟨calm.passes idle, by rw [if_pos ⟨payload, outside⟩]; rfl⟩

theorem applyField_visited {run after : Expedition} {station : Meridian.Station}
    {updates : List ActivityEvent} (identified : Identified replay event)
    (calm : Calm events event) (idle : replay.phase = 0) (inside : replay.meridian = some run)
    (member : station ∈ Meridian.stations)
    (visited : run.visit station.position =
      some (after, Meridian.revision ++ ":" ++ station.id, updates))
    (payload : event.payload = .text (Meridian.revision ++ ":" ++ station.id)) :
    applyField events replay event = .ok { replay with
      owner := some (event.accountId, event.actorId), meridian := some after
      fieldObjectives := updates.foldl report replay.fieldObjectives } := by
  have letters := meridianLetters?_append station.id
  simp only [applyField, guard_bind_eq_ok, rejectIf_eq_ok]
  refine ⟨identified.passes, ?_⟩
  rw [payload, letters]
  simp only [applyMeridian, guard_bind_eq_ok, rejectIf_eq_ok]
  refine ⟨calm.passes idle, ?_⟩
  rw [if_neg (by rw [inside]; exact fun entering => Option.some_ne_none _ entering.2)]
  simp only [find_station member, inside, visited, payload, require, bind, Except.bind, pure,
    Except.pure, rejectIf, ne_eq, not_true_eq_false, if_false]

theorem applyField_coolant {phase : Nat} (identified : Identified replay event)
    (outside : replay.meridian = none) (plain : meridianLetters? event.payload = none)
    (moved : coolantPhase replay.phase event.payload = some phase) :
    applyField events replay event =
      .ok { replay with owner := some (event.accountId, event.actorId), phase } := by
  simp only [applyField, guard_bind_eq_ok, rejectIf_eq_ok]
  refine ⟨identified.passes, ?_⟩
  rw [plain]
  simp only [outside, moved, require, bind, Except.bind, pure, Except.pure, rejectIf, ne_eq,
    not_true_eq_false, if_false]

/-- The loop looks at the whole journal only for what came before a row. -/
theorem stable_append {journal : List ReplayEvent} (later : ∀ old ∈ journal, old.id < event.id) :
    Stable applyEvent journal [event] := by
  intro old member replay
  have before : ∀ replay : ReplayState, (replay.phase ≠ 0 ∨ ∃ other ∈ journal ++ [event],
      other.id < old.id ∧ other.kind.progressesMain = true) ↔ (replay.phase ≠ 0 ∨
        ∃ other ∈ journal, other.id < old.id ∧ other.kind.progressesMain = true) := by
    intro replay
    have past := later old member
    simp only [List.mem_append, List.mem_singleton]
    constructor
    · rintro (busy | ⟨other, known | rfl, earlier, moved⟩)
      · exact Or.inl busy
      · exact Or.inr ⟨other, known, earlier, moved⟩
      · omega
    · rintro (busy | ⟨other, known, earlier, moved⟩)
      · exact Or.inl busy
      · exact Or.inr ⟨other, Or.inl known, earlier, moved⟩
  have same : ∀ replay letters, applyMeridian (journal ++ [event]) replay old letters =
      applyMeridian journal replay old letters := by
    intro replay letters
    unfold applyMeridian rejectIf
    simp only [before]
  simp only [applyEvent, applyField, same]

end Loop

/-! ## What an accepted journal holds -/

def fieldRows (events : List ReplayEvent) : List ReplayEvent := events.filter isField

def fieldPayloads (events : List ReplayEvent) : List Payload :=
  (fieldRows events).map ReplayEvent.payload

def coolantRow (name : String) : Payload := .text ("coolant_run:" ++ name)

def visitRow (id : String) : Payload := .text (Meridian.revision ++ ":" ++ id)

/-- The rows of an attempt that expired. -/
def expiredAttempts : List (List Payload) :=
  [[coolantRow "started", coolantRow "expired"],
    [coolantRow "started", coolantRow "transfer", coolantRow "expired"]]

/-- The rows of an attempt that goes on or was completed. -/
def otherAttempts : List (List Payload) :=
  [[coolantRow "started"], [coolantRow "started", coolantRow "transfer"],
    [coolantRow "started", coolantRow "transfer", coolantRow "completed"]]

/-- A chain of coolant attempts, all but the last expired. -/
def CoolantChain (rows : List Payload) : Prop :=
  ∃ attempts : List (List Payload), rows = attempts.flatten ∧
    (∀ attempt ∈ attempts.dropLast, attempt ∈ expiredAttempts) ∧
    ∀ attempt ∈ attempts.getLast?, attempt ∈ expiredAttempts ++ otherAttempts

/-- One visit sequence of the annex in authored order; a resumed one continues
the stations behind its boundary. -/
def MeridianVisits (restored : Option Checkpoint) (rows : List Payload) : Prop :=
  ∃ visited, rows = (if restored = none then [started] else []) ++ visited.map visitRow ∧
    Meridian.InOrder (restored.elim [] Checkpoint.completed ++ visited)

/-- The rows of the attempt that is under way or was completed. -/
def openRows : Nat → List Payload
  | 1 => [coolantRow "started"]
  | 2 => [coolantRow "started", coolantRow "transfer"]
  | 4 => [coolantRow "started", coolantRow "transfer", coolantRow "completed"]
  | _ => []

/-- Expired attempts and the rows of the last one. -/
structure Attempted (phase : Nat) (rows : List Payload) : Prop where
  split : ∃ attempts : List (List Payload), rows = attempts.flatten ++ openRows phase ∧
    (∀ attempt ∈ attempts, attempt ∈ expiredAttempts) ∧ (phase = 0 → attempts = [])
  known : phase ≤ 4

namespace Attempted

variable {phase next : Nat} {rows : List Payload} {row : Payload}

/-- One more row of the coolant run. -/
theorem snoc (attempted : Attempted phase rows) (moved : coolantPhase phase row = some next) :
    Attempted next (rows ++ [row]) := by
  obtain ⟨attempts, rfl, expired, -⟩ := attempted.split
  unfold coolantPhase at moved
  split_ifs at moved with restart transferring expiring completing
  · cases moved
    obtain ⟨fresh, rfl⟩ := restart
    refine ⟨⟨attempts, ?_, expired, nofun⟩, by decide⟩
    rcases fresh with rfl | rfl
    all_goals rw [List.append_assoc]; rfl
  · cases moved
    obtain ⟨rfl, rfl⟩ := transferring
    exact ⟨⟨attempts, by rw [List.append_assoc]; rfl, expired, nofun⟩, by decide⟩
  · cases moved
    obtain ⟨running, rfl⟩ := expiring
    refine ⟨⟨attempts ++ [openRows phase ++ [coolantRow "expired"]], ?_, ?_, nofun⟩, by decide⟩
    · rw [List.flatten_append, List.append_assoc]
      simp [openRows, coolantRow]
    · intro attempt member
      rw [List.mem_append, List.mem_singleton] at member
      rcases member with old | rfl
      · exact expired attempt old
      · rcases running with rfl | rfl
        all_goals decide
  · cases moved
    obtain ⟨rfl, rfl⟩ := completing
    exact ⟨⟨attempts, by rw [List.append_assoc]; rfl, expired, nofun⟩, by decide⟩

theorem chain (attempted : Attempted phase rows) : CoolantChain rows := by
  obtain ⟨attempts, rfl, expired, -⟩ := attempted.split
  have shapes : openRows phase = [] ∨ openRows phase ∈ otherAttempts := by
    have known := attempted.known
    have values : phase = 0 ∨ phase = 1 ∨ phase = 2 ∨ phase = 3 ∨ phase = 4 := by omega
    rcases values with rfl | rfl | rfl | rfl | rfl
    all_goals decide
  rcases shapes with none | last
  · refine ⟨attempts, by rw [none, List.append_nil], ?_, ?_⟩
    · exact fun attempt member => expired attempt (List.mem_of_mem_dropLast member)
    · exact fun attempt member =>
        List.mem_append_left _ (expired attempt (List.mem_of_getLast? member))
  · refine ⟨attempts ++ [openRows phase], by simp, ?_, ?_⟩
    · rw [List.dropLast_concat]
      exact expired
    · intro attempt member
      rw [List.getLast?_append, List.getLast?_singleton, Option.some_or] at member
      cases member
      exact List.mem_append_right _ last

end Attempted

/-- What the loop has read. -/
inductive History (restored : Option Checkpoint) (read : List ReplayEvent) (replay : ReplayState) :
    Prop
  | coolant (fresh : restored = none) (outside : replay.meridian = none)
      (attempted : Attempted replay.phase (fieldPayloads read)) : History restored read replay
  | meridian (visited : List String) (progress : Meridian.Progress) (idle : replay.phase = 0)
      (inside : replay.meridian = some progress.expedition)
      (rows : fieldPayloads read =
        (if restored = none then [started] else []) ++ visited.map visitRow)
      (explored : Meridian.Explored (restored.elim [] Checkpoint.completed ++ visited) progress) :
      History restored read replay

theorem fieldPayloads_snoc {read : List ReplayEvent} {event : ReplayEvent}
    (field : isField event = true) :
    fieldPayloads (read ++ [event]) = fieldPayloads read ++ [event.payload] := by
  simp only [fieldPayloads, fieldRows, List.filter_append, List.map_append, List.filter_cons,
    field, if_true, List.filter_nil, List.map_cons, List.map_nil]

theorem fieldPayloads_other {read : List ReplayEvent} {event : ReplayEvent}
    (other : isField event = false) : fieldPayloads (read ++ [event]) = fieldPayloads read := by
  simp only [fieldPayloads, fieldRows, List.filter_append, List.filter_cons, other,
    Bool.false_eq_true, if_false, List.filter_nil, List.append_nil]

theorem History.turn {restored : Option Checkpoint} {read : List ReplayEvent}
    {replay next : ReplayState} {event : ReplayEvent} (history : History restored read replay)
    (field : isField event = true) (turn : Turn replay event next) :
    History restored (read ++ [event]) next := by
  have grown := @fieldPayloads_snoc read _ field
  cases history with
  | coolant fresh outside attempted =>
      cases turn with
      | entered idle _ payload =>
          have none : fieldPayloads read = [] := by
            obtain ⟨attempts, rows, -, empty⟩ := attempted.split
            rw [rows, empty idle, idle]
            rfl
          refine .meridian [] ⟨0, 0, false⟩ idle rfl ?_ ?_
          · rw [grown, none, payload, if_pos fresh]
            rfl
          · rw [fresh]
            exact Meridian.explored_nil
      | visited _ inside => rw [outside] at inside; cases inside
      | coolant _ moved =>
          refine .coolant fresh outside ?_
          rw [grown]
          exact attempted.snoc moved
  | meridian visited progress idle inside rows explored =>
      cases turn with
      | entered _ outside => rw [inside] at outside; cases outside
      | visited _ again found written =>
          rw [inside] at again
          cases again
          obtain ⟨station, member, -, rfl, -, next, moved, rfl⟩ :=
            Meridian.visit_eq_some explored.bounded found
          refine .meridian (visited ++ [station.id]) next idle rfl ?_ ?_
          · rw [grown, rows, written, List.append_assoc, List.map_append]
            rfl
          · rw [← List.append_assoc]
            exact explored.visit member moved
      | coolant outside => rw [inside] at outside; cases outside

/-- The identity of the field rows read so far. -/
structure Owned (owner : Option (String × Option Nat)) (read : List ReplayEvent)
    (replay : ReplayState) : Prop where
  claimed : ∀ prior ∈ owner, replay.owner = some prior
  rows : ∀ row ∈ fieldRows read, replay.owner = some (row.accountId, row.actorId) ∧
    row.actorId ≠ none

theorem Turn.owner {replay next : ReplayState} {event : ReplayEvent}
    (turn : Turn replay event next) : next.owner = some (event.accountId, event.actorId) := by
  cases turn <;> rfl

theorem Owned.turn {owner : Option (String × Option Nat)} {read : List ReplayEvent}
    {replay next : ReplayState} {event : ReplayEvent} (owned : Owned owner read replay)
    (field : isField event = true) (identified : Identified replay event)
    (turn : Turn replay event next) : Owned owner (read ++ [event]) next := by
  have kept : ∀ prior, replay.owner = some prior → next.owner = some prior := by
    intro prior owns
    rw [turn.owner, identified.same prior owns]
  constructor
  · exact fun prior given => kept prior (owned.claimed prior given)
  · intro row member
    simp only [fieldRows, List.filter_append, List.mem_append, List.filter_cons, field, if_true,
      List.filter_nil, List.mem_singleton] at member
    rcases member with old | rfl
    · exact ⟨kept _ (owned.rows row old).1, (owned.rows row old).2⟩
    · exact ⟨turn.owner, identified.actor⟩

/-- What the loop keeps, row after row. -/
theorem history_fold {owner : Option (String × Option Nat)} {restored : Option Checkpoint}
    {events : List ReplayEvent} {replay : ReplayState}
    (accepted : fold applyEvent events (initial owner restored) events = .ok replay) :
    History restored events replay ∧ Owned owner events replay := by
  refine @foldlM_history _ _ _ _ (fun read replay => History restored read replay ∧
    Owned owner read replay) _ _ _ accepted ?_ ?_
  · refine ⟨?_, fun prior given => given, fun row member => by cases member⟩
    cases restored with
    | none =>
        exact .coolant rfl rfl ⟨⟨[], rfl, fun _ member => absurd member List.not_mem_nil,
          fun _ => rfl⟩, Nat.zero_le 4⟩
    | some checkpoint =>
        obtain ⟨progress, explored, same, -⟩ := Meridian.restore_explored checkpoint
        refine .meridian [] progress rfl (congrArg some same) rfl ?_
        rw [List.append_nil]
        exact explored
  · rintro read replay event next ⟨history, owned⟩ turned
    unfold applyEvent at turned
    split at turned
    · next field =>
      obtain ⟨identified, turn⟩ := applyField_turn turned
      exact ⟨history.turn field turn, owned.turn field identified turn⟩
    · next other =>
      cases turned
      rw [Bool.not_eq_true] at other
      constructor
      · cases history with
        | coolant fresh outside attempted =>
            exact .coolant fresh outside (by rwa [fieldPayloads_other other])
        | meridian visited progress idle inside rows explored =>
            exact .meridian visited progress idle inside (by rwa [fieldPayloads_other other])
              explored
      · refine ⟨owned.claimed, ?_⟩
        have same : fieldRows (read ++ [event]) = fieldRows read := by
          simp [fieldRows, other]
        rw [same]
        exact owned.rows

section Accepted

variable {readResume : Payload → Encoded CampaignResumePayload} {events : List ReplayEvent}

/-- A journal without a resume row restores nothing. -/
theorem resumed_fresh (fresh : events.filter isResume = []) :
    resumed readResume events = .ok (none, none) := by
  simp only [resumed, resumeSnapshot, fresh]
  rfl

/-- A resume row names an actor, whose session it is. -/
theorem resumed_owner {owner : Option (String × Option Nat)} {restored : Option Checkpoint}
    (read : resumed readResume events = .ok (owner, restored)) :
    ∀ row ∈ events, isResume row = true →
      owner = some (row.accountId, row.actorId) ∧ row.actorId ≠ none := by
  intro row member resume
  have inside : row ∈ events.filter isResume := List.mem_filter.mpr ⟨member, resume⟩
  unfold resumed resumeSnapshot at read
  split at read
  · next none => rw [none] at inside; cases inside
  · next event only =>
    rw [only, List.mem_singleton] at inside
    subst inside
    simp only [bind_eq_ok, pure_eq_ok, exists_unit] at read
    obtain ⟨_, ⟨payload, -, admitted, rfl⟩, read⟩ := read
    simp only [bind_eq_ok, pure_eq_ok, Prod.mk.injEq] at read
    obtain ⟨checkpoint, -, rfl, -⟩ := read
    refine ⟨rfl, ?_⟩
    unfold checkAdmitted at admitted
    simp only [bind_eq_ok, require_eq_ok] at admitted
    obtain ⟨run, -, admitted⟩ := admitted
    split at admitted
    · rw [guard_bind_eq_ok, rejectIf_eq_ok] at admitted
      exact fun missing => admitted.1 (Or.inl missing)
    · cases admitted
  · cases read

/-- What an accepted journal holds of field activities. -/
structure Accepted (readResume : Payload → Encoded CampaignResumePayload)
    (events : List ReplayEvent) : Prop where
  shape : ∃ owner restored, resumed readResume events = .ok (owner, restored) ∧
    (restored = none ∧ CoolantChain (fieldPayloads events) ∨
      MeridianVisits restored (fieldPayloads events))
  owner : ∃ accountId actorId, ∀ row ∈ events, isField row = true ∨ isResume row = true →
    row.accountId = accountId ∧ row.actorId = some actorId
  apart : (∃ row ∈ events, isField row = true ∨ isResume row = true) →
    ∀ event ∈ events, event.kind.isRouteEvent = false ∧ event.kind.isCooperationEvent = false

theorem accepted_of_validate {objectives : String → Option ObjectiveState}
    (validated : validateFieldActivityEvents readResume events = .ok objectives) :
    Accepted readResume events := by
  simp only [validateFieldActivityEvents, bind_eq_ok, exists_unit, rejectIf_eq_ok] at validated
  obtain ⟨⟨owner, restored⟩, read, replay, folded, apart, -⟩ := validated
  obtain ⟨history, owned⟩ := history_fold folded
  have claims : ∀ row ∈ events, isField row = true ∨ isResume row = true →
      replay.owner = some (row.accountId, row.actorId) ∧ row.actorId ≠ none := by
    rintro row member (field | resume)
    · exact owned.rows row (List.mem_filter.mpr ⟨member, field⟩)
    · obtain ⟨rfl, named⟩ := resumed_owner read row member resume
      exact ⟨owned.claimed _ rfl, named⟩
  constructor
  case shape =>
    refine ⟨owner, restored, read, ?_⟩
    cases history with
    | coolant fresh _ attempted => exact Or.inl ⟨fresh, attempted.chain⟩
    | meridian visited progress _ _ rows explored =>
        exact Or.inr ⟨visited, rows, explored.inOrder⟩
  case owner =>
    by_cases some : ∃ row ∈ events, isField row = true ∨ isResume row = true
    · obtain ⟨first, member, own⟩ := some
      obtain ⟨claimed, named⟩ := claims first member own
      obtain ⟨actorId, actor⟩ := Option.ne_none_iff_exists'.mp named
      refine ⟨first.accountId, actorId, ?_⟩
      intro row member own
      have same := (claims row member own).1.symm.trans claimed
      rw [Option.some.injEq, Prod.mk.injEq, actor] at same
      exact same
    · exact ⟨"", 0, fun row member own => absurd ⟨row, member, own⟩ some⟩
  case apart =>
    rintro ⟨first, member, own⟩ event inside
    have claimed := (claims first member own).1
    have clean := not_and.mp apart (by rw [claimed, Option.isSome_some])
    constructor
    · rw [Bool.eq_false_iff]
      exact fun route => clean ⟨event, inside, Or.inl route⟩
    · rw [Bool.eq_false_iff]
      exact fun cooperation => clean ⟨event, inside, Or.inr cooperation⟩

end Accepted

/-! ## The reported objectives -/

section Reports

variable {objectives : String → Option ObjectiveState} {id : String}

theorem foldl_report_other {updates : List ActivityEvent}
    (other : ∀ event ∈ updates, ∀ objective ∈ event.objective?, objective.id ≠ id) :
    updates.foldl report objectives id = objectives id := by
  induction updates generalizing objectives with
  | nil => rfl
  | cons event updates inductionHypothesis =>
      rw [List.foldl_cons, inductionHypothesis (fun later member =>
        other later (List.mem_cons_of_mem _ member))]
      unfold report
      cases names : event.objective? with
      | none => rfl
      | some objective =>
          exact Function.update_of_ne (other event List.mem_cons_self objective names).symm _ _

/-- Objectives with different identifiers are reported as they are. -/
theorem foldl_report_all {authored : List Objective} (distinct : (authored.map Objective.id).Nodup) :
    (authored.map ActivityEvent.objectiveUpdated).foldl report objectives id =
      match authored.find? (fun objective => objective.id = id) with
      | some objective => some objective.state
      | none => objectives id := by
  induction authored generalizing objectives with
  | nil => rfl
  | cons objective authored inductionHypothesis =>
      rw [List.map_cons, List.nodup_cons] at distinct
      rw [List.map_cons, List.foldl_cons, inductionHypothesis distinct.2]
      by_cases same : objective.id = id
      · have absent : authored.find? (fun objective => objective.id = id) = none := by
          rw [List.find?_eq_none]
          intro other member found
          exact distinct.1 (List.mem_map.mpr ⟨other, member, by simp_all⟩)
        rw [absent, List.find?_cons_of_pos (by simpa using same), ← same]
        exact Function.update_self _ _ _
      · rw [List.find?_cons_of_neg (by simpa using same)]
        cases authored.find? (fun objective => objective.id = id) with
        | some found => rfl
        | none => exact Function.update_of_ne (Ne.symm same) _ _

/-- What the loop has reported of an expedition besides its scripts. -/
structure Reports (objectives : String → Option ObjectiveState) (run : Expedition) : Prop where
  optional : objectives "meridian_memory" = if run.memory then some .completed else none
  others : ∀ id, id ∉ Meridian.surveyOrder ++ Meridian.returnOrder → id ≠ "meridian_memory" →
    objectives id = none

theorem reports_initial {run : Expedition} (unseen : run.memory = false) :
    Reports (fun _ => none) run :=
  ⟨by rw [unseen]; rfl, fun _ _ _ => rfl⟩

theorem Reports.visit {progress : Meridian.Progress} {after : Expedition} {station : Meridian.Station}
    {updates : List ActivityEvent} (reports : Reports objectives progress.expedition)
    (bounded : progress.Bounded) (member : station ∈ Meridian.stations)
    (reached : progress.expedition.reach station.id = (after, updates)) :
    Reports (updates.foldl report objectives) after := by
  rcases Expedition.reach_memory reached with ⟨-, seen, rfl⟩ | ⟨other, kept⟩
  · constructor
    · rw [seen]
      rfl
    · intro id outside apart
      rw [foldl_report_other]
      · exact reports.others id outside apart
      · intro event present objective names
        rw [List.mem_singleton] at present
        subst present
        cases names
        exact apart.symm
  · have authored := Meridian.Progress.reach_reports bounded member other
    rw [reached] at authored
    constructor
    · rw [foldl_report_other, reports.optional, kept]
      intro event present objective names same
      have inside := authored event present objective names
      rw [same] at inside
      exact absurd inside (by decide)
    · intro id outside apart
      rw [foldl_report_other]
      · exact reports.others id outside apart
      · rintro event present objective names rfl
        exact outside (authored event present objective names)

/-- In the end every objective is reported as the expedition shows it. -/
theorem Reports.reported {progress : Meridian.Progress}
    (reports : Reports objectives progress.expedition) (bounded : progress.Bounded) :
    progress.expedition.objectives.foldl report objectives = progress.expedition.shown := by
  have ids := Meridian.Progress.authored_ids bounded
  funext id
  unfold Expedition.objectives Expedition.shown
  rw [foldl_report_all (by rw [ids]; decide)]
  cases found : progress.expedition.authored.find? (fun objective => objective.id = id) with
  | some objective => rfl
  | none =>
      have outside : id ∉ Meridian.surveyOrder ++ Meridian.returnOrder := by
        rw [← ids, List.mem_map]
        rintro ⟨objective, member, same⟩
        exact absurd (decide_eq_true same) (List.find?_eq_none.mp found objective member)
      by_cases optional : id = "meridian_memory"
      · subst optional
        rw [reports.optional]
        simp only [true_and]
      · rw [reports.others id outside optional, if_neg (fun both => optional both.1)]

end Reports

end FieldActivity
end Replay
end Revenant
