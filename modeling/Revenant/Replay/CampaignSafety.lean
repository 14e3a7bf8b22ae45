import Revenant.Campaign.Progress
import Revenant.Library.Splits
import Revenant.Replay.CampaignAuthority

namespace Revenant
namespace Replay
namespace Campaign

open Library

/-!
# Accepted campaign sessions

What the reader keeps about the checkpoints of a session: their transitions
form a chain that the published policies propose, every milestone and every
story choice rests on a row behind the checkpoint before it, and the record
counts the clears.  Identifiers grow along a journal, so the rows that prove
two checkpoints differ.
-/

/-! ## Entries of a journal -/

section Entries

variable (readers : CampaignReaders)

/-- The entry of a checkpoint row. -/
def entryOf (event : ReplayEvent) : Option CampaignReplayPayload :=
  if event.kind = .campaignCheckpoint then (decodeCampaignPayload readers event.payload).toOption
  else none

/-- The entries of a journal in their order. -/
def entries (events : List ReplayEvent) : List CampaignReplayPayload :=
  events.filterMap (entryOf readers)

/-- The identifiers of the rows the checkpoints refer to. -/
def proofIds (events : List ReplayEvent) : List Int :=
  (entries readers events).filterMap CampaignReplayPayload.proofEventId

end Entries

/-- The policy a transition names proposes it from its own save. -/
def Proposed (transition : Campaign.Transition) : Prop :=
  ∃ policy, Campaign.Policy.named transition.revision = some policy ∧
    Campaign.proposePolicy policy transition.before transition.before.revision
      transition.command = .ok transition

variable {readers : CampaignReaders}
  {authority : List ReplayEvent → ReplayEvent → Except ReplayError Bool}
  {participants : List ReconstructedModuleParticipant} {events read : List ReplayEvent}
  {event proof checkpoint : ReplayEvent} {entry : CampaignReplayPayload}
  {transition : Campaign.Transition} {milestone : Revenant.Milestone}

theorem entryOf_of_ne (other : event.kind ≠ .campaignCheckpoint) : entryOf readers event = none :=
  if_neg other

theorem entryOf_of_decode (kind : event.kind = .campaignCheckpoint)
    (decoded : decodeCampaignPayload readers event.payload = .ok entry) :
    entryOf readers event = some entry := by
  rw [entryOf, if_pos kind, decoded]
  rfl

/-- What the decoder has checked. -/
theorem decode_spec {payload : Payload}
    (decoded : decodeCampaignPayload readers payload = .ok entry) :
    Proposed entry.transition ∧ entry.citesProof = true := by
  simp only [decodeCampaignPayload, CampaignReplayPayload.validate, bind_eq_ok, exists_unit,
    rejectIf_eq_ok, require_eq_ok, pure_eq_ok, mapError_eq_ok, not_or, Bool.not_eq_false,
    not_not] at decoded
  obtain ⟨-, value, -, ⟨valid, -, -, -, -, cites⟩, rfl⟩ := decoded
  exact ⟨Campaign.Transition.validate_iff.mp valid, cites⟩

/-! ## Proposed transitions -/

/-- A proposed transition as an entry of a campaign history. -/
theorem Proposed.accepted (proposed : Proposed transition) :
    ∃ policy, Campaign.Entry.Accepted
      { policy, command := transition.command, before := transition.before
        after := transition.after, firstClear := transition.firstClear } := by
  obtain ⟨policy, named, accepted⟩ := proposed
  refine ⟨policy, ?_⟩
  have text := Campaign.Policy.text_of_named named
  unfold Campaign.Entry.Accepted
  rw [accepted, text]

/-- A confirmation is of the next milestone of the active run. -/
theorem confirms_of_step {available : Nat} {state : CampaignState} {runId : String}
    {outcome : Campaign.Outcome}
    (step : Campaign.Step available state (.confirm runId milestone) outcome) :
    ∃ run, state.active = some run ∧ run.runId = runId ∧ state.nextMilestone = some milestone := by
  cases step with
  | confirm active next _ => exact ⟨_, active, rfl, next⟩
  | complete active next _ => exact ⟨_, active, rfl, next⟩

theorem Proposed.confirms (proposed : Proposed transition) {runId : String}
    (command : transition.command = .confirm runId milestone) :
    ∃ run, transition.before.active = some run ∧ run.runId = runId ∧
      transition.before.nextMilestone = some milestone := by
  obtain ⟨policy, accepted⟩ := proposed.accepted
  obtain ⟨-, step, -⟩ := accepted.step
  dsimp only at step
  rw [command] at step
  exact confirms_of_step step

/-- The next milestone belongs to the chapter of the active run. -/
theorem mem_milestones {state : CampaignState} {run : ChapterRun} (active : state.active = some run)
    (next : state.nextMilestone = some milestone) : milestone ∈ run.chapter.milestones := by
  unfold CampaignState.nextMilestone at next
  rw [active] at next
  exact (state.milestones_perm run.chapter).mem_iff.mp (List.mem_of_getElem? next)

/-! ## Evidence of a milestone -/

/-- An encounter of the given kind started behind the last boundary, for the
account and in the activity of the row that proves it. -/
def StartedBehind (older : List ReplayEvent) (proof : ReplayEvent) (kind : ReplayEventKind)
    (own : Payload → Bool) : Prop :=
  ∃ front boundary back spawn, older = front ++ boundary :: back ∧ isBoundary boundary = true ∧
    (∀ row ∈ back, isBoundary row = false) ∧ spawn ∈ back ∧ spawn.kind = kind ∧
    own spawn.payload = true ∧ spawn.accountId = proof.accountId ∧
    spawn.activityId = proof.activityId

/-- The row is the death of an enemy of the archetype, which an earlier row
spawned for the same account. -/
def Killed (events : List ReplayEvent) (proof : ReplayEvent) (archetype : String) : Prop :=
  proof.kind = .enemyDied ∧ proof.payload = .text ("enemy died: " ++ archetype) ∧
    ∃ enemy spawn, proof.actorId = some enemy ∧ spawn ∈ events ∧ spawn.id < proof.id ∧
      spawn.actorId = some enemy ∧ spawn.accountId = proof.accountId ∧
      isSpawnOf archetype spawn = true

/-- The guard whose death is a milestone. -/
def guardOf : Revenant.Milestone → Option String
  | .relayGuardCleared => some "relay-drone"
  | .returnSignalRecovered | .breachGuardCleared => some "warden"
  | .supplyGuardCleared => some "signal-sentinel"
  | _ => none

/-- The milestones that are won in a fight. -/
def isEncounter (milestone : Revenant.Milestone) : Bool :=
  (guardOf milestone).isSome ||
    decide (milestone ∈ [.prismWardenCleared, .counterSupportCleared, .counterBastionCleared])

/-- How a fight shows in the rows before its proof: the guard fell, or the
encounter's own validator reads a completed encounter. -/
inductive Fought (authority : List ReplayEvent → ReplayEvent → Except ReplayError Bool)
    (events : List ReplayEvent) (proof : ReplayEvent) : Revenant.Milestone → Prop
  | guard {milestone : Revenant.Milestone} {archetype : String}
      (guarded : guardOf milestone = some archetype) (killed : Killed events proof archetype) :
      Fought authority events proof milestone
  | prism (started : StartedBehind (olderRows events proof) proof .bossSpawned Prism.own)
      (completed : Prism.validate authority (olderRows events proof) = .ok (some .completed)) :
      Fought authority events proof .prismWardenCleared
  | support (started : StartedBehind (olderRows events proof) proof .enemySpawned Support.own)
      (completed : Support.validate (olderRows events proof) = .ok (some .completed)) :
      Fought authority events proof .counterSupportCleared
  | bastion (started : StartedBehind (olderRows events proof) proof .enemySpawned Elite.own)
      (completed : Elite.validate (olderRows events proof) =
        .ok (some (.bastionLink, .completed))) :
      Fought authority events proof .counterBastionCleared

variable {accountId : String}

theorem killed_of_enemyDied {archetype : String}
    (died : enemyDied events accountId proof archetype = true)
    (account : proof.accountId = accountId) : Killed events proof archetype := by
  simp only [enemyDied, Bool.and_eq_true, decide_eq_true_eq, Option.any_eq_true,
    List.any_eq_true] at died
  obtain ⟨⟨kind, payload⟩, enemy, actor, spawn, member, ⟨older, named, same⟩, spawned⟩ := died
  exact ⟨kind, payload, enemy, spawn, actor, member, older, named, same.trans account.symm, spawned⟩

theorem verifyEncounter_shown {kind : ReplayEventKind} {own : Payload → Bool}
    {completed : List ReplayEvent → Except ReplayError Bool} (ascending : Ascending events)
    (shown : verifyEncounter kind own completed events proof = .ok true) :
    StartedBehind (olderRows events proof) proof kind own ∧
      completed (olderRows events proof) = .ok true := by
  unfold verifyEncounter at shown
  split at shown
  · rw [pure_eq_ok] at shown
    cases shown
  · next boundary found =>
      split at shown
      · next started =>
          obtain ⟨spawn, member, newer, starts, mine, account, activity⟩ := started
          obtain ⟨front, back, split, marked, quiet⟩ := split_of_reverse_find? found
          have older : Ascending (olderRows events proof) := ascending.filter _
          have behind : spawn ∈ back := mem_back_of_newer (split ▸ older) (split ▸ member) newer
          exact ⟨⟨front, boundary, back, spawn, split, marked, quiet, behind, starts, mine, account,
            activity⟩, shown⟩
      · rw [pure_eq_ok] at shown
        cases shown

theorem prismCompleted_iff : prismCompleted authority events = .ok true ↔
    Prism.validate authority events = .ok (some .completed) := by
  simp only [prismCompleted, bind_eq_ok, pure_eq_ok, decide_eq_true_eq, exists_eq_right]

theorem supportCompleted_iff : supportCompleted events = .ok true ↔
    Support.validate events = .ok (some .completed) := by
  simp only [supportCompleted, bind_eq_ok, pure_eq_ok, decide_eq_true_eq, exists_eq_right]

theorem bastionCompleted_iff : bastionCompleted events = .ok true ↔
    Elite.validate events = .ok (some (.bastionLink, .completed)) := by
  simp only [bastionCompleted, bind_eq_ok, pure_eq_ok, decide_eq_true_eq, exists_eq_right]

/-- What passes its test passes what the test guards. -/
theorem ite_pure_false {condition : Prop} [Decidable condition]
    {answer : Except ReplayError Bool}
    (shown : (if condition then answer else pure false) = .ok true) : answer = .ok true := by
  split at shown
  · exact shown
  · rw [pure_eq_ok] at shown
    cases shown

variable {actorId : Nat}

/-- A fight that the milestone's own check accepts was fought. -/
theorem fought_of_holds (ascending : Ascending events) (account : proof.accountId = accountId)
    (holds : milestoneHolds readers authority events accountId actorId proof milestone = .ok true)
    (encounter : isEncounter milestone = true) : Fought authority events proof milestone := by
  unfold milestoneHolds at holds
  cases milestone with
  | relayGuardCleared | returnSignalRecovered | breachGuardCleared | supplyGuardCleared =>
      exact .guard rfl (killed_of_enemyDied (pure_eq_ok.mp holds) account)
  | prismWardenCleared =>
      obtain ⟨started, completed⟩ := verifyEncounter_shown ascending (ite_pure_false holds)
      exact .prism started (prismCompleted_iff.mp completed)
  | counterSupportCleared =>
      obtain ⟨started, completed⟩ := verifyEncounter_shown ascending (ite_pure_false holds)
      exact .support started (supportCompleted_iff.mp completed)
  | counterBastionCleared =>
      obtain ⟨started, completed⟩ := verifyEncounter_shown ascending (ite_pure_false holds)
      exact .bastion started (bastionCompleted_iff.mp completed)
  | _ => cases encounter

theorem verifyCampaignMilestone_spec {proofId : Int}
    (verified : verifyCampaignMilestone readers authority events accountId actorId milestone
      proofId = .ok ()) :
    ∃ proof ∈ events, proof.id = proofId ∧ proof.accountId = accountId ∧
      milestoneHolds readers authority events accountId actorId proof milestone = .ok true := by
  simp only [verifyCampaignMilestone, bind_eq_ok, exists_unit, require_eq_ok, rejectIf_eq_ok,
    not_not, Bool.not_eq_false] at verified
  obtain ⟨proof, found, account, valid, holds, rfl⟩ := verified
  have same := List.find?_some found
  exact ⟨proof, List.mem_of_find?_eq_some found, of_decide_eq_true same, account, holds⟩

/-! ## Rows behind a boundary -/

/-- The row that proves a checkpoint lies behind the boundary before it, with no
other checkpoint or admission in between, in the checkpoint's own activity. -/
structure Backed (earlier : List ReplayEvent) (checkpoint proof : ReplayEvent)
    (entry : CampaignReplayPayload) : Prop where
  behind : ∃ front boundary rows rest, earlier = front ++ boundary :: (rows ++ proof :: rest) ∧
    isSessionBoundary boundary = true ∧ ∀ row ∈ rows ++ proof :: rest, isBoundary row = false
  cited : entry.proofEventId = some proof.id
  account : proof.accountId = checkpoint.accountId
  activity : proof.activityId = checkpoint.activityId

/-- Rows of an ascending journal are known by their identifiers. -/
theorem eq_of_id (ascending : Ascending events) {first second : ReplayEvent}
    (left : first ∈ events) (right : second ∈ events) (same : first.id = second.id) :
    first = second := by
  have apart : events.Pairwise (fun first second => first.id ≠ second.id) :=
    ascending.imp (fun less => ne_of_lt less)
  have injective := List.inj_on_of_nodup_map (f := ReplayEvent.id)
    (List.nodup_iff_pairwise_ne.mpr (List.pairwise_map.mpr apart))
  exact injective left right same

theorem backed_of_confirm {before : List ReplayEvent} (ascending : Ascending before)
    (verified : verifyConfirm readers authority before event entry actorId milestone = .ok ()) :
    ∃ proof, Backed before event proof entry ∧
      milestoneHolds readers authority before event.accountId actorId proof milestone =
        .ok true := by
  simp only [verifyConfirm, bind_eq_ok, exists_unit, require_eq_ok, rejectIf_eq_ok, not_or,
    not_not, Int.not_le] at verified
  obtain ⟨proofId, cited, boundary, found, ⟨newer, row, member, same, activity⟩, shown⟩ := verified
  obtain ⟨proof, inside, named, account, holds⟩ := verifyCampaignMilestone_spec shown
  obtain rfl : row = proof := eq_of_id ascending member inside (same.trans named.symm)
  obtain ⟨front, back, split, marked, quiet⟩ := split_of_reverse_find? found
  have behind : row ∈ back :=
    mem_back_of_newer (split ▸ ascending) (split ▸ inside) (named.symm ▸ newer)
  obtain ⟨rows, rest, rfl⟩ := List.append_of_mem behind
  refine ⟨row, ⟨⟨front, boundary, rows, rest, split, marked, ?_⟩, ?_, account, activity⟩, holds⟩
  · intro other member
    exact (Bool.or_eq_false_iff.mp (quiet other member)).1
  · rw [cited, named]

/-- What a story row says is what the server made of the command. -/
theorem backed_of_story {before : List ReplayEvent} (ascending : Ascending before)
    (verified : verifyStory readers before event entry = .ok ()) :
    ∃ proof shown, Backed before event proof entry ∧ proof.kind = .campaignStory ∧
      proof.actorId = event.actorId ∧ proof.sessionId = event.sessionId ∧
      (readers.story proof.payload).value = some shown ∧
      CampaignStoryProof.new entry.characterId entry.transition.before entry.transition.command =
        .ok shown := by
  simp only [verifyStory, bind_eq_ok, require_eq_ok, rejectIf_eq_ok, not_or, not_not,
    Int.not_le] at verified
  obtain ⟨proof, located, boundary, found, shown, expected, actual, read, kind, newer, actor,
    account, activity, session, rfl⟩ := verified
  have cited := List.find?_some located
  obtain ⟨front, back, split, marked, quiet⟩ := split_of_reverse_find? found
  have behind : proof ∈ back := mem_back_of_newer (split ▸ ascending)
    (split ▸ List.mem_of_find?_eq_some located) newer
  obtain ⟨rows, rest, rfl⟩ := List.append_of_mem behind
  refine ⟨proof, actual, ⟨⟨front, boundary, rows, rest, split, ?_, quiet⟩,
    (of_decide_eq_true cited).symm, account, activity⟩, kind, actor, session, read, expected⟩
  rw [isSessionBoundary, marked, Bool.true_or]

variable {earlier : List ReplayEvent}

/-- The proof is newer than every checkpoint before it. -/
theorem Backed.newer (ascending : Ascending earlier)
    (backed : Backed earlier checkpoint proof entry) :
    ∀ row ∈ earlier, row.kind = .campaignCheckpoint → row.id < proof.id := by
  obtain ⟨front, boundary, rows, rest, rfl, -, quiet⟩ := backed.behind
  intro row member kind
  obtain ⟨-, ordered, crossed⟩ := List.pairwise_append.mp ascending
  have inside : proof ∈ rows ++ proof :: rest :=
    List.mem_append_right _ List.mem_cons_self
  rcases List.mem_append.mp member with old | member
  · exact crossed row old proof (List.mem_cons_of_mem _ inside)
  · rcases List.mem_cons.mp member with rfl | later
    · exact (List.pairwise_cons.mp ordered).1 proof inside
    · have calm := quiet row later
      rw [isBoundary, kind] at calm
      cases calm

theorem Backed.mem (backed : Backed earlier checkpoint proof entry) : proof ∈ earlier := by
  obtain ⟨front, boundary, rows, rest, rfl, -⟩ := backed.behind
  simp only [List.mem_append, List.mem_cons, true_or, or_true]

/-! ## What proves a checkpoint -/

/-- What the rows before a checkpoint have to show for its command. -/
inductive Proved (readers : CampaignReaders)
    (authority : List ReplayEvent → ReplayEvent → Except ReplayError Bool)
    (earlier : List ReplayEvent) (checkpoint : ReplayEvent) (entry : CampaignReplayPayload) : Prop
  | entered {runId : String} {chapter : ChapterId} {mode : RunMode}
      (command : entry.transition.command = .enter runId chapter mode)
      (uncited : entry.proofEventId = none)
      (activity : checkpoint.activityId = some chapter.asStr)
  | confirmed {runId : String} {milestone : Revenant.Milestone} {run : ChapterRun} {actorId : Nat}
      {proof : ReplayEvent} (command : entry.transition.command = .confirm runId milestone)
      (active : entry.transition.before.active = some run)
      (own : milestone ∈ run.chapter.milestones)
      (activity : checkpoint.activityId = some run.chapter.asStr)
      (actor : checkpoint.actorId = some actorId) (backed : Backed earlier checkpoint proof entry)
      (holds : milestoneHolds readers authority earlier checkpoint.accountId actorId proof
        milestone = .ok true)
      (fought : isEncounter milestone = true → Fought authority earlier proof milestone)
  | told {runId : String} {position : Position} {action : Campaign.Story.Command}
      {run : ChapterRun} {proof : ReplayEvent} {shown : CampaignStoryProof}
      (command : entry.transition.command = .story runId position action)
      (active : entry.transition.before.active = some run)
      (activity : checkpoint.activityId = some run.chapter.asStr)
      (backed : Backed earlier checkpoint proof entry) (kind : proof.kind = .campaignStory)
      (actor : proof.actorId = checkpoint.actorId)
      (session : proof.sessionId = checkpoint.sessionId)
      (read : (readers.story proof.payload).value = some shown)
      (expected : CampaignStoryProof.new entry.characterId entry.transition.before
        entry.transition.command = .ok shown)

/-- The row a proved checkpoint cites lies between the checkpoints before it and it. -/
theorem Proved.cited (ascending : Ascending earlier)
    (proved : Proved readers authority earlier checkpoint entry) :
    ∀ id ∈ entry.proofEventId, (∃ proof ∈ earlier, proof.id = id) ∧
      ∀ row ∈ earlier, row.kind = .campaignCheckpoint → row.id < id := by
  have ofBacked : ∀ proof, Backed earlier checkpoint proof entry → ∀ id ∈ entry.proofEventId,
      (∃ proof ∈ earlier, proof.id = id) ∧
        ∀ row ∈ earlier, row.kind = .campaignCheckpoint → row.id < id := by
    intro proof backed id found
    rw [backed.cited] at found
    cases found
    exact ⟨⟨proof, backed.mem, rfl⟩, backed.newer ascending⟩
  cases proved with
  | entered _ uncited =>
      intro id found
      rw [uncited] at found
      cases found
  | confirmed _ _ _ _ _ backed => exact ofBacked _ backed
  | told _ _ _ backed => exact ofBacked _ backed

/-! ## What one checkpoint does -/

/-- The chapter of a command that is given inside a run. -/
theorem active_of_chapter {chapter : ChapterId}
    (found : transition.before.active.map ChapterRun.chapter = some chapter) :
    ∃ run, transition.before.active = some run ∧ run.chapter = chapter :=
  Option.map_eq_some_iff.mp found

theorem proved_of_verify {reading : CampaignReading} {chapter : ChapterId}
    (ascending : Ascending reading.before) (proposed : Proposed entry.transition)
    (cites : entry.citesProof = true) (placed : entryChapter entry.transition = some chapter)
    (activity : event.activityId = some chapter.asStr) (actor : event.actorId = some actorId)
    (verified : verifyEntry readers authority reading event entry actorId = .ok ()) :
    Proved readers authority reading.before event entry := by
  unfold verifyEntry at verified
  unfold entryChapter at placed
  cases command : entry.transition.command with
  | enter runId entered mode =>
      rw [command] at placed
      cases placed
      refine .entered command ?_ activity
      rw [CampaignReplayPayload.citesProof, command] at cites
      exact Option.isNone_iff_eq_none.mp cites
  | confirm runId milestone =>
      rw [command] at placed verified
      obtain ⟨run, active, rfl⟩ := active_of_chapter placed
      obtain ⟨proof, backed, holds⟩ := backed_of_confirm ascending verified
      obtain ⟨other, same, -, next⟩ := proposed.confirms command
      rw [active] at same
      cases same
      exact .confirmed command active (mem_milestones active next) activity actor backed holds
        (fought_of_holds ascending backed.account holds)
  | story runId position action =>
      rw [command] at placed verified
      obtain ⟨run, active, rfl⟩ := active_of_chapter placed
      obtain ⟨told, -⟩ := guard_bind_eq_ok.mp verified
      obtain ⟨proof, shown, backed, kind, same, session, read, expected⟩ :=
        backed_of_story ascending told
      exact .told command active activity backed kind same session read expected

/-- An accepted checkpoint continues the record of the only participant. -/
theorem applyCheckpoint_cases {reading following : CampaignReading}
    (accepted : applyCheckpoint readers authority participants reading event = .ok following) :
    ∃ entry participant chapter, decodeCampaignPayload readers event.payload = .ok entry ∧
      participants = [participant] ∧ participant.characterId = entry.characterId ∧
      entryChapter entry.transition = some chapter ∧ event.activityId = some chapter.asStr ∧
      event.actorId = some participant.actorId ∧
      verifyEntry readers authority reading event entry participant.actorId = .ok () ∧
      (recordOf reading.campaigns entry).state = entry.transition.before ∧
      following = {
        before := reading.before ++ [event]
        campaigns := putCampaign (advanceRecord (recordOf reading.campaigns entry) entry.transition)
          reading.campaigns
        operations := entry.operationId :: reading.operations } := by
  simp only [applyCheckpoint, bind_eq_ok, exists_unit, require_eq_ok, rejectIf_eq_ok, pure_eq_ok,
    not_or, not_not] at accepted
  obtain ⟨entry, decoded, participant, found, chapter, placed, ⟨single, -, actor, activity, -⟩,
    verified, continues, rfl⟩ := accepted
  obtain ⟨only, rfl⟩ := List.length_eq_one_iff.mp single
  have same := List.find?_some found
  have member := List.mem_of_find?_eq_some found
  rw [List.mem_singleton] at member
  subst member
  exact ⟨entry, participant, chapter, decoded, rfl, of_decide_eq_true same, placed, activity, actor,
    verified, continues, rfl⟩

/-! ## The record -/

/-- The record of a character after some of its checkpoints. -/
structure Traced (read : List CampaignReplayPayload) (start : CampaignState)
    (campaign : ReconstructedCampaign) : Prop where
  chain : Chain (fun entry : CampaignReplayPayload => entry.transition.before)
    (fun entry => entry.transition.after) start read campaign.state
  checkpoints : campaign.checkpoints = read.length
  firstClears : campaign.firstClears =
    (read.filterMap (fun entry => entry.transition.firstClear)).length
  character : ∀ entry ∈ read, entry.characterId = campaign.characterId

theorem traced_new (characterId : String) (state : CampaignState) :
    Traced [] state { characterId, state, checkpoints := 0, firstClears := 0 } :=
  ⟨Chain.nil _, rfl, rfl, fun _ member => absurd member List.not_mem_nil⟩

theorem Traced.snoc {read : List CampaignReplayPayload} {start : CampaignState}
    {campaign : ReconstructedCampaign} (traced : Traced read start campaign)
    (continues : campaign.state = entry.transition.before)
    (character : entry.characterId = campaign.characterId) :
    Traced (read ++ [entry]) start (advanceRecord campaign entry.transition) := by
  constructor
  · exact Chain.snoc_iff.mpr ⟨continues ▸ traced.chain, rfl⟩
  · rw [List.length_append, ← traced.checkpoints]
    rfl
  · rw [filterMap_snoc, List.length_append, ← traced.firstClears]
    unfold advanceRecord
    cases entry.transition.firstClear <;> rfl
  · intro other member
    rcases List.mem_append.mp member with old | new
    · exact traced.character other old
    · rw [List.mem_singleton.mp new]
      exact character

/-- The records of a session with checkpoints: at most the one of its only
participant, from where the session began. -/
inductive Recorded (participants : List ReconstructedModuleParticipant)
    (initial : List ReconstructedCampaign) (read : List CampaignReplayPayload) :
    List ReconstructedCampaign → Prop
  | empty (fresh : initial = []) (silent : read = []) : Recorded participants initial read []
  | one {campaign : ReconstructedCampaign} {start : CampaignState}
      {participant : ReconstructedModuleParticipant} (solo : participants = [participant])
      (owned : participant.characterId = campaign.characterId)
      (began : ∀ record ∈ initial,
        record.state = start ∧ record.characterId = campaign.characterId)
      (traced : Traced read start campaign) : Recorded participants initial read [campaign]

theorem Recorded.snoc {initial campaigns : List ReconstructedCampaign}
    {read : List CampaignReplayPayload} {participant : ReconstructedModuleParticipant}
    (recorded : Recorded participants initial read campaigns) (solo : participants = [participant])
    (owned : participant.characterId = entry.characterId)
    (continues : (recordOf campaigns entry).state = entry.transition.before) :
    Recorded participants initial (read ++ [entry])
      (putCampaign (advanceRecord (recordOf campaigns entry) entry.transition) campaigns) := by
  cases recorded with
  | empty fresh silent =>
      subst silent
      refine .one solo owned ?_ ((traced_new entry.characterId entry.transition.before).snoc rfl rfl)
      intro record member
      rw [fresh] at member
      cases member
  | @one campaign start other single own began traced =>
      rw [solo] at single
      cases single
      have character : campaign.characterId = entry.characterId := own.symm.trans owned
      have same : recordOf [campaign] entry = campaign := by
        simp only [recordOf, List.find?_cons, character, decide_true, Option.getD_some]
      have put : putCampaign (advanceRecord campaign entry.transition) [campaign] =
          [advanceRecord campaign entry.transition] := by
        simp only [putCampaign, advanceRecord, ne_eq, not_true_eq_false, decide_false,
          List.filter_cons, Bool.false_eq_true, if_false, List.filter_nil, List.orderedInsert]
      rw [same] at continues ⊢
      rw [put]
      exact .one solo own began (traced.snoc continues character.symm)

/-! ## Every row keeps it -/

/-- What the reader has found about the rows read so far. -/
structure Kept (readers : CampaignReaders)
    (authority : List ReplayEvent → ReplayEvent → Except ReplayError Bool)
    (participants : List ReconstructedModuleParticipant) (initial : List ReconstructedCampaign)
    (read : List ReplayEvent) (reading : CampaignReading) : Prop where
  rows : reading.before = read
  decoded : ∀ row ∈ read, row.kind = .campaignCheckpoint → (entryOf readers row).isSome = true
  proved : ∀ front row back, read = front ++ row :: back → ∀ entry ∈ entryOf readers row,
    Proposed entry.transition ∧ Proved readers authority front row entry
  older : ∀ id ∈ proofIds readers read, ∃ row ∈ read, row.kind = .campaignCheckpoint ∧ id < row.id
  distinct : (proofIds readers read).Pairwise (· < ·)
  recorded : Recorded participants initial (entries readers read) reading.campaigns

variable {initial : List ReconstructedCampaign} {reading following : CampaignReading}

theorem entries_snoc (read : List ReplayEvent) (event : ReplayEvent) :
    entries readers (read ++ [event]) = entries readers read ++ (entryOf readers event).toList :=
  filterMap_snoc _ _ _

theorem Kept.skip (kept : Kept readers authority participants initial read reading)
    (other : event.kind ≠ .campaignCheckpoint) :
    Kept readers authority participants initial (read ++ [event])
      { reading with before := reading.before ++ [event] } := by
  have absent : entryOf readers event = none := entryOf_of_ne other
  have same : entries readers (read ++ [event]) = entries readers read := by
    rw [entries_snoc, absent, Option.toList_none, List.append_nil]
  have ids : proofIds readers (read ++ [event]) = proofIds readers read := by
    rw [proofIds, same, proofIds]
  constructor
  · rw [kept.rows]
  · intro row member kind
    rcases List.mem_append.mp member with old | new
    · exact kept.decoded row old kind
    · rw [List.mem_singleton.mp new] at kind
      exact absurd kind other
  · refine forall_split_snoc (fun front row _ => ∀ entry ∈ entryOf readers row,
      Proposed entry.transition ∧ Proved readers authority front row entry) kept.proved ?_
    intro entry found
    rw [absent] at found
    cases found
  · intro id member
    rw [ids] at member
    obtain ⟨row, old, kind, less⟩ := kept.older id member
    exact ⟨row, List.mem_append_left _ old, kind, less⟩
  · rw [ids]
    exact kept.distinct
  · rw [same]
    exact kept.recorded

theorem Kept.take (kept : Kept readers authority participants initial read reading)
    (ascending : Ascending (read ++ [event])) (kind : event.kind = .campaignCheckpoint)
    (accepted : applyCheckpoint readers authority participants reading event = .ok following) :
    Kept readers authority participants initial (read ++ [event]) following := by
  obtain ⟨entry, participant, chapter, decoded, solo, owned, placed, activity, actor, verified,
    continues, rfl⟩ := applyCheckpoint_cases accepted
  obtain ⟨earlier, -, last⟩ := List.pairwise_append.mp ascending
  have before : ∀ row ∈ read, row.id < event.id :=
    fun row member => last row member event (List.mem_singleton_self event)
  obtain ⟨proposed, cites⟩ := decode_spec decoded
  have found : entryOf readers event = some entry := entryOf_of_decode kind decoded
  have proved : Proved readers authority read event entry := by
    have shown := proved_of_verify (kept.rows ▸ earlier) proposed cites placed activity actor verified
    rwa [kept.rows] at shown
  have grown : entries readers (read ++ [event]) = entries readers read ++ [entry] := by
    rw [entries_snoc, found, Option.toList_some]
  have ids : proofIds readers (read ++ [event]) =
      proofIds readers read ++ entry.proofEventId.toList := by
    rw [proofIds, grown, filterMap_snoc, proofIds]
  have cited := proved.cited earlier
  constructor
  · rw [kept.rows]
  · intro row member checkpoint
    rcases List.mem_append.mp member with old | new
    · exact kept.decoded row old checkpoint
    · rw [List.mem_singleton.mp new, found, Option.isSome_some]
  · refine forall_split_snoc (fun front row _ => ∀ entry ∈ entryOf readers row,
      Proposed entry.transition ∧ Proved readers authority front row entry) kept.proved ?_
    intro other same
    rw [found] at same
    cases same
    exact ⟨proposed, proved⟩
  · intro id member
    rw [ids, List.mem_append, Option.mem_toList] at member
    rcases member with old | new
    · obtain ⟨row, inside, checkpoint, less⟩ := kept.older id old
      exact ⟨row, List.mem_append_left _ inside, checkpoint, less⟩
    · obtain ⟨proof, inside, rfl⟩ := (cited id new).1
      exact ⟨event, List.mem_append_right _ (List.mem_singleton_self event), kind,
        before proof inside⟩
  · rw [ids, List.pairwise_append]
    refine ⟨kept.distinct, ?_, ?_⟩
    · cases entry.proofEventId with
      | none => exact List.Pairwise.nil
      | some id => exact List.pairwise_singleton _ _
    · intro old member new cites
      obtain ⟨row, inside, checkpoint, less⟩ := kept.older old member
      exact less.trans ((cited new (Option.mem_toList.mp cites)).2 row inside checkpoint)
  · rw [grown]
    exact kept.recorded.snoc solo owned continues

/-- The run rule of the reader. -/
theorem kept_of_fold {last : CampaignReading} (ascending : Ascending events)
    (begun : Recorded participants initial [] initial)
    (accepted : events.foldlM (applyRow readers authority participants)
      { before := [], campaigns := initial, operations := [] } = .ok last) :
    Kept readers authority participants initial events last := by
  refine @foldlM_history _ _ _ _ (fun read reading => Ascending read →
    Kept readers authority participants initial read reading) _ _ _ accepted ?_ ?_ ascending
  · intro _
    exact {
      rows := rfl
      decoded := fun _ member => absurd member List.not_mem_nil
      proved := fun front row back split =>
        absurd split.symm (List.append_ne_nil_of_right_ne_nil _ (List.cons_ne_nil _ _))
      older := fun _ member => absurd member List.not_mem_nil
      distinct := List.Pairwise.nil
      recorded := begun }
  · intro read reading event next history advanced ascending
    have kept := history (List.pairwise_append.mp ascending).1
    unfold applyRow at advanced
    split at advanced
    · next kind => exact kept.take ascending kind advanced
    · next other =>
        rw [pure_eq_ok] at advanced
        rw [← advanced]
        exact kept.skip other

/-! ## The whole session -/

/-- The transitions of a proposed chain grant as many first clears as they clear chapters. -/
theorem cleared_of_chain {start final : CampaignState} {read : List CampaignReplayPayload}
    (chain : Chain (fun entry : CampaignReplayPayload => entry.transition.before)
      (fun entry => entry.transition.after) start read final)
    (proposed : ∀ entry ∈ read, Proposed entry.transition) :
    final.clearedChapters = start.clearedChapters +
      (read.filterMap (fun entry => entry.transition.firstClear)).length := by
  refine chain.snocInduction (motive := fun read state => state.clearedChapters =
    start.clearedChapters + (read.filterMap (fun entry => entry.transition.firstClear)).length)
    rfl ?_ proposed
  intro read entry _ accepted _ inductionHypothesis
  obtain ⟨policy, step⟩ := accepted.accepted
  rw [filterMap_snoc, List.length_append]
  rcases step.grant with ⟨silent, same⟩ | ⟨run, milestone, -, -, -, -, cleared, granted⟩
  · dsimp only at silent same
    rw [silent, same, inductionHypothesis]
    rfl
  · dsimp only at cleared granted
    rw [granted, cleared, inductionHypothesis, Nat.add_assoc]
    rfl

/-- A first clear is granted for the last milestone of the next chapter, which
the active run makes progress in. -/
theorem Proposed.grant (proposed : Proposed transition) {grant : Campaign.FirstClear}
    (granted : transition.firstClear = some grant) :
    ∃ run milestone, transition.before.active = some run ∧ run.mode = .progress ∧
      transition.command = .confirm run.runId milestone ∧
      run.chapter.index = transition.before.clearedChapters ∧
      transition.after.clearedChapters = transition.before.clearedChapters + 1 ∧
      grant = { chapter := run.chapter, fragments := Campaign.firstClearFragments
                experience := Campaign.firstClearExperience } := by
  obtain ⟨policy, accepted⟩ := proposed.accepted
  rcases accepted.grant with ⟨silent, -⟩ | ⟨run, milestone, active, mode, command, next, cleared,
    same⟩
  · dsimp only at silent
    rw [silent] at granted
    cases granted
  · dsimp only at same
    rw [granted] at same
    exact ⟨run, milestone, active, mode, command, next, cleared, Option.some.inj same⟩

/-- A session that reads no admission has no resume row. -/
theorem no_resume {readResume : Payload → Encoded CampaignResumePayload}
    (fresh : FieldActivity.resumeSnapshot readResume events = .ok none) :
    ∀ row ∈ events, row.kind ≠ .campaignResumed := by
  unfold FieldActivity.resumeSnapshot at fresh
  split at fresh
  · next none =>
      intro row member kind
      exact List.filter_eq_nil_iff.mp none row member (decide_eq_true kind)
  · simp only [bind_eq_ok, pure_eq_ok, reduceCtorEq, and_false, exists_false] at fresh
  · cases fresh

theorem initialCampaigns_cases
    (begun : initialCampaigns readers events participants = .ok initial) :
    ((∀ row ∈ events, row.kind ≠ .campaignResumed) ∧ initial = []) ∨
      ∃ row resume participant,
        FieldActivity.resumeSnapshot readers.resume events = .ok (some (row, resume)) ∧
        participants = [participant] ∧ participant.characterId = resume.characterId ∧
        initial = [{ characterId := resume.characterId, state := resume.state
                     checkpoints := 0, firstClears := 0 }] := by
  simp only [initialCampaigns, bind_eq_ok] at begun
  obtain ⟨snapshot, found, begun⟩ := begun
  split at begun
  · rw [pure_eq_ok] at begun
    exact Or.inl ⟨no_resume found, begun.symm⟩
  · next row resume =>
      simp only [bind_eq_ok, exists_unit, rejectIf_eq_ok, pure_eq_ok, not_or, not_exists, not_and,
        not_not] at begun
      obtain ⟨⟨single, own⟩, rfl⟩ := begun
      obtain ⟨participant, rfl⟩ := List.length_eq_one_iff.mp single
      have character := (own participant (List.mem_singleton_self participant)).1
      exact Or.inr ⟨row, resume, participant, found, rfl, character, rfl⟩

theorem recorded_initial (begun : initialCampaigns readers events participants = .ok initial) :
    Recorded participants initial [] initial := by
  rcases initialCampaigns_cases begun with ⟨-, rfl⟩ | ⟨row, resume, participant, -, solo, own, rfl⟩
  · exact .empty rfl rfl
  · refine .one solo own ?_ (traced_new resume.characterId resume.state)
    intro record member
    rw [List.mem_singleton.mp member]
    exact ⟨rfl, rfl⟩

/-- What an accepted session proves about its checkpoints and its record. -/
structure AuthorizedCampaign (readers : CampaignReaders)
    (authority : List ReplayEvent → ReplayEvent → Except ReplayError Bool)
    (events : List ReplayEvent) (campaigns : List ReconstructedCampaign) : Prop where
  decoded : ∀ row ∈ events, row.kind = .campaignCheckpoint → (entryOf readers row).isSome = true
  proved : ∀ front row back, events = front ++ row :: back → ∀ entry ∈ entryOf readers row,
    Proposed entry.transition ∧ Proved readers authority front row entry
  distinct : (proofIds readers events).Pairwise (· < ·)
  granted : ∀ entry ∈ entries readers events, ∀ grant ∈ entry.transition.firstClear,
    ∃ run milestone, entry.transition.before.active = some run ∧ run.mode = .progress ∧
      entry.transition.command = .confirm run.runId milestone ∧
      grant = { chapter := run.chapter, fragments := Campaign.firstClearFragments
                experience := Campaign.firstClearExperience }
  record : (campaigns = [] ∧ ∀ row ∈ events, isBoundary row = false) ∨
    ∃ campaign start, campaigns = [campaign] ∧ Traced (entries readers events) start campaign ∧
      campaign.state.clearedChapters = start.clearedChapters + campaign.firstClears ∧
      ((∀ row ∈ events, row.kind ≠ .campaignResumed) ∨
        ∃ row resume, FieldActivity.resumeSnapshot readers.resume events =
          .ok (some (row, resume)) ∧ resume.state = start ∧
          resume.characterId = campaign.characterId)

theorem proposed_of_mem (kept : Kept readers authority participants initial events reading) :
    ∀ entry ∈ entries readers events, Proposed entry.transition := by
  intro entry member
  obtain ⟨row, inside, found⟩ := List.mem_filterMap.mp member
  obtain ⟨front, back, split⟩ := List.append_of_mem inside
  exact (kept.proved front row back split entry found).1

/-- A session without a record has no boundary. -/
theorem no_boundary (kept : Kept readers authority participants initial events reading)
    (silent : entries readers events = []) (fresh : ∀ row ∈ events, row.kind ≠ .campaignResumed) :
    ∀ row ∈ events, isBoundary row = false := by
  intro row member
  have unmarked : row.kind ≠ .campaignCheckpoint := by
    intro kind
    obtain ⟨entry, found⟩ := Option.isSome_iff_exists.mp (kept.decoded row member kind)
    have inside : entry ∈ entries readers events := List.mem_filterMap.mpr ⟨row, member, found⟩
    rw [silent] at inside
    cases inside
  have unresumed := fresh row member
  unfold isBoundary
  split
  · next kind => exact absurd kind unmarked
  · next kind => exact absurd kind unresumed
  · rfl

/-- Every accepted session has the authority of its rows: its transitions were
proposed by published policies, each rests on a row of the world that no other
one uses, and its record begins at the resumed save, if there is one. -/
theorem campaign_replay_authority {campaigns : List ReconstructedCampaign}
    (accepted : reconstructSession readers authority events = .ok campaigns) :
    AuthorizedCampaign readers authority events campaigns := by
  simp only [reconstructSession, reconstructModules, reconstruct, bind_eq_ok, exists_unit,
    pure_eq_ok] at accepted
  obtain ⟨session, ⟨first, -, ordered, -⟩, -, -, initial, begun, last, folded, rfl⟩ := accepted
  have kept := kept_of_fold (ascending_of_validateEventOrder ordered).1 (recorded_initial begun)
    folded
  constructor
  case decoded => exact kept.decoded
  case proved => exact kept.proved
  case distinct => exact kept.distinct
  case granted =>
    intro entry member grant granted
    obtain ⟨run, milestone, active, mode, command, -, -, same⟩ :=
      (proposed_of_mem kept entry member).grant granted
    exact ⟨run, milestone, active, mode, command, same⟩
  case record =>
    have recorded := kept.recorded
    generalize last.campaigns = campaigns at recorded
    cases recorded with
    | empty fresh silent =>
        rcases initialCampaigns_cases begun with ⟨resumed, -⟩ | ⟨row, resume, participant, -, -, -,
          same⟩
        · exact Or.inl ⟨rfl, no_boundary kept silent resumed⟩
        · rw [fresh] at same
          cases same
    | @one campaign start participant solo own began traced =>
        refine Or.inr ⟨campaign, start, rfl, traced, ?_, ?_⟩
        · rw [traced.firstClears]
          exact cleared_of_chain traced.chain (proposed_of_mem kept)
        · rcases initialCampaigns_cases begun with ⟨resumed, -⟩ | ⟨row, resume, other, found, -, -,
            rfl⟩
          · exact Or.inl resumed
          · obtain ⟨state, character⟩ := began _ (List.mem_singleton_self _)
            exact Or.inr ⟨row, resume, found, state, character⟩

/-! ## A chapter cleared in one session -/

/-- The checkpoints of the first chapter, each with the row that proves it. -/
def clearEntries : List CampaignReplayPayload :=
  (Campaign.clearedEntries.zip [none, some 5, some 8]).map (fun (entry, proofEventId) =>
    { schemaVersion := 1, characterId := "echo"
      operationId := "operation-" ++ toString entry.after.revision
      transition :=
        { revision := entry.policy.text, before := entry.before, command := entry.command
          after := entry.after, firstClear := entry.firstClear }
      proofEventId })

/-- The texts of the session's campaign rows. -/
def clearReaders : CampaignReaders where
  checkpoint := fun payload =>
    { value := clearEntries.find? (fun entry =>
        payload = .campaign (some entry.transition.after)), length := 1000 }
  resume := fun _ => { value := none, length := 0 }
  story := fun _ => { value := none, length := 0 }

def clearRow (id : Int) (kind : ReplayEventKind) (actorId : Nat) (payload : Payload) :
    ReplayEvent :=
  { id, kind, sessionId := "session-1", accountId := "local:echo"
    activityId := some ChapterId.returnSignal.asStr, actorId := some actorId, payload }

/-- Evidence of a character without modules. -/
def clearModules : ReplayModuleStateEvidence :=
  (moduleStateEvidenceForCatalog CatalogRevision.m35v2.text 0 [] [] 0 .v2).toOption.getD
    (evidenceRecord "" 0 [] [] 0 .v2 [])

/-- A player enters the first chapter and fights its two guards. -/
def clearJournal : List ReplayEvent :=
  [clearRow 1 .playerJoined 10 (.text "player joined"),
   clearRow 2 .moduleStateSnapshot 10 (.module
     { value := some (.stateSnapshot
        { schemaVersion := 1, characterId := "echo", protocolGeneration := .v2
          state := clearModules })
       length := 2000 }),
   clearRow 3 .campaignCheckpoint 10 (.campaign (some (Campaign.enteredState 1 0))),
   clearRow 4 .enemySpawned 20 (.text "enemy spawned: relay-drone"),
   clearRow 5 .enemyDied 20 (.text "enemy died: relay-drone"),
   clearRow 6 .campaignCheckpoint 10 (.campaign (some (Campaign.enteredState 2 1))),
   clearRow 7 .bossSpawned 30 (.text "boss spawned: warden"),
   clearRow 8 .enemyDied 30 (.text "enemy died: warden"),
   clearRow 9 .campaignCheckpoint 10 (.campaign (some Campaign.clearedState))]

theorem clearJournal_accepted :
    reconstructSession clearReaders (fun _ _ => .ok false) clearJournal =
      .ok [{ characterId := "echo", state := Campaign.clearedState, checkpoints := 3
             firstClears := 1 }] := by
  decide +kernel

theorem campaign_replay_authority_cleared :
    AuthorizedCampaign clearReaders (fun _ _ => .ok false) clearJournal
      [{ characterId := "echo", state := Campaign.clearedState, checkpoints := 3
         firstClears := 1 }] :=
  campaign_replay_authority clearJournal_accepted

end Campaign
end Replay
end Revenant
