import Revenant.Library.Splits
import Revenant.Replay.ChallengeAuthority

namespace Revenant
namespace Replay

open Library Challenges

/-!
# Accepted challenge sessions

What the reader keeps about the rows of an attempt: the checkpoints repeat
`apply` from the admitted save, only the last row can end the run, and every
proof is newer than the checkpoint before it.  Identifiers grow along a
journal, so no row proves two transitions.
-/

/-- The entry of a checkpoint row. -/
def checkpointEntry (event : ReplayEvent) : Option ChallengeReplayPayload :=
  if event.kind = .challengeCheckpoint then event.payload.challenge?.bind (·.value) else none

/-- The entries of a journal in their order. -/
def checkpointEntries (events : List ReplayEvent) : List ChallengeReplayPayload :=
  events.filterMap checkpointEntry

/-- Apply an entry's command to a save, under the policy the entry names. -/
def applyEntry (state : ChallengeState) (entry : ChallengeReplayPayload) :
    Except ChallengeError ChallengeState :=
  (applyNamed entry.policyRevision state state.revision entry.command).map Transition.state

theorem checkpointEntry_of_ne {event : ReplayEvent} (other : event.kind ≠ .challengeCheckpoint) :
    checkpointEntry event = none := if_neg other

variable {entry : ChallengeReplayPayload}

theorem decodeChallengePayload_entry {event : ReplayEvent}
    (kind : event.kind = .challengeCheckpoint)
    (decoded : decodeChallengePayload event.payload = .ok entry) :
    checkpointEntry event = some entry ∧ entry.WellFormed ∧ entry.Produced := by
  simp only [decodeChallengePayload, bind_eq_ok, exists_unit, require_eq_ok, rejectIf_eq_ok,
    pure_eq_ok] at decoded
  obtain ⟨encoded, stored, -, value, found, valid, rfl⟩ := decoded
  refine ⟨?_, ChallengeReplayPayload.validate_iff.mp valid⟩
  rw [checkpointEntry, if_pos kind, stored, Option.bind_some, found]

/-- A produced entry is what its command makes of its own save. -/
theorem applyEntry_of_produced (produced : entry.Produced) :
    applyEntry entry.before entry = .ok entry.after := by
  obtain ⟨policy, named, applied⟩ := produced
  rw [applyEntry, applyNamed_iff.mpr ⟨policy, named, applied⟩]
  rfl

/-! ## What one row can do -/

variable {before : List ReplayEvent} {boundary : ReplayEvent}

/-- The row an accepted entry rests on. -/
theorem proofWithin_spec {event proof : ReplayEvent}
    (found : proofWithin before boundary event entry = some proof) :
    proof ∈ before ∧ entry.proofEventId = some proof.id ∧ boundary.id < proof.id ∧
      sameSessionOwner event proof := by
  rw [proofWithin, Option.filter_eq_some_iff] at found
  obtain ⟨located, passed⟩ := found
  have hit := List.find?_some located
  rw [Bool.and_eq_true, decide_eq_true_eq, decide_eq_true_eq] at passed
  exact ⟨List.mem_of_find?_eq_some located, (of_decide_eq_true hit).symm, passed.1, passed.2⟩

/-- A transition that was verified starts nothing, and rests on a row newer than
the last checkpoint unless the run was withdrawn. -/
theorem verifyTransition_cases {event : ReplayEvent}
    (verified : verifyTransition before boundary event entry = .ok ()) :
    startEquipment entry.command = none ∧ (withdrawn entry.command = true ∨
      ∃ proof ∈ before, entry.proofEventId = some proof.id ∧ boundary.id < proof.id ∧
        sameSessionOwner event proof) := by
  simp only [verifyTransition, bind_eq_ok, exists_unit, rejectIf_eq_ok, Bool.not_eq_true,
    Option.isSome_eq_false_iff, Option.isNone_iff_eq_none] at verified
  obtain ⟨continued, branch⟩ := verified
  refine ⟨continued, ?_⟩
  split at branch
  · next given => exact Or.inl given
  · simp only [bind_eq_ok, require_eq_ok] at branch
    obtain ⟨proof, found, -⟩ := branch
    obtain ⟨member, referred, newer, owner⟩ := proofWithin_spec found
    exact Or.inr ⟨proof, member, referred, newer, owner⟩

/-- A row of an attempt changes nothing, or is the next checkpoint. -/
theorem applyAttemptRow_cases {admission event : ReplayEvent} {reading following : AttemptReading}
    {next : Option ReplayEvent}
    (accepted : applyAttemptRow admission before reading event next = .ok following) :
    reading.result.state.active ≠ none ∧
      ((event.kind ≠ .challengeCheckpoint ∧ following = reading) ∨
        (event.kind = .challengeCheckpoint ∧ ∃ entry, checkpointEntry event = some entry ∧
          entry.WellFormed ∧ entry.Produced ∧ entry.before = reading.result.state ∧
          verifyTransition before reading.boundary event entry = .ok () ∧
          following = {
            result := { reading.result with
              state := entry.after, checkpoints := reading.result.checkpoints + 1 }
            operations := entry.operationId :: reading.operations, boundary := event })) := by
  simp only [applyAttemptRow, bind_eq_ok, exists_unit, rejectIf_eq_ok] at accepted
  obtain ⟨-, running, -, branch⟩ := accepted
  refine ⟨fun ended => running (Option.isNone_iff_eq_none.mpr ended), ?_⟩
  split at branch
  · next kind =>
      simp only [applyCheckpoint, bind_eq_ok, exists_unit, rejectIf_eq_ok, pure_eq_ok, not_or,
        not_not] at branch
      obtain ⟨entry, decoded, ⟨-, continues, -, -⟩, verified, rfl⟩ := branch
      obtain ⟨found, formed, produced⟩ := decodeChallengePayload_entry kind decoded
      exact Or.inr ⟨kind, entry, found, formed, produced, continues, verified, rfl⟩
  · next other => exact Or.inl ⟨other, (Except.ok.inj branch).symm⟩

/-! ## What the reader keeps -/

/-- The row that proves a checkpoint lies between the checkpoint before and it,
with no other checkpoint in between, and the contract's own check accepted it. -/
def Backed (earlier : List ReplayEvent) (checkpoint : ReplayEvent)
    (entry : ChallengeReplayPayload) : Prop :=
  ∃ front previous between proof rest, earlier = front ++ previous :: (between ++ proof :: rest) ∧
    previous.kind = .challengeCheckpoint ∧
    (∀ event ∈ between ++ proof :: rest, event.kind ≠ .challengeCheckpoint) ∧
    entry.proofEventId = some proof.id ∧ sameSessionOwner checkpoint proof ∧
    verifyTransition earlier previous checkpoint entry = .ok ()

/-- A checkpoint behind the admission withdraws the run or is backed. -/
def Proved (earlier : List ReplayEvent) (checkpoint : ReplayEvent) : Prop :=
  ∀ entry, checkpointEntry checkpoint = some entry →
    withdrawn entry.command = true ∨ Backed earlier checkpoint entry

/-- Nothing follows a checkpoint that leaves no active run. -/
def Final (event : ReplayEvent) (later : List ReplayEvent) : Prop :=
  ∀ entry, checkpointEntry event = some entry → entry.after.active = none → later = []

/-- The identifiers of the rows a list of entries refers to. -/
def proofIds (entries : List ChallengeReplayPayload) : List Int :=
  entries.filterMap ChallengeReplayPayload.proofEventId

structure Attempting (start : List ReplayEvent) (admission : ReplayEvent)
    (payload : ChallengeReplayPayload) (after : List ReplayEvent) (reading : AttemptReading) :
    Prop where
  decoded : ∀ event ∈ after, event.kind = .challengeCheckpoint → (checkpointEntry event).isSome
  folded : (checkpointEntries after).foldlM applyEntry payload.after = .ok reading.result.state
  bounded : ∃ front back, start ++ admission :: after = front ++ reading.boundary :: back ∧
    reading.boundary.kind = .challengeCheckpoint ∧
    ∀ event ∈ back, event.kind ≠ .challengeCheckpoint
  continued : ∀ entry ∈ checkpointEntries after, startEquipment entry.command = none
  running : reading.result.state.active ≠ none →
    ∀ entry ∈ payload :: checkpointEntries after, entry.after.active ≠ none
  ending : ∀ front event back, admission :: after = front ++ event :: back → Final event back
  proved : ∀ front checkpoint back, after = front ++ checkpoint :: back →
    Proved (start ++ admission :: front) checkpoint
  older : ∀ id ∈ proofIds (payload :: checkpointEntries after), id < reading.boundary.id
  distinct : (proofIds (payload :: checkpointEntries after)).Nodup

theorem proofIds_append (entries : List ChallengeReplayPayload) (entry : ChallengeReplayPayload) :
    proofIds (entries ++ [entry]) = proofIds entries ++ entry.proofEventId.toList := by
  unfold proofIds
  rw [List.filterMap_append]
  cases found : entry.proofEventId <;> simp [found]

/-- A withdrawal refers to no row. -/
theorem proofEventId_of_withdrawn (formed : entry.WellFormed)
    (given : withdrawn entry.command = true) : entry.proofEventId = none := by
  apply formed.noProof
  unfold ChallengeReplayPayload.requiresProof
  generalize entry.command = command at given ⊢
  cases command with
  | endRun runId reason => cases reason <;> first | rfl | cases given
  | start | startModified | retry | confirm | confirmTimed => cases given

/-! ## Every row keeps it -/

variable {start after : List ReplayEvent} {admission event : ReplayEvent}
  {payload : ChallengeReplayPayload} {reading : AttemptReading}

/-- An earlier row cannot have ended a run that goes on. -/
theorem Attempting.going (attempting : Attempting start admission payload after reading)
    (first : checkpointEntry admission = some payload)
    (running : reading.result.state.active ≠ none) {front others : List ReplayEvent}
    {earlier : ReplayEvent} (split : admission :: after = front ++ earlier :: others)
    (found : checkpointEntry earlier = some entry) : entry.after.active ≠ none := by
  apply attempting.running running
  have entries : payload :: checkpointEntries after = checkpointEntries (admission :: after) := by
    simp only [checkpointEntries, List.filterMap_cons, first]
  rw [entries, split, checkpointEntries, List.mem_filterMap]
  exact ⟨earlier, List.mem_append_right _ List.mem_cons_self, found⟩

theorem Attempting.skip (attempting : Attempting start admission payload after reading)
    (first : checkpointEntry admission = some payload)
    (running : reading.result.state.active ≠ none)
    (other : event.kind ≠ .challengeCheckpoint) :
    Attempting start admission payload (after ++ [event]) reading := by
  have absent := checkpointEntry_of_ne other
  have entries : checkpointEntries (after ++ [event]) = checkpointEntries after := by
    simp only [checkpointEntries, List.filterMap_append, List.filterMap_cons, absent,
      List.filterMap_nil, List.append_nil]
  constructor
  · intro row member kind
    rcases List.mem_append.mp member with member | member
    · exact attempting.decoded row member kind
    · rw [List.mem_singleton.mp member] at kind
      exact absurd kind other
  · rw [entries]
    exact attempting.folded
  · obtain ⟨front, back, split, kind, quiet⟩ := attempting.bounded
    refine ⟨front, back ++ [event], ?_, kind, ?_⟩
    · rw [← List.cons_append, ← List.append_assoc, split, List.append_assoc, List.cons_append]
    · intro row member
      rcases List.mem_append.mp member with member | member
      · exact quiet row member
      · rw [List.mem_singleton.mp member]
        exact other
  · rw [entries]
    exact attempting.continued
  · rw [entries]
    exact attempting.running
  · rw [← List.cons_append]
    refine forall_split_snoc (fun _ row back => Final row back) ?_ ?_
    · intro front row others split entry found ended
      exact absurd ended (attempting.going first running split found)
    · intro entry found
      rw [absent] at found
      cases found
  · refine forall_split_snoc (fun front row _ => Proved (start ++ admission :: front) row) ?_ ?_
    · exact attempting.proved
    · intro entry found
      rw [absent] at found
      cases found
  · rw [entries]
    exact attempting.older
  · rw [entries]
    exact attempting.distinct

/-- The proof of an accepted checkpoint lies behind the last one. -/
theorem Attempting.backed (bounded : ∃ front back, before = front ++ reading.boundary :: back ∧
      reading.boundary.kind = .challengeCheckpoint ∧
      ∀ event ∈ back, event.kind ≠ .challengeCheckpoint) (ascending : Ascending before)
    (verified : verifyTransition before reading.boundary event entry = .ok ()) :
    withdrawn entry.command = true ∨ Backed before event entry := by
  rcases (verifyTransition_cases verified).2 with given | ⟨proof, member, referred, newer, owner⟩
  · exact Or.inl given
  · right
    obtain ⟨front, back, split, kind, quiet⟩ := bounded
    have behind : proof ∈ back := mem_back_of_newer (split ▸ ascending) (split ▸ member) newer
    obtain ⟨between, rest, rfl⟩ := List.append_of_mem behind
    exact ⟨front, reading.boundary, between, proof, rest, split, kind, quiet, referred, owner,
      verified⟩

/-- What an accepted checkpoint refers to is newer than the boundary and older than
the checkpoint. -/
theorem referred_between (formed : entry.WellFormed)
    (verified : verifyTransition before boundary event entry = .ok ())
    (last : ∀ row ∈ before, row.id < event.id) :
    ∀ id ∈ entry.proofEventId, boundary.id < id ∧ id < event.id := by
  rcases (verifyTransition_cases verified).2 with given | ⟨proof, member, referred, newer, -⟩
  · rw [proofEventId_of_withdrawn formed given]
    exact fun _ found => absurd found (Option.not_mem_none _)
  · rw [referred]
    rintro id found
    obtain rfl := Option.some.inj found
    exact ⟨newer, last proof member⟩

theorem Attempting.take {following : AttemptReading}
    (attempting : Attempting start admission payload after reading)
    (first : checkpointEntry admission = some payload)
    (running : reading.result.state.active ≠ none)
    (ascending : Ascending (start ++ admission :: (after ++ [event])))
    (kind : event.kind = .challengeCheckpoint) (found : checkpointEntry event = some entry)
    (formed : entry.WellFormed) (produced : entry.Produced)
    (continues : entry.before = reading.result.state)
    (verified : verifyTransition (start ++ admission :: after) reading.boundary event entry = .ok ())
    (state : following.result.state = entry.after) (boundary : following.boundary = event) :
    Attempting start admission payload (after ++ [event]) following := by
  have entries : checkpointEntries (after ++ [event]) = checkpointEntries after ++ [entry] := by
    simp only [checkpointEntries, List.filterMap_append, List.filterMap_cons, found,
      List.filterMap_nil]
  rw [← List.cons_append, ← List.append_assoc] at ascending
  have parts := List.pairwise_append.mp ascending
  have last : ∀ row ∈ start ++ admission :: after, row.id < event.id :=
    fun row member => parts.2.2 row member event (List.mem_singleton_self event)
  have backed := Attempting.backed attempting.bounded parts.1 verified
  have between := referred_between formed verified last
  have bounded : reading.boundary.id < event.id := by
    obtain ⟨front, back, split, -⟩ := attempting.bounded
    apply last
    rw [split]
    exact List.mem_append_right _ List.mem_cons_self
  constructor
  · intro row member rowKind
    rcases List.mem_append.mp member with member | member
    · exact attempting.decoded row member rowKind
    · rw [List.mem_singleton.mp member, found]
      rfl
  · rw [entries, List.foldlM_append, attempting.folded]
    have applied := applyEntry_of_produced produced
    rw [continues] at applied
    simp only [List.foldlM_cons, List.foldlM_nil, bind_pure, state]
    exact applied
  · refine ⟨start ++ admission :: after, [], ?_, ?_, ?_⟩
    · rw [boundary, List.append_assoc, List.cons_append]
    · rw [boundary]
      exact kind
    · exact fun _ member => absurd member List.not_mem_nil
  · intro other member
    rw [entries] at member
    rcases List.mem_append.mp member with member | member
    · exact attempting.continued other member
    · rw [List.mem_singleton.mp member]
      exact (verifyTransition_cases verified).1
  · intro going other member
    rw [state] at going
    rw [entries, ← List.cons_append] at member
    rcases List.mem_append.mp member with member | member
    · exact attempting.running running other member
    · rw [List.mem_singleton.mp member]
      exact going
  · rw [← List.cons_append]
    refine forall_split_snoc (fun _ row back => Final row back) ?_ ?_
    · intro front row others split other foundOther ended
      exact absurd ended (attempting.going first running split foundOther)
    · exact fun _ _ _ => rfl
  · refine forall_split_snoc (fun front row _ => Proved (start ++ admission :: front) row) ?_ ?_
    · exact attempting.proved
    · intro other foundOther
      rw [found] at foundOther
      exact Option.some.inj foundOther ▸ backed
  · rw [entries, ← List.cons_append, proofIds_append, boundary]
    intro id member
    rcases List.mem_append.mp member with member | member
    · exact lt_trans (attempting.older id member) bounded
    · exact (between id (Option.mem_toList.mp member)).2
  · rw [entries, ← List.cons_append, proofIds_append]
    refine List.Nodup.append attempting.distinct ?_ ?_
    · cases entry.proofEventId with
      | none => exact List.nodup_nil
      | some id => exact List.nodup_singleton id
    · intro id old new
      have newer := (between id (Option.mem_toList.mp new)).1
      exact absurd (attempting.older id old) (lt_asymm newer)

/-! ## The admission -/

/-- The admission is bound to the equipment of the only snapshot before it: one
player joined, nothing else happened, and the evidence agrees with the command. -/
structure Bound (start : List ReplayEvent) (admission : ReplayEvent)
    (payload : ChallengeReplayPayload) (equipment : Equipment) (snapshot : ReplayEvent)
    (module : ModuleStateSnapshotPayload) : Prop where
  starts : startEquipment payload.command = some equipment
  active : payload.after.active ≠ none
  owned : ∀ row ∈ start, admissionKind row.kind = true ∧ sameSessionOwner admission row ∧
    row.actorId = admission.actorId
  joinedOnce : (start.filter (fun row => row.kind = .playerJoined)).length = 1
  onlySnapshot : start.filter (fun row => row.kind = .moduleStateSnapshot) = [snapshot]
  decoded : decodeModule ModuleReplayPayload.stateSnapshot? snapshot.payload = .ok module
  valid : module.validate = .ok ()
  generation : module.protocolGeneration = .v2
  proof : payload.proofEventId = some snapshot.id
  character : module.characterId = payload.characterId
  catalog : equipment.catalogRevision = module.state.catalogRevision
  revision : equipment.loadoutRevision = module.state.loadoutRevision
  modules : equipment.modules = module.state.appliedLoadout
  weapon : ∃ weapon ∈ module.state.weapons, weapon.itemId = equipment.weaponId

theorem bound_of_validate
    (accepted : validateChallengeAdmission start admission payload = .ok ()) :
    ∃ equipment snapshot module, Bound start admission payload equipment snapshot module := by
  simp only [validateChallengeAdmission, bind_eq_ok, exists_unit, require_eq_ok, rejectIf_eq_ok,
    sole_eq_some, not_or, not_not, not_exists, not_and, Bool.not_eq_false] at accepted
  obtain ⟨equipment, starts, run, active, -, snapshot, only, ⟨joinedOnce, owned⟩, module, decoded,
    valid, proof, character, generation, catalog, revision, modules, weapon⟩ := accepted
  refine ⟨equipment, snapshot, module, ?_⟩
  constructor
  · exact starts
  · rw [active]
    exact Option.some_ne_none run
  · exact owned
  · exact joinedOnce
  · exact only
  · exact decoded
  · exact valid
  · exact generation
  · exact proof
  · exact character
  · exact catalog
  · exact revision
  · exact modules
  · simpa only [not_forall, not_not, exists_prop] using weapon

/-- The attempt the reader starts with. -/
def admittedReading (admission : ReplayEvent) (payload : ChallengeReplayPayload) : AttemptReading :=
  { result := { characterId := payload.characterId, state := payload.after, checkpoints := 1 }
    operations := [payload.operationId], boundary := admission }

theorem attempting_start {equipment : Equipment} {snapshot : ReplayEvent}
    {module : ModuleStateSnapshotPayload}
    (bound : Bound start admission payload equipment snapshot module)
    (kind : admission.kind = .challengeCheckpoint)
    (ascending : Ascending (start ++ [admission])) :
    Attempting start admission payload [] (admittedReading admission payload) := by
  have older : snapshot.id < admission.id := by
    have member : snapshot ∈ start :=
      List.mem_of_mem_filter (bound.onlySnapshot ▸ List.mem_singleton_self snapshot)
    exact (List.pairwise_append.mp ascending).2.2 snapshot member admission
      (List.mem_singleton_self admission)
  have referred : proofIds [payload] = [snapshot.id] := by
    simp only [proofIds, List.filterMap_cons, bound.proof, List.filterMap_nil]
  constructor
  · exact fun _ member => absurd member List.not_mem_nil
  · rfl
  · exact ⟨start, [], rfl, kind, fun _ member => absurd member List.not_mem_nil⟩
  · exact fun _ member => absurd member List.not_mem_nil
  · intro _ entry member
    rw [List.mem_singleton.mp member]
    exact bound.active
  · intro front row back split entry found ended
    rcases List.eq_nil_or_concat front with rfl | ⟨others, last, rfl⟩
    · exact (List.cons.inj split).2.symm
    · have short := congrArg List.length split
      simp only [List.length_cons, List.length_nil, List.length_append, List.concat_eq_append] at short
      omega
  · intro front row back split
    exact absurd split.symm (List.append_ne_nil_of_right_ne_nil _ (List.cons_ne_nil _ _))
  · intro id member
    change id ∈ proofIds [payload] at member
    rw [referred] at member
    rw [List.mem_singleton.mp member]
    exact older
  · change (proofIds [payload]).Nodup
    rw [referred]
    exact List.nodup_singleton _

/-- The run rule of an attempt. -/
theorem Attempting.run {rest : List ReplayEvent} {last : AttemptReading}
    (attempting : Attempting start admission payload after reading)
    (first : checkpointEntry admission = some payload)
    (ascending : Ascending (start ++ admission :: (after ++ rest)))
    (accepted : readAttempt admission (start ++ admission :: after) reading rest = .ok last) :
    Attempting start admission payload (after ++ rest) last := by
  induction rest generalizing after reading with
  | nil =>
      cases accepted
      rw [List.append_nil]
      exact attempting
  | cons event rest inductionHypothesis =>
      simp only [readAttempt, bind_eq_ok] at accepted
      obtain ⟨following, advanced, others⟩ := accepted
      have regroup : after ++ event :: rest = after ++ [event] ++ rest := by
        rw [List.append_assoc, List.singleton_append]
      rw [regroup] at ascending ⊢
      rw [List.append_assoc, List.cons_append] at others
      have part : Ascending (start ++ admission :: (after ++ [event])) := by
        rw [← List.cons_append, ← List.append_assoc] at ascending
        exact (List.pairwise_append.mp ascending).1
      have grown : Attempting start admission payload (after ++ [event]) following := by
        obtain ⟨running, ⟨other, rfl⟩ | ⟨kind, entry, found, formed, produced, continues, verified,
          rfl⟩⟩ := applyAttemptRow_cases advanced
        · exact attempting.skip first running other
        · exact attempting.take first running part kind found formed produced continues verified
            rfl rfl
      exact inductionHypothesis grown ascending others

/-! ## What an accepted session proves -/

/-- The rows of an attempt around its one admission. -/
structure AuthorizedSession (start : List ReplayEvent) (admission : ReplayEvent)
    (after : List ReplayEvent) (payload : ChallengeReplayPayload)
    (challenge : ReconstructedChallenge) : Prop where
  admitted : checkpointEntry admission = some payload
  produced : applyEntry payload.before payload = .ok payload.after
  bound : ∃ equipment snapshot module, Bound start admission payload equipment snapshot module
  first : ∀ event ∈ start, event.kind ≠ .challengeCheckpoint
  decoded : ∀ event ∈ after, event.kind = .challengeCheckpoint → (checkpointEntry event).isSome
  single : ∀ entry ∈ checkpointEntries after, startEquipment entry.command = none
  folded : (checkpointEntries after).foldlM applyEntry payload.after = .ok challenge.state
  ending : ∀ front event back, admission :: after = front ++ event :: back → Final event back
  proved : ∀ front checkpoint back, after = front ++ checkpoint :: back →
    Proved (start ++ admission :: front) checkpoint
  distinct : (proofIds (payload :: checkpointEntries after)).Nodup

theorem splitAdmission_eq_some {events : List ReplayEvent}
    (found : splitAdmission events = some (start, admission, after)) :
    events = start ++ admission :: after ∧ admission.kind = .challengeCheckpoint ∧
      ∀ event ∈ start, event.kind ≠ .challengeCheckpoint := by
  induction events generalizing start with
  | nil => cases found
  | cons event rest inductionHypothesis =>
      unfold splitAdmission at found
      split at found
      · next kind =>
          cases found
          exact ⟨rfl, kind, fun _ member => absurd member List.not_mem_nil⟩
      · next other =>
          obtain ⟨⟨front, checkpoint, back⟩, inner, same⟩ := Option.map_eq_some_iff.mp found
          cases same
          obtain ⟨rfl, kind, quiet⟩ := inductionHypothesis inner
          refine ⟨rfl, kind, ?_⟩
          intro row member
          rcases List.mem_cons.mp member with rfl | member
          · exact other
          · exact quiet row member

theorem splitAdmission_eq_none {events : List ReplayEvent} (found : splitAdmission events = none) :
    ∀ event ∈ events, event.kind ≠ .challengeCheckpoint := by
  induction events with
  | nil => exact fun _ member => absurd member List.not_mem_nil
  | cons event rest inductionHypothesis =>
      unfold splitAdmission at found
      split at found
      · cases found
      · next other =>
          intro row member
          rcases List.mem_cons.mp member with rfl | member
          · exact other
          · exact inductionHypothesis (Option.map_eq_none_iff.mp found) row member

theorem not_checkpoint_of_plain (plain : challengeRow event = false) :
    event.kind ≠ .challengeCheckpoint := by
  intro kind
  rw [challengeRow, kind] at plain
  cases plain

/-- An accepted session holds no checkpoint, or one authorised attempt.  The
rows before the admission, the admission and the rows behind it are named, so
every proof can be placed: it stands between the checkpoint before and the one
it proves.  Nothing is asked of the validators of the five streams. -/
theorem challenge_session_authority {checks : StreamChecks} {events : List ReplayEvent}
    {result : Option ReconstructedChallenge}
    (accepted : reconstructChallengeSession checks events = .ok result) :
    (result = none ∧ ∀ event ∈ events, event.kind ≠ .challengeCheckpoint) ∨
      ∃ challenge, result = some challenge ∧ ∃ start admission after payload,
        events = start ++ admission :: after ∧
          AuthorizedSession start admission after payload challenge := by
  simp only [reconstructChallengeSession, bind_eq_ok, exists_unit] at accepted
  obtain ⟨first, -, ordered, accepted⟩ := accepted
  have ascending := (ascending_of_validateEventOrder ordered).1
  unfold reconstructChallenge at accepted
  split at accepted
  · next plain =>
      cases accepted
      exact Or.inl ⟨rfl, fun event member =>
        not_checkpoint_of_plain (Bool.eq_false_iff.mpr (List.any_eq_false.mp plain event member))⟩
  · split at accepted
    · next absent =>
        simp only [bind_eq_ok, exists_unit, pure_eq_ok] at accepted
        exact Or.inl ⟨accepted.2.symm, splitAdmission_eq_none absent⟩
    · next start admission after found =>
        obtain ⟨rfl, kind, first⟩ := splitAdmission_eq_some found
        simp only [bind_eq_ok, exists_unit, pure_eq_ok] at accepted
        obtain ⟨payload, decoded, admitted, reading, read, -, rfl⟩ := accepted
        obtain ⟨entered, -, produced⟩ := decodeChallengePayload_entry kind decoded
        obtain ⟨equipment, snapshot, module, bound⟩ := bound_of_validate admitted
        have opened : Ascending (start ++ [admission]) := by
          rw [← List.singleton_append, ← List.append_assoc] at ascending
          exact (List.pairwise_append.mp ascending).1
        have last : Attempting start admission payload ([] ++ after) reading :=
          (attempting_start bound kind opened).run entered ascending read
        refine Or.inr ⟨reading.result, rfl, start, admission, after, payload, rfl, ?_⟩
        constructor
        · exact entered
        · exact applyEntry_of_produced produced
        · exact ⟨equipment, snapshot, module, bound⟩
        · exact first
        · exact last.decoded
        · exact last.continued
        · exact last.folded
        · exact last.ending
        · exact last.proved
        · exact last.distinct

/-- Evidence of the plain equipment: the build catalog and no module. -/
def plainModules : ReplayModuleStateEvidence :=
  (moduleStateEvidenceForCatalog CatalogRevision.m35v2.text 0 [] [] 1 .v2).toOption.getD
    (evidenceRecord "" 0 [] [] 0 .v2 [])

/-- The checkpoint of a command from a save, under the newest policy. -/
def circuitEntry (operationId : String) (before : ChallengeState) (command : Command)
    (proofEventId : Option Int) : ChallengeReplayPayload :=
  { schemaVersion := 1, policyRevision := Policy.modifier.text, characterId := "echo", operationId
    before, command
    after := ((applyNamed Policy.modifier.text before before.revision command).toOption.map
      Transition.state).getD before
    firstCompletion := none, proofEventId }

def circuitStart : ChallengeReplayPayload :=
  circuitEntry "start-1" .default (.start .meridianCircuit plainEquipment) (some 2)

def circuitVisit : ChallengeReplayPayload :=
  circuitEntry "visit-1" circuitStart.after (.confirm 1 .lensRead) (some 4)

def circuitRow (id : Int) (kind : ReplayEventKind) (payload : Payload) : ReplayEvent :=
  { id, kind, sessionId := "session-1", accountId := "local:echo"
    activityId := some ContractId.meridianCircuit.activityId, actorId := some 7, payload }

/-- A player starts the Meridian circuit and reads the lens. -/
def circuitJournal : List ReplayEvent :=
  [circuitRow 1 .playerJoined (.text "player joined"),
   circuitRow 2 .moduleStateSnapshot (.module
     { value := some (.stateSnapshot
        { schemaVersion := 1, characterId := "echo", protocolGeneration := .v2
          state := plainModules })
       length := 2000 }),
   circuitRow 3 .challengeCheckpoint (.challenge { value := some circuitStart, length := 1000 }),
   circuitRow 4 .challengeObjective (.visit
     { value := some
        { policyRevision := Policy.modifier.text, characterId := "echo", stateRevision := 1
          runId := 1, objective := .lensRead, position := ⟨-28, 0, -7⟩ }
       length := 200 }),
   circuitRow 5 .challengeCheckpoint (.challenge { value := some circuitVisit, length := 1500 })]

/-- Stream checks that refuse everything: the plain circuit uses none of them. -/
def noStreams : StreamChecks :=
  let refuse : List ReplayEvent → ChallengeRun → Except ReplayError Unit :=
    fun _ _ => .error (invalidModule "no stream")
  { route := refuse, gauntlet := refuse, survival := refuse, signal := refuse, prism := refuse
    recovery := refuse, elite := refuse }

theorem circuitJournal_accepted :
    (reconstructChallengeSession noStreams circuitJournal).toOption.map
      (Option.map ReconstructedChallenge.checkpoints) = some (some 2) := by
  decide +kernel

theorem challenge_session_authority_circuit : ∃ challenge,
    reconstructChallengeSession noStreams circuitJournal = .ok (some challenge) ∧
      ∃ start admission after payload, circuitJournal = start ++ admission :: after ∧
        AuthorizedSession start admission after payload challenge := by
  have accepts := circuitJournal_accepted
  cases accepted : reconstructChallengeSession noStreams circuitJournal with
  | error failure => rw [accepted] at accepts; cases accepts
  | ok result =>
      rw [accepted] at accepts
      rcases challenge_session_authority accepted with ⟨rfl, -⟩ | ⟨challenge, rfl, authorized⟩
      · cases accepts
      · exact ⟨challenge, rfl, authorized⟩

end Replay
end Revenant
