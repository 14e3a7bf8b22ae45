import Revenant.Agreement.Modules
import Revenant.Modules.Acquisition

namespace Revenant
namespace Agreement
namespace Acquisition

open Library Replay Revenant.Acquisition

/-!
# Commissions in a journal

A journal shows a character's fragments wherever it records modules, rewards or
claims.  The reducer accepts a claim only on top of the fragments shown last,
behind the completion and for an arc the character has not claimed before.
-/

/-- What a journal shows of one character. -/
structure Balance where
  actorId : Nat
  fragments : Nat
  deriving DecidableEq

/-- Fragments shown of a character that has joined. -/
def showing (characterId : String) (known : Option Balance) (shown : String) (fragments : Nat) :
    Option Balance :=
  if shown = characterId then known.map (fun balance => { balance with fragments }) else known

/-- What is known of a character's fragments after one event more. -/
def balanceAfter (characterId : String) (known : Option Balance) (event : ReplayEvent) :
    Option Balance :=
  match event.kind with
  | .moduleStateSnapshot =>
      match decodeModule ModuleReplayPayload.stateSnapshot? event.payload with
      | .ok payload =>
          if payload.characterId = characterId then
            event.actorId.map (fun actorId => { actorId, fragments := payload.state.fragments })
          else known
      | .error _ => known
  | .moduleCombined =>
      match decodeModule ModuleReplayPayload.combined? event.payload with
      | .ok payload => showing characterId known payload.characterId payload.after.fragments
      | .error _ => known
  | .moduleLoadoutChanged =>
      match decodeModule ModuleReplayPayload.loadoutChanged? event.payload with
      | .ok payload => showing characterId known payload.characterId payload.after.fragments
      | .error _ => known
  | .lootGranted =>
      match relayFragmentTotal event.payload with
      | some total => known.map (fun balance =>
          if event.actorId = some balance.actorId then { balance with fragments := total }
          else balance)
      | none => known
  | .acquisitionClaimed =>
      match decodeAcquisitionClaimed event.payload with
      | .ok payload => showing characterId known payload.characterId payload.resultingFragments
      | .error _ => known
  | _ => known

/-- The latest evidence of a character's fragments. -/
def evidencedBalance (characterId : String) (events : List ReplayEvent) : Option Balance :=
  events.foldl (balanceAfter characterId) none

def claimOf (event : ReplayEvent) : Option AcquisitionClaimedPayload :=
  if event.kind = .acquisitionClaimed then (decodeAcquisitionClaimed event.payload).toOption
  else none

def claims (events : List ReplayEvent) : List AcquisitionClaimedPayload := events.filterMap claimOf

/-- What an accepted claim rests on in the journal before it. -/
structure Supported (front : List ReplayEvent) (event : ReplayEvent)
    (payload : AcquisitionClaimedPayload) : Prop where
  completed : ∃ done ∈ front, done.kind = .activityCompleted
  earlier : ∀ proof ∈ payload.proofs, proof.throughEventId < event.id
  required : ∀ id, id ∈ payload.milestones ↔ id ∈ payload.arcId.requirements
  continues : ∃ actorId, event.actorId = some actorId ∧
    evidencedBalance payload.characterId front =
      some { actorId, fragments := payload.previousFragments }
  grants : payload.grantedFragments = rewardFragments ∧
    payload.resultingFragments = payload.previousFragments + rewardFragments ∧
      payload.resultingFragments ≤ maxFragments
  fresh : ∀ claim ∈ claims front,
    (claim.characterId, claim.arcId) ≠ (payload.characterId, payload.arcId)

theorem validate_eq_ok {payload : AcquisitionClaimedPayload}
    (valid : payload.validate = .ok ()) :
    (∀ id, id ∈ payload.milestones ↔ id ∈ payload.arcId.requirements) ∧
      payload.grantedFragments = rewardFragments ∧
      payload.resultingFragments = payload.previousFragments + rewardFragments ∧
      payload.resultingFragments ≤ maxFragments := by
  simp only [AcquisitionClaimedPayload.validate, rejectIf_eq_ok, not_or, not_not, gt_iff_lt,
    not_lt] at valid
  obtain ⟨-, -, -, -, required, -, -, granted, sum, bounded⟩ := valid
  refine ⟨?_, granted, sum.symm, bounded⟩
  intro id
  rw [← List.mem_toFinset, required, List.mem_toFinset]

theorem decodeAcquisitionClaimed_valid {payload : Payload} {claim : AcquisitionClaimedPayload}
    (decoded : decodeAcquisitionClaimed payload = .ok claim) : claim.validate = .ok () := by
  simp only [decodeAcquisitionClaimed, bind_eq_ok, exists_unit, require_eq_ok, rejectIf_eq_ok,
    pure_eq_ok] at decoded
  obtain ⟨_, _, _, _, _, valid, rfl⟩ := decoded
  exact valid

/-! ## Finding one character -/

section Find

variable {participants : List ReconstructedModuleParticipant} {characterId : String}

/-- The participant of a character. -/
def participantOf (characterId : String) (participants : List ReconstructedModuleParticipant) :
    Option ReconstructedModuleParticipant :=
  participants.find? (fun participant => participant.characterId = characterId)

def balanceOf (participant : ReconstructedModuleParticipant) : Balance :=
  { actorId := participant.actorId, fragments := participant.state.fragments }

theorem participantOf_mem {found : ReconstructedModuleParticipant}
    (search : participantOf characterId participants = some found) :
    found ∈ participants ∧ found.characterId = characterId := by
  have hit := List.find?_some search
  exact ⟨List.mem_of_find?_eq_some search, of_decide_eq_true hit⟩

theorem participantOf_insert {entry : ReconstructedModuleParticipant}
    (fresh : ∀ participant ∈ participants, participant.characterId ≠ entry.characterId) :
    participantOf characterId (insertParticipant entry participants) =
      if entry.characterId = characterId then some entry
      else participantOf characterId participants := by
  unfold participantOf insertParticipant
  induction participants with
  | nil =>
      by_cases here : entry.characterId = characterId <;> simp [here]
  | cons first rest inductionHypothesis =>
      have other := fresh first List.mem_cons_self
      have tail := inductionHypothesis
        (fun participant member => fresh participant (List.mem_cons_of_mem _ member))
      rw [List.orderedInsert_cons]
      split
      · by_cases here : entry.characterId = characterId <;> simp [here]
      · by_cases head : first.characterId = characterId
        · have elsewhere : entry.characterId ≠ characterId := fun same =>
            other (head.trans same.symm)
          simp [head, elsewhere]
        · rw [List.find?_cons_of_neg (by simp [head]), tail, List.find?_cons_of_neg (by simp [head])]

theorem participantOf_update {changed : String}
    {change : ReconstructedModuleParticipant → ReconstructedModuleParticipant}
    (character : ∀ participant, (change participant).characterId = participant.characterId) :
    participantOf characterId (updateParticipant changed change participants) =
      (participantOf characterId participants).map (fun participant =>
        if participant.characterId = changed then change participant else participant) := by
  unfold participantOf updateParticipant
  rw [List.find?_map]
  congr 1
  apply congrArg (fun test => List.find? test participants)
  funext participant
  have same : (if participant.characterId = changed then change participant
      else participant).characterId = participant.characterId := by
    split
    · exact character participant
    · rfl
  exact congrArg (fun name => decide (name = characterId)) same

end Find

/-! ## The reducer follows the balances -/

/-- What the reducer knows after the events it has read. -/
structure Evidenced (front : List ReplayEvent) (session : ReconstructedSession) : Prop where
  paired : ∀ first ∈ session.participants, ∀ second ∈ session.participants,
    first.characterId = second.characterId ↔ first.actorId = second.actorId
  balances : ∀ characterId, evidencedBalance characterId front =
    (participantOf characterId session.participants).map balanceOf
  claimed : session.acquisitionClaims = claims front
  completed : session.completed = true → ∃ done ∈ front, done.kind = .activityCompleted
  distinct : ((claims front).map (fun claim => (claim.characterId, claim.arcId))).Nodup
  supported : ∀ before event back, front = before ++ event :: back →
    event.kind = .acquisitionClaimed → ∃ payload,
      decodeAcquisitionClaimed event.payload = .ok payload ∧ Supported before event payload

section Steps

variable {front : List ReplayEvent} {session next : ReconstructedSession} {event : ReplayEvent}

theorem evidencedBalance_snoc (characterId : String) :
    evidencedBalance characterId (front ++ [event]) =
      balanceAfter characterId (evidencedBalance characterId front) event := by
  simp only [evidencedBalance, List.foldl_append, List.foldl_cons, List.foldl_nil]

theorem claims_snoc : claims (front ++ [event]) = claims front ++ (claimOf event).toList :=
  filterMap_snoc _ _ _

theorem claimOf_of_kind (other : event.kind ≠ .acquisitionClaimed) : claimOf event = none :=
  if_neg other

theorem Evidenced.of_same (evidenced : Evidenced front session)
    (participants : next.participants = session.participants)
    (claimed : next.acquisitionClaims = session.acquisitionClaims)
    (completed : next.completed = session.completed) : Evidenced front next := by
  refine ⟨participants ▸ evidenced.paired, ?_, claimed.trans evidenced.claimed,
    completed ▸ evidenced.completed, evidenced.distinct, evidenced.supported⟩
  rw [participants]
  exact evidenced.balances

/-- An event that is no claim leaves the claims alone. -/
theorem Evidenced.other (evidenced : Evidenced front session)
    (other : event.kind ≠ .acquisitionClaimed)
    (paired : ∀ first ∈ next.participants, ∀ second ∈ next.participants,
      first.characterId = second.characterId ↔ first.actorId = second.actorId)
    (balances : ∀ characterId,
      balanceAfter characterId (evidencedBalance characterId front) event =
        (participantOf characterId next.participants).map balanceOf)
    (claimed : next.acquisitionClaims = session.acquisitionClaims)
    (completed : next.completed = true →
      session.completed = true ∨ event.kind = .activityCompleted) :
    Evidenced (front ++ [event]) next := by
  have same : claims (front ++ [event]) = claims front := by
    rw [claims_snoc, claimOf_of_kind other, Option.toList_none, List.append_nil]
  refine ⟨paired, ?_, ?_, ?_, ?_, ?_⟩
  · intro characterId
    rw [evidencedBalance_snoc]
    exact balances characterId
  · rw [same, claimed, evidenced.claimed]
  · intro done
    rcases completed done with before | here
    · obtain ⟨mark, member, kind⟩ := evidenced.completed before
      exact ⟨mark, List.mem_append_left _ member, kind⟩
    · exact ⟨event, by simp, here⟩
  · rw [same]
    exact evidenced.distinct
  · refine forall_split_snoc (fun before event _ => event.kind = .acquisitionClaimed →
      ∃ payload, decodeAcquisitionClaimed event.payload = .ok payload ∧
        Supported before event payload) ?_ ?_
    · intro before old others split
      exact evidenced.supported before old others split
    · intro kind
      exact absurd kind other

theorem paired_update {participants : List ReconstructedModuleParticipant} {characterId : String}
    {change : ReconstructedModuleParticipant → ReconstructedModuleParticipant}
    (character : ∀ participant, (change participant).characterId = participant.characterId)
    (actor : ∀ participant, (change participant).actorId = participant.actorId)
    (paired : ∀ first ∈ participants, ∀ second ∈ participants,
      first.characterId = second.characterId ↔ first.actorId = second.actorId) :
    ∀ first ∈ updateParticipant characterId change participants,
      ∀ second ∈ updateParticipant characterId change participants,
        first.characterId = second.characterId ↔ first.actorId = second.actorId := by
  have names : ∀ participant : ReconstructedModuleParticipant,
      (if participant.characterId = characterId then change participant
        else participant).characterId = participant.characterId ∧
      (if participant.characterId = characterId then change participant
        else participant).actorId = participant.actorId := by
    intro participant
    split
    · exact ⟨character participant, actor participant⟩
    · exact ⟨rfl, rfl⟩
  intro first firstMember second secondMember
  obtain ⟨left, leftMember, rfl⟩ := List.mem_map.mp firstMember
  obtain ⟨right, rightMember, rfl⟩ := List.mem_map.mp secondMember
  rw [(names left).1, (names left).2, (names right).1, (names right).2]
  exact paired left leftMember right rightMember

/-- A mutation shows the fragments it leaves. -/
theorem balances_update {participants : List ReconstructedModuleParticipant}
    {characterId changed : String} {fragments : Nat} {known : Option Balance}
    {change : ReconstructedModuleParticipant → ReconstructedModuleParticipant}
    (character : ∀ participant, (change participant).characterId = participant.characterId)
    (shows : ∀ participant,
      balanceOf (change participant) = { balanceOf participant with fragments })
    (balance : known = (participantOf characterId participants).map balanceOf) :
    showing characterId known changed fragments =
      (participantOf characterId (updateParticipant changed change participants)).map balanceOf := by
  rw [participantOf_update character, balance, showing]
  cases search : participantOf characterId participants with
  | none => simp
  | some found =>
      have named := (participantOf_mem search).2
      simp only [Option.map_some, named, eq_comm]
      split
      · rw [shows]
      · rfl

theorem Evidenced.snapshot (evidenced : Evidenced front session) {prior : Option ReplayEvent}
    (kind : event.kind = .moduleStateSnapshot)
    (accepted : applySnapshot prior event session = .ok next) :
    Evidenced (front ++ [event]) next := by
  simp only [applySnapshot, bind_eq_ok, exists_unit, require_eq_ok, rejectIf_eq_ok, pure_eq_ok,
    not_exists, not_and, not_or] at accepted
  obtain ⟨payload, decoded, -, joined, -, -, actorId, acting, unknown, rfl⟩ := accepted
  refine evidenced.other (by rw [kind]; decide) ?_ ?_ rfl Or.inl
  · have listed : ∀ participant, participant ∈ insertParticipant
        { characterId := payload.characterId, actorId
          protocolGeneration := payload.protocolGeneration, state := payload.state }
        session.participants ↔ _ ∨ participant ∈ session.participants :=
      fun _ => List.mem_orderedInsert _
    intro first firstMember second secondMember
    rcases (listed first).mp firstMember with rfl | firstOld
    · rcases (listed second).mp secondMember with rfl | secondOld
      · exact ⟨fun _ => rfl, fun _ => rfl⟩
      · obtain ⟨name, actor⟩ := unknown second secondOld
        exact ⟨fun same => absurd same.symm name, fun same => absurd same.symm actor⟩
    · rcases (listed second).mp secondMember with rfl | secondOld
      · obtain ⟨name, actor⟩ := unknown first firstOld
        exact ⟨fun same => absurd same name, fun same => absurd same actor⟩
      · exact evidenced.paired first firstOld second secondOld
  · intro characterId
    rw [participantOf_insert (fun participant member => (unknown participant member).1),
      evidenced.balances]
    simp only [balanceAfter, kind, decoded, acting, Option.map_some]
    split
    · rfl
    · rfl

theorem Evidenced.mutated (evidenced : Evidenced front session) {character : String}
    {change : ReconstructedModuleParticipant → ReconstructedModuleParticipant} {fragments : Nat}
    (other : event.kind ≠ .acquisitionClaimed)
    (names : ∀ participant, (change participant).characterId = participant.characterId)
    (shows : ∀ participant,
      balanceOf (change participant) = { balanceOf participant with fragments })
    (shown : ∀ characterId known, balanceAfter characterId known event =
      showing characterId known character fragments)
    (participants : next.participants = updateParticipant character change session.participants)
    (claimed : next.acquisitionClaims = session.acquisitionClaims)
    (completed : next.completed = session.completed) :
    Evidenced (front ++ [event]) next := by
  refine evidenced.other other ?_ ?_ claimed (fun done => Or.inl (completed ▸ done))
  · rw [participants]
    refine paired_update names ?_ evidenced.paired
    exact fun participant => congrArg Balance.actorId (shows participant)
  · intro characterId
    rw [shown, participants]
    exact balances_update names shows (evidenced.balances characterId)

theorem Evidenced.reward (evidenced : Evidenced front session)
    (kind : event.kind = .lootGranted)
    (accepted : applyFragmentReward event session = .ok next) :
    Evidenced (front ++ [event]) next := by
  have other : event.kind ≠ .acquisitionClaimed := by rw [kind]; decide
  unfold applyFragmentReward at accepted
  cases total : relayFragmentTotal event.payload with
  | none =>
      rw [total] at accepted
      cases accepted
      refine evidenced.other other evidenced.paired ?_ rfl Or.inl
      intro characterId
      simp only [balanceAfter, kind, total, evidenced.balances]
  | some amount =>
      simp only [total, bind_eq_ok, require_eq_ok] at accepted
      obtain ⟨actorId, acting, accepted⟩ := accepted
      cases search : session.participants.find? (fun participant => participant.actorId = actorId) with
      | none =>
          rw [search, pure_eq_ok] at accepted
          subst accepted
          refine evidenced.other other evidenced.paired ?_ rfl Or.inl
          intro characterId
          simp only [balanceAfter, kind, total, evidenced.balances]
          cases found : participantOf characterId session.participants with
          | none => rfl
          | some participant =>
              have absent := List.find?_eq_none.mp search participant (participantOf_mem found).1
              have elsewhere : participant.actorId ≠ actorId := fun same =>
                absent (decide_eq_true same)
              simp [balanceOf, acting, elsewhere.symm]
      | some rewarded =>
          simp only [search, bind_eq_ok, exists_unit, rejectIf_eq_ok, pure_eq_ok] at accepted
          obtain ⟨-, rfl⟩ := accepted
          have member := List.mem_of_find?_eq_some search
          have hit := List.find?_some search
          have owner : rewarded.actorId = actorId := of_decide_eq_true hit
          refine evidenced.other other (paired_update ?_ ?_ evidenced.paired) ?_ rfl Or.inl
          · intro participant
            rfl
          · intro participant
            rfl
          intro characterId
          rw [participantOf_update (by intro participant; rfl), evidenced.balances]
          simp only [balanceAfter, kind, total]
          cases found : participantOf characterId session.participants with
          | none => rfl
          | some participant =>
              -- the same character exactly when it is the same actor
              have same := evidenced.paired participant (participantOf_mem found).1 rewarded member
              by_cases here : participant.actorId = actorId
              · have named := same.mpr (here.trans owner.symm)
                simp [balanceOf, acting, here, named]
              · have named : participant.characterId ≠ rewarded.characterId := fun names =>
                  here ((same.mp names).trans owner)
                simp [balanceOf, acting, Ne.symm here, named]

theorem Evidenced.claim (evidenced : Evidenced front session)
    (kind : event.kind = .acquisitionClaimed) (accepted : applyClaim event session = .ok next) :
    Evidenced (front ++ [event]) next := by
  simp only [applyClaim, bind_eq_ok, exists_unit, rejectIf_eq_ok, pure_eq_ok, not_or, not_exists,
    not_and, not_not, ge_iff_le, not_le, Bool.not_eq_false] at accepted
  obtain ⟨payload, decoded, ⟨completed, earlier, fresh⟩, found, matching, balance, rfl⟩ := accepted
  have claimed : claimOf event = some payload := by
    rw [claimOf, if_pos kind, decoded]
    rfl
  have grown : claims (front ++ [event]) = claims front ++ [payload] := by
    rw [claims_snoc, claimed, Option.toList_some]
  have unclaimed : ∀ claim ∈ claims front,
      (claim.characterId, claim.arcId) ≠ (payload.characterId, payload.arcId) := by
    intro claim member same
    obtain ⟨character, arc⟩ := Prod.mk.inj same
    exact fresh claim (evidenced.claimed ▸ member) character arc
  refine ⟨?_, ?_, ?_, ?_, ?_, ?_⟩
  · exact paired_update (by intro participant; rfl) (by intro participant; rfl) evidenced.paired
  · intro characterId
    rw [evidencedBalance_snoc]
    simp only [balanceAfter, kind, decoded]
    exact balances_update (by intro participant; rfl) (by intro participant; rfl)
      (evidenced.balances characterId)
  · rw [grown, evidenced.claimed]
  · intro _
    obtain ⟨done, member, mark⟩ := evidenced.completed completed
    exact ⟨done, List.mem_append_left _ member, mark⟩
  · rw [grown, List.map_append, List.nodup_append]
    refine ⟨evidenced.distinct, List.nodup_singleton _, ?_⟩
    intro old oldMember other otherMember same
    obtain ⟨claim, listed, rfl⟩ := List.mem_map.mp oldMember
    rw [List.map_cons, List.map_nil, List.mem_singleton] at otherMember
    exact unclaimed claim listed (same.trans otherMember)
  · refine forall_split_snoc (fun before event _ => event.kind = .acquisitionClaimed →
      ∃ payload, decodeAcquisitionClaimed event.payload = .ok payload ∧
        Supported before event payload) ?_ ?_
    · intro before old others split
      exact evidenced.supported before old others split
    · intro _
      obtain ⟨required, granted, sum, bounded⟩ :=
        validate_eq_ok (decodeAcquisitionClaimed_valid decoded)
      refine ⟨payload, decoded, evidenced.completed completed, earlier, required, ?_,
        ⟨granted, sum, bounded⟩, unclaimed⟩
      simp only [matchingParticipant, bind_eq_ok, exists_unit, require_eq_ok, rejectIf_eq_ok,
        pure_eq_ok, not_not] at matching
      obtain ⟨_, search, acting, -, rfl⟩ := matching
      refine ⟨_, acting, ?_⟩
      rw [evidenced.balances, participantOf, search, Option.map_some, balanceOf, balance]

/-- Every event keeps what the reducer knows. -/
theorem Evidenced.step (evidenced : Evidenced front session) {prior : Option ReplayEvent}
    (accepted : applyKind prior session event = .ok next) :
    Evidenced (front ++ [event]) next := by
  have unrelated : ∀ next : ReconstructedSession, event.kind ≠ .acquisitionClaimed →
      (∀ characterId known, balanceAfter characterId known event = known) →
      next.participants = session.participants →
      next.acquisitionClaims = session.acquisitionClaims →
      (next.completed = true → session.completed = true ∨ event.kind = .activityCompleted) →
      Evidenced (front ++ [event]) next := by
    intro next other silent participants claimed completed
    refine evidenced.other other (participants ▸ evidenced.paired) ?_ claimed completed
    intro characterId
    rw [silent, participants, evidenced.balances]
  unfold applyKind at accepted
  cases kind : event.kind with
  | moduleStateSnapshot =>
      rw [kind] at accepted
      exact evidenced.snapshot kind accepted
  | moduleCombined =>
      simp only [kind, applyCombination, bind_eq_ok, exists_unit, rejectIf_eq_ok, pure_eq_ok]
        at accepted
      obtain ⟨-, payload, decoded, -, _, -, -, rfl⟩ := accepted
      refine @Evidenced.mutated _ _ _ _ evidenced payload.characterId _ payload.after.fragments
        (by rw [kind]; decide) (by intro participant; rfl) (by intro participant; rfl) ?_ rfl rfl rfl
      intro characterId known
      simp only [balanceAfter, kind, decoded]
  | moduleLoadoutChanged =>
      simp only [kind, applyLoadout, bind_eq_ok, exists_unit, rejectIf_eq_ok, pure_eq_ok]
        at accepted
      obtain ⟨-, payload, decoded, -, _, -, -, rfl⟩ := accepted
      refine @Evidenced.mutated _ _ _ _ evidenced payload.characterId _ payload.after.fragments
        (by rw [kind]; decide) (by intro participant; rfl) (by intro participant; rfl) ?_ rfl rfl rfl
      intro characterId known
      simp only [balanceAfter, kind, decoded]
  | lootGranted =>
      rw [kind] at accepted
      have counted : Evidenced front { session with lootGrants := session.lootGrants + 1 } :=
        evidenced.of_same rfl rfl rfl
      exact counted.reward kind accepted
  | acquisitionClaimed =>
      rw [kind] at accepted
      exact evidenced.claim kind accepted
  | activityCompleted =>
      rw [kind] at accepted
      cases accepted
      refine unrelated _ (by rw [kind]; decide) ?_ rfl rfl (fun _ => Or.inr kind)
      intro characterId known
      simp only [balanceAfter, kind]
  | _ =>
      rw [kind] at accepted
      cases accepted
      refine unrelated _ (by rw [kind]; decide) ?_ rfl rfl Or.inl
      intro characterId known
      simp only [balanceAfter, kind]

end Steps

theorem evidenced_read {events : List ReplayEvent} {reading : SessionReading}
    (accepted : readSession events = .ok reading) : Evidenced events reading.session := by
  refine @foldlM_history _ _ _ _ (fun read reading => Evidenced read reading.session) _ _ _
    accepted ?_ ?_
  · refine ⟨?_, fun _ => rfl, rfl, ?_, List.nodup_nil, ?_⟩
    · intro first impossible
      cases impossible
    · intro impossible
      cases impossible
    · intro before event back impossible
      simp at impossible
  · intro read reading event next evidenced advanced
    simp only [applyEvent, bind_eq_ok, pure_eq_ok] at advanced
    obtain ⟨session, applied, rfl⟩ := advanced
    have noted : Evidenced read
        { reading.session with
          activityId := event.activityId.orElse (fun _ => reading.session.activityId) } :=
      evidenced.of_same rfl rfl rfl
    exact noted.step applied

/-! ## The law of the grants -/

/-- The law of the grants in one run. -/
structure GrantLaw (start : AcquisitionState) (operations : List Operation) : Prop where
  claims : ∀ front arc fragments result back,
    Call.log perform operations start = front ++ (.claim arc fragments, result) :: back →
      LawfulClaim start front arc fragments result
  once : ((paid (Call.log perform operations start)).map Grant.arcId).Nodup
  eligible : ∀ arc ∈ (Call.final perform operations start).claimed,
    (Call.final perform operations start).Eligible arc
  status : ∀ arc,
    ((Call.final perform operations start).status arc = .claimed ↔
      Claimed start (Call.log perform operations start) arc) ∧
    ((Call.final perform operations start).status arc = .ready ↔
      ¬ Claimed start (Call.log perform operations start) arc ∧
        ∀ id ∈ arc.requirements, Recorded start (Call.log perform operations start) id)
  /-- The recorded milestones and claims, in any order, restore the state. -/
  restored : ∀ milestones claimed,
    (∀ id, id ∈ milestones ↔ Recorded start (Call.log perform operations start) id) →
    (∀ arc, arc ∈ claimed ↔ Claimed start (Call.log perform operations start) arc) →
      AcquisitionState.new milestones claimed = .ok (Call.final perform operations start)
  unchanged : ∀ front operation back failure, operations = front ++ operation :: back →
    (perform operation (Call.final perform front start)).1 = .error failure →
      Call.final perform (front ++ [operation]) start = Call.final perform front start

def claimsOf (characterId : String) (events : List ReplayEvent) : List AcquisitionClaimedPayload :=
  (claims events).filter (fun claim => claim.characterId = characterId)

/-- The law of the claims in one accepted journal. -/
structure ClaimLaw (events : List ReplayEvent) (session : ReconstructedSession) : Prop where
  reconstructed : session.acquisitionClaims = claims events
  supported : ∀ front event back, events = front ++ event :: back →
    event.kind = .acquisitionClaimed → ∃ payload,
      decodeAcquisitionClaimed event.payload = .ok payload ∧ Supported front event payload
  distinct : (session.acquisitionClaims.map (fun claim => (claim.characterId, claim.arcId))).Nodup
  /-- The proofs and arcs of one character restore a state. -/
  restored : ∀ characterId, ∃ state,
    AcquisitionState.new ((claimsOf characterId events).flatMap AcquisitionClaimedPayload.milestones)
      ((claimsOf characterId events).map AcquisitionClaimedPayload.arcId) = .ok state

theorem grantLaw_of_accounted (start : AcquisitionState) (operations : List Operation) :
    GrantLaw start operations := by
  have accounted := accounted_run start operations
  refine ⟨?_, accounted.once, AcquisitionState.claimed_eligible _, accounted.status, ?_, ?_⟩
  · intro front arc fragments result back split
    exact accounted.lawful front (.claim arc fragments, result) back split arc fragments rfl
  · intro milestones claimed recorded granted
    apply AcquisitionState.new_of_members
    · ext id
      rw [List.mem_toFinset, recorded, accounted.milestones]
    · ext arc
      rw [List.mem_toFinset, granted, accounted.claimed]
  · intro front operation back failure _ failed
    rw [Call.final_append, Call.final_cons, Call.final_nil]
    exact perform_of_error failed

/-- Claims that carry the milestones of their arcs restore a state. -/
theorem new_of_claims {payloads : List AcquisitionClaimedPayload}
    (required : ∀ payload ∈ payloads, ∀ id ∈ payload.arcId.requirements, id ∈ payload.milestones) :
    ∃ state, AcquisitionState.new (payloads.flatMap AcquisitionClaimedPayload.milestones)
      (payloads.map AcquisitionClaimedPayload.arcId) = .ok state := by
  unfold AcquisitionState.new
  refine ⟨_, dif_pos ?_⟩
  intro arc member id needed
  obtain ⟨payload, listed, rfl⟩ := List.mem_map.mp (List.mem_toFinset.mp member)
  rw [List.mem_toFinset, List.mem_flatMap]
  exact ⟨payload, listed, required payload listed id needed⟩

theorem claimLaw_of_evidenced {events : List ReplayEvent} {session : ReconstructedSession}
    (evidenced : Evidenced events session) : ClaimLaw events session := by
  refine ⟨evidenced.claimed, evidenced.supported, evidenced.claimed ▸ evidenced.distinct, ?_⟩
  intro characterId
  apply new_of_claims
  intro payload member id needed
  obtain ⟨event, _, claimed⟩ := List.mem_filterMap.mp (List.mem_of_mem_filter member)
  unfold claimOf at claimed
  split at claimed
  · cases decoded : decodeAcquisitionClaimed event.payload with
    | error failure =>
        rw [decoded] at claimed
        cases claimed
    | ok found =>
        rw [decoded] at claimed
        cases claimed
        exact ((validate_eq_ok (decodeAcquisitionClaimed_valid decoded)).1 id).mpr needed
  · cases claimed

/-- The law of the commissions, on both sides.  Any records and claims, in any
order and with any balances in between, grant each arc once; and in every
journal that the reducer accepts each claim stands behind the proofs it names,
on the fragments shown last, for an arc not claimed before. -/
theorem acquisition_law (start : AcquisitionState) (operations : List Operation)
    {events : List ReplayEvent} {reading : SessionReading}
    (accepted : readSession events = .ok reading) :
    GrantLaw start operations ∧ ClaimLaw events reading.session :=
  ⟨grantLaw_of_accounted start operations, claimLaw_of_evidenced (evidenced_read accepted)⟩

/-- The recruit claims the prism arc with the two fragments it joined with. -/
def prismClaim : AcquisitionClaimedPayload :=
  { schemaVersion := 1, revision := acquisitionRevision, characterId := Modules.recruit.character
    arcId := .prism
    proofs := [{ milestone := .prismCompleted, sessionId := "session-1", throughEventId := 3 }]
    previousFragments := 2, grantedFragments := 2, resultingFragments := 4 }

def claimJournal : List ReplayEvent :=
  match Persistence.appendPlayerJoinedWithModuleSnapshot (fun _ => 0) Modules.quietHall.store
    Modules.recruit.character (Modules.quietHall.context Modules.recruit) .v2 with
  | .ok store =>
      store.journal ++ [Modules.finished 3,
        { Modules.finished 4 with
          kind := .acquisitionClaimed
          payload := .acquisition { length := 300, value := some prismClaim } }]
  | .error _ => []

/-- The claim is read, and a second claim of the same arc credits nothing. -/
theorem acquisition_law_prism :
    ∃ reading, readSession claimJournal = .ok reading ∧
      reading.session.acquisitionClaims = [prismClaim] ∧
      GrantLaw .empty [.record .prismCompleted, .claim .prism 2, .claim .prism 1] ∧
      ClaimLaw claimJournal reading.session := by
  have read : (readSession claimJournal).toOption.map
      (fun reading => reading.session.acquisitionClaims) = some [prismClaim] := by decide +kernel
  cases accepted : readSession claimJournal with
  | error failure =>
      rw [accepted] at read
      cases read
  | ok reading =>
      rw [accepted] at read
      obtain ⟨grants, law⟩ := acquisition_law .empty
        [.record .prismCompleted, .claim .prism 2, .claim .prism 1] accepted
      exact ⟨reading, rfl, Option.some.inj read, grants, law⟩

end Acquisition
end Agreement
end Revenant
