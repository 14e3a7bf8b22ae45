import Revenant.Persistence.CooperationStore

namespace Revenant
namespace Persistence
namespace Cooperative

open Library Replay Cooperation

/-!
# Every success is paid once

The reward tables name a session and a character exactly when the session ended
in success with that character in it; what the characters hold is what they
held before and one reward for every entry.
-/

/-- How often a character was rewarded. -/
def Database.rewardsOf (database : Database) (characterId : String) : Nat :=
  database.rewardGrants.countP (fun grant => grant.2 = characterId)

/-- A progression some rewards later. -/
def Progression.after (rewards : Nat) (progression : Progression) : Progression :=
  if rewards = 0 then progression
  else
    { level := levelOf (progression.experience + rewards * successReward.experience)
      experience := min (progression.experience + rewards * successReward.experience) i64Max }

/-- What the characters hold is what they held, and their rewards. -/
structure Balanced (origin database : Database) : Prop where
  same : database.experienceGrants = database.rewardGrants
  fragments : ∀ characterId, database.fragments characterId =
    origin.fragments characterId + database.rewardsOf characterId * successReward.fragments
  progression : ∀ characterId, database.progression characterId =
    (origin.progression characterId).map (Progression.after (database.rewardsOf characterId))

section Balance

variable {origin database next : Database} {sessionId characterId : String}
  {previous : Progression}

theorem rewardsOf_granted (other : String) :
    (database.granted sessionId characterId previous).rewardsOf other =
      database.rewardsOf other + if characterId = other then 1 else 0 := by
  simp only [Database.rewardsOf, Database.granted, List.countP_append, List.countP_singleton,
    decide_eq_true_eq]

/-- A level that was reached with a full experience column is the highest. -/
theorem levelOf_min (experience : Nat) (more : Nat) :
    levelOf (min experience i64Max + more) = levelOf (experience + more) := by
  unfold levelOf experiencePerLevel i32Max i64Max
  omega

theorem Progression.after_succ (rewards : Nat) (progression : Progression) :
    Progression.after (rewards + 1) progression =
      { level := levelOf ((progression.after rewards).experience + successReward.experience)
        experience := min ((progression.after rewards).experience + successReward.experience)
          i64Max } := by
  have total : progression.experience + (rewards + 1) * successReward.experience =
      progression.experience + rewards * successReward.experience + successReward.experience := by
    rw [Nat.succ_mul, Nat.add_assoc]
  unfold Progression.after
  rw [if_neg (Nat.succ_ne_zero rewards), total]
  by_cases first : rewards = 0
  · subst first
    rw [if_pos rfl, Nat.zero_mul, Nat.add_zero]
  · rw [if_neg first]
    simp only [levelOf_min, Progression.mk.injEq, true_and]
    omega

theorem Balanced.granted (balanced : Balanced origin database)
    (payable : Payable database sessionId characterId previous) :
    Balanced origin (database.granted sessionId characterId previous) where
  same := by
    simp only [Database.granted, balanced.same]
  fragments := by
    intro other
    rw [rewardsOf_granted]
    by_cases same : characterId = other
    · subst same
      simp only [Database.granted, Function.update_self, balanced.fragments, if_true,
        Nat.succ_mul, Nat.add_assoc]
    · rw [if_neg same, Nat.add_zero, ← balanced.fragments]
      exact Function.update_of_ne (Ne.symm same) _ _
  progression := by
    intro other
    rw [rewardsOf_granted]
    by_cases same : characterId = other
    · subst same
      have held := payable.progression
      rw [balanced.progression] at held
      obtain ⟨start, began, rfl⟩ := Option.map_eq_some_iff.mp held
      rw [began, if_pos rfl, Option.map_some, Progression.after_succ]
      exact Function.update_self _ _ _
    · rw [if_neg same, Nat.add_zero, ← balanced.progression]
      exact Function.update_of_ne (Ne.symm same) _ _

/-- Rows and journals hold no rewards. -/
theorem Balanced.wrote {rows : OperationRows} (balanced : Balanced origin database)
    (wrote : Wrote sessionId rows database next) : Balanced origin next := by
  obtain ⟨⟨events, -, rfl⟩, -, -⟩ := wrote
  exact ⟨balanced.same, balanced.fragments, balanced.progression⟩

end Balance

/-! ## Who is paid -/

/-- The session ended in success with the character in it. -/
def Earned (database : Database) (sessionId characterId : String) : Prop :=
  ∃ rows, database.operations sessionId = some rows ∧
    rows.parent.terminalOutcome = some .succeeded ∧
    (characterId = rows.characters.1 ∨ characterId = rows.characters.2)

variable {state : CooperationState}

theorem Durable.terminal {owners : String → Option String} {rows : OperationRows}
    (durable : Durable owners rows state) : rows.parent.terminalOutcome = state.terminal := by
  obtain ⟨admission, stage, ending, -, -, -, rfl, rfl⟩ := durable
  cases ending with
  | running | succeeded | timedOut | abandoned => cases stage <;> rfl
  | defeated role => cases role <;> cases stage <;> rfl

variable {operation : Operation} {next : CooperationState}

/-- An operation that is applied finds a running session. -/
theorem live_of_applied (answered : perform operation state = (.ok .applied, next)) :
    state.terminal = none := by
  have step := perform_step operation state
  rw [answered] at step
  cases step with
  | anchored timely | pinged timely | downed timely | channelled timely | revived timely
  | completed timely | defeated timely | disconnected timely => exact timely.live

/-- An operation that is answered but not applied leaves the end. -/
theorem terminal_of_unapplied {given : MutationDisposition}
    (answered : perform operation state = (.ok given, next)) (unapplied : given ≠ .applied) :
    next.terminal = state.terminal := by
  have step := perform_step operation state
  rw [answered] at step
  cases step with
  | replayed | pending => rfl
  | cancelled => rfl
  | anchored | pinged | downed | channelled | revived | completed | defeated | disconnected =>
      exact absurd rfl unapplied

theorem reported_applied (answered : perform operation state = (.ok .applied, next)) :
    reported operation .applied = .applied := by
  cases operation with
  | observeDeadlines elapsedMs => cases (observeDeadlines_answers.mp answered).2.1
  | retryStart | arriveAnchor | ping | arriveRunner | startRevive | observeRevive | completeWarden
  | defeatParticipant | disconnect => rfl

/-- A request ends its session in success when its receipt says so, and no other
request begins or ends a success. -/
theorem Accepted.success {request : Request} {before : Option CooperationState}
    {receipt : CooperationReceipt} (accepted : Accepted request before receipt) :
    if receipt.succeeds = true then
      receipt.state.terminal = some .succeeded ∧ ∀ state ∈ before, state.terminal = none
    else (receipt.state.terminal = some .succeeded ↔
      ∃ state ∈ before, state.terminal = some .succeeded) := by
  cases accepted with
  | @started input appendReplay anchor runner state asked pair begun =>
      have fresh : state = (Admission.mk input anchor runner).initial :=
        Admission.initial_of_start begun
      subst fresh
      simp [CooperationReceipt.succeeds, Admission.initial]
  | restarted | closed => simp [CooperationReceipt.succeeds]
  | @performed state next operation given asked answered =>
      by_cases applied : given = .applied
      · subst applied
        have live := live_of_applied answered
        simp [CooperationReceipt.succeeds, reported_applied answered, live]
      · have kept := terminal_of_unapplied answered applied
        have unapplied : reported operation given ≠ .applied := by
          intro reports
          exact applied (applied_of_reported reports)
        simp [CooperationReceipt.succeeds, unapplied, kept]
  | @expired state next operation outcome asked answered =>
      obtain ⟨ended, timeout⟩ := unsucceeded_of_expired answered
      have live := (perform_expired answered).1
      have other : outcome ≠ .succeeded := by
        rintro rfl
        cases timeout
      simp [CooperationReceipt.succeeds, ended, live, other]

/-- The books of a database that began with the origin's. -/
structure Accounts (origin database : Database) : Prop where
  durable : database.Durable
  balanced : Balanced origin database
  nodup : database.rewardGrants.Nodup
  earned : ∀ sessionId characterId,
    (sessionId, characterId) ∈ database.rewardGrants ↔ Earned database sessionId characterId

section Accounts

variable {origin database next : Database} {request : Request} {receipt : CooperationReceipt}

theorem Earned.of_same {sessionId : String} {first second : Database}
    (same : first.operations sessionId = second.operations sessionId) (characterId : String) :
    Earned first sessionId characterId ↔ Earned second sessionId characterId := by
  unfold Earned
  rw [same]

variable {rows : OperationRows}

/-- The rows end in success when the receipt says so, and no sooner. -/
theorem Committed.success (kept : database.Durable)
    (committed : Committed request database receipt next)
    (durable : Durable database.owners rows receipt.state) :
    if receipt.succeeds = true then
      rows.parent.terminalOutcome = some .succeeded ∧
        ∀ stored, database.operations request.sessionId = some stored →
          stored.parent.terminalOutcome = none
    else (rows.parent.terminalOutcome = some .succeeded ↔
      ∃ stored, database.operations request.sessionId = some stored ∧
        stored.parent.terminalOutcome = some .succeeded) := by
  have success := committed.accepted.success
  rw [durable.terminal]
  cases found : database.operations request.sessionId with
  | none =>
      rw [state_none found] at success
      simpa using success
  | some stored =>
      obtain ⟨state, stands⟩ := kept _ _ found
      rw [state_durable found stands] at success
      simpa [stands.terminal] using success

theorem Accounts.unpaid (accounts : Accounts origin database)
    (wrote : Wrote request.sessionId rows database next)
    (same : rows.parent.terminalOutcome = some .succeeded ↔
      ∃ stored, database.operations request.sessionId = some stored ∧
        stored.parent.terminalOutcome = some .succeeded) (kept : next.Durable) :
    Accounts origin next where
  durable := kept
  balanced := accounts.balanced.wrote wrote
  nodup := by
    obtain ⟨⟨_, -, rfl⟩, -, -⟩ := wrote
    exact accounts.nodup
  earned := by
    intro sessionId characterId
    have grants : next.rewardGrants = database.rewardGrants := by
      obtain ⟨⟨_, -, rfl⟩, -, -⟩ := wrote
      rfl
    rw [grants, accounts.earned]
    by_cases here : sessionId = request.sessionId
    · subst here
      unfold Earned
      rw [wrote.stored]
      constructor
      · rintro ⟨stored, found, outcome, character⟩
        refine ⟨rows, rfl, same.mpr ⟨stored, found, outcome⟩, ?_⟩
        rw [wrote.characters stored found]
        exact character
      · rintro ⟨_, ⟨⟩, outcome, character⟩
        obtain ⟨stored, found, ended⟩ := same.mp outcome
        rw [wrote.characters stored found] at character
        exact ⟨stored, found, ended, character⟩
    · apply Earned.of_same
      rw [wrote.operations, Function.update_of_ne here]

theorem Accounts.paid {anchorBefore runnerBefore : Progression}
    (accounts : Accounts origin database)
    (anchor : Payable database request.sessionId rows.anchor.characterId anchorBefore)
    (runner : Payable (database.granted request.sessionId rows.anchor.characterId anchorBefore)
      request.sessionId rows.runner.characterId runnerBefore)
    (wrote : Wrote request.sessionId rows ((database.granted request.sessionId
      rows.anchor.characterId anchorBefore).granted request.sessionId rows.runner.characterId
        runnerBefore) next) (ended : rows.parent.terminalOutcome = some .succeeded)
    (live : ∀ stored, database.operations request.sessionId = some stored →
      stored.parent.terminalOutcome = none) (kept : next.Durable) : Accounts origin next := by
  have grants : next.rewardGrants = database.rewardGrants ++
      [(request.sessionId, rows.anchor.characterId)] ++
      [(request.sessionId, rows.runner.characterId)] := by
    obtain ⟨⟨_, -, rfl⟩, -, -⟩ := wrote
    rfl
  constructor
  case durable => exact kept
  case balanced => exact ((accounts.balanced.granted anchor).granted runner).wrote wrote
  case nodup =>
    have first : (database.rewardGrants ++
        [(request.sessionId, rows.anchor.characterId)]).Nodup := by
      rw [← List.concat_eq_append]
      exact accounts.nodup.concat anchor.unpaid
    rw [grants, ← List.concat_eq_append]
    exact first.concat runner.unpaid
  case earned =>
    intro sessionId characterId
    rw [grants, List.mem_append, List.mem_append, accounts.earned, List.mem_singleton,
      List.mem_singleton, Prod.mk.injEq, Prod.mk.injEq]
    by_cases here : sessionId = request.sessionId
    · subst here
      have before : ¬ Earned database request.sessionId characterId := by
        rintro ⟨stored, found, outcome, -⟩
        cases (live stored found).symm.trans outcome
      simp only [before, false_or, true_and]
      unfold Earned
      rw [wrote.stored]
      constructor
      · intro character
        exact ⟨rows, rfl, ended, character⟩
      · rintro ⟨_, ⟨⟩, -, character⟩
        exact character
    · simp only [here, false_and, or_false]
      apply Earned.of_same
      rw [wrote.operations, Function.update_of_ne here]
      rfl

theorem Accounts.committed (accounts : Accounts origin database)
    (committed : Committed request database receipt next) : Accounts origin next := by
  have kept := committed.keeps accounts.durable
  obtain ⟨rows, paid, durable, pays, wrote⟩ := committed.written
  have success := committed.success accounts.durable durable
  cases succeeds : receipt.succeeds with
  | false =>
      rw [succeeds] at success pays
      cases pays
      rw [if_neg Bool.false_ne_true] at success
      exact accounts.unpaid wrote success kept
  | true =>
      rw [succeeds] at success pays
      cases pays with
      | both anchor runner =>
          rw [if_pos rfl] at success
          exact accounts.paid anchor runner wrote success.1 success.2 kept

theorem accounts_start (empty : ∀ sessionId, origin.operations sessionId = none)
    (unpaid : origin.rewardGrants = [] ∧ origin.experienceGrants = []) :
    Accounts origin origin := by
  constructor
  case durable => exact durable_of_empty empty
  case balanced =>
    have none : ∀ characterId, origin.rewardsOf characterId = 0 := by
      intro characterId
      simp only [Database.rewardsOf, unpaid.1, List.countP_nil]
    constructor
    · rw [unpaid.1, unpaid.2]
    · intro characterId
      rw [none, Nat.zero_mul, Nat.add_zero]
    · intro characterId
      have same : Progression.after 0 = id := by
        funext progression
        rfl
      rw [none, same, Option.map_id]
      rfl
  case nodup => simp [unpaid.1]
  case earned => simp [unpaid.1, Earned, empty]

/-- From a database without cooperations and rewards, after any moves: the
reward tables name each character of each success once and nothing else, and
every character holds what it held before and one reward for each entry. -/
theorem cooperation_rewards_once (journal : Journalling) (moves : List Move)
    (origin : Database) (empty : ∀ sessionId, origin.operations sessionId = none)
    (unpaid : origin.rewardGrants = [] ∧ origin.experienceGrants = []) :
    let reached := Call.final (act journal) moves origin
    reached.rewardGrants.Nodup ∧ reached.experienceGrants = reached.rewardGrants ∧
    (∀ sessionId characterId, (sessionId, characterId) ∈ reached.rewardGrants ↔
      ∃ rows, reached.operations sessionId = some rows ∧
        rows.parent.terminalOutcome = some .succeeded ∧
        (characterId = rows.anchor.characterId ∨ characterId = rows.runner.characterId)) ∧
    ∀ characterId,
      reached.fragments characterId = origin.fragments characterId +
        reached.rewardsOf characterId * successReward.fragments ∧
      reached.progression characterId = (origin.progression characterId).map
        (Progression.after (reached.rewardsOf characterId)) := by
  intro reached
  have begun := accounts_start empty unpaid
  have accounts : Accounts origin reached := by
    refine Call.final_keeps (Accounts origin) ?_ moves begun
    intro move database accounts
    rcases act_cases journal accounts.durable move with
      ⟨failure, refused⟩ | ⟨request, receipt, next, rfl, answered, committed⟩ |
        ⟨event, foreign, rfl, appended⟩
    · rw [refused]
      exact accounts
    · rw [answered]
      exact accounts.committed committed
    · rw [appended]
      exact ⟨accounts.durable, ⟨accounts.balanced.same, accounts.balanced.fragments,
        accounts.balanced.progression⟩, accounts.nodup, accounts.earned⟩
  exact ⟨accounts.nodup, accounts.balanced.same, accounts.earned, fun characterId =>
    ⟨accounts.balanced.fragments characterId, accounts.balanced.progression characterId⟩⟩

theorem cooperation_rewards_once_squad :
    let reached := Call.final (act squadJournal)
      (squadMoves ++ [.request (.complete "coop-session" 12000 false),
        .request (.complete "coop-session" 12000 false)]) squadDatabase
    ("coop-session", "runner-character") ∈ reached.rewardGrants ∧ reached.rewardGrants.Nodup ∧
      reached.fragments "runner-character" = successReward.fragments := by
  intro reached
  obtain ⟨once, -, earned, held⟩ := cooperation_rewards_once squadJournal
    (squadMoves ++ [.request (.complete "coop-session" 12000 false),
      .request (.complete "coop-session" 12000 false)]) squadDatabase (fun _ => rfl) ⟨rfl, rfl⟩
  have ends : (reached.operations "coop-session").map (fun rows =>
      (rows.parent.terminalOutcome, rows.runner.characterId)) =
        some (some .succeeded, "runner-character") := by
    decide +kernel
  obtain ⟨rows, found, same⟩ := Option.map_eq_some_iff.mp ends
  obtain ⟨ended, named⟩ := Prod.mk.inj same
  have paid : reached.rewardsOf "runner-character" = 1 := by
    decide +kernel
  have total := (held "runner-character").1
  rw [show reached.rewardsOf "runner-character" = 1 from paid, Nat.one_mul] at total
  refine ⟨(earned _ _).mpr ⟨rows, found, ended, Or.inr named.symm⟩, once, ?_⟩
  rw [show reached.fragments "runner-character" = _ from total]
  exact Nat.zero_add _

end Accounts

end Cooperative
end Persistence
end Revenant
