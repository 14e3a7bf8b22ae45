import Revenant.Cooperation.State

namespace Revenant
namespace Cooperation

open Library

/-!
# What an operation can do

`Step` lists the results an operation can have with the state each leaves, errors
that come after a write included.  `perform_step` reads it off the operations;
everything later is proved from the list.

Guards that hold of every reachable state are kept as branches, so the list is
true of any state and `Kept` is only needed to rule branches out.
-/

namespace CooperationError

/-- Errors of the code's own bookkeeping. -/
def internal : CooperationError → Bool
  | invalidLifeState | incompleteContributions | arithmeticOverflow => true
  | _ => false

/-- Errors that a caller's input or timing can explain and that write nothing. -/
def ordinary : CooperationError → Bool
  | deadlineExpired _ | invalidLifeState | incompleteContributions | arithmeticOverflow => false
  | _ => true

end CooperationError

/-- Not over, and within every deadline. -/
structure Timely (state : CooperationState) (elapsedMs : Nat) : Prop where
  live : state.terminal = none
  undue : state.overdue elapsedMs = none

/-- One operation's results. -/
inductive Step : Operation → CooperationState →
    Except CooperationError MutationDisposition → CooperationState → Prop
  | refused {operation : Operation} {state : CooperationState} {failure : CooperationError}
      (ordinary : failure.ordinary = true) : Step operation state (.error failure) state
  | replayed {operation : Operation} {state : CooperationState} :
      Step operation state (.ok .replayed) state
  | pending {operation : Operation} {state : CooperationState} :
      Step operation state (.ok .pending) state
  | expired {operation : Operation} {state : CooperationState} {elapsedMs : Nat}
      {outcome : TerminalOutcome} (live : state.terminal = none)
      (timed : operation.elapsedMs = some elapsedMs)
      (due : state.overdue elapsedMs = some outcome) :
      Step operation state (.error (.deadlineExpired outcome)) (state.committed outcome)
  | anchored {state : CooperationState} {elapsedMs : Nat} (timely : Timely state elapsedMs)
      (phase : state.phase = .awaitingAnchor) :
      Step (.arriveAnchor .anchor .relayAnchor elapsedMs) state (.ok .applied)
        { state with
          contributions := { state.contributions with anchorArrived := true }
          phase := .awaitingPing }
  | pinged {state : CooperationState} {operationId : String} {elapsedMs : Nat}
      (timely : Timely state elapsedMs) (phase : state.phase = .awaitingPing) :
      Step (.ping .anchor .relayConsole operationId elapsedMs) state (.ok .applied)
        { state with
          ping := some { operationId, acceptedElapsedMs := elapsedMs }
          contributions := { state.contributions with pinged := true }
          phase := .awaitingRunner }
  | downed {state : CooperationState} {elapsedMs : Nat} (timely : Timely state elapsedMs)
      (phase : state.phase = .awaitingRunner) :
      Step (.arriveRunner .runner .relayConsole elapsedMs) state (.ok .applied)
        { state with
          runner := { state.runner with currentHealth := 0, life := .downed }
          contributions := { state.contributions with runnerArrived := true }
          downedElapsedMs := some elapsedMs
          phase := .runnerDowned }
  | runnerFallen {operation : Operation} {state : CooperationState}
      (phase : state.phase = .awaitingRunner) (live : state.terminal = none)
      (fallen : state.runner.life ≠ .active ∨ state.runner.currentHealth = 0) :
      Step operation state (.error .invalidLifeState) state
  | channelled {state : CooperationState} {distanceSquared : Int} {operationId : String}
      {elapsedMs : Nat} (timely : Timely state elapsedMs) (phase : state.phase = .runnerDowned)
      (plain : plainOperationId operationId = true) (fresh : state.reviveCount = 0) :
      Step (.startRevive .anchor .runner distanceSquared operationId elapsedMs) state (.ok .applied)
        { state with
          reviveChannel := some { operationId, acceptedElapsedMs := elapsedMs }
          phase := .reviveChannel }
  | pairFallen {operation : Operation} {state : CooperationState}
      (phase : state.phase = .runnerDowned) (live : state.terminal = none)
      (fallen : state.anchor.life ≠ .active ∨ state.runner.life ≠ .downed) :
      Step operation state (.error .invalidLifeState) state
  | cancelled {state : CooperationState} {distanceSquared : Int} {operationId : String}
      {elapsedMs : Nat} (timely : Timely state elapsedMs) (phase : state.phase = .reviveChannel) :
      Step (.observeRevive .anchor .runner distanceSquared operationId elapsedMs) state
        (.ok .cancelled) { state with reviveChannel := none, phase := .runnerDowned }
  | revived {state : CooperationState} {distanceSquared : Int} {record : OperationRecord}
      {elapsedMs : Nat} (timely : Timely state elapsedMs) (phase : state.phase = .reviveChannel)
      (channel : state.reviveChannel = some record)
      (held : record.acceptedElapsedMs + reviveChannelMs ≤ elapsedMs)
      (counted : state.reviveCount + 1 ≤ u8Max) :
      Step (.observeRevive .anchor .runner distanceSquared record.operationId elapsedMs) state
        (.ok .applied)
        { state with
          runner := { state.runner with
            currentHealth := min reviveHealth state.runner.profile.maxHealth, life := .active }
          reviveCount := state.reviveCount + 1
          contributions := { state.contributions with revived := true }
          completedReviveOperationId := some record.operationId
          reviveChannel := none
          phase := .encounterActive }
  | overflowed {operation : Operation} {state : CooperationState}
      (phase : state.phase = .reviveChannel) (live : state.terminal = none)
      (uncounted : u8Max < state.reviveCount + 1) :
      Step operation state (.error .arithmeticOverflow)
        { state with runner := { state.runner with
            currentHealth := min reviveHealth state.runner.profile.maxHealth, life := .active } }
  | unfinished {operation : Operation} {state : CooperationState}
      (phase : state.phase = .encounterActive) (live : state.terminal = none)
      (incomplete : { state.contributions with wardenCompleted := true }.complete = false) :
      Step operation state (.error .incompleteContributions)
        { state with contributions := { state.contributions with wardenCompleted := true } }
  | completed {state : CooperationState} {elapsedMs : Nat} (timely : Timely state elapsedMs)
      (phase : state.phase = .encounterActive)
      (complete : { state.contributions with wardenCompleted := true }.complete = true) :
      Step (.completeWarden elapsedMs) state (.ok .applied)
        ({ state with contributions := { state.contributions with wardenCompleted := true } }
          |>.committed .succeeded)
  | defeated {state : CooperationState} {role : Role} {elapsedMs : Nat}
      (timely : Timely state elapsedMs) (phase : state.phase = .encounterActive) :
      Step (.defeatParticipant role elapsedMs) state (.ok .applied)
        ((state.defeat role).committed .failedParticipantDefeated)
  | disconnected {state : CooperationState} {role : Role} {elapsedMs : Nat}
      (timely : Timely state elapsedMs) :
      Step (.disconnect role elapsedMs) state (.ok .applied)
        (state.committed .abandonedDisconnect)

/-! ## The checks -/

variable {operationId : String} {failure : CooperationError}

theorem validateOperationId_refused (refused : validateOperationId operationId = .error failure) :
    failure.ordinary = true := by
  obtain ⟨-, rfl⟩ := rejectIf_eq_error.mp refused
  rfl

theorem requireRoleTarget_refused {actualRole expectedRole : Role}
    {actualTarget expectedTarget : Target}
    (refused : requireRoleTarget actualRole expectedRole actualTarget expectedTarget =
      .error failure) : failure.ordinary = true := by
  simp only [requireRoleTarget, bind_eq_error, exists_unit, rejectIf_eq_error] at refused
  rcases refused with ⟨-, rfl⟩ | ⟨-, -, rfl⟩ <;> rfl

theorem requireRoleTarget_eq_ok {actualRole expectedRole : Role}
    {actualTarget expectedTarget : Target} :
    requireRoleTarget actualRole expectedRole actualTarget expectedTarget = .ok () ↔
      actualRole = expectedRole ∧ actualTarget = expectedTarget := by
  simp only [requireRoleTarget, bind_eq_ok, exists_unit, rejectIf_eq_ok, not_not]

variable {role targetRole : Role}

theorem requireReviveAuthority_refused
    (refused : requireReviveAuthority role targetRole = .error failure) :
    failure.ordinary = true := by
  simp only [requireReviveAuthority, bind_eq_error, exists_unit, rejectIf_eq_error] at refused
  rcases refused with ⟨-, rfl⟩ | ⟨-, -, rfl⟩ <;> rfl

theorem requireReviveAuthority_eq_ok :
    requireReviveAuthority role targetRole = .ok () ↔ role = .anchor ∧ targetRole = .runner := by
  simp only [requireReviveAuthority, bind_eq_ok, exists_unit, rejectIf_eq_ok, not_not]

namespace CooperationState

variable {state : CooperationState} {failure : CooperationError}

theorem requirePhase_refused {expected : Phase}
    (refused : state.requirePhase expected = .error failure) : failure.ordinary = true := by
  obtain ⟨-, rfl⟩ := rejectIf_eq_error.mp refused
  rfl

theorem requirePhase_eq_ok {expected : Phase} {done : Unit} :
    state.requirePhase expected = .ok done ↔ state.phase = expected := by
  simp only [requirePhase, rejectIf_eq_ok, not_not]

variable {operationId : String}

theorem retryAnswer_refused {anchor runner : CombatProfile} {anchorHealth runnerHealth : Nat}
    (refused : state.retryAnswer operationId anchor runner anchorHealth runnerHealth =
      .error failure) : failure.ordinary = true := by
  simp only [retryAnswer, bind_eq_error, exists_unit, rejectIf_eq_error] at refused
  rcases refused with invalid | ⟨-, ⟨-, rfl⟩ | ⟨-, ⟨-, rfl⟩ | ⟨-, impossible⟩⟩⟩
  · exact validateOperationId_refused invalid
  · rfl
  · rfl
  · cases impossible

variable {disposition : MutationDisposition}

theorem retryAnswer_replayed {anchor runner : CombatProfile} {anchorHealth runnerHealth : Nat}
    (answered : state.retryAnswer operationId anchor runner anchorHealth runnerHealth =
      .ok disposition) : disposition = .replayed := by
  simp only [retryAnswer, bind_eq_ok, exists_unit, pure_eq_ok] at answered
  exact answered.2.2.2.symm

theorem earlierPing_refused (refused : state.earlierPing operationId = .error failure) :
    failure.ordinary = true := by
  unfold earlierPing at refused
  split at refused
  · simp only [bind_eq_error, exists_unit, rejectIf_eq_error] at refused
    rcases refused with ⟨-, rfl⟩ | ⟨-, impossible⟩
    · rfl
    · cases impossible
  · cases refused

/-- An earlier ping answers with itself. -/
theorem earlierPing_replayed (answered : state.earlierPing operationId = .ok (some disposition)) :
    disposition = .replayed := by
  unfold earlierPing at answered
  split at answered
  · simp only [bind_eq_ok, exists_unit, pure_eq_ok] at answered
    exact (Option.some.inj answered.2).symm
  · cases answered

theorem earlierRevive_refused (refused : state.earlierRevive operationId = .error failure) :
    failure.ordinary = true := by
  unfold earlierRevive at refused
  split at refused
  · cases refused
  · simp only [bind_eq_error, exists_unit, rejectIf_eq_error] at refused
    rcases refused with ⟨-, rfl⟩ | ⟨-, refused⟩
    · rfl
    · split at refused
      · simp only [bind_eq_error, exists_unit, rejectIf_eq_error] at refused
        rcases refused with ⟨-, rfl⟩ | ⟨-, impossible⟩
        · rfl
        · cases impossible
      · cases refused

theorem earlierRevive_replayed (answered : state.earlierRevive operationId = .ok (some disposition)) :
    disposition = .replayed := by
  unfold earlierRevive at answered
  split at answered
  · cases answered
    rfl
  · simp only [bind_eq_ok, exists_unit] at answered
    obtain ⟨-, answered⟩ := answered
    split at answered
    · simp only [bind_eq_ok, exists_unit, pure_eq_ok] at answered
      exact (Option.some.inj answered.2).symm
    · cases answered

/-- A new channel opens only before the first revive. -/
theorem earlierRevive_none (fresh : state.earlierRevive operationId = .ok none) :
    state.reviveCount = 0 := by
  unfold earlierRevive at fresh
  split at fresh
  · cases fresh
  · simp only [bind_eq_ok, exists_unit, rejectIf_eq_ok] at fresh
    omega

end CooperationState

/-- Every refusal of a channel reading is the caller's. -/
theorem readChannel_refused {state : CooperationState} {distanceSquared : Int} {elapsedMs : Nat}
    (refused : readChannel state role targetRole distanceSquared operationId elapsedMs =
      .error failure) : failure.ordinary = true := by
  simp only [readChannel, bind_eq_error, exists_unit] at refused
  rcases refused with authority | ⟨-, invalid | ⟨-, refused⟩⟩
  · exact requireReviveAuthority_refused authority
  · exact validateOperationId_refused invalid
  · split at refused
    · cases refused
    · simp only [bind_eq_error, exists_unit, rejectIf_eq_error, require_eq_error] at refused
      rcases refused with phase | ⟨-, ⟨-, rfl⟩ | ⟨record, -, ⟨-, rfl⟩ | ⟨-, ⟨-, rfl⟩ | ⟨-, refused⟩⟩⟩⟩
      · exact CooperationState.requirePhase_refused phase
      · rfl
      · rfl
      · rfl
      · split at refused
        · cases refused
        · simp only [bind_eq_error, exists_unit, rejectIf_eq_error] at refused
          rcases refused with ⟨-, rfl⟩ | ⟨-, refused⟩
          · rfl
          · split at refused <;> cases refused

/-- A reading past the first retry is of the open channel, by its own identifier. -/
theorem readChannel_open {state : CooperationState} {distanceSquared : Int} {elapsedMs : Nat}
    {reading : ChannelReading}
    (read : readChannel state role targetRole distanceSquared operationId elapsedMs = .ok reading) :
    role = .anchor ∧ targetRole = .runner ∧ (reading = .repeated ∨
      state.phase = .reviveChannel ∧ ∃ record, state.reviveChannel = some record ∧
        record.operationId = operationId ∧
        (reading = .outside ∧ maxReviveDistanceSquared < distanceSquared ∨
          distanceSquared ≤ maxReviveDistanceSquared ∧ (reading = .running ∨
            reading = .done record.operationId ∧
              record.acceptedElapsedMs + reviveChannelMs ≤ elapsedMs))) := by
  simp only [readChannel, bind_eq_ok, exists_unit, requireReviveAuthority_eq_ok] at read
  obtain ⟨⟨anchor, runner⟩, -, read⟩ := read
  refine ⟨anchor, runner, ?_⟩
  split at read
  · exact Or.inl (pure_eq_ok.mp read).symm
  · simp only [bind_eq_ok, exists_unit, rejectIf_eq_ok, require_eq_ok, not_not,
      CooperationState.requirePhase_eq_ok] at read
    obtain ⟨phase, record, channel, same, -, read⟩ := read
    refine Or.inr ⟨phase, record, channel, same, ?_⟩
    split at read
    · next far => exact Or.inl ⟨(pure_eq_ok.mp read).symm, far⟩
    · next near =>
        refine Or.inr ⟨not_lt.mp near, ?_⟩
        simp only [bind_eq_ok, exists_unit, rejectIf_eq_ok] at read
        obtain ⟨later, read⟩ := read
        split at read
        · exact Or.inl (pure_eq_ok.mp read).symm
        · next held => exact Or.inr ⟨(pure_eq_ok.mp read).symm, by omega⟩

/-! ## The operations -/

/-- Deadlines first: the call is over, or a deadline is noticed, or it goes on. -/
theorem sat_observe_bind {state : CooperationState} {elapsedMs : Nat}
    {rest : MutationDisposition → Operate MutationDisposition}
    {post : Except CooperationError MutationDisposition → CooperationState → Prop}
    (isOver : ∀ outcome, state.terminal = some outcome → post (.error (.terminal outcome)) state)
    (late : ∀ outcome, state.terminal = none → state.overdue elapsedMs = some outcome →
      post (.error (.deadlineExpired outcome)) (state.committed outcome))
    (timely : Timely state elapsedMs → Call.Sat (rest .pending) state post) :
    Call.Sat (observeDeadlines elapsedMs >>= rest) state post := by
  apply Call.sat_bind
  unfold observeDeadlines
  apply Call.sat_check_bind
  · intro failure ended
    cases running : state.terminal with
    | none =>
        rw [running] at ended
        cases ended
    | some outcome =>
        rw [running] at ended
        cases ended
        exact isOver outcome running
  · intro timeout found
    cases running : state.terminal with
    | some outcome =>
        rw [running] at found
        cases found
    | none =>
        rw [running] at found
        cases due : state.overdue elapsedMs with
        | some outcome =>
            rw [due] at found
            cases found
            exact Call.sat_update_bind (late outcome running due)
        | none =>
            rw [due] at found
            cases found
            exact timely ⟨running, due⟩

variable {state : CooperationState}

/-- The deadlines in front of an operation are steps of it; what is left is an
operation in time. -/
theorem observe_step_bind {operation : Operation} {elapsedMs : Nat}
    {rest : MutationDisposition → Operate MutationDisposition}
    (timed : operation.elapsedMs = some elapsedMs)
    (timely : Timely state elapsedMs → Call.Sat (rest .pending) state (Step operation state)) :
    Call.Sat (observeDeadlines elapsedMs >>= rest) state (Step operation state) := by
  apply sat_observe_bind
  · exact fun outcome _ => Step.refused rfl
  · exact fun outcome live due => Step.expired live timed due
  · exact timely

theorem observeDeadlines_step (elapsedMs : Nat) :
    Call.Sat (observeDeadlines elapsedMs) state (Step (.observeDeadlines elapsedMs) state) := by
  apply Call.sat_of_bind_pure
  exact observe_step_bind rfl (fun _ => Step.pending)

theorem retryStart_step (operationId : String) (anchor runner : CombatProfile)
    (anchorHealth runnerHealth : Nat) :
    Call.Sat (retryStart operationId anchor runner anchorHealth runnerHealth) state
      (Step (.retryStart operationId anchor runner anchorHealth runnerHealth) state) := by
  apply Call.sat_check
  cases answered : state.retryAnswer operationId anchor runner anchorHealth runnerHealth with
  | error failure => exact Step.refused (CooperationState.retryAnswer_refused answered)
  | ok disposition =>
      rw [CooperationState.retryAnswer_replayed answered]
      exact Step.replayed

theorem arriveAnchor_step (role : Role) (target : Target) (elapsedMs : Nat) :
    Call.Sat (arriveAnchor role target elapsedMs) state
      (Step (.arriveAnchor role target elapsedMs) state) := by
  refine observe_step_bind rfl (fun timely => ?_)
  apply Call.sat_check_bind
  · intro failure refused
    simp only [bind_eq_error, exists_unit] at refused
    rcases refused with foreign | ⟨-, phase⟩
    · exact Step.refused (requireRoleTarget_refused foreign)
    · exact Step.refused (CooperationState.requirePhase_refused phase)
  · intro _ passed
    simp only [bind_eq_ok, exists_unit, requireRoleTarget_eq_ok,
      CooperationState.requirePhase_eq_ok] at passed
    obtain ⟨⟨rfl, rfl⟩, phase⟩ := passed
    exact Call.sat_update_bind (Call.sat_pure (Step.anchored timely phase))

theorem ping_step (role : Role) (target : Target) (operationId : String) (elapsedMs : Nat) :
    Call.Sat (ping role target operationId elapsedMs) state
      (Step (.ping role target operationId elapsedMs) state) := by
  refine observe_step_bind rfl (fun timely => ?_)
  apply Call.sat_check_bind
  · intro failure refused
    simp only [bind_eq_error, exists_unit] at refused
    rcases refused with foreign | ⟨-, invalid | ⟨-, earlier⟩⟩
    · exact Step.refused (requireRoleTarget_refused foreign)
    · exact Step.refused (validateOperationId_refused invalid)
    · exact Step.refused (CooperationState.earlierPing_refused earlier)
  · intro earlier passed
    simp only [bind_eq_ok, exists_unit, requireRoleTarget_eq_ok] at passed
    obtain ⟨⟨rfl, rfl⟩, -, answered⟩ := passed
    cases earlier with
    | some disposition =>
        rw [CooperationState.earlierPing_replayed answered]
        exact Step.replayed
    | none =>
        apply Call.sat_check_bind
        · exact fun failure phase => Step.refused (CooperationState.requirePhase_refused phase)
        · intro _ phase
          exact Call.sat_update_bind
            (Call.sat_pure (Step.pinged timely (CooperationState.requirePhase_eq_ok.mp phase)))

theorem arriveRunner_step (role : Role) (target : Target) (elapsedMs : Nat) :
    Call.Sat (arriveRunner role target elapsedMs) state
      (Step (.arriveRunner role target elapsedMs) state) := by
  refine observe_step_bind rfl (fun timely => ?_)
  apply Call.sat_check_bind
  · intro failure refused
    simp only [bind_eq_error, exists_unit, rejectIf_eq_error] at refused
    rcases refused with foreign | ⟨-, phase | ⟨phase, fallen, rfl⟩⟩
    · exact Step.refused (requireRoleTarget_refused foreign)
    · exact Step.refused (CooperationState.requirePhase_refused phase)
    · exact Step.runnerFallen (CooperationState.requirePhase_eq_ok.mp phase) timely.live fallen
  · intro _ passed
    simp only [bind_eq_ok, exists_unit, requireRoleTarget_eq_ok,
      CooperationState.requirePhase_eq_ok] at passed
    obtain ⟨⟨rfl, rfl⟩, phase, -⟩ := passed
    exact Call.sat_update_bind (Call.sat_pure (Step.downed timely phase))

theorem startRevive_step (role targetRole : Role) (distanceSquared : Int) (operationId : String)
    (elapsedMs : Nat) :
    Call.Sat (startRevive role targetRole distanceSquared operationId elapsedMs) state
      (Step (.startRevive role targetRole distanceSquared operationId elapsedMs) state) := by
  refine observe_step_bind rfl (fun timely => ?_)
  apply Call.sat_check_bind
  · intro failure refused
    simp only [bind_eq_error, exists_unit] at refused
    rcases refused with foreign | ⟨-, far | ⟨-, invalid | ⟨-, earlier⟩⟩⟩
    · exact Step.refused (requireReviveAuthority_refused foreign)
    · obtain ⟨-, rfl⟩ := rejectIf_eq_error.mp far
      exact Step.refused rfl
    · exact Step.refused (validateOperationId_refused invalid)
    · exact Step.refused (CooperationState.earlierRevive_refused earlier)
  · intro earlier passed
    simp only [bind_eq_ok, exists_unit, requireReviveAuthority_eq_ok] at passed
    obtain ⟨⟨rfl, rfl⟩, -, valid, answered⟩ := passed
    have plain := rejectIf_eq_ok.mp valid
    rw [Bool.not_eq_false] at plain
    cases earlier with
    | some disposition =>
        rw [CooperationState.earlierRevive_replayed answered]
        exact Step.replayed
    | none =>
        have fresh := CooperationState.earlierRevive_none answered
        apply Call.sat_check_bind
        · intro failure refused
          simp only [bind_eq_error, exists_unit, rejectIf_eq_error] at refused
          rcases refused with phase | ⟨phase, fallen, rfl⟩
          · exact Step.refused (CooperationState.requirePhase_refused phase)
          · exact Step.pairFallen (CooperationState.requirePhase_eq_ok.mp phase) timely.live fallen
        · intro _ passed
          simp only [bind_eq_ok, exists_unit, CooperationState.requirePhase_eq_ok] at passed
          exact Call.sat_update_bind (Call.sat_pure (Step.channelled timely passed.1 plain fresh))

theorem observeRevive_step (role targetRole : Role) (distanceSquared : Int) (operationId : String)
    (elapsedMs : Nat) :
    Call.Sat (observeRevive role targetRole distanceSquared operationId elapsedMs) state
      (Step (.observeRevive role targetRole distanceSquared operationId elapsedMs) state) := by
  refine observe_step_bind rfl (fun timely => ?_)
  apply Call.sat_check_bind
  · exact fun failure refused => Step.refused (readChannel_refused refused)
  · intro reading read
    obtain ⟨rfl, rfl, rfl | ⟨phase, record, channel, rfl, ⟨rfl, -⟩ | ⟨-, rfl | ⟨rfl, held⟩⟩⟩⟩ :=
      readChannel_open read
    · exact Step.replayed
    · exact Call.sat_update_bind (Call.sat_pure (Step.cancelled timely phase))
    · exact Step.pending
    · apply Call.sat_update_bind
      apply Call.sat_check_bind
      · intro failure uncounted
        obtain ⟨many, rfl⟩ := rejectIf_eq_error.mp uncounted
        exact Step.overflowed phase timely.live many
      · intro _ counted
        exact Call.sat_update_bind (Call.sat_pure
          (Step.revived timely phase channel held (not_lt.mp (rejectIf_eq_ok.mp counted))))

theorem completeWarden_step (elapsedMs : Nat) :
    Call.Sat (completeWarden elapsedMs) state (Step (.completeWarden elapsedMs) state) := by
  apply Call.sat_check_bind
  · exact fun failure impossible => nomatch impossible
  intro finished _
  split
  · exact Step.replayed
  refine observe_step_bind rfl (fun timely => ?_)
  apply Call.sat_check_bind
  · exact fun failure phase => Step.refused (CooperationState.requirePhase_refused phase)
  intro _ phase
  have active := CooperationState.requirePhase_eq_ok.mp phase
  apply Call.sat_update_bind
  apply Call.sat_check_bind
  · intro failure refused
    obtain ⟨incomplete, rfl⟩ := rejectIf_eq_error.mp refused
    exact Step.unfinished active timely.live incomplete
  · intro _ passed
    have complete := rejectIf_eq_ok.mp passed
    rw [Bool.not_eq_false] at complete
    exact Call.sat_update_bind (Call.sat_pure (Step.completed timely active complete))

theorem defeatParticipant_step (role : Role) (elapsedMs : Nat) :
    Call.Sat (defeatParticipant role elapsedMs) state
      (Step (.defeatParticipant role elapsedMs) state) := by
  refine observe_step_bind rfl (fun timely => ?_)
  apply Call.sat_check_bind
  · exact fun failure phase => Step.refused (CooperationState.requirePhase_refused phase)
  intro _ phase
  exact Call.sat_update_bind (Call.sat_update_bind
    (Call.sat_pure (Step.defeated timely (CooperationState.requirePhase_eq_ok.mp phase))))

theorem disconnect_step (role : Role) (elapsedMs : Nat) :
    Call.Sat (disconnect role elapsedMs) state (Step (.disconnect role elapsedMs) state) := by
  apply Call.sat_check_bind
  · exact fun failure impossible => nomatch impossible
  intro gone _
  split
  · exact Step.replayed
  exact observe_step_bind rfl (fun timely =>
    Call.sat_update_bind (Call.sat_pure (Step.disconnected timely)))

/-- Every operation does one of the listed things. -/
theorem perform_step (operation : Operation) (state : CooperationState) :
    Step operation state (perform operation state).1 (perform operation state).2 := by
  cases operation with
  | retryStart operationId anchor runner anchorHealth runnerHealth =>
      exact retryStart_step operationId anchor runner anchorHealth runnerHealth
  | arriveAnchor role target elapsedMs => exact arriveAnchor_step role target elapsedMs
  | ping role target operationId elapsedMs => exact ping_step role target operationId elapsedMs
  | arriveRunner role target elapsedMs => exact arriveRunner_step role target elapsedMs
  | startRevive role targetRole distanceSquared operationId elapsedMs =>
      exact startRevive_step role targetRole distanceSquared operationId elapsedMs
  | observeRevive role targetRole distanceSquared operationId elapsedMs =>
      exact observeRevive_step role targetRole distanceSquared operationId elapsedMs
  | completeWarden elapsedMs => exact completeWarden_step elapsedMs
  | defeatParticipant role elapsedMs => exact defeatParticipant_step role elapsedMs
  | disconnect role elapsedMs => exact disconnect_step role elapsedMs
  | observeDeadlines elapsedMs => exact observeDeadlines_step elapsedMs

end Cooperation
end Revenant
