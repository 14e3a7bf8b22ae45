import Revenant.Agreement.FieldActivity

namespace Revenant
namespace Agreement
namespace FieldActivity

open Library Activities Gateway Gateway.FieldSession Replay.FieldActivity
open Replay (CampaignResumePayload Payload ReplayEvent ReplayEventKind)
open Activities.Coolant (Attempt Observation Through Delivered)

/-!
# The attempts of a session

A coolant encounter moves by what it is shown, and a new attempt takes the place
of an expired one.  Every step is one such move, with the rows it writes, so an
attempt that was completed stays where it is for the rest of the session.
-/

/-- A step of the encounter and the field rows it writes. -/
inductive Moved (before after : CoolantEncounter) : List Payload → Prop
  | unseen (same : after = before) : Moved before after []
  | seen {observation : Observation} (grown : after = before.observe observation)
      (quiet : after.attempt.run.phase = before.attempt.run.phase) : Moved before after []
  | entered {observation : Observation} (grown : after = before.observe observation)
      (changed : after.attempt.run.phase ≠ before.attempt.run.phase)
      (stored : observation.stored = true) :
      Moved before after [phaseRow after.attempt.run.phase]
  | restarted (expired : before.attempt.run.phase = .expired)
      (fresh : after.attempt = Attempt.begin) (unseen : after.seen = []) :
      Moved before after [coolantRow "started"]

/-- The session went on with its coolant run. -/
def Continues (session next : FieldSession) (before : CoolantEncounter) : Prop :=
  ∃ after rows, next.encounter = some (.coolant after) ∧
    fieldPayloads next.journal = fieldPayloads session.journal ++ rows ∧ Moved before after rows

/-- The coolant run of a session is told by what it was shown, completes only by
both dwells before the deadline, expires once, and starts again only then. -/
structure Lawful (capabilities : FieldCapabilities) (session : FieldSession) : Prop where
  ordered : ∀ encounter, session.encounter = some (.coolant encounter) →
    encounter.attempt = Attempt.after encounter.seen ∧
      (encounter.seen.map Observation.elapsedMs).Pairwise (· ≤ ·)
  delivered : ∀ encounter, session.encounter = some (.coolant encounter) →
    encounter.attempt.run.phase = .completed → Delivered encounter.seen
  continues : ∀ encounter, session.encounter = some (.coolant encounter) →
    ∀ next, Step capabilities session next → Continues session next encounter
  /-- An observation past the deadline whose row is stored ends the attempt. -/
  expires : ∀ encounter, session.encounter = some (.coolant encounter) →
    encounter.attempt.run.phase.awaited.isSome → ∀ next, Step capabilities session next →
    ∀ after observation, next.encounter = some (.coolant after) →
      after.seen = encounter.seen ++ [observation] → observation.stored = true →
      Coolant.deadlineMs ≤ observation.elapsedMs →
        after.attempt.run.phase = .expired ∧
          fieldPayloads next.journal = fieldPayloads session.journal ++ [coolantRow "expired"]
  /-- An expired attempt expires no more: it stays, or a new one begins. -/
  once : ∀ encounter, session.encounter = some (.coolant encounter) →
    encounter.attempt.run.phase = .expired → ∀ next, Step capabilities session next →
    ∃ after, next.encounter = some (.coolant after) ∧
      (after.attempt = encounter.attempt ∧
          fieldPayloads next.journal = fieldPayloads session.journal ∨
        after.attempt = Attempt.begin ∧
          fieldPayloads next.journal = fieldPayloads session.journal ++ [coolantRow "started"])
  /-- At the door the intake starts an expired attempt again. -/
  restarts : ∀ encounter, session.encounter = some (.coolant encounter) →
    encounter.attempt.run.phase = .expired → session.stage = .door →
    ∀ player, session.actors.get session.player.actorId = some player → -12 ≤ player.position.x →
    ∀ now write bossId, session.clock ≤ now → (session.advance now).Follows write →
      session.Fresh bossId →
    ∃ next after, Step capabilities session next ∧ next.encounter = some (.coolant after) ∧
      after.attempt = Attempt.begin ∧ after.seen = [] ∧
      fieldPayloads next.journal = fieldPayloads session.journal ++ [coolantRow "started"]
  /-- A completed attempt is the last one. -/
  final : ∀ encounter, session.encounter = some (.coolant encounter) →
    encounter.attempt.run.phase = .completed →
    ∀ last, Relation.ReflTransGen (Step capabilities) session last →
    ∃ after, last.encounter = some (.coolant after) ∧ after.attempt = encounter.attempt ∧
      fieldPayloads last.journal = fieldPayloads session.journal

/-! ## One step -/

section Steps

variable {capabilities : FieldCapabilities} {session next : FieldSession}
  {encounter : CoolantEncounter}

theorem continues_same (chosen : next.encounter = some (.coolant encounter))
    (journal : fieldPayloads next.journal = fieldPayloads session.journal) :
    Continues session next encounter :=
  ⟨encounter, [], chosen, by rw [journal, List.append_nil], .unseen rfl⟩

/-- What leaves the encounter and the field rows changes nothing of a move. -/
theorem Continues.silent {last : FieldSession} (continues : Continues session next encounter)
    (same : last.encounter = next.encounter)
    (journal : fieldPayloads last.journal = fieldPayloads next.journal) :
    Continues session last encounter := by
  obtain ⟨after, rows, chosen, grown, moved⟩ := continues
  exact ⟨after, rows, same.trans chosen, journal.trans grown, moved⟩

theorem tickCoolant_continues (chosen : session.encounter = some (.coolant encounter))
    (write : Option Write) : Continues session (session.tickCoolant write).1 encounter := by
  simp only [FieldSession.tickCoolant, tickCoolantAt, chosen]
  cases session.actors.get encounter.playerId with
  | none => exact continues_same chosen rfl
  | some player =>
      generalize elapsedMillis encounter.startedAt session.clock = elapsedMs
      dsimp only
      split
      · next same => exact ⟨_, [], rfl, (List.append_nil _).symm, .seen rfl (observe_same same)⟩
      · next changed =>
        cases appended : session.appendEvent write .fieldActivity (some encounter.playerId)
            (phaseRow (encounter.attempt.run.update player.position elapsedMs).1.phase) with
        | none => exact ⟨_, [], rfl, (List.append_nil _).symm, .seen rfl (observe_refused rfl)⟩
        | some stored =>
            obtain ⟨done, -, follows, rfl⟩ := Session.appendEvent_eq_some.mp appended
            have adopted := congrArg Coolant.CoolantRun.phase
              (@observe_stored encounter.attempt ⟨player.position, elapsedMs, true⟩ changed rfl)
            refine ⟨encounter.observe ⟨player.position, elapsedMs, true⟩, _, rfl,
              fieldPayloads_snoc (phaseRow_field rfl rfl), ?_⟩
            change Moved encounter _ [phaseRow _]
            rw [← adopted]
            refine .entered rfl ?_ rfl
            intro same
            exact changed (adopted.symm.trans same)

theorem startCoolant_continues
    (expired : encounter.attempt.run.phase = .expired) {write : Option Write}
    (started : session.startCoolant write = some next) : Continues session next encounter := by
  simp only [FieldSession.startCoolant, Option.bind_eq_bind, Option.bind_eq_some_iff,
    Session.appendEvent_eq_some, Option.pure_def, Option.some.injEq] at started
  obtain ⟨_, ⟨done, -, follows, rfl⟩, rfl⟩ := started
  exact ⟨_, _, rfl, fieldPayloads_snoc (isField_text rfl rfl), .restarted expired rfl rfl⟩

/-- With the choice locked only an expired attempt starts again. -/
theorem handleCoolantMovement_continues (chosen : session.encounter = some (.coolant encounter))
    (locked : session.choiceOpen = false) (position : Position) (write : Option Write) :
    Continues session (session.handleCoolantMovement capabilities position write).1 encounter := by
  unfold FieldSession.handleCoolantMovement
  split
  · next entered =>
    cases started : session.startCoolant write with
    | none => exact continues_same chosen rfl
    | some next =>
        rcases entered.2 with retry | available
        · simp only [coolantRetry, chosen, Bool.and_eq_true, decide_eq_true_eq] at retry
          exact startCoolant_continues retry.2 started
        · simp only [coolantAvailable, locked, Bool.and_false, Bool.false_eq_true] at available
  · have ticked := tickCoolant_continues chosen write
    generalize session.tickCoolant write = outcome at ticked ⊢
    obtain ⟨next, stored⟩ := outcome
    cases stored
    · exact ticked
    · exact ticked

/-- No annex is open while the coolant run is. -/
theorem handleMeridianMovement_coolant (chosen : session.encounter = some (.coolant encounter))
    (position : Position) (write : Option Write) :
    session.handleMeridianMovement capabilities position write = some session := by
  have shut : session.meridianTraversalAvailable capabilities = false := by
    simp only [meridianTraversalAvailable, chosen, Bool.and_false]
  rw [FieldSession.handleMeridianMovement, shut, if_neg Bool.false_ne_true]

theorem enterDoor_silent (bossId : Nat) (write : Option Write) :
    (session.enterDoor bossId write).encounter = session.encounter ∧
      fieldPayloads (session.enterDoor bossId write).journal = fieldPayloads session.journal := by
  unfold FieldSession.enterDoor
  dsimp only
  cases opened : Session.openRelayDoor { session with choiceOpen := false } bossId write with
  | none => exact ⟨rfl, rfl⟩
  | some after =>
      obtain ⟨done, -, rfl⟩ := openRelayDoor_eq_some opened
      exact ⟨rfl, fieldPayloads_other rfl⟩

theorem takeStep_continues (chosen : session.encounter = some (.coolant encounter))
    (locked : session.choiceOpen = false) {position : Position}
    {meridianWrite coolantWrite doorWrite : Option Write} {bossId : Nat}
    (taken : session.takeStep capabilities position meridianWrite coolantWrite doorWrite bossId =
      some next) : Continues session next encounter := by
  simp only [FieldSession.takeStep, handleMeridianMovement_coolant chosen, Option.bind_eq_bind,
    Option.bind_some] at taken
  have moved := @handleCoolantMovement_continues capabilities (session.place position) encounter
    chosen locked position coolantWrite
  generalize FieldSession.handleCoolantMovement capabilities (session.place position) position
    coolantWrite = outcome at moved taken
  obtain ⟨after, answer⟩ := outcome
  cases answer with
  | none => cases taken; exact moved
  | some stays =>
      cases stays with
      | true => cases taken; exact moved
      | false =>
          cases taken
          split
          · exact moved.silent (enterDoor_silent bossId doorWrite).1
              (enterDoor_silent bossId doorWrite).2
          · exact moved

/-- Every step is one move of the encounter. -/
theorem step_continues (chosen : session.encounter = some (.coolant encounter))
    (locked : session.choiceOpen = false) (step : Step capabilities session next) :
    Continues session next encounter := by
  cases step with
  | move now position meridianWrite coolantWrite doorWrite bossId later fresh elsewhere moved =>
      rcases movePlayerAt_eq_some moved with rfl | taken
      · exact continues_same chosen rfl
      · exact @takeStep_continues capabilities (session.advance now) next encounter chosen locked
          position meridianWrite coolantWrite doorWrite bossId taken
  | tick now write later ticked =>
      rw [← ticked]
      exact @tickCoolant_continues (session.advance now) encounter chosen write

end Steps

/-! ## What a move can be -/

namespace Moved

variable {before after : CoolantEncounter} {rows : List Payload}

theorem late (moved : Moved before after rows) (running : before.attempt.run.phase.awaited.isSome)
    {observation : Observation} (shown : after.seen = before.seen ++ [observation])
    (stored : observation.stored = true) (late : Coolant.deadlineMs ≤ observation.elapsedMs) :
    after.attempt.run.phase = .expired ∧ rows = [coolantRow "expired"] := by
  have different : Coolant.Phase.expired ≠ before.attempt.run.phase := by
    intro same
    rw [← same] at running
    cases running
  cases moved with
  | unseen same =>
      rw [same] at shown
      exact absurd (congrArg List.length shown) (by simp)
  | seen grown quiet =>
      subst grown
      cases List.append_cancel_left shown
      have ended := Attempt.observe_late running late stored
      exact absurd (ended.symm.trans quiet) different
  | entered grown changed _ =>
      subst grown
      cases List.append_cancel_left shown
      have ended := Attempt.observe_late running late stored
      refine ⟨ended, ?_⟩
      change [phaseRow (before.attempt.observe observation).run.phase] = _
      rw [ended]
      rfl
  | restarted expired => exact absurd expired.symm different

/-- An attempt that waits for nothing stays, or it expired and a new one begins. -/
theorem ended (moved : Moved before after rows) (isOver : before.attempt.run.phase.awaited = none) :
    after.attempt = before.attempt ∧ rows = [] ∨
      before.attempt.run.phase = .expired ∧ after.attempt = Attempt.begin ∧
        rows = [coolantRow "started"] := by
  cases moved with
  | unseen same => exact Or.inl ⟨by rw [same], rfl⟩
  | seen grown => exact Or.inl ⟨by rw [grown]; exact Attempt.observe_over isOver _, rfl⟩
  | entered grown changed =>
      refine absurd ?_ changed
      rw [grown]
      exact congrArg (fun attempt => attempt.run.phase) (Attempt.observe_over isOver _)
  | restarted expired fresh => exact Or.inr ⟨expired, fresh, rfl⟩

end Moved

/-! ## Runs -/

section Runs

variable {capabilities : FieldCapabilities} {session last : FieldSession}
  {encounter : CoolantEncounter}

theorem Kept.locked_coolant (kept : Kept session)
    (chosen : session.encounter = some (.coolant encounter)) : session.choiceOpen = false :=
  kept.locked (by rw [chosen]; nofun)

theorem Kept.delivered (kept : Kept session)
    (chosen : session.encounter = some (.coolant encounter))
    (completed : encounter.attempt.run.phase = .completed) : Delivered encounter.seen := by
  have observing := kept.observing encounter chosen
  have through := Coolant.through_after observing.ordered
  rw [← observing.attempt] at through
  generalize encounter.attempt.entered = entered at through
  cases through with
  | transferring phase | delivering phase | expired phase => rw [completed] at phase; cases phase
  | completed _ delivered => exact delivered

theorem Kept.final (kept : Kept session) (chosen : session.encounter = some (.coolant encounter))
    (completed : encounter.attempt.run.phase = .completed)
    (run : Relation.ReflTransGen (Step capabilities) session last) :
    ∃ after, last.encounter = some (.coolant after) ∧ after.attempt = encounter.attempt ∧
      fieldPayloads last.journal = fieldPayloads session.journal := by
  induction run with
  | refl => exact ⟨encounter, chosen, rfl, rfl⟩
  | tail earlier step inductionHypothesis =>
      obtain ⟨middle, chosen, same, journal⟩ := inductionHypothesis
      have locked := (kept.run earlier).locked_coolant chosen
      obtain ⟨after, rows, chosen, grown, moved⟩ := step_continues chosen locked step
      have phase : middle.attempt.run.phase = .completed := by rw [same, completed]
      rcases moved.ended (by rw [phase]; rfl) with ⟨stays, rfl⟩ | ⟨expired, -⟩
      · exact ⟨after, chosen, stays.trans same, by rw [grown, List.append_nil, journal]⟩
      · rw [phase] at expired
        cases expired

/-- A stored row begins an attempt. -/
theorem startCoolant_started {write : Write} (follows : session.Follows write) :
    ∃ next after, session.startCoolant (some write) = some next ∧
      next.encounter = some (.coolant after) ∧ after.attempt = Attempt.begin ∧ after.seen = [] ∧
      fieldPayloads next.journal = fieldPayloads session.journal ++ [coolantRow "started"] := by
  have stored : session.appendEvent (some write) .fieldActivity (some session.player.actorId)
      (coolantRow "started") = some (session.stored write .fieldActivity
        (some session.player.actorId) (coolantRow "started")) :=
    Session.appendEvent_eq_some.mpr ⟨write, rfl, follows, rfl⟩
  simp only [FieldSession.startCoolant, stored, Option.bind_eq_bind, Option.bind_some,
    Option.pure_def]
  exact ⟨_, _, rfl, rfl, rfl, rfl, fieldPayloads_snoc (isField_text rfl rfl)⟩

/-- A move onto the intake starts an expired attempt again. -/
theorem Kept.restarts (chosen : session.encounter = some (.coolant encounter))
    (expired : encounter.attempt.run.phase = .expired)
    (kept : Kept session) (door : session.stage = .door) {player : Actor}
    (found : session.actors.get session.player.actorId = some player)
    (inside : -12 ≤ player.position.x) {now : Nat} {write : Write} {bossId : Nat}
    (later : session.clock ≤ now) (follows : (session.advance now).Follows write)
    (fresh : session.Fresh bossId) :
    ∃ next after, Step capabilities session next ∧ next.encounter = some (.coolant after) ∧
      after.attempt = Attempt.begin ∧ after.seen = [] ∧
      fieldPayloads next.journal = fieldPayloads session.journal ++ [coolantRow "started"] := by
  have locked := kept.locked_coolant chosen
  obtain ⟨next, after, started, entered, begun, unseen, journal⟩ :=
    @startCoolant_started ((session.advance now).place Coolant.intake) write follows
  refine ⟨next, after, ?_, entered, begun, unseen, journal⟩
  refine .move now Coolant.intake none (some write) none bossId later fresh ?_ ?_
  · rw [locked]
    rintro ⟨⟩
  · have advanced : (session.advance now).encounter = some (.coolant encounter) := chosen
    have retry : FieldSession.coolantRetry ((session.advance now).place Coolant.intake) = true := by
      have atDoor : ((session.advance now).place Coolant.intake).stage = .door := door
      have again : ((session.advance now).place Coolant.intake).encounter =
          some (.coolant encounter) := chosen
      simp only [coolantRetry, atDoor, again, expired, decide_true, Bool.and_self]
    have taken : (FieldSession.takeStep capabilities (session.advance now) Coolant.intake none
        (some write) none bossId) = some next := by
      simp only [FieldSession.takeStep, handleMeridianMovement_coolant advanced,
        FieldSession.handleCoolantMovement, Option.bind_eq_bind, Option.bind_some]
      rw [if_pos ⟨trivial, Or.inl retry⟩, started]
      rfl
    have running : ¬ ((session.advance now).stage = .complete ∨
        (session.advance now).stage = .failed) := by
      change ¬ (session.stage = .complete ∨ session.stage = .failed)
      rw [door]
      decide
    have east : ¬ (Coolant.intake.x < -12 ∨ player.position.x < -12) :=
      not_or.mpr ⟨by decide, not_lt.mpr inside⟩
    have inHub : Session.validMovementTarget Coolant.intake := by decide
    have here : (session.advance now).actors.get (session.advance now).player.actorId =
        some player := found
    simp only [FieldSession.movePlayerAt, if_neg running, here, if_neg east,
      if_neg (not_not.mpr inHub)]
    exact taken

/-- Everything a run keeps of the coolant encounter. -/
theorem Kept.lawful (kept : Kept session) : Lawful capabilities session := by
  constructor
  case ordered =>
    intro encounter chosen
    exact ⟨(kept.observing encounter chosen).attempt, (kept.observing encounter chosen).ordered⟩
  case delivered => exact fun encounter chosen => kept.delivered chosen
  case continues =>
    exact fun encounter chosen next step =>
      step_continues chosen (kept.locked_coolant chosen) step
  case expires =>
    intro encounter chosen running next step after observation reached shown stored late
    obtain ⟨_, rows, again, grown, moved⟩ :=
      step_continues chosen (kept.locked_coolant chosen) step
    cases again.symm.trans reached
    obtain ⟨phase, rfl⟩ := moved.late running shown stored late
    exact ⟨phase, grown⟩
  case once =>
    intro encounter chosen expired next step
    obtain ⟨after, rows, reached, grown, moved⟩ :=
      step_continues chosen (kept.locked_coolant chosen) step
    refine ⟨after, reached, ?_⟩
    rcases moved.ended (by rw [expired]; rfl) with ⟨stays, rfl⟩ | ⟨-, fresh, rfl⟩
    · exact Or.inl ⟨stays, by rw [grown, List.append_nil]⟩
    · exact Or.inr ⟨fresh, grown⟩
  case restarts =>
    intro encounter chosen expired door player found inside now write bossId later follows fresh
    exact Kept.restarts chosen expired kept door found inside later follows fresh
  case final => exact fun encounter chosen completed last run => kept.final chosen completed run

/-- The field activities of a session against the validator, in both directions.
The journal of every run is accepted and reports the phase the run is in; the
attempts of the run obey the law of their phases; and whatever the validator
accepts, written by a session or not, has the shape of such a journal. -/
theorem field_activities_agree (opened : Opened session)
    (run : Relation.ReflTransGen (Step capabilities) session last)
    (readResume : Payload → Encoded CampaignResumePayload) :
    (∃ replay, Reads applyEvent (initial none none) last.journal replay ∧ Shows last replay ∧
      validateFieldActivityEvents readResume last.journal = .ok replay.reported) ∧
    Lawful capabilities last ∧
    ∀ events objectives, validateFieldActivityEvents readResume events = .ok objectives →
      Accepted readResume events :=
  ⟨((kept_opened opened).run run).validates readResume, ((kept_opened opened).run run).lawful,
    fun _ _ => accepted_of_validate⟩

end Runs

/-! A run that lets one attempt expire and completes the next. -/

def everyCapability : FieldCapabilities := { contentCapable := true, explorationCapable := true }

def afterMove (session : FieldSession) (now : Nat) (position : Position) (write : Option Write) :
    FieldSession :=
  (FieldSession.movePlayerAt everyCapability (session.advance now) position none write none 9).getD
    clearedSession

def afterTick (session : FieldSession) (now : Nat) (write : Option Write) : FieldSession :=
  (FieldSession.tickCoolant (session.advance now) write).1

def expiredSession : FieldSession :=
  afterTick (afterMove clearedSession 10 Coolant.intake (some ⟨6, 12⟩)) 8012 (some ⟨7, 8015⟩)

def retriedSession : FieldSession :=
  afterMove (afterMove expiredSession 8020 Coolant.intake (some ⟨8, 8021⟩)) 8100 Coolant.transfer
    none

def deliveringSession : FieldSession :=
  afterMove (afterTick retriedSession 9300 (some ⟨9, 9301⟩)) 9400 Coolant.delivery none

def completedSession : FieldSession := afterTick deliveringSession 10600 (some ⟨10, 10601⟩)

theorem completed_reached :
    Relation.ReflTransGen (Step everyCapability) clearedSession completedSession := by
  have intake : Step everyCapability clearedSession
      (afterMove clearedSession 10 Coolant.intake (some ⟨6, 12⟩)) :=
    .move 10 Coolant.intake none (some ⟨6, 12⟩) none 9 (by decide) (by decide) (by decide) rfl
  have expire : Step everyCapability (afterMove clearedSession 10 Coolant.intake (some ⟨6, 12⟩))
      expiredSession := .tick 8012 (some ⟨7, 8015⟩) (by decide) rfl
  have retry : Step everyCapability expiredSession
      (afterMove expiredSession 8020 Coolant.intake (some ⟨8, 8021⟩)) :=
    .move 8020 Coolant.intake none (some ⟨8, 8021⟩) none 9 (by decide) (by decide) nofun rfl
  have transfer : Step everyCapability
      (afterMove expiredSession 8020 Coolant.intake (some ⟨8, 8021⟩)) retriedSession :=
    .move 8100 Coolant.transfer none none none 9 (by decide) (by decide) nofun rfl
  have transferred : Step everyCapability retriedSession
      (afterTick retriedSession 9300 (some ⟨9, 9301⟩)) :=
    .tick 9300 (some ⟨9, 9301⟩) (by decide) rfl
  have deliver : Step everyCapability (afterTick retriedSession 9300 (some ⟨9, 9301⟩))
      deliveringSession :=
    .move 9400 Coolant.delivery none none none 9 (by decide) (by decide) nofun rfl
  have complete : Step everyCapability deliveringSession completedSession :=
    .tick 10600 (some ⟨10, 10601⟩) (by decide) rfl
  exact ((((((Relation.ReflTransGen.single intake).tail expire).tail retry).tail transfer).tail
    transferred).tail deliver).tail complete

theorem field_activities_agree_completed :
    completedSession.journal.length = 10 ∧
    (∃ replay, Reads applyEvent (initial none none) completedSession.journal replay ∧
      Shows completedSession replay ∧ validateFieldActivityEvents (fun _ => ⟨none, 0⟩)
        completedSession.journal = .ok replay.reported) ∧
    Lawful everyCapability completedSession ∧
    Accepted (fun _ => ⟨none, 0⟩) completedSession.journal := by
  have agrees := field_activities_agree clearedSession_opened completed_reached
    (fun _ => ⟨none, 0⟩)
  obtain ⟨replay, -, -, validated⟩ := agrees.1
  exact ⟨rfl, agrees.1, agrees.2.1, agrees.2.2 _ _ validated⟩

end FieldActivity
end Agreement
end Revenant
